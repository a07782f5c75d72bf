import PiSSM.Inference.ShardTensors
import PiSSM.Lib.Grouping

/-!
The parameters of a shard's module and its two constructions: as a slice of a loaded
model, and straight from the tensors of the checkpoint, which are read file by file. A
tensor is any value; what the blocks compute with it plays no part here.
-/

namespace PiSSM.Inference

open PiSSM.Lib

variable {τ : Type}

/-- The parameters of a `MambaShardModule`. Each layer has its own, in the order of its
`state_dict`. -/
structure ShardParameters (τ : Type) where
  embeddings : Option τ
  layers : List (List (String × τ))
  normF : Option τ
  lmHead : Option τ
  isFirst : Bool
  isLast : Bool

/-- The parameters of the model `from_pretrained` returns. -/
structure ModelParameters (τ : Type) where
  embeddings : τ
  layers : List (List (String × τ))
  normF : τ
  lmHead : τ

/-- The parameters of a module list under their full names. -/
def layerParameters (layers : List (List (String × τ))) : List (String × τ) :=
  layers.zipIdx.flatMap fun entry =>
    entry.1.map fun parameter => (layerDest entry.2 parameter.1, parameter.2)

namespace ShardParameters

/-- The constructor; the parts a shard has no use for are left out. -/
def create (layers : List (List (String × τ))) (isFirst isLast : Bool)
    (embeddings normF lmHead : Option τ) : Except PyException (ShardParameters τ) :=
  if isFirst ∧ embeddings.isNone then
    .error (.valueError "embeddings required when is_first=True")
  else if isLast ∧ (normF.isNone ∨ lmHead.isNone) then
    .error (.valueError "norm_f and lm_head required when is_last=True")
  else
    .ok {
      embeddings := if isFirst then embeddings else none
      layers := layers
      normF := if isLast then normF else none
      lmHead := if isLast then lmHead else none
      isFirst := isFirst
      isLast := isLast }

/-- `state_dict()`. -/
def stateDict (shard : ShardParameters τ) : List (String × τ) :=
  (shard.embeddings.map fun value => ("embeddings.weight", value)).toList ++
    layerParameters shard.layers ++
    (shard.normF.map fun value => ("norm_f.weight", value)).toList ++
    (shard.lmHead.map fun value => ("lm_head.weight", value)).toList

/-- The module with the values a dictionary has for its parameters. -/
def assign (shard : ShardParameters τ) (values : Dict String τ) : ShardParameters τ :=
  let value (name : String) (old : τ) : τ := (values.get? name).getD old
  { shard with
    embeddings := shard.embeddings.map (value "embeddings.weight")
    layers := shard.layers.zipIdx.map fun entry =>
      entry.1.map fun parameter =>
        (parameter.1, value (layerDest entry.2 parameter.1) parameter.2)
    normF := shard.normF.map (value "norm_f.weight")
    lmHead := shard.lmHead.map (value "lm_head.weight") }

def fromModel (model : ModelParameters τ) (layerStart layerEnd : Nat)
    (isFirst isLast : Bool) : Except PyException (ShardParameters τ) :=
  let layers := (model.layers.drop layerStart).take (layerEnd - layerStart)
  let embeddings := if isFirst then some model.embeddings else none
  let normF := if isLast then some model.normF else none
  let lmHead := if isLast then some model.lmHead else none
  create layers isFirst isLast embeddings normF lmHead

end ShardParameters

/-- torch's strict `load_state_dict`, as far as the shards rely on it: it gives the
parameters of a module the values of a dictionary with the same names, and refuses any
other one. -/
structure StrictLoader (τ : Type) where
  loadStateDict : ShardParameters τ → Dict String τ → Except PyException (ShardParameters τ)
  loads : ∀ shard values,
    strictMismatch (shard.stateDict.map Prod.fst) values.keys = ([], []) →
      loadStateDict shard values = .ok (shard.assign values)
  refuses : ∀ shard values,
    strictMismatch (shard.stateDict.map Prod.fst) values.keys ≠ ([], []) →
      ∃ err, loadStateDict shard values = .error err

/-- An open safetensors file: its `get_tensor`. -/
abbrev SafetensorsFile (τ : Type) := String → Except PyException τ

/-- `locations_by_file`. -/
def locationsByFile (tensorLocations : List TensorLocationSpec) :
    Dict String (List TensorLocationSpec) :=
  Dict.groupBy TensorLocationSpec.sourceFile tensorLocations

/-- The tensors of one file go into the state dict. -/
def readLocations (file : SafetensorsFile τ) (stateDict : Dict String τ)
    (locations : List TensorLocationSpec) : Except PyException (Dict String τ) :=
  locations.foldlM
    (fun stateDict location => do
      let tensor ← file location.sourceName
      return stateDict.set location.destName tensor)
    stateDict

/-- The loop over the files, which keeps track of the files it fetches. -/
def readFiles (fetchSourceFile : String → Except PyException (SafetensorsFile τ))
    (groups : List (String × List TensorLocationSpec)) :
    Except PyException (Dict String τ × List String) :=
  groups.foldlM
    (fun state group => do
      let file ← fetchSourceFile group.1
      let stateDict ← readLocations file state.1 group.2
      return (stateDict, state.2 ++ [group.1]))
    (Dict.empty, [])

/-- `from_tensor_locations`, with the files it fetches. The parameters of the module it
builds have these values before they are loaded. -/
def fromTensorLocations (torch : StrictLoader τ) (fresh : String → τ)
    (blockParameters : List String) (layerStart layerEnd : Nat) (isFirst isLast : Bool)
    (fetchSourceFile : String → Except PyException (SafetensorsFile τ))
    (tensorLocations : List TensorLocationSpec) :
    Except PyException (ShardParameters τ × List String) := do
  let layers := (List.range (layerEnd - layerStart)).map fun localIdx =>
    blockParameters.map fun parameter => (parameter, fresh (layerDest localIdx parameter))
  let embeddings := if isFirst then some (fresh "embeddings.weight") else none
  let normF := if isLast then some (fresh "norm_f.weight") else none
  let lmHead := if isLast then some (fresh "lm_head.weight") else none
  let shard ← ShardParameters.create layers isFirst isLast embeddings normF lmHead
  let (stateDict, fetched) ← readFiles fetchSourceFile (locationsByFile tensorLocations).items
  let loaded ← torch.loadStateDict shard stateDict
  return (loaded, fetched)

/-- A checkpoint with its files, each of which has the tensors that the weight map says
are in it. -/
structure StoredCheckpoint (τ : Type) extends MambaCheckpoint where
  fetchSourceFile : String → Except PyException (SafetensorsFile τ)
  stored : ∀ name file, weightMap.get? name = some file →
    ∃ contents tensor, fetchSourceFile file = .ok contents ∧ contents name = .ok tensor

namespace StoredCheckpoint

/-- The tensor of this name, from the file it is in. -/
def readTensor (checkpoint : StoredCheckpoint τ) (name : String) : Except PyException τ := do
  let sourceFile ← getItem checkpoint.weightMap name
  let file ← checkpoint.fetchSourceFile sourceFile
  file name

/-- The parameters of layer `layerIdx`, each from the tensor of its name. -/
def readLayer (checkpoint : StoredCheckpoint τ) (layerIdx : Nat) :
    Except PyException (List (String × τ)) :=
  checkpoint.blockParameters.mapM fun parameter => do
    let tensor ← checkpoint.readTensor (layerName layerIdx parameter)
    return (parameter, tensor)

/-- The model has every tensor of the checkpoint under its name, and the embedding for its
head when the checkpoint has none of its own. -/
structure FullyLoaded (checkpoint : StoredCheckpoint τ) (model : ModelParameters τ) :
    Prop where
  embeddings : checkpoint.readTensor embeddingName = .ok model.embeddings
  layers : (List.range checkpoint.layers).mapM checkpoint.readLayer = .ok model.layers
  normF : checkpoint.readTensor normName = .ok model.normF
  lmHead : checkpoint.readTensor checkpoint.headSource = .ok model.lmHead

end StoredCheckpoint

/-- The loads of torch and transformers: `from_pretrained` returns the fully loaded model of
a checkpoint that has all of its tensors. -/
structure TensorLibrary (τ : Type) extends StrictLoader τ where
  fromPretrained : StoredCheckpoint τ → Except PyException (ModelParameters τ)
  pretrained : ∀ checkpoint, ∃ model, fromPretrained checkpoint = .ok model ∧
    checkpoint.FullyLoaded model

end PiSSM.Inference
