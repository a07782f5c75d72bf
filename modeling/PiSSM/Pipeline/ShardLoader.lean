import PiSSM.Orchestrator.ModelStore
import PiSSM.Pipeline.ShardWeights

/-!
What a worker builds for a `LoadShard`, from the request's tensor locations and
configuration text to the module and its size, and that it is the range of the whole
model which the request names when the checkpoint is what the manifest says.
-/

namespace PiSSM.Pipeline

open PiSSM.Lib PiSSM.Inference PiSSM.Orchestrator

/-- What the transformers library makes of a configuration: its text and the reading of
it, the parameters of a block, the values a module starts with, what the parts compute
and the size of a tensor. -/
structure MambaLibrary (γ ω τ σ : Type) extends TensorLibrary ω where
  toJsonString : γ → String
  fromJson : String → Except PyException γ
  blockParameters : γ → List String
  fresh : γ → String → ω
  parts : γ → MambaParts ω τ σ
  nbytes : ω → Nat

variable {γ ω τ σ : Type}

/-- `_weight_bytes_mb` of a shard. -/
def weightBytesMb (nbytes : ω → Nat) (shard : ShardParameters ω) : Nat :=
  (shard.stateDict.map fun parameter => nbytes parameter.2).sum / (1024 * 1024)

/-- `load_shard_from_metadata`: the module and its size. -/
def loadShardFromMetadata (hub : ModelHub ω) (library : MambaLibrary γ ω τ σ)
    (tensorLocations : List TensorLocationSpec) (modelConfigJson arch : String)
    (layerStart layerEnd : Nat) (isFirst isLast : Bool) (checkpoint : String) :
    Except PyException (MambaShardModule τ σ × Nat) :=
  if arch ∈ archToShardClass then do
    let config ← library.fromJson modelConfigJson
    let (loaded, _) ← fromTensorLocations library.toStrictLoader (library.fresh config)
      (library.blockParameters config) layerStart layerEnd isFirst isLast
      (openSourceFile hub checkpoint) tensorLocations
    let shard ← moduleOf (library.parts config) layerStart loaded
    return (shard, weightBytesMb library.nbytes loaded)
  else .error (unsupportedArch arch)

/-- The body of `_load_shard_background` before its lock: the flags come from the
range, and an exception is rendered. -/
def buildShard (hub : ModelHub ω) (library : MambaLibrary γ ω τ σ)
    (request : LoadShardRequest) : Except String (MambaShardModule τ σ × Nat) :=
  (loadShardFromMetadata hub library request.tensorLocations request.modelConfigJson
    request.arch request.layerStart request.layerEnd (request.layerStart = 0)
    (request.layerEnd = request.totalLayers) request.checkpoint).mapError PyException.str

/-- The hub has this checkpoint under the manifest's name for it, with as many layers as
the manifest says, and the library reads its configuration. -/
structure Hosts (hub : ModelHub ω) (library : MambaLibrary γ ω τ σ)
    (manifest : ModelManifest) (config : γ) (checkpoint : StoredCheckpoint ω) : Prop where
  metadata : readCheckpointMetadata hub manifest.checkpoint = .ok checkpoint.weightMap
  file : openSourceFile hub manifest.checkpoint = checkpoint.fetchSourceFile
  readable : library.fromJson (library.toJsonString config) = .ok config
  blockParameters : library.blockParameters config = checkpoint.blockParameters
  numHiddenLayers : (library.parts config).numHiddenLayers = checkpoint.layers
  layers : checkpoint.layers = manifest.layers
  arch : manifest.arch ∈ archToShardClass

/-- A request for a range of a hosted checkpoint, with the tensors the planner names for
it, builds that range of the whole model. -/
theorem buildShard_hosted {hub : ModelHub ω} {library : MambaLibrary γ ω τ σ}
    {manifest : ModelManifest} {config : γ} {checkpoint : StoredCheckpoint ω}
    (hhosts : Hosts hub library manifest config checkpoint) {model : ModelParameters ω}
    (hmodel : library.fromPretrained checkpoint = .ok model) {request : LoadShardRequest}
    (hcheckpoint : request.checkpoint = manifest.checkpoint)
    (harch : request.arch = manifest.arch)
    (hconfig : request.modelConfigJson = library.toJsonString config)
    (hend : request.layerEnd ≤ manifest.layers)
    (hlocations : tensorLocationsForRange checkpoint.weightMap request.layerStart
      request.layerEnd (request.layerStart = 0) (request.layerEnd = request.totalLayers) =
      .ok request.tensorLocations) :
    ∃ memoryMb, buildShard hub library request =
      .ok (.ofRange (modelOf (library.parts config) model) request.layerStart
        request.layerEnd (request.layerStart = 0)
        (request.layerEnd = request.totalLayers), memoryMb) := by
  rw [← hhosts.layers] at hend
  obtain ⟨locations, model', loaded, fetched, hnamed, hmodel', hloaded, hmodule⟩ :=
    loaded_computes_range library.toTensorLibrary (library.parts config) checkpoint
      (library.fresh config) hend (request.layerStart = 0) (request.layerEnd = request.totalLayers)
  obtain rfl : model = model' := Except.ok.inj (hmodel.symm.trans hmodel')
  obtain rfl : locations = request.tensorLocations :=
    Except.ok.inj (hnamed.symm.trans hlocations)
  refine ⟨weightBytesMb library.nbytes loaded, ?_⟩
  have hsupported : manifest.arch ∈ archToShardClass := hhosts.arch
  rw [buildShard, loadShardFromMetadata, harch, if_pos hsupported, hconfig, hhosts.readable,
    hcheckpoint, hhosts.file]
  change Except.mapError PyException.str (do
    let (loaded, _) ← fromTensorLocations _ _ (library.blockParameters config) _ _ _ _ _ _
    let shard ← moduleOf _ _ loaded
    return (shard, weightBytesMb library.nbytes loaded)) = _
  rw [hhosts.blockParameters, hloaded]
  change Except.mapError PyException.str (do
    let shard ← moduleOf _ _ loaded
    return (shard, weightBytesMb library.nbytes loaded)) = _
  rw [hmodule]
  rfl

end PiSSM.Pipeline
