import PiSSM.Inference.ShardParameters
import PiSSM.Pipeline.TensorPlan

/-!
The weights a worker loads. The tensors named for a layer range, fetched file by file,
give the shard the parameters that slicing the fully loaded model would: the names are
renumbered as the slice renumbers the layers, and the order in which the files are read
does not matter, because no two tensors of a shard have the same name in it.
-/

namespace PiSSM.Pipeline

open PiSSM.Lib PiSSM.Inference PiSSM.Inference.ShardParameters

variable {τ : Type}

/-- A shard of `size` blocks with these values. -/
def shardOf (blockParameters : List String) (size : Nat) (isFirst isLast : Bool)
    (embedding : τ) (layer : Nat → String → τ) (normF lmHead : τ) : ShardParameters τ where
  embeddings := if isFirst then some embedding else none
  layers := (List.range size).map fun localIdx =>
    blockParameters.map fun parameter => (parameter, layer localIdx parameter)
  normF := if isLast then some normF else none
  lmHead := if isLast then some lmHead else none
  isFirst := isFirst
  isLast := isLast

section Shards

variable {blockParameters : List String} {size : Nat} {isFirst isLast : Bool}
  {embedding normF lmHead : τ} {layer : Nat → String → τ}

theorem create_shardOf :
    create ((List.range size).map fun localIdx =>
        blockParameters.map fun parameter => (parameter, layer localIdx parameter))
      isFirst isLast (if isFirst then some embedding else none)
      (if isLast then some normF else none) (if isLast then some lmHead else none) =
    .ok (shardOf blockParameters size isFirst isLast embedding layer normF lmHead) := by
  cases isFirst <;> cases isLast <;> rfl

theorem zipIdx_map_range {α : Type*} (value : Nat → α) :
    ((List.range size).map value).zipIdx =
      (List.range size).map fun index => (value index, index) := by
  apply List.ext_getElem
  · simp
  · intro index _ _
    simp

theorem stateDict_shardOf :
    (shardOf blockParameters size isFirst isLast embedding layer normF lmHead).stateDict =
      (if isFirst then [("embeddings.weight", embedding)] else []) ++
        (List.range size).flatMap (fun localIdx => blockParameters.map fun parameter =>
          (layerDest localIdx parameter, layer localIdx parameter)) ++
        (if isLast then [("norm_f.weight", normF), ("lm_head.weight", lmHead)] else []) := by
  have hlayers : layerParameters ((List.range size).map fun localIdx =>
      blockParameters.map fun parameter => (parameter, layer localIdx parameter)) =
      (List.range size).flatMap fun localIdx => blockParameters.map fun parameter =>
        (layerDest localIdx parameter, layer localIdx parameter) := by
    unfold layerParameters
    rw [zipIdx_map_range, List.flatMap_map]
    simp only [List.map_map]
    rfl
  simp only [stateDict, shardOf, hlayers]
  cases isFirst <;> cases isLast <;> simp

/-- The parameters of the module are those a worker computes for the range. -/
theorem stateDict_shardOf_names {layerStart layerEnd : Nat} (hsize : size = layerEnd - layerStart) :
    (shardOf blockParameters size isFirst isLast embedding layer normF lmHead).stateDict.map
        Prod.fst = parameterNames blockParameters layerStart layerEnd isFirst isLast := by
  subst hsize
  rw [stateDict_shardOf, parameterNames, List.map_append, List.map_append, List.map_flatMap]
  congr 1
  · congr 1
    · cases isFirst <;> rfl
    · simp only [List.map_map]
      rfl
  · cases isLast <;> rfl

/-- Assigning values for all of the parameters leaves nothing of what was there. -/
theorem assign_shardOf {values : Dict String τ} {embedding' normF' lmHead' : τ}
    {layer' : Nat → String → τ}
    (hembedding : isFirst = true → values.get? "embeddings.weight" = some embedding')
    (hlayer : ∀ localIdx < size, ∀ parameter ∈ blockParameters,
      values.get? (layerDest localIdx parameter) = some (layer' localIdx parameter))
    (hnormF : isLast = true → values.get? "norm_f.weight" = some normF')
    (hlmHead : isLast = true → values.get? "lm_head.weight" = some lmHead') :
    (shardOf blockParameters size isFirst isLast embedding layer normF lmHead).assign values =
      shardOf blockParameters size isFirst isLast embedding' layer' normF' lmHead' := by
  have hlayers : ((List.range size).map fun localIdx => blockParameters.map fun parameter =>
        (parameter, layer localIdx parameter)).zipIdx.map (fun entry =>
          entry.1.map fun parameter => (parameter.1,
            (values.get? (layerDest entry.2 parameter.1)).getD parameter.2)) =
      (List.range size).map fun localIdx => blockParameters.map fun parameter =>
        (parameter, layer' localIdx parameter) := by
    rw [zipIdx_map_range, List.map_map]
    apply List.map_congr_left
    intro localIdx hlocal
    simp only [Function.comp_apply, List.map_map]
    apply List.map_congr_left
    intro parameter hparameter
    simp only [Function.comp_apply, hlayer localIdx (List.mem_range.mp hlocal) parameter
      hparameter, Option.getD_some]
  simp only [assign, shardOf, hlayers]
  cases isFirst <;> cases isLast <;> simp [hembedding, hnormF, hlmHead]

end Shards

section Files

variable {fetchSourceFile : String → Except PyException (SafetensorsFile τ)}
  {locations : List TensorLocationSpec} {value : TensorLocationSpec → τ}

/-- The loop over the groups, when every read succeeds. -/
theorem readFiles_ok {groups : List (String × List TensorLocationSpec)}
    (hread : ∀ group ∈ groups, ∃ file, fetchSourceFile group.1 = .ok file ∧
      ∀ location ∈ group.2, file location.sourceName = .ok (value location)) :
    readFiles fetchSourceFile groups =
      .ok ((groups.flatMap Prod.snd).foldl (fun stateDict location =>
          stateDict.set location.destName (value location)) Dict.empty,
        groups.map Prod.fst) := by
  have hloop : readFiles fetchSourceFile groups = .ok (groups.foldl (fun state group =>
      (group.2.foldl (fun stateDict location =>
        stateDict.set location.destName (value location)) state.1, state.2 ++ [group.1]))
      (Dict.empty, [])) := by
    apply foldlM_ok
    intro state group hgroup
    obtain ⟨file, hfetch, hfile⟩ := hread group hgroup
    have hlocations : readLocations file state.1 group.2 =
        .ok (group.2.foldl (fun stateDict location =>
          stateDict.set location.destName (value location)) state.1) := by
      apply foldlM_ok
      intro stateDict location hlocation
      rw [hfile location hlocation]
      rfl
    simp only [hfetch, hlocations, bind, Except.bind, pure, Except.pure]
  rw [hloop, foldl_groups, List.nil_append]

/-- The loop over the files, when every tensor is where its location says. -/
theorem readFiles_locations
    (hread : ∀ location ∈ locations, ∃ file, fetchSourceFile location.sourceFile = .ok file ∧
      file location.sourceName = .ok (value location)) :
    readFiles fetchSourceFile (locationsByFile locations).items =
      .ok (((locationsByFile locations).items.flatMap Prod.snd).foldl
          (fun stateDict location => stateDict.set location.destName (value location)) Dict.empty,
        (locationsByFile locations).keys) := by
  apply readFiles_ok
  rintro ⟨sourceFile, group⟩ hgroup
  obtain ⟨hmem, rfl⟩ := Dict.mem_groupBy_items.mp hgroup
  obtain ⟨first, hfirst, rfl⟩ := List.mem_map.mp hmem
  obtain ⟨file, hfile, _⟩ := hread first hfirst
  refine ⟨file, hfile, fun location hlocation => ?_⟩
  obtain ⟨hlocation, hsame⟩ := List.mem_filter.mp hlocation
  obtain ⟨other, hother, hvalue⟩ := hread location hlocation
  rw [of_decide_eq_true hsame, hfile] at hother
  obtain rfl := Except.ok.inj hother
  exact hvalue

/-- What the worker has read when no two of the tensors have the same name in the shard. -/
theorem readFiles_values
    (hnodup : (locations.map TensorLocationSpec.destName).Nodup)
    (hread : ∀ location ∈ locations, ∃ file, fetchSourceFile location.sourceFile = .ok file ∧
      file location.sourceName = .ok (value location)) :
    ∃ stateDict, readFiles fetchSourceFile (locationsByFile locations).items =
        .ok (stateDict, (locationsByFile locations).keys) ∧
      (∀ name, name ∈ stateDict.keys ↔ name ∈ locations.map TensorLocationSpec.destName) ∧
      ∀ location ∈ locations, stateDict.get? location.destName = some (value location) := by
  have hmem (location : TensorLocationSpec) :
      location ∈ (locationsByFile locations).items.flatMap Prod.snd ↔ location ∈ locations :=
    Dict.mem_flatMap_groupBy
  refine ⟨_, readFiles_locations hread, fun name => ?_, fun location hlocation => ?_⟩
  · rw [← Dict.isSome_get?_iff, Dict.isSome_foldl_set, List.mem_map, List.mem_map]
    simp [hmem]
  · apply Dict.get?_foldl_set
    · intro other hother hsame
      rw [List.inj_on_of_nodup_map hnodup ((hmem other).mp hother) hlocation hsame]
    · exact .inl (List.mem_map_of_mem ((hmem location).mpr hlocation))

end Files

/-- A worker that has read a value for each parameter of its module, and nothing else,
has loaded these values. -/
theorem fromTensorLocations_ok (torch : StrictLoader τ) (fresh : String → τ)
    {blockParameters : List String} {layerStart layerEnd : Nat} {isFirst isLast : Bool}
    {stateDict : Dict String τ}
    {fetched : List String} {embedding normF lmHead : τ} {layer : Nat → String → τ}
    (hread : readFiles fetchSourceFile (locationsByFile locations).items =
      .ok (stateDict, fetched))
    (hkeys : ∀ name, name ∈ stateDict.keys ↔
      name ∈ parameterNames blockParameters layerStart layerEnd isFirst isLast)
    (hembedding : isFirst = true → stateDict.get? "embeddings.weight" = some embedding)
    (hlayer : ∀ localIdx < layerEnd - layerStart, ∀ parameter ∈ blockParameters,
      stateDict.get? (layerDest localIdx parameter) = some (layer localIdx parameter))
    (hnormF : isLast = true → stateDict.get? "norm_f.weight" = some normF)
    (hlmHead : isLast = true → stateDict.get? "lm_head.weight" = some lmHead) :
    fromTensorLocations torch fresh blockParameters layerStart layerEnd isFirst isLast
        fetchSourceFile locations =
      .ok (shardOf blockParameters (layerEnd - layerStart) isFirst isLast embedding layer
        normF lmHead, fetched) := by
  have hload : torch.loadStateDict (shardOf blockParameters (layerEnd - layerStart) isFirst
      isLast (fresh "embeddings.weight")
      (fun localIdx parameter => fresh (layerDest localIdx parameter))
      (fresh "norm_f.weight") (fresh "lm_head.weight")) stateDict =
      .ok (shardOf blockParameters (layerEnd - layerStart) isFirst isLast embedding layer
        normF lmHead) := by
    rw [torch.loads, assign_shardOf hembedding hlayer hnormF hlmHead]
    rw [stateDict_shardOf_names rfl]
    exact strictMismatch_eq_nil hkeys
  rw [fromTensorLocations, create_shardOf]
  simp only [hread, hload, bind, Except.bind, pure, Except.pure]

/-- The parameters of a module have different names. -/
theorem parameterNames_nodup {blockParameters : List String} (hnodup : blockParameters.Nodup)
    (layerStart layerEnd : Nat) (isFirst isLast : Bool) :
    (parameterNames blockParameters layerStart layerEnd isFirst isLast).Nodup := by
  have hlayers : ((List.range (layerEnd - layerStart)).flatMap fun localIdx =>
      blockParameters.map (layerDest localIdx)).Nodup := by
    rw [List.nodup_flatMap]
    constructor
    · intro localIdx _
      exact hnodup.map fun _ _ heq => (layerDest_inj heq).2
    · refine List.nodup_range.imp ?_
      intro left right hne dest hleft hright
      obtain ⟨_, _, rfl⟩ := List.mem_map.mp hleft
      obtain ⟨_, _, heq⟩ := List.mem_map.mp hright
      exact hne (layerDest_inj heq).1.symm
  have hother {name : String} (hname : name.toList.take 7 ≠ "layers.".toList) :
      name ∉ (List.range (layerEnd - layerStart)).flatMap fun localIdx =>
        blockParameters.map (layerDest localIdx) := by
    intro hmem
    obtain ⟨localIdx, _, hlayer⟩ := List.mem_flatMap.mp hmem
    obtain ⟨parameter, _, heq⟩ := List.mem_map.mp hlayer
    exact layerDest_ne localIdx parameter hname heq
  have hembedding := @hother "embeddings.weight" (by decide)
  have hnorm := @hother "norm_f.weight" (by decide)
  have hhead := @hother "lm_head.weight" (by decide)
  rw [parameterNames]
  generalize ((List.range (layerEnd - layerStart)).flatMap fun localIdx =>
    blockParameters.map (layerDest localIdx)) = names at hlayers hembedding hnorm hhead ⊢
  cases isFirst <;> cases isLast <;> grind

section Checkpoint

variable (checkpoint : StoredCheckpoint τ)

/-- The tensors of a checkpoint. -/
theorem exists_tensors : ∃ tensor : String → τ, ∀ name file,
    checkpoint.weightMap.get? name = some file → ∃ contents,
      checkpoint.fetchSourceFile file = .ok contents ∧ contents name = .ok (tensor name) := by
  have hembedding := (checkpoint.names embeddingName).mpr (.inl rfl)
  obtain ⟨file, hfile⟩ := Option.isSome_iff_exists.mp hembedding
  obtain ⟨_, default, _⟩ := checkpoint.stored _ _ hfile
  have hsome (name : String) : ∃ tensor : τ, ∀ file,
      checkpoint.weightMap.get? name = some file → ∃ contents,
        checkpoint.fetchSourceFile file = .ok contents ∧ contents name = .ok tensor := by
    cases hget : checkpoint.weightMap.get? name with
    | none => exact ⟨default, fun file hother => by cases hother⟩
    | some file =>
        obtain ⟨contents, tensor, hfetch, hcontents⟩ := checkpoint.stored name file hget
        refine ⟨tensor, fun other hother => ?_⟩
        obtain rfl := Option.some.inj hother
        exact ⟨contents, hfetch, hcontents⟩
  choose tensor htensor using hsome
  exact ⟨tensor, htensor⟩

variable {checkpoint} {tensor : String → τ}

theorem readTensor_ok
    (htensor : ∀ name file, checkpoint.weightMap.get? name = some file → ∃ contents,
      checkpoint.fetchSourceFile file = .ok contents ∧ contents name = .ok (tensor name))
    {name : String} (hname : (checkpoint.weightMap.get? name).isSome) :
    checkpoint.readTensor name = .ok (tensor name) := by
  obtain ⟨file, hget, hfile⟩ := getItem_of_isSome hname
  obtain ⟨contents, hfetch, hcontents⟩ := htensor name file hfile
  simp only [StoredCheckpoint.readTensor, hget, hfetch, hcontents, bind, Except.bind]

/-- The model that has these tensors. -/
def modelWith (checkpoint : StoredCheckpoint τ) (tensor : String → τ) : ModelParameters τ where
  embeddings := tensor embeddingName
  layers := (List.range checkpoint.layers).map fun layerIdx =>
    checkpoint.blockParameters.map fun parameter =>
      (parameter, tensor (layerName layerIdx parameter))
  normF := tensor normName
  lmHead := tensor checkpoint.headSource

theorem fullyLoaded_modelWith
    (htensor : ∀ name file, checkpoint.weightMap.get? name = some file → ∃ contents,
      checkpoint.fetchSourceFile file = .ok contents ∧ contents name = .ok (tensor name)) :
    checkpoint.FullyLoaded (modelWith checkpoint tensor) where
  embeddings := readTensor_ok htensor ((checkpoint.names embeddingName).mpr (.inl rfl))
  layers := by
    apply mapM_ok
    intro layerIdx hlayer
    apply mapM_ok
    intro parameter hparameter
    have hname := (checkpoint.names (layerName layerIdx parameter)).mpr (.inr (.inr (.inr
      ⟨layerIdx, List.mem_range.mp hlayer, parameter, hparameter, rfl⟩)))
    rw [readTensor_ok htensor hname]
    rfl
  normF := readTensor_ok htensor ((checkpoint.names normName).mpr (.inr (.inl rfl)))
  lmHead := readTensor_ok htensor checkpoint.headSource_isSome

/-- A checkpoint has one fully loaded model. -/
theorem fullyLoaded_unique {model model' : ModelParameters τ}
    (hloaded : checkpoint.FullyLoaded model) (hloaded' : checkpoint.FullyLoaded model') :
    model = model' := by
  have hembeddings := hloaded.embeddings.symm.trans hloaded'.embeddings
  have hlayers := hloaded.layers.symm.trans hloaded'.layers
  have hnorm := hloaded.normF.symm.trans hloaded'.normF
  have hhead := hloaded.lmHead.symm.trans hloaded'.lmHead
  cases model
  cases model'
  rw [ModelParameters.mk.injEq]
  exact ⟨Except.ok.inj hembeddings, Except.ok.inj hlayers, Except.ok.inj hnorm,
    Except.ok.inj hhead⟩

theorem fromPretrained_ok (library : TensorLibrary τ)
    (htensor : ∀ name file, checkpoint.weightMap.get? name = some file → ∃ contents,
      checkpoint.fetchSourceFile file = .ok contents ∧ contents name = .ok (tensor name)) :
    library.fromPretrained checkpoint = .ok (modelWith checkpoint tensor) := by
  obtain ⟨model, hmodel, hloaded⟩ := library.pretrained checkpoint
  rw [hmodel, fullyLoaded_unique hloaded (fullyLoaded_modelWith htensor)]

/-- The slice of a loaded model. -/
theorem fromModel_ok {layers : Nat} {embedding normF lmHead : τ} {layer : Nat → String → τ}
    {blockParameters : List String} {layerStart layerEnd : Nat} (hend : layerEnd ≤ layers)
    (isFirst isLast : Bool) :
    fromModel {
        embeddings := embedding
        layers := (List.range layers).map fun layerIdx =>
          blockParameters.map fun parameter => (parameter, layer layerIdx parameter)
        normF := normF
        lmHead := lmHead } layerStart layerEnd isFirst isLast =
      .ok (shardOf blockParameters (layerEnd - layerStart) isFirst isLast embedding
        (fun localIdx parameter => layer (layerStart + localIdx) parameter) normF lmHead) := by
  have hslice : (((List.range layers).map fun layerIdx =>
      blockParameters.map fun parameter => (parameter, layer layerIdx parameter)).drop
        layerStart).take (layerEnd - layerStart) =
      (List.range (layerEnd - layerStart)).map fun localIdx =>
        blockParameters.map fun parameter =>
          (parameter, layer (layerStart + localIdx) parameter) := by
    apply List.ext_getElem
    · simp
      omega
    · intro index _ _
      simp
  simp only [fromModel, hslice]
  exact create_shardOf

/-- The tensors of the checkpoint that a shard has parameters for. -/
def ownTensors (checkpoint : MambaCheckpoint) (layerStart layerEnd : Nat)
    (isFirst isLast : Bool) : List String :=
  (if isFirst then [embeddingName] else []) ++
    (List.range (layerEnd - layerStart)).flatMap (fun localIdx =>
      checkpoint.blockParameters.map (layerName (layerStart + localIdx))) ++
    if isLast then [normName, checkpoint.headSource] else []

/-- The tensor of this name is for this parameter of the shard. -/
def IsFor (checkpoint : MambaCheckpoint) (layerStart layerEnd : Nat) (isFirst isLast : Bool)
    (destName sourceName : String) : Prop :=
  (isFirst = true ∧ destName = "embeddings.weight" ∧ sourceName = embeddingName) ∨
  (∃ localIdx < layerEnd - layerStart, ∃ parameter ∈ checkpoint.blockParameters,
    destName = layerDest localIdx parameter ∧
      sourceName = layerName (layerStart + localIdx) parameter) ∨
  (isLast = true ∧ ((destName = "norm_f.weight" ∧ sourceName = normName) ∨
    (destName = "lm_head.weight" ∧ sourceName = checkpoint.headSource)))

/-- A shard is sent the locations of its own tensors, and no others. -/
theorem mem_locations_iff (checkpoint : MambaCheckpoint) {layerStart layerEnd : Nat}
    (hend : layerEnd ≤ checkpoint.layers) {isFirst isLast : Bool}
    {locations : List TensorLocationSpec}
    (hok : tensorLocationsForRange checkpoint.weightMap layerStart layerEnd isFirst isLast =
      .ok locations) (location : TensorLocationSpec) :
    location ∈ locations ↔
      IsFor checkpoint layerStart layerEnd isFirst isLast location.destName location.sourceName ∧
        checkpoint.weightMap.get? location.sourceName = some location.sourceFile := by
  obtain ⟨embeddingFile, normFile, headFile, hembedding, hnorm, hhead, hall⟩ :=
    checkpoint.tensorLocationsForRange_ok layerStart layerEnd isFirst isLast
  obtain rfl := Except.ok.inj (hall.symm.trans hok)
  obtain ⟨destName, sourceName, sourceFile⟩ := location
  unfold IsFor
  rw [List.mem_append, List.mem_append, or_assoc, or_and_right, or_and_right]
  refine or_congr ?_ (or_congr ?_ ?_)
  · cases isFirst with
    | false => simp
    | true =>
        simp only [if_pos, List.mem_singleton, TensorLocationSpec.mk.injEq, true_and]
        constructor
        · rintro ⟨rfl, rfl, rfl⟩
          exact ⟨⟨rfl, rfl⟩, hembedding⟩
        · rintro ⟨⟨rfl, rfl⟩, hfile⟩
          exact ⟨rfl, rfl, Option.some.inj (hfile.symm.trans hembedding)⟩
  · rw [checkpoint.mem_layerLocations]
    constructor
    · rintro ⟨layerIdx, parameter, hparameter, file, _, hstart, hlt, hfile, heq⟩
      obtain ⟨rfl, rfl, rfl⟩ := TensorLocationSpec.mk.inj heq
      refine ⟨⟨layerIdx - layerStart, by omega, parameter, hparameter, rfl, ?_⟩, hfile⟩
      rw [Nat.add_sub_cancel' hstart]
    · rintro ⟨⟨localIdx, hlocal, parameter, hparameter, rfl, rfl⟩, hfile⟩
      refine ⟨layerStart + localIdx, parameter, hparameter, sourceFile, by omega, by omega,
        by omega, hfile, ?_⟩
      rw [Nat.add_sub_cancel_left]
  · cases isLast with
    | false => simp
    | true =>
        simp only [if_pos, List.mem_pair, TensorLocationSpec.mk.injEq, true_and]
        constructor
        · rintro (⟨rfl, rfl, rfl⟩ | ⟨rfl, rfl, rfl⟩)
          · exact ⟨.inl ⟨rfl, rfl⟩, hnorm⟩
          · exact ⟨.inr ⟨rfl, rfl⟩, hhead⟩
        · rintro ⟨⟨rfl, rfl⟩ | ⟨rfl, rfl⟩, hfile⟩
          · exact .inl ⟨rfl, rfl, Option.some.inj (hfile.symm.trans hnorm)⟩
          · exact .inr ⟨rfl, rfl, Option.some.inj (hfile.symm.trans hhead)⟩

/-- Every tensor that is for a parameter is in the checkpoint. -/
theorem IsFor.stored {checkpoint : MambaCheckpoint} {layerStart layerEnd : Nat}
    {isFirst isLast : Bool} {destName sourceName : String}
    (hfor : IsFor checkpoint layerStart layerEnd isFirst isLast destName sourceName)
    (hend : layerEnd ≤ checkpoint.layers) :
    ∃ file, checkpoint.weightMap.get? sourceName = some file := by
  apply Option.isSome_iff_exists.mp
  rcases hfor with ⟨_, _, rfl⟩ | ⟨localIdx, hlocal, parameter, hparameter, _, rfl⟩ |
    ⟨_, ⟨_, rfl⟩ | ⟨_, rfl⟩⟩
  · exact (checkpoint.names _).mpr (.inl rfl)
  · exact (checkpoint.names _).mpr (.inr (.inr (.inr
      ⟨layerStart + localIdx, by omega, parameter, hparameter, rfl⟩)))
  · exact (checkpoint.names _).mpr (.inr (.inl rfl))
  · exact checkpoint.headSource_isSome

theorem mem_ownTensors {checkpoint : MambaCheckpoint} {layerStart layerEnd : Nat}
    {isFirst isLast : Bool} {name : String} :
    name ∈ ownTensors checkpoint layerStart layerEnd isFirst isLast ↔
      ∃ destName, IsFor checkpoint layerStart layerEnd isFirst isLast destName name := by
  unfold ownTensors IsFor
  rw [List.mem_append, List.mem_append, List.mem_flatMap, or_assoc, exists_or, exists_or]
  refine or_congr ?_ (or_congr ?_ ?_)
  · cases isFirst <;> simp
  · constructor
    · rintro ⟨localIdx, hlocal, hname⟩
      obtain ⟨parameter, hparameter, rfl⟩ := List.mem_map.mp hname
      exact ⟨_, localIdx, List.mem_range.mp hlocal, parameter, hparameter, rfl, rfl⟩
    · rintro ⟨_, localIdx, hlocal, parameter, hparameter, _, rfl⟩
      exact ⟨localIdx, List.mem_range.mpr hlocal, List.mem_map_of_mem hparameter⟩
  · cases isLast <;> simp [exists_or]

/-- What the worker loads for a range. -/
theorem fromTensorLocations_stored (torch : StrictLoader τ) (fresh : String → τ)
    (htensor : ∀ name file, checkpoint.weightMap.get? name = some file → ∃ contents,
      checkpoint.fetchSourceFile file = .ok contents ∧ contents name = .ok (tensor name))
    {layerStart layerEnd : Nat} (hend : layerEnd ≤ checkpoint.layers)
    {isFirst isLast : Bool} {locations : List TensorLocationSpec}
    (hok : tensorLocationsForRange checkpoint.weightMap layerStart layerEnd isFirst isLast =
      .ok locations) :
    fromTensorLocations torch fresh checkpoint.blockParameters layerStart layerEnd isFirst
        isLast checkpoint.fetchSourceFile locations =
      .ok (shardOf checkpoint.blockParameters (layerEnd - layerStart) isFirst isLast
        (tensor embeddingName)
        (fun localIdx parameter => tensor (layerName (layerStart + localIdx) parameter))
        (tensor normName) (tensor checkpoint.headSource),
        (locationsByFile locations).keys) := by
  obtain ⟨_, hok', hnodup, hnames⟩ := tensorLocations_names
    checkpoint.toMambaCheckpoint layerStart hend isFirst isLast
  obtain rfl := Except.ok.inj (hok.symm.trans hok')
  have hmem := mem_locations_iff checkpoint.toMambaCheckpoint hend hok
  obtain ⟨stateDict, hread, hkeys, hvalues⟩ := readFiles_values hnodup
    fun location hlocation => htensor _ _ ((hmem location).mp hlocation).2
  have hvalue {destName sourceName : String}
      (hfor : IsFor checkpoint.toMambaCheckpoint layerStart layerEnd isFirst isLast destName
        sourceName) : stateDict.get? destName = some (tensor sourceName) := by
    obtain ⟨file, hfile⟩ := hfor.stored hend
    exact hvalues ⟨destName, sourceName, file⟩ ((hmem _).mpr ⟨hfor, hfile⟩)
  apply fromTensorLocations_ok torch fresh hread
  · intro name
    rw [hkeys, hnames]
  · exact fun hfirst => hvalue (.inl ⟨hfirst, rfl, rfl⟩)
  · exact fun localIdx hlocal parameter hparameter =>
      hvalue (.inr (.inl ⟨localIdx, hlocal, parameter, hparameter, rfl, rfl⟩))
  · exact fun hlast => hvalue (.inr (.inr ⟨hlast, .inl ⟨rfl, rfl⟩⟩))
  · exact fun hlast => hvalue (.inr (.inr ⟨hlast, .inr ⟨rfl, rfl⟩⟩))

/-- The files fetched for a range are those of its own tensors. -/
theorem mem_fetched_iff {layerStart layerEnd : Nat} (hend : layerEnd ≤ checkpoint.layers)
    {isFirst isLast : Bool} {locations : List TensorLocationSpec}
    (hok : tensorLocationsForRange checkpoint.weightMap layerStart layerEnd isFirst isLast =
      .ok locations) (file : String) :
    file ∈ (locationsByFile locations).keys ↔
      ∃ name ∈ ownTensors checkpoint.toMambaCheckpoint layerStart layerEnd isFirst isLast,
        checkpoint.weightMap.get? name = some file := by
  have hmem := mem_locations_iff checkpoint.toMambaCheckpoint hend hok
  rw [locationsByFile, Dict.mem_keys_groupBy, List.mem_map]
  constructor
  · rintro ⟨location, hlocation, rfl⟩
    obtain ⟨hfor, hfile⟩ := (hmem location).mp hlocation
    exact ⟨location.sourceName, mem_ownTensors.mpr ⟨_, hfor⟩, hfile⟩
  · rintro ⟨name, hname, hfile⟩
    obtain ⟨destName, hfor⟩ := mem_ownTensors.mp hname
    exact ⟨⟨destName, name, file⟩, (hmem _).mpr ⟨hfor, hfile⟩, rfl⟩

end Checkpoint

/-- For every layer range and flags: the worker's module, loaded from the tensors the
planner names, has the state dict of the slice of the fully loaded model, and the files
fetched for it are those its own tensors are in, each once. -/
theorem from_tensor_locations_eq_from_model (library : TensorLibrary τ)
    (checkpoint : StoredCheckpoint τ) (fresh : String → τ) {layerStart layerEnd : Nat}
    (hend : layerEnd ≤ checkpoint.layers) (isFirst isLast : Bool) :
    ∃ locations model loaded sliced fetched,
      tensorLocationsForRange checkpoint.weightMap layerStart layerEnd isFirst isLast =
        .ok locations ∧
      library.fromPretrained checkpoint = .ok model ∧
      fromTensorLocations library.toStrictLoader fresh checkpoint.blockParameters layerStart
        layerEnd isFirst isLast checkpoint.fetchSourceFile locations = .ok (loaded, fetched) ∧
      fromModel model layerStart layerEnd isFirst isLast = .ok sliced ∧
      loaded.stateDict = sliced.stateDict ∧ (loaded.stateDict.map Prod.fst).Nodup ∧
      fetched.Nodup ∧ ∀ file, file ∈ fetched ↔
        ∃ name ∈ ownTensors checkpoint.toMambaCheckpoint layerStart layerEnd isFirst isLast,
          checkpoint.weightMap.get? name = some file := by
  obtain ⟨tensor, htensor⟩ := exists_tensors checkpoint
  obtain ⟨locations, hok, _⟩ := tensorLocations_names checkpoint.toMambaCheckpoint layerStart
    hend isFirst isLast
  refine ⟨locations, _, _, _, _, hok, fromPretrained_ok library htensor,
    fromTensorLocations_stored library.toStrictLoader fresh htensor hend hok,
    fromModel_ok hend isFirst isLast, rfl, ?_,
    (locationsByFile locations).nodupKeys, mem_fetched_iff hend hok⟩
  rw [stateDict_shardOf_names rfl]
  exact parameterNames_nodup checkpoint.blockParameters_nodup _ _ _ _

/-- The five layers in two files, each tensor standing for itself. -/
def fiveLayerFiles : StoredCheckpoint String where
  toMambaCheckpoint := fiveLayerCheckpoint
  fetchSourceFile file := .ok fun name =>
    if fiveLayerCheckpoint.weightMap.get? name = some file then .ok name
    else .error (.keyError name)
  stored name _ hfile := ⟨_, name, rfl, if_pos hfile⟩

/-- The text of the error a strict `load_state_dict` raises. -/
def stateDictError (missing unexpected : List String) : String :=
  let keys (kind : String) (names : List String) : List String :=
    if names = [] then []
    else [s!"{kind} key(s) in state_dict: " ++
      ", ".intercalate (names.map fun name => "\"" ++ name ++ "\"") ++ ". "]
  "Error(s) in loading state_dict for MambaShardModule:\n\t" ++
    "\n\t".intercalate (keys "Missing" missing ++ keys "Unexpected" unexpected)

/-- The load by names, with its error. -/
def strictLoader : StrictLoader τ where
  loadStateDict shard values :=
    let mismatch := strictMismatch (shard.stateDict.map Prod.fst) values.keys
    if mismatch = ([], []) then .ok (shard.assign values)
    else .error (.runtimeError (stateDictError mismatch.1 mismatch.2))
  loads _ _ hsame := if_pos hsame
  refuses _ _ hother := ⟨_, if_neg hother⟩

/-- The loads of a library that reads the model tensor by tensor. -/
def tensorLibrary : TensorLibrary τ where
  toStrictLoader := strictLoader
  fromPretrained checkpoint := do
    let embeddings ← checkpoint.readTensor embeddingName
    let layers ← (List.range checkpoint.layers).mapM checkpoint.readLayer
    let normF ← checkpoint.readTensor normName
    let lmHead ← checkpoint.readTensor checkpoint.headSource
    return { embeddings, layers, normF, lmHead }
  pretrained checkpoint := by
    obtain ⟨tensor, htensor⟩ := exists_tensors checkpoint
    have hloaded := fullyLoaded_modelWith htensor
    refine ⟨_, ?_, hloaded⟩
    rw [hloaded.embeddings, hloaded.layers, hloaded.normF, hloaded.lmHead]
    rfl

/-- The second half of the layers, with a tied head. -/
theorem from_tensor_locations_eq_from_model_tail :
    ∃ locations model loaded sliced fetched,
      tensorLocationsForRange fiveLayerCheckpoint.weightMap 2 5 false true = .ok locations ∧
      tensorLibrary.fromPretrained fiveLayerFiles = .ok model ∧
      fromTensorLocations strictLoader id ["norm.weight", "mixer.A_log"] 2 5 false true
        fiveLayerFiles.fetchSourceFile locations = .ok (loaded, fetched) ∧
      fromModel model 2 5 false true = .ok sliced ∧
      loaded.stateDict = sliced.stateDict ∧ (loaded.stateDict.map Prod.fst).Nodup ∧
      fetched.Nodup ∧ ∀ file, file ∈ fetched ↔
        ∃ name ∈ ownTensors fiveLayerCheckpoint 2 5 false true,
          fiveLayerCheckpoint.weightMap.get? name = some file :=
  from_tensor_locations_eq_from_model tensorLibrary fiveLayerFiles id (by decide) false true

section Modules

variable {ω τ σ : Type}

/-- What the parts of a model compute with their parameters. -/
structure MambaParts (ω τ σ : Type) where
  numHiddenLayers : Nat
  embedding : ω → τ → τ
  block : List (String × ω) → Option σ → τ → τ × σ
  norm : ω → τ → τ
  head : ω → τ → τ

/-- The model with these parameters. -/
def modelOf (parts : MambaParts ω τ σ) (model : ModelParameters ω) : MambaForCausalLM τ σ where
  numHiddenLayers := parts.numHiddenLayers
  embeddings := parts.embedding model.embeddings
  layer layerIdx := parts.block (model.layers.getD layerIdx [])
  normF := parts.norm model.normF
  lmHead := parts.head model.lmHead

/-- The module with these parameters, whose blocks keep their global indices. -/
def moduleOf (parts : MambaParts ω τ σ) (layerStart : Nat) (shard : ShardParameters ω) :
    Except PyException (MambaShardModule τ σ) :=
  MambaShardModule.create
    (shard.layers.zipIdx.map fun entry => ⟨layerStart + entry.2, parts.block entry.1⟩)
    shard.isFirst shard.isLast (shard.embeddings.map parts.embedding)
    (shard.normF.map parts.norm) (shard.lmHead.map parts.head) parts.numHiddenLayers

/-- The module a worker loads computes with the layers of the model that its range
names. -/
theorem loaded_computes_range (library : TensorLibrary ω) (parts : MambaParts ω τ σ)
    (checkpoint : StoredCheckpoint ω) (fresh : String → ω) {layerStart layerEnd : Nat}
    (hend : layerEnd ≤ checkpoint.layers) (isFirst isLast : Bool) :
    ∃ locations model loaded fetched,
      tensorLocationsForRange checkpoint.weightMap layerStart layerEnd isFirst isLast =
        .ok locations ∧
      library.fromPretrained checkpoint = .ok model ∧
      fromTensorLocations library.toStrictLoader fresh checkpoint.blockParameters layerStart
        layerEnd isFirst isLast checkpoint.fetchSourceFile locations = .ok (loaded, fetched) ∧
      moduleOf parts layerStart loaded =
        .ok (.ofRange (modelOf parts model) layerStart layerEnd isFirst isLast) := by
  obtain ⟨tensor, htensor⟩ := exists_tensors checkpoint
  obtain ⟨locations, hok, _⟩ := tensorLocations_names checkpoint.toMambaCheckpoint layerStart
    hend isFirst isLast
  refine ⟨locations, _, _, _, hok, fromPretrained_ok library htensor,
    fromTensorLocations_stored library.toStrictLoader fresh htensor hend hok, ?_⟩
  have hblocks : ((List.range (layerEnd - layerStart)).map fun localIdx =>
      checkpoint.blockParameters.map fun parameter =>
        (parameter, tensor (layerName (layerStart + localIdx) parameter))).zipIdx.map
        (fun entry => (⟨layerStart + entry.2, parts.block entry.1⟩ : MambaBlock τ σ)) =
      (List.range' layerStart (layerEnd - layerStart)).map fun layerIdx =>
        ⟨layerIdx, parts.block (((List.range checkpoint.layers).map fun layerIdx =>
          checkpoint.blockParameters.map fun parameter =>
            (parameter, tensor (layerName layerIdx parameter))).getD layerIdx [])⟩ := by
    rw [zipIdx_map_range, List.range'_eq_map_range, List.map_map, List.map_map]
    apply List.map_congr_left
    intro localIdx hlocal
    have hlayer : layerStart + localIdx < checkpoint.layers := by
      rw [List.mem_range] at hlocal
      omega
    simp [hlayer]
  unfold moduleOf shardOf
  rw [hblocks]
  cases isFirst <;> cases isLast <;> rfl

end Modules

end PiSSM.Pipeline
