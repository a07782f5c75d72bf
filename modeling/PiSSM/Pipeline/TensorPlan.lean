import PiSSM.Inference.ShardTensors
import PiSSM.Orchestrator.Dispatch

/-!
The tensors sent for a plan. Planner and worker derive a shard independently:
the planner from the weight map and the flags of the plan, the worker from the
layer range and the flags it recomputes from it. They agree on the parameter
names of every shard, and the plan as a whole sends every layer tensor once.
-/

namespace PiSSM.Pipeline

open PiSSM.Lib PiSSM.Inference PiSSM.Orchestrator

/-- The locations the orchestrator sends for an assignment. -/
def shardLocations (weightMap : Dict String String) (shard : ShardAssignment) :
    Except PyException (List TensorLocationSpec) :=
  tensorLocationsForRange weightMap shard.layerStart shard.layerEnd shard.isFirst shard.isLast

/-- The parameter names of the module the worker builds for an assignment. -/
def workerParameterNames (blockParameters : List String) (totalLayers : Nat)
    (shard : ShardAssignment) : List String :=
  parameterNames blockParameters shard.layerStart shard.layerEnd (shard.layerStart = 0)
    (shard.layerEnd = totalLayers)

/-- The assignment is sent the tensor `sourceName`. -/
def sendsTensor (weightMap : Dict String String) (sourceName : String)
    (shard : ShardAssignment) : Bool :=
  match shardLocations weightMap shard with
  | .ok locations => locations.any fun location => location.sourceName = sourceName
  | .error _ => false

theorem mem_parameterNames {blockParameters : List String} {layerStart layerEnd : Nat}
    {isFirst isLast : Bool} {name : String} :
    name ∈ parameterNames blockParameters layerStart layerEnd isFirst isLast ↔
      (isFirst = true ∧ name = "embeddings.weight") ∨
      (∃ localIdx < layerEnd - layerStart, ∃ parameter ∈ blockParameters,
        name = layerDest localIdx parameter) ∨
      (isLast = true ∧ (name = "norm_f.weight" ∨ name = "lm_head.weight")) := by
  rw [parameterNames, List.mem_append, List.mem_append, List.mem_flatMap, or_assoc]
  refine or_congr ?_ (or_congr ?_ ?_)
  · cases isFirst <;> simp
  · constructor
    · rintro ⟨localIdx, hlocal, hname⟩
      obtain ⟨parameter, hparameter, rfl⟩ := List.mem_map.mp hname
      exact ⟨localIdx, List.mem_range.mp hlocal, parameter, hparameter, rfl⟩
    · rintro ⟨localIdx, hlocal, parameter, hparameter, rfl⟩
      exact ⟨localIdx, List.mem_range.mpr hlocal, List.mem_map_of_mem hparameter⟩
  · cases isLast <;> simp

theorem strictMismatch_eq_nil {parameters keys : List String}
    (hsame : ∀ name, name ∈ keys ↔ name ∈ parameters) :
    strictMismatch parameters keys = ([], []) := by
  rw [strictMismatch, List.filter_eq_nil_iff.mpr, List.filter_eq_nil_iff.mpr]
  · intro name hname
    simp [(hsame name).mp hname]
  · intro name hname
    simp [(hsame name).mpr hname]

section Checkpoint

variable (checkpoint : MambaCheckpoint)

/-- For one shard: what is sent has pairwise distinct names, which are those of
a module built with the same range and flags. -/
theorem tensorLocations_names (layerStart : Nat) {layerEnd : Nat}
    (hend : layerEnd ≤ checkpoint.layers) (isFirst isLast : Bool) :
    ∃ locations,
      tensorLocationsForRange checkpoint.weightMap layerStart layerEnd isFirst isLast =
        .ok locations ∧
      (locations.map TensorLocationSpec.destName).Nodup ∧
      ∀ name, name ∈ locations.map TensorLocationSpec.destName ↔
        name ∈ parameterNames checkpoint.blockParameters layerStart layerEnd isFirst isLast := by
  obtain ⟨embeddingFile, normFile, headFile, _, _, _, hok⟩ :=
    checkpoint.tensorLocationsForRange_ok layerStart layerEnd isFirst isLast
  refine ⟨_, hok, ?_, ?_⟩
  · -- The names of the ends are fixed and unlike those of the layers.
    have hlayer (dest : String) (hdest : dest ∈
        (checkpoint.layerLocations layerStart layerEnd).map TensorLocationSpec.destName) :
        dest ≠ "embeddings.weight" ∧ dest ≠ "norm_f.weight" ∧ dest ≠ "lm_head.weight" := by
      obtain ⟨localIdx, _, parameter, _, rfl⟩ := (checkpoint.mem_layerDests hend dest).mp hdest
      exact ⟨layerDest_ne _ _ (by decide), layerDest_ne _ _ (by decide),
        layerDest_ne _ _ (by decide)⟩
    have hnodup := checkpoint.layerDests_nodup layerStart layerEnd
    rw [List.map_append, List.map_append, List.nodup_append, List.nodup_append]
    refine ⟨⟨?_, hnodup, ?_⟩, ?_, ?_⟩
    · cases isFirst <;> simp
    · intro first hfirst dest hdest heq
      subst heq
      cases isFirst with
      | false => simp at hfirst
      | true => exact (hlayer first hdest).1 (by simpa using hfirst)
    · cases isLast <;> simp
    · intro dest hdest last hlast heq
      subst heq
      have hends : dest = "norm_f.weight" ∨ dest = "lm_head.weight" := by
        cases isLast with
        | false => simp at hlast
        | true => simpa using hlast
      rcases List.mem_append.mp hdest with hfirst | hdest
      · have hname : dest = "embeddings.weight" := by
          cases isFirst with
          | false => simp at hfirst
          | true => simpa using hfirst
        subst hname
        rcases hends with hends | hends <;> simp at hends
      · rcases hends with hends | hends
        · exact (hlayer dest hdest).2.1 hends
        · exact (hlayer dest hdest).2.2 hends
  · intro name
    rw [List.map_append, List.map_append, List.mem_append, List.mem_append,
      checkpoint.mem_layerDests hend, mem_parameterNames, or_assoc]
    refine or_congr ?_ (or_congr Iff.rfl ?_)
    · cases isFirst <;> simp
    · cases isLast <;> simp

/-- Whatever is sent is read from the file the weight map names. -/
theorem tensorLocations_sourceFile {layerStart layerEnd : Nat} {isFirst isLast : Bool}
    {locations : List TensorLocationSpec}
    (hok : tensorLocationsForRange checkpoint.weightMap layerStart layerEnd isFirst isLast =
      .ok locations) {location : TensorLocationSpec} (hmem : location ∈ locations) :
    checkpoint.weightMap.get? location.sourceName = some location.sourceFile := by
  obtain ⟨embeddingFile, normFile, headFile, hembedding, hnorm, hhead, hall⟩ :=
    checkpoint.tensorLocationsForRange_ok layerStart layerEnd isFirst isLast
  obtain rfl := Except.ok.inj (hall.symm.trans hok)
  rw [List.mem_append, List.mem_append] at hmem
  rcases hmem with (hfirst | hlayer) | hlast
  · cases isFirst with
    | false => simp at hfirst
    | true =>
        obtain rfl := List.mem_singleton.mp hfirst
        exact hembedding
  · obtain ⟨layerIdx, parameter, _, file, _, _, _, hfile, rfl⟩ :=
      checkpoint.mem_layerLocations.mp hlayer
    exact hfile
  · cases isLast with
    | false => simp at hlast
    | true =>
        rcases List.mem_pair.mp hlast with rfl | rfl
        · exact hnorm
        · exact hhead

/-- A layer tensor is sent to a shard exactly when its layer is in the range. -/
theorem sendsTensor_layerName {layerIdx : Nat} {parameter : String}
    (hlayer : layerIdx < checkpoint.layers)
    (hparameter : parameter ∈ checkpoint.blockParameters) (shard : ShardAssignment) :
    sendsTensor checkpoint.weightMap (layerName layerIdx parameter) shard =
      decide (shard.layerStart ≤ layerIdx ∧ layerIdx < shard.layerEnd) := by
  have hmatch := matchLayerName_layerName layerIdx
    (checkpoint.blockParameters_name parameter hparameter)
  have hother {name : String} (hname : matchLayerName name = none) :
      name ≠ layerName layerIdx parameter := by
    rintro rfl
    rw [hmatch] at hname
    cases hname
  have hheadSource : checkpoint.headSource ≠ layerName layerIdx parameter := by
    rw [MambaCheckpoint.headSource]
    split
    · exact hother matchLayerName_lmHeadName
    · exact hother matchLayerName_embeddingName
  obtain ⟨embeddingFile, normFile, headFile, _, _, _, hall⟩ :=
    checkpoint.tensorLocationsForRange_ok shard.layerStart shard.layerEnd shard.isFirst
      shard.isLast
  rw [sendsTensor, shardLocations, hall, Bool.eq_iff_iff]
  simp only [List.any_eq_true, decide_eq_true_eq, List.mem_append]
  constructor
  · rintro ⟨location, (hfirst | hmem) | hlast, hsource⟩
    · cases hflag : shard.isFirst with
      | false => simp [hflag] at hfirst
      | true =>
          rw [hflag, if_pos rfl] at hfirst
          obtain rfl := List.mem_singleton.mp hfirst
          exact absurd hsource (hother matchLayerName_embeddingName)
    · obtain ⟨idx, suffix, hsuffix, file, _, hstart, hend, _, rfl⟩ :=
        checkpoint.mem_layerLocations.mp hmem
      have hsame : some (idx, suffix) = some (layerIdx, parameter) := by
        rw [← hmatch, ← hsource,
          matchLayerName_layerName idx (checkpoint.blockParameters_name suffix hsuffix)]
      obtain ⟨rfl, _⟩ := Prod.mk.inj (Option.some.inj hsame)
      exact ⟨hstart, hend⟩
    · cases hflag : shard.isLast with
      | false => simp [hflag] at hlast
      | true =>
          rw [hflag, if_pos rfl] at hlast
          rcases List.mem_pair.mp hlast with rfl | rfl
          · exact absurd hsource (hother matchLayerName_normName)
          · exact absurd hsource hheadSource
  · rintro ⟨hstart, hend⟩
    have hname : (checkpoint.weightMap.get? (layerName layerIdx parameter)).isSome :=
      (checkpoint.names _).mpr (.inr (.inr (.inr
        ⟨layerIdx, hlayer, parameter, hparameter, rfl⟩)))
    obtain ⟨file, hfile⟩ := Option.isSome_iff_exists.mp hname
    exact ⟨_, .inl (.inr (checkpoint.mem_layerLocations.mpr
      ⟨layerIdx, parameter, hparameter, file, hlayer, hstart, hend, hfile, rfl⟩)), rfl⟩

end Checkpoint

/-- For every plan over a checkpoint's layers: the names sent to a worker are
pairwise distinct and load strictly into the module it builds by itself, and
every layer tensor goes to exactly one worker, from its own file. -/
theorem planDispatch_tensors {manifest : ModelManifest} {registry : NodeRegistry}
    {plan : DispatchPlan} (hplan : planDispatch manifest registry = .ok plan)
    (checkpoint : MambaCheckpoint) (hlayers : plan.totalLayers = checkpoint.layers) :
    (∀ shard ∈ plan.assignments, ∃ locations,
      shardLocations checkpoint.weightMap shard = .ok locations ∧
      (locations.map TensorLocationSpec.destName).Nodup ∧
      (∀ name, name ∈ locations.map TensorLocationSpec.destName ↔
        name ∈ workerParameterNames checkpoint.blockParameters plan.totalLayers shard) ∧
      strictMismatch
          (workerParameterNames checkpoint.blockParameters plan.totalLayers shard)
          (locations.map TensorLocationSpec.destName) = ([], []) ∧
      ∀ location ∈ locations,
        checkpoint.weightMap.get? location.sourceName = some location.sourceFile) ∧
    ∀ layerIdx < checkpoint.layers, ∀ parameter ∈ checkpoint.blockParameters,
      plan.assignments.countP
        (sendsTensor checkpoint.weightMap (layerName layerIdx parameter)) = 1 := by
  have hpipeline := planDispatch_pipeline hplan
  constructor
  · intro shard hshard
    obtain ⟨hfirst, hlast⟩ := hpipeline.flags hshard
    have hend : shard.layerEnd ≤ checkpoint.layers := by
      rw [← hlayers]
      exact hpipeline.layerEnd_le hshard
    obtain ⟨locations, hok, hnodup, hnames⟩ := tensorLocations_names checkpoint
      shard.layerStart hend shard.isFirst shard.isLast
    rw [hfirst, hlast] at hnames
    exact ⟨locations, hok, hnodup, hnames, strictMismatch_eq_nil hnames,
      fun _ hmem => tensorLocations_sourceFile checkpoint hok hmem⟩
  · intro layerIdx hlayer parameter hparameter
    have hcount := hpipeline.tiles.countP_eq_one (Nat.zero_le layerIdx) (hlayers ▸ hlayer)
    rw [List.countP_map] at hcount
    rw [← hcount]
    refine List.countP_congr fun shard _ => ?_
    rw [sendsTensor_layerName checkpoint hlayer hparameter]
    rfl

/-- Five layers in two files, with a tied head. -/
def fiveLayerCheckpoint : MambaCheckpoint where
  weightMap := {
    items := [(embeddingName, "model-1.safetensors"), (normName, "model-2.safetensors")] ++
      (List.range 5).flatMap fun layerIdx =>
        ["norm.weight", "mixer.A_log"].map fun parameter =>
          (layerName layerIdx parameter,
            if layerIdx < 3 then "model-1.safetensors" else "model-2.safetensors")
    nodupKeys := by decide }
  layers := 5
  blockParameters := ["norm.weight", "mixer.A_log"]
  hasLmHead := false
  blockParameters_nodup := by decide
  blockParameters_name := by decide
  names name := by
    rw [Dict.isSome_get?_iff, Dict.keys, List.map_append, List.mem_append, List.map_flatMap,
      List.mem_flatMap]
    simp [or_assoc]

theorem planDispatch_tensors_two :
    (∀ shard ∈ twoNodePlan.assignments, ∃ locations,
      shardLocations fiveLayerCheckpoint.weightMap shard = .ok locations ∧
      (locations.map TensorLocationSpec.destName).Nodup ∧
      (∀ name, name ∈ locations.map TensorLocationSpec.destName ↔
        name ∈ workerParameterNames ["norm.weight", "mixer.A_log"] 5 shard) ∧
      strictMismatch (workerParameterNames ["norm.weight", "mixer.A_log"] 5 shard)
          (locations.map TensorLocationSpec.destName) = ([], []) ∧
      ∀ location ∈ locations,
        fiveLayerCheckpoint.weightMap.get? location.sourceName =
          some location.sourceFile) ∧
    ∀ layerIdx < 5, ∀ parameter ∈ ["norm.weight", "mixer.A_log"],
      twoNodePlan.assignments.countP
        (sendsTensor fiveLayerCheckpoint.weightMap (layerName layerIdx parameter)) = 1 :=
  planDispatch_tensors twoNodePlan_planned fiveLayerCheckpoint rfl

end PiSSM.Pipeline
