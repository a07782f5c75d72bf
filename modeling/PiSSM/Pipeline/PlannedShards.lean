import PiSSM.Orchestrator.PipelineLoad

/-!
What `plan_dispatch` answers for a registry and a manifest. It refuses an empty
cluster and one with more nodes than layers; every other cluster gets a plan
whose shards cut the layer stack into one range per available node, are linked
to their successors, and carry the flags the workers compute again from the
ranges they are sent.
-/

namespace PiSSM.Pipeline

open PiSSM.Lib PiSSM.Inference PiSSM.Orchestrator

/-- A plan for these nodes. -/
structure PlansFor (manifest : ModelManifest) (nodes : List NodeInfo)
    (plan : DispatchPlan) : Prop where
  /-- One assignment for each node, in registry order. -/
  inOrder : plan.assignments.map (fun shard =>
      (shard.nodeId, shard.ipAddress, shard.inferencePort)) =
    nodes.map fun node => (node.nodeId, node.ipAddress, node.inferencePort)
  totalLayers : plan.totalLayers = manifest.layers
  /-- The ranges are non-empty and follow each other from 0 to the last layer. -/
  consecutive : Tiles 0 manifest.layers
    (plan.assignments.map fun shard => (shard.layerStart, shard.layerEnd))
  /-- Every layer is in exactly one range. -/
  partition : ∀ layer < manifest.layers, plan.assignments.countP (fun shard =>
    shard.layerStart ≤ layer ∧ layer < shard.layerEnd) = 1
  size : ∀ index shard, plan.assignments[index]? = some shard →
    index + 1 < plan.assignments.length →
      shard.layerEnd - shard.layerStart = manifest.layers / nodes.length
  flags : ∀ shard ∈ plan.assignments,
    (shard.isFirst = true ↔ shard.layerStart = 0) ∧
      (shard.isLast = true ↔ shard.layerEnd = plan.totalLayers)
  /-- The worker that builds the shard finds the same flags. -/
  recomputed : ∀ shard ∈ plan.assignments,
    ∀ (tensorLocations : List TensorLocationSpec) (configJson callbackAddress : String)
      (memoryMb : Nat),
      let built : ModelHandle Unit Unit := InferenceServicer.shardHandle
        (LoadRun.loadShardRequest plan shard tensorLocations configJson callbackAddress)
        () memoryMb
      built.isFirstShard = shard.isFirst ∧ built.isLastShard = shard.isLast
  linked : ∀ index shard next, plan.assignments[index]? = some shard →
    plan.assignments[index + 1]? = some next →
      shard.nextWorkerAddress = s!"{next.ipAddress}:{next.inferencePort}"
  closed : ∀ shard, plan.assignments.getLast? = some shard → shard.nextWorkerAddress = ""

/-- A plan and what it was made from. -/
theorem planDispatch_plansFor {manifest : ModelManifest} {registry : NodeRegistry}
    {plan : DispatchPlan} (hplan : planDispatch manifest registry = .ok plan) :
    PlansFor manifest (registry.listNodes (some .available)) plan := by
  have hpipeline := planDispatch_pipeline hplan
  obtain ⟨ranges, hsplit, rfl⟩ := planDispatch_ok hplan
  obtain ⟨hlength, htiles⟩ := splitLayers_tiles hsplit
  obtain ⟨hpos, hle, hranges⟩ := splitLayers_ok hsplit
  have hshards := assignShard_ranges (registry.listNodes (some .available)) []
    (registry.listNodes (some .available)) hlength.symm
  rw [List.length_nil] at hshards
  have hconsecutive := hshards.symm ▸ htiles
  refine ⟨?_, rfl, hconsecutive, ?_, ?_, ?_, ?_, fun index shard next => hpipeline.linked,
    fun shard => hpipeline.closed⟩
  · exact assignShard_map_node (fun shard => (shard.nodeId, shard.ipAddress,
      shard.inferencePort)) (fun node => (node.nodeId, node.ipAddress, node.inferencePort))
      (registry.listNodes (some .available)) [] _ hlength.symm fun _ _ _ => rfl
  · intro layer hlayer
    have hone := hconsecutive.countP_eq_one (Nat.zero_le layer) hlayer
    rw [List.countP_map] at hone
    exact hone
  · intro index shard hget hindex
    rw [List.length_map, List.length_zipIdx, List.length_zip, hlength, Nat.min_self] at hindex
    have hrange : ranges[index]? = some (shard.layerStart, shard.layerEnd) := by
      rw [← hshards, List.getElem?_map, hget]
      rfl
    rw [hranges, splitLoop_getElem? hindex] at hrange
    obtain ⟨hstart, hend⟩ := Prod.mk.inj (Option.some.inj hrange)
    rw [← hstart, ← hend, Nat.mul_succ, Nat.zero_add, Nat.zero_add, Nat.add_sub_cancel_left]
  · intro shard hmem
    obtain ⟨hfirst, hlast⟩ := hpipeline.flags hmem
    exact ⟨by rw [hfirst, decide_eq_true_iff], by rw [hlast, decide_eq_true_iff]⟩
  · intro shard hmem tensorLocations configJson callbackAddress memoryMb built
    obtain ⟨hfirst, hlast⟩ := hpipeline.flags hmem
    exact ⟨hfirst.symm, hlast.symm⟩

/-- With at least one node and no more nodes than layers there is a plan. -/
theorem planDispatch_planned {manifest : ModelManifest} {registry : NodeRegistry}
    (hsome : (registry.listNodes (some .available)).length ≠ 0)
    (hroom : (registry.listNodes (some .available)).length ≤ manifest.layers) :
    ∃ plan, planDispatch manifest registry = .ok plan := by
  unfold planDispatch
  dsimp only
  have hnonempty : (registry.listNodes (some .available)).isEmpty = false := by
    rw [List.isEmpty_eq_false_iff]
    exact List.ne_nil_of_length_pos (Nat.pos_of_ne_zero hsome)
  rw [hnonempty, splitLayers_of_le hsome hroom]
  exact ⟨_, rfl⟩

/-- Without nodes, or with too many, the answer is a `DispatchError`. -/
theorem planDispatch_refused {manifest : ModelManifest} {registry : NodeRegistry}
    (hrefused : (registry.listNodes (some .available)).length = 0 ∨
      manifest.layers < (registry.listNodes (some .available)).length) :
    ∃ message, planDispatch manifest registry = .error (.dispatchError message) := by
  unfold planDispatch
  dsimp only
  split
  · exact ⟨_, rfl⟩
  · next hnonempty =>
      rcases hrefused with hnone | hmany
      · rw [List.length_eq_zero_iff, ← List.isEmpty_iff] at hnone
        exact absurd hnone hnonempty
      · unfold splitLayers
        rw [if_pos hmany]
        exact ⟨_, rfl⟩

/-- `plan_dispatch` raises nothing but a `DispatchError`. -/
theorem planDispatch_error {manifest : ModelManifest} {registry : NodeRegistry}
    {err : PyException} (herror : planDispatch manifest registry = .error err) :
    ∃ message, err = .dispatchError message := by
  by_cases hrefused : (registry.listNodes (some .available)).length = 0 ∨
      manifest.layers < (registry.listNodes (some .available)).length
  · obtain ⟨message, hmessage⟩ := planDispatch_refused hrefused
    exact ⟨message, Except.error.inj (herror.symm.trans hmessage)⟩
  · rw [not_or, Nat.not_lt] at hrefused
    obtain ⟨plan, hplan⟩ := planDispatch_planned hrefused.1 hrefused.2
    rw [herror] at hplan
    cases hplan

/-- `plan_dispatch` refuses an empty cluster and one with more nodes than
layers, and plans for every other one. -/
theorem planDispatch_spec (manifest : ModelManifest) (registry : NodeRegistry) :
    let nodes := registry.listNodes (some .available)
    ((∃ message, planDispatch manifest registry = .error (.dispatchError message)) ↔
      nodes.length = 0 ∨ nodes.length > manifest.layers) ∧
    (¬ (nodes.length = 0 ∨ nodes.length > manifest.layers) →
      ∃ plan, planDispatch manifest registry = .ok plan ∧
        PlansFor manifest nodes plan) := by
  intro nodes
  have hplanned (hok : ¬ (nodes.length = 0 ∨ nodes.length > manifest.layers)) :
      ∃ plan, planDispatch manifest registry = .ok plan := by
    rw [not_or, Nat.not_lt] at hok
    exact planDispatch_planned hok.1 hok.2
  constructor
  · constructor
    · rintro ⟨message, hrefused⟩
      by_contra hok
      obtain ⟨plan, hplan⟩ := hplanned hok
      rw [hrefused] at hplan
      cases hplan
    · exact planDispatch_refused
  · intro hok
    obtain ⟨plan, hplan⟩ := hplanned hok
    exact ⟨plan, hplan, planDispatch_plansFor hplan⟩

end PiSSM.Pipeline
