import PiSSM.Lib.Chains
import PiSSM.Lib.TransitionSystem
import PiSSM.Orchestrator.Dispatch
import PiSSM.Orchestrator.NodeLiveness

/-!
The registry tells nodes apart by their ids, and the workers of a pipeline dial each
other's addresses. A plan sends its shards to as many workers as it has assignments
exactly when the available nodes are at different addresses, which a registry keeps up
as long as no node sends a heartbeat from the address of another available one.
-/

namespace PiSSM.Pipeline

open PiSSM.Lib PiSSM.Inference PiSSM.Orchestrator

/-- Every worker a plan assigns shards to holds one of them. -/
def HoldsOne (plan : DispatchPlan) (held : String → Option ShardAssignment) : Prop :=
  ∀ shard ∈ plan.assignments, ∃ found ∈ plan.assignments,
    held shard.address = some found ∧ found.address = shard.address

/-- The worker that the one at this address forwards to. -/
def nextWorker (held : String → Option ShardAssignment) (address : String) : Option String :=
  (held address).bind fun shard =>
    if shard.nextWorkerAddress = "" then none else some shard.nextWorkerAddress

/-- The shards of a plan go to different workers. -/
structure DistinctWorkers (plan : DispatchPlan) : Prop where
  addresses : (plan.assignments.map ShardAssignment.address).Nodup
  not_own : ∀ shard ∈ plan.assignments, shard.nextWorkerAddress ≠ shard.address
  /-- The chain that starts at the first worker passes as many workers as there are
  assignments, whichever of its shards each worker has kept. -/
  visited : ∀ held, HoldsOne plan held → ∀ first, plan.assignments.head? = some first →
    ∀ fuel, plan.assignments.length ≤ fuel →
      (follow (nextWorker held) fuel first.address).Nodup ∧
        (follow (nextWorker held) fuel first.address).length = plan.assignments.length

/-- At different addresses there is only one shard that a worker can hold. -/
theorem HoldsOne.eq {plan : DispatchPlan} {held : String → Option ShardAssignment}
    (hheld : HoldsOne plan held)
    (hnodup : (plan.assignments.map ShardAssignment.address).Nodup) {shard : ShardAssignment}
    (hmem : shard ∈ plan.assignments) : held shard.address = some shard := by
  obtain ⟨found, hfound, hget, haddress⟩ := hheld shard hmem
  obtain rfl : found = shard := List.inj_on_of_nodup_map hnodup hfound hmem haddress
  exact hget

/-- A pipeline is followed from its first worker to its last. -/
theorem IsPipeline.follow_eq {totalLayers start : Nat} {first : ShardAssignment}
    {rest : List ShardAssignment} {held : String → Option ShardAssignment} {fuel : Nat}
    (hpipeline : IsPipeline totalLayers start (first :: rest))
    (hheld : ∀ shard ∈ first :: rest, held shard.address = some shard)
    (hfuel : rest.length ≤ fuel) :
    follow (nextWorker held) fuel first.address =
      (first :: rest).map ShardAssignment.address := by
  rw [List.map_cons]
  apply Lib.follow_eq
  · rw [List.length_map]
    exact hfuel
  · rw [← List.map_cons, List.isChain_map, List.isChain_iff_getElem]
    intro index hindex
    have hlink := hpipeline.linked (List.getElem?_eq_getElem (Nat.lt_of_succ_lt hindex))
      (List.getElem?_eq_getElem hindex)
    unfold nextWorker
    rw [hheld _ (List.getElem_mem _), Option.bind_some, hlink,
      if_neg (ShardAssignment.address_ne_empty _)]
  · have hclosed := hpipeline.closed (List.getLast?_eq_getLast_of_ne_nil (List.cons_ne_nil _ _))
    simp only [← List.map_cons, List.getLast_map]
    unfold nextWorker
    rw [hheld _ (List.getLast_mem _), Option.bind_some, hclosed, if_pos rfl]

/-- A plan reaches different workers exactly when its nodes are at different
addresses. -/
theorem distinctWorkers_iff {manifest : ModelManifest} {registry : NodeRegistry}
    {plan : DispatchPlan} (hplan : planDispatch manifest registry = .ok plan) :
    DistinctWorkers plan ↔
      ((registry.listNodes (some .available)).map nodeAddress).Nodup := by
  have hpipeline := planDispatch_pipeline hplan
  have haddresses : plan.assignments.map ShardAssignment.address =
      (registry.listNodes (some .available)).map nodeAddress := by
    obtain ⟨ranges, hsplit, rfl⟩ := planDispatch_ok hplan
    exact assignShard_map_node ShardAssignment.address nodeAddress
      (registry.listNodes (some .available)) [] _ (splitLayers_tiles hsplit).1.symm
      fun _ _ _ => rfl
  rw [← haddresses]
  constructor
  · exact DistinctWorkers.addresses
  · intro hnodup
    refine ⟨hnodup, ?_, ?_⟩
    · intro shard hmem hown
      obtain ⟨index, hindex, rfl⟩ := List.getElem_of_mem hmem
      by_cases hlast : index + 1 < plan.assignments.length
      · have hlink := hpipeline.linked (List.getElem?_eq_getElem hindex)
          (List.getElem?_eq_getElem hlast)
        rw [hown] at hlink
        have heq := List.inj_on_of_nodup_map hnodup hmem (List.getElem_mem hlast) hlink
        have hindices := (List.Nodup.of_map _ hnodup).getElem_inj_iff.mp heq
        omega
      · have hfinal : plan.assignments.getLast? = some plan.assignments[index] := by
          rw [List.getLast?_eq_getElem?, List.getElem?_eq_getElem (by omega)]
          congr 2
          omega
        have hclosed := hpipeline.closed hfinal
        rw [hown] at hclosed
        exact ShardAssignment.address_ne_empty _ hclosed
    · intro held hheld first hhead fuel hfuel
      obtain ⟨rest, hrest⟩ : ∃ rest, plan.assignments = first :: rest :=
        List.head?_eq_some_iff.mp hhead
      have hfollow : follow (nextWorker held) fuel first.address =
          plan.assignments.map ShardAssignment.address := by
        rw [hrest] at hpipeline hfuel ⊢
        apply IsPipeline.follow_eq hpipeline
        · intro shard hmem
          exact hheld.eq hnodup (hrest ▸ hmem)
        · exact Nat.le_of_succ_le hfuel
      rw [hfollow, List.length_map]
      exact ⟨hnodup, rfl⟩

/-- The registry as its heartbeats and reaps change it. -/
def registrySystem : TransitionSystem NodeRegistry RegistryCall where
  init registry := ∃ floats heartbeatIntervalS missedThreshold,
    registry = NodeRegistry.create floats heartbeatIntervalS missedThreshold
  step registry call := some (registry.apply call).1

/-- No other available node is at the address a heartbeat comes from. -/
def FreshAddress (registry : NodeRegistry) : RegistryCall → Prop
  | .updateNode _ request =>
      ∀ node ∈ registry.listNodes (some .available), node.nodeId ≠ request.nodeId →
        nodeAddress node ≠ s!"{request.ipAddress}:{request.inferencePort}"
  | .reapStaleNodes _ => True

theorem mem_available_iff {registry : NodeRegistry} {node : NodeInfo} :
    node ∈ registry.listNodes (some .available) ↔
      registry.getNode node.nodeId = some node ∧ node.status = .available := by
  unfold NodeRegistry.listNodes NodeRegistry.getNode
  rw [List.mem_filter, decide_eq_true_iff, ← Dict.mem_items_iff]
  refine and_congr_left fun _ => ?_
  unfold Dict.values
  rw [List.mem_map]
  constructor
  · rintro ⟨⟨key, value⟩, hmem, rfl⟩
    obtain rfl : value.nodeId = key := registry.keyed _ hmem
    exact hmem
  · intro hmem
    exact ⟨_, hmem, rfl⟩

theorem nodup_addresses_iff (registry : NodeRegistry) :
    ((registry.listNodes (some .available)).map nodeAddress).Nodup ↔
      ∀ left ∈ registry.listNodes (some .available),
        ∀ right ∈ registry.listNodes (some .available),
          nodeAddress left = nodeAddress right → left.nodeId = right.nodeId := by
  have hids := registry.listNodes_nodeId_nodup (some .available)
  rw [List.nodup_map_iff_inj_on (List.Nodup.of_map _ hids)]
  constructor
  · intro hinj left hleft right hright heq
    rw [hinj left hleft right hright heq]
  · intro hinj left hleft right hright heq
    exact List.inj_on_of_nodup_map hids hleft hright (hinj left hleft right hright heq)

/-- A node that a heartbeat leaves available is the one it describes, or was there. -/
theorem available_updateNode {registry : NodeRegistry} {now : ℚ} {request : HeartbeatRequest}
    {node : NodeInfo}
    (hmem : node ∈ (registry.updateNode now request).listNodes (some .available)) :
    node = registry.heartbeatInfo now request ∨
      (node ∈ registry.listNodes (some .available) ∧ node.nodeId ≠ request.nodeId) := by
  obtain ⟨hget, hstatus⟩ := mem_available_iff.mp hmem
  unfold NodeRegistry.getNode NodeRegistry.updateNode at hget
  dsimp only at hget
  rw [Dict.get?_set] at hget
  split at hget
  · exact .inl (Option.some.inj hget).symm
  · next hother => exact .inr ⟨mem_available_iff.mpr ⟨hget, hstatus⟩, hother⟩

/-- A reap makes no node available. -/
theorem available_reapStaleNodes {registry : NodeRegistry} {now : ℚ} {node : NodeInfo}
    (hmem : node ∈ (registry.reapStaleNodes now).1.listNodes (some .available)) :
    node ∈ registry.listNodes (some .available) := by
  obtain ⟨hget, hstatus⟩ := mem_available_iff.mp hmem
  have hmap : (registry.reapStaleNodes now).1.getNode node.nodeId =
      (registry.getNode node.nodeId).map (registry.reapNode now) :=
    lookup_mapValues _ _ _
  rw [hmap] at hget
  obtain ⟨old, hold, heq⟩ := Option.map_eq_some_iff.mp hget
  unfold NodeRegistry.reapNode at heq
  split at heq
  · rw [← heq] at hstatus
    cases hstatus
  · subst heq
    exact mem_available_iff.mpr ⟨hold, hstatus⟩

/-- What one call does to the addresses. -/
theorem nodup_addresses_step {registry next : NodeRegistry} {call : RegistryCall}
    (hfresh : FreshAddress registry call)
    (hstep : registrySystem.step registry call = some next)
    (hnodup : ((registry.listNodes (some .available)).map nodeAddress).Nodup) :
    ((next.listNodes (some .available)).map nodeAddress).Nodup := by
  obtain rfl : (registry.apply call).1 = next := Option.some.inj hstep
  rw [nodup_addresses_iff] at hnodup ⊢
  intro left hleft right hright heq
  cases call with
  | updateNode now request =>
      rcases available_updateNode hleft with rfl | ⟨hleft, hother⟩ <;>
        rcases available_updateNode hright with rfl | ⟨hright, hother'⟩
      · rfl
      · exact absurd heq.symm (hfresh right hright hother')
      · exact absurd heq (hfresh left hleft hother)
      · exact hnodup left hleft right hright heq
  | reapStaleNodes now =>
      exact hnodup left (available_reapStaleNodes hleft) right
        (available_reapStaleNodes hright) heq

theorem nodup_addresses_run {registry : NodeRegistry}
    (hreach : registrySystem.ReachableVia FreshAddress registry) :
    ((registry.listNodes (some .available)).map nodeAddress).Nodup := by
  apply hreach.invariant
  · rintro _ ⟨floats, heartbeatIntervalS, missedThreshold, rfl⟩
    exact List.nodup_nil
  · intro registry call next _ hnodup hfresh hstep
    exact nodup_addresses_step hfresh hstep hnodup

/-- A plan's shards go to different workers exactly when the nodes it was made for are
at different addresses, and in every run whose heartbeats come from addresses of no
other available node they are. -/
theorem distinct_workers (registry : NodeRegistry) :
    (∀ manifest plan, planDispatch manifest registry = .ok plan →
      (DistinctWorkers plan ↔
        ((registry.listNodes (some .available)).map nodeAddress).Nodup)) ∧
    (registrySystem.ReachableVia FreshAddress registry →
      ∀ manifest plan, planDispatch manifest registry = .ok plan → DistinctWorkers plan) := by
  constructor
  · intro manifest plan hplan
    exact distinctWorkers_iff hplan
  · intro hreach manifest plan hplan
    exact (distinctWorkers_iff hplan).mpr (nodup_addresses_run hreach)

/-- Two nodes have each sent a heartbeat, the second from this address. -/
theorem registryOf_reachable {ok : NodeRegistry → RegistryCall → Prop} {second : String}
    (hfirst : ∀ request, ok (NodeRegistry.create .exact 2 3) (.updateNode 0 request))
    (hsecond : ok (registryOf [("a", "10.0.0.1", 50051)])
      (.updateNode 0 ⟨"b", second, 2048, 4096, 4, "aarch64", "Linux", "6.6", 50051⟩)) :
    registrySystem.ReachableVia ok
      (registryOf [("a", "10.0.0.1", 50051), ("b", second, 50051)]) := by
  have hone : registrySystem.ReachableVia ok (registryOf [("a", "10.0.0.1", 50051)]) :=
    .step (.init ⟨.exact, 2, 3, rfl⟩) (hfirst _) rfl
  exact .step hone hsecond rfl

/-- Two workers at two addresses. -/
theorem distinct_workers_two : DistinctWorkers twoNodePlan := by
  refine (distinct_workers twoNodeRegistry).2 ?_ fiveLayerManifest twoNodePlan
    twoNodePlan_planned
  apply registryOf_reachable
  · intro request node hmem
    cases hmem
  · intro node hmem _
    obtain rfl := List.mem_singleton.mp hmem
    decide

/-- A worker that comes back under another id before its old one is reaped is sent both
shards and is its own next worker. -/
theorem distinct_workers_counterexample :
    ∃ registry, registrySystem.Reachable registry ∧
      ∃ plan, planDispatch fiveLayerManifest registry = .ok plan ∧ ¬ DistinctWorkers plan := by
  refine ⟨registryOf [("a", "10.0.0.1", 50051), ("b", "10.0.0.1", 50051)],
    registryOf_reachable (fun _ => trivial) trivial,
    { twoNodePlan with assignments := [
        ⟨"a", "10.0.0.1", 50051, 0, 2, true, false, "10.0.0.1:50051"⟩,
        ⟨"b", "10.0.0.1", 50051, 2, 5, false, true, ""⟩] }, rfl, ?_⟩
  intro hdistinct
  exact hdistinct.not_own _ List.mem_cons_self (by decide)

end PiSSM.Pipeline
