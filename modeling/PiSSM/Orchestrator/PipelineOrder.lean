import PiSSM.Orchestrator.Dispatch
import PiSSM.Orchestrator.NodeLiveness

/-!
The order of the nodes in a pipeline. The registry lists its nodes in the order of
their first heartbeats, whatever happens to them later, and a plan depends on nothing
but this order and the status and address of each node.
-/

namespace PiSSM.Orchestrator

open PiSSM.Lib PiSSM.Inference

/-- The nodes of a history in the order of their first heartbeats. -/
def firstHeard : List RegistryCall → List String
  | [] => []
  | .updateNode _ request :: rest =>
      request.nodeId :: (firstHeard rest).filter fun nodeId => nodeId ≠ request.nodeId
  | .reapStaleNodes _ :: rest => firstHeard rest

def NodeInfo.location (node : NodeInfo) : String × Nat :=
  (node.ipAddress, node.inferencePort)

def NodeInfo.place (node : NodeInfo) : NodeStatus × String × Nat :=
  (node.status, node.location)

/-- What a plan takes from a node. -/
def NodeInfo.seat (node : NodeInfo) : String × String × Nat :=
  (node.nodeId, node.ipAddress, node.inferencePort)

/-- Registries that no plan tells apart. -/
def SamePipeline (registry other : NodeRegistry) : Prop :=
  (∀ statusFilter, (registry.listNodes statusFilter).map NodeInfo.nodeId =
    (other.listNodes statusFilter).map NodeInfo.nodeId) ∧
  ∀ manifest, planDispatch manifest registry = planDispatch manifest other

theorem mem_firstHeard {calls : List RegistryCall} {nodeId : String} :
    nodeId ∈ firstHeard calls ↔ ∃ call ∈ calls, call.refreshes nodeId := by
  induction calls with
  | nil => simp [firstHeard]
  | cons call rest ih =>
      rw [List.exists_mem_cons_iff, ← ih]
      cases call with
      | updateNode now request =>
          simp only [firstHeard, List.mem_cons, List.mem_filter, decide_eq_true_eq,
            RegistryCall.refreshes]
          by_cases hid : nodeId = request.nodeId
          · simp [hid]
          · simp [hid, Ne.symm hid]
      | reapStaleNodes now => simp [firstHeard, RegistryCall.refreshes]

namespace NodeRegistry

theorem apply_keys (registry : NodeRegistry) (call : RegistryCall) :
    (registry.apply call).1.nodes.keys =
      match call with
      | .updateNode _ request =>
          if request.nodeId ∈ registry.nodes.keys then registry.nodes.keys
          else registry.nodes.keys ++ [request.nodeId]
      | .reapStaleNodes _ => registry.nodes.keys := by
  cases call with
  | updateNode now request => exact Dict.keys_set _ _ _
  | reapStaleNodes now =>
      change (registry.nodes.items.map _).map Prod.fst = _
      rw [List.map_map]
      rfl

/-- Nodes keep their position, and a new one comes last. -/
theorem run_keys (registry : NodeRegistry) (calls : List RegistryCall) :
    (registry.run calls).nodes.keys = registry.nodes.keys ++
      (firstHeard calls).filter fun nodeId => nodeId ∉ registry.nodes.keys := by
  induction calls generalizing registry with
  | nil => exact (List.append_nil _).symm
  | cons call rest ih =>
      change ((registry.apply call).1.run rest).nodes.keys = _
      rw [ih, apply_keys]
      cases call with
      | updateNode now request =>
          by_cases hmem : request.nodeId ∈ registry.nodes.keys
          · simp only [firstHeard, if_pos hmem]
            rw [List.filter_cons_of_neg (by simpa using hmem), List.filter_filter]
            congr 1
            apply List.filter_congr
            intro nodeId _
            by_cases hid : nodeId = request.nodeId
            · simp [hid, hmem]
            · simp [hid]
          · simp only [firstHeard, if_neg hmem]
            rw [List.filter_cons_of_pos (by simpa using hmem), List.filter_filter,
              List.append_assoc, List.singleton_append]
            congr 2
            apply List.filter_congr
            intro nodeId _
            simp only [List.mem_append, List.mem_singleton, not_or, Bool.decide_and]
      | reapStaleNodes now => rfl

/-- A registry lists its nodes as they were first heard. -/
theorem run_create_keys (floats : FloatArithmetic) (heartbeatIntervalS : ℚ)
    (missedThreshold : Nat) (calls : List RegistryCall) :
    ((create floats heartbeatIntervalS missedThreshold).run calls).nodes.keys =
      firstHeard calls := by
  rw [run_keys]
  exact List.filter_eq_self.mpr fun nodeId _ => by simp [create, Dict.empty, Dict.keys]

/-- The ids and places of all nodes in order. -/
theorem values_places (registry : NodeRegistry) :
    registry.nodes.values.map (fun node => (node.nodeId, node.place)) =
      registry.nodes.keys.filterMap fun nodeId =>
        ((registry.getNode nodeId).map NodeInfo.place).map fun place => (nodeId, place) := by
  have hitems := registry.nodes.filterMap_keys fun nodeId node => (nodeId, node.place)
  simp only [getNode, Option.map_map]
  refine Eq.trans ?_ hitems.symm
  rw [Dict.values, List.map_map]
  apply List.map_congr_left
  intro entry hmem
  rw [Function.comp_apply, registry.keyed entry hmem]

/-- A heartbeat of a known node from where it is registered. -/
def KeepsLocation (registry : NodeRegistry) : RegistryCall → Prop
  | .updateNode _ request =>
      (registry.getNode request.nodeId).map NodeInfo.location =
        some (request.ipAddress, request.inferencePort)
  | .reapStaleNodes _ => True

theorem apply_location {registry : NodeRegistry} {call : RegistryCall}
    (hkeeps : registry.KeepsLocation call) (nodeId : String) :
    ((registry.apply call).1.getNode nodeId).map NodeInfo.location =
      (registry.getNode nodeId).map NodeInfo.location := by
  cases call with
  | updateNode now request =>
      change ((registry.updateNode now request).getNode nodeId).map _ = _
      rw [getNode_updateNode]
      split
      · next hid =>
          subst hid
          exact hkeeps.symm
      · rfl
  | reapStaleNodes now =>
      change ((registry.reapStaleNodes now).1.getNode nodeId).map _ = _
      rw [getNode_reapStaleNodes, Option.map_map]
      apply Option.map_congr
      intro node _
      unfold Function.comp reapNode
      split
      · rfl
      · rfl

theorem run_location {registry : NodeRegistry} {calls : List RegistryCall}
    (hkeeps : ∀ call ∈ calls, registry.KeepsLocation call) (nodeId : String) :
    ((registry.run calls).getNode nodeId).map NodeInfo.location =
      (registry.getNode nodeId).map NodeInfo.location := by
  induction calls generalizing registry with
  | nil => rfl
  | cons call rest ih =>
      have hhead := apply_location (hkeeps call List.mem_cons_self)
      refine (ih ?_).trans (hhead nodeId)
      intro later hmem
      have hlater := hkeeps later (List.mem_cons_of_mem _ hmem)
      cases later with
      | updateNode now request => exact (hhead request.nodeId).trans hlater
      | reapStaleNodes now => trivial

/-- Only known nodes are heard, so none is added. -/
theorem run_keys_of_known {registry : NodeRegistry} {calls : List RegistryCall}
    (hkeeps : ∀ call ∈ calls, registry.KeepsLocation call) :
    (registry.run calls).nodes.keys = registry.nodes.keys := by
  rw [run_keys, List.filter_eq_nil_iff.mpr, List.append_nil]
  intro nodeId hmem
  obtain ⟨call, hcall, hrefreshes⟩ := mem_firstHeard.mp hmem
  have hlocation := hkeeps call hcall
  cases call with
  | reapStaleNodes now => exact hrefreshes.elim
  | updateNode now request =>
      obtain rfl : request.nodeId = nodeId := hrefreshes
      obtain ⟨node, hget, _⟩ := Option.map_eq_some_iff.mp hlocation
      have hknown := (registry.nodes.isSome_get?_iff request.nodeId).mp
        (Option.isSome_of_eq_some hget)
      simpa using hknown

theorem places_of_status {registry other : NodeRegistry} {nodeId : String}
    (hstatus : (registry.getNode nodeId).map NodeInfo.status =
      (other.getNode nodeId).map NodeInfo.status)
    (hlocation : (registry.getNode nodeId).map NodeInfo.location =
      (other.getNode nodeId).map NodeInfo.location) :
    (registry.getNode nodeId).map NodeInfo.place =
      (other.getNode nodeId).map NodeInfo.place := by
  cases hnode : registry.getNode nodeId with
  | none =>
      rw [hnode, Option.map_none] at hstatus
      rw [Option.map_eq_none_iff.mp hstatus.symm]
  | some node =>
      rw [hnode, Option.map_some] at hstatus hlocation
      obtain ⟨node', hnode', hstatus⟩ := Option.map_eq_some_iff.mp hstatus.symm
      rw [hnode', Option.map_some, Option.some_inj] at hlocation
      rw [hnode', Option.map_some, Option.map_some, Option.some_inj]
      unfold NodeInfo.place
      rw [hstatus, hlocation]

theorem listNodes_places {registry other : NodeRegistry}
    (horder : registry.nodes.keys = other.nodes.keys)
    (hplaces : ∀ nodeId, (registry.getNode nodeId).map NodeInfo.place =
      (other.getNode nodeId).map NodeInfo.place) (statusFilter : Option NodeStatus) :
    (registry.listNodes statusFilter).map (fun node => (node.nodeId, node.place)) =
      (other.listNodes statusFilter).map fun node => (node.nodeId, node.place) := by
  have hall : registry.nodes.values.map (fun node => (node.nodeId, node.place)) =
      other.nodes.values.map fun node => (node.nodeId, node.place) := by
    rw [values_places, values_places, horder]
    simp only [hplaces]
  cases statusFilter with
  | none => exact hall
  | some status =>
      have hfilter (nodes : List NodeInfo) :
          (nodes.filter fun node => decide (node.status = status)).map
              (fun node => (node.nodeId, node.place)) =
            (nodes.map fun node => (node.nodeId, node.place)).filter
              fun entry => decide (entry.2.1 = status) := by
        rw [List.filter_map]
        rfl
      simp only [listNodes]
      rw [hfilter, hfilter, hall]

end NodeRegistry

/-- A shard takes the seats of its node and of the next one. -/
theorem assignShard_congr {nodes nodes' : List NodeInfo}
    (hseats : nodes.map NodeInfo.seat = nodes'.map NodeInfo.seat) {node node' : NodeInfo}
    (hseat : node.seat = node'.seat) (index : Nat) (range : Nat × Nat) :
    assignShard nodes index node range = assignShard nodes' index node' range := by
  have hlength : nodes.length = nodes'.length := by
    rw [← List.length_map NodeInfo.seat, hseats, List.length_map]
  have hnext : (nodes[index + 1]?).map NodeInfo.seat = (nodes'[index + 1]?).map NodeInfo.seat := by
    rw [← List.getElem?_map, hseats, List.getElem?_map]
  have haddress (found found' : NodeInfo) (heq : found.seat = found'.seat) :
      nodeAddress found = nodeAddress found' := by
    simp only [NodeInfo.seat, Prod.mk.injEq] at heq
    unfold nodeAddress
    rw [heq.2.1, heq.2.2]
  simp only [NodeInfo.seat, Prod.mk.injEq] at hseat
  unfold assignShard
  rw [hseat.1, hseat.2.1, hseat.2.2, hlength]
  congr 2
  cases hfound : nodes[index + 1]? with
  | none =>
      rw [hfound, Option.map_none] at hnext
      rw [Option.map_eq_none_iff.mp hnext.symm]
  | some found =>
      rw [hfound, Option.map_some] at hnext
      obtain ⟨found', hfound', heq⟩ := Option.map_eq_some_iff.mp hnext.symm
      rw [hfound']
      exact haddress found found' heq.symm

/-- A plan is made of the seats of the available nodes. -/
theorem planDispatch_congr {registry other : NodeRegistry}
    (hseats : (registry.listNodes (some .available)).map NodeInfo.seat =
      (other.listNodes (some .available)).map NodeInfo.seat) (manifest : ModelManifest) :
    planDispatch manifest registry = planDispatch manifest other := by
  unfold planDispatch
  generalize registry.listNodes (some .available) = nodes at hseats ⊢
  generalize other.listNodes (some .available) = nodes' at hseats ⊢
  have hlength : nodes.length = nodes'.length := by
    rw [← List.length_map NodeInfo.seat, hseats, List.length_map]
  have hempty : nodes.isEmpty = nodes'.isEmpty := by
    rw [Bool.eq_iff_iff, List.isEmpty_iff_length_eq_zero, List.isEmpty_iff_length_eq_zero,
      hlength]
  have hshards (ranges : List (Nat × Nat)) :
      ((nodes.zip ranges).zipIdx.map fun entry =>
          assignShard nodes entry.2 entry.1.1 entry.1.2) =
        (nodes'.zip ranges).zipIdx.map fun entry =>
          assignShard nodes' entry.2 entry.1.1 entry.1.2 := by
    apply List.ext_getElem
    · simp [hlength]
    · intro index hindex hindex'
      have hnode : index < nodes.length := by
        simp only [List.length_map, List.length_zipIdx, List.length_zip] at hindex
        omega
      have hseat : (nodes.map NodeInfo.seat)[index]? = (nodes'.map NodeInfo.seat)[index]? := by
        rw [hseats]
      rw [List.getElem?_map, List.getElem?_map, List.getElem?_eq_getElem hnode,
        List.getElem?_eq_getElem (hlength ▸ hnode)] at hseat
      simp only [List.getElem_map, List.getElem_zipIdx, List.getElem_zip, Nat.zero_add]
      exact assignShard_congr hseats (Option.some.inj hseat) _ _
  dsimp only
  rw [hempty, hlength]
  simp only [hshards]

/-- Nodes that are listed in one order at the same places make the same pipeline. -/
theorem samePipeline_of_places {registry other : NodeRegistry}
    (horder : registry.nodes.keys = other.nodes.keys)
    (hplaces : ∀ nodeId, (registry.getNode nodeId).map NodeInfo.place =
      (other.getNode nodeId).map NodeInfo.place) : SamePipeline registry other := by
  have hlisted := NodeRegistry.listNodes_places horder hplaces
  refine ⟨?_, ?_⟩
  · intro statusFilter
    have hids := congrArg (List.map Prod.fst) (hlisted statusFilter)
    rw [List.map_map, List.map_map] at hids
    exact hids
  · apply planDispatch_congr
    have hseats := congrArg (List.map fun entry => (entry.1, entry.2.2))
      (hlisted (some .available))
    rw [List.map_map, List.map_map] at hseats
    exact hseats

/-- Two histories that hear their nodes in the same order and leave them at the same
places make the same pipeline, and so does one history when known nodes are heard
again from where they are registered. -/
theorem pipeline_order :
    (∀ (floats floats' : FloatArithmetic) (heartbeatIntervalS heartbeatIntervalS' : ℚ)
        (missedThreshold missedThreshold' : Nat) (calls calls' : List RegistryCall),
      firstHeard calls = firstHeard calls' →
      (∀ nodeId,
        (((NodeRegistry.create floats heartbeatIntervalS missedThreshold).run calls).getNode
          nodeId).map NodeInfo.place =
        (((NodeRegistry.create floats' heartbeatIntervalS' missedThreshold').run calls').getNode
          nodeId).map NodeInfo.place) →
      SamePipeline ((NodeRegistry.create floats heartbeatIntervalS missedThreshold).run calls)
        ((NodeRegistry.create floats' heartbeatIntervalS' missedThreshold').run calls')) ∧
    ∀ (registry : NodeRegistry) (calls : List RegistryCall),
      (∀ call ∈ calls, registry.KeepsLocation call) →
      (∀ nodeId, ((registry.run calls).getNode nodeId).map NodeInfo.status =
        (registry.getNode nodeId).map NodeInfo.status) →
      SamePipeline (registry.run calls) registry := by
  refine ⟨?_, ?_⟩
  · intro floats floats' heartbeatIntervalS heartbeatIntervalS' missedThreshold
      missedThreshold' calls calls' hheard hplaces
    refine samePipeline_of_places ?_ hplaces
    rw [NodeRegistry.run_create_keys, NodeRegistry.run_create_keys, hheard]
  · intro registry calls hkeeps hstatus
    apply samePipeline_of_places
    · exact NodeRegistry.run_keys_of_known hkeeps
    · intro nodeId
      exact NodeRegistry.places_of_status (hstatus nodeId)
        (NodeRegistry.run_location hkeeps nodeId)

def heartbeatFrom (nodeId ipAddress : String) : HeartbeatRequest :=
  ⟨nodeId, ipAddress, 2048, 4096, 4, "aarch64", "Linux", "6.6", 50051⟩

def firstHeartbeats : List RegistryCall :=
  [.updateNode 0 (heartbeatFrom "a" "10.0.0.1"), .updateNode 1 (heartbeatFrom "b" "10.0.0.2")]

/-- Both nodes miss a reap and rejoin in the other order. -/
def outage : List RegistryCall :=
  firstHeartbeats ++ [.reapStaleNodes 100, .updateNode 101 (heartbeatFrom "b" "10.0.0.2"),
    .updateNode 102 (heartbeatFrom "a" "10.0.0.1")]

/-- The pipeline after the outage is the one before it. -/
theorem pipeline_order_outage :
    SamePipeline ((NodeRegistry.create .exact 2 3).run firstHeartbeats)
      ((NodeRegistry.create .exact 2 3).run outage) := by
  refine pipeline_order.1 .exact .exact 2 2 3 3 firstHeartbeats outage (by decide) ?_
  have hitems : (((NodeRegistry.create .exact 2 3).run firstHeartbeats).nodes.items.map
        fun entry => (entry.1, entry.2.place)) =
      ((NodeRegistry.create .exact 2 3).run outage).nodes.items.map
        fun entry => (entry.1, entry.2.place) := by
    decide +kernel
  intro nodeId
  refine (lookup_mapValues NodeInfo.place nodeId _).symm.trans ?_
  rw [hitems]
  exact lookup_mapValues NodeInfo.place nodeId _

end PiSSM.Orchestrator
