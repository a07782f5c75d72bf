import PiSSM.Orchestrator.NodeRegistry

/-!
The registry over a whole history of heartbeats and reaps. What the registry
knows about one node is a function of that node's heartbeats and of all reaps
alone, so the status of a node is read off the history since its last
heartbeat. The clock values of the calls are arbitrary: no fact here needs the
clock to be monotone.
-/

namespace PiSSM.Orchestrator

open PiSSM.Lib

/-- A call of the registry, with the clock value it reads. -/
inductive RegistryCall where
  | updateNode (now : ℚ) (request : HeartbeatRequest)
  | reapStaleNodes (now : ℚ)
  deriving DecidableEq

/-- Whether a call is a heartbeat of this node. -/
def RegistryCall.refreshes (nodeId : String) : RegistryCall → Prop
  | .updateNode _ request => request.nodeId = nodeId
  | .reapStaleNodes _ => False

namespace NodeRegistry

/-- A call and the ids it returns. -/
def apply (registry : NodeRegistry) : RegistryCall → NodeRegistry × List String
  | .updateNode now request => (registry.updateNode now request, [])
  | .reapStaleNodes now => registry.reapStaleNodes now

def run (registry : NodeRegistry) (calls : List RegistryCall) : NodeRegistry :=
  calls.foldl (fun registry call => (registry.apply call).1) registry

/-- The ids each call of a history returns. -/
def returned (registry : NodeRegistry) : List RegistryCall → List (List String)
  | [] => []
  | call :: rest => (registry.apply call).2 :: (registry.apply call).1.returned rest

/-- What the status of a node depends on. -/
def view (registry : NodeRegistry) (nodeId : String) : Option (ℚ × NodeStatus) :=
  (registry.getNode nodeId).map fun info => (info.lastHeartbeat, info.status)

/-- A reap at clock value `now` finds a heartbeat at `last` too old. -/
def tooOld (registry : NodeRegistry) (last now : ℚ) : Bool :=
  registry.floats.sub now last > registry.timeoutS

theorem tooOld_iff {registry : NodeRegistry} {last now : ℚ} :
    registry.tooOld last now = true ↔ registry.floats.sub now last > registry.timeoutS :=
  decide_eq_true_iff

/-- A reap, as it acts on one view. -/
def reapView (tooOld : ℚ → ℚ → Bool) (now : ℚ) (view : ℚ × NodeStatus) : ℚ × NodeStatus :=
  if view.2 ≠ .unavailable ∧ tooOld view.1 now then (view.1, .unavailable) else view

theorem apply_tooOld (registry : NodeRegistry) (call : RegistryCall) :
    (registry.apply call).1.tooOld = registry.tooOld := by
  cases call <;> rfl

theorem run_tooOld (registry : NodeRegistry) (calls : List RegistryCall) :
    (registry.run calls).tooOld = registry.tooOld := by
  induction calls generalizing registry with
  | nil => rfl
  | cons call rest ih => exact (ih _).trans (registry.apply_tooOld call)

theorem isStale_iff (registry : NodeRegistry) (now : ℚ) (node : NodeInfo) :
    registry.isStale now node = true ↔
      node.status ≠ .unavailable ∧ registry.tooOld node.lastHeartbeat now := by
  unfold isStale tooOld
  rw [decide_eq_true_iff, decide_eq_true_iff]
  cases node.status <;> simp

theorem getNode_updateNode (registry : NodeRegistry) (now : ℚ) (request : HeartbeatRequest)
    (nodeId : String) :
    (registry.updateNode now request).getNode nodeId =
      if nodeId = request.nodeId then some (registry.heartbeatInfo now request)
      else registry.getNode nodeId :=
  Dict.get?_set _ _ _ _

theorem getNode_reapStaleNodes (registry : NodeRegistry) (now : ℚ) (nodeId : String) :
    (registry.reapStaleNodes now).1.getNode nodeId =
      (registry.getNode nodeId).map (registry.reapNode now) :=
  lookup_mapValues _ _ _

theorem view_updateNode (registry : NodeRegistry) (now : ℚ) (request : HeartbeatRequest)
    (nodeId : String) :
    (registry.updateNode now request).view nodeId =
      if nodeId = request.nodeId then some (now, .available) else registry.view nodeId := by
  unfold view getNode updateNode
  dsimp only
  rw [Dict.get?_set]
  split <;> rfl

theorem view_reapStaleNodes (registry : NodeRegistry) (now : ℚ) (nodeId : String) :
    (registry.reapStaleNodes now).1.view nodeId =
      (registry.view nodeId).map (reapView registry.tooOld now) := by
  have hget : (registry.reapStaleNodes now).1.nodes.get? nodeId =
      (registry.nodes.get? nodeId).map (registry.reapNode now) :=
    lookup_mapValues _ _ _
  unfold view getNode
  rw [hget, Option.map_map, Option.map_map]
  apply Option.map_congr
  intro info _
  unfold reapView
  by_cases hstale : registry.isStale now info = true
  · have hview := (registry.isStale_iff now info).mp hstale
    simp [reapNode, hstale, hview]
  · have hview := mt (registry.isStale_iff now info).mpr hstale
    simp only [Function.comp, reapNode, if_neg hstale, if_neg hview]

/-- A reap returns the nodes it marks unavailable. -/
theorem mem_reapStaleNodes (registry : NodeRegistry) (now : ℚ) (nodeId : String) :
    nodeId ∈ (registry.reapStaleNodes now).2 ↔
      ∃ last status, registry.view nodeId = some (last, status) ∧
        status ≠ .unavailable ∧ registry.tooOld last now := by
  have hkeyed (info : NodeInfo) (hmem : (info.nodeId, info) ∈ registry.nodes.items) :
      registry.view info.nodeId = some (info.lastHeartbeat, info.status) := by
    unfold view getNode
    rw [(registry.nodes.mem_items_iff _ _).mp hmem]
    rfl
  unfold reapStaleNodes
  rw [List.mem_map]
  constructor
  · rintro ⟨info, hmem, rfl⟩
    obtain ⟨hvalue, hstale⟩ := List.mem_filter.mp hmem
    obtain ⟨⟨key, value⟩, hitem, rfl⟩ := List.mem_map.mp hvalue
    obtain rfl : value.nodeId = key := registry.keyed _ hitem
    exact ⟨_, _, hkeyed value hitem, (registry.isStale_iff now value).mp hstale⟩
  · rintro ⟨last, status, hview, hstale⟩
    obtain ⟨info, hget, heq⟩ := Option.map_eq_some_iff.mp hview
    obtain ⟨rfl, rfl⟩ := Prod.mk.inj heq
    have hitem := (registry.nodes.mem_items_iff nodeId info).mpr hget
    refine ⟨info, List.mem_filter.mpr ⟨?_, ?_⟩, registry.keyed _ hitem⟩
    · exact List.mem_map.mpr ⟨(nodeId, info), hitem, rfl⟩
    · exact (registry.isStale_iff now info).mpr hstale

/-- The node of a view is among the available ones. -/
theorem listNodes_of_view {registry : NodeRegistry} {nodeId : String} {last : ℚ}
    (hview : registry.view nodeId = some (last, .available)) :
    ∃ info ∈ registry.listNodes (some .available), info.nodeId = nodeId := by
  obtain ⟨info, hget, heq⟩ := Option.map_eq_some_iff.mp hview
  have hitem := (registry.nodes.mem_items_iff nodeId info).mpr hget
  refine ⟨info, List.mem_filter.mpr ⟨?_, ?_⟩, registry.keyed _ hitem⟩
  · exact List.mem_map.mpr ⟨(nodeId, info), hitem, rfl⟩
  · exact decide_eq_true (Prod.mk.inj heq).2

theorem run_append (registry : NodeRegistry) (before after : List RegistryCall) :
    registry.run (before ++ after) = (registry.run before).run after :=
  List.foldl_append

/-- Whether some reap of a history finds a heartbeat at `last` too old. -/
def missed (tooOld : ℚ → ℚ → Bool) (last : ℚ) (calls : List RegistryCall) : Bool :=
  calls.any fun call =>
    match call with
    | .updateNode _ _ => false
    | .reapStaleNodes now => tooOld last now

theorem missed_iff {tooOld : ℚ → ℚ → Bool} {last : ℚ} {calls : List RegistryCall} :
    missed tooOld last calls = true ↔
      ∃ now, .reapStaleNodes now ∈ calls ∧ tooOld last now = true := by
  unfold missed
  rw [List.any_eq_true]
  constructor
  · rintro ⟨call, hmem, hcall⟩
    cases call with
    | updateNode now request => cases hcall
    | reapStaleNodes now => exact ⟨now, hmem, hcall⟩
  · rintro ⟨now, hmem, hlate⟩
    exact ⟨_, hmem, hlate⟩

def statusOf (gone : Bool) : NodeStatus :=
  if gone then .unavailable else .available

/-- One call that is not a heartbeat of the node. -/
theorem view_apply_quiet {registry : NodeRegistry} {nodeId : String} {last : ℚ}
    {gone : Bool} {call : RegistryCall} (hquiet : ¬ call.refreshes nodeId)
    (hview : registry.view nodeId = some (last, statusOf gone)) :
    (registry.apply call).1.view nodeId =
      some (last, statusOf (gone || missed registry.tooOld last [call])) := by
  cases call with
  | updateNode now request =>
      have hne : nodeId ≠ request.nodeId := fun heq => hquiet heq.symm
      simp only [apply, view_updateNode, if_neg hne, hview]
      simp [missed]
  | reapStaleNodes now =>
      simp only [apply, view_reapStaleNodes, hview, Option.map_some]
      congr 1
      unfold reapView
      cases gone with
      | true => simp [statusOf]
      | false =>
          by_cases hlate : registry.tooOld last now = true <;> simp [statusOf, missed, hlate]

/-- A history without a heartbeat of the node. -/
theorem view_run_quiet {registry : NodeRegistry} {nodeId : String} {last : ℚ}
    {gone : Bool} {calls : List RegistryCall}
    (hquiet : ∀ call ∈ calls, ¬ call.refreshes nodeId)
    (hview : registry.view nodeId = some (last, statusOf gone)) :
    (registry.run calls).view nodeId =
      some (last, statusOf (gone || missed registry.tooOld last calls)) := by
  induction calls generalizing registry gone with
  | nil => simpa [run, missed] using hview
  | cons call rest ih =>
      have hhead := view_apply_quiet (hquiet call List.mem_cons_self) hview
      have htail := ih (fun later hmem => hquiet later (List.mem_cons_of_mem _ hmem)) hhead
      have hmissed : missed registry.tooOld last (call :: rest) =
          (missed registry.tooOld last [call] || missed registry.tooOld last rest) := by
        simp [missed]
      rw [registry.apply_tooOld call, Bool.or_assoc, ← hmissed] at htail
      exact htail

/-- Without a heartbeat in between, a node is returned at most once, and never
when it is unavailable already. -/
theorem returned_quiet {registry : NodeRegistry} {nodeId : String} {last : ℚ}
    {gone : Bool} {calls : List RegistryCall}
    (hquiet : ∀ call ∈ calls, ¬ call.refreshes nodeId)
    (hview : registry.view nodeId = some (last, statusOf gone)) :
    (registry.returned calls).countP (nodeId ∈ ·) ≤ if gone then 0 else 1 := by
  induction calls generalizing registry gone with
  | nil => simp [returned]
  | cons call rest ih =>
      have hhead := view_apply_quiet (hquiet call List.mem_cons_self) hview
      have htail := ih (fun later hmem => hquiet later (List.mem_cons_of_mem _ hmem)) hhead
      have hreturned : nodeId ∈ (registry.apply call).2 ↔
          gone = false ∧ missed registry.tooOld last [call] = true := by
        cases call with
        | updateNode now request => simp [apply, missed]
        | reapStaleNodes now =>
            simp only [apply, mem_reapStaleNodes, hview]
            cases gone <;> simp [statusOf, missed]
      rw [returned, List.countP_cons]
      simp only [decide_eq_true_eq, hreturned]
      cases gone with
      | true => simpa using htail
      | false =>
          cases hcall : missed registry.tooOld last [call] with
          | true => simpa [hcall] using htail
          | false => simpa [hcall] using htail

/-- The history ends with `after`, which began with the node's last heartbeat,
at clock value `last`. -/
def SinceHeartbeat (calls : List RegistryCall) (nodeId : String) (last : ℚ)
    (after : List RegistryCall) : Prop :=
  ∃ before request, calls = before ++ .updateNode last request :: after ∧
    request.nodeId = nodeId ∧ ∀ call ∈ after, ¬ call.refreshes nodeId

/-- A history with a heartbeat of the node has a last one. -/
theorem sinceHeartbeat_of_mem {calls : List RegistryCall} {nodeId : String}
    (hheard : ∃ call ∈ calls, call.refreshes nodeId) :
    ∃ last after, SinceHeartbeat calls nodeId last after := by
  induction calls with
  | nil => simp at hheard
  | cons call rest ih =>
      by_cases hrest : ∃ call ∈ rest, call.refreshes nodeId
      · obtain ⟨last, after, before, request, rfl, hid, hquiet⟩ := ih hrest
        exact ⟨last, after, call :: before, request, rfl, hid, hquiet⟩
      · have hquiet : ∀ call ∈ rest, ¬ call.refreshes nodeId := fun call hmem hcall =>
          hrest ⟨call, hmem, hcall⟩
        obtain ⟨heard, hmem, hcall⟩ := hheard
        rcases List.mem_cons.mp hmem with rfl | hmem
        · cases heard with
          | updateNode now request => exact ⟨now, rest, [], request, rfl, hcall, hquiet⟩
          | reapStaleNodes now => exact hcall.elim
        · exact absurd hcall (hquiet heard hmem)

theorem view_heartbeat {registry : NodeRegistry} {nodeId : String} {now : ℚ}
    {request : HeartbeatRequest} (hid : request.nodeId = nodeId) :
    (registry.apply (.updateNode now request)).1.view nodeId =
      some (now, statusOf false) := by
  unfold apply
  rw [view_updateNode, if_pos hid.symm]
  rfl

/-- The view of a node since its last heartbeat. -/
theorem view_since {registry : NodeRegistry} {calls after : List RegistryCall}
    {nodeId : String} {last : ℚ} (hsince : SinceHeartbeat calls nodeId last after) :
    (registry.run calls).view nodeId =
      some (last, statusOf (missed registry.tooOld last after)) := by
  obtain ⟨before, request, rfl, hid, hquiet⟩ := hsince
  have hbeat := @view_heartbeat (registry.run before) nodeId last request hid
  have hrun := view_run_quiet hquiet hbeat
  rw [apply_tooOld, run_tooOld, Bool.false_or] at hrun
  rw [run_append]
  exact hrun

/-- A node that has sent no heartbeat is not registered. -/
theorem view_unheard {registry : NodeRegistry} {calls : List RegistryCall} {nodeId : String}
    (hquiet : ∀ call ∈ calls, ¬ call.refreshes nodeId)
    (hview : registry.view nodeId = none) : (registry.run calls).view nodeId = none := by
  induction calls generalizing registry with
  | nil => exact hview
  | cons call rest ih =>
      refine ih (fun later hmem => hquiet later (List.mem_cons_of_mem _ hmem)) ?_
      cases call with
      | updateNode now request =>
          have hne : nodeId ≠ request.nodeId := fun heq =>
            hquiet _ List.mem_cons_self heq.symm
          simp only [apply, view_updateNode, if_neg hne, hview]
      | reapStaleNodes now =>
          simp only [apply, view_reapStaleNodes, hview, Option.map_none]

/-- After its last heartbeat a node is returned by the first reap that finds it
too old. -/
theorem mem_reapStaleNodes_since {registry : NodeRegistry} {calls after : List RegistryCall}
    {nodeId : String} {last now : ℚ} (hsince : SinceHeartbeat calls nodeId last after) :
    nodeId ∈ ((registry.run calls).reapStaleNodes now).2 ↔
      registry.floats.sub now last > registry.timeoutS ∧
        ∀ now', .reapStaleNodes now' ∈ after →
          registry.floats.sub now' last ≤ registry.timeoutS := by
  have hview := @view_since registry calls after nodeId last hsince
  have hnone : (∀ now', .reapStaleNodes now' ∈ after →
        registry.floats.sub now' last ≤ registry.timeoutS) ↔
      missed registry.tooOld last after = false := by
    rw [← Bool.not_eq_true, missed_iff]
    push Not
    simp only [tooOld_iff, Ne, gt_iff_lt, not_lt]
  rw [mem_reapStaleNodes, run_tooOld, hnone, ← tooOld_iff]
  constructor
  · rintro ⟨last', status, hview', hstatus, hlate⟩
    obtain ⟨rfl, rfl⟩ := Prod.mk.inj (Option.some.inj (hview.symm.trans hview'))
    refine ⟨hlate, ?_⟩
    cases hmissed : missed registry.tooOld last after with
    | false => rfl
    | true => simp [statusOf, hmissed] at hstatus
  · rintro ⟨hlate, hmissed⟩
    refine ⟨last, _, hview, ?_, hlate⟩
    simp [statusOf, hmissed]

/-- A node is registered once it has been heard. -/
theorem isSome_getNode_iff (registry : NodeRegistry) {calls : List RegistryCall}
    {nodeId : String} (hfresh : registry.view nodeId = none) :
    ((registry.run calls).getNode nodeId).isSome ↔
      ∃ last after, SinceHeartbeat calls nodeId last after := by
  have hsome : ((registry.run calls).getNode nodeId).isSome =
      ((registry.run calls).view nodeId).isSome := by
    unfold view
    rw [Option.isSome_map]
  rw [hsome]
  constructor
  · intro hview
    apply sinceHeartbeat_of_mem
    by_contra hunheard
    push Not at hunheard
    rw [view_unheard hunheard hfresh] at hview
    cases hview
  · rintro ⟨last, after, hsince⟩
    rw [view_since hsince]
    rfl

/-- A node that every reap finds recent enough is available since its
registration. -/
theorem view_of_prompt {registry : NodeRegistry} {calls : List RegistryCall} {nodeId : String}
    (hprompt : ∀ earlier now later last after,
      calls = earlier ++ .reapStaleNodes now :: later →
        SinceHeartbeat earlier nodeId last after → registry.floats.sub now last ≤ registry.timeoutS)
    (hheard : ∃ call ∈ calls, call.refreshes nodeId) :
    ∃ last, (registry.run calls).view nodeId = some (last, .available) := by
  obtain ⟨last, after, hsince⟩ := sinceHeartbeat_of_mem hheard
  have hview := @view_since registry calls after nodeId last hsince
  refine ⟨last, ?_⟩
  have hmissed : missed registry.tooOld last after = false := by
    rw [← Bool.not_eq_true, missed_iff]
    rintro ⟨now, hmem, hlate⟩
    obtain ⟨before, request, rfl, hid, hquiet⟩ := hsince
    obtain ⟨earlier, later, rfl⟩ := List.append_of_mem hmem
    have hbefore : SinceHeartbeat (before ++ .updateNode last request :: earlier) nodeId
        last earlier :=
      ⟨before, request, rfl, hid, fun call hcall => hquiet call (List.mem_append_left _ hcall)⟩
    have hle := hprompt _ now later last earlier (by simp) hbefore
    exact absurd (tooOld_iff.mp hlate) (not_lt_of_ge hle)
  rw [hview, hmissed]
  rfl

/-- The liveness the registry reports, over every history. A node is registered
once it has been heard; it is unavailable exactly when a reap since its last
heartbeat has found that heartbeat too old, and it is the first such reap that
returns it, once; a node that no reap finds too old is never returned and stays
available. -/
theorem liveness_exact (floats : FloatArithmetic) (heartbeatIntervalS : ℚ)
    (missedThreshold : Nat) (calls : List RegistryCall) (nodeId : String) :
    let start := create floats heartbeatIntervalS missedThreshold
    (((start.run calls).getNode nodeId).isSome ↔
      ∃ last after, SinceHeartbeat calls nodeId last after) ∧
    (∀ last after info, SinceHeartbeat calls nodeId last after →
      (start.run calls).getNode nodeId = some info →
        (info.status = .unavailable ↔
          ∃ now, .reapStaleNodes now ∈ after ∧ floats.sub now last > start.timeoutS) ∧
        (info.status = .available ↔
          ¬ ∃ now, .reapStaleNodes now ∈ after ∧ floats.sub now last > start.timeoutS)) ∧
    (∀ before request last after, calls = before ++ .updateNode last request :: after →
      request.nodeId = nodeId → (∀ call ∈ after, ¬ call.refreshes nodeId) →
        ((start.run (before ++ [.updateNode last request])).returned after).countP
          (nodeId ∈ ·) ≤ 1 ∧
        ∀ earlier now later, after = earlier ++ .reapStaleNodes now :: later →
          (nodeId ∈ ((start.run (before ++ .updateNode last request :: earlier)).reapStaleNodes
              now).2 ↔
            floats.sub now last > start.timeoutS ∧
              ∀ now', .reapStaleNodes now' ∈ earlier → floats.sub now' last ≤ start.timeoutS)) ∧
    ((∀ earlier now later last after, calls = earlier ++ .reapStaleNodes now :: later →
        SinceHeartbeat earlier nodeId last after → floats.sub now last ≤ start.timeoutS) →
      (∀ earlier now later, calls = earlier ++ .reapStaleNodes now :: later →
        nodeId ∉ ((start.run earlier).reapStaleNodes now).2) ∧
      ∀ earlier later, calls = earlier ++ later →
        (∃ call ∈ earlier, call.refreshes nodeId) →
          ∃ info ∈ (start.run earlier).listNodes (some .available), info.nodeId = nodeId) := by
  intro start
  refine ⟨isSome_getNode_iff start rfl, ?_, ?_, ?_⟩
  · intro last after info hsince hget
    have hview := @view_since start calls after nodeId last hsince
    unfold view at hview
    rw [hget, Option.map_some] at hview
    have hstatus := (Prod.mk.inj (Option.some.inj hview)).2
    have hmissed : missed start.tooOld last after = true ↔
        ∃ now, .reapStaleNodes now ∈ after ∧ floats.sub now last > start.timeoutS := by
      simp only [missed_iff, tooOld_iff]
      rfl
    rw [hstatus, ← hmissed]
    cases missed start.tooOld last after <;> simp [statusOf]
  · rintro before request last after rfl hid hquiet
    constructor
    · have hbeat := @view_heartbeat (start.run before) nodeId last request hid
      rw [run_append]
      exact returned_quiet hquiet hbeat
    · rintro earlier now later rfl
      exact mem_reapStaleNodes_since ⟨before, request, rfl, hid, fun call hmem =>
        hquiet call (List.mem_append_left _ hmem)⟩
  · intro hprompt
    constructor
    · rintro earlier now later rfl hmem
      have hheard : ∃ last after, SinceHeartbeat earlier nodeId last after := by
        rw [← isSome_getNode_iff start rfl]
        obtain ⟨last, status, hview, _⟩ := (mem_reapStaleNodes _ _ _).mp hmem
        obtain ⟨info, hget, _⟩ := Option.map_eq_some_iff.mp hview
        rw [hget]
        rfl
      obtain ⟨last, after, hsince⟩ := hheard
      have hlate := ((mem_reapStaleNodes_since hsince).mp hmem).1
      exact absurd hlate (not_lt_of_ge (hprompt earlier now later last after rfl hsince))
    · rintro earlier later rfl hheard
      have hbefore := fun earlier' now later' last after
          (heq : earlier = earlier' ++ .reapStaleNodes now :: later')
          (hsince : SinceHeartbeat earlier' nodeId last after) =>
        hprompt earlier' now (later' ++ later) last after (by rw [heq]; simp) hsince
      obtain ⟨last, hview⟩ := view_of_prompt hbefore hheard
      exact listNodes_of_view hview

end NodeRegistry

end PiSSM.Orchestrator
