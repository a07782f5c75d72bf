import PiSSM.Lib.TransitionSystem
import PiSSM.Orchestrator.NodeLiveness

/-!
The registry as handler threads call it at the same time. A call reads the clock
before it takes the lock, so that the locked sections need not run in the order
of the readings: a heartbeat that has waited for the lock may overwrite one that
was read later.
-/

namespace PiSSM.Orchestrator

open PiSSM.Lib

/-- The registry, the monotonic clock, and the call that each thread has read the
clock for but not yet entered the locked section of. -/
structure RegistryThreads where
  registry : NodeRegistry
  clock : ℚ
  waiting : Nat → Option RegistryCall

inductive RegistryMove where
  | tick (elapsed : ℚ)
  | updateNode (thread : Nat) (request : HeartbeatRequest)
  | reapStaleNodes (thread : Nat)
  | lockedSection (thread : Nat)
  deriving DecidableEq

namespace RegistryThreads

def readClock (s : RegistryThreads) (thread : Nat) (call : RegistryCall) :
    Option RegistryThreads :=
  match s.waiting thread with
  | some _ => none
  | none => some { s with waiting := Function.update s.waiting thread (some call) }

def step (s : RegistryThreads) : RegistryMove → Option RegistryThreads
  | .tick elapsed => if 0 ≤ elapsed then some { s with clock := s.clock + elapsed } else none
  | .updateNode thread request => s.readClock thread (.updateNode s.clock request)
  | .reapStaleNodes thread => s.readClock thread (.reapStaleNodes s.clock)
  | .lockedSection thread =>
      (s.waiting thread).map fun call =>
        { s with
          registry := (s.registry.apply call).1
          waiting := Function.update s.waiting thread none }

def system : TransitionSystem RegistryThreads RegistryMove where
  init s := (∃ floats heartbeatIntervalS missedThreshold,
    s.registry = NodeRegistry.create floats heartbeatIntervalS missedThreshold) ∧
      s.waiting = fun _ => none
  step := step

end RegistryThreads

namespace NodeRegistry

/-- What one registry keeps of the times of another. -/
def KeepsTimes (before after : NodeRegistry) : Prop :=
  ∀ nodeId info, before.getNode nodeId = some info →
    ∃ later, after.getNode nodeId = some later ∧
      info.lastHeartbeat ≤ later.lastHeartbeat ∧ later.firstSeen = info.firstSeen

def FirstSeenFirst (registry : NodeRegistry) : Prop :=
  ∀ nodeId info, registry.getNode nodeId = some info →
    info.firstSeen ≤ info.lastHeartbeat

/-- A heartbeat is stored no earlier than the last one of its node. -/
def NotBefore (registry : NodeRegistry) : RegistryCall → Prop
  | .updateNode now request =>
      ∀ info ∈ registry.getNode request.nodeId, info.lastHeartbeat ≤ now
  | .reapStaleNodes _ => True

instance (registry : NodeRegistry) : DecidablePred registry.NotBefore
  | .updateNode now request =>
      inferInstanceAs (Decidable (∀ info ∈ registry.getNode request.nodeId,
        info.lastHeartbeat ≤ now))
  | .reapStaleNodes _ => .isTrue trivial

theorem KeepsTimes.refl (registry : NodeRegistry) : registry.KeepsTimes registry :=
  fun _ info hget => ⟨info, hget, le_refl _, rfl⟩

theorem reapNode_times (registry : NodeRegistry) (now : ℚ) (info : NodeInfo) :
    (registry.reapNode now info).lastHeartbeat = info.lastHeartbeat ∧
      (registry.reapNode now info).firstSeen = info.firstSeen := by
  unfold reapNode
  split
  · exact ⟨rfl, rfl⟩
  · exact ⟨rfl, rfl⟩

theorem heartbeatInfo_firstSeen (registry : NodeRegistry) (now : ℚ)
    (request : HeartbeatRequest) :
    (registry.heartbeatInfo now request).firstSeen =
      ((registry.getNode request.nodeId).map NodeInfo.firstSeen).getD now := by
  unfold heartbeatInfo getNode
  cases registry.nodes.get? request.nodeId with
  | none => rfl
  | some existing => rfl

/-- A locked section keeps the times of the nodes exactly when its heartbeat is
not older than the one it replaces. -/
theorem apply_keepsTimes_iff (registry : NodeRegistry) (call : RegistryCall) :
    registry.KeepsTimes (registry.apply call).1 ↔ registry.NotBefore call := by
  cases call with
  | updateNode now request =>
      have hself : (registry.updateNode now request).getNode request.nodeId =
          some (registry.heartbeatInfo now request) := by
        rw [getNode_updateNode, if_pos rfl]
      constructor
      · intro hkeeps info hget
        obtain ⟨later, hlater, htime, _⟩ := hkeeps request.nodeId info hget
        obtain rfl := Option.some.inj (hself.symm.trans hlater)
        exact htime
      · intro hnot nodeId info hget
        by_cases hid : nodeId = request.nodeId
        · subst hid
          refine ⟨_, hself, hnot info hget, ?_⟩
          rw [heartbeatInfo_firstSeen, hget]
          rfl
        · refine ⟨info, ?_, le_refl _, rfl⟩
          change (registry.updateNode now request).getNode nodeId = some info
          rw [getNode_updateNode, if_neg hid]
          exact hget
  | reapStaleNodes now =>
      refine iff_of_true ?_ trivial
      intro nodeId info hget
      obtain ⟨hlast, hfirst⟩ := registry.reapNode_times now info
      refine ⟨registry.reapNode now info, ?_, hlast.ge, hfirst⟩
      change (registry.reapStaleNodes now).1.getNode nodeId = _
      rw [getNode_reapStaleNodes, hget]
      rfl

theorem FirstSeenFirst.apply {registry : NodeRegistry} {call : RegistryCall}
    (hfirst : registry.FirstSeenFirst) (hnot : registry.NotBefore call) :
    (registry.apply call).1.FirstSeenFirst := by
  intro nodeId info hget
  cases call with
  | updateNode now request =>
      change (registry.updateNode now request).getNode nodeId = some info at hget
      rw [getNode_updateNode] at hget
      split at hget
      · obtain rfl := Option.some.inj hget
        rw [heartbeatInfo_firstSeen]
        cases hold : registry.getNode request.nodeId with
        | none => exact le_refl now
        | some existing => exact (hfirst _ existing hold).trans (hnot existing hold)
      · exact hfirst nodeId info hget
  | reapStaleNodes now =>
      change (registry.reapStaleNodes now).1.getNode nodeId = some info at hget
      rw [getNode_reapStaleNodes] at hget
      obtain ⟨old, hold, rfl⟩ := Option.map_eq_some_iff.mp hget
      obtain ⟨hlast, hseen⟩ := registry.reapNode_times now old
      rw [hlast, hseen]
      exact hfirst nodeId old hold

end NodeRegistry

namespace RegistryThreads

/-- A thread that enters the locked section of `update_node` has not read the
clock before the heartbeat that is stored for its node. -/
def InOrder (s : RegistryThreads) : RegistryMove → Prop
  | .lockedSection thread => ∀ call ∈ s.waiting thread, s.registry.NotBefore call
  | _ => True

instance (s : RegistryThreads) : DecidablePred s.InOrder
  | .lockedSection thread =>
      inferInstanceAs (Decidable (∀ call ∈ s.waiting thread, s.registry.NotBefore call))
  | .tick _ | .updateNode _ _ | .reapStaleNodes _ => .isTrue trivial

/-- What a step does to the registry. -/
theorem step_registry {s t : RegistryThreads} {move : RegistryMove}
    (hstep : s.step move = some t) :
    (∃ thread call, move = .lockedSection thread ∧ s.waiting thread = some call ∧
      t.registry = (s.registry.apply call).1) ∨
    (t.registry = s.registry ∧ s.InOrder move) := by
  have hread {thread : Nat} {call : RegistryCall} (h : s.readClock thread call = some t) :
      t.registry = s.registry := by
    unfold readClock at h
    split at h
    · cases h
    · obtain rfl := Option.some.inj h
      rfl
  cases move with
  | tick elapsed =>
      simp only [step] at hstep
      split at hstep
      · obtain rfl := Option.some.inj hstep
        exact .inr ⟨rfl, trivial⟩
      · cases hstep
  | updateNode thread request => exact .inr ⟨hread hstep, trivial⟩
  | reapStaleNodes thread => exact .inr ⟨hread hstep, trivial⟩
  | lockedSection thread =>
      obtain ⟨call, hcall, rfl⟩ := Option.map_eq_some_iff.mp hstep
      exact .inl ⟨thread, call, rfl, hcall, rfl⟩

/-- A step keeps the times exactly when it is in order. -/
theorem step_keepsTimes_iff {s t : RegistryThreads} {move : RegistryMove}
    (hstep : s.step move = some t) :
    s.registry.KeepsTimes t.registry ↔ s.InOrder move := by
  rcases step_registry hstep with ⟨thread, call, rfl, hcall, hregistry⟩ | ⟨hsame, horder⟩
  · rw [hregistry, NodeRegistry.apply_keepsTimes_iff]
    constructor
    · intro hnot other hother
      obtain rfl := Option.some.inj (hcall.symm.trans hother)
      exact hnot
    · intro horder
      exact horder call hcall
  · refine iff_of_true ?_ horder
    rw [hsame]
    exact .refl _

theorem firstSeenFirst {s : RegistryThreads} (hreach : system.ReachableVia InOrder s) :
    s.registry.FirstSeenFirst := by
  induction hreach with
  | init hinit =>
      obtain ⟨⟨floats, heartbeatIntervalS, missedThreshold, hregistry⟩, _⟩ := hinit
      intro nodeId info hget
      rw [hregistry] at hget
      cases hget
  | step _ horder hstep ih =>
      rcases step_registry hstep with ⟨thread, call, rfl, hcall, hregistry⟩ | ⟨hsame, _⟩
      · rw [hregistry]
        exact ih.apply (horder call hcall)
      · rw [hsame]
        exact ih

/-- In a run whose heartbeats are stored in the order of their clock readings, the
times of the nodes are kept by every step, and by no other step they are. -/
theorem heartbeat_times (s : RegistryThreads) :
    (system.ReachableVia InOrder s → s.registry.FirstSeenFirst ∧
      ∀ move t, s.InOrder move → system.step s move = some t →
        s.registry.KeepsTimes t.registry) ∧
    ∀ move t, system.step s move = some t →
      (s.registry.KeepsTimes t.registry ↔ s.InOrder move) := by
  refine ⟨?_, ?_⟩
  · intro hreach
    refine ⟨firstSeenFirst hreach, ?_⟩
    intro move t horder hstep
    exact (step_keepsTimes_iff hstep).mpr horder
  · intro move t hstep
    exact step_keepsTimes_iff hstep

def start : RegistryThreads where
  registry := NodeRegistry.create .exact 5 3
  clock := 0
  waiting := fun _ => none

theorem system_start : system.init start :=
  ⟨⟨.exact, 5, 3, rfl⟩, rfl⟩

def piHeartbeat : HeartbeatRequest where
  nodeId := "pi-1"
  ipAddress := "10.0.0.1"
  availableRamMb := 900
  totalRamMb := 1000
  cpuCount := 4
  arch := "aarch64"
  osName := "Linux"
  osVersion := "6.1"
  inferencePort := 50051

/-- When its node was registered and when it was heard last. -/
def times (registry : NodeRegistry) : Option (ℚ × ℚ) :=
  (registry.getNode piHeartbeat.nodeId).map fun info => (info.firstSeen, info.lastHeartbeat)

/-- A registration, a second heartbeat and a reap, each in order. -/
theorem heartbeat_times_in_order :
    ∃ s, system.ReachableVia InOrder s ∧ times s.registry = some (0, 2) ∧
      s.registry.FirstSeenFirst := by
  obtain ⟨s, hreach, htest⟩ := TransitionSystem.reachable_of_execGuarded
    [.updateNode 0 piHeartbeat, .lockedSection 0, .tick 2, .updateNode 1 piHeartbeat,
      .reapStaleNodes 0, .lockedSection 1, .lockedSection 0]
    (.init system_start) (fun _ _ => of_decide_eq_true)
    (by decide +kernel : ((system.execGuarded (fun s move => decide (s.InOrder move)) start _).any
      fun s => decide (times s.registry = some (0, 2))) = true)
  exact ⟨s, hreach, of_decide_eq_true htest, ((heartbeat_times s).1 hreach).1⟩

/-- Two first heartbeats of a node that take the lock in the other order: the node is
registered at the later time and then heard before it. -/
theorem heartbeat_times_counterexample :
    ∃ s t, system.Reachable s ∧ system.step s (.lockedSection 0) = some t ∧
      times s.registry = some (1, 1) ∧ times t.registry = some (1, 0) ∧
      ¬ s.registry.KeepsTimes t.registry ∧ ¬ t.registry.FirstSeenFirst := by
  obtain ⟨s, hreach, htest⟩ := TransitionSystem.reachable_of_exec
    [.updateNode 0 piHeartbeat, .tick 1, .updateNode 1 piHeartbeat, .lockedSection 1]
    system_start (fun _ _ _ => trivial)
    (by decide +kernel : ((system.exec start _).any fun s =>
      decide (times s.registry = some (1, 1)) &&
        (system.step s (.lockedSection 0)).any fun t =>
          decide (times t.registry = some (1, 0))) = true)
  obtain ⟨hbefore, hafter⟩ := (Bool.and_eq_true _ _).mp htest
  obtain ⟨t, hstep, hafter⟩ := (Option.any_eq_true _ _).mp hafter
  have hbefore := of_decide_eq_true hbefore
  have hafter := of_decide_eq_true hafter
  obtain ⟨info, hinfo, hseen⟩ := Option.map_eq_some_iff.mp hbefore
  obtain ⟨later, hlater, heard⟩ := Option.map_eq_some_iff.mp hafter
  obtain ⟨_, hlast⟩ := Prod.mk.inj hseen
  obtain ⟨hregistered, hheard⟩ := Prod.mk.inj heard
  refine ⟨s, t, hreach, hstep, hbefore, hafter, ?_, ?_⟩
  · intro hkeeps
    obtain ⟨found, hfound, htime, _⟩ := hkeeps _ info hinfo
    obtain rfl := Option.some.inj (hlater.symm.trans hfound)
    rw [hlast, hheard] at htime
    norm_num at htime
  · intro hfirst
    have htime := hfirst _ later hlater
    rw [hregistered, hheard] at htime
    norm_num at htime

end RegistryThreads

end PiSSM.Orchestrator
