import PiSSM.Lib.TransitionSystem
import PiSSM.Orchestrator.PipelineLoad

/-!
`PipelineRunner.load` as a barrier. One load, whose workers all accept their
`LoadShard` and report exactly once, against every order in which the reports
arrive and the waiter threads run. The invariant follows each report from its
slot, where it may arrive before anybody waits for it, to the wait of the same
worker.
-/

namespace PiSSM.Pipeline

open PiSSM.Lib PiSSM.Inference PiSSM.Orchestrator

/-- A load over a non-empty plan of distinct nodes, with what each worker will
report and the slot map it finds. -/
structure LoadSetup where
  plan : DispatchPlan
  result : Nat → ShardReadyResult
  store : ResultStore (MarkedReport Nat)
  nonempty : plan.assignments ≠ []
  distinct : (plan.assignments.map ShardAssignment.nodeId).Nodup

/-- `accepted` are the workers that have accepted their `LoadShard` and
`reported` those whose report has arrived. -/
structure BarrierState where
  run : LoadRun Nat
  store : ResultStore (MarkedReport Nat)
  accepted : Finset Nat
  reported : Finset Nat

inductive BarrierLabel where
  | createSlot
  | dispatch
  | report (index : Nat)
  | startWait (index : Nat)
  | wake (index : Nat)
  | collect (index : Nat)
  | shutdown
  deriving DecidableEq

namespace LoadSetup

def count (setup : LoadSetup) : Nat := setup.plan.assignments.length

def initial (setup : LoadSetup) : BarrierState where
  run := LoadRun.start setup.plan
  store := setup.store
  accepted := ∅
  reported := ∅

def slotKey (setup : LoadSetup) (assignment : ShardAssignment) : String :=
  shardReadyKey setup.plan.modelName assignment.nodeId

/-- The report of the worker of an assignment. -/
def reportRequest (setup : LoadSetup) (index : Nat) (assignment : ShardAssignment) :
    ShardReadyRequest where
  modelName := setup.plan.modelName
  nodeId := assignment.nodeId
  success := (setup.result index).success
  errorMessage := (setup.result index).errorMessage
  memoryUsedMb := (setup.result index).memoryUsedMb
  layersLoaded := (setup.result index).layersLoaded

def step (setup : LoadSetup) (state : BarrierState) : BarrierLabel → Option BarrierState
  | .createSlot =>
      (state.run.createSlot state.store).map fun (run, store) =>
        { state with run := run, store := store }
  | .dispatch =>
      match state.run.phase with
      | .dispatching next =>
          (state.run.dispatched (.ok ⟨true, ""⟩)).map fun run =>
            { state with run := run, accepted := insert next state.accepted }
      | _ => none
  | .report index =>
      match setup.plan.assignments[index]? with
      | none => none
      | some assignment =>
          if index ∈ state.accepted ∧ index ∉ state.reported then
            some { state with
              store := reportShardReady state.store index
                (setup.reportRequest index assignment)
              reported := insert index state.reported }
          else none
  | .startWait index =>
      (state.run.startWait index state.store).map fun run => { state with run := run }
  | .wake index =>
      (state.run.wake index state.store).map fun (run, store) =>
        { state with run := run, store := store }
  | .collect index =>
      (state.run.collect index).map fun run => { state with run := run }
  | .shutdown =>
      state.run.shutdown.map fun run => { state with run := run }

def system (setup : LoadSetup) : TransitionSystem BarrierState BarrierLabel where
  init state := state = setup.initial
  step := setup.step

/-- The exception `load` raises for a worker that reported a failure. -/
def failure (setup : LoadSetup) (index : Nat) (assignment : ShardAssignment) : PyException :=
  .pipelineError (s!"worker {assignment.nodeId} failed to load shard: " ++
    (setup.result index).errorMessage)

variable (setup : LoadSetup)

/-- What has arrived from a worker. -/
def arrived (state : BarrierState) (index : Nat) : Option (MarkedReport Nat) :=
  if index ∈ state.reported then some ⟨index, setup.result index⟩ else none

/-- What has arrived from a worker is in its slot until its own wait takes it. -/
def WaiterOk (state : BarrierState) (index : Nat) (assignment : ShardAssignment) :
    WaiterPhase Nat → Prop
  | .absent => False
  | .queued | .cancelled =>
      state.store.SlotHolds (setup.slotKey assignment) (setup.arrived state index)
  | .blocked event =>
      state.store.slots.get? (setup.slotKey assignment) =
        some (event, setup.arrived state index)
  | .ended outcome =>
      outcome = .ok (some ⟨index, setup.result index⟩) ∧ index ∈ state.reported

/-- Before the waits: nobody waits, and the first `created` slots are there. -/
structure Preparing (state : BarrierState) (created : Nat) : Prop where
  absent : ∀ index, state.run.waiters index = .absent
  collected : state.run.collected = ∅
  slot : ∀ index assignment, index < created →
    setup.plan.assignments[index]? = some assignment →
    state.store.SlotHolds (setup.slotKey assignment) (setup.arrived state index)

/-- From the waits on. -/
structure Waits (state : BarrierState) : Prop where
  accepted : state.accepted = Finset.range setup.count
  waiter : ∀ index assignment, setup.plan.assignments[index]? = some assignment →
    setup.WaiterOk state index assignment (state.run.waiters index)
  collected : ∀ index ∈ state.run.collected, index < setup.count ∧
    index ∈ state.reported ∧ (setup.result index).success = true

/-- A worker has reported a failure, and this is the exception for it. -/
def Failure (state : BarrierState) (err : PyException) : Prop :=
  ∃ index assignment, setup.plan.assignments[index]? = some assignment ∧
    index ∈ state.reported ∧ (setup.result index).success = false ∧
    err = setup.failure index assignment

def PhaseOk (state : BarrierState) : LoadPhase → Prop
  | .creating next =>
      next < setup.count ∧ state.accepted = ∅ ∧ setup.Preparing state next
  | .dispatching next =>
      next < setup.count ∧ state.accepted = Finset.range next ∧
        setup.Preparing state setup.count
  | .waiting =>
      setup.Waits state ∧ (∀ index, state.run.waiters index ≠ .cancelled) ∧
        state.run.collected ≠ Finset.range setup.count
  | .failing err => setup.Waits state ∧ setup.Failure state err
  | .returned =>
      setup.Waits state ∧ state.run.collected = Finset.range setup.count
  | .raised err => setup.Waits state ∧ setup.Failure state err

structure BarrierInv (state : BarrierState) : Prop where
  plan : state.run.plan = setup.plan
  reported : state.reported ⊆ state.accepted
  accepted : state.accepted ⊆ Finset.range setup.count
  phase : setup.PhaseOk state state.run.phase

variable {setup}

theorem slotKey_ne {i j : Nat} {a b : ShardAssignment}
    (ha : setup.plan.assignments[i]? = some a) (hb : setup.plan.assignments[j]? = some b)
    (hne : i ≠ j) : setup.slotKey a ≠ setup.slotKey b := by
  intro heq
  have hnode : a.nodeId = b.nodeId := shardReadyKey_inj heq
  have hi : (setup.plan.assignments.map ShardAssignment.nodeId)[i]? = some a.nodeId := by
    rw [List.getElem?_map, ha, Option.map_some]
  have hj : (setup.plan.assignments.map ShardAssignment.nodeId)[j]? = some a.nodeId := by
    rw [List.getElem?_map, hb, Option.map_some, hnode]
  have hbound : i < (setup.plan.assignments.map ShardAssignment.nodeId).length :=
    (List.getElem?_eq_some_iff.mp hi).1
  exact hne ((List.getElem?_inj hbound setup.distinct).mp (hi.trans hj.symm))

theorem exists_assignment {index : Nat} (hlt : index < setup.count) :
    ∃ assignment, setup.plan.assignments[index]? = some assignment :=
  ⟨_, List.getElem?_eq_getElem hlt⟩

theorem lt_count {index : Nat} {assignment : ShardAssignment}
    (hget : setup.plan.assignments[index]? = some assignment) : index < setup.count :=
  (List.getElem?_eq_some_iff.mp hget).1

theorem initial_inv : setup.BarrierInv setup.initial where
  plan := rfl
  reported := Finset.empty_subset _
  accepted := Finset.empty_subset _
  phase := by
    have hpos : 0 < setup.count := List.length_pos_of_ne_nil setup.nonempty
    have hphase : setup.initial.run.phase = .creating 0 := if_neg setup.nonempty
    rw [hphase]
    exact ⟨hpos, rfl, fun _ => rfl, rfl, fun index _ hlt => absurd hlt (Nat.not_lt_zero _)⟩

variable {state next : BarrierState}

theorem BarrierInv.key_eq (hinv : setup.BarrierInv state) (assignment : ShardAssignment) :
    state.run.key assignment = setup.slotKey assignment := by
  rw [LoadRun.key, hinv.plan, slotKey]

theorem BarrierInv.length_eq (hinv : setup.BarrierInv state) :
    state.run.plan.assignments.length = setup.count := by
  rw [hinv.plan, count]

theorem BarrierInv.createSlot (hinv : setup.BarrierInv state)
    (hstep : setup.step state .createSlot = some next) : setup.BarrierInv next := by
  obtain ⟨⟨run, store⟩, hcreate, rfl⟩ := Option.map_eq_some_iff.mp hstep
  obtain ⟨created, assignment, hcreating, hget, rfl, rfl⟩ := LoadRun.createSlot_some hcreate
  have hphase := hinv.phase
  rw [hcreating] at hphase
  obtain ⟨hlt, hnone, habsent, hcollected, hslots⟩ := hphase
  rw [hinv.plan] at hget
  have hslots' (index : Nat) (other : ShardAssignment) (hle : index < created + 1)
      (hother : setup.plan.assignments[index]? = some other) :
      (state.store.createSlot (setup.slotKey assignment)).SlotHolds
        (setup.slotKey other) (setup.arrived state index) := by
    by_cases hindex : index = created
    · subst hindex
      obtain rfl : assignment = other := Option.some.inj (hget.symm.trans hother)
      have hnot : index ∉ state.reported := by
        intro hreported
        have haccepted := hinv.reported hreported
        rw [hnone] at haccepted
        simp at haccepted
      rw [arrived, if_neg hnot]
      exact ResultStore.createSlot_slotHolds _ _
    · exact (hslots index other (by omega) hother).createSlot
        (slotKey_ne hother hget hindex)
  rw [hinv.key_eq]
  refine ⟨hinv.plan, hinv.reported, hinv.accepted, ?_⟩
  by_cases hmore : created + 1 < setup.count
  · simp only [hinv.length_eq, if_pos hmore]
    exact ⟨hmore, hnone, habsent, hcollected, hslots'⟩
  · simp only [hinv.length_eq, if_neg hmore]
    have hall : setup.count = created + 1 := by omega
    refine ⟨by omega, hnone, habsent, hcollected, ?_⟩
    rw [hall]
    exact hslots'

/-- The next worker accepts its request; after the last one the waits are
submitted. -/
theorem BarrierInv.dispatch_cases (hinv : setup.BarrierInv state)
    (hstep : setup.step state .dispatch = some next) :
    ∃ sent, state.run.phase = .dispatching sent ∧
      ((sent + 1 < setup.count ∧
          next = { state with
            run := { state.run with phase := .dispatching (sent + 1) }
            accepted := insert sent state.accepted }) ∨
        (sent + 1 = setup.count ∧
          next = { state with
            run := { state.run with
              phase := .waiting
              waiters := fun index => if index < setup.count then .queued else .absent }
            accepted := insert sent state.accepted })) := by
  simp only [LoadSetup.step] at hstep
  split at hstep
  · next sent hdispatching =>
      obtain ⟨run, hrun, rfl⟩ := Option.map_eq_some_iff.mp hstep
      refine ⟨sent, hdispatching, ?_⟩
      have hphase := hinv.phase
      rw [hdispatching] at hphase
      obtain ⟨assignment, hget⟩ := exists_assignment hphase.1
      have hlt := lt_count hget
      rw [← hinv.plan] at hget
      simp only [LoadRun.dispatched, hdispatching, hget, if_true, hinv.length_eq] at hrun
      by_cases hmore : sent + 1 < setup.count
      · rw [if_pos hmore] at hrun
        obtain rfl := Option.some.inj hrun
        exact .inl ⟨hmore, rfl⟩
      · rw [if_neg hmore] at hrun
        obtain rfl := Option.some.inj hrun
        exact .inr ⟨by omega, rfl⟩
  · cases hstep

theorem BarrierInv.dispatch (hinv : setup.BarrierInv state)
    (hstep : setup.step state .dispatch = some next) : setup.BarrierInv next := by
  obtain ⟨sent, hdispatching, hcases⟩ := hinv.dispatch_cases hstep
  have hphase := hinv.phase
  rw [hdispatching] at hphase
  obtain ⟨hlt, haccepted, hprepared⟩ := hphase
  have haccepted' : insert sent state.accepted = Finset.range (sent + 1) := by
    rw [haccepted, Finset.range_add_one]
  have hreported : state.reported ⊆ insert sent state.accepted :=
    hinv.reported.trans (Finset.subset_insert _ _)
  have hbound : insert sent state.accepted ⊆ Finset.range setup.count := by
    rw [haccepted']
    exact Finset.range_subset_range.mpr hlt
  rcases hcases with ⟨hmore, rfl⟩ | ⟨hall, rfl⟩
  · refine ⟨hinv.plan, hreported, hbound, ?_⟩
    exact ⟨hmore, haccepted', hprepared.absent, hprepared.collected, hprepared.slot⟩
  · refine ⟨hinv.plan, hreported, hbound, ⟨?_, ?_, ?_⟩, ?_, ?_⟩
    · rw [haccepted', hall]
    · intro index other hother
      have hindex := lt_count hother
      simp only [if_pos hindex]
      exact hprepared.slot index other hindex hother
    · intro index hindex
      rw [hprepared.collected] at hindex
      simp at hindex
    · intro index hcancelled
      simp only at hcancelled
      split at hcancelled <;> cases hcancelled
    · intro hfull
      rw [hprepared.collected] at hfull
      have hzero := congrArg Finset.card hfull
      rw [Finset.card_empty, Finset.card_range] at hzero
      omega

/-- The state after the report of a worker has arrived. -/
def reportState (setup : LoadSetup) (state : BarrierState) (index : Nat)
    (assignment : ShardAssignment) : BarrierState :=
  { state with
    store := reportShardReady state.store index (setup.reportRequest index assignment)
    reported := insert index state.reported }

theorem reportShardReady_eq (store : ResultStore (MarkedReport Nat)) (index : Nat)
    (assignment : ShardAssignment) :
    reportShardReady store index (setup.reportRequest index assignment) =
      (store.deliver (setup.slotKey assignment) ⟨index, setup.result index⟩).1 := rfl

/-- A slot after a report: that of the sender has it, the others are as before. -/
theorem slotHolds_reportState {index i : Nat} {assignment a : ShardAssignment}
    (hget : setup.plan.assignments[index]? = some assignment)
    (ha : setup.plan.assignments[i]? = some a)
    (hslot : state.store.SlotHolds (setup.slotKey a) (setup.arrived state i)) :
    (setup.reportState state index assignment).store.SlotHolds (setup.slotKey a)
      (setup.arrived (setup.reportState state index assignment) i) := by
  by_cases hi : i = index
  · subst hi
    obtain rfl : assignment = a := Option.some.inj (hget.symm.trans ha)
    have harrived : setup.arrived (setup.reportState state i assignment) i =
        some ⟨i, setup.result i⟩ := if_pos (Finset.mem_insert_self _ _)
    rw [harrived]
    exact hslot.deliver _
  · have harrived : setup.arrived (setup.reportState state index assignment) i =
        setup.arrived state i := by
      simp only [arrived, reportState, Finset.mem_insert, hi, false_or]
    rw [harrived]
    exact hslot.deliver_of_ne (slotKey_ne ha hget hi) _

theorem WaiterOk.report {index i : Nat} {assignment a : ShardAssignment}
    {waiter : WaiterPhase Nat} (hwaiter : setup.WaiterOk state i a waiter)
    (hget : setup.plan.assignments[index]? = some assignment)
    (ha : setup.plan.assignments[i]? = some a) :
    setup.WaiterOk (setup.reportState state index assignment) i a waiter := by
  cases waiter with
  | absent => exact hwaiter
  | queued => exact slotHolds_reportState hget ha hwaiter
  | cancelled => exact slotHolds_reportState hget ha hwaiter
  | blocked event =>
      -- The delivery keeps the event the waiter is blocked on.
      have hwaiter : state.store.slots.get? (setup.slotKey a) =
          some (event, setup.arrived state i) := hwaiter
      obtain ⟨event', hslot⟩ := slotHolds_reportState hget ha ⟨event, hwaiter⟩
      have hevent : event' = event := by
        have hkept := hslot
        simp only [reportState, reportShardReady_eq, ResultStore.deliver_get?] at hkept
        split at hkept
        · next hkey =>
            rw [← hkey, hwaiter, Option.map_some] at hkept
            exact (congrArg Prod.fst (Option.some.inj hkept)).symm
        · rw [hwaiter] at hkept
          exact (congrArg Prod.fst (Option.some.inj hkept)).symm
      rw [hevent] at hslot
      exact hslot
  | ended outcome => exact ⟨hwaiter.1, Finset.mem_insert_of_mem hwaiter.2⟩

theorem Waits.report {index : Nat} {assignment : ShardAssignment}
    (hget : setup.plan.assignments[index]? = some assignment) (hwaits : setup.Waits state) :
    setup.Waits (setup.reportState state index assignment) where
  accepted := hwaits.accepted
  waiter i a ha := (hwaits.waiter i a ha).report hget ha
  collected i hi := by
    obtain ⟨hlt, hreported, hsuccess⟩ := hwaits.collected i hi
    exact ⟨hlt, Finset.mem_insert_of_mem hreported, hsuccess⟩

theorem Failure.report {index : Nat} {assignment : ShardAssignment} {err : PyException}
    (hfailure : setup.Failure state err) :
    setup.Failure (setup.reportState state index assignment) err := by
  obtain ⟨i, a, ha, hreported, hfailed, herr⟩ := hfailure
  exact ⟨i, a, ha, Finset.mem_insert_of_mem hreported, hfailed, herr⟩

theorem BarrierInv.report {index : Nat} (hinv : setup.BarrierInv state)
    (hstep : setup.step state (.report index) = some next) : setup.BarrierInv next := by
  simp only [LoadSetup.step] at hstep
  split at hstep
  · cases hstep
  · next assignment hget =>
      split at hstep
      · next hready =>
          obtain ⟨haccepted, hnot⟩ := hready
          obtain rfl := Option.some.inj hstep
          change setup.BarrierInv (setup.reportState state index assignment)
          refine ⟨hinv.plan, ?_, hinv.accepted, ?_⟩
          · exact Finset.insert_subset haccepted hinv.reported
          · have hphase := hinv.phase
            change setup.PhaseOk (setup.reportState state index assignment) state.run.phase
            cases hcase : state.run.phase with
            | creating created =>
                rw [hcase] at hphase
                rw [hphase.2.1] at haccepted
                simp at haccepted
            | dispatching sent =>
                rw [hcase] at hphase
                obtain ⟨hlt, hsent, habsent, hcollected, hslots⟩ := hphase
                exact ⟨hlt, hsent, habsent, hcollected, fun i a hi ha =>
                  slotHolds_reportState hget ha (hslots i a hi ha)⟩
            | waiting | returned =>
                rw [hcase] at hphase
                exact ⟨hphase.1.report hget, hphase.2⟩
            | failing err | raised err =>
                rw [hcase] at hphase
                exact ⟨hphase.1.report hget, hphase.2.report⟩
      · cases hstep

/-- A waiter sees only its own slot and what has arrived. -/
theorem WaiterOk.congr {i : Nat} {a : ShardAssignment} {waiter : WaiterPhase Nat}
    (hwaiter : setup.WaiterOk state i a waiter)
    (hslot : next.store.slots.get? (setup.slotKey a) =
      state.store.slots.get? (setup.slotKey a))
    (hreported : next.reported = state.reported) : setup.WaiterOk next i a waiter := by
  have harrived : setup.arrived next i = setup.arrived state i := by
    rw [arrived, arrived, hreported]
  cases waiter with
  | absent => exact hwaiter
  | queued =>
      simp only [WaiterOk, ResultStore.SlotHolds, hslot, harrived] at hwaiter ⊢
      exact hwaiter
  | cancelled =>
      simp only [WaiterOk, ResultStore.SlotHolds, hslot, harrived] at hwaiter ⊢
      exact hwaiter
  | blocked event =>
      simp only [WaiterOk, hslot, harrived] at hwaiter ⊢
      exact hwaiter
  | ended outcome =>
      simp only [WaiterOk, hreported] at hwaiter ⊢
      exact hwaiter

/-- The state after one waiter has taken a step. -/
def waiterState (state : BarrierState) (index : Nat) (waiter : WaiterPhase Nat)
    (store : ResultStore (MarkedReport Nat)) : BarrierState :=
  { state with run := state.run.setWaiter index waiter, store := store }

theorem Waits.setWaiter {index : Nat} {assignment : ShardAssignment}
    {waiter : WaiterPhase Nat} {store : ResultStore (MarkedReport Nat)}
    (hwaits : setup.Waits state)
    (hget : setup.plan.assignments[index]? = some assignment)
    (hothers : ∀ query ≠ setup.slotKey assignment,
      store.slots.get? query = state.store.slots.get? query)
    (hwaiter : setup.WaiterOk (waiterState state index waiter store) index assignment
      waiter) :
    setup.Waits (waiterState state index waiter store) where
  accepted := hwaits.accepted
  waiter i a ha := by
    by_cases hi : i = index
    · subst hi
      obtain rfl : assignment = a := Option.some.inj (hget.symm.trans ha)
      simp only [waiterState, LoadRun.setWaiter, Function.update_self]
      exact hwaiter
    · simp only [waiterState, LoadRun.setWaiter, Function.update_of_ne hi]
      exact (hwaits.waiter i a ha).congr (hothers _ (slotKey_ne ha hget hi)) rfl
  collected := hwaits.collected

theorem BarrierInv.setWaiter {index : Nat} {assignment : ShardAssignment}
    {waiter : WaiterPhase Nat} {store : ResultStore (MarkedReport Nat)}
    (hinv : setup.BarrierInv state)
    (hget : setup.plan.assignments[index]? = some assignment)
    (hpresent : state.run.waiters index ≠ .absent) (hcancelled : waiter ≠ .cancelled)
    (hothers : ∀ query ≠ setup.slotKey assignment,
      store.slots.get? query = state.store.slots.get? query)
    (hwaiter : setup.WaiterOk state index assignment (state.run.waiters index) →
      setup.WaiterOk (waiterState state index waiter store) index assignment waiter) :
    setup.BarrierInv (waiterState state index waiter store) where
  plan := hinv.plan
  reported := hinv.reported
  accepted := hinv.accepted
  phase := by
    have hphase := hinv.phase
    have hwaits (hbefore : setup.Waits state) :
        setup.Waits (waiterState state index waiter store) :=
      hbefore.setWaiter hget hothers (hwaiter (hbefore.waiter index assignment hget))
    change setup.PhaseOk (waiterState state index waiter store) state.run.phase
    cases hcase : state.run.phase with
    | creating _ | dispatching _ =>
        rw [hcase] at hphase
        exact absurd (hphase.2.2.absent index) hpresent
    | waiting =>
        rw [hcase] at hphase
        refine ⟨hwaits hphase.1, ?_, hphase.2.2⟩
        intro i
        simp only [waiterState, LoadRun.setWaiter]
        by_cases hi : i = index
        · subst hi
          rw [Function.update_self]
          exact hcancelled
        · rw [Function.update_of_ne hi]
          exact hphase.2.1 i
    | failing _ | returned | raised _ =>
        rw [hcase] at hphase
        exact ⟨hwaits hphase.1, hphase.2⟩

theorem BarrierInv.startWait {index : Nat} (hinv : setup.BarrierInv state)
    (hstep : setup.step state (.startWait index) = some next) : setup.BarrierInv next := by
  obtain ⟨run, hrun, rfl⟩ := Option.map_eq_some_iff.mp hstep
  obtain ⟨assignment, hqueued, hget, hcases⟩ := LoadRun.startWait_some hrun
  rw [hinv.plan] at hget
  have hpresent : state.run.waiters index ≠ .absent := by
    rw [hqueued]
    simp
  rcases hcases with ⟨err, hmissing, rfl⟩ | ⟨event, hfound, rfl⟩
  · refine hinv.setWaiter hget hpresent (by simp) (fun _ _ => rfl) ?_
    intro hwaiter
    rw [hqueued] at hwaiter
    obtain ⟨event, hslot⟩ := hwaiter
    simp only [ResultStore.slotEvent, hinv.key_eq, hslot] at hmissing
    cases hmissing
  · refine hinv.setWaiter hget hpresent (by simp) (fun _ _ => rfl) ?_
    intro hwaiter
    rw [hqueued] at hwaiter
    obtain ⟨event', hslot⟩ := hwaiter
    simp only [ResultStore.slotEvent, hinv.key_eq, hslot] at hfound
    obtain rfl := Except.ok.inj hfound
    exact hslot

theorem BarrierInv.wake {index : Nat} (hinv : setup.BarrierInv state)
    (hstep : setup.step state (.wake index) = some next) : setup.BarrierInv next := by
  obtain ⟨⟨run, store⟩, hrun, rfl⟩ := Option.map_eq_some_iff.mp hstep
  obtain ⟨assignment, event, hblocked, hget, hfired, rfl, rfl⟩ := LoadRun.wake_some hrun
  rw [hinv.plan] at hget
  rw [hinv.key_eq]
  refine hinv.setWaiter hget ?_ (by simp) ?_ ?_
  · rw [hblocked]
    simp
  · intro query hquery
    exact (ResultStore.popSlot_get? _ _ _).trans (if_neg hquery)
  · intro hwaiter
    rw [hblocked] at hwaiter
    have hwaiter : state.store.slots.get? (setup.slotKey assignment) =
        some (event, setup.arrived state index) := hwaiter
    -- The event has fired because the worker's report is in the slot.
    have hsome := (state.store.fired_iff _ _ _ hwaiter).mp hfired
    have hreported : index ∈ state.reported := by
      by_contra hnot
      rw [arrived, if_neg hnot] at hsome
      cases hsome
    have hresult : setup.arrived state index = some ⟨index, setup.result index⟩ :=
      if_pos hreported
    refine ⟨?_, hreported⟩
    simp only [ResultStore.popSlot, hwaiter, Option.bind_some, hresult]

/-- What the load makes of the report of a worker. -/
theorem checkResult_report (index : Nat) (assignment : ShardAssignment) :
    LoadRun.checkResult assignment (.ok (some ⟨index, setup.result index⟩)) =
      if (setup.result index).success then .ok ()
      else .error (setup.failure index assignment) := rfl

theorem BarrierInv.collect {index : Nat} (hinv : setup.BarrierInv state)
    (hstep : setup.step state (.collect index) = some next) : setup.BarrierInv next := by
  obtain ⟨run, hrun, rfl⟩ := Option.map_eq_some_iff.mp hstep
  obtain ⟨outcome, assignment, hwaiting, hended, hget, _, hcases⟩ := LoadRun.collect_some hrun
  have hphase := hinv.phase
  rw [hwaiting] at hphase
  obtain ⟨hwaits, hcancelled, hopen⟩ := hphase
  rw [hinv.plan] at hget
  have hwaiter := hwaits.waiter index assignment hget
  rw [hended] at hwaiter
  obtain ⟨rfl, hreported⟩ := hwaiter
  rw [checkResult_report] at hcases
  rcases hcases with ⟨err, hchecked, rfl⟩ | ⟨hchecked, rfl⟩
  · split at hchecked
    · cases hchecked
    · next hfailed =>
        obtain rfl := Except.error.inj hchecked
        refine ⟨hinv.plan, hinv.reported, hinv.accepted, ?_⟩
        exact ⟨⟨hwaits.accepted, hwaits.waiter, hwaits.collected⟩,
          index, assignment, hget, hreported, Bool.eq_false_of_not_eq_true hfailed, rfl⟩
  · split at hchecked
    · next hsuccess =>
        have hcollected : ∀ i ∈ insert index state.run.collected, i < setup.count ∧
            i ∈ state.reported ∧ (setup.result i).success = true := by
          intro i hi
          rcases Finset.mem_insert.mp hi with rfl | hi
          · exact ⟨lt_count hget, hreported, hsuccess⟩
          · exact hwaits.collected i hi
        refine ⟨hinv.plan, hinv.reported, hinv.accepted, ?_⟩
        by_cases hfull : insert index state.run.collected = Finset.range setup.count
        · simp only [hinv.length_eq, if_pos hfull]
          exact ⟨⟨hwaits.accepted, hwaits.waiter, hcollected⟩, hfull⟩
        · simp only [hinv.length_eq, if_neg hfull]
          exact ⟨⟨hwaits.accepted, hwaits.waiter, hcollected⟩, hcancelled, hfull⟩
    · cases hchecked

/-- To a waiter it makes no difference that its future is cancelled. -/
theorem WaiterOk.cancel {index : Nat} {assignment : ShardAssignment}
    {waiter : WaiterPhase Nat} (hwaiter : setup.WaiterOk state index assignment waiter) :
    setup.WaiterOk state index assignment waiter.cancel := by
  cases waiter with
  | absent => exact hwaiter
  | queued => exact hwaiter
  | cancelled => exact hwaiter
  | blocked event => exact hwaiter
  | ended outcome => exact hwaiter

theorem BarrierInv.shutdown (hinv : setup.BarrierInv state)
    (hstep : setup.step state .shutdown = some next) : setup.BarrierInv next := by
  obtain ⟨run, hrun, rfl⟩ := Option.map_eq_some_iff.mp hstep
  obtain ⟨err, hfailing, rfl⟩ := LoadRun.shutdown_some hrun
  have hphase := hinv.phase
  rw [hfailing] at hphase
  obtain ⟨hwaits, hfailure⟩ := hphase
  refine ⟨hinv.plan, hinv.reported, hinv.accepted, ⟨hwaits.accepted, ?_,
    hwaits.collected⟩, hfailure⟩
  intro index assignment hget
  exact (hwaits.waiter index assignment hget).cancel.congr rfl rfl

theorem BarrierInv.step {label : BarrierLabel} (hinv : setup.BarrierInv state)
    (hstep : setup.step state label = some next) : setup.BarrierInv next := by
  cases label with
  | createSlot => exact hinv.createSlot hstep
  | dispatch => exact hinv.dispatch hstep
  | report index => exact hinv.report hstep
  | startWait index => exact hinv.startWait hstep
  | wake index => exact hinv.wake hstep
  | collect index => exact hinv.collect hstep
  | shutdown => exact hinv.shutdown hstep

theorem inv_of_reachable (hreach : setup.system.Reachable state) :
    setup.BarrierInv state := by
  refine hreach.invariant ?_ ?_
  · rintro state rfl
    exact initial_inv
  · intro state label next _ hinv _ hstep
    exact hinv.step hstep

/-- What has arrived is in the slot of its worker or with that worker's wait, and
a wait has nothing else. -/
def ReportKept (setup : LoadSetup) (state : BarrierState) (index : Nat)
    (assignment : ShardAssignment) : Prop :=
  (index ∈ state.reported →
    state.store.SlotHolds (setup.slotKey assignment) (some ⟨index, setup.result index⟩) ∨
      state.run.waiters index = .ended (.ok (some ⟨index, setup.result index⟩))) ∧
  ∀ outcome, state.run.waiters index = .ended outcome →
    outcome = .ok (some ⟨index, setup.result index⟩) ∧ index ∈ state.reported

theorem Preparing.report_kept {created index : Nat} {assignment : ShardAssignment}
    (hprepared : setup.Preparing state created)
    (hget : setup.plan.assignments[index]? = some assignment)
    (hlt : index ∈ state.reported → index < created) :
    setup.ReportKept state index assignment := by
  constructor
  · intro hreported
    have hslot := hprepared.slot index assignment (hlt hreported) hget
    rw [arrived, if_pos hreported] at hslot
    exact .inl hslot
  · intro outcome hended
    rw [hprepared.absent index] at hended
    cases hended

theorem Waits.report_kept {index : Nat} {assignment : ShardAssignment}
    (hwaits : setup.Waits state)
    (hget : setup.plan.assignments[index]? = some assignment) :
    setup.ReportKept state index assignment := by
  have hwaiter := hwaits.waiter index assignment hget
  constructor
  · intro hreported
    have harrived : setup.arrived state index = some ⟨index, setup.result index⟩ :=
      if_pos hreported
    cases hcase : state.run.waiters index with
    | absent =>
        rw [hcase] at hwaiter
        exact hwaiter.elim
    | queued =>
        rw [hcase, WaiterOk, harrived] at hwaiter
        exact .inl hwaiter
    | cancelled =>
        rw [hcase, WaiterOk, harrived] at hwaiter
        exact .inl hwaiter
    | blocked event =>
        rw [hcase, WaiterOk, harrived] at hwaiter
        exact .inl ⟨event, hwaiter⟩
    | ended outcome =>
        rw [hcase] at hwaiter
        exact .inr (by rw [hwaiter.1])
  · intro outcome hended
    rw [hended] at hwaiter
    exact hwaiter

theorem BarrierInv.report_kept (hinv : setup.BarrierInv state) {index : Nat}
    {assignment : ShardAssignment}
    (hget : setup.plan.assignments[index]? = some assignment) :
    setup.ReportKept state index assignment := by
  have hphase := hinv.phase
  cases hcase : state.run.phase with
  | creating created =>
      rw [hcase] at hphase
      refine hphase.2.2.report_kept hget fun hreported => ?_
      have haccepted := hinv.reported hreported
      rw [hphase.2.1] at haccepted
      simp at haccepted
  | dispatching sent =>
      rw [hcase] at hphase
      exact hphase.2.2.report_kept hget fun _ => lt_count hget
  | waiting | failing _ | returned | raised _ =>
      rw [hcase] at hphase
      exact hphase.1.report_kept hget

/-- While the load waits, somebody can move: a report is due, a waiter can start
or wake, or an ended wait can be collected. -/
theorem waiting_moves (hinv : setup.BarrierInv state) (hwaiting : state.run.phase = .waiting) :
    ∃ label, setup.step state label ≠ none := by
  have hphase := hinv.phase
  rw [hwaiting] at hphase
  obtain ⟨hwaits, hcancelled, hopen⟩ := hphase
  -- Some wait has not been collected yet.
  obtain ⟨index, hlt, huncollected⟩ : ∃ index < setup.count, index ∉ state.run.collected := by
    by_contra hall
    push Not at hall
    apply hopen
    apply Finset.Subset.antisymm
    · intro index hindex
      exact Finset.mem_range.mpr (hwaits.collected index hindex).1
    · intro index hindex
      exact hall index (Finset.mem_range.mp hindex)
  obtain ⟨assignment, hget⟩ := exists_assignment hlt
  have hget' : state.run.plan.assignments[index]? = some assignment := by
    rw [hinv.plan, hget]
  by_cases hreported : index ∈ state.reported
  · have hwaiter := hwaits.waiter index assignment hget
    cases hcase : state.run.waiters index with
    | absent =>
        rw [hcase] at hwaiter
        exact hwaiter.elim
    | cancelled => exact absurd hcase (hcancelled index)
    | queued =>
        refine ⟨.startWait index, ?_⟩
        simp only [LoadSetup.step, LoadRun.startWait, hcase, hget']
        split <;> simp
    | blocked event =>
        rw [hcase] at hwaiter
        have hwaiter : state.store.slots.get? (setup.slotKey assignment) =
            some (event, setup.arrived state index) := hwaiter
        have hfired : event ∈ state.store.fired := by
          rw [state.store.fired_iff _ _ _ hwaiter, arrived, if_pos hreported]
          rfl
        refine ⟨.wake index, ?_⟩
        simp only [LoadSetup.step, LoadRun.wake, hcase, hget', if_pos hfired]
        simp
    | ended outcome =>
        refine ⟨.collect index, ?_⟩
        simp only [LoadSetup.step, LoadRun.collect, hwaiting, hcase, hget',
          if_neg huncollected]
        split <;> simp
  · refine ⟨.report index, ?_⟩
    have haccepted : index ∈ state.accepted := by
      rw [hwaits.accepted]
      exact Finset.mem_range.mpr hlt
    simp only [LoadSetup.step, hget, haccepted, hreported, not_false_eq_true, and_self,
      if_true]
    simp

/-- A state in which nothing can move is one in which `load` has ended. -/
theorem ended_of_stuck (hinv : setup.BarrierInv state)
    (hstuck : ∀ label, setup.step state label = none) :
    state.run.phase = .returned ∨ ∃ err, state.run.phase = .raised err := by
  have hphase := hinv.phase
  cases hcase : state.run.phase with
  | creating created =>
      rw [hcase] at hphase
      obtain ⟨assignment, hget⟩ := exists_assignment hphase.1
      have hnone := hstuck .createSlot
      simp [LoadSetup.step, LoadRun.createSlot, hcase, hinv.plan, hget] at hnone
  | dispatching sent =>
      rw [hcase] at hphase
      obtain ⟨assignment, hget⟩ := exists_assignment hphase.1
      have hnone := hstuck .dispatch
      simp only [LoadSetup.step, hcase, LoadRun.dispatched, hinv.plan, hget, if_true] at hnone
      split at hnone <;> cases hnone
  | waiting =>
      obtain ⟨label, hlabel⟩ := waiting_moves hinv hcase
      exact absurd (hstuck label) hlabel
  | failing err =>
      have hnone := hstuck .shutdown
      simp [LoadSetup.step, LoadRun.shutdown, hcase] at hnone
  | returned => exact .inl rfl
  | raised err => exact .inr ⟨err, rfl⟩

/-- The steps a waiter, and the main thread, have still to take at most. -/
def waiterWork : WaiterPhase Nat → Nat
  | .absent => 3
  | .queued => 2
  | .blocked _ => 1
  | .cancelled | .ended _ => 0

def phaseWork (count : Nat) : LoadPhase → Nat
  | .creating next => 2 * count - next + 3
  | .dispatching next => count - next + 3
  | .waiting => 2
  | .failing _ => 1
  | .returned | .raised _ => 0

def work (setup : LoadSetup) (state : BarrierState) : Nat :=
  phaseWork setup.count state.run.phase +
    (∑ index ∈ Finset.range setup.count, waiterWork (state.run.waiters index)) +
    (setup.count - state.reported.card) + (setup.count - state.run.collected.card)

theorem sum_waiterWork_setWaiter {index : Nat} (hlt : index < setup.count)
    {waiter : WaiterPhase Nat}
    (hless : waiterWork waiter < waiterWork (state.run.waiters index)) :
    ∑ i ∈ Finset.range setup.count,
        waiterWork (Function.update state.run.waiters index waiter i) <
      ∑ i ∈ Finset.range setup.count, waiterWork (state.run.waiters i) := by
  apply Finset.sum_lt_sum
  · intro i _
    by_cases hi : i = index
    · subst hi
      rw [Function.update_self]
      exact Nat.le_of_lt hless
    · rw [Function.update_of_ne hi]
  · refine ⟨index, Finset.mem_range.mpr hlt, ?_⟩
    rw [Function.update_self]
    exact hless

theorem setWaiter_work {index : Nat} {assignment : ShardAssignment}
    (hget : setup.plan.assignments[index]? = some assignment)
    {waiter : WaiterPhase Nat} {store : ResultStore (MarkedReport Nat)}
    (hless : waiterWork waiter < waiterWork (state.run.waiters index)) :
    setup.work (waiterState state index waiter store) < setup.work state := by
  have hsum := sum_waiterWork_setWaiter (lt_count hget) hless
  simp only [work, waiterState, LoadRun.setWaiter]
  omega

theorem createSlot_work (hinv : setup.BarrierInv state)
    (hstep : setup.step state .createSlot = some next) : setup.work next < setup.work state := by
  obtain ⟨⟨run, store⟩, hrun, rfl⟩ := Option.map_eq_some_iff.mp hstep
  obtain ⟨created, assignment, hcreating, hget, rfl, rfl⟩ := LoadRun.createSlot_some hrun
  rw [hinv.plan] at hget
  have hlt := lt_count hget
  simp only [work, hcreating, hinv.length_eq]
  by_cases hmore : created + 1 < setup.count
  · simp only [if_pos hmore, phaseWork]
    omega
  · simp only [if_neg hmore, phaseWork]
    omega

theorem dispatch_work (hinv : setup.BarrierInv state)
    (hstep : setup.step state .dispatch = some next) : setup.work next < setup.work state := by
  obtain ⟨sent, hdispatching, hcases⟩ := hinv.dispatch_cases hstep
  have hphase := hinv.phase
  rw [hdispatching] at hphase
  obtain ⟨hlt, _, hprepared⟩ := hphase
  rcases hcases with ⟨hmore, rfl⟩ | ⟨_, rfl⟩
  · simp only [work, hdispatching, phaseWork]
    omega
  · have hwaiters : ∑ i ∈ Finset.range setup.count,
        waiterWork (if i < setup.count then .queued else .absent) ≤
        ∑ i ∈ Finset.range setup.count, waiterWork (state.run.waiters i) := by
      apply Finset.sum_le_sum
      intro i hi
      rw [hprepared.absent i, if_pos (Finset.mem_range.mp hi)]
      decide
    simp only [work, hdispatching, phaseWork]
    omega

theorem report_work {index : Nat} (hinv : setup.BarrierInv state)
    (hstep : setup.step state (.report index) = some next) :
    setup.work next < setup.work state := by
  simp only [LoadSetup.step] at hstep
  split at hstep
  · cases hstep
  · split at hstep
    · next hready =>
        obtain rfl := Option.some.inj hstep
        have hcard := Finset.card_insert_of_notMem hready.2
        have hsub : insert index state.reported ⊆ Finset.range setup.count :=
          (Finset.insert_subset hready.1 hinv.reported).trans hinv.accepted
        have hle := Finset.card_le_card hsub
        rw [Finset.card_range] at hle
        simp only [work]
        omega
    · cases hstep

theorem startWait_work {index : Nat} (hinv : setup.BarrierInv state)
    (hstep : setup.step state (.startWait index) = some next) :
    setup.work next < setup.work state := by
  obtain ⟨run, hrun, rfl⟩ := Option.map_eq_some_iff.mp hstep
  obtain ⟨assignment, hqueued, hget, hcases⟩ := LoadRun.startWait_some hrun
  rw [hinv.plan] at hget
  rcases hcases with ⟨err, _, rfl⟩ | ⟨event, _, rfl⟩
  · apply setWaiter_work hget
    simp only [hqueued, waiterWork]
    omega
  · apply setWaiter_work hget
    simp only [hqueued, waiterWork]
    omega

theorem wake_work {index : Nat} (hinv : setup.BarrierInv state)
    (hstep : setup.step state (.wake index) = some next) :
    setup.work next < setup.work state := by
  obtain ⟨⟨run, store⟩, hrun, rfl⟩ := Option.map_eq_some_iff.mp hstep
  obtain ⟨assignment, event, hblocked, hget, _, rfl, rfl⟩ := LoadRun.wake_some hrun
  rw [hinv.plan] at hget
  apply setWaiter_work hget
  simp only [hblocked, waiterWork]
  omega

theorem collect_work {index : Nat} (hinv : setup.BarrierInv state)
    (hstep : setup.step state (.collect index) = some next) :
    setup.work next < setup.work state := by
  obtain ⟨run, hrun, rfl⟩ := Option.map_eq_some_iff.mp hstep
  obtain ⟨outcome, assignment, hwaiting, _, hget, hnew, hcases⟩ := LoadRun.collect_some hrun
  rw [hinv.plan] at hget
  rcases hcases with ⟨err, _, rfl⟩ | ⟨_, rfl⟩
  · simp only [work, hwaiting, phaseWork]
    omega
  · have hphase := hinv.phase
    rw [hwaiting] at hphase
    have hcard := Finset.card_insert_of_notMem hnew
    have hsub : insert index state.run.collected ⊆ Finset.range setup.count := by
      intro i hi
      rcases Finset.mem_insert.mp hi with rfl | hi
      · exact Finset.mem_range.mpr (lt_count hget)
      · exact Finset.mem_range.mpr (hphase.1.collected i hi).1
    have hle := Finset.card_le_card hsub
    rw [Finset.card_range] at hle
    simp only [work, hwaiting, hinv.length_eq]
    split
    · simp only [phaseWork]
      omega
    · simp only [phaseWork]
      omega

theorem shutdown_work (hstep : setup.step state .shutdown = some next) :
    setup.work next < setup.work state := by
  obtain ⟨run, hrun, rfl⟩ := Option.map_eq_some_iff.mp hstep
  obtain ⟨err, hfailing, rfl⟩ := LoadRun.shutdown_some hrun
  have hwaiters : ∑ i ∈ Finset.range setup.count,
      waiterWork (state.run.waiters i).cancel ≤
      ∑ i ∈ Finset.range setup.count, waiterWork (state.run.waiters i) := by
    apply Finset.sum_le_sum
    intro i _
    cases state.run.waiters i <;> simp [waiterWork, WaiterPhase.cancel]
  simp only [work, hfailing, phaseWork]
  omega

/-- Every step brings the load closer to its end. -/
theorem work_decreases {label : BarrierLabel} (hinv : setup.BarrierInv state)
    (hstep : setup.step state label = some next) : setup.work next < setup.work state := by
  cases label with
  | createSlot => exact createSlot_work hinv hstep
  | dispatch => exact dispatch_work hinv hstep
  | report index => exact report_work hinv hstep
  | startWait index => exact startWait_work hinv hstep
  | wake index => exact wake_work hinv hstep
  | collect index => exact collect_work hinv hstep
  | shutdown => exact shutdown_work hstep

end LoadSetup

/-- `load` is a barrier. It returns only after every worker has reported success,
and raises only the exception for a worker that has reported failure. A report
is in its worker's slot until that worker's wait ends with it, and no wait ends
otherwise. Every run comes to an end, and there `load` has returned if every
report is a success and has raised if one is a failure. -/
theorem load_barrier (setup : LoadSetup) {state : BarrierState}
    (hreach : setup.system.Reachable state) :
    (state.run.phase = .returned → ∀ index < setup.count,
      index ∈ state.reported ∧ (setup.result index).success = true) ∧
    (∀ err, state.run.phase = .raised err → ∃ index assignment,
      setup.plan.assignments[index]? = some assignment ∧ index ∈ state.reported ∧
      (setup.result index).success = false ∧ err = setup.failure index assignment) ∧
    (∀ index assignment, setup.plan.assignments[index]? = some assignment →
      (index ∈ state.reported →
        state.store.SlotHolds (setup.slotKey assignment)
            (some ⟨index, setup.result index⟩) ∨
          state.run.waiters index = .ended (.ok (some ⟨index, setup.result index⟩))) ∧
      ∀ outcome, state.run.waiters index = .ended outcome →
        outcome = .ok (some ⟨index, setup.result index⟩) ∧ index ∈ state.reported) ∧
    (∀ label next, setup.step state label = some next →
      setup.work next < setup.work state) ∧
    ((∀ label, setup.step state label = none) →
      (state.run.phase = .returned ↔
        ∀ index < setup.count, (setup.result index).success = true) ∧
      ((∃ err, state.run.phase = .raised err) ↔
        ∃ index < setup.count, (setup.result index).success = false)) := by
  have hinv := LoadSetup.inv_of_reachable hreach
  have hphase := hinv.phase
  have hreturned : state.run.phase = .returned → ∀ index < setup.count,
      index ∈ state.reported ∧ (setup.result index).success = true := by
    intro hcase index hlt
    rw [hcase] at hphase
    obtain ⟨hwaits, hall⟩ := hphase
    have hindex : index ∈ state.run.collected := by
      rw [hall]
      exact Finset.mem_range.mpr hlt
    exact (hwaits.collected index hindex).2
  have hraised : ∀ err, state.run.phase = .raised err → ∃ index assignment,
      setup.plan.assignments[index]? = some assignment ∧ index ∈ state.reported ∧
      (setup.result index).success = false ∧ err = setup.failure index assignment := by
    intro err hcase
    rw [hcase] at hphase
    exact hphase.2
  refine ⟨hreturned, hraised, ?_, ?_, ?_⟩
  · intro index assignment hget
    exact hinv.report_kept hget
  · intro label next hstep
    exact LoadSetup.work_decreases hinv hstep
  · intro hstuck
    rcases LoadSetup.ended_of_stuck hinv hstuck with hcase | ⟨err, hcase⟩
    · constructor
      · exact ⟨fun _ index hlt => (hreturned hcase index hlt).2, fun _ => hcase⟩
      · constructor
        · rintro ⟨err, herr⟩
          rw [hcase] at herr
          cases herr
        · rintro ⟨index, hlt, hfailed⟩
          rw [(hreturned hcase index hlt).2] at hfailed
          cases hfailed
    · obtain ⟨index, assignment, hget, _, hfailed, _⟩ := hraised err hcase
      have hlt := LoadSetup.lt_count hget
      constructor
      · constructor
        · intro hret
          rw [hcase] at hret
          cases hret
        · intro hall
          rw [hall index hlt] at hfailed
          cases hfailed
      · exact ⟨fun _ => ⟨index, hlt, hfailed⟩, fun _ => ⟨err, hcase⟩⟩

/-- Two workers, the second of which fails to load. -/
def twoWorkerLoad : LoadSetup where
  plan := twoNodePlan
  result index := if index = 0 then ⟨true, "", 64, 2⟩ else ⟨false, "no space", 0, 0⟩
  store := ResultStore.create
  nonempty := by decide
  distinct := by decide

/-- The first report arrives before the last worker is sent its request. -/
def twoWorkerRun : List BarrierLabel :=
  [.createSlot, .createSlot, .dispatch, .report 0, .dispatch, .startWait 1, .startWait 0,
    .wake 0, .collect 0, .report 1, .wake 1, .collect 1, .shutdown]

theorem load_barrier_two :
    ∃ state, twoWorkerLoad.system.exec twoWorkerLoad.initial twoWorkerRun = some state ∧
      (state.run.phase = .returned → ∀ index < twoWorkerLoad.count,
        index ∈ state.reported ∧ (twoWorkerLoad.result index).success = true) ∧
      (∀ err, state.run.phase = .raised err → ∃ index assignment,
        twoWorkerLoad.plan.assignments[index]? = some assignment ∧
        index ∈ state.reported ∧ (twoWorkerLoad.result index).success = false ∧
        err = twoWorkerLoad.failure index assignment) ∧
      (∀ index assignment, twoWorkerLoad.plan.assignments[index]? = some assignment →
        (index ∈ state.reported →
          state.store.SlotHolds (twoWorkerLoad.slotKey assignment)
              (some ⟨index, twoWorkerLoad.result index⟩) ∨
            state.run.waiters index =
              .ended (.ok (some ⟨index, twoWorkerLoad.result index⟩))) ∧
        ∀ outcome, state.run.waiters index = .ended outcome →
          outcome = .ok (some ⟨index, twoWorkerLoad.result index⟩) ∧
            index ∈ state.reported) ∧
      (∀ label next, twoWorkerLoad.step state label = some next →
        twoWorkerLoad.work next < twoWorkerLoad.work state) ∧
      ((∀ label, twoWorkerLoad.step state label = none) →
        (state.run.phase = .returned ↔
          ∀ index < twoWorkerLoad.count, (twoWorkerLoad.result index).success = true) ∧
        ((∃ err, state.run.phase = .raised err) ↔
          ∃ index < twoWorkerLoad.count, (twoWorkerLoad.result index).success = false)) := by
  have hrun : (twoWorkerLoad.system.exec twoWorkerLoad.initial twoWorkerRun).isSome =
      true := by
    decide
  obtain ⟨state, hstate⟩ := Option.isSome_iff_exists.mp hrun
  have hreach : twoWorkerLoad.system.Reachable state :=
    TransitionSystem.ReachableVia.exec (.init rfl) (fun _ _ _ => trivial) hstate
  exact ⟨state, hstate, load_barrier twoWorkerLoad hreach⟩

end PiSSM.Pipeline
