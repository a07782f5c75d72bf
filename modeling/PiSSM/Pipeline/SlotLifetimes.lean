import PiSSM.Orchestrator.RunnerCalls

/-!
How long slots live. A slot is removed by the wait that follows its reservation, so a call
that leaves between the two leaves its slot behind, and a failed `load` also leaves the
waits that have started and cancels the others. In the runs in which calls fail only once
all of their waits have ended, a slot in the map is always one that a call in progress is
still going to wait for.
-/

namespace PiSSM.Orchestrator

open PiSSM.Lib PiSSM.Inference

/-- Every slot was created by a call that is still going to wait for its key. -/
def SlotsHeld {ρ : Type*} (store : ResultStore ρ) (creator : Nat → Option Nat)
    (holds : Nat → String → Prop) : Prop :=
  ∀ key event pending, store.slots.get? key = some (event, pending) →
    ∃ id, creator event = some id ∧ holds id key

namespace SlotsHeld

variable {ρ : Type*} {store store' : ResultStore ρ} {creator : Nat → Option Nat}
  {holds holds' : Nat → String → Prop}

/-- Slots that stay keep their events, and those that stay keep their calls. -/
theorem kept (hheld : SlotsHeld store creator holds)
    (hkept : ∀ key event pending, store'.slots.get? key = some (event, pending) →
      (∃ before, store.slots.get? key = some (event, before)) ∧
        ∀ id, holds id key → holds' id key) : SlotsHeld store' creator holds' := by
  intro key event pending hslot
  obtain ⟨⟨before, hbefore⟩, hcalls⟩ := hkept key event pending hslot
  obtain ⟨id, hcreator, hholds⟩ := hheld key event before hbefore
  exact ⟨id, hcreator, hcalls id hholds⟩

theorem createSlot (hheld : SlotsHeld store creator holds) {key : String} {id : Nat}
    (hnew : holds id key) :
    SlotsHeld (store.createSlot key) (Function.update creator store.nextEvent (some id))
      holds := by
  intro query event pending hslot
  rw [ResultStore.createSlot_get?] at hslot
  split at hslot
  · next hquery =>
      obtain ⟨rfl, -⟩ := Prod.mk.inj (Option.some.inj hslot)
      exact ⟨id, Function.update_self _ _ _, hquery ▸ hnew⟩
  · obtain ⟨other, hcreator, hholds⟩ := hheld query event pending hslot
    have hne : event ≠ store.nextEvent := (store.slot_lt query event pending hslot).ne
    exact ⟨other, by rw [Function.update_of_ne hne, hcreator], hholds⟩

theorem deliver (hheld : SlotsHeld store creator holds) (key : String) (result : ρ) :
    SlotsHeld (store.deliver key result).1 creator holds := by
  apply hheld.kept
  intro query event pending hslot
  refine ⟨?_, fun _ hholds => hholds⟩
  rw [ResultStore.deliver_get?] at hslot
  split at hslot
  · next hquery =>
      obtain ⟨⟨found, before⟩, hbefore, heq⟩ := Option.map_eq_some_iff.mp hslot
      obtain ⟨rfl, -⟩ := Prod.mk.inj heq
      exact ⟨before, hquery ▸ hbefore⟩
  · exact ⟨pending, hslot⟩

end SlotsHeld

/-- A step keeps the slots of all other keys, and removes those whose wait it ends. -/
def KeepsSlots {ρ : Type*} (store store' : ResultStore ρ) (holds holds' : String → Prop) :
    Prop :=
  ∀ key event pending, store'.slots.get? key = some (event, pending) →
    (∃ before, store.slots.get? key = some (event, before)) ∧ (holds key → holds' key)

namespace KeepsSlots

variable {ρ : Type*} {store : ResultStore ρ} {holds holds' : String → Prop}

theorem same (hkept : ∀ key, holds key → holds' key) : KeepsSlots store store holds holds' :=
  fun key _ pending hslot => ⟨⟨pending, hslot⟩, hkept key⟩

theorem popSlot {requestId : String}
    (hkept : ∀ key, key ≠ requestId → holds key → holds' key) :
    KeepsSlots store (store.popSlot requestId).1 holds holds' := by
  intro key event pending hslot
  rw [ResultStore.popSlot_get?] at hslot
  split at hslot
  · cases hslot
  · next hne => exact ⟨⟨pending, hslot⟩, hkept key hne⟩

theorem noSlot {requestId : String} {err : PyException}
    (hnone : store.slotEvent requestId = .error err)
    (hkept : ∀ key, key ≠ requestId → holds key → holds' key) :
    KeepsSlots store store holds holds' := by
  intro key event pending hslot
  refine ⟨⟨pending, hslot⟩, hkept key ?_⟩
  rintro rfl
  simp only [ResultStore.slotEvent, hslot] at hnone
  cases hnone

end KeepsSlots

namespace LoadRun

variable {run next : LoadRun Unit} {store store' : ResultStore (MarkedReport Unit)}

/-- The call has reserved a slot under this key and its wait has still to end. -/
def Holds (run : LoadRun Unit) (key : String) : Prop :=
  ∃ index assignment, run.plan.assignments[index]? = some assignment ∧
    run.key assignment = key ∧ run.opens index = true

/-- The waits have ended, or there have been none. -/
def Settled (run : LoadRun Unit) : Prop :=
  ∀ index, run.waiters index = .absent ∨ ∃ outcome, run.waiters index = .ended outcome

/-- A call is past its waits once it has returned or an exception has left the loop over
them. -/
structure Settles (run : LoadRun Unit) : Prop where
  fresh : (∃ next, run.phase = .creating next ∨ run.phase = .dispatching next) →
    run.collected = ∅
  outside : ∀ index, run.plan.assignments.length ≤ index → run.waiters index = .absent
  collected : ∀ index ∈ run.collected, ∃ outcome, run.waiters index = .ended outcome
  settled : (run.phase = .returned ∨ (∃ err, run.phase = .failing err) ∨
    ∃ err, run.phase = .raised err) → run.Settled

theorem opens_setWaiter_of_ne {index other : Nat} {waiter : WaiterPhase Unit}
    (hne : other ≠ index) : (run.setWaiter index waiter).opens other = run.opens other := by
  have hwaiters : (run.setWaiter index waiter).waiters other = run.waiters other :=
    Function.update_of_ne hne _ _
  simp only [opens, hwaiters]
  rfl

/-- A wait that ends or finds its event keeps the other waits of the call open. -/
theorem Holds.setWaiter {index : Nat} {assignment : ShardAssignment}
    {waiter : WaiterPhase Unit} {key : String} (hholds : run.Holds key)
    (hget : run.plan.assignments[index]? = some assignment)
    (hne : key ≠ run.key assignment) : (run.setWaiter index waiter).Holds key := by
  obtain ⟨other, found, hfound, rfl, hopens⟩ := hholds
  have hother : other ≠ index := by
    rintro rfl
    obtain rfl := Option.some.inj (hget.symm.trans hfound)
    exact hne rfl
  exact ⟨other, found, hfound, rfl, by rw [opens_setWaiter_of_ne hother, hopens]⟩

theorem Holds.setBlocked {index event : Nat} {key : String} (hholds : run.Holds key) :
    (run.setWaiter index (.blocked event)).Holds key := by
  obtain ⟨other, found, hfound, rfl, hopens⟩ := hholds
  refine ⟨other, found, hfound, rfl, ?_⟩
  by_cases hother : other = index
  · subst hother
    simp only [opens, LoadRun.setWaiter, Function.update_self] at hopens ⊢
    cases hphase : run.phase <;> simp_all
  · rw [opens_setWaiter_of_ne hother, hopens]

theorem Settled.not_holds (hsettled : run.Settled) (hphase : run.phase = .returned ∨
    (∃ err, run.phase = .failing err) ∨ ∃ err, run.phase = .raised err) (key : String) :
    ¬ run.Holds key := by
  rintro ⟨index, assignment, -, -, hopens⟩
  rcases hphase with hphase | ⟨err, hphase⟩ | ⟨err, hphase⟩ <;>
    rcases hsettled index with hwaiter | ⟨outcome, hwaiter⟩ <;>
    simp [opens, hphase, hwaiter] at hopens

theorem start_settles (plan : DispatchPlan) : (LoadRun.start plan : LoadRun Unit).Settles where
  fresh _ := rfl
  outside _ _ := rfl
  collected _ hmem := by simp [start] at hmem
  settled _ _ := .inl rfl

theorem createSlot_settles (hsettles : run.Settles)
    (hstep : run.createSlot store = some (next, store')) : next.Settles := by
  obtain ⟨index, assignment, hphase, -, rfl, -⟩ := createSlot_some hstep
  constructor
  · intro _
    exact hsettles.fresh ⟨index, .inl hphase⟩
  · exact hsettles.outside
  · exact hsettles.collected
  · intro hphase
    dsimp only at hphase
    split at hphase <;> simp at hphase

/-- The new slot has its wait to come, like those before it. -/
theorem createSlot_holds (hstep : run.createSlot store = some (next, store')) :
    ∃ key, store' = store.createSlot key ∧ next.Holds key ∧
      ∀ query, run.Holds query → next.Holds query := by
  obtain ⟨index, assignment, hphase, hget, rfl, rfl⟩ := createSlot_some hstep
  have hindex := (List.getElem?_eq_some_iff.mp hget).1
  have hopens (other : Nat) (hother : other < run.plan.assignments.length)
      (hle : other ≤ index) :
      ({ run with phase :=
        if index + 1 < run.plan.assignments.length then .creating (index + 1)
        else .dispatching 0 } : LoadRun Unit).opens other = true := by
    by_cases hmore : index + 1 < run.plan.assignments.length
    · simp only [opens, if_pos hmore, decide_eq_true_eq]
      omega
    · simp only [opens, if_neg hmore, decide_eq_true_eq]
      exact hother
  refine ⟨_, rfl, ⟨index, assignment, hget, rfl, hopens index hindex le_rfl⟩, ?_⟩
  rintro query ⟨other, found, hfound, rfl, hopen⟩
  simp only [opens, hphase, decide_eq_true_eq] at hopen
  exact ⟨other, found, hfound, rfl,
    hopens other (List.getElem?_eq_some_iff.mp hfound).1 hopen.le⟩

/-- After a response that accepts the request the next worker is asked, or the waits are
submitted. -/
theorem dispatched_accepted {accepted : LoadShardResponse} (hsuccess : accepted.success = true)
    (hstep : run.dispatched (.ok accepted) = some next) :
    ∃ index, run.phase = .dispatching index ∧
      (next = { run with phase := .dispatching (index + 1) } ∨
        next = { run with
          phase := .waiting
          waiters := fun index =>
            if index < run.plan.assignments.length then .queued else .absent }) := by
  unfold dispatched at hstep
  split at hstep
  · next index hphase =>
      refine ⟨index, hphase, ?_⟩
      split at hstep
      · cases hstep
      · dsimp only at hstep
        rw [if_pos hsuccess] at hstep
        split at hstep
        · exact .inl (Option.some.inj hstep).symm
        · exact .inr (Option.some.inj hstep).symm
  · cases hstep

theorem dispatched_settles (hsettles : run.Settles) {accepted : LoadShardResponse}
    (hsuccess : accepted.success = true)
    (hstep : run.dispatched (.ok accepted) = some next) : next.Settles := by
  obtain ⟨index, hphase, rfl | rfl⟩ := dispatched_accepted hsuccess hstep
  · constructor
    · intro _
      exact hsettles.fresh ⟨index, .inr hphase⟩
    · exact hsettles.outside
    · exact hsettles.collected
    · intro hended
      simp at hended
  · constructor
    · intro _
      exact hsettles.fresh ⟨index, .inr hphase⟩
    · intro other hother
      exact if_neg (Nat.not_lt.mpr hother)
    · intro other hmem
      simp [hsettles.fresh ⟨index, .inr hphase⟩] at hmem
    · intro hended
      simp at hended

theorem dispatched_holds {accepted : LoadShardResponse} (hsuccess : accepted.success = true)
    (hstep : run.dispatched (.ok accepted) = some next) (key : String)
    (hholds : run.Holds key) : next.Holds key := by
  obtain ⟨index, hphase, rfl | rfl⟩ := dispatched_accepted hsuccess hstep
  · obtain ⟨other, assignment, hget, rfl, hopens⟩ := hholds
    refine ⟨other, assignment, hget, rfl, ?_⟩
    simp only [opens, hphase] at hopens ⊢
    exact hopens
  · obtain ⟨other, assignment, hget, rfl, hopens⟩ := hholds
    refine ⟨other, assignment, hget, rfl, ?_⟩
    simp only [opens, if_pos (List.getElem?_eq_some_iff.mp hget).1]

/-- A wait that is still open has not been collected, and the load is not past it. -/
theorem Settles.setWaiter (hsettles : run.Settles) {index : Nat}
    {assignment : ShardAssignment} {waiter : WaiterPhase Unit}
    (hget : run.plan.assignments[index]? = some assignment)
    (hopen : run.waiters index = .queued ∨ ∃ event, run.waiters index = .blocked event) :
    (run.setWaiter index waiter).Settles := by
  have hindex := (List.getElem?_eq_some_iff.mp hget).1
  have hnot : ∀ outcome, run.waiters index ≠ .ended outcome := by
    intro outcome hended
    rcases hopen with hqueued | ⟨event, hblocked⟩
    · cases hqueued.symm.trans hended
    · cases hblocked.symm.trans hended
  constructor
  · exact hsettles.fresh
  · intro other hother
    have hne : other ≠ index := by
      rintro rfl
      exact absurd hindex (Nat.not_lt.mpr hother)
    exact (Function.update_of_ne hne _ _).trans (hsettles.outside other hother)
  · intro other hmem
    obtain ⟨outcome, hended⟩ := hsettles.collected other hmem
    have hne : other ≠ index := by
      rintro rfl
      exact hnot outcome hended
    exact ⟨outcome, (Function.update_of_ne hne _ _).trans hended⟩
  · intro hphase
    rcases hsettles.settled hphase index with habsent | ⟨outcome, hended⟩
    · rcases hopen with hqueued | ⟨event, hblocked⟩
      · cases hqueued.symm.trans habsent
      · cases hblocked.symm.trans habsent
    · exact absurd hended (hnot outcome)

theorem startWait_settles (hsettles : run.Settles) {index : Nat}
    (hstep : run.startWait index store = some next) : next.Settles := by
  obtain ⟨assignment, hqueued, hget, ⟨err, -, rfl⟩ | ⟨event, -, rfl⟩⟩ := startWait_some hstep
  · exact hsettles.setWaiter hget (.inl hqueued)
  · exact hsettles.setWaiter hget (.inl hqueued)

theorem startWait_keeps {index : Nat} (hstep : run.startWait index store = some next) :
    KeepsSlots store store run.Holds next.Holds := by
  obtain ⟨assignment, -, hget, ⟨err, hnone, rfl⟩ | ⟨event, -, rfl⟩⟩ := startWait_some hstep
  · exact .noSlot hnone fun key hne hholds => hholds.setWaiter hget hne
  · exact .same fun key hholds => hholds.setBlocked

/-- `wake` and `expire` both end a wait and pop its slot. -/
def EndsWait (run : LoadRun Unit) (index : Nat) (store : ResultStore (MarkedReport Unit))
    (next : LoadRun Unit) (store' : ResultStore (MarkedReport Unit)) : Prop :=
  ∃ assignment event outcome, run.plan.assignments[index]? = some assignment ∧
    run.waiters index = .blocked event ∧ next = run.setWaiter index (.ended outcome) ∧
    store' = (store.popSlot (run.key assignment)).1

theorem wake_ends {index : Nat} (hstep : run.wake index store = some (next, store')) :
    run.EndsWait index store next store' := by
  obtain ⟨assignment, event, hblocked, hget, -, rfl, rfl⟩ := wake_some hstep
  exact ⟨assignment, event, _, hget, hblocked, rfl, rfl⟩

theorem expire_ends {index : Nat} (hstep : run.expire index store = some (next, store')) :
    run.EndsWait index store next store' := by
  unfold expire at hstep
  split at hstep
  · next event assignment hblocked hget =>
      split at hstep
      · cases hstep
      · obtain ⟨rfl, rfl⟩ := Prod.mk.inj (Option.some.inj hstep)
        exact ⟨assignment, event, _, hget, hblocked, rfl, rfl⟩
  · cases hstep

theorem EndsWait.settles {index : Nat} (hends : run.EndsWait index store next store')
    (hsettles : run.Settles) : next.Settles := by
  obtain ⟨assignment, event, outcome, hget, hblocked, rfl, -⟩ := hends
  exact hsettles.setWaiter hget (.inr ⟨event, hblocked⟩)

theorem EndsWait.keeps {index : Nat} (hends : run.EndsWait index store next store') :
    KeepsSlots store store' run.Holds next.Holds := by
  obtain ⟨assignment, event, outcome, hget, -, rfl, rfl⟩ := hends
  exact .popSlot fun key hne hholds => hholds.setWaiter hget hne

/-- The loop over the waits is left by an exception when they have all ended, or by itself
when they have all been collected. -/
theorem collect_settles (hsettles : run.Settles) {index : Nat}
    (hfails : ∀ assignment outcome, run.plan.assignments[index]? = some assignment →
      run.waiters index = .ended outcome → checkResult assignment outcome ≠ .ok () →
      run.Settled)
    (hstep : run.collect index = some next) : next.Settles := by
  obtain ⟨outcome, assignment, hphase, hended, hget, -, hcases⟩ := collect_some hstep
  rcases hcases with ⟨err, herr, rfl⟩ | ⟨-, rfl⟩
  · constructor
    · intro hpreparing
      simp at hpreparing
    · exact hsettles.outside
    · exact hsettles.collected
    · intro _
      exact hfails assignment outcome hget hended (by simp [herr])
  · have hcollected : ∀ other ∈ insert index run.collected,
        ∃ outcome, run.waiters other = .ended outcome := by
      intro other hmem
      rcases Finset.mem_insert.mp hmem with rfl | hmem
      · exact ⟨outcome, hended⟩
      · exact hsettles.collected other hmem
    constructor
    · intro hpreparing
      dsimp only at hpreparing
      split at hpreparing <;> simp at hpreparing
    · exact hsettles.outside
    · exact hcollected
    · intro hleft other
      dsimp only at hleft
      split at hleft
      · next hfull =>
          by_cases hother : other < run.plan.assignments.length
          · exact .inr (hcollected other (hfull ▸ Finset.mem_range.mpr hother))
          · exact .inl (hsettles.outside other (Nat.not_lt.mp hother))
      · simp at hleft

theorem collect_holds {index : Nat} (hstep : run.collect index = some next) (key : String)
    (hholds : run.Holds key) : next.Holds key := by
  obtain ⟨outcome, assignment, hphase, -, -, -, hcases⟩ := collect_some hstep
  obtain ⟨other, found, hget, rfl, hopens⟩ := hholds
  rcases hcases with ⟨err, -, rfl⟩ | ⟨-, rfl⟩
  · refine ⟨other, found, hget, rfl, ?_⟩
    simp only [opens, hphase] at hopens ⊢
    exact hopens
  · refine ⟨other, found, hget, rfl, ?_⟩
    by_cases hfull : insert index run.collected = Finset.range run.plan.assignments.length
    · simp only [opens, hphase, if_pos hfull] at hopens ⊢
      exact hopens
    · simp only [opens, hphase, if_neg hfull] at hopens ⊢
      exact hopens

theorem shutdown_settles (hsettles : run.Settles) (hstep : run.shutdown = some next) :
    next.Settles := by
  obtain ⟨err, hphase, rfl⟩ := shutdown_some hstep
  have hsettled := hsettles.settled (.inr (.inl ⟨err, hphase⟩))
  constructor
  · intro hpreparing
    simp at hpreparing
  · intro other hother
    simp only [hsettles.outside other hother, WaiterPhase.cancel]
  · intro other hmem
    obtain ⟨outcome, hended⟩ := hsettles.collected other hmem
    exact ⟨outcome, by simp only [hended, WaiterPhase.cancel]⟩
  · intro _ other
    rcases hsettled other with habsent | ⟨outcome, hended⟩
    · exact .inl (by simp only [habsent, WaiterPhase.cancel])
    · exact .inr ⟨outcome, by simp only [hended, WaiterPhase.cancel]⟩

/-- Nothing is left to cancel. -/
theorem shutdown_holds (hsettles : run.Settles) (hstep : run.shutdown = some next)
    (key : String) (hholds : run.Holds key) : next.Holds key := by
  obtain ⟨err, hphase, -⟩ := shutdown_some hstep
  have hsettled := hsettles.settled (.inr (.inl ⟨err, hphase⟩))
  exact absurd hholds (hsettled.not_holds (.inr (.inl ⟨err, hphase⟩)) key)

end LoadRun

namespace StepCall

variable {τ : Type*} {call next : StepCall} {store store' : ResultStore (PipelineResult τ)}

/-- The call has reserved a slot under this request id and has still to pop it. -/
def Holds (call : StepCall) (key : String) : Prop :=
  match call.phase with
  | .reserved _ requestId | .sent _ requestId | .blocked _ requestId _ => requestId = key
  | .ready _ | .returned | .closed | .raised _ => False

theorem beginStep_holds {requestId : String}
    (hstep : call.beginStep requestId store = some (next, store')) :
    store' = store.createSlot requestId ∧ next.Holds requestId ∧
      ∀ query, call.Holds query → next.Holds query := by
  unfold beginStep at hstep
  split at hstep
  · next step hphase =>
      split at hstep
      · obtain ⟨rfl, rfl⟩ := Prod.mk.inj (Option.some.inj hstep)
        refine ⟨rfl, rfl, ?_⟩
        intro query hholds
        simp only [Holds, hphase] at hholds
      · cases hstep
  · cases hstep

theorem leave_holds (hstep : call.leave = some next) (key : String) (hholds : call.Holds key) :
    next.Holds key := by
  unfold leave at hstep
  split at hstep
  · next hphase _ => simp only [Holds, hphase] at hholds
  · next hphase _ => simp only [Holds, hphase] at hholds
  · cases hstep

theorem runShard_holds (hplan : call.plan.assignments ≠ [])
    (hstep : call.runShard (.ok ()) = some next) (key : String) (hholds : call.Holds key) :
    next.Holds key := by
  unfold runShard at hstep
  split at hstep
  · next step requestId hphase =>
      obtain ⟨first, rest, hassignments⟩ := List.exists_cons_of_ne_nil hplan
      simp only [hassignments, List.head?_cons] at hstep
      obtain rfl := Option.some.inj hstep
      simp only [Holds, hphase] at hholds ⊢
      exact hholds
  · cases hstep

theorem lookup_keeps (hstep : call.lookup store = some next) :
    KeepsSlots store store call.Holds next.Holds := by
  unfold lookup at hstep
  split at hstep
  · next step requestId hphase =>
      split at hstep
      · next err hnone =>
          obtain rfl := Option.some.inj hstep
          refine .noSlot hnone ?_
          intro key hne hholds
          simp only [Holds, hphase] at hholds
          exact absurd hholds.symm hne
      · obtain rfl := Option.some.inj hstep
        refine .same ?_
        intro key hholds
        simp only [Holds, hphase] at hholds ⊢
        exact hholds
  · cases hstep

theorem endWait_keeps {ops : TensorOps τ}
    (hstep : call.endWait ops store = some (next, store')) :
    KeepsSlots store store' call.Holds next.Holds := by
  unfold endWait at hstep
  split at hstep
  · next step requestId event hphase =>
      obtain ⟨rfl, rfl⟩ := Prod.mk.inj (Option.some.inj hstep)
      refine .popSlot ?_
      intro key hne hholds
      simp only [Holds, hphase] at hholds
      exact absurd hholds.symm hne
  · cases hstep

end StepCall

/-- A step of one call. -/
theorem SlotsHeld.setCall {ρ : Type*} {store store' : ResultStore ρ}
    {creator : Nat → Option Nat} {P : String → RunnerCall → Prop} {calls : Nat → RunnerCall}
    {id : Nat} {call : RunnerCall}
    (hheld : SlotsHeld store creator fun other key => P key (calls other))
    (hkeeps : KeepsSlots store store' (fun key => P key (calls id)) fun key => P key call) :
    SlotsHeld store' creator fun other key => P key (Function.update calls id call other) := by
  apply hheld.kept
  intro key event pending hslot
  obtain ⟨hbefore, hcall⟩ := hkeeps key event pending hslot
  refine ⟨hbefore, ?_⟩
  intro other hholds
  by_cases hother : other = id
  · subst hother
    rw [Function.update_self]
    exact hcall hholds
  · rwa [Function.update_of_ne hother]

namespace RunnerCall

def HoldsShard (key : String) : RunnerCall → Prop
  | .load run => run.Holds key
  | .absent | .steps _ => False

def HoldsResult (key : String) : RunnerCall → Prop
  | .steps call => call.Holds key
  | .absent | .load _ => False

end RunnerCall

namespace RunnerCalls

variable {τ : Type*} {state next : RunnerCalls τ} {id : Nat}

/-- In the runs considered no worker refuses its `LoadShard` and no exception leaves the
loop that sends them, a load comes to a failed wait only when all of its waits have ended,
and nothing is raised between the slot of a step and its wait. -/
def EndsAfterWaits (state : RunnerCalls τ) : RunnerLabel τ → Prop
  | .dispatch _ response => ∃ accepted, response = .ok accepted ∧ accepted.success = true
  | .collect id index => ∀ run, state.calls id = .load run →
      ∀ assignment outcome, run.plan.assignments[index]? = some assignment →
        run.waiters index = .ended outcome →
        LoadRun.checkResult assignment outcome ≠ .ok () → run.Settled
  | .runShard id reply => reply = .ok () ∧
      ∀ call, state.calls id = .steps call → call.plan.assignments ≠ []
  | _ => True

/-- The invariant behind it. -/
structure HeldInv (state : RunnerCalls τ) : Prop where
  shardSlots : SlotsHeld state.shardStore state.shardCreator
    fun id key => (state.calls id).HoldsShard key
  resultSlots : SlotsHeld state.resultStore state.resultCreator
    fun id key => (state.calls id).HoldsResult key
  loads : ∀ id run, state.calls id = .load run → run.Settles

theorem HeldInv.started (hinv : HeldInv state) {call : RunnerCall}
    (hfree : state.calls id = .absent) (hloads : ∀ run, call = .load run → run.Settles) :
    HeldInv { state with calls := Function.update state.calls id call } := by
  constructor
  · apply hinv.shardSlots.setCall
    rw [hfree]
    exact .same fun key hholds => hholds.elim
  · apply hinv.resultSlots.setCall
    rw [hfree]
    exact .same fun key hholds => hholds.elim
  · intro other run hget
    rcases update_cases hget with ⟨-, heq⟩ | ⟨-, hget⟩
    · exact hloads run heq.symm
    · exact hinv.loads other run hget

/-- A step of a `load` after its slots have been created. -/
theorem HeldInv.loaded (hinv : HeldInv state) {run run' : LoadRun Unit}
    {store : ResultStore (MarkedReport Unit)} (hcall : state.calls id = .load run)
    (hkeeps : KeepsSlots state.shardStore store run.Holds run'.Holds)
    (hsettles : run'.Settles) :
    HeldInv { state with
      calls := Function.update state.calls id (.load run')
      shardStore := store } := by
  constructor
  · apply hinv.shardSlots.setCall
    rw [hcall]
    exact hkeeps
  · apply hinv.resultSlots.setCall
    rw [hcall]
    exact .same fun key hholds => hholds
  · intro other found hget
    rcases update_cases hget with ⟨-, heq⟩ | ⟨-, hget⟩
    · obtain rfl := RunnerCall.load.inj heq
      exact hsettles
    · exact hinv.loads other found hget

/-- A step of another call after the slot has been created. -/
theorem HeldInv.stepped (hinv : HeldInv state) {call call' : StepCall}
    {store : ResultStore (PipelineResult τ)} (hcall : state.calls id = .steps call)
    (hkeeps : KeepsSlots state.resultStore store call.Holds call'.Holds) :
    HeldInv { state with
      calls := Function.update state.calls id (.steps call')
      resultStore := store } := by
  constructor
  · apply hinv.shardSlots.setCall
    rw [hcall]
    exact .same fun key hholds => hholds
  · apply hinv.resultSlots.setCall
    rw [hcall]
    exact hkeeps
  · intro other found hget
    rcases update_cases hget with ⟨-, heq⟩ | ⟨-, hget⟩
    · cases heq
    · exact hinv.loads other found hget

theorem HeldInv.createSlot (hinv : HeldInv state) {run run' : LoadRun Unit}
    {store : ResultStore (MarkedReport Unit)} (hcall : state.calls id = .load run)
    (hstep : run.createSlot state.shardStore = some (run', store)) :
    HeldInv { state with
      calls := Function.update state.calls id (.load run')
      shardStore := store
      shardCreator :=
        Function.update state.shardCreator state.shardStore.nextEvent (some id) } := by
  obtain ⟨key, rfl, hnew, hkept⟩ := LoadRun.createSlot_holds hstep
  have hloaded := hinv.loaded hcall (.same hkept)
    (LoadRun.createSlot_settles (hinv.loads id run hcall) hstep)
  constructor
  · apply hloaded.shardSlots.createSlot
    dsimp only
    rw [Function.update_self]
    exact hnew
  · exact hloaded.resultSlots
  · exact hloaded.loads

theorem HeldInv.beginStep (hinv : HeldInv state) {call call' : StepCall}
    {store : ResultStore (PipelineResult τ)} {requestId : String}
    (hcall : state.calls id = .steps call)
    (hstep : call.beginStep requestId state.resultStore = some (call', store)) :
    HeldInv { state with
      calls := Function.update state.calls id (.steps call')
      resultStore := store
      resultCreator :=
        Function.update state.resultCreator state.resultStore.nextEvent (some id) } := by
  obtain ⟨rfl, hnew, hkept⟩ := StepCall.beginStep_holds hstep
  have hstepped := hinv.stepped hcall (.same hkept)
  constructor
  · exact hstepped.shardSlots
  · apply hstepped.resultSlots.createSlot
    dsimp only
    rw [Function.update_self]
    exact hnew
  · exact hstepped.loads

theorem HeldInv.step {ops : TensorOps τ} {label : RunnerLabel τ} (hinv : HeldInv state)
    (hok : EndsAfterWaits state label) (hstep : RunnerCalls.step ops state label = some next) :
    HeldInv next := by
  cases label with
  | load id plan =>
      obtain ⟨hfree, rfl⟩ := start_some hstep
      refine hinv.started hfree ?_
      rintro _ ⟨rfl⟩
      exact LoadRun.start_settles plan
  | run id plan operation =>
      obtain ⟨hfree, rfl⟩ := start_some hstep
      refine hinv.started hfree ?_
      rintro _ ⟨⟩
  | createSlot id =>
      obtain ⟨middle, hmiddle, rfl⟩ := Option.map_eq_some_iff.mp hstep
      obtain ⟨run, run', store, hcall, hact, rfl⟩ := loadStep_some hmiddle
      exact hinv.createSlot hcall hact
  | dispatch id response =>
      obtain ⟨run, run', hcall, hact, rfl⟩ := loadOnly_some hstep
      obtain ⟨accepted, rfl, hsuccess⟩ := hok
      exact hinv.loaded hcall (.same (LoadRun.dispatched_holds hsuccess hact))
        (LoadRun.dispatched_settles (hinv.loads id run hcall) hsuccess hact)
  | startWait id index =>
      obtain ⟨run, run', hcall, hact, rfl⟩ := loadOnly_some hstep
      exact hinv.loaded hcall (LoadRun.startWait_keeps hact)
        (LoadRun.startWait_settles (hinv.loads id run hcall) hact)
  | wake id index =>
      obtain ⟨run, run', store, hcall, hact, rfl⟩ := loadStep_some hstep
      have hends := LoadRun.wake_ends hact
      exact hinv.loaded hcall hends.keeps (hends.settles (hinv.loads id run hcall))
  | expire id index =>
      obtain ⟨run, run', store, hcall, hact, rfl⟩ := loadStep_some hstep
      have hends := LoadRun.expire_ends hact
      exact hinv.loaded hcall hends.keeps (hends.settles (hinv.loads id run hcall))
  | collect id index =>
      obtain ⟨run, run', hcall, hact, rfl⟩ := loadOnly_some hstep
      exact hinv.loaded hcall (.same (LoadRun.collect_holds hact))
        (LoadRun.collect_settles (hinv.loads id run hcall) (hok run hcall) hact)
  | shutdown id =>
      obtain ⟨run, run', hcall, hact, rfl⟩ := loadOnly_some hstep
      have hsettles := hinv.loads id run hcall
      exact hinv.loaded hcall (.same (LoadRun.shutdown_holds hsettles hact))
        (LoadRun.shutdown_settles hsettles hact)
  | beginStep id requestId =>
      obtain ⟨middle, hmiddle, rfl⟩ := Option.map_eq_some_iff.mp hstep
      obtain ⟨call, call', store, hcall, hact, rfl⟩ := stepsStep_some hmiddle
      exact hinv.beginStep hcall hact
  | leave id =>
      obtain ⟨call, call', hcall, hact, rfl⟩ := stepsOnly_some hstep
      exact hinv.stepped hcall (.same (StepCall.leave_holds hact))
  | runShard id reply =>
      obtain ⟨call, call', hcall, hact, rfl⟩ := stepsOnly_some hstep
      obtain ⟨rfl, hplan⟩ := hok
      exact hinv.stepped hcall (.same (StepCall.runShard_holds (hplan call hcall) hact))
  | lookup id =>
      obtain ⟨call, call', hcall, hact, rfl⟩ := stepsOnly_some hstep
      exact hinv.stepped hcall (StepCall.lookup_keeps hact)
  | endWait id =>
      obtain ⟨call, call', store, hcall, hact, rfl⟩ := stepsStep_some hstep
      exact hinv.stepped hcall (StepCall.endWait_keeps hact)
  | reportShardReady request =>
      obtain rfl := Option.some.inj hstep
      exact ⟨hinv.shardSlots.deliver _ _, hinv.resultSlots, hinv.loads⟩
  | deliverResult request =>
      obtain rfl := Option.some.inj hstep
      exact ⟨hinv.shardSlots, hinv.resultSlots.deliver _ _, hinv.loads⟩

theorem heldInv_of_reachable {ops : TensorOps τ}
    (hreach : (system ops).ReachableVia EndsAfterWaits state) : HeldInv state := by
  apply hreach.invariant
  · rintro _ rfl
    constructor
    · intro key event pending hslot
      simp [create, ResultStore.create] at hslot
    · intro key event pending hslot
      simp [create, ResultStore.create] at hslot
    · intro id run hget
      cases hget
  · intro state label next _ hinv hok hstep
    exact hinv.step hok hstep

theorem load_holds (hinv : HeldInv state) {run : LoadRun Unit}
    (hcall : state.calls id = .load run)
    (hended : run.phase = .returned ∨ ∃ err, run.phase = .raised err) :
    run.Settled ∧ ∀ key, ¬ run.Holds key := by
  have hleft : run.phase = .returned ∨ (∃ err, run.phase = .failing err) ∨
      ∃ err, run.phase = .raised err := hended.imp_right .inr
  have hsettled := (hinv.loads id run hcall).settled hleft
  exact ⟨hsettled, hsettled.not_holds hleft⟩

/-- A call that has ended holds no slot, and none of its threads is blocked. -/
theorem HeldInv.ended (hinv : HeldInv state) (hended : (state.calls id).Ended) :
    (∀ key, ¬ (state.calls id).HoldsShard key) ∧
      (∀ key, ¬ (state.calls id).HoldsResult key) ∧
      ∀ event, ¬ (state.calls id).BlockedOn event := by
  cases hcall : state.calls id with
  | absent => exact ⟨fun _ => not_false, fun _ => not_false, fun _ => not_false⟩
  | load run =>
      rw [hcall] at hended
      obtain ⟨hsettled, hnot⟩ := load_holds hinv hcall hended
      refine ⟨hnot, fun _ => not_false, ?_⟩
      rintro event ⟨index, hblocked⟩
      rcases hsettled index with habsent | ⟨outcome, hwaiter⟩
      · cases habsent.symm.trans hblocked
      · cases hwaiter.symm.trans hblocked
  | steps call =>
      rw [hcall] at hended
      rcases hended with hphase | hphase | ⟨err, hphase⟩
      all_goals
        refine ⟨fun _ => not_false, ?_, ?_⟩
        · intro key hholds
          simp only [RunnerCall.HoldsResult, StepCall.Holds, hphase] at hholds
        · rintro event ⟨step, requestId, hblocked⟩
          cases hphase.symm.trans hblocked

theorem not_absent_of_holds {key : String} {call : RunnerCall}
    (hholds : call.HoldsShard key ∨ call.HoldsResult key) : call ≠ .absent := by
  rintro rfl
  exact hholds.elim False.elim False.elim

end RunnerCalls

end PiSSM.Orchestrator

namespace PiSSM.Pipeline

open PiSSM.Lib TransitionSystem PiSSM.Inference PiSSM.Orchestrator RunnerCalls

variable {τ : Type*}

/-- Slots do not outlive the calls that created them, nor do waits, and without a call in
progress the map is empty. -/
structure SlotsReleased (state : RunnerCalls τ) : Prop where
  shardSlots : ∀ id, (state.calls id).Ended → ∀ event, state.shardCreator event = some id →
    ∀ key pending, state.shardStore.slots.get? key ≠ some (event, pending)
  resultSlots : ∀ id, (state.calls id).Ended → ∀ event, state.resultCreator event = some id →
    ∀ key pending, state.resultStore.slots.get? key ≠ some (event, pending)
  unblocked : ∀ id, (state.calls id).Ended → ∀ event, ¬ (state.calls id).BlockedOn event
  empty : (∀ id, ¬ (state.calls id).InProgress) → ∀ key,
    state.shardStore.slots.get? key = none ∧ state.resultStore.slots.get? key = none

/-- In every run whose calls end after their waits, slots and waits do not outlive the
calls that began them. -/
theorem slots_released (ops : TensorOps τ) (state : RunnerCalls τ)
    (hreach : (system ops).ReachableVia EndsAfterWaits state) : SlotsReleased state := by
  have hinv := heldInv_of_reachable hreach
  constructor
  · intro id hended event hcreator key pending hslot
    obtain ⟨holder, hholder, hholds⟩ := hinv.shardSlots key event pending hslot
    obtain rfl := Option.some.inj (hcreator.symm.trans hholder)
    exact (hinv.ended hended).1 key hholds
  · intro id hended event hcreator key pending hslot
    obtain ⟨holder, hholder, hholds⟩ := hinv.resultSlots key event pending hslot
    obtain rfl := Option.some.inj (hcreator.symm.trans hholder)
    exact (hinv.ended hended).2.1 key hholds
  · intro id hended
    exact (hinv.ended hended).2.2
  · intro hidle key
    constructor
    · refine Option.eq_none_iff_forall_ne_some.mpr ?_
      rintro ⟨event, pending⟩ hslot
      obtain ⟨id, -, hholds⟩ := hinv.shardSlots key event pending hslot
      refine hidle id ⟨not_absent_of_holds (.inl hholds), ?_⟩
      intro hended
      exact (hinv.ended hended).1 key hholds
    · refine Option.eq_none_iff_forall_ne_some.mpr ?_
      rintro ⟨event, pending⟩ hslot
      obtain ⟨id, -, hholds⟩ := hinv.resultSlots key event pending hslot
      refine hidle id ⟨not_absent_of_holds (.inr hholds), ?_⟩
      intro hended
      exact (hinv.ended hended).2.1 key hholds

/-- Tensors without contents. -/
def unitOps : TensorOps Unit := ⟨.ok, fun ids _ => ids⟩

def shardReport (nodeId : String) (success : Bool) : ShardReadyRequest where
  modelName := "m"
  nodeId := nodeId
  success := success
  errorMessage := ""
  memoryUsedMb := 1
  layersLoaded := 1

/-- A load up to its waits. -/
def dispatchedLoad (id : Nat) : List (RunnerLabel Unit) :=
  [.load id twoNodePlan, .createSlot id, .createSlot id, .dispatch id (.ok ⟨true, ""⟩),
    .dispatch id (.ok ⟨true, ""⟩), .startWait id 0, .startWait id 1]

/-- A test that is enough for the condition. -/
def endsAfterWaits (state : RunnerCalls τ) : RunnerLabel τ → Bool
  | .dispatch _ (.ok accepted) => accepted.success
  | .dispatch _ (.error _) => false
  | .collect id index =>
      match state.calls id with
      | .load run =>
          match run.waiters index with
          | .ended (.ok (some report)) => report.result.success
          | _ => false
      | _ => false
  | .runShard id (.ok ()) =>
      match state.calls id with
      | .steps call => !call.plan.assignments.isEmpty
      | _ => false
  | .runShard _ (.error _) => false
  | _ => true

theorem endsAfterWaits_sound (state : RunnerCalls τ) (label : RunnerLabel τ)
    (htest : endsAfterWaits state label = true) : EndsAfterWaits state label := by
  cases label with
  | dispatch id response =>
      cases response with
      | error err => cases htest
      | ok accepted => exact ⟨accepted, rfl, htest⟩
  | collect id index =>
      intro run hcall assignment outcome _ hended hfails
      simp only [endsAfterWaits, hcall, hended] at htest
      split at htest
      · next report heq =>
          obtain rfl := WaiterPhase.ended.inj heq
          simp only [LoadRun.checkResult, htest, if_true] at hfails
          exact absurd rfl hfails
      · cases htest
  | runShard id reply =>
      cases reply with
      | error err => cases htest
      | ok reply =>
          refine ⟨rfl, ?_⟩
          intro call hcall hempty
          simp [endsAfterWaits, hcall, hempty] at htest
  | load | run | createSlot | startWait | wake | expire | shutdown | beginStep | leave
  | lookup | endWait | reportShardReady | deliverResult => trivial

def bothReturned (state : RunnerCalls Unit) : Bool :=
  match state.calls 0, state.calls 1 with
  | .load run, .steps call => run.phase = .returned ∧ call.phase = .returned ∧
      state.shardCreator 1 = some 0 ∧ state.resultCreator 0 = some 1
  | _, _ => false

/-- A load with two reports of success returns, and then a forward pass does. -/
theorem slots_released_two :
    ∃ state, bothReturned state = true ∧ SlotsReleased state := by
  have hinit : (system unitOps).ReachableVia EndsAfterWaits create := .init rfl
  have htest : ((system unitOps).execGuarded endsAfterWaits create (dispatchedLoad 0 ++
      [.reportShardReady (shardReport "a" true), .reportShardReady (shardReport "b" true),
        .wake 0 0, .wake 0 1, .collect 0 0, .collect 0 1, .run 1 twoNodePlan .runForward,
        .beginStep 1 "request", .runShard 1 (.ok ()), .lookup 1,
        .deliverResult ⟨"request", (), [], []⟩, .endWait 1])).any bothReturned = true := by
    decide
  obtain ⟨state, hreach, hreturned⟩ :=
    reachable_of_execGuarded _ hinit endsAfterWaits_sound htest
  exact ⟨state, hreturned, slots_released unitOps state hreach⟩

/-- A refused `LoadShard` leaves the slots behind, a failed report leaves the other wait
blocked, and an unreachable first worker leaves the slot of a forward pass behind. -/
theorem slots_released_counterexample :
    (∃ state, (system unitOps).Reachable state ∧ ¬ SlotsReleased state) ∧
      (∃ state, (system unitOps).Reachable state ∧ (state.calls 0).Ended ∧
        (state.calls 0).BlockedOn 1) ∧
      ∃ state, (system unitOps).Reachable state ∧ (state.calls 0).Ended ∧
        state.resultStore.slots.get? "request" = some (0, none) ∧
        state.resultCreator 0 = some 0 := by
  have hinit : (system unitOps).Reachable create := .init rfl
  have hrefused : (system unitOps).exec create
      [.load 0 twoNodePlan, .createSlot 0, .createSlot 0,
        .dispatch 0 (.ok ⟨false, "already loading"⟩)] = some _ := rfl
  have hfailed : (system unitOps).exec create (dispatchedLoad 0 ++
      [.reportShardReady (shardReport "a" false), .wake 0 0, .collect 0 0, .shutdown 0]) =
      some _ := rfl
  have hunreachable : (system unitOps).exec create
      [.run 0 twoNodePlan .runForward, .beginStep 0 "request",
        .runShard 0 (.error (.rpcError "UNAVAILABLE" "" ""))] = some _ := rfl
  refine ⟨⟨_, hinit.exec (fun _ _ _ => trivial) hrefused, ?_⟩,
    ⟨_, hinit.exec (fun _ _ _ => trivial) hfailed, .inr ⟨_, rfl⟩, 1, rfl⟩,
    ⟨_, hinit.exec (fun _ _ _ => trivial) hunreachable, .inr (.inr ⟨_, rfl⟩), rfl, rfl⟩⟩
  intro hreleased
  exact hreleased.shardSlots 0 (.inr ⟨_, rfl⟩) 0 rfl (shardReadyKey "m" "a") none rfl

end PiSSM.Pipeline
