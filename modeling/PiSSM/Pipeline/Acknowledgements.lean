import PiSSM.Orchestrator.PipelineCallbacks

/-!
What an acknowledgement of a callback says. `ResultStore.deliver` reports whether there
was a slot for the result, but the handlers drop its answer and acknowledge every callback
they could read: an answer is right exactly when the callback found a slot.
-/

namespace PiSSM.Pipeline

open PiSSM.Lib PiSSM.Inference PiSSM.Orchestrator

/-- The callback found a slot if it is acknowledged, and is refused if it did not. -/
def TruthfulAnswer (state : CallbackState) (call : Nat) (acknowledged : Bool) : Prop :=
  (acknowledged = true → call ∈ state.matched) ∧
    (call ∉ state.matched → acknowledged = false)

def Truthful (state : CallbackState) : Prop :=
  ∀ call callback acknowledged, state.handlers call = .answered callback acknowledged →
    TruthfulAnswer state call acknowledged

/-- Whether the slot of a callback about to be delivered is there. -/
def slotPending (state : CallbackState) : HandlerPhase → Bool
  | .delivering callback _ => (state.slot? callback).isSome
  | .absent | .answered _ _ | .raised _ => true

/-- A callback is handled while there is a slot for it. -/
def FindsSlot (state : CallbackState) : CallbackLabel → Prop
  | .deliver call => slotPending state (state.handlers call) = true
  | .createSlot _ | .lookup _ _ | .wake _ | .expire _ | .pop _ | .receive _ _ | .setEvent _
  | .answer _ => True

instance (state : CallbackState) : DecidablePred (FindsSlot state)
  | .deliver call => inferInstanceAs (Decidable (slotPending state (state.handlers call) = true))
  | .createSlot _ | .lookup _ _ | .wake _ | .expire _ | .pop _ | .receive _ _ | .setEvent _
  | .answer _ => .isTrue trivial

/-- What holds in every run: calls that have not come to the store have matched nothing,
and answers come after it. -/
structure CallsTracked (state : CallbackState) : Prop where
  absent : ∀ call, state.store.deliveries call = .absent → call ∉ state.matched
  answered : ∀ call callback acknowledged,
    state.handlers call = .answered callback acknowledged →
      acknowledged = true ∧ state.store.deliveries call ≠ .absent

variable {state next : CallbackState} {label : CallbackLabel}

theorem callsTracked_create : CallsTracked CallbackState.create where
  absent call _ := Finset.notMem_empty call
  answered _ _ _ hanswered := by cases hanswered

/-- The phase of a call of `deliver` changes, and not back to its start. -/
theorem CallsTracked.setDelivery (htracked : CallsTracked state) {call : Nat}
    {phase : DeliverPhase StoredResult} (hphase : phase ≠ .absent)
    {store : ResultSlots StoredResult} {matched : Finset Nat}
    (hdeliveries : store.deliveries = Function.update state.store.deliveries call phase)
    (hmatched : matched ⊆ insert call state.matched) :
    CallsTracked { state with store := store, matched := matched } where
  absent query habsent := by
    rw [hdeliveries] at habsent
    rcases update_cases habsent with ⟨_, hnew⟩ | ⟨hne, hold⟩
    · exact absurd hnew.symm hphase
    · intro hmem
      exact htracked.absent query hold (Finset.mem_of_mem_insert_of_ne (hmatched hmem) hne)
  answered query callback acknowledged hanswered := by
    obtain ⟨htrue, hcame⟩ := htracked.answered query callback acknowledged hanswered
    refine ⟨htrue, fun habsent => ?_⟩
    rw [hdeliveries] at habsent
    rcases update_cases habsent with ⟨_, hnew⟩ | ⟨_, hold⟩
    · exact hphase hnew.symm
    · exact hcame hold

theorem callsTracked_move (htracked : CallsTracked state)
    (hmove : CallbackState.Move state label next) : CallsTracked next := by
  cases hmove with
  | caller _ hdeliveries =>
      exact ⟨fun call habsent => htracked.absent call (hdeliveries ▸ habsent),
        fun call callback acknowledged hanswered => by
          rw [hdeliveries]
          exact htracked.answered call callback acknowledged hanswered⟩
  | @received call callback phase habsent hphase =>
      refine ⟨htracked.absent, fun query other acknowledged hanswered => ?_⟩
      rcases update_cases hanswered with ⟨_, hnew⟩ | ⟨_, hold⟩
      · exact absurd hnew.symm (hphase other acknowledged)
      · exact htracked.answered query other acknowledged hold
  | missed _ _ _ => exact htracked.setDelivery (by nofun) rfl (Finset.subset_insert _ _)
  | stored _ _ _ => exact htracked.setDelivery (by nofun) rfl (Finset.Subset.refl _)
  | eventSet _ _ => exact htracked.setDelivery (by nofun) rfl (Finset.subset_insert _ _)
  | @answered call callback _ _ _ _ _ hthread =>
      refine ⟨htracked.absent, fun query other acknowledged hanswered => ?_⟩
      rcases update_cases hanswered with ⟨rfl, hnew⟩ | ⟨_, hold⟩
      · cases hnew
        exact ⟨rfl, fun habsent => by cases hthread.symm.trans habsent⟩
      · exact htracked.answered query other acknowledged hold

theorem callsTracked_of_reachable {ok : CallbackState → CallbackLabel → Prop}
    (hreach : CallbackState.system.ReachableVia ok state) : CallsTracked state := by
  apply hreach.invariant
  · rintro _ rfl
    exact callsTracked_create
  · intro before label after _ htracked _ hstep
    exact callsTracked_move htracked (CallbackState.step_move hstep)

/-- Every call that has come to the store has found a slot. -/
def AllMatched (state : CallbackState) : Prop :=
  ∀ call, state.store.deliveries call ≠ .absent → call ∈ state.matched

theorem allMatched_move (hall : AllMatched state) (hfinds : FindsSlot state label)
    (hmove : CallbackState.Move state label next) : AllMatched next := by
  intro query hcame
  cases hmove with
  | caller _ hdeliveries => exact hall query (hdeliveries ▸ hcame)
  | received _ _ | answered _ _ => exact hall query hcame
  | missed hhandler _ hslot =>
      rw [FindsSlot, hhandler, slotPending, hslot] at hfinds
      cases hfinds
  | @stored call event callback result pending _ _ _ =>
      by_cases hquery : query = call
      · exact hquery ▸ Finset.mem_insert_self _ _
      · refine Finset.mem_insert_of_mem (hall query fun habsent => hcame ?_)
        exact (Function.update_of_ne hquery _ _).trans habsent
  | @eventSet call event callback result other requestId _ hthread =>
      refine hall query fun habsent => hcame ?_
      by_cases hquery : query = call
      · subst hquery
        cases hthread.symm.trans habsent
      · exact (Function.update_of_ne hquery _ _).trans habsent

theorem allMatched_of_reachable (hreach : CallbackState.system.ReachableVia FindsSlot state) :
    AllMatched state := by
  apply hreach.invariant
  · rintro _ rfl call hcame
    exact absurd rfl hcame
  · intro before label after _ hall hfinds hstep
    exact allMatched_move hall hfinds (CallbackState.step_move hstep)

/-- The step in which a callback is handled records whether there is a slot for it, and
puts its result there if there is. -/
theorem deliver_matched (htracked : CallsTracked state) {call : Nat}
    (hstep : state.step (.deliver call) = some next) :
    ∃ callback result, state.handlers call = .delivering callback result ∧
      (call ∈ next.matched ↔ (state.slot? callback).isSome = true) ∧
      (call ∈ next.matched → ∃ event, next.slot? callback = some (event, some result)) := by
  have hmove : CallbackState.Move state (.deliver call) next := CallbackState.step_move hstep
  cases hmove with
  | caller hcaller _ => exact absurd rfl (hcaller call)
  | @missed _ callback result hhandler hthread hslot =>
      have hunmatched := htracked.absent call hthread
      refine ⟨callback, result, hhandler, ?_, fun hmem => absurd hmem hunmatched⟩
      rw [hslot]
      exact ⟨fun hmem => absurd hmem hunmatched, nofun⟩
  | @stored _ event callback result pending hhandler hthread hslot =>
      refine ⟨callback, result, hhandler, ?_, fun _ => ⟨event, ?_⟩⟩
      · rw [hslot]
        exact ⟨fun _ => rfl, fun _ => Finset.mem_insert_self _ _⟩
      · exact Dict.get?_set_self _ _ _

/-- In every run in which callbacks are only handled while there is a slot for them, every
acknowledgement is right. In any run an answer is right exactly if its callback was handled
while there was one. -/
theorem acknowledgements (state : CallbackState) :
    (CallbackState.system.ReachableVia FindsSlot state → Truthful state) ∧
    (CallbackState.system.Reachable state →
      (∀ call callback acknowledged,
        state.handlers call = .answered callback acknowledged →
          (TruthfulAnswer state call acknowledged ↔ call ∈ state.matched)) ∧
      ∀ call next, state.step (.deliver call) = some next →
        ∃ callback result, state.handlers call = .delivering callback result ∧
          (call ∈ next.matched ↔ (state.slot? callback).isSome = true) ∧
          (call ∈ next.matched → ∃ event, next.slot? callback = some (event, some result))) := by
  constructor
  · intro hreach call callback acknowledged hanswered
    have hcame := ((callsTracked_of_reachable hreach).answered call callback acknowledged
      hanswered).2
    have hmatched := allMatched_of_reachable hreach call hcame
    exact ⟨fun _ => hmatched, fun hunmatched => absurd hmatched hunmatched⟩
  · intro hreach
    have htracked := callsTracked_of_reachable hreach
    refine ⟨fun call callback acknowledged hanswered => ?_,
      fun call next hstep => deliver_matched htracked hstep⟩
    obtain ⟨rfl, _⟩ := htracked.answered call callback acknowledged hanswered
    exact ⟨fun hright => hright.1 rfl, fun hmatched =>
      ⟨fun _ => hmatched, fun hunmatched => absurd hmatched hunmatched⟩⟩

/-- The result of a run: one number, of type float32. -/
def lastResult : Callback :=
  .deliverResult ⟨"r", [0, 0, 128, 63], [1], "torch.float32", [], []⟩

/-- A result that arrives while its request is waited for. -/
def resultInTime : List CallbackLabel :=
  [.createSlot "r", .lookup 0 "r", .receive 0 lastResult, .deliver 0, .setEvent 0, .answer 0]

/-- A result that arrives after its request has timed out. -/
def resultTooLate : List CallbackLabel :=
  [.createSlot "r", .lookup 0 "r", .expire 0, .pop 0, .receive 0 lastResult, .deliver 0,
    .answer 0]

/-- The answer to a callback, if it has been given. -/
def HandlerPhase.acknowledged? : HandlerPhase → Option Bool
  | .answered _ acknowledged => some acknowledged
  | _ => none

theorem acknowledged_of_some {phase : HandlerPhase} {acknowledged : Bool}
    (hphase : HandlerPhase.acknowledged? phase = some acknowledged) :
    ∃ callback, phase = .answered callback acknowledged := by
  cases phase with
  | answered callback answer =>
      obtain rfl := Option.some.inj hphase
      exact ⟨callback, rfl⟩
  | absent | delivering _ _ | raised _ => cases hphase

theorem acknowledgements_in_time :
    ∃ state, CallbackState.system.ReachableVia FindsSlot state ∧
      (∃ callback, state.handlers 0 = .answered callback true) ∧ Truthful state := by
  have hrun : ∃ state, CallbackState.system.ReachableVia FindsSlot state ∧
      decide (HandlerPhase.acknowledged? (state.handlers 0) = some true) = true :=
    TransitionSystem.reachable_of_execGuarded resultInTime (.init rfl)
      (fun _ _ => of_decide_eq_true) (by decide +kernel)
  obtain ⟨state, hreach, hanswered⟩ := hrun
  exact ⟨state, hreach, acknowledged_of_some (of_decide_eq_true hanswered),
    (acknowledgements state).1 hreach⟩

/-- A result that comes too late is acknowledged and dropped. -/
theorem acknowledgements_counterexample :
    ¬ ∀ state, CallbackState.system.Reachable state → Truthful state := by
  intro hclaim
  have hrun : ∃ state, CallbackState.system.Reachable state ∧
      decide (HandlerPhase.acknowledged? (state.handlers 0) = some true ∧
        0 ∉ state.matched) = true :=
    TransitionSystem.reachable_of_exec resultTooLate rfl (fun _ _ _ => trivial)
      (by decide +kernel)
  obtain ⟨state, hreach, hlate⟩ := hrun
  obtain ⟨hacknowledged, hunmatched⟩ := of_decide_eq_true hlate
  obtain ⟨callback, hanswered⟩ := acknowledged_of_some hacknowledged
  exact hunmatched ((hclaim state hreach 0 callback true hanswered).1 rfl)

end PiSSM.Pipeline
