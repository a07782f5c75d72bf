import PiSSM.Pipeline.FailedLoads
import PiSSM.Pipeline.LoadReports
import PiSSM.Pipeline.ModelStates

/-!
What stands behind the success of a load. A call of `load` returns only after it
has collected a report of success from every one of its waits, a report that is
stored has been delivered by a worker, and a model is made ready only by a loader
thread whose call has returned.
-/

namespace PiSSM.Orchestrator

open PiSSM.Lib PiSSM.Inference

namespace LoadRun

variable {run next : LoadRun Ticket} {store store' : ResultStore (MarkedReport Ticket)}

/-- An exception has been raised in the call. -/
def Failed (run : LoadRun Ticket) : Prop :=
  match run.phase with
  | .failing _ | .raised _ => True
  | _ => False

/-- The waits collected so far have ended with reports of success, and the call
has returned only if these are all. -/
structure Collects (run : LoadRun Ticket) : Prop where
  preparing : run.Preparing → run.collected = ∅ ∧ ∀ index, run.waiters index = .absent
  collected : ∀ index ∈ run.collected, ∃ stored,
    run.waiters index = .ended (.ok (some stored)) ∧ stored.result.success = true
  returned : run.phase = .returned → run.collected = Finset.range run.plan.assignments.length

/-- One step of a call; `taken` are the reports it takes out of their slots. -/
structure Advances (run next : LoadRun Ticket) (taken : Nat → MarkedReport Ticket → Prop) :
    Prop where
  plan : next.plan = run.plan
  failed : run.Failed → next.Failed
  returned : run.phase = .returned → next.phase = .returned
  collects : run.Collects → next.Collects
  ended : ∀ index stored, next.waiters index = .ended (.ok (some stored)) →
    run.waiters index = .ended (.ok (some stored)) ∨ taken index stored

variable {taken taken' : Nat → MarkedReport Ticket → Prop}

theorem Advances.refl (run : LoadRun Ticket) : run.Advances run taken :=
  ⟨rfl, id, id, id, fun _ _ => .inl⟩

theorem Advances.mono (hadvances : run.Advances next taken)
    (htaken : ∀ index stored, taken index stored → taken' index stored) :
    run.Advances next taken' where
  plan := hadvances.plan
  failed := hadvances.failed
  returned := hadvances.returned
  collects := hadvances.collects
  ended index stored hended := (hadvances.ended index stored hended).imp_right
    (htaken index stored)

theorem start_collects (plan : DispatchPlan) : (LoadRun.start plan).Collects where
  preparing _ := ⟨rfl, fun _ => rfl⟩
  collected index hmem := absurd hmem (Finset.notMem_empty index)
  returned hphase := by
    unfold start at hphase
    split at hphase <;> cases hphase

theorem createSlot_advances (hstep : run.createSlot store = some (next, store')) :
    run.Advances next taken := by
  obtain ⟨index, assignment, hphase, _, rfl, _⟩ := createSlot_some hstep
  constructor
  · rfl
  · intro hfailed
    simp [Failed, hphase] at hfailed
  · intro hreturned
    rw [hphase] at hreturned
    cases hreturned
  · intro hok
    have hprepared := hok.preparing (by simp [Preparing, hphase])
    refine ⟨fun _ => hprepared, hok.collected, ?_⟩
    intro hreturned
    dsimp only at hreturned
    split at hreturned <;> cases hreturned
  · exact fun _ _ => .inl

theorem dispatched_advances {response : Except PyException LoadShardResponse}
    (hstep : run.dispatched response = some next) : run.Advances next taken := by
  obtain ⟨index, hphase, hcases⟩ := dispatched_some hstep
  have hfailed : ¬ run.Failed := by simp [Failed, hphase]
  have hreturned : run.phase ≠ .returned := by simp [hphase]
  have hpreparing : run.Preparing := by simp [Preparing, hphase]
  rcases hcases with ⟨err, rfl⟩ | ⟨_, rfl⟩ | ⟨_, rfl⟩
  · refine ⟨rfl, fun h => absurd h hfailed, fun h => absurd h hreturned, ?_, fun _ _ => .inl⟩
    intro hok
    exact ⟨fun hprepares => hprepares.elim, hok.collected, fun heq => by cases heq⟩
  · refine ⟨rfl, fun h => absurd h hfailed, fun h => absurd h hreturned, ?_, fun _ _ => .inl⟩
    intro hok
    exact ⟨fun _ => hok.preparing hpreparing, hok.collected, fun heq => by cases heq⟩
  · refine ⟨rfl, fun h => absurd h hfailed, fun h => absurd h hreturned, ?_, ?_⟩
    · intro hok
      refine ⟨fun hprepares => hprepares.elim, ?_, fun heq => by cases heq⟩
      intro other hmem
      dsimp only at hmem
      rw [(hok.preparing hpreparing).1] at hmem
      exact absurd hmem (Finset.notMem_empty other)
    · intro other stored hended
      dsimp only at hended
      split at hended <;> cases hended

/-- A wait that has not ended goes on. -/
theorem setWaiter_advances {index : Nat} {waiter : WaiterPhase Ticket}
    (hwaits : run.waiters index ≠ .absent)
    (hopen : ∀ outcome, run.waiters index ≠ .ended outcome)
    (htaken : ∀ stored, waiter = .ended (.ok (some stored)) → taken index stored) :
    run.Advances (run.setWaiter index waiter) taken := by
  refine ⟨rfl, id, id, ?_, ?_⟩
  · intro hok
    refine ⟨?_, ?_, hok.returned⟩
    · intro hpreparing
      exact absurd ((hok.preparing hpreparing).2 index) hwaits
    · intro other hmem
      obtain ⟨stored, hended, hsuccess⟩ := hok.collected other hmem
      have hne : other ≠ index := by
        rintro rfl
        exact hopen _ hended
      exact ⟨stored, (setWaiter_of_ne waiter hne).trans hended, hsuccess⟩
  · intro other stored hended
    by_cases heq : other = index
    · subst heq
      rw [setWaiter_self] at hended
      exact .inr (htaken stored hended)
    · rw [setWaiter_of_ne waiter heq] at hended
      exact .inl hended

theorem startWait_advances {index : Nat} (hstep : run.startWait index store = some next) :
    run.Advances next taken := by
  obtain ⟨assignment, hqueued, _, ⟨err, _, rfl⟩ | ⟨event, _, rfl⟩⟩ := startWait_some hstep
  · apply setWaiter_advances
    · simp [hqueued]
    · simp [hqueued]
    · intro stored heq
      cases heq
  · apply setWaiter_advances
    · simp [hqueued]
    · simp [hqueued]
    · intro stored heq
      cases heq

theorem wake_advances {index : Nat} (hstep : run.wake index store = some (next, store')) :
    run.Advances next fun i stored => i = index ∧ ∃ assignment event,
      run.plan.assignments[index]? = some assignment ∧
      store.slots.get? (run.key assignment) = some (event, some stored) := by
  obtain ⟨assignment, event, hblocked, hget, _, rfl, _⟩ := wake_some hstep
  apply setWaiter_advances
  · simp [hblocked]
  · simp [hblocked]
  · intro stored heq
    have hpopped : (store.slots.get? (run.key assignment)).bind Prod.snd = some stored :=
      Except.ok.inj (WaiterPhase.ended.inj heq)
    obtain ⟨⟨event', pending⟩, hslot, rfl⟩ := Option.bind_eq_some_iff.mp hpopped
    exact ⟨rfl, assignment, event', hget, hslot⟩

theorem collect_advances {index : Nat} (hstep : run.collect index = some next) :
    run.Advances next taken := by
  obtain ⟨outcome, assignment, hphase, hended, _, _, hcases⟩ := collect_some hstep
  have hfailed : ¬ run.Failed := by simp [Failed, hphase]
  have hreturned : run.phase ≠ .returned := by simp [hphase]
  rcases hcases with ⟨err, _, rfl⟩ | ⟨hchecked, rfl⟩
  · refine ⟨rfl, fun h => absurd h hfailed, fun h => absurd h hreturned, ?_, fun _ _ => .inl⟩
    intro hok
    exact ⟨fun hprepares => hprepares.elim, hok.collected, fun heq => by cases heq⟩
  · refine ⟨rfl, fun h => absurd h hfailed, fun h => absurd h hreturned, ?_, fun _ _ => .inl⟩
    intro hok
    obtain ⟨stored, rfl, hsuccess⟩ := checkResult_ok hchecked
    constructor
    · intro hprepares
      unfold Preparing at hprepares
      dsimp only at hprepares
      split at hprepares
      · next heq => split at heq <;> cases heq
      · next heq => split at heq <;> cases heq
      · exact hprepares.elim
    · intro other hmem
      rcases Finset.mem_insert.mp hmem with rfl | hbefore
      · exact ⟨stored, hended, hsuccess⟩
      · exact hok.collected other hbefore
    · intro hdone
      dsimp only at hdone ⊢
      split at hdone
      · next hfull => exact hfull
      · cases hdone

theorem shutdown_advances (hstep : run.shutdown = some next) : run.Advances next taken := by
  obtain ⟨err, hphase, rfl⟩ := shutdown_some hstep
  refine ⟨rfl, fun _ => trivial, ?_, ?_, ?_⟩
  · intro hreturned
    rw [hphase] at hreturned
    cases hreturned
  · intro hok
    refine ⟨fun hprepares => hprepares.elim, ?_, fun heq => by cases heq⟩
    intro index hmem
    obtain ⟨stored, hended, hsuccess⟩ := hok.collected index hmem
    refine ⟨stored, ?_, hsuccess⟩
    dsimp only
    rw [hended]
    rfl
  · intro index stored hended
    dsimp only at hended
    cases hwaiter : run.waiters index with
    | ended outcome =>
        rw [hwaiter] at hended
        exact .inl hended
    | queued | absent | cancelled | blocked _ => simp [hwaiter, WaiterPhase.cancel] at hended

end LoadRun

/-- The step takes this report out of a slot for this wait. -/
def Cluster.Takes (cluster : Cluster) (label : ClusterLabel) (loader : Nat)
    (run : LoadRun Ticket) (index : Nat) (stored : MarkedReport Ticket) : Prop :=
  label = .wake loader index ∧ ∃ assignment event,
    run.plan.assignments[index]? = some assignment ∧
    cluster.shardStore.slots.get? (run.key assignment) = some (event, some stored)

namespace ClusterSetup

variable {setup : ClusterSetup} {cluster next : Cluster} {label : ClusterLabel}

/-- How a call of `load` has come to where it is after a step. -/
inductive CallMove (cluster : Cluster) (label : ClusterLabel) (loader : Nat)
    (after : LoadRun Ticket) (outcome : Option (Except PyException Unit)) : Prop where
  | begun {thread : LoaderThread} (hload : cluster.loads loader = ⟨none, none⟩)
      (hafter : after = .start thread.plan)
  | advanced {run : LoadRun Ticket} {before : Option (Except PyException Unit)}
      (hload : cluster.loads loader = ⟨some run, before⟩)
      (hdecided : before = outcome ∨ before = none)
      (hadvances : run.Advances after (cluster.Takes label loader run))

theorem Move.call_cases (hmove : Move setup cluster label next) {loader : Nat}
    {after : LoadRun Ticket} {outcome : Option (Except PyException Unit)}
    (hload : next.loads loader = ⟨some after, outcome⟩) :
    CallMove cluster label loader after outcome := by
  have hkept (hload : cluster.loads loader = ⟨some after, outcome⟩) :
      CallMove cluster label loader after outcome :=
    .advanced hload (.inl rfl) (.refl after)
  cases hmove with
  | request _ | unloadFailed _ | unloaded _ _ | finished _ _ | tokenizerFailed _
  | generationFailed _ _ _ | released _ _ _ _ | acquired _ _ _ _ | generated _ _ _
  | jobFinished _ _ | reportDropped _ | reportDelivered _ => exact hkept hload
  | prepared _ hnone =>
      rcases update_cases hload with ⟨rfl, heq⟩ | ⟨_, hold⟩
      · cases heq
        exact .begun hnone rfl
      · exact hkept hold
  | prepareFailed _ _ =>
      rcases update_cases hload with ⟨_, heq⟩ | ⟨_, hold⟩
      · cases heq
      · exact hkept hold
  | slotCreated hopen hcreate =>
      rcases update_cases hload with ⟨rfl, heq⟩ | ⟨_, hold⟩
      · cases heq
        exact .advanced hopen (.inr rfl) (LoadRun.createSlot_advances hcreate)
      · exact hkept hold
  | dispatchFailed hopen hdispatched | dispatched hopen _ _ _ _ hdispatched =>
      rcases update_cases hload with ⟨rfl, heq⟩ | ⟨_, hold⟩
      · cases heq
        exact .advanced hopen (.inr rfl) (LoadRun.dispatched_advances hdispatched)
      · exact hkept hold
  | waitStarted hbefore hwait =>
      rcases update_cases hload with ⟨rfl, heq⟩ | ⟨_, hold⟩
      · cases heq
        exact .advanced hbefore (.inl rfl) (LoadRun.startWait_advances hwait)
      · exact hkept hold
  | woken hbefore hwake =>
      rcases update_cases hload with ⟨rfl, heq⟩ | ⟨_, hold⟩
      · cases heq
        refine .advanced hbefore (.inl rfl) ((LoadRun.wake_advances hwake).mono ?_)
        rintro index stored ⟨rfl, hslot⟩
        exact ⟨rfl, hslot⟩
      · exact hkept hold
  | collected hopen hcollect =>
      rcases update_cases hload with ⟨rfl, heq⟩ | ⟨_, hold⟩
      · cases heq
        exact .advanced hopen (.inr rfl) (LoadRun.collect_advances hcollect)
      · exact hkept hold
  | shutDown hopen hshutdown =>
      rcases update_cases hload with ⟨rfl, heq⟩ | ⟨_, hold⟩
      · cases heq
        exact .advanced hopen (.inr rfl) (LoadRun.shutdown_advances hshutdown)
      · exact hkept hold
  | concluded hopen _ =>
      rcases update_cases hload with ⟨rfl, heq⟩ | ⟨_, hold⟩
      · cases heq
        exact .advanced hopen (.inr rfl) (.refl _)
      · exact hkept hold

/-- What the calls of `load` have collected, what a successful outcome stands for
and where the stored reports come from. -/
structure CallsInv (cluster : Cluster) : Prop where
  collects : ∀ loader run outcome, cluster.loads loader = ⟨some run, outcome⟩ → run.Collects
  succeeded : ∀ loader, (cluster.loads loader).outcome = some (.ok ()) →
    ∃ run, cluster.loads loader = ⟨some run, some (.ok ())⟩ ∧ run.phase = .returned
  stored : ∀ key event stored,
    cluster.shardStore.slots.get? key = some (event, some stored) →
    OwnReport cluster.jobs stored.origin.loader stored

/-- A stored report has been stored before or is delivered now. -/
theorem Move.stored (hmove : Move setup cluster label next) (hruns : RunsInv cluster)
    (hstored : ∀ key event stored,
      cluster.shardStore.slots.get? key = some (event, some stored) →
      OwnReport cluster.jobs stored.origin.loader stored)
    {key : String} {event : Nat} {stored : MarkedReport Ticket}
    (hget : next.shardStore.slots.get? key = some (event, some stored)) :
    OwnReport next.jobs stored.origin.loader stored := by
  have hkept (hold : cluster.shardStore.slots.get? key = some (event, some stored)) :
      OwnReport next.jobs stored.origin.loader stored :=
    hmove.ownReport hruns (hstored key event stored hold)
  cases hmove with
  | request _ | unloadFailed _ | unloaded _ _ | finished _ _ | tokenizerFailed _
  | generationFailed _ _ _ | released _ _ _ _ | acquired _ _ _ _ | generated _ _ _
  | prepared _ _ | prepareFailed _ _ | dispatchFailed _ _ | dispatched _ _ _ _ _ _
  | waitStarted _ _ | collected _ _ | shutDown _ _ | concluded _ _ | jobFinished _ _
  | reportDropped _ => exact hkept hget
  | slotCreated _ hcreate =>
      obtain ⟨_, _, _, _, _, rfl⟩ := LoadRun.createSlot_some hcreate
      rw [ResultStore.createSlot_get?] at hget
      split at hget
      · cases hget
      · exact hkept hget
  | woken _ hwake =>
      obtain ⟨_, _, _, _, _, _, rfl⟩ := LoadRun.wake_some hwake
      rw [ResultStore.popSlot_get?] at hget
      split at hget
      · cases hget
      · exact hkept hget
  | @reportDelivered ticket report _ =>
      dsimp only [reportShardReady] at hget
      rw [ResultStore.deliver_get?] at hget
      split at hget
      · obtain ⟨_, _, heq⟩ := Option.map_eq_some_iff.mp hget
        cases heq
        exact ⟨rfl, report, Function.update_self _ _ _, rfl⟩
      · exact hkept hget

theorem CallsInv.step (hinv : CallsInv cluster) (hruns : RunsInv cluster)
    (hmove : Move setup cluster label next) : CallsInv next := by
  constructor
  · intro loader run outcome hload
    cases hmove.call_cases hload with
    | begun _ hafter =>
        rw [hafter]
        exact LoadRun.start_collects _
    | advanced hbefore _ hadvances => exact hadvances.collects (hinv.collects _ _ _ hbefore)
  · intro loader houtcome
    cases hmove.load_cases loader with
    | kept hkept =>
        rw [hkept] at houtcome ⊢
        exact hinv.succeeded loader houtcome
    | begun _ _ hnext | abandoned _ hnext =>
        rw [hnext] at houtcome
        cases houtcome
    | @went run after _ outcome hload hnext _ =>
        obtain rfl : outcome = some (.ok ()) := by simpa [hnext] using houtcome
        have hreturned : run.phase = .returned := by
          rcases Pipeline.outcome_cases hmove houtcome with hbefore | ⟨hnone, _⟩ |
            ⟨found, tokenizer, hfound, _, hdecided⟩
          · obtain ⟨found, hfound, hreturned⟩ := hinv.succeeded loader hbefore
            rw [hload] at hfound
            cases hfound
            exact hreturned
          · rw [hload] at hnone
            cases hnone
          · rw [hload] at hfound
            cases hfound
            rcases hdecided with ⟨hreturned, _⟩ | ⟨err, _, heq⟩
            · exact hreturned
            · cases heq
        refine ⟨after, hnext, ?_⟩
        cases hmove.call_cases hnext with
        | begun hnone _ =>
            rw [hload] at hnone
            cases hnone
        | advanced hfound _ hadvances =>
            rw [hload] at hfound
            cases hfound
            exact hadvances.returned hreturned
  · intro key event stored hget
    exact hmove.stored hruns hinv.stored hget

theorem callsInv_of_reachable (hreach : setup.system.Reachable cluster) : CallsInv cluster := by
  apply hreach.invariant
  · rintro _ rfl
    constructor
    · intro loader run outcome hload
      cases hload
    · intro loader houtcome
      cases houtcome
    · intro key event stored hget
      cases hget
  · intro s label t hbefore hinv _ hstep
    exact hinv.step (runsInv_of_reachable hbefore) (step_move hstep)

end ClusterSetup

namespace HttpState

variable {state next : HttpState} {label : HttpLabel}

/-- What is written into the table: a dispatch that has failed, one that is recorded or
the end of a load. -/
inductive EntryWrite (state : HttpState) (name : String) : HttpLabel → ModelState → Prop where
  | refused {label : HttpLabel} {message : String} :
      EntryWrite state name label ⟨.error, none, none, some message⟩
  | dispatched {id loader : Nat} {request : HttpRequest} {plan : DispatchPlan}
      (hget : state.requests id = some request)
      (hphase : request.phase = .recording (.ok plan)) (hname : request.manifest.name = name) :
      EntryWrite state name (.request (.record id loader)) ⟨.loading, some plan, none, none⟩
  | loaded {loader : Nat} {thread : LoaderThread} {outcome : Except PyException Unit}
      (hthread : state.loaders loader = some thread) (hrunning : thread.running = true)
      (hname : thread.manifest.name = name) :
      EntryWrite state name (.finishLoad loader outcome)
        (loadOutcome loader thread.plan outcome)

theorem Transition.entry_cases (htrans : Transition state label next) {name : String}
    {entry : ModelState} (hget : next.modelStates.get? name = some entry) :
    state.modelStates.get? name = some entry ∨ EntryWrite state name label entry := by
  cases htrans with
  | registry _ _ | post _ _ | move _ _ _ => exact .inl hget
  | takeDown _ _ _ =>
      simp only [Dict.get?_erase] at hget
      split at hget
      · cases hget
      · exact .inl hget
  | evict _ _ =>
      simp only [evictLoaded_get?, Option.filter_eq_some_iff] at hget
      exact .inl hget.1
  | planFailed _ _ _ =>
      simp only [Dict.get?_set] at hget
      split at hget
      · obtain rfl := Option.some.inj hget
        exact .inr .refused
      · exact .inl hget
  | started hrequest hrecording _ _ =>
      simp only [Dict.get?_set] at hget
      split at hget
      · next hname =>
          obtain rfl := Option.some.inj hget
          exact .inr (.dispatched hrequest hrecording hname.symm)
      · exact .inl hget
  | ended hthread hrunning =>
      simp only [Dict.get?_set] at hget
      split at hget
      · next hname =>
          obtain rfl := Option.some.inj hget
          exact .inr (.loaded hthread hrunning hname.symm)
      · exact .inl hget

end HttpState

/-- A loader thread that has still to record its outcome, and whose attempt has
not failed. -/
def Cluster.Unfailed (cluster : Cluster) (loader : Nat) (run : LoadRun Ticket) : Prop :=
  ∃ thread outcome, cluster.http.loaders loader = some thread ∧ thread.running = true ∧
    cluster.loads loader = ⟨some run, outcome⟩ ∧ ¬ run.Failed ∧
    ∀ err, outcome ≠ some (.error err)

namespace ClusterSetup

variable {setup : ClusterSetup} {cluster next : Cluster} {label : ClusterLabel}

/-- An attempt that has not failed had not failed before. -/
theorem Move.unfailed (hmove : Move setup cluster label next) (hruns : RunsInv cluster)
    {loader : Nat} {after : LoadRun Ticket} (hunfailed : next.Unfailed loader after) :
    (cluster.loads loader = ⟨none, none⟩ ∧ ∃ plan, after = .start plan) ∨
      ∃ run, cluster.Unfailed loader run ∧
        run.Advances after (cluster.Takes label loader run) := by
  obtain ⟨thread', outcome, hthread', hrunning, hload, hfailed, houtcome⟩ := hunfailed
  cases hmove.call_cases hload with
  | begun hnone hafter => exact .inl ⟨hnone, _, hafter⟩
  | @advanced run before hbefore hdecided hadvances =>
      obtain ⟨thread, hthread, _⟩ := hruns.plan loader run before hbefore
      obtain ⟨kept, hkept, _, _, hstill⟩ := hmove.loader_kept hthread
      obtain rfl : kept = thread' := Option.some.inj (hkept.symm.trans hthread')
      refine .inr ⟨run, ⟨thread, before, hthread, hstill hrunning, hbefore, ?_, ?_⟩, hadvances⟩
      · exact fun h => hfailed (hadvances.failed h)
      · rcases hdecided with rfl | rfl
        · exact houtcome
        · simp

/-- What a move writes into the table: a loader thread writes the outcome of its call of
`load`, and nothing happens to the workers meanwhile. -/
inductive EntryWrite (cluster next : Cluster) (name : String) :
    ClusterLabel → ModelState → Prop where
  | refused {label : ClusterLabel} {message : String} :
      EntryWrite cluster next name label ⟨.error, none, none, some message⟩
  | dispatched {id loader : Nat} {request : HttpRequest} {plan : DispatchPlan}
      (hget : cluster.http.requests id = some request)
      (hphase : request.phase = .recording (.ok plan)) (hname : request.manifest.name = name) :
      EntryWrite cluster next name (.request (.record id loader))
        ⟨.loading, some plan, none, none⟩
  | loaded {loader : Nat} {thread : LoaderThread} {outcome : Except PyException Unit}
      (hthread : cluster.http.loaders loader = some thread) (hrunning : thread.running = true)
      (hname : thread.manifest.name = name)
      (houtcome : (cluster.loads loader).outcome = some outcome)
      (hnetwork : next.network = cluster.network) :
      EntryWrite cluster next name (.finishLoad loader)
        (HttpState.loadOutcome loader thread.plan outcome)

theorem Move.entry_cases (hmove : Move setup cluster label next) {name : String}
    {entry : ModelState} (hget : next.http.modelStates.get? name = some entry) :
    cluster.http.modelStates.get? name = some entry ∨
      EntryWrite cluster next name label entry := by
  have hother {httpLabel : HttpLabel} (hhttp : cluster.http.step httpLabel = some next.http)
      (hrequest : ∀ requestLabel, httpLabel ≠ .request requestLabel)
      (hfinish : ∀ loader outcome, httpLabel ≠ .finishLoad loader outcome) :
      cluster.http.modelStates.get? name = some entry ∨
        EntryWrite cluster next name label entry := by
    rcases (HttpState.step_transition hhttp).entry_cases hget with hsame | hwrite
    · exact .inl hsame
    · cases hwrite with
      | refused => exact .inr .refused
      | dispatched _ _ _ => exact absurd rfl (hrequest _)
      | loaded _ _ _ => exact absurd rfl (hfinish _ _)
  cases hmove with
  | request hhttp =>
      rcases (HttpState.step_transition hhttp).entry_cases hget with hsame | hwrite
      · exact .inl hsame
      · cases hwrite with
        | refused => exact .inr .refused
        | dispatched hrequest hphase hname => exact .inr (.dispatched hrequest hphase hname)
  | finished houtcome hhttp =>
      rcases (HttpState.step_transition hhttp).entry_cases hget with hsame | hwrite
      · exact .inl hsame
      · cases hwrite with
        | refused => exact .inr .refused
        | loaded hthread hrunning hname =>
            exact .inr (.loaded hthread hrunning hname houtcome rfl)
  | unloadFailed hhttp | unloaded _ hhttp | tokenizerFailed hhttp | generationFailed _ _ hhttp =>
      exact hother hhttp (by simp) (by simp)
  | released _ _ hlabel hhttp =>
      rcases hlabel with rfl | ⟨_, rfl⟩
      · exact hother hhttp (by simp) (by simp)
      · exact hother hhttp (by simp) (by simp)
  | prepared _ _ | prepareFailed _ _ | slotCreated _ _ | dispatchFailed _ _
  | dispatched _ _ _ _ _ _ | waitStarted _ _ | woken _ _ | collected _ _ | shutDown _ _
  | concluded _ _ | jobFinished _ _ | reportDelivered _ | reportDropped _
  | acquired _ _ _ _ | generated _ _ _ => exact .inl hget

end ClusterSetup

end PiSSM.Orchestrator
