import PiSSM.Pipeline.ClusterRuns

/-!
Which report resolves which wait. Slots are keyed by model and node only, so a
later attempt to load a model finds the slots, the waits and the late reports of
an earlier one under its own keys. In the runs in which no attempt reaches into
a slot that another one is still waiting for, every wait ends with a report a
worker made for the attempt's own request.
-/

namespace PiSSM.Orchestrator

open PiSSM.Lib PiSSM.Inference

/-- What the callback servicer stores of a report. -/
def readyResult (report : ShardReadyRequest) : ShardReadyResult :=
  ⟨report.success, report.errorMessage, report.memoryUsedMb, report.layersLoaded⟩

/-- A stored report was delivered by a worker for a `LoadShard` request of this
loader thread. -/
def OwnReport (jobs : Ticket → WorkerJob) (loader : Nat) (stored : MarkedReport Ticket) :
    Prop :=
  stored.origin.loader = loader ∧
    ∃ report, jobs stored.origin = .delivered report ∧ stored.result = readyResult report

namespace LoadRun

variable {run next : LoadRun Ticket}

/-- Nothing has been submitted to the executor yet. -/
def Preparing (run : LoadRun Ticket) : Prop :=
  match run.phase with
  | .creating _ | .dispatching _ => True
  | _ => False

/-- The waits of a call: an open one finds its slot, with the event it waits for
and perhaps a report of its own load, and an ended one has got such a report. -/
structure WaitsOk (run : LoadRun Ticket) (store : ResultStore (MarkedReport Ticket))
    (jobs : Ticket → WorkerJob) (loader : Nat) : Prop where
  preparing : run.Preparing → ∀ index, run.waiters index = .absent
  slot : ∀ index assignment, run.opens index = true →
    run.plan.assignments[index]? = some assignment →
    ∃ event pending, store.slots.get? (run.key assignment) = some (event, pending) ∧
      (∀ blocked, run.waiters index = .blocked blocked → blocked = event) ∧
      ∀ stored, pending = some stored → OwnReport jobs loader stored
  ended : ∀ index outcome, run.waiters index = .ended outcome →
    ∃ stored, outcome = .ok (some stored) ∧ OwnReport jobs loader stored

/-- The slots of one call have different keys. -/
theorem key_inj (hnodup : (run.plan.assignments.map ShardAssignment.nodeId).Nodup)
    {i j : Nat} {a b : ShardAssignment} (ha : run.plan.assignments[i]? = some a)
    (hb : run.plan.assignments[j]? = some b) (hkey : run.key a = run.key b) : i = j := by
  have hnode : a.nodeId = b.nodeId := shardReadyKey_inj hkey
  have hi : (run.plan.assignments.map ShardAssignment.nodeId)[i]? = some a.nodeId := by
    rw [List.getElem?_map, ha, Option.map_some]
  have hj : (run.plan.assignments.map ShardAssignment.nodeId)[j]? = some a.nodeId := by
    rw [List.getElem?_map, hb, Option.map_some, hnode]
  have hbound := (List.getElem?_eq_some_iff.mp hi).1
  exact (List.getElem?_inj hbound hnodup).mp (hi.trans hj.symm)

theorem opens_waiters {index : Nat} (hnot : ¬ run.Preparing) :
    run.opens index = true ↔
      run.waiters index = .queued ∨ ∃ event, run.waiters index = .blocked event := by
  unfold opens Preparing at *
  cases hphase : run.phase with
  | creating _ | dispatching _ => simp [hphase] at hnot
  | waiting | failing _ | returned | raised _ =>
      cases run.waiters index <;> simp

theorem setWaiter_of_ne {index i : Nat} (waiter : WaiterPhase Ticket) (hne : i ≠ index) :
    (run.setWaiter index waiter).waiters i = run.waiters i :=
  Function.update_of_ne hne _ _

theorem setWaiter_self (index : Nat) (waiter : WaiterPhase Ticket) :
    (run.setWaiter index waiter).waiters index = waiter :=
  Function.update_self _ _ _

/-- Another wait is open if it was. -/
theorem opens_setWaiter {index i : Nat} {waiter : WaiterPhase Ticket}
    (hnot : ¬ run.Preparing) (hne : i ≠ index)
    (hopens : (run.setWaiter index waiter).opens i = true) : run.opens i = true := by
  have hnot' : ¬ (run.setWaiter index waiter).Preparing := hnot
  rw [opens_waiters hnot', setWaiter_of_ne waiter hne] at hopens
  exact (opens_waiters hnot).mpr hopens

/-- A call that has just begun has no slots. -/
theorem start_opens (plan : DispatchPlan) (index : Nat) :
    ¬ (LoadRun.start plan : LoadRun Ticket).opens index = true := by
  intro hopen
  by_cases hempty : plan.assignments = []
  · have hphase : (LoadRun.start plan : LoadRun Ticket).phase =
        .raised (.valueError "max_workers must be greater than 0") := if_pos hempty
    rw [opens, hphase] at hopen
    cases hopen
  · have hphase : (LoadRun.start plan : LoadRun Ticket).phase = .creating 0 :=
      if_neg hempty
    simp [opens, hphase] at hopen

theorem start_waitsOk (plan : DispatchPlan) (store : ResultStore (MarkedReport Ticket))
    (jobs : Ticket → WorkerJob) (loader : Nat) :
    (LoadRun.start plan).WaitsOk store jobs loader where
  preparing _ _ := rfl
  slot index assignment hopen hget := absurd hopen (start_opens plan index)
  ended index outcome hended := by cases hended

/-- A call that goes on without a wait being opened, ended or moved to another
event. -/
structure Shrinks (run next : LoadRun Ticket) : Prop where
  plan : next.plan = run.plan
  preparing : next.Preparing → ∀ index, next.waiters index = .absent
  opens : ∀ index, next.opens index = true → run.opens index = true
  blocked : ∀ index event, next.waiters index = .blocked event →
    run.waiters index = .blocked event
  ended : ∀ index outcome, next.waiters index = .ended outcome →
    run.waiters index = .ended outcome

theorem WaitsOk.shrink {store : ResultStore (MarkedReport Ticket)}
    {jobs : Ticket → WorkerJob} {loader : Nat} (hok : run.WaitsOk store jobs loader)
    (hshrinks : run.Shrinks next) : next.WaitsOk store jobs loader where
  preparing := hshrinks.preparing
  slot index assignment hopen hget := by
    rw [hshrinks.plan] at hget
    obtain ⟨event, pending, hslot, hevent, hown⟩ :=
      hok.slot index assignment (hshrinks.opens index hopen) hget
    refine ⟨event, pending, ?_, ?_, hown⟩
    · rw [key, hshrinks.plan]
      exact hslot
    · intro blocked hwaits
      exact hevent blocked (hshrinks.blocked index blocked hwaits)
  ended index outcome hwaits := hok.ended index outcome (hshrinks.ended index outcome hwaits)

/-- A change of the slots that leaves those of the open waits alone. -/
theorem WaitsOk.frame {store store' : ResultStore (MarkedReport Ticket)}
    {jobs jobs' : Ticket → WorkerJob} {loader : Nat} (hok : run.WaitsOk store jobs loader)
    (hjobs : ∀ stored, OwnReport jobs loader stored → OwnReport jobs' loader stored)
    (hslots : ∀ index assignment, run.opens index = true →
      run.plan.assignments[index]? = some assignment →
      store'.slots.get? (run.key assignment) = store.slots.get? (run.key assignment)) :
    run.WaitsOk store' jobs' loader where
  preparing := hok.preparing
  slot index assignment hopen hget := by
    obtain ⟨event, pending, hslot, hevent, hown⟩ := hok.slot index assignment hopen hget
    refine ⟨event, pending, ?_, hevent, fun stored hstored => hjobs stored (hown stored hstored)⟩
    rw [hslots index assignment hopen hget, hslot]
  ended index outcome hwaits := by
    obtain ⟨stored, hstored, hown⟩ := hok.ended index outcome hwaits
    exact ⟨stored, hstored, hjobs stored hown⟩

theorem dispatched_shrinks {response : Except PyException LoadShardResponse}
    (hpreparing : run.Preparing → ∀ index, run.waiters index = .absent)
    (hstep : run.dispatched response = some next) : run.Shrinks next := by
  obtain ⟨index, hphase, hcases⟩ := dispatched_some hstep
  have habsent := hpreparing (by simp [Preparing, hphase])
  rcases hcases with ⟨err, rfl⟩ | ⟨_, rfl⟩ | ⟨_, rfl⟩
  · constructor
    · rfl
    · intro hprepares
      exact hprepares.elim
    · intro other hopen
      simp [opens, habsent other] at hopen
    · intro other event hblocked
      exact hblocked
    · intro other outcome hended
      exact hended
  · constructor
    · rfl
    · intro _
      exact habsent
    · intro other hopen
      simp only [opens, hphase] at hopen ⊢
      exact hopen
    · intro other event hblocked
      exact hblocked
    · intro other outcome hended
      exact hended
  · constructor
    · rfl
    · intro hprepares
      exact hprepares.elim
    · intro other hopen
      simp only [opens, hphase, decide_eq_true_eq] at hopen ⊢
      by_contra hlarge
      simp [hlarge] at hopen
    · intro other event hblocked
      dsimp only at hblocked
      split at hblocked <;> cases hblocked
    · intro other outcome hended
      dsimp only at hended
      split at hended <;> cases hended

theorem collect_shrinks {index : Nat} (hstep : run.collect index = some next) :
    run.Shrinks next := by
  obtain ⟨outcome, assignment, hphase, _, _, _, hcases⟩ := collect_some hstep
  have hnot : ¬ run.Preparing := by simp [Preparing, hphase]
  have hnext : ¬ next.Preparing ∧ next.plan = run.plan ∧ next.waiters = run.waiters := by
    rcases hcases with ⟨err, _, rfl⟩ | ⟨_, rfl⟩
    · exact ⟨id, rfl, rfl⟩
    · refine ⟨?_, rfl, rfl⟩
      by_cases hfull : insert index run.collected = Finset.range run.plan.assignments.length
      · simp [Preparing, hfull]
      · simp [Preparing, hfull]
  obtain ⟨hnotNext, hplan, hwaiters⟩ := hnext
  constructor
  · exact hplan
  · intro hpreparing
    exact absurd hpreparing hnotNext
  · intro other hopen
    rw [opens_waiters hnotNext, hwaiters] at hopen
    exact (opens_waiters hnot).mpr hopen
  · intro other event hblocked
    rw [← hwaiters]
    exact hblocked
  · intro other result hended
    rw [← hwaiters]
    exact hended

theorem shutdown_shrinks (hstep : run.shutdown = some next) : run.Shrinks next := by
  obtain ⟨err, hphase, rfl⟩ := shutdown_some hstep
  have hnot : ¬ run.Preparing := by simp [Preparing, hphase]
  constructor
  · rfl
  · intro hpreparing
    exact hpreparing.elim
  · intro other hopen
    rw [opens_waiters hnot]
    rw [opens_waiters (by simp [Preparing])] at hopen
    dsimp only at hopen
    cases hwaiter : run.waiters other with
    | queued => exact .inl rfl
    | blocked event => exact .inr ⟨event, rfl⟩
    | absent | cancelled | ended _ => simp [hwaiter, WaiterPhase.cancel] at hopen
  · intro other event hblocked
    dsimp only at hblocked
    cases hwaiter : run.waiters other with
    | blocked event' =>
        rw [hwaiter] at hblocked
        exact hblocked
    | queued | absent | cancelled | ended _ => simp [hwaiter, WaiterPhase.cancel] at hblocked
  · intro other outcome hended
    dsimp only at hended
    cases hwaiter : run.waiters other with
    | ended outcome' =>
        rw [hwaiter] at hended
        exact hended
    | queued | absent | cancelled | blocked _ => simp [hwaiter, WaiterPhase.cancel] at hended

theorem createSlot_opens {store store' : ResultStore (MarkedReport Ticket)}
    (hstep : run.createSlot store = some (next, store')) :
    ∃ index assignment, run.phase = .creating index ∧
      run.plan.assignments[index]? = some assignment ∧ next.plan = run.plan ∧
      ∀ i, i < run.plan.assignments.length → next.opens i = true →
        i = index ∨ run.opens i = true := by
  obtain ⟨index, assignment, hphase, hget, rfl, _⟩ := createSlot_some hstep
  have hlt := (List.getElem?_eq_some_iff.mp hget).1
  refine ⟨index, assignment, hphase, hget, rfl, ?_⟩
  intro i hi hopens
  simp only [opens, hphase, decide_eq_true_eq]
  by_cases hmore : index + 1 < run.plan.assignments.length
  · simp only [opens, if_pos hmore, decide_eq_true_eq] at hopens
    omega
  · omega

/-- A slot other than the new one was there before, and is left as it was. -/
theorem createSlot_other {store store' : ResultStore (MarkedReport Ticket)}
    (hnodup : (run.plan.assignments.map ShardAssignment.nodeId).Nodup)
    (hstep : run.createSlot store = some (next, store')) {index other : Nat}
    {assignment : ShardAssignment} (hphase : run.phase = .creating index)
    (hne : other ≠ index) (hother : run.plan.assignments[other]? = some assignment)
    (hopen : next.opens other = true) :
    run.opens other = true ∧
      store'.slots.get? (run.key assignment) = store.slots.get? (run.key assignment) := by
  obtain ⟨creating, created, hcreating, hget, _, hopens⟩ := createSlot_opens hstep
  obtain rfl : index = creating := by simpa [hphase] using hcreating
  obtain ⟨_, _, hcreating', hget', _, rfl⟩ := createSlot_some hstep
  obtain rfl : index = _ := by simpa [hphase] using hcreating'
  obtain rfl := Option.some.inj (hget.symm.trans hget')
  constructor
  · exact (hopens other (List.getElem?_eq_some_iff.mp hother).1 hopen).resolve_left hne
  · have hkey : run.key assignment ≠ run.key created := by
      intro heq
      exact hne (key_inj hnodup hother hget heq)
    exact (ResultStore.createSlot_get? _ _ _).trans (if_neg hkey)

/-- A new slot of this call. -/
theorem createSlot_waitsOk {store store' : ResultStore (MarkedReport Ticket)}
    {jobs : Ticket → WorkerJob} {loader : Nat}
    (hnodup : (run.plan.assignments.map ShardAssignment.nodeId).Nodup)
    (hok : run.WaitsOk store jobs loader)
    (hstep : run.createSlot store = some (next, store')) :
    next.WaitsOk store' jobs loader := by
  obtain ⟨index, assignment, hphase, hget, rfl, rfl⟩ := createSlot_some hstep
  have habsent := hok.preparing (by simp [Preparing, hphase])
  constructor
  · intro _
    exact habsent
  · intro other asg hopen hother
    by_cases heq : other = index
    · subst heq
      obtain rfl : assignment = asg := Option.some.inj (hget.symm.trans hother)
      refine ⟨store.nextEvent, none, ?_, ?_, ?_⟩
      · exact (ResultStore.createSlot_get? _ _ _).trans (if_pos rfl)
      · intro blocked hblocked
        dsimp only at hblocked
        rw [habsent] at hblocked
        cases hblocked
      · intro stored hstored
        cases hstored
    · obtain ⟨hbefore, hsame⟩ := createSlot_other hnodup hstep hphase heq hother hopen
      obtain ⟨event, pending, hslot, hevent, hown⟩ := hok.slot other asg hbefore hother
      exact ⟨event, pending, hsame.trans hslot, hevent, hown⟩
  · intro other outcome hended
    exact hok.ended other outcome hended

/-- A wait that is queued or blocked is one of a call past its preparation. -/
theorem not_preparing {index : Nat}
    (hpreparing : run.Preparing → ∀ index, run.waiters index = .absent)
    (hwaits : run.waiters index ≠ .absent) : ¬ run.Preparing :=
  fun hprepares => hwaits (hpreparing hprepares index)

/-- A waiter thread that starts finds its slot. -/
theorem startWait_waitsOk {store : ResultStore (MarkedReport Ticket)}
    {jobs : Ticket → WorkerJob} {loader index : Nat}
    (hok : run.WaitsOk store jobs loader)
    (hstep : run.startWait index store = some next) : next.WaitsOk store jobs loader := by
  obtain ⟨assignment, hqueued, hget, hcases⟩ := startWait_some hstep
  have hnot : ¬ run.Preparing := not_preparing hok.preparing (by rw [hqueued]; simp)
  have hopen : run.opens index = true := (opens_waiters hnot).mpr (.inl hqueued)
  obtain ⟨event, pending, hslot, _, hown⟩ := hok.slot index assignment hopen hget
  have hevent : store.slotEvent (run.key assignment) = .ok event := by
    simp [ResultStore.slotEvent, hslot]
  rcases hcases with ⟨err, herr, _⟩ | ⟨event', hevent', rfl⟩
  · rw [hevent] at herr
    cases herr
  · obtain rfl : event = event' := Except.ok.inj (hevent.symm.trans hevent')
    constructor
    · intro hpreparing
      exact absurd hpreparing hnot
    · intro i asg hopens hasg
      by_cases hi : i = index
      · subst hi
        obtain rfl : assignment = asg := Option.some.inj (hget.symm.trans hasg)
        refine ⟨event, pending, hslot, ?_, hown⟩
        intro blocked hblocked
        rw [setWaiter_self] at hblocked
        cases hblocked
        rfl
      · rw [setWaiter_of_ne _ hi]
        exact hok.slot i asg (opens_setWaiter hnot hi hopens) hasg
    · intro i outcome hended
      by_cases hi : i = index
      · subst hi
        rw [setWaiter_self] at hended
        cases hended
      · rw [setWaiter_of_ne _ hi] at hended
        exact hok.ended i outcome hended

/-- A waiter thread that wakes takes the report of its own load. -/
theorem wake_waitsOk {store store' : ResultStore (MarkedReport Ticket)}
    {jobs : Ticket → WorkerJob} {loader index : Nat}
    (hnodup : (run.plan.assignments.map ShardAssignment.nodeId).Nodup)
    (hok : run.WaitsOk store jobs loader)
    (hstep : run.wake index store = some (next, store')) :
    next.WaitsOk store' jobs loader := by
  obtain ⟨assignment, event, hblocked, hget, hfired, rfl, rfl⟩ := wake_some hstep
  have hnot : ¬ run.Preparing := not_preparing hok.preparing (by rw [hblocked]; simp)
  have hopen : run.opens index = true := (opens_waiters hnot).mpr (.inr ⟨event, hblocked⟩)
  obtain ⟨event', pending, hslot, hevent, hown⟩ := hok.slot index assignment hopen hget
  obtain rfl := hevent event hblocked
  have hsome := (store.fired_iff _ _ _ hslot).mp hfired
  obtain ⟨stored, rfl⟩ := Option.isSome_iff_exists.mp hsome
  have hresult : (store.popSlot (run.key assignment)).2 = some stored := by
    simp [ResultStore.popSlot, hslot]
  rw [hresult]
  constructor
  · intro hpreparing
    exact absurd hpreparing hnot
  · intro i asg hopens hasg
    have hi : i ≠ index := by
      rintro rfl
      have hnot' : ¬ (run.setWaiter i (.ended (.ok (some stored)))).Preparing := hnot
      rw [opens_waiters hnot', setWaiter_self] at hopens
      simp at hopens
    have hne : run.key asg ≠ run.key assignment := fun hkey =>
      hi (key_inj hnodup hasg hget hkey)
    obtain ⟨event', pending', hslot', hevent', hown'⟩ :=
      hok.slot i asg (opens_setWaiter hnot hi hopens) hasg
    refine ⟨event', pending', ?_, ?_, hown'⟩
    · exact (ResultStore.popSlot_get? _ _ _).trans ((if_neg hne).trans hslot')
    · rw [setWaiter_of_ne _ hi]
      exact hevent'
  · intro i outcome hended
    by_cases hi : i = index
    · subst hi
      rw [setWaiter_self] at hended
      cases hended
      exact ⟨stored, rfl, hown stored rfl⟩
    · rw [setWaiter_of_ne _ hi] at hended
      exact hok.ended i outcome hended

/-- A delivery to the slot of an open wait of this call. -/
theorem WaitsOk.deliver {store : ResultStore (MarkedReport Ticket)}
    {jobs jobs' : Ticket → WorkerJob} {loader : Nat} {key : String}
    {stored : MarkedReport Ticket} (hok : run.WaitsOk store jobs loader)
    (hjobs : ∀ stored, OwnReport jobs loader stored → OwnReport jobs' loader stored)
    (hown : ∀ index assignment, run.opens index = true →
      run.plan.assignments[index]? = some assignment → run.key assignment = key →
      OwnReport jobs' loader stored) :
    run.WaitsOk (store.deliver key stored).1 jobs' loader where
  preparing := hok.preparing
  slot index assignment hopen hget := by
    obtain ⟨event, pending, hslot, hevent, hpending⟩ := hok.slot index assignment hopen hget
    rw [ResultStore.deliver_get?]
    by_cases hkey : run.key assignment = key
    · refine ⟨event, some stored, ?_, hevent, ?_⟩
      · rw [if_pos hkey, ← hkey, hslot, Option.map_some]
      · intro found hfound
        obtain rfl := Option.some.inj hfound
        exact hown index assignment hopen hget hkey
    · refine ⟨event, pending, ?_, hevent, ?_⟩
      · rw [if_neg hkey, hslot]
      · intro found hfound
        exact hjobs found (hpending found hfound)
  ended index outcome hended := by
    obtain ⟨found, hfound, hfoundOwn⟩ := hok.ended index outcome hended
    exact ⟨found, hfound, hjobs found hfoundOwn⟩

theorem startWait_opens {store : ResultStore (MarkedReport Ticket)} {index : Nat}
    (hpreparing : run.Preparing → ∀ index, run.waiters index = .absent)
    (hstep : run.startWait index store = some next) :
    next.plan = run.plan ∧ ∀ i, next.opens i = true → run.opens i = true := by
  obtain ⟨assignment, hqueued, _, hcases⟩ := startWait_some hstep
  have hnot : ¬ run.Preparing := not_preparing hpreparing (by rw [hqueued]; simp)
  have hset : ∃ waiter, next = run.setWaiter index waiter := by
    rcases hcases with ⟨err, _, rfl⟩ | ⟨event, _, rfl⟩
    · exact ⟨_, rfl⟩
    · exact ⟨_, rfl⟩
  obtain ⟨waiter, rfl⟩ := hset
  refine ⟨rfl, ?_⟩
  intro i hopens
  by_cases hi : i = index
  · subst hi
    exact (opens_waiters hnot).mpr (.inl hqueued)
  · exact opens_setWaiter hnot hi hopens

theorem wake_opens {store store' : ResultStore (MarkedReport Ticket)} {index : Nat}
    (hpreparing : run.Preparing → ∀ index, run.waiters index = .absent)
    (hstep : run.wake index store = some (next, store')) :
    next.plan = run.plan ∧ ∀ i, next.opens i = true → run.opens i = true := by
  obtain ⟨assignment, event, hblocked, _, _, rfl, _⟩ := wake_some hstep
  have hnot : ¬ run.Preparing := not_preparing hpreparing (by rw [hblocked]; simp)
  refine ⟨rfl, ?_⟩
  intro i hopens
  by_cases hi : i = index
  · subst hi
    exact (opens_waiters hnot).mpr (.inr ⟨event, hblocked⟩)
  · exact opens_setWaiter hnot hi hopens

end LoadRun

/-- A loader thread has a slot under this key in place and has still to end its
wait for it. -/
def Cluster.OpenWait (cluster : Cluster) (loader : Nat) (key : String) : Prop :=
  ∃ run outcome index assignment, cluster.loads loader = ⟨some run, outcome⟩ ∧
    run.opens index = true ∧ run.plan.assignments[index]? = some assignment ∧
    run.key assignment = key

namespace ClusterSetup

variable {setup : ClusterSetup} {cluster next : Cluster} {label : ClusterLabel}

/-- No loader thread creates a slot, and no report of its workers arrives, under
a key on which another one still has a wait to end. -/
structure SlotsApart (cluster : Cluster) (label : ClusterLabel) : Prop where
  create : ∀ loader run index assignment, label = .createSlot loader →
    cluster.loads loader = ⟨some run, none⟩ → run.phase = .creating index →
    run.plan.assignments[index]? = some assignment →
    ∀ other, other ≠ loader → ¬ cluster.OpenWait other (run.key assignment)
  report : ∀ ticket report, label = .report ticket true →
    cluster.jobs ticket = .reporting report →
    ∀ other, other ≠ ticket.loader →
      ¬ cluster.OpenWait other (shardReadyKey report.modelName report.nodeId)

structure ReportsInv (cluster : Cluster) : Prop where
  waits : ∀ loader run outcome, cluster.loads loader = ⟨some run, outcome⟩ →
    run.WaitsOk cluster.shardStore cluster.jobs loader
  apart : ∀ loader loader' key, cluster.OpenWait loader key →
    cluster.OpenWait loader' key → loader = loader'

/-- A delivered report is not delivered again, nor is its job taken by another
request. -/
theorem Move.ownReport (hmove : Move setup cluster label next) (hruns : RunsInv cluster)
    {loader : Nat} {stored : MarkedReport Ticket}
    (hown : OwnReport cluster.jobs loader stored) : OwnReport next.jobs loader stored := by
  obtain ⟨hloader, report, hjob, hresult⟩ := hown
  refine ⟨hloader, report, ?_, hresult⟩
  cases hmove.job_cases stored.origin with
  | kept hkept => rw [hkept, hjob]
  | accepted hopen hphase _ _ _ _ _ =>
      have habsent := hruns.unsent _ _ _ stored.origin.index hopen
        (by simp [LoadRun.Unsent, hphase])
      rw [hjob] at habsent
      cases habsent
  | built hloading _ _ =>
      rw [hjob] at hloading
      cases hloading
  | reported hreporting _ =>
      rw [hjob] at hreporting
      cases hreporting

/-- The open waits after the call of one loader thread has gone on. -/
theorem openWait_update {loader other : Nat} {key : String} {run after : LoadRun Ticket}
    {outcome outcome' : Option (Except PyException Unit)}
    (hloads : next.loads = Function.update cluster.loads loader ⟨some after, outcome'⟩)
    (hload : cluster.loads loader = ⟨some run, outcome⟩) (hplan : after.plan = run.plan)
    (hopen : next.OpenWait other key) :
    cluster.OpenWait other key ∨
      (other = loader ∧ ∃ index assignment, after.opens index = true ∧
        run.plan.assignments[index]? = some assignment ∧ run.key assignment = key) := by
  obtain ⟨found, foundOutcome, index, assignment, hfound, hopens, hget, hkey⟩ := hopen
  by_cases heq : other = loader
  · subst heq
    rw [hloads, Function.update_self] at hfound
    cases hfound
    rw [LoadRun.key, hplan] at hkey
    rw [hplan] at hget
    exact .inr ⟨rfl, index, assignment, hopens, hget, hkey⟩
  · rw [hloads, Function.update_of_ne heq] at hfound
    exact .inl ⟨found, foundOutcome, index, assignment, hfound, hopens, hget, hkey⟩

theorem openWait_shrink {loader other : Nat} {key : String} {run after : LoadRun Ticket}
    {outcome outcome' : Option (Except PyException Unit)}
    (hloads : next.loads = Function.update cluster.loads loader ⟨some after, outcome'⟩)
    (hload : cluster.loads loader = ⟨some run, outcome⟩)
    (hopens : after.plan = run.plan ∧ ∀ i, after.opens i = true → run.opens i = true)
    (hopen : next.OpenWait other key) : cluster.OpenWait other key := by
  rcases openWait_update hloads hload hopens.1 hopen with hold | ⟨rfl, i, asg, hi, hget, hkey⟩
  · exact hold
  · exact ⟨run, outcome, i, asg, hload, hopens.2 i hi, hget, hkey⟩

/-- A wait is opened only by creating its slot. -/
theorem Move.openWait (hmove : Move setup cluster label next) (hinv : ReportsInv cluster)
    {loader : Nat} {key : String} (hopen : next.OpenWait loader key) :
    cluster.OpenWait loader key ∨
      ∃ run index assignment, label = .createSlot loader ∧
        cluster.loads loader = ⟨some run, none⟩ ∧ run.phase = .creating index ∧
        run.plan.assignments[index]? = some assignment ∧ run.key assignment = key := by
  cases hmove with
  | request _ | unloadFailed _ | unloaded _ _ | finished _ _ | tokenizerFailed _
  | generationFailed _ _ _ | released _ _ _ _ | jobFinished _ _ | reportDelivered _
  | reportDropped _ | acquired _ _ _ _ | generated _ _ _ => exact .inl hopen
  | @prepared _ thread _ _ =>
      obtain ⟨found, outcome, index, assignment, hfound, hopens, hget, hkey⟩ := hopen
      rcases update_cases hfound with ⟨_, heq⟩ | ⟨_, hkept⟩
      · cases heq
        exact absurd hopens (LoadRun.start_opens thread.plan index)
      · exact .inl ⟨found, outcome, index, assignment, hkept, hopens, hget, hkey⟩
  | prepareFailed _ _ =>
      obtain ⟨found, outcome, index, assignment, hfound, hopens, hget, hkey⟩ := hopen
      have hkept := update_kept hfound (by simp)
      exact .inl ⟨found, outcome, index, assignment, hkept, hopens, hget, hkey⟩
  | slotCreated hload hcreate =>
      obtain ⟨index, assignment, hphase, hget, hplan, hopens⟩ :=
        LoadRun.createSlot_opens hcreate
      rcases openWait_update rfl hload hplan hopen with hold | ⟨rfl, i, asg, hi, hasg, hkey⟩
      · exact .inl hold
      · rcases hopens i (List.getElem?_eq_some_iff.mp hasg).1 hi with rfl | hi
        · exact .inr ⟨_, i, asg, rfl, hload, hphase, hasg, hkey⟩
        · exact .inl ⟨_, _, i, asg, hload, hi, hasg, hkey⟩
  | dispatchFailed hload hdispatched | dispatched hload _ _ _ _ hdispatched =>
      have hshrinks := LoadRun.dispatched_shrinks (hinv.waits _ _ _ hload).preparing hdispatched
      exact .inl (openWait_shrink rfl hload ⟨hshrinks.plan, hshrinks.opens⟩ hopen)
  | waitStarted hload hwait =>
      have hopens := LoadRun.startWait_opens (hinv.waits _ _ _ hload).preparing hwait
      exact .inl (openWait_shrink rfl hload hopens hopen)
  | woken hload hwake =>
      have hopens := LoadRun.wake_opens (hinv.waits _ _ _ hload).preparing hwake
      exact .inl (openWait_shrink rfl hload hopens hopen)
  | collected hload hcollect =>
      have hshrinks := LoadRun.collect_shrinks hcollect
      exact .inl (openWait_shrink rfl hload ⟨hshrinks.plan, hshrinks.opens⟩ hopen)
  | shutDown hload hshutdown =>
      have hshrinks := LoadRun.shutdown_shrinks hshutdown
      exact .inl (openWait_shrink rfl hload ⟨hshrinks.plan, hshrinks.opens⟩ hopen)
  | concluded hload _ =>
      exact .inl (openWait_shrink rfl hload ⟨rfl, fun _ hi => hi⟩ hopen)

theorem ReportsInv.apart_step (hinv : ReportsInv cluster) (hok : SlotsApart cluster label)
    (hmove : Move setup cluster label next) (loader loader' : Nat) (key : String)
    (hopen : next.OpenWait loader key) (hopen' : next.OpenWait loader' key) :
    loader = loader' := by
  rcases hmove.openWait hinv hopen with hold | ⟨run, i, asg, rfl, hload, hphase, hget, rfl⟩
  · rcases hmove.openWait hinv hopen' with
      hold' | ⟨run, i, asg, rfl, hload, hphase, hget, rfl⟩
    · exact hinv.apart loader loader' key hold hold'
    · by_contra hne
      exact hok.create loader' run i asg rfl hload hphase hget loader hne hold
  · rcases hmove.openWait hinv hopen' with hold' | ⟨_, _, _, hlabel, _⟩
    · by_contra hne
      exact hok.create loader run i asg rfl hload hphase hget loader' (Ne.symm hne) hold'
    · cases hlabel
      rfl

/-- The other calls when one slot has been changed that none of them waits for. -/
theorem ReportsInv.frame_others (hinv : ReportsInv cluster) {loader other : Nat}
    {run : LoadRun Ticket} {outcome : Option (Except PyException Unit)} {key : String}
    {store : ResultStore (MarkedReport Ticket)}
    (hload : cluster.loads other = ⟨some run, outcome⟩) (hne : other ≠ loader)
    (hapart : ∀ other, other ≠ loader → ¬ cluster.OpenWait other key)
    (hstore : ∀ query, query ≠ key →
      store.slots.get? query = cluster.shardStore.slots.get? query) :
    run.WaitsOk store cluster.jobs other := by
  apply (hinv.waits other run outcome hload).frame
  · intro stored hown
    exact hown
  · intro index assignment hopens hget
    apply hstore
    intro hkey
    exact hapart other hne ⟨run, outcome, index, assignment, hload, hopens, hget, hkey⟩

theorem ReportsInv.waits_step (hinv : ReportsInv cluster) (hruns : RunsInv cluster)
    (hnodup : ∀ loader run outcome, cluster.loads loader = ⟨some run, outcome⟩ →
      (run.plan.assignments.map ShardAssignment.nodeId).Nodup)
    (hok : SlotsApart cluster label) (hmove : Move setup cluster label next) (loader : Nat)
    (run : LoadRun Ticket) (outcome : Option (Except PyException Unit))
    (hload : next.loads loader = ⟨some run, outcome⟩) :
    run.WaitsOk next.shardStore next.jobs loader := by
  have hjobs (stored : MarkedReport Ticket) (hown : OwnReport cluster.jobs loader stored) :
      OwnReport next.jobs loader stored := hmove.ownReport hruns hown
  cases hmove with
  | request _ | unloadFailed _ | unloaded _ _ | finished _ _ | tokenizerFailed _
  | generationFailed _ _ _ | released _ _ _ _ | acquired _ _ _ _ | generated _ _ _ =>
      exact hinv.waits loader run outcome hload
  | jobFinished _ _ | reportDropped _ =>
      exact (hinv.waits loader run outcome hload).frame hjobs fun _ _ _ _ => rfl
  | @reportDelivered ticket report hjob =>
      apply (hinv.waits loader run outcome hload).deliver hjobs
      intro index assignment hopens hget hkey
      have hloader : ticket.loader = loader := by
        by_contra hne
        exact hok.report ticket report rfl hjob loader (Ne.symm hne)
          ⟨run, outcome, index, assignment, hload, hopens, hget, hkey⟩
      exact ⟨hloader, report, Function.update_self _ _ _, rfl⟩
  | prepared _ _ =>
      rcases update_cases hload with ⟨rfl, heq⟩ | ⟨_, hkept⟩
      · cases heq
        exact LoadRun.start_waitsOk _ _ _ _
      · exact hinv.waits loader run outcome hkept
  | prepareFailed _ _ =>
      have hkept := update_kept hload (by simp)
      exact hinv.waits loader run outcome hkept
  | @slotCreated created before after store hopen hcreate =>
      rcases update_cases hload with ⟨rfl, heq⟩ | ⟨hne, hkept⟩
      · cases heq
        exact LoadRun.createSlot_waitsOk (hnodup _ _ _ hopen) (hinv.waits _ _ _ hopen) hcreate
      · obtain ⟨index, assignment, hphase, hget, _, rfl⟩ := LoadRun.createSlot_some hcreate
        apply hinv.frame_others hkept hne
        · exact hok.create created before index assignment rfl hopen hphase hget
        · intro query hquery
          rw [ResultStore.createSlot_get?, if_neg hquery]
  | dispatchFailed hopen hdispatched =>
      rcases update_cases hload with ⟨rfl, heq⟩ | ⟨_, hkept⟩
      · cases heq
        have hbefore := hinv.waits _ _ _ hopen
        exact hbefore.shrink (LoadRun.dispatched_shrinks hbefore.preparing hdispatched)
      · exact hinv.waits loader run outcome hkept
  | dispatched hopen _ _ _ _ hdispatched =>
      rcases update_cases hload with ⟨rfl, heq⟩ | ⟨_, hkept⟩
      · cases heq
        have hbefore := hinv.waits _ _ _ hopen
        have hafter := hbefore.shrink
          (LoadRun.dispatched_shrinks hbefore.preparing hdispatched)
        exact hafter.frame hjobs fun _ _ _ _ => rfl
      · exact (hinv.waits loader run outcome hkept).frame hjobs fun _ _ _ _ => rfl
  | waitStarted hbefore hwait =>
      rcases update_cases hload with ⟨rfl, heq⟩ | ⟨_, hkept⟩
      · cases heq
        exact LoadRun.startWait_waitsOk (hinv.waits _ _ _ hbefore) hwait
      · exact hinv.waits loader run outcome hkept
  | @woken woken index before after outcome' store hbefore hwake =>
      have hwaits := hinv.waits _ _ _ hbefore
      rcases update_cases hload with ⟨rfl, heq⟩ | ⟨hne, hkept⟩
      · cases heq
        exact LoadRun.wake_waitsOk (hnodup _ _ _ hbefore) hwaits hwake
      · obtain ⟨assignment, event, hblocked, hget, _, _, rfl⟩ := LoadRun.wake_some hwake
        have hnot := LoadRun.not_preparing hwaits.preparing (by rw [hblocked]; simp)
        have hopens : before.opens index = true :=
          (LoadRun.opens_waiters hnot).mpr (.inr ⟨event, hblocked⟩)
        apply hinv.frame_others hkept hne
        · intro other hother hopenWait
          exact hother (hinv.apart other woken _ hopenWait
            ⟨before, outcome', index, assignment, hbefore, hopens, hget, rfl⟩)
        · intro query hquery
          rw [ResultStore.popSlot_get?, if_neg hquery]
  | collected hopen hcollect =>
      rcases update_cases hload with ⟨rfl, heq⟩ | ⟨_, hkept⟩
      · cases heq
        exact (hinv.waits _ _ _ hopen).shrink (LoadRun.collect_shrinks hcollect)
      · exact hinv.waits loader run outcome hkept
  | shutDown hopen hshutdown =>
      rcases update_cases hload with ⟨rfl, heq⟩ | ⟨_, hkept⟩
      · cases heq
        exact (hinv.waits _ _ _ hopen).shrink (LoadRun.shutdown_shrinks hshutdown)
      · exact hinv.waits loader run outcome hkept
  | concluded hopen _ =>
      rcases update_cases hload with ⟨rfl, heq⟩ | ⟨_, hkept⟩
      · cases heq
        exact hinv.waits _ _ _ hopen
      · exact hinv.waits loader run outcome hkept

theorem initial_reportsInv (setup : ClusterSetup) : ReportsInv setup.initial where
  waits loader run outcome hload := by cases hload
  apart loader loader' key hopen := by
    obtain ⟨run, outcome, _, _, hload, _⟩ := hopen
    cases hload

/-- The plan of a call names every node once. -/
theorem run_nodup (hreach : setup.system.Reachable cluster) {loader : Nat}
    {run : LoadRun Ticket} {outcome : Option (Except PyException Unit)}
    (hload : cluster.loads loader = ⟨some run, outcome⟩) :
    (run.plan.assignments.map ShardAssignment.nodeId).Nodup := by
  obtain ⟨thread, hthread, hplan⟩ := (runsInv_of_reachable hreach).plan _ _ _ hload
  rw [hplan]
  exact (loader_planned hreach hthread).nodup

theorem reportsInv_of_reachable (hreach : setup.system.ReachableVia SlotsApart cluster) :
    ReportsInv cluster := by
  apply hreach.invariant
  · rintro _ rfl
    exact initial_reportsInv setup
  · intro s label t hbefore hinv hok hstep
    have hmove := step_move hstep
    have hreachable := hbefore.reachable
    constructor
    · exact hinv.waits_step (runsInv_of_reachable hreachable)
        (fun _ _ _ hload => run_nodup hreachable hload) hok hmove
    · exact hinv.apart_step hok hmove

/-- A loader thread with an open wait is there. -/
theorem openWait_loader (hruns : RunsInv cluster) {loader : Nat} {key : String}
    (hopen : cluster.OpenWait loader key) :
    ∃ thread, cluster.http.loaders loader = some thread := by
  obtain ⟨run, outcome, _, _, hload, _⟩ := hopen
  obtain ⟨thread, hthread, _⟩ := hruns.plan loader run outcome hload
  exact ⟨thread, hthread⟩

end ClusterSetup

end PiSSM.Orchestrator
