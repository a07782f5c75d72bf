import PiSSM.Pipeline.LoadReports
import PiSSM.Pipeline.WorkerTables

/-!
The calls of `load` that have not failed yet, and what their waits can count on:
the slot of an open wait is in place with the event the wait is for, and the
event has been set if the worker's report has been delivered. It is so as long
as nothing disturbs the wait: no other attempt takes its slot, and the report is
neither dropped nor made under another node's id.
-/

namespace PiSSM.Orchestrator

open PiSSM.Lib PiSSM.Inference

namespace LoadRun

variable {run next : LoadRun Ticket} {store store' : ResultStore (MarkedReport Ticket)}
  {jobs jobs' : Nat → WorkerJob}

/-- The call has neither failed nor returned. -/
def Live (run : LoadRun Ticket) : Prop :=
  match run.phase with
  | .creating _ | .dispatching _ | .waiting => True
  | _ => False

/-- The loop over the assignments has not run past them. -/
def InBounds (run : LoadRun Ticket) : Prop :=
  match run.phase with
  | .creating next | .dispatching next => next < run.plan.assignments.length
  | _ => True

/-- The slot of a wait, with the event the wait is for; it has a result once the
worker's report has been delivered. -/
def SlotWaits (run : LoadRun Ticket) (store : ResultStore (MarkedReport Ticket))
    (jobs : Nat → WorkerJob) (index : Nat) (assignment : ShardAssignment) : Prop :=
  ∃ event pending, store.slots.get? (run.key assignment) = some (event, pending) ∧
    (∀ blocked, run.waiters index = .blocked blocked → blocked = event) ∧
    (∀ report, jobs index = .delivered report → pending.isSome = true) ∧
    ∀ report, jobs index ≠ .dropped report

/-- What holds of a call that is live; `jobs` are those of its own requests. -/
structure Awaits (run : LoadRun Ticket) (store : ResultStore (MarkedReport Ticket))
    (jobs : Nat → WorkerJob) : Prop where
  bounds : run.InBounds
  preparing : run.Preparing → run.collected = ∅ ∧ ∀ index, run.waiters index = .absent
  submitted : run.phase = .waiting → ∀ index < run.plan.assignments.length,
    run.waiters index ≠ .absent ∧ run.waiters index ≠ .cancelled
  collected : run.collected ⊆ Finset.range run.plan.assignments.length
  uncollected : run.phase = .waiting →
    run.collected ≠ Finset.range run.plan.assignments.length
  sent : ∀ index < run.plan.assignments.length, ¬ run.Unsent index → jobs index ≠ .absent
  slot : ∀ index assignment, run.opens index = true →
    run.plan.assignments[index]? = some assignment → run.SlotWaits store jobs index assignment

theorem not_preparing_of_waiting (hphase : run.phase = .waiting) : ¬ run.Preparing := by
  simp [Preparing, hphase]

/-- A new call. -/
theorem start_awaits {plan : DispatchPlan} (hlive : (LoadRun.start plan : LoadRun Ticket).Live) :
    (LoadRun.start plan).Awaits store jobs := by
  have hsome : plan.assignments ≠ [] := by
    intro hempty
    simp [Live, start, hempty] at hlive
  have hphase : (LoadRun.start plan : LoadRun Ticket).phase = .creating 0 := if_neg hsome
  constructor
  · simp only [InBounds, hphase]
    exact List.length_pos_of_ne_nil hsome
  · exact fun _ => ⟨rfl, fun _ => rfl⟩
  · intro hwaiting
    rw [hphase] at hwaiting
    cases hwaiting
  · exact Finset.empty_subset _
  · intro hwaiting
    rw [hphase] at hwaiting
    cases hwaiting
  · intro index _ hsent
    simp [Unsent, hphase] at hsent
  · intro index assignment hopen _
    exact absurd hopen (start_opens plan index)

/-- A change of the slots and of the jobs that keeps what the open waits of this
call rely on. -/
theorem Awaits.frame (hok : run.Awaits store jobs)
    (hjobs : ∀ index, jobs index ≠ .absent → jobs' index ≠ .absent)
    (hslots : ∀ index assignment, run.opens index = true →
      run.plan.assignments[index]? = some assignment →
      run.SlotWaits store jobs index assignment → run.SlotWaits store' jobs' index assignment) :
    run.Awaits store' jobs' where
  bounds := hok.bounds
  preparing := hok.preparing
  submitted := hok.submitted
  collected := hok.collected
  uncollected := hok.uncollected
  sent index hindex hsent := hjobs index (hok.sent index hindex hsent)
  slot index assignment hopen hget :=
    hslots index assignment hopen hget (hok.slot index assignment hopen hget)

/-- None of the jobs of this call is touched. -/
theorem Awaits.congr (hok : run.Awaits store jobs)
    (hjobs : ∀ index, jobs' index = jobs index) : run.Awaits store jobs' := by
  have hsame : jobs' = jobs := funext hjobs
  rwa [hsame]

/-- The slot of one wait is not touched. -/
theorem SlotWaits.congr {index : Nat} {assignment : ShardAssignment}
    (hslot : run.SlotWaits store jobs index assignment)
    (hstore : store'.slots.get? (run.key assignment) = store.slots.get? (run.key assignment)) :
    run.SlotWaits store' jobs index assignment := by
  obtain ⟨event, pending, hget, hrest⟩ := hslot
  exact ⟨event, pending, hstore.trans hget, hrest⟩

/-- The call creates a slot for one more wait. -/
theorem createSlot_awaits
    (hnodup : (run.plan.assignments.map ShardAssignment.nodeId).Nodup)
    (hunsent : ∀ index, run.Unsent index → jobs index = .absent)
    (hok : run.Awaits store jobs) (hstep : run.createSlot store = some (next, store')) :
    next.Awaits store' jobs := by
  obtain ⟨index, assignment, hphase, hget, rfl, rfl⟩ := createSlot_some hstep
  have hprepared := hok.preparing (by simp [Preparing, hphase])
  have habsent : ∀ other, jobs other = .absent := fun other =>
    hunsent other (by simp [Unsent, hphase])
  have hlt := (List.getElem?_eq_some_iff.mp hget).1
  have hwaiting : (if index + 1 < run.plan.assignments.length then LoadPhase.creating (index + 1)
      else .dispatching 0) ≠ .waiting := by
    split <;> simp
  constructor
  · by_cases hmore : index + 1 < run.plan.assignments.length
    · simpa only [InBounds, if_pos hmore] using hmore
    · simp only [InBounds, if_neg hmore]
      omega
  · exact fun _ => hprepared
  · exact fun hphase => absurd hphase hwaiting
  · exact hok.collected
  · exact fun hphase => absurd hphase hwaiting
  · intro other _ hsent
    by_cases hmore : index + 1 < run.plan.assignments.length
    · simp [Unsent, hmore] at hsent
    · simp [Unsent, hmore] at hsent
  · intro other asg hopen hother
    by_cases heq : other = index
    · subst heq
      obtain rfl : assignment = asg := Option.some.inj (hget.symm.trans hother)
      refine ⟨store.nextEvent, none, ?_, ?_, ?_, ?_⟩
      · exact (ResultStore.createSlot_get? _ _ _).trans (if_pos rfl)
      · intro blocked hblocked
        have hnone := hprepared.2 other
        rw [hnone] at hblocked
        cases hblocked
      · intro report hjob
        rw [habsent] at hjob
        cases hjob
      · intro report hjob
        rw [habsent] at hjob
        cases hjob
    · obtain ⟨hbefore, hsame⟩ := createSlot_other hnodup hstep hphase heq hother hopen
      exact (hok.slot other asg hbefore hother).congr hsame

/-- A call that is still live after a response has been accepted by a worker. -/
theorem dispatched_live {response : Except PyException LoadShardResponse}
    (hstep : run.dispatched response = some next) (hlive : next.Live) :
    ∃ answer, response = .ok answer ∧ answer.success = true := by
  unfold dispatched at hstep
  split at hstep
  · split at hstep
    · cases hstep
    · split at hstep
      · obtain rfl := Option.some.inj hstep
        exact hlive.elim
      · next answer =>
          split at hstep
          · next hsuccess => exact ⟨answer, rfl, hsuccess⟩
          · obtain rfl := Option.some.inj hstep
            exact hlive.elim
  · cases hstep

/-- The response to the current request, whose job is there now. -/
theorem dispatched_awaits {response : Except PyException LoadShardResponse}
    (hok : run.Awaits store jobs) (hstep : run.dispatched response = some next)
    (hlive : next.Live)
    (hjobs : ∀ index, ¬ run.phase = .dispatching index → jobs' index = jobs index)
    (hsent : ∀ index, run.phase = .dispatching index → jobs' index ≠ .absent ∧
      (∀ report, jobs' index ≠ .delivered report) ∧ ∀ report, jobs' index ≠ .dropped report) :
    next.Awaits store jobs' := by
  obtain ⟨index, hphase, hcases⟩ := dispatched_some hstep
  have hprepared := hok.preparing (by simp [Preparing, hphase])
  have hslot (other : Nat) (assignment : ShardAssignment)
      (hget : run.plan.assignments[other]? = some assignment) :
      run.SlotWaits store jobs' other assignment := by
    have hopen : run.opens other = true := by
      simp only [opens, hphase, decide_eq_true_eq]
      exact (List.getElem?_eq_some_iff.mp hget).1
    obtain ⟨event, pending, hstored, hevent, hdelivered, hdropped⟩ :=
      hok.slot other assignment hopen hget
    refine ⟨event, pending, hstored, hevent, ?_⟩
    by_cases heq : run.phase = .dispatching other
    · obtain ⟨_, hnotDelivered, hnotDropped⟩ := hsent other heq
      exact ⟨fun report hjob => absurd hjob (hnotDelivered report), hnotDropped⟩
    · rw [hjobs other heq]
      exact ⟨hdelivered, hdropped⟩
  have hsentBefore (other : Nat) (hother : other < run.plan.assignments.length)
      (hle : other ≤ index) : jobs' other ≠ .absent := by
    by_cases heq : run.phase = .dispatching other
    · exact (hsent other heq).1
    · rw [hjobs other heq]
      apply hok.sent other hother
      simp only [Unsent, hphase, not_le]
      rcases Nat.lt_or_eq_of_le hle with hlt | rfl
      · exact hlt
      · exact absurd hphase heq
  rcases hcases with ⟨err, rfl⟩ | ⟨hmore, rfl⟩ | ⟨hlast, rfl⟩
  · exact hlive.elim
  · constructor
    · exact hmore
    · exact fun _ => hprepared
    · intro hwaiting
      cases hwaiting
    · exact hok.collected
    · intro hwaiting
      cases hwaiting
    · intro other hother hsentNow
      simp only [Unsent, not_le] at hsentNow
      exact hsentBefore other hother (Nat.lt_succ_iff.mp hsentNow)
    · intro other assignment _ hget
      exact hslot other assignment hget
  · constructor
    · trivial
    · intro hpreparing
      exact hpreparing.elim
    · intro _ other hother
      dsimp only at hother ⊢
      rw [if_pos hother]
      exact ⟨by simp, by simp⟩
    · exact hok.collected
    · intro _ hfull
      dsimp only at hfull
      rw [hprepared.1] at hfull
      have hmem : index ∈ Finset.range run.plan.assignments.length :=
        Finset.mem_range.mpr (by omega)
      rw [← hfull] at hmem
      exact absurd hmem (Finset.notMem_empty index)
    · intro other hother _
      dsimp only at hother
      exact hsentBefore other hother (by omega)
    · intro other assignment _ hget
      obtain ⟨event, pending, hstored, _, hrest⟩ := hslot other assignment hget
      refine ⟨event, pending, hstored, ?_, hrest⟩
      intro blocked hblocked
      dsimp only at hblocked
      split at hblocked <;> cases hblocked

/-- A wait is replaced in the call. -/
theorem Awaits.setWaiter {index : Nat} {waiter : WaiterPhase Ticket}
    (hok : run.Awaits store jobs) (hphase : run.phase = .waiting)
    (hwaiter : waiter ≠ .absent ∧ waiter ≠ .cancelled)
    (hother : ∀ i assignment, i ≠ index → run.opens i = true →
      run.plan.assignments[i]? = some assignment → run.SlotWaits store' jobs i assignment)
    (hown : ∀ assignment, (run.setWaiter index waiter).opens index = true →
      run.plan.assignments[index]? = some assignment →
      (run.setWaiter index waiter).SlotWaits store' jobs index assignment) :
    (run.setWaiter index waiter).Awaits store' jobs := by
  have hnot := not_preparing_of_waiting hphase
  constructor
  · exact hok.bounds
  · exact fun hpreparing => absurd hpreparing hnot
  · intro _ other hlt
    by_cases heq : other = index
    · subst heq
      rw [setWaiter_self]
      exact hwaiter
    · rw [setWaiter_of_ne _ heq]
      exact hok.submitted hphase other hlt
  · exact hok.collected
  · exact hok.uncollected
  · exact hok.sent
  · intro other assignment hopen hget
    by_cases heq : other = index
    · subst heq
      exact hown assignment hopen hget
    · obtain ⟨event, pending, hstored, hevent, hrest⟩ :=
        hother other assignment heq (opens_setWaiter hnot heq hopen) hget
      refine ⟨event, pending, hstored, ?_, hrest⟩
      rw [setWaiter_of_ne _ heq]
      exact hevent

/-- The phase in which a live call has waits. -/
theorem waiting_of_live {index : Nat} (hok : run.Awaits store jobs) (hlive : run.Live)
    (hwaits : run.waiters index ≠ .absent) : run.phase = .waiting := by
  unfold Live at hlive
  cases hphase : run.phase with
  | creating _ | dispatching _ =>
      exact absurd ((hok.preparing (by simp [Preparing, hphase])).2 index) hwaits
  | waiting => rfl
  | failing _ | returned | raised _ => simp [hphase] at hlive

/-- A waiter thread of a live call starts. -/
theorem startWait_awaits {index : Nat} (hok : run.Awaits store jobs) (hlive : run.Live)
    (hstep : run.startWait index store = some next) : next.Awaits store jobs := by
  obtain ⟨assignment, hqueued, hget, hcases⟩ := startWait_some hstep
  have hwaits : run.waiters index ≠ .absent := by rw [hqueued]; simp
  have hphase := waiting_of_live hok hlive hwaits
  have hopen : run.opens index = true :=
    (opens_waiters (not_preparing_of_waiting hphase)).mpr (.inl hqueued)
  obtain ⟨event, pending, hstored, hevent, hrest⟩ := hok.slot index assignment hopen hget
  have hfound : store.slotEvent (run.key assignment) = .ok event := by
    simp [ResultStore.slotEvent, hstored]
  rcases hcases with ⟨err, herr, _⟩ | ⟨event', hevent', rfl⟩
  · rw [hfound] at herr
    cases herr
  · obtain rfl : event = event' := Except.ok.inj (hfound.symm.trans hevent')
    refine hok.setWaiter hphase ⟨by simp, by simp⟩ ?_ ?_
    · exact fun i asg _ hopens hasg => hok.slot i asg hopens hasg
    · intro asg _ hasg
      obtain rfl : assignment = asg := Option.some.inj (hget.symm.trans hasg)
      refine ⟨event, pending, hstored, ?_, hrest⟩
      intro blocked hblocked
      rw [setWaiter_self] at hblocked
      cases hblocked
      rfl

/-- A waiter thread of a live call wakes and takes its own slot. -/
theorem wake_awaits {index : Nat}
    (hnodup : (run.plan.assignments.map ShardAssignment.nodeId).Nodup)
    (hok : run.Awaits store jobs) (hlive : run.Live)
    (hstep : run.wake index store = some (next, store')) : next.Awaits store' jobs := by
  obtain ⟨assignment, event, hblocked, hget, _, rfl, rfl⟩ := wake_some hstep
  have hwaits : run.waiters index ≠ .absent := by rw [hblocked]; simp
  have hphase := waiting_of_live hok hlive hwaits
  refine hok.setWaiter hphase ⟨by simp, by simp⟩ ?_ ?_
  · intro i asg hne hopens hasg
    have hkey : run.key asg ≠ run.key assignment := fun hkey =>
      hne (key_inj hnodup hasg hget hkey)
    exact (hok.slot i asg hopens hasg).congr
      ((ResultStore.popSlot_get? _ _ _).trans (if_neg hkey))
  · intro asg hopens _
    have hnot : ¬ (run.setWaiter index
        (.ended (.ok (store.popSlot (run.key assignment)).2))).Preparing :=
      not_preparing_of_waiting hphase
    rw [opens_waiters hnot, setWaiter_self] at hopens
    simp at hopens

/-- The load of a live call goes on after a wait has been collected. -/
theorem collect_awaits {index : Nat} (hok : run.Awaits store jobs)
    (hstep : run.collect index = some next) (hlive : next.Live) : next.Awaits store jobs := by
  obtain ⟨outcome, assignment, hphase, _, hget, _, hcases⟩ := collect_some hstep
  rcases hcases with ⟨err, _, rfl⟩ | ⟨_, rfl⟩
  · exact hlive.elim
  · by_cases hfull : insert index run.collected = Finset.range run.plan.assignments.length
    · simp [Live, hfull] at hlive
    · have hlt := (List.getElem?_eq_some_iff.mp hget).1
      simp only [if_neg hfull]
      constructor
      · trivial
      · intro hpreparing
        exact hpreparing.elim
      · intro _
        exact hok.submitted hphase
      · exact Finset.insert_subset (Finset.mem_range.mpr hlt) hok.collected
      · exact fun _ => hfull
      · intro other hother _
        exact hok.sent other hother (by simp [Unsent, hphase])
      · intro other asg hopen hasg
        have hbefore : run.opens other = true := by
          simp only [opens, hphase] at hopen ⊢
          exact hopen
        exact hok.slot other asg hbefore hasg

/-- The jobs move without this one being delivered or dropped. -/
theorem SlotWaits.of_jobs {index : Nat} {assignment : ShardAssignment}
    (hslot : run.SlotWaits store jobs index assignment)
    (hdelivered : ∀ report, jobs' index = .delivered report → jobs index = .delivered report)
    (hdropped : ∀ report, jobs' index = .dropped report → jobs index = .dropped report) :
    run.SlotWaits store jobs' index assignment := by
  obtain ⟨event, pending, hget, hevent, hresult, hnotDropped⟩ := hslot
  refine ⟨event, pending, hget, hevent, ?_, ?_⟩
  · exact fun report hjob => hresult report (hdelivered report hjob)
  · exact fun report hjob => hnotDropped report (hdropped report hjob)

/-- A report is delivered, to this slot or to another one. -/
theorem SlotWaits.deliver {index : Nat} {assignment : ShardAssignment} {key : String}
    {stored : MarkedReport Ticket} (hslot : run.SlotWaits store jobs index assignment)
    (hdelivered : ∀ report, jobs' index = .delivered report →
      jobs index = .delivered report ∨ run.key assignment = key)
    (hdropped : ∀ report, jobs' index = .dropped report → jobs index = .dropped report) :
    run.SlotWaits (store.deliver key stored).1 jobs' index assignment := by
  obtain ⟨event, pending, hget, hevent, hresult, hnotDropped⟩ := hslot
  have hkept : ∀ report, jobs' index ≠ .dropped report := fun report hjob =>
    hnotDropped report (hdropped report hjob)
  by_cases hkey : run.key assignment = key
  · refine ⟨event, some stored, ?_, hevent, fun _ _ => rfl, hkept⟩
    rw [ResultStore.deliver_get?, if_pos hkey, ← hkey, hget, Option.map_some]
  · refine ⟨event, pending, ?_, hevent, ?_, hkept⟩
    · rw [ResultStore.deliver_get?, if_neg hkey, hget]
    · intro report hjob
      rcases hdelivered report hjob with hbefore | heq
      · exact hresult report hbefore
      · exact absurd heq hkey

end LoadRun

/-- A loader thread is in a call of `load` that is live. -/
def Cluster.LiveRun (cluster : Cluster) (loader : Nat) (run : LoadRun Ticket) : Prop :=
  cluster.loads loader = ⟨some run, none⟩ ∧ run.Live

/-- A live call has a slot under this key in place and has still to end its wait
for it. -/
def Cluster.LiveWait (cluster : Cluster) (loader : Nat) (key : String) : Prop :=
  ∃ run index assignment, cluster.LiveRun loader run ∧ run.opens index = true ∧
    run.plan.assignments[index]? = some assignment ∧ run.key assignment = key

namespace ClusterSetup

variable {setup : ClusterSetup} {cluster next : Cluster} {label : ClusterLabel}

/-- No loader thread creates or takes a slot that the live call of another one
waits for, and the report that such a call waits for arrives, under the id of its
assignment's node. -/
structure Undisturbed (cluster : Cluster) (label : ClusterLabel) : Prop where
  create : ∀ loader run index assignment, label = .createSlot loader →
    cluster.loads loader = ⟨some run, none⟩ → run.phase = .creating index →
    run.plan.assignments[index]? = some assignment →
    ∀ other, other ≠ loader → ¬ cluster.LiveWait other (run.key assignment)
  wake : ∀ loader run outcome index assignment, label = .wake loader index →
    cluster.loads loader = ⟨some run, outcome⟩ →
    run.plan.assignments[index]? = some assignment →
    ∀ other, other ≠ loader → ¬ cluster.LiveWait other (run.key assignment)
  report : ∀ ticket arrives report run assignment, label = .report ticket arrives →
    cluster.jobs ticket = .reporting report → cluster.LiveRun ticket.loader run →
    run.opens ticket.index = true → run.plan.assignments[ticket.index]? = some assignment →
    arrives = true ∧ report.nodeId = assignment.nodeId

/-- The live calls can count on their waits. -/
def LiveInv (cluster : Cluster) : Prop :=
  ∀ loader run, cluster.LiveRun loader run →
    run.Awaits cluster.shardStore fun index => cluster.jobs ⟨loader, index⟩

/-- The calls of the other loader threads. -/
theorem LiveInv.others (hinv : LiveInv cluster) {loader other : Nat} {run : LoadRun Ticket}
    {store : ResultStore (MarkedReport Ticket)} {key : String}
    (hload : cluster.loads other = ⟨some run, none⟩) (hlive : run.Live) (hne : other ≠ loader)
    (hapart : ∀ other, other ≠ loader → ¬ cluster.LiveWait other key)
    (hstore : ∀ query, query ≠ key →
      store.slots.get? query = cluster.shardStore.slots.get? query) :
    run.Awaits store fun index => cluster.jobs ⟨other, index⟩ := by
  apply (hinv other run ⟨hload, hlive⟩).frame (fun _ => id)
  intro index assignment hopen hget hslot
  apply hslot.congr
  apply hstore
  intro hkey
  exact hapart other hne ⟨run, index, assignment, ⟨hload, hlive⟩, hopen, hget, hkey⟩

/-- A report of a worker, delivered or dropped. -/
theorem LiveInv.reported (hinv : LiveInv cluster) {ticket : Ticket} {job : WorkerJob}
    {store : ResultStore (MarkedReport Ticket)} (hjob : job ≠ .absent)
    (hslots : ∀ loader run index assignment, cluster.LiveRun loader run →
      run.opens index = true → run.plan.assignments[index]? = some assignment →
      run.SlotWaits cluster.shardStore (fun index => cluster.jobs ⟨loader, index⟩) index
        assignment →
      run.SlotWaits store
        (fun index => Function.update cluster.jobs ticket job ⟨loader, index⟩) index assignment)
    {loader : Nat} {run : LoadRun Ticket} (hrun : cluster.LiveRun loader run) :
    run.Awaits store fun index => Function.update cluster.jobs ticket job ⟨loader, index⟩ := by
  apply (hinv loader run hrun).frame
  · intro index hthere
    rw [Function.update_apply]
    split
    · exact hjob
    · exact hthere
  · exact fun index assignment => hslots loader run index assignment hrun

/-- A request leaves the jobs of all others as they are. -/
theorem startJob_other {jobs : Ticket → WorkerJob} {ticket query : Ticket} {address : String}
    {thread : Option LoadThread} (hne : query ≠ ticket) :
    Cluster.startJob jobs ticket address thread query = jobs query := by
  cases thread with
  | none => rfl
  | some started => exact Function.update_of_ne hne _ _

/-- The worker has started a thread on a request after which the call is live. -/
theorem dispatched_thread {servicer after : InferenceServicer TracedShard (List TensorTag)}
    {request : LoadShardRequest} {response : LoadShardResponse} {thread : Option LoadThread}
    {reply : Except PyException LoadShardResponse} {run run' : LoadRun Ticket}
    (hanswer : servicer.loadShard request = (after, response, thread))
    (hreply : reply = .ok response ∨ ∃ err, reply = .error err)
    (hdispatched : run.dispatched reply = some run') (hlive : run'.Live) :
    ∃ started, thread = some started := by
  obtain ⟨answer, rfl, hsuccess⟩ := LoadRun.dispatched_live hdispatched hlive
  obtain rfl : answer = response := by
    rcases hreply with heq | ⟨err, heq⟩
    · exact Except.ok.inj heq
    · cases heq
  cases InferenceServicer.loadShard_answer hanswer with
  | held _ => exact ⟨_, rfl⟩
  | rejected _ => cases hsuccess
  | accepted _ _ => exact ⟨_, rfl⟩

/-- A live call after the answer to one of its requests. -/
theorem LiveInv.requested (hinv : LiveInv cluster) {loader index : Nat}
    {assignment : ShardAssignment} {run next : LoadRun Ticket}
    {servicer after : InferenceServicer TracedShard (List TensorTag)}
    {request : LoadShardRequest} {response : LoadShardResponse} {thread : Option LoadThread}
    {reply : Except PyException LoadShardResponse}
    (hopen : cluster.loads loader = ⟨some run, none⟩) (hphase : run.phase = .dispatching index)
    (hanswer : servicer.loadShard request = (after, response, thread))
    (hreply : reply = .ok response ∨ ∃ err, reply = .error err)
    (hdispatched : run.dispatched reply = some next) (hlive : next.Live) :
    next.Awaits cluster.shardStore fun other =>
      Cluster.startJob cluster.jobs ⟨loader, index⟩ assignment.address thread
        ⟨loader, other⟩ := by
  have hbefore : run.Live := by simp [LoadRun.Live, hphase]
  obtain ⟨started, rfl⟩ := dispatched_thread hanswer hreply hdispatched hlive
  apply LoadRun.dispatched_awaits (hinv _ _ ⟨hopen, hbefore⟩) hdispatched hlive
  · intro other hother
    have hne : (⟨loader, other⟩ : Ticket) ≠ ⟨loader, index⟩ := by
      intro heq
      cases heq
      exact hother hphase
    exact startJob_other hne
  · intro other hother
    obtain rfl : index = other := by simpa [hphase] using hother
    have hjob : Cluster.startJob cluster.jobs ⟨loader, index⟩ assignment.address
        (some started) ⟨loader, index⟩ =
          WorkerJob.start assignment.address started := Function.update_self _ _ _
    rw [hjob]
    cases started <;> simp [WorkerJob.start]

/-- The slot a live call waits for, after a report has reached the store. -/
theorem delivered_slotWaits (hjobs : setup.JobsInv cluster)
    {ticket : Ticket} {report : ShardReadyRequest} (hjob : cluster.jobs ticket = .reporting report)
    (hok : Undisturbed cluster (.report ticket true)) {loader index : Nat}
    {run : LoadRun Ticket} {assignment : ShardAssignment} (hrun : cluster.LiveRun loader run)
    (hopen : run.opens index = true) (hget : run.plan.assignments[index]? = some assignment)
    (hslot : run.SlotWaits cluster.shardStore (fun index => cluster.jobs ⟨loader, index⟩) index
      assignment) :
    run.SlotWaits (reportShardReady cluster.shardStore ticket report)
      (fun index => Function.update cluster.jobs ticket (.delivered report) ⟨loader, index⟩)
      index assignment := by
  apply hslot.deliver
  · intro delivered hdelivered
    rcases update_cases hdelivered with ⟨rfl, heq⟩ | ⟨_, hkept⟩
    · right
      have hthere : cluster.jobs ⟨loader, index⟩ ≠ .absent := by rw [hjob]; simp
      obtain ⟨run', outcome', assignment', hload', _, hjobOk⟩ := hjobs _ hthere
      obtain ⟨rfl, _⟩ : run = run' ∧ _ := by simpa [hrun.1] using hload'
      have hmodel := hjobOk.report report (by rw [hjob]; rfl)
      obtain ⟨_, hnode⟩ := hok.report ⟨loader, index⟩ true report run assignment rfl hjob
        hrun hopen hget
      rw [LoadRun.key, hmodel, hnode]
    · exact .inl hkept
  · intro dropped hdropped
    have hkept := update_kept hdropped (by simp)
    exact hkept

theorem LiveInv.step (hinv : LiveInv cluster) (hruns : RunsInv cluster)
    (hjobs : setup.JobsInv cluster)
    (hnodup : ∀ loader run outcome, cluster.loads loader = ⟨some run, outcome⟩ →
      (run.plan.assignments.map ShardAssignment.nodeId).Nodup)
    (hok : Undisturbed cluster label) (hmove : Move setup cluster label next) :
    LiveInv next := by
  rintro loader run ⟨hload, hlive⟩
  cases hmove with
  | request _ | unloadFailed _ | unloaded _ _ | finished _ _ | tokenizerFailed _
  | generationFailed _ _ _ | released _ _ _ _ | acquired _ _ _ _ | generated _ _ _ =>
      exact hinv loader run ⟨hload, hlive⟩
  | prepared _ _ =>
      rcases update_cases hload with ⟨_, heq⟩ | ⟨_, hkept⟩
      · cases heq
        exact LoadRun.start_awaits hlive
      · exact hinv loader run ⟨hkept, hlive⟩
  | prepareFailed _ _ =>
      have hkept := update_kept hload (by simp)
      exact hinv loader run ⟨hkept, hlive⟩
  | @slotCreated created before after store hopen hcreate =>
      obtain ⟨index, assignment, hphase, hget, _, hstore⟩ := LoadRun.createSlot_some hcreate
      rcases update_cases hload with ⟨rfl, heq⟩ | ⟨hne, hkept⟩
      · cases heq
        have hbefore : before.Live := by simp [LoadRun.Live, hphase]
        exact LoadRun.createSlot_awaits (hnodup _ _ _ hopen)
          (fun index hunsent => hruns.unsent _ _ _ index hopen hunsent)
          (hinv _ _ ⟨hopen, hbefore⟩) hcreate
      · apply hinv.others hkept hlive hne
          (hok.create created before index assignment rfl hopen hphase hget)
        intro query hquery
        rw [hstore, ResultStore.createSlot_get?, if_neg hquery]
  | dispatchFailed hopen hdispatched =>
      rcases update_cases hload with ⟨_, heq⟩ | ⟨_, hkept⟩
      · cases heq
        obtain ⟨answer, hanswer, _⟩ := LoadRun.dispatched_live hdispatched hlive
        cases hanswer
      · exact hinv loader run ⟨hkept, hlive⟩
  | @dispatched sender index assignment tensorLocations configJson _ before after servicer
      response thread reply hopen hphase hget hanswer hreply hdispatched =>
      rcases update_cases hload with ⟨rfl, heq⟩ | ⟨hne, hkept⟩
      · cases heq
        exact hinv.requested hopen hphase hanswer hreply hdispatched hlive
      · apply (hinv loader run ⟨hkept, hlive⟩).congr
        intro index'
        have hother : (⟨loader, index'⟩ : Ticket) ≠ ⟨sender, index⟩ := by
          intro heq
          cases heq
          exact hne rfl
        dsimp only
        exact startJob_other hother
  | @waitStarted waiting index before after outcome hbefore hwait =>
      rcases update_cases hload with ⟨rfl, heq⟩ | ⟨_, hkept⟩
      · cases heq
        have hphase : run.phase = before.phase := by
          obtain ⟨_, _, _, ⟨_, _, rfl⟩ | ⟨_, _, rfl⟩⟩ := LoadRun.startWait_some hwait <;> rfl
        have hliveBefore : before.Live := by
          unfold LoadRun.Live at hlive ⊢
          rwa [hphase] at hlive
        exact LoadRun.startWait_awaits (hinv _ _ ⟨hbefore, hliveBefore⟩) hliveBefore hwait
      · exact hinv loader run ⟨hkept, hlive⟩
  | @woken woken index before after outcome store hbefore hwake =>
      obtain ⟨assignment, event, hblocked, hget, _, hafter, hstore⟩ := LoadRun.wake_some hwake
      rcases update_cases hload with ⟨rfl, heq⟩ | ⟨hne, hkept⟩
      · cases heq
        have hliveBefore : before.Live := by
          rw [hafter] at hlive
          exact hlive
        exact LoadRun.wake_awaits (hnodup _ _ _ hbefore) (hinv _ _ ⟨hbefore, hliveBefore⟩)
          hliveBefore hwake
      · apply hinv.others hkept hlive hne
          (hok.wake woken before outcome index assignment rfl hbefore hget)
        intro query hquery
        rw [hstore, ResultStore.popSlot_get?, if_neg hquery]
  | collected hopen hcollect =>
      rcases update_cases hload with ⟨rfl, heq⟩ | ⟨_, hkept⟩
      · cases heq
        obtain ⟨_, _, hphase, _⟩ := LoadRun.collect_some hcollect
        have hbefore := hinv _ _ ⟨hopen, by simp [LoadRun.Live, hphase]⟩
        exact LoadRun.collect_awaits hbefore hcollect hlive
      · exact hinv loader run ⟨hkept, hlive⟩
  | shutDown hopen hshutdown =>
      rcases update_cases hload with ⟨rfl, heq⟩ | ⟨_, hkept⟩
      · cases heq
        obtain ⟨err, _, rfl⟩ := LoadRun.shutdown_some hshutdown
        exact hlive.elim
      · exact hinv loader run ⟨hkept, hlive⟩
  | concluded _ _ =>
      have hkept := update_kept hload (by simp)
      exact hinv loader run ⟨hkept, hlive⟩
  | @jobFinished ticket built address request servicer report hjob hfinish =>
      refine hinv.reported (by simp) ?_ ⟨hload, hlive⟩
      intro other found index assignment _ _ _ hslot
      apply hslot.of_jobs
      · intro delivered hdelivered
        have hkept := update_kept hdelivered (by simp)
        exact hkept
      · intro dropped hdropped
        have hkept := update_kept hdropped (by simp)
        exact hkept
  | @reportDelivered ticket report hjob =>
      refine hinv.reported (by simp) ?_ ⟨hload, hlive⟩
      intro other found index assignment hfound hopen hget hslot
      exact delivered_slotWaits hjobs hjob hok hfound hopen hget hslot
  | @reportDropped ticket report hjob =>
      refine hinv.reported (by simp) ?_ ⟨hload, hlive⟩
      intro other found index assignment hfound hopen hget hslot
      apply hslot.of_jobs
      · intro delivered hdelivered
        have hkept := update_kept hdelivered (by simp)
        exact hkept
      · intro dropped hdropped
        rcases update_cases hdropped with ⟨rfl, _⟩ | ⟨_, hkept⟩
        · obtain ⟨harrives, _⟩ := hok.report ⟨other, index⟩ false report found assignment rfl
            hjob hfound hopen hget
          cases harrives
        · exact hkept

theorem liveInv_of_reachable (hreach : setup.system.ReachableVia Undisturbed cluster) :
    LiveInv cluster := by
  apply hreach.invariant
  · rintro _ rfl loader run ⟨hload, _⟩
    cases hload
  · intro s label t hbefore hinv hok hstep
    have hreachable := hbefore.reachable
    exact hinv.step (runsInv_of_reachable hreachable) (jobsInv_of_reachable hreachable)
      (fun _ _ _ hload => run_nodup hreachable hload) hok (step_move hstep)

end ClusterSetup

end PiSSM.Orchestrator
