import PiSSM.Pipeline.StuckLoads

/-!
How the waits of `load` end. A call that fails leaves the waits behind that have already
started, and a later attempt finds them under its own keys. In the runs in which no
attempt reaches into a slot that another one is still waiting for, and in which the
reports that are waited for arrive, every wait comes to its end, those left behind
included, and each with a report that was made for its own attempt.
-/

namespace PiSSM.Orchestrator

open PiSSM.Lib PiSSM.Inference

/-- The report that is waited for under this key comes: its request has been sent, it is
not lost, and once it has been delivered the slot has a result. -/
structure ReportComes (store : ResultStore (MarkedReport Ticket)) (job : WorkerJob)
    (key : String) : Prop where
  sent : job ≠ .absent
  kept : ∀ report, job ≠ .dropped report
  stored : ∀ report, job = .delivered report →
    ∃ event stored, store.slots.get? key = some (event, some stored)

namespace LoadRun

variable {run next : LoadRun Ticket} {store store' : ResultStore (MarkedReport Ticket)}
  {jobs jobs' : Nat → WorkerJob}

/-- The reports of all open waits come; `jobs` are those of the call's own requests. -/
def Answerable (run : LoadRun Ticket) (store : ResultStore (MarkedReport Ticket))
    (jobs : Nat → WorkerJob) : Prop :=
  ∀ index assignment, run.opens index = true →
    run.plan.assignments[index]? = some assignment →
    ReportComes store (jobs index) (run.key assignment)

/-- The call goes on without opening a wait. -/
theorem Answerable.shrink (hok : run.Answerable store jobs)
    (hopens : next.plan = run.plan ∧ ∀ index, next.opens index = true → run.opens index = true)
    (hslots : ∀ index assignment, next.opens index = true →
      run.plan.assignments[index]? = some assignment →
      store'.slots.get? (run.key assignment) = store.slots.get? (run.key assignment)) :
    next.Answerable store' jobs := by
  intro index assignment hopen hget
  rw [hopens.1] at hget
  have hcomes := hok index assignment (hopens.2 index hopen) hget
  have hkey : next.key assignment = run.key assignment := by rw [key, key, hopens.1]
  rw [hkey]
  refine ⟨hcomes.sent, hcomes.kept, ?_⟩
  rw [hslots index assignment hopen hget]
  exact hcomes.stored

/-- A waiter thread takes no slot but its own. -/
theorem wake_answerable {index : Nat}
    (hnodup : (run.plan.assignments.map ShardAssignment.nodeId).Nodup)
    (hpreparing : run.Preparing → ∀ index, run.waiters index = .absent)
    (hok : run.Answerable store jobs) (hstep : run.wake index store = some (next, store')) :
    next.Answerable store' jobs := by
  apply hok.shrink (wake_opens hpreparing hstep)
  obtain ⟨woken, event, hblocked, hwoken, _, rfl, rfl⟩ := wake_some hstep
  have hnot := not_preparing hpreparing (by rw [hblocked]; simp)
  intro other assignment hopen hget
  have hother : other ≠ index := by
    rintro rfl
    have hnot' : ¬ (run.setWaiter other
        (.ended (.ok (store.popSlot (run.key woken)).2))).Preparing := hnot
    rw [opens_waiters hnot', setWaiter_self] at hopen
    simp at hopen
  have hkey : run.key assignment ≠ run.key woken := fun hkey =>
    hother (key_inj hnodup hget hwoken hkey)
  rw [ResultStore.popSlot_get?, if_neg hkey]

/-- The waits of a live call have just been submitted. -/
theorem Awaits.answerable (hok : run.Awaits store jobs) (hphase : run.phase = .waiting) :
    run.Answerable store jobs := by
  intro index assignment hopen hget
  have hlt := (List.getElem?_eq_some_iff.mp hget).1
  obtain ⟨event, pending, hstored, _, hdelivered, hdropped⟩ := hok.slot index assignment hopen hget
  refine ⟨hok.sent index hlt (by simp [Unsent, hphase]), hdropped, ?_⟩
  intro report hjob
  obtain ⟨stored, rfl⟩ := Option.isSome_iff_exists.mp (hdelivered report hjob)
  exact ⟨event, stored, hstored⟩

theorem createSlot_preparing (hstep : run.createSlot store = some (next, store')) :
    next.Preparing := by
  obtain ⟨index, _, _, _, rfl, _⟩ := createSlot_some hstep
  by_cases hmore : index + 1 < run.plan.assignments.length
  · simp [Preparing, hmore]
  · simp [Preparing, hmore]

/-- After the last response the waits are submitted, and none is after a failure. -/
theorem dispatched_answerable {response : Except PyException LoadShardResponse}
    (hpreparing : run.Preparing → ∀ index, run.waiters index = .absent)
    (hstep : run.dispatched response = some next) (hnot : ¬ next.Preparing)
    (hawaits : next.Live → next.Awaits store jobs) : next.Answerable store jobs := by
  obtain ⟨index, hphase, ⟨err, rfl⟩ | ⟨_, rfl⟩ | ⟨_, rfl⟩⟩ := dispatched_some hstep
  · intro other assignment hopens _
    have habsent := hpreparing (by simp [Preparing, hphase]) other
    simp [opens, habsent] at hopens
  · exact absurd trivial hnot
  · exact (hawaits trivial).answerable rfl

end LoadRun

namespace ClusterSetup

variable {setup : ClusterSetup} {cluster next : Cluster} {label : ClusterLabel}

/-- No loader thread reaches into a slot that another one is still waiting for, and the
reports that are waited for arrive, under the ids of their assignments' nodes. -/
structure WaitsServed (cluster : Cluster) (label : ClusterLabel) : Prop where
  apart : SlotsApart cluster label
  arrive : ∀ ticket arrives report run outcome assignment, label = .report ticket arrives →
    cluster.jobs ticket = .reporting report → cluster.loads ticket.loader = ⟨some run, outcome⟩ →
    run.opens ticket.index = true → run.plan.assignments[ticket.index]? = some assignment →
    arrives = true ∧ report.nodeId = assignment.nodeId

theorem reportsInv_of_served (hreach : setup.system.ReachableVia WaitsServed cluster) :
    ReportsInv cluster :=
  reportsInv_of_reachable (hreach.weaken fun _ _ _ hok => hok.apart)

/-- A waiter thread that can wake has an open wait. -/
theorem openWait_of_wake (hinv : ReportsInv cluster) {loader index : Nat} {run : LoadRun Ticket}
    {outcome : Option (Except PyException Unit)} {assignment : ShardAssignment}
    (hload : cluster.loads loader = ⟨some run, outcome⟩) {event : Nat}
    (hblocked : run.waiters index = .blocked event)
    (hget : run.plan.assignments[index]? = some assignment) :
    cluster.OpenWait loader (run.key assignment) := by
  have hpreparing := (hinv.waits loader run outcome hload).preparing
  have hnot := LoadRun.not_preparing hpreparing (by rw [hblocked]; simp)
  have hopens : run.opens index = true := (LoadRun.opens_waiters hnot).mpr (.inr ⟨event, hblocked⟩)
  exact ⟨run, outcome, index, assignment, hload, hopens, hget, rfl⟩

/-- The waits of the live calls are among those that are served. -/
theorem undisturbed_of_served (hreach : setup.system.ReachableVia WaitsServed cluster) :
    setup.system.ReachableVia Undisturbed cluster := by
  apply hreach.weaken_steps
  intro s label t hbefore hok hstep
  have hinv := reportsInv_of_served hbefore
  have hopen {loader : Nat} {key : String} (hlive : s.LiveWait loader key) :
      s.OpenWait loader key := by
    obtain ⟨run, index, assignment, hrun, hrest⟩ := hlive
    exact ⟨run, none, index, assignment, hrun.1, hrest⟩
  constructor
  · intro loader run index assignment hlabel hload hphase hget other hne hlive
    exact hok.apart.create loader run index assignment hlabel hload hphase hget other hne
      (hopen hlive)
  · rintro loader run outcome index assignment rfl hload hget other hne hlive
    obtain ⟨found, hfound, hwake⟩ := Option.bind_eq_some_iff.mp hstep
    rw [hload] at hfound
    obtain rfl := Option.some.inj hfound
    obtain ⟨⟨after, store⟩, hwoken, _⟩ := Option.map_eq_some_iff.mp hwake
    obtain ⟨_, event, hblocked, _⟩ := LoadRun.wake_some hwoken
    exact hne (hinv.apart other loader _ (hopen hlive)
      (openWait_of_wake hinv hload hblocked hget))
  · intro ticket arrives report run assignment hlabel hjob hlive hopens hget
    exact hok.arrive ticket arrives report run none assignment hlabel hjob hlive.1 hopens hget

/-- The reports of all waits that have been submitted come. -/
def AnswersInv (cluster : Cluster) : Prop :=
  ∀ loader run outcome, cluster.loads loader = ⟨some run, outcome⟩ → ¬ run.Preparing →
    run.Answerable cluster.shardStore fun index => cluster.jobs ⟨loader, index⟩

/-- The other calls when one slot has been changed that none of them waits for. -/
theorem AnswersInv.others (hinv : AnswersInv cluster) {loader other : Nat}
    {run : LoadRun Ticket} {outcome : Option (Except PyException Unit)} {key : String}
    {store : ResultStore (MarkedReport Ticket)}
    (hload : cluster.loads other = ⟨some run, outcome⟩) (hnot : ¬ run.Preparing)
    (hne : other ≠ loader) (hapart : ∀ other, other ≠ loader → ¬ cluster.OpenWait other key)
    (hstore : ∀ query, query ≠ key →
      store.slots.get? query = cluster.shardStore.slots.get? query) :
    run.Answerable store fun index => cluster.jobs ⟨other, index⟩ := by
  apply (hinv other run outcome hload hnot).shrink ⟨rfl, fun _ => id⟩
  intro index assignment hopens hget
  apply hstore
  intro hkey
  exact hapart other hne ⟨run, outcome, index, assignment, hload, hopens, hget, hkey⟩

/-- A report that has been made, or has been delivered or dropped. -/
theorem AnswersInv.reported (hinv : AnswersInv cluster) {ticket : Ticket} {job : WorkerJob}
    {store : ResultStore (MarkedReport Ticket)}
    (hslots : ∀ key event stored, cluster.shardStore.slots.get? key = some (event, some stored) →
      ∃ stored', store.slots.get? key = some (event, some stored'))
    (hown : ∀ run outcome assignment, cluster.loads ticket.loader = ⟨some run, outcome⟩ →
      run.opens ticket.index = true → run.plan.assignments[ticket.index]? = some assignment →
      ReportComes store job (run.key assignment)) {loader : Nat} {run : LoadRun Ticket}
    {outcome : Option (Except PyException Unit)}
    (hload : cluster.loads loader = ⟨some run, outcome⟩) (hnot : ¬ run.Preparing) :
    run.Answerable store fun index => Function.update cluster.jobs ticket job ⟨loader, index⟩ := by
  intro index assignment hopens hget
  dsimp only
  by_cases hticket : (⟨loader, index⟩ : Ticket) = ticket
  · subst hticket
    rw [Function.update_self]
    exact hown run outcome assignment hload hopens hget
  · rw [Function.update_of_ne hticket]
    have hcomes := hinv loader run outcome hload hnot index assignment hopens hget
    refine ⟨hcomes.sent, hcomes.kept, ?_⟩
    intro report hjob
    obtain ⟨event, stored, hstored⟩ := hcomes.stored report hjob
    obtain ⟨stored', hstored'⟩ := hslots _ event stored hstored
    exact ⟨event, stored', hstored'⟩

/-- The report of an open wait reaches its slot. -/
theorem delivered_comes (hreports : ReportsInv cluster) (hjobs : setup.JobsInv cluster)
    {ticket : Ticket} {report : ShardReadyRequest}
    (hok : WaitsServed cluster (.report ticket true))
    (hjob : cluster.jobs ticket = .reporting report)
    {run : LoadRun Ticket} {outcome : Option (Except PyException Unit)}
    {assignment : ShardAssignment} (hload : cluster.loads ticket.loader = ⟨some run, outcome⟩)
    (hopens : run.opens ticket.index = true)
    (hget : run.plan.assignments[ticket.index]? = some assignment) :
    ReportComes (reportShardReady cluster.shardStore ticket report) (.delivered report)
      (run.key assignment) := by
  refine ⟨by simp, by simp, ?_⟩
  intro _ _
  obtain ⟨found, _, _, hfound, _, hjobOk⟩ := hjobs ticket (by rw [hjob]; simp)
  rw [hload] at hfound
  cases hfound
  have hmodel := hjobOk.report report (by rw [hjob]; rfl)
  obtain ⟨_, hnode⟩ :=
    hok.arrive ticket true report run outcome assignment rfl hjob hload hopens hget
  obtain ⟨event, pending, hslot, _⟩ :=
    (hreports.waits _ run outcome hload).slot ticket.index assignment hopens hget
  have hkey : run.key assignment = shardReadyKey report.modelName report.nodeId := by
    rw [LoadRun.key, hmodel, hnode]
  refine ⟨event, ⟨ticket, readyResult report⟩, ?_⟩
  rw [reportShardReady, ResultStore.deliver_get?, if_pos hkey, ← hkey, hslot, Option.map_some]
  rfl

theorem AnswersInv.step (hinv : AnswersInv cluster) (hreports : ReportsInv cluster)
    (hjobs : setup.JobsInv cluster)
    (hnodup : ∀ loader run outcome, cluster.loads loader = ⟨some run, outcome⟩ →
      (run.plan.assignments.map ShardAssignment.nodeId).Nodup)
    (hlive : LiveInv next) (hok : WaitsServed cluster label)
    (hmove : Move setup cluster label next) : AnswersInv next := by
  intro loader run outcome hload hnot
  cases hmove with
  | request _ | unloadFailed _ | unloaded _ _ | finished _ _ | tokenizerFailed _
  | generationFailed _ _ _ | released _ _ _ _ | acquired _ _ _ _ | generated _ _ _ =>
      exact hinv loader run outcome hload hnot
  | @prepared _ thread _ _ =>
      rcases update_cases hload with ⟨_, heq⟩ | ⟨_, hkept⟩
      · cases heq
        intro index assignment hopens _
        exact absurd hopens (LoadRun.start_opens thread.plan index)
      · exact hinv loader run outcome hkept hnot
  | prepareFailed _ _ =>
      have hkept := update_kept hload (by simp)
      exact hinv loader run outcome hkept hnot
  | @slotCreated created before after store hopen hcreate =>
      rcases update_cases hload with ⟨_, heq⟩ | ⟨hne, hkept⟩
      · cases heq
        exact absurd (LoadRun.createSlot_preparing hcreate) hnot
      · obtain ⟨index, assignment, hphase, hget, _, rfl⟩ := LoadRun.createSlot_some hcreate
        apply hinv.others hkept hnot hne
          (hok.apart.create created before index assignment rfl hopen hphase hget)
        intro query hquery
        rw [ResultStore.createSlot_get?, if_neg hquery]
  | dispatchFailed hopen hdispatched =>
      rcases update_cases hload with ⟨rfl, heq⟩ | ⟨_, hkept⟩
      · cases heq
        apply LoadRun.dispatched_answerable (hreports.waits _ _ _ hopen).preparing hdispatched hnot
        exact fun hphase => hlive loader run ⟨hload, hphase⟩
      · exact hinv loader run outcome hkept hnot
  | @dispatched sender index _ _ _ _ before after _ _ thread _ hopen _ _ _ _ hdispatched =>
      rcases update_cases hload with ⟨rfl, heq⟩ | ⟨hne, hkept⟩
      · cases heq
        apply LoadRun.dispatched_answerable (hreports.waits _ _ _ hopen).preparing hdispatched hnot
        exact fun hphase => hlive loader run ⟨hload, hphase⟩
      · intro other assignment hopens hget
        have hother : (⟨loader, other⟩ : Ticket) ≠ ⟨sender, index⟩ := by
          intro heq
          cases heq
          exact hne rfl
        dsimp only
        rw [startJob_other hother]
        exact hinv loader run outcome hkept hnot other assignment hopens hget
  | waitStarted hbefore hwait =>
      rcases update_cases hload with ⟨rfl, heq⟩ | ⟨_, hkept⟩
      · cases heq
        have hpreparing := (hreports.waits _ _ _ hbefore).preparing
        obtain ⟨_, hqueued, _⟩ := LoadRun.startWait_some hwait
        have hsubmitted := LoadRun.not_preparing hpreparing (by rw [hqueued]; simp)
        exact (hinv _ _ _ hbefore hsubmitted).shrink (LoadRun.startWait_opens hpreparing hwait)
          fun _ _ _ _ => rfl
      · exact hinv loader run outcome hkept hnot
  | @woken woken index before after outcome' store hbefore hwake =>
      have hpreparing := (hreports.waits _ _ _ hbefore).preparing
      obtain ⟨assignment, event, hblocked, hget, _, _, hstore⟩ := LoadRun.wake_some hwake
      rcases update_cases hload with ⟨rfl, heq⟩ | ⟨hne, hkept⟩
      · cases heq
        have hsubmitted := LoadRun.not_preparing hpreparing (by rw [hblocked]; simp)
        exact LoadRun.wake_answerable (hnodup _ _ _ hbefore) hpreparing
          (hinv _ _ _ hbefore hsubmitted) hwake
      · apply hinv.others hkept hnot hne
        · intro other hother hopenWait
          exact hother (hreports.apart other woken _ hopenWait
            (openWait_of_wake hreports hbefore hblocked hget))
        · intro query hquery
          rw [hstore, ResultStore.popSlot_get?, if_neg hquery]
  | collected hopen hcollect =>
      rcases update_cases hload with ⟨rfl, heq⟩ | ⟨_, hkept⟩
      · cases heq
        obtain ⟨_, _, hphase, _⟩ := LoadRun.collect_some hcollect
        have hshrinks := LoadRun.collect_shrinks hcollect
        exact (hinv _ _ _ hopen (LoadRun.not_preparing_of_waiting hphase)).shrink
          ⟨hshrinks.plan, hshrinks.opens⟩ fun _ _ _ _ => rfl
      · exact hinv loader run outcome hkept hnot
  | shutDown hopen hshutdown =>
      rcases update_cases hload with ⟨rfl, heq⟩ | ⟨_, hkept⟩
      · cases heq
        obtain ⟨_, hphase, _⟩ := LoadRun.shutdown_some hshutdown
        have hshrinks := LoadRun.shutdown_shrinks hshutdown
        exact (hinv _ _ _ hopen (by simp [LoadRun.Preparing, hphase])).shrink
          ⟨hshrinks.plan, hshrinks.opens⟩ fun _ _ _ _ => rfl
      · exact hinv loader run outcome hkept hnot
  | concluded hopen _ =>
      rcases update_cases hload with ⟨rfl, heq⟩ | ⟨_, hkept⟩
      · cases heq
        exact hinv _ _ _ hopen hnot
      · exact hinv loader run outcome hkept hnot
  | @jobFinished ticket built address request servicer report hjob hfinish =>
      refine hinv.reported (fun key event stored hstored => ⟨stored, hstored⟩) ?_ hload hnot
      intro found outcome assignment hfound hopens hget
      exact ⟨by simp, by simp, by simp⟩
  | @reportDelivered ticket report hjob =>
      refine hinv.reported ?_ ?_ hload hnot
      · intro key event stored hstored
        rw [reportShardReady, ResultStore.deliver_get?]
        split
        · next hkey =>
            rw [← hkey, hstored]
            exact ⟨_, rfl⟩
        · exact ⟨stored, hstored⟩
      · intro found outcome assignment hfound hopens hget
        exact delivered_comes hreports hjobs hok hjob hfound hopens hget
  | @reportDropped ticket report hjob =>
      refine hinv.reported (fun key event stored hstored => ⟨stored, hstored⟩) ?_ hload hnot
      intro found outcome assignment hfound hopens hget
      obtain ⟨harrives, _⟩ :=
        hok.arrive ticket false report found outcome assignment rfl hjob hfound hopens hget
      cases harrives

theorem answersInv_of_served (hreach : setup.system.ReachableVia WaitsServed cluster) :
    AnswersInv cluster := by
  apply hreach.invariant
  · rintro _ rfl loader run outcome hload
    cases hload
  · intro s label t hbefore hinv hok hstep
    have hreachable := hbefore.reachable
    have hlive := liveInv_of_reachable (undisturbed_of_served (.step hbefore hok hstep))
    exact hinv.step (reportsInv_of_served hbefore) (jobsInv_of_reachable hreachable)
      (fun _ _ _ hload => run_nodup hreachable hload) hlive hok (step_move hstep)

end ClusterSetup

end PiSSM.Orchestrator

namespace PiSSM.Pipeline

open PiSSM.Lib PiSSM.Inference PiSSM.Orchestrator

/-- Every wait of a loader thread ends with a report that a worker made for one of the
thread's own `LoadShard` requests: a wait that has ended has got such a report, and once
nothing goes on any more all waits that were submitted and not cancelled have ended. -/
structure WaitsGetOwnReports (setup : ClusterSetup) (cluster : Cluster) : Prop where
  own : ∀ loader run outcome index result, cluster.loads loader = ⟨some run, outcome⟩ →
    run.waiters index = .ended result →
    ∃ stored report, result = .ok (some stored) ∧ stored.origin.loader = loader ∧
      cluster.jobs stored.origin = .delivered report ∧ stored.result = readyResult report
  ended : WorkersIdle cluster → LoadersBlocked setup cluster →
    ∀ loader run outcome index, cluster.loads loader = ⟨some run, outcome⟩ →
    index < run.plan.assignments.length → run.waiters index ≠ .absent →
    run.waiters index ≠ .cancelled → ∃ result, run.waiters index = .ended result

open ClusterSetup

variable {setup : ClusterSetup} {cluster : Cluster}

/-- A wait that has not ended goes on: its waiter thread can start, or it wakes because
its worker is done. -/
theorem openWait_enabled (hreports : ReportsInv cluster) (hanswers : AnswersInv cluster)
    (hidle : WorkersIdle cluster) {loader index : Nat} {run : LoadRun Ticket}
    {outcome : Option (Except PyException Unit)} {assignment : ShardAssignment}
    (hload : cluster.loads loader = ⟨some run, outcome⟩)
    (hget : run.plan.assignments[index]? = some assignment)
    (hwaits : run.waiters index = .queued ∨ ∃ event, run.waiters index = .blocked event) :
    ∃ label, IsLoaderStep label ∧ setup.step cluster label ≠ none := by
  have hrun : (cluster.loads loader).run = some run := by rw [hload]
  rcases hwaits with hqueued | ⟨event, hblocked⟩
  · exact ⟨.startWait loader index, trivial, startWait_enabled hrun hqueued hget⟩
  · have hok := hreports.waits loader run outcome hload
    have hnot := LoadRun.not_preparing hok.preparing (by rw [hblocked]; simp)
    have hopens : run.opens index = true :=
      (LoadRun.opens_waiters hnot).mpr (.inr ⟨event, hblocked⟩)
    have hcomes := hanswers loader run outcome hload hnot index assignment hopens hget
    obtain ⟨report, hjob⟩ := hidle.delivered hcomes.sent hcomes.kept
    obtain ⟨event', stored, hstored⟩ := hcomes.stored report hjob
    obtain ⟨found, pending, hslot, hevent, _⟩ := hok.slot index assignment hopens hget
    obtain ⟨rfl, rfl⟩ := Prod.mk.inj (Option.some.inj (hslot.symm.trans hstored))
    obtain rfl := hevent event hblocked
    exact ⟨.wake loader index, trivial, wake_enabled hrun hblocked hget hstored rfl⟩

/-- So it is in every run in which no loader thread and no report of its workers reaches
into a slot that another loader thread is still waiting for, and in which the reports that
are waited for arrive. -/
theorem waits_get_own_reports (setup : ClusterSetup) {cluster : Cluster}
    (hreach : setup.system.ReachableVia WaitsServed cluster) :
    WaitsGetOwnReports setup cluster := by
  have hreports := reportsInv_of_served hreach
  constructor
  · intro loader run outcome index result hload hended
    obtain ⟨stored, hresult, hloader, report, hjob, hreport⟩ :=
      (hreports.waits loader run outcome hload).ended index result hended
    exact ⟨stored, report, hresult, hloader, hjob, hreport⟩
  · intro hidle hblocked loader run outcome index hload hindex hsubmitted hnotCancelled
    have hgoes (hwaits : run.waiters index = .queued ∨
        ∃ event, run.waiters index = .blocked event) : False := by
      obtain ⟨label, hlabel, henabled⟩ := @openWait_enabled setup cluster hreports
        (answersInv_of_served hreach) hidle loader index run outcome _ hload
        (List.getElem?_eq_getElem hindex) hwaits
      exact henabled (hblocked label hlabel)
    cases hwaiter : run.waiters index with
    | absent => exact absurd hwaiter hsubmitted
    | cancelled => exact absurd hwaiter hnotCancelled
    | queued => exact (hgoes (.inl hwaiter)).elim
    | blocked event => exact (hgoes (.inr ⟨event, hwaiter⟩)).elim
    | ended result => exact ⟨result, rfl⟩

/-- The loader thread waits for nothing. -/
def noOpenWait (cluster : Cluster) (loader : Nat) : Bool :=
  (cluster.loads loader).run.all fun run =>
    (List.range run.plan.assignments.length).all fun index => !run.opens index

/-- Enough for a step of two loader threads to serve their waits: slots are created and
reports arrive while the other thread waits for nothing, and every report carries the id
of its assignment's node. -/
def servedNow (cluster : Cluster) : ClusterLabel → Bool
  | .request (.record _ loader) => loader < 2
  | .createSlot loader => (List.range 2).all fun other => other = loader || noOpenWait cluster other
  | .report ticket arrives =>
      arrives && ((List.range 2).all fun other =>
        other = ticket.loader || noOpenWait cluster other) &&
      match cluster.jobs ticket with
      | .reporting report =>
          (cluster.loads ticket.loader).run.all fun run =>
            (run.plan.assignments[ticket.index]?).all fun assignment =>
              report.nodeId = assignment.nodeId
      | _ => true
  | _ => true

theorem not_openWait {loader : Nat} {key : String} (hnone : noOpenWait cluster loader = true) :
    ¬ cluster.OpenWait loader key := by
  rintro ⟨run, outcome, index, assignment, hload, hopens, hget, _⟩
  have hlt := (List.getElem?_eq_some_iff.mp hget).1
  simp only [noOpenWait, hload, Option.all_some, List.all_eq_true, List.mem_range] at hnone
  have hclosed := hnone index hlt
  rw [hopens] at hclosed
  cases hclosed

theorem waitsServed_of_now
    (hreach : setup.system.ReachableVia (fun s label => servedNow s label = true) cluster) :
    setup.system.ReachableVia WaitsServed cluster := by
  apply hreach.weaken
  intro s label hbefore hnow
  have hruns := runsInv_of_reachable hbefore.reachable
  -- No other thread than the two has been started.
  have hapart {loader other : Nat} {key : String} (hne : other ≠ loader)
      (hall : ((List.range 2).all fun other => other = loader || noOpenWait s other) = true) :
      ¬ s.OpenWait other key := by
    intro hopen
    obtain ⟨thread, hthread⟩ := openWait_loader hruns hopen
    have hlt : other < 2 := @loaders_of_started setup s _ (· < 2)
      (fun _ _ _ hnow => of_decide_eq_true hnow) hbefore other thread hthread
    rw [List.all_eq_true] at hall
    have hother := hall other (List.mem_range.mpr hlt)
    rcases Bool.or_eq_true_iff.mp hother with heq | hnone
    · exact hne (of_decide_eq_true heq)
    · exact not_openWait hnone hopen
  refine ⟨⟨?_, ?_⟩, ?_⟩
  · rintro loader run index assignment rfl _ _ _ other hne
    exact hapart hne hnow
  · rintro ticket report rfl _ other hne
    simp only [servedNow, Bool.and_eq_true] at hnow
    exact hapart hne hnow.1.2
  · rintro ticket arrives report run outcome assignment rfl hjob hload _ hget
    simp only [servedNow, Bool.and_eq_true, hjob, hload, hget, Option.all_some,
      decide_eq_true_eq] at hnow
    exact ⟨hnow.1.1, hnow.2⟩

/-- The first attempt fails at its second worker and leaves a wait for the first one
behind. When that one is done the wait ends, and the second attempt creates its slots. -/
def twoAttempts : List ClusterLabel :=
  .request (.register fiveLayerManifest) :: requestLoad 0 0 .load ++
    [.prepare 0 (.ok ()), .createSlot 0, .createSlot 0, .dispatch 0 (.handled [] "" none),
      .dispatch 0 (.handled [] "" none), .startWait 0 0, .startWait 0 1,
      .finishJob ⟨0, 1⟩ (.error "out of memory"), .report ⟨0, 1⟩ true, .wake 0 1, .collect 0 1,
      .shutdown 0, .conclude 0 (.ok ()), .finishLoad 0] ++
    requestLoad 1 1 .load ++
    [.prepare 1 (.ok ()), .finishJob ⟨0, 0⟩ (.ok (⟨⟩, 100)), .report ⟨0, 0⟩ true, .wake 0 0,
      .createSlot 1, .createSlot 1, .dispatch 1 (.handled [] "" none),
      .dispatch 1 (.handled [] "" none), .startWait 1 0, .startWait 1 1, .report ⟨1, 0⟩ true,
      .wake 1 0, .collect 1 0, .finishJob ⟨1, 1⟩ (.ok (⟨⟩, 100)), .report ⟨1, 1⟩ true, .wake 1 1,
      .collect 1 1, .conclude 1 (.ok ()), .finishLoad 1]

/-- The stored report that a wait of a loader thread has got. -/
def waitedFor (cluster : Cluster) (loader index : Nat) : Option (MarkedReport Ticket) :=
  match (cluster.loads loader).run with
  | none => none
  | some run =>
      match run.waiters index with
      | .ended (.ok stored) => stored
      | _ => none

/-- Both attempts have got their reports from both workers. -/
def bothWaited (cluster : Cluster) : Bool :=
  [0, 1].all fun loader => [0, 1].all fun index =>
    (waitedFor cluster loader index).any fun stored => stored.origin = ⟨loader, index⟩

theorem waits_get_own_reports_attempts :
    ∃ cluster, bothWaited cluster = true ∧ WaitsGetOwnReports twoNodeCluster cluster := by
  have hrun : ∃ cluster, twoNodeCluster.system.ReachableVia
      (fun s label => servedNow s label = true) cluster ∧ bothWaited cluster = true := by
    apply TransitionSystem.reachable_of_execGuarded twoAttempts (.init rfl) fun _ _ hnow => hnow
    decide +kernel
  obtain ⟨cluster, hreach, hwaited⟩ := hrun
  exact ⟨cluster, hwaited, waits_get_own_reports twoNodeCluster (waitsServed_of_now hreach)⟩

/-- The first attempt to load the model fails because the reply of the worker is
lost; the worker goes on loading. The second attempt creates its slot before the
first one's report arrives. -/
def lateReportRun : List ClusterLabel :=
  .request (.register fiveLayerManifest) :: requestLoad 0 0 .load ++
    [.prepare 0 (.ok ()), .createSlot 0,
      .dispatch 0 (.handled [] "" (some (.rpcError "UNAVAILABLE" "" "UNAVAILABLE"))),
      .conclude 0 (.ok ()), .finishLoad 0] ++
    requestLoad 1 1 .load ++
    [.prepare 1 (.ok ()), .createSlot 1,
      .finishJob ⟨0, 0⟩ (.ok (⟨⟩, 100)), .report ⟨0, 0⟩ true,
      .dispatch 1 (.handled [] "" none), .startWait 1 0, .wake 1 0]

/-- The wait of the second attempt ends with the report of the first one. -/
theorem waits_get_own_reports_counterexample :
    ¬ ∀ cluster, oneNodeCluster.system.Reachable cluster →
      WaitsGetOwnReports oneNodeCluster cluster := by
  intro hclaim
  have hlate : ∃ cluster, oneNodeCluster.system.Reachable cluster ∧
      ((waitedFor cluster 1 0).any fun stored => stored.origin.loader = 0) = true := by
    apply TransitionSystem.reachable_of_exec lateReportRun rfl (fun _ _ _ => trivial)
    decide
  obtain ⟨cluster, hreach, htest⟩ := hlate
  obtain ⟨stored, hwaited, horigin⟩ := (Option.any_eq_true _ _).mp htest
  unfold waitedFor at hwaited
  split at hwaited
  · cases hwaited
  · next run hrun =>
      split at hwaited
      · next result hended =>
          subst hwaited
          have hload : cluster.loads 1 = ⟨some run, (cluster.loads 1).outcome⟩ := by
            rw [← hrun]
          obtain ⟨found, _, hfound, hloader, _⟩ :=
            (hclaim cluster hreach).own 1 run _ 0 _ hload hended
          cases hfound
          rw [of_decide_eq_true horigin] at hloader
          exact absurd hloader (by decide)
      · cases hwaited

end PiSSM.Pipeline
