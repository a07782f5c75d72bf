import PiSSM.Pipeline.ClusterRuns

/-!
The tables of the workers along the runs of a cluster. A model is never both in a
worker's table and being loaded by it, and whatever is being loaded is the shard
of the assignment that its `LoadShard` request was sent for. The loads that have
succeeded and the shards they have left are recorded in a history.
-/

namespace PiSSM.Orchestrator

open PiSSM.Lib PiSSM.Inference PiSSM.Pipeline

/-- What a step changes in the tables of shards. -/
inductive TableEvent where
  | built (ticket : Ticket) (address modelName : String)
  | unloaded (address modelName : String)

def tableEvent (cluster : Cluster) : ClusterLabel → Option TableEvent
  | .finishJob ticket (.ok _) =>
      match cluster.jobs ticket with
      | .loading address request => some (.built ticket address request.modelName)
      | _ => none
  | .unload id true =>
      match cluster.http.nextUnload id with
      | some (call, _) => some (.unloaded call.address call.modelName)
      | none => none
  | _ => none

/-- A shard is built where a background load ends. -/
theorem tableEvent_built {cluster : Cluster} {label : ClusterLabel} {ticket : Ticket}
    {address modelName : String}
    (hevent : tableEvent cluster label = some (.built ticket address modelName)) :
    ∃ built, label = .finishJob ticket built := by
  unfold tableEvent at hevent
  split at hevent
  · next finished _ =>
      split at hevent
      · cases hevent
        exact ⟨_, rfl⟩
      · cases hevent
  · split at hevent <;> cases hevent
  · cases hevent

/-- Which `LoadShard` requests have been carried out, and which of them has made
the shard that a worker holds of a model. -/
structure ShardHistory where
  built : Ticket → Bool
  heldFrom : String → String → Option Ticket

def ShardHistory.empty : ShardHistory where
  built _ := false
  heldFrom _ _ := none

/-- The shard that a worker holds of a model now comes from here. -/
def ShardHistory.setHeld (history : ShardHistory) (address modelName : String)
    (origin : Option Ticket) : ShardHistory :=
  { history with
    heldFrom := Function.update history.heldFrom address
      (Function.update (history.heldFrom address) modelName origin) }

def ShardHistory.recordEvent (history : ShardHistory) : Option TableEvent → ShardHistory
  | none => history
  | some (.built ticket address modelName) =>
      { history.setHeld address modelName (some ticket) with
        built := Function.update history.built ticket true }
  | some (.unloaded address modelName) => history.setHeld address modelName none

theorem ShardHistory.setHeld_apply (history : ShardHistory) (address modelName : String)
    (origin : Option Ticket) (worker name : String) :
    (history.setHeld address modelName origin).heldFrom worker name =
      if worker = address ∧ name = modelName then origin
      else history.heldFrom worker name := by
  unfold setHeld
  by_cases haddress : worker = address
  · subst haddress
    by_cases hname : name = modelName
    · subst hname
      simp
    · simp [hname]
  · simp [haddress]

namespace ClusterSetup

variable {setup : ClusterSetup} {cluster next : Cluster} {label : ClusterLabel}

/-- A step of a generation changes nothing of the workers but caches. -/
theorem runShardStep_sameWorkers {session : InferenceSession} {fuel : Nat}
    {env : StepEnv (List TensorTag)} {input : TensorTag} {resetCache : Bool}
    {backend backend' : Backend TracedShard TensorTag (List TensorTag)}
    {result : Except PyException (Option (PipelineResult TensorTag))}
    (hstep : (Cluster.runner setup session).runShardStep fuel env input resetCache backend =
      some (backend', result)) : SameWorkers backend.network backend'.network := by
  unfold PipelineRunner.runShardStep PipelineRunner.finishShardStep at hstep
  split at hstep
  · obtain ⟨rfl, _⟩ := Prod.mk.inj (Option.some.inj hstep)
    exact SameWorkers.refl _
  · next first _ =>
      obtain ⟨outcome, hrun, hresult⟩ := Option.map_eq_some_iff.mp hstep
      have hmode := (Cluster.runner setup session).runRequest_pipelineMode env.requestId input
        resetCache
      have hsame : SameWorkers backend.network outcome.network :=
        runShard_sameWorkers hmode hrun
      dsimp only at hresult
      split at hresult
      · obtain ⟨rfl, _⟩ := Prod.mk.inj hresult
        exact hsame
      · obtain ⟨rfl, _⟩ := Prod.mk.inj hresult
        exact hsame

/-- What a move does to the tables of the workers and to the loads they have
under way. -/
inductive TableMove (cluster next : Cluster) (label : ClusterLabel) : Prop where
  | kept (hevent : tableEvent cluster label = none)
      (hsame : SameWorkers cluster.network next.network)
      (hjobs : ∀ ticket address request, next.jobs ticket = .loading address request →
        cluster.jobs ticket = .loading address request)
  | unloaded {address modelName : String}
      (hevent : tableEvent cluster label = some (.unloaded address modelName))
      (hnetwork : next.network = Function.update cluster.network address
        ((cluster.network address).unloadShard modelName).1)
      (hjobs : next.jobs = cluster.jobs)
  | accepted {ticket : Ticket} {address : String} {request : LoadShardRequest}
      (hevent : tableEvent cluster label = none)
      (hget : (cluster.network address).models.get? request.modelName = none)
      (hloading : request.modelName ∉ (cluster.network address).loading)
      (hnetwork : next.network = Function.update cluster.network address
        { cluster.network address with
          loading := insert request.modelName (cluster.network address).loading })
      (hjobs : next.jobs = Function.update cluster.jobs ticket (.loading address request))
  | built {ticket : Ticket} {address : String} {request : LoadShardRequest}
      {shard : TracedShard} {memoryMb : Nat} {report : ShardReadyRequest}
      (hevent : tableEvent cluster label = some (.built ticket address request.modelName))
      (hjob : cluster.jobs ticket = .loading address request)
      (hnetwork : next.network = Function.update cluster.network address
        { cluster.network address with
          models := (cluster.network address).models.set request.modelName
            (InferenceServicer.shardHandle request shard memoryMb)
          loading := (cluster.network address).loading.erase request.modelName })
      (hjobs : next.jobs = Function.update cluster.jobs ticket (.reporting report))
  | failed {ticket : Ticket} {address : String} {request : LoadShardRequest}
      {report : ShardReadyRequest} (hevent : tableEvent cluster label = none)
      (hjob : cluster.jobs ticket = .loading address request)
      (hnetwork : next.network = Function.update cluster.network address
        { cluster.network address with
          loading := (cluster.network address).loading.erase request.modelName })
      (hjobs : next.jobs = Function.update cluster.jobs ticket (.reporting report))

/-- A job that stops being a load. -/
theorem loading_of_update {jobs : Ticket → WorkerJob} {ticket query : Ticket}
    {job : WorkerJob} {address : String} {request : LoadShardRequest}
    (hjob : ∀ address request, job ≠ .loading address request)
    (hget : Function.update jobs ticket job query = .loading address request) :
    query ≠ ticket ∧ jobs query = .loading address request := by
  rcases update_cases hget with ⟨_, heq⟩ | hkept
  · exact absurd heq.symm (hjob address request)
  · exact hkept

theorem Move.table (hmove : Move setup cluster label next) : TableMove cluster next label := by
  cases hmove with
  | request _ | unloadFailed _ | finished _ _ | tokenizerFailed _ | prepared _ _
  | prepareFailed _ _ | slotCreated _ _ | dispatchFailed _ _ | waitStarted _ _ | woken _ _
  | collected _ _ | shutDown _ _ | concluded _ _ | acquired _ _ _ _ =>
      exact .kept rfl (SameWorkers.refl _) fun _ _ _ => id
  | released hby _ _ _ =>
      have hevent : tableEvent cluster label = none := by
        rcases hby with ⟨_, _, rfl⟩ | ⟨_, rfl⟩ <;> rfl
      exact .kept hevent (SameWorkers.refl _) fun _ _ _ => id
  | generated _ hstep _ => exact .kept rfl (runShardStep_sameWorkers hstep) fun _ _ _ => id
  | generationFailed _ hstep _ =>
      exact .kept rfl (runShardStep_sameWorkers hstep) fun _ _ _ => id
  | reportDelivered _ | reportDropped _ =>
      refine .kept rfl (SameWorkers.refl _) ?_
      intro ticket address request hloading
      exact (loading_of_update (fun _ _ heq => by cases heq) hloading).2
  | unloaded hnext _ =>
      refine .unloaded ?_ rfl rfl
      simp only [tableEvent, hnext]
  | @dispatched loader index assignment tensorLocations configJson _ run after servicer
      response thread _ hopen hphase hget hload _ hdispatched =>
      cases InferenceServicer.loadShard_answer hload with
      | held _ =>
          refine .kept rfl ?_ ?_
          · dsimp only
            rw [Function.update_eq_self]
            exact SameWorkers.refl _
          · intro ticket address request hloading
            exact (loading_of_update (fun _ _ heq => by cases heq) hloading).2
      | rejected _ =>
          refine .kept rfl ?_ fun _ _ _ => id
          dsimp only
          rw [Function.update_eq_self]
          exact SameWorkers.refl _
      | accepted hnone hloading => exact .accepted rfl hnone hloading rfl rfl
  | @jobFinished finished built address request servicer report hjob hfinish =>
      cases built with
      | ok shard =>
          obtain ⟨shard, memoryMb⟩ := shard
          obtain ⟨rfl, rfl⟩ := Prod.mk.inj hfinish
          refine .built ?_ hjob rfl rfl
          simp only [tableEvent, hjob]
      | error message =>
          obtain ⟨rfl, rfl⟩ := Prod.mk.inj hfinish
          exact .failed rfl hjob rfl rfl

/-- No model is both held and being loaded by a worker, and a load that is under
way is the only one of its model there. -/
structure WorkersInv (cluster : Cluster) : Prop where
  exclusive : ∀ address, ∀ name ∈ (cluster.network address).loading,
    (cluster.network address).models.get? name = none
  marked : ∀ ticket address request, cluster.jobs ticket = .loading address request →
    request.modelName ∈ (cluster.network address).loading
  sole : ∀ ticket ticket' address request request',
    cluster.jobs ticket = .loading address request →
    cluster.jobs ticket' = .loading address request' →
    request.modelName = request'.modelName → ticket = ticket'

/-- The invariant after a load of one worker has ended. -/
theorem WorkersInv.ended (hinv : WorkersInv cluster) {ticket : Ticket} {address : String}
    {request : LoadShardRequest} {report : ShardReadyRequest}
    {servicer : InferenceServicer TracedShard (List TensorTag)}
    (hjob : cluster.jobs ticket = .loading address request)
    (hloading : servicer.loading =
      (cluster.network address).loading.erase request.modelName)
    (hmodels : ∀ name, name ≠ request.modelName →
      servicer.models.get? name = (cluster.network address).models.get? name)
    (hnetwork : next.network = Function.update cluster.network address servicer)
    (hjobs : next.jobs = Function.update cluster.jobs ticket (.reporting report)) :
    WorkersInv next := by
  have hold {query : Ticket} {worker : String} {found : LoadShardRequest}
      (hget : next.jobs query = .loading worker found) :
      query ≠ ticket ∧ cluster.jobs query = .loading worker found := by
    rw [hjobs] at hget
    exact loading_of_update (fun _ _ heq => by cases heq) hget
  constructor
  · intro worker name hname
    rw [hnetwork] at hname ⊢
    by_cases hworker : worker = address
    · subst hworker
      rw [Function.update_self, hloading] at hname
      rw [Function.update_self]
      obtain ⟨hne, hmem⟩ := Finset.mem_erase.mp hname
      rw [hmodels name hne]
      exact hinv.exclusive worker name hmem
    · rw [Function.update_of_ne hworker] at hname ⊢
      exact hinv.exclusive worker name hname
  · intro query worker found hget
    obtain ⟨hne, hkept⟩ := hold hget
    rw [hnetwork]
    have hmem := hinv.marked query worker found hkept
    by_cases hworker : worker = address
    · subst hworker
      rw [Function.update_self, hloading]
      refine Finset.mem_erase.mpr ⟨fun heq => ?_, hmem⟩
      exact hne (hinv.sole query ticket worker found request hkept hjob heq)
    · rw [Function.update_of_ne hworker]
      exact hmem
  · intro query query' worker found found' hget hget' hname
    exact hinv.sole query query' worker found found' (hold hget).2 (hold hget').2 hname

/-- The invariant after an unload, which takes no name away from the loads. -/
theorem WorkersInv.unloaded (hinv : WorkersInv cluster) {address modelName : String}
    (hnetwork : next.network = Function.update cluster.network address
      ((cluster.network address).unloadShard modelName).1)
    (hjobs : next.jobs = cluster.jobs) : WorkersInv next := by
  have hloading (worker : String) :
      (next.network worker).loading = (cluster.network worker).loading := by
    rw [hnetwork]
    by_cases hworker : worker = address
    · subst hworker
      rw [Function.update_self, InferenceServicer.unloadShard_loading]
    · rw [Function.update_of_ne hworker]
  constructor
  · intro worker name hname
    rw [hloading] at hname
    have hnone := hinv.exclusive worker name hname
    rw [hnetwork]
    by_cases hworker : worker = address
    · subst hworker
      rw [Function.update_self, InferenceServicer.unloadShard_get?, hnone, ite_self]
    · rw [Function.update_of_ne hworker]
      exact hnone
  · intro ticket worker request hget
    rw [hjobs] at hget
    rw [hloading]
    exact hinv.marked ticket worker request hget
  · intro ticket ticket' worker request request' hget hget' hname
    rw [hjobs] at hget hget'
    exact hinv.sole ticket ticket' worker request request' hget hget' hname

/-- The invariant after a worker has accepted a load of a model it neither holds nor
loads. -/
theorem WorkersInv.accepted (hinv : WorkersInv cluster) {ticket : Ticket} {address : String}
    {request : LoadShardRequest}
    (hget : (cluster.network address).models.get? request.modelName = none)
    (hloading : request.modelName ∉ (cluster.network address).loading)
    (hnetwork : next.network = Function.update cluster.network address
      { cluster.network address with
        loading := insert request.modelName (cluster.network address).loading })
    (hjobs : next.jobs = Function.update cluster.jobs ticket (.loading address request)) :
    WorkersInv next := by
  have hold {query : Ticket} {worker : String} {found : LoadShardRequest}
      (hfound : next.jobs query = .loading worker found) :
      (query = ticket ∧ worker = address ∧ found = request) ∨
        cluster.jobs query = .loading worker found := by
    rw [hjobs] at hfound
    rcases update_cases hfound with ⟨hquery, heq⟩ | ⟨_, hkept⟩
    · cases heq
      exact .inl ⟨hquery, rfl, rfl⟩
    · exact .inr hkept
  constructor
  · intro worker name hname
    rw [hnetwork] at hname ⊢
    by_cases hworker : worker = address
    · subst hworker
      rw [Function.update_self] at hname ⊢
      rcases Finset.mem_insert.mp hname with rfl | hmem
      · exact hget
      · exact hinv.exclusive worker name hmem
    · rw [Function.update_of_ne hworker] at hname ⊢
      exact hinv.exclusive worker name hname
  · intro query worker found hfound
    rw [hnetwork]
    rcases hold hfound with ⟨_, rfl, rfl⟩ | hkept
    · rw [Function.update_self]
      exact Finset.mem_insert_self _ _
    · have hmem := hinv.marked query worker found hkept
      by_cases hworker : worker = address
      · subst hworker
        rw [Function.update_self]
        exact Finset.mem_insert_of_mem hmem
      · rw [Function.update_of_ne hworker]
        exact hmem
  · have hfresh {query : Ticket} {found : LoadShardRequest}
        (hkept : cluster.jobs query = .loading address found) :
        found.modelName ≠ request.modelName := by
      intro heq
      exact hloading (heq ▸ hinv.marked query address found hkept)
    intro query query' worker found found' hfound hfound' hname
    rcases hold hfound with ⟨rfl, rfl, rfl⟩ | hkept
    · rcases hold hfound' with ⟨rfl, _, _⟩ | hkept'
      · rfl
      · exact absurd hname.symm (hfresh hkept')
    · rcases hold hfound' with ⟨rfl, rfl, rfl⟩ | hkept'
      · exact absurd hname (hfresh hkept)
      · exact hinv.sole query query' worker found found' hkept hkept' hname

theorem WorkersInv.step (hinv : WorkersInv cluster) (htable : TableMove cluster next label) :
    WorkersInv next := by
  cases htable with
  | kept _ hsame hjobs =>
      constructor
      · intro address name hname
        rw [hsame.loading address] at hname
        exact (hsame.shape name).get?_none (hinv.exclusive address name hname)
      · intro ticket address request hget
        rw [hsame.loading address]
        exact hinv.marked ticket address request (hjobs _ _ _ hget)
      · intro ticket ticket' address request request' hget hget' hname
        exact hinv.sole ticket ticket' address request request' (hjobs _ _ _ hget)
          (hjobs _ _ _ hget') hname
  | unloaded _ hnetwork hjobs => exact hinv.unloaded hnetwork hjobs
  | accepted _ hget hloading hnetwork hjobs => exact hinv.accepted hget hloading hnetwork hjobs
  | built _ hjob hnetwork hjobs =>
      refine hinv.ended hjob ?_ ?_ hnetwork hjobs
      · rfl
      · intro name hne
        exact Dict.get?_set_of_ne _ _ hne
  | failed _ hjob hnetwork hjobs =>
      refine hinv.ended hjob ?_ ?_ hnetwork hjobs
      · rfl
      · intro name _
        rfl

theorem workersInv_of_reachable (hreach : setup.system.Reachable cluster) :
    WorkersInv cluster := by
  apply hreach.invariant
  · rintro _ rfl
    constructor
    · intro address name hname
      exact absurd hname (Finset.notMem_empty name)
    · intro ticket address request hget
      cases hget
    · intro ticket ticket' address request request' hget
      cases hget
  · intro s l t _ hinv _ hstep
    exact hinv.step (step_move hstep).table

/-- A job goes back to the `LoadShard` request of an assignment of the plan: what
it loads is that shard, and what it reports is about that model. -/
structure JobOk (setup : ClusterSetup) (job : WorkerJob) (plan : DispatchPlan)
    (assignment : ShardAssignment) : Prop where
  loading : ∀ address request, job = .loading address request →
    address = assignment.address ∧ ∃ tensorLocations configJson,
      request = setup.loadRequest plan assignment tensorLocations configJson
  report : ∀ report, job.report? = some report → report.modelName = plan.modelName

def JobsInv (setup : ClusterSetup) (cluster : Cluster) : Prop :=
  ∀ ticket, cluster.jobs ticket ≠ .absent → ∃ run outcome assignment,
    cluster.loads ticket.loader = ⟨some run, outcome⟩ ∧
    run.plan.assignments[ticket.index]? = some assignment ∧
    setup.JobOk (cluster.jobs ticket) run.plan assignment

theorem finishLoad_modelName {servicer servicer' : InferenceServicer TracedShard (List TensorTag)}
    {request : LoadShardRequest} {built : Except String (TracedShard × Nat)}
    {report : ShardReadyRequest}
    (hfinish : servicer.finishLoad request built = (servicer', report)) :
    report.modelName = request.modelName := by
  unfold InferenceServicer.finishLoad at hfinish
  split at hfinish <;> (cases hfinish; rfl)

/-- A job that a worker starts for a request. -/
theorem jobOk_start {plan : DispatchPlan} {assignment : ShardAssignment}
    {tensorLocations : List TensorLocationSpec} {configJson : String}
    {servicer servicer' : InferenceServicer TracedShard (List TensorTag)}
    {response : LoadShardResponse} {thread : LoadThread}
    (hload : servicer.loadShard
      (setup.loadRequest plan assignment tensorLocations configJson) =
        (servicer', response, some thread)) :
    setup.JobOk (WorkerJob.start assignment.address thread) plan assignment := by
  cases InferenceServicer.loadShard_answer hload with
  | held _ =>
      constructor
      · intro address request heq
        cases heq
      · intro report heq
        obtain rfl := Option.some.inj heq
        rfl
  | accepted _ _ =>
      constructor
      · intro address request heq
        cases heq
        exact ⟨rfl, tensorLocations, configJson, rfl⟩
      · intro report heq
        cases heq

theorem JobsInv.step (hinv : setup.JobsInv cluster) (hmove : Move setup cluster label next) :
    setup.JobsInv next := by
  have hkeep {loader : Nat} {run : LoadRun Ticket}
      {outcome : Option (Except PyException Unit)}
      (hload : cluster.loads loader = ⟨some run, outcome⟩) :
      ∃ run' outcome', next.loads loader = ⟨some run', outcome'⟩ ∧ run'.plan = run.plan := by
    cases hmove.load_cases loader with
    | kept hkept => exact ⟨run, outcome, hkept.trans hload, rfl⟩
    | begun _ hbefore _ | abandoned hbefore _ =>
        rw [hload] at hbefore
        cases hbefore
    | went hbefore hnext hfollows =>
        obtain ⟨rfl, _⟩ : run = _ ∧ outcome = _ := by simpa [hload] using hbefore
        exact ⟨_, _, hnext, hfollows.plan⟩
  have hcarry {ticket : Ticket} (hjob : cluster.jobs ticket ≠ .absent)
      (hok : ∀ plan assignment, setup.JobOk (cluster.jobs ticket) plan assignment →
        setup.JobOk (next.jobs ticket) plan assignment) :
      ∃ run outcome assignment, next.loads ticket.loader = ⟨some run, outcome⟩ ∧
        run.plan.assignments[ticket.index]? = some assignment ∧
        setup.JobOk (next.jobs ticket) run.plan assignment := by
    obtain ⟨run, outcome, assignment, hload, hget, hbefore⟩ := hinv ticket hjob
    obtain ⟨run', outcome', hload', hplan⟩ := hkeep hload
    rw [← hplan] at hget hbefore
    exact ⟨run', outcome', assignment, hload', hget, hok _ _ hbefore⟩
  intro ticket hjob
  cases hmove.job_cases ticket with
  | kept hkept =>
      rw [hkept] at hjob
      exact hcarry hjob fun _ _ hok => hkept ▸ hok
  | @accepted run after assignment tensorLocations configJson servicer response thread hopen
      _ hget hload hafter _ hnext =>
      obtain ⟨run', outcome', hload', hplan⟩ := hkeep hopen
      rw [← hplan] at hget hload
      refine ⟨run', outcome', assignment, hload', hget, ?_⟩
      rw [hnext]
      exact jobOk_start hload
  | @built built address request servicer report hloading hfinish hnext =>
      apply hcarry (by rw [hloading]; simp)
      intro plan assignment hok
      rw [hloading] at hok
      rw [hnext]
      obtain ⟨_, _, _, rfl⟩ := hok.loading address request rfl
      constructor
      · intro _ _ heq
        cases heq
      · intro found heq
        obtain rfl := Option.some.inj heq
        exact finishLoad_modelName hfinish
  | @reported report hreporting hnext =>
      apply hcarry (by rw [hreporting]; simp)
      intro plan assignment hok
      rw [hreporting] at hok
      have hreport := hok.report report rfl
      rcases hnext with hnext | hnext
      · rw [hnext]
        constructor
        · intro _ _ heq
          cases heq
        · intro found heq
          obtain rfl := Option.some.inj heq
          exact hreport
      · rw [hnext]
        constructor
        · intro _ _ heq
          cases heq
        · intro found heq
          obtain rfl := Option.some.inj heq
          exact hreport

theorem jobsInv_of_reachable (hreach : setup.system.Reachable cluster) :
    setup.JobsInv cluster := by
  apply hreach.invariant
  · rintro _ rfl ticket hjob
    exact absurd rfl hjob
  · intro s l t _ hinv _ hstep
    exact hinv.step (step_move hstep)

/-- When a single loader thread has been started, all jobs are those of its plan. -/
theorem job_of_single {loader : Nat}
    (hreach : setup.system.ReachableVia (SingleLoader loader) cluster) {ticket : Ticket}
    (hjob : cluster.jobs ticket ≠ .absent) :
    ticket.loader = loader ∧ ∃ run outcome, cluster.loads loader = ⟨some run, outcome⟩ ∧
      ticket.index < run.plan.assignments.length := by
  obtain ⟨thread, hthread⟩ := job_loader (runsInv_of_reachable hreach.reachable) hjob
  obtain ⟨run, outcome, assignment, hload, hget, _⟩ :=
    jobsInv_of_reachable hreach.reachable ticket hjob
  have hsole := singleLoader_loaders hreach hthread
  exact ⟨hsole, run, outcome, hsole ▸ hload, (List.getElem?_eq_some_iff.mp hget).1⟩

/-- The runs of the cluster with the history of its workers' tables. -/
def recordedSystem (setup : ClusterSetup) :
    TransitionSystem (Cluster × ShardHistory) ClusterLabel :=
  setup.system.withHistory .empty fun cluster label history =>
    history.recordEvent (tableEvent cluster label)

/-- The history takes no run of the cluster away and adds none. -/
theorem reachable_iff_recorded :
    setup.system.Reachable cluster ↔
      ∃ history, setup.recordedSystem.Reachable (cluster, history) := by
  constructor
  · exact fun hreach => hreach.exists_history
  · rintro ⟨history, hreach⟩
    exact hreach.forget fun _ _ _ => trivial

/-- The history tells where exactly the shards come from that the workers hold,
and that these loads have been carried out. -/
structure HistoryInv (s : Cluster × ShardHistory) : Prop where
  held : ∀ address name, s.2.heldFrom address name = none ↔
    (s.1.network address).models.get? name = none
  built : ∀ address name ticket, s.2.heldFrom address name = some ticket →
    s.2.built ticket = true
  job : ∀ ticket, s.2.built ticket = true → ∃ report, (s.1.jobs ticket).report? = some report

variable {s t : Cluster × ShardHistory}

/-- A job that has made its report goes on having made it. -/
theorem JobMove.report_kept (hruns : RunsInv cluster) {ticket : Ticket}
    (hjob : JobMove setup cluster next ticket) {report : ShardReadyRequest}
    (hreport : (cluster.jobs ticket).report? = some report) :
    (next.jobs ticket).report? = some report := by
  cases hjob with
  | kept hkept => rw [hkept, hreport]
  | accepted hopen hphase _ _ _ _ _ =>
      have habsent := hruns.unsent ticket.loader _ _ ticket.index hopen (by
        simp [LoadRun.Unsent, hphase])
      rw [habsent] at hreport
      cases hreport
  | built hloading _ _ =>
      rw [hloading] at hreport
      cases hreport
  | reported hreporting hnext =>
      rw [hreporting] at hreport
      rcases hnext with hnext | hnext <;> rw [hnext] <;> exact hreport

/-- Replacing a worker by one with the same shards. -/
theorem get?_update_of_models {network : Network TracedShard (List TensorTag)}
    {address : String} {servicer : InferenceServicer TracedShard (List TensorTag)}
    (hmodels : servicer.models = (network address).models) (worker name : String) :
    (Function.update network address servicer worker).models.get? name =
      (network worker).models.get? name := by
  rw [Function.update_apply]
  split
  · next hworker => rw [hworker, hmodels]
  · rfl

/-- The invariant after a step that makes and unloads no shard. -/
theorem HistoryInv.unrecorded (hinv : HistoryInv s) (hhistory : t.2 = s.2)
    (hheld : ∀ address name, (s.1.network address).models.get? name = none ↔
      (t.1.network address).models.get? name = none)
    (hjobs : ∀ ticket, s.2.built ticket = true →
      ∃ report, (t.1.jobs ticket).report? = some report) : HistoryInv t := by
  constructor
  · intro address name
    rw [hhistory, hinv.held address name]
    exact hheld address name
  · rw [hhistory]
    exact hinv.built
  · rw [hhistory]
    exact hjobs

theorem HistoryInv.step (hinv : HistoryInv s) (hruns : RunsInv s.1)
    (hmove : Move setup s.1 label t.1)
    (hrecord : t.2 = s.2.recordEvent (tableEvent s.1 label)) : HistoryInv t := by
  have hjobs : ∀ ticket, s.2.built ticket = true →
      ∃ report, (t.1.jobs ticket).report? = some report := by
    intro ticket hbuilt
    obtain ⟨report, hreport⟩ := hinv.job ticket hbuilt
    exact ⟨report, (hmove.job_cases ticket).report_kept hruns hreport⟩
  cases hmove.table with
  | kept hevent hsame _ =>
      rw [hevent] at hrecord
      apply hinv.unrecorded hrecord _ hjobs
      intro address name
      exact ⟨(hsame.shape name).get?_none, (hsame.shape name).symm.get?_none⟩
  | accepted hevent _ _ hnetwork _ | failed hevent _ hnetwork _ =>
      rw [hevent] at hrecord
      apply hinv.unrecorded hrecord _ hjobs
      intro worker name
      rw [hnetwork]
      refine (Eq.congr_left (get?_update_of_models ?_ worker name)).symm
      rfl
  | @unloaded address modelName hevent hnetwork _ =>
      rw [hevent] at hrecord
      have hheld (worker name : String) : t.2.heldFrom worker name =
          if worker = address ∧ name = modelName then none else s.2.heldFrom worker name := by
        rw [hrecord]
        exact s.2.setHeld_apply address modelName none worker name
      have hbuilt : t.2.built = s.2.built := by rw [hrecord]; rfl
      constructor
      · intro worker name
        rw [hheld, hnetwork]
        by_cases hworker : worker = address
        · subst hworker
          rw [Function.update_self, InferenceServicer.unloadShard_get?]
          by_cases hname : name = modelName
          · simp [hname]
          · simpa [hname] using hinv.held worker name
        · simpa [hworker] using hinv.held worker name
      · intro worker name ticket hfrom
        rw [hheld] at hfrom
        rw [hbuilt]
        split at hfrom
        · cases hfrom
        · exact hinv.built worker name ticket hfrom
      · rw [hbuilt]
        exact hjobs
  | @built done address request shard memoryMb report hevent _ hnetwork hnextJobs =>
      rw [hevent] at hrecord
      have hheld (worker name : String) : t.2.heldFrom worker name =
          if worker = address ∧ name = request.modelName then some done
          else s.2.heldFrom worker name := by
        rw [hrecord]
        exact s.2.setHeld_apply address request.modelName (some done) worker name
      have hbuilt : t.2.built = Function.update s.2.built done true := by rw [hrecord]; rfl
      constructor
      · intro worker name
        rw [hheld, hnetwork]
        by_cases hworker : worker = address
        · subst hworker
          rw [Function.update_self, Dict.get?_set]
          by_cases hname : name = request.modelName
          · simp [hname]
          · simpa [hname] using hinv.held worker name
        · simpa [hworker] using hinv.held worker name
      · intro worker name ticket hfrom
        rw [hheld] at hfrom
        rw [hbuilt, Function.update_apply]
        split at hfrom
        · obtain rfl := Option.some.inj hfrom
          simp
        · rw [hinv.built worker name ticket hfrom, ite_self]
      · intro ticket hticket
        rw [hbuilt] at hticket
        rcases update_cases hticket with ⟨rfl, _⟩ | ⟨_, hkept⟩
        · refine ⟨report, ?_⟩
          rw [hnextJobs, Function.update_self]
          rfl
        · exact hjobs ticket hkept

theorem historyInv_of_reachable {ok : Cluster × ShardHistory → ClusterLabel → Prop}
    (hreach : setup.recordedSystem.ReachableVia ok s) : HistoryInv s := by
  apply hreach.invariant
  · rintro s ⟨hcluster, hhistory⟩
    constructor
    · intro address name
      rw [hcluster, hhistory]
      exact ⟨fun _ => rfl, fun _ => rfl⟩
    · intro address name ticket hfrom
      rw [hhistory] at hfrom
      cases hfrom
    · intro ticket hbuilt
      rw [hhistory] at hbuilt
      cases hbuilt
  · intro s l t hbefore hinv _ hstep
    obtain ⟨hcluster, hhistory⟩ := TransitionSystem.withHistory_some hstep
    have hreachable : setup.system.Reachable s.1 := hbefore.forget fun _ _ _ => trivial
    exact hinv.step (runsInv_of_reachable hreachable) (step_move hcluster) hhistory

end ClusterSetup

end PiSSM.Orchestrator
