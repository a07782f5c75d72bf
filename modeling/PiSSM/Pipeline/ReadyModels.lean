import PiSSM.Pipeline.FinishedLoads

/-!
What the workers hold of the models that are ready. The shards of a plan are where
the plan puts them as long as nothing goes by in between that the code does not
look at: a worker that answers a `LoadShard` with the shard it has, whatever its
layers are; an `UnloadShard` that comes late; and a report of another attempt.
-/

namespace PiSSM.Pipeline

open PiSSM.Lib PiSSM.Inference PiSSM.Orchestrator

/-- The worker holds exactly the shard of an assignment. -/
def HoldsAssigned (servicer : InferenceServicer TracedShard (List TensorTag)) (name : String)
    (assignment : ShardAssignment) : Prop :=
  ∃ handle, servicer.models.get? name = some handle ∧
    handle.layerStart = assignment.layerStart ∧ handle.layerEnd = assignment.layerEnd ∧
    handle.nextWorkerAddress = assignment.nextWorkerAddress

/-- Every worker in the plan of a model that is ready holds its shard. -/
def ReadyModelsHeld (cluster : Cluster) : Prop :=
  ∀ name entry plan, cluster.http.modelStates.get? name = some entry →
    entry.status = .ready → entry.plan = some plan →
    ∀ assignment ∈ plan.assignments,
      HoldsAssigned (cluster.network assignment.address) name assignment

/-- The worker's shard of the model is in use: the model is ready and its plan
names the worker, or an attempt that has not failed has had its success from the
worker. -/
def ShardInUse (cluster : Cluster) (address name : String) : Prop :=
  (∃ entry plan assignment, cluster.http.modelStates.get? name = some entry ∧
    entry.status = .ready ∧ entry.plan = some plan ∧ assignment ∈ plan.assignments ∧
    assignment.address = address) ∨
  ∃ loader run index assignment report, cluster.Unfailed loader run ∧
    run.plan.modelName = name ∧ run.plan.assignments[index]? = some assignment ∧
    assignment.address = address ∧
    (cluster.jobs ⟨loader, index⟩).report? = some report ∧ report.success = true

/-- A worker that is asked for a shard of a model it holds has that very shard, no
`UnloadShard` reaches a shard in use, and an attempt that takes a report of success
takes the one that was made for its own request. -/
structure ShardsUndisputed (cluster : Cluster) (label : ClusterLabel) : Prop where
  answer : ∀ loader tensorLocations configJson replyLost run index assignment,
    label = .dispatch loader (.handled tensorLocations configJson replyLost) →
    cluster.loads loader = ⟨some run, none⟩ → run.phase = .dispatching index →
    run.plan.assignments[index]? = some assignment →
    (cluster.network assignment.address).models.get? run.plan.modelName ≠ none →
    HoldsAssigned (cluster.network assignment.address) run.plan.modelName assignment
  unload : ∀ id call http, label = .unload id true →
    cluster.http.nextUnload id = some (call, http) →
    ¬ ShardInUse cluster call.address call.modelName
  wake : ∀ loader run index stored, cluster.Unfailed loader run →
    cluster.Takes label loader run index stored → stored.result.success = true →
    stored.origin = ⟨loader, index⟩

open ClusterSetup

variable {setup : ClusterSetup} {cluster next : Cluster} {label : ClusterLabel}

theorem HoldsAssigned.congr {servicer servicer' : InferenceServicer TracedShard (List TensorTag)}
    {name : String} {assignment : ShardAssignment} (hholds : HoldsAssigned servicer name assignment)
    (hget : servicer'.models.get? name = servicer.models.get? name) :
    HoldsAssigned servicer' name assignment := by
  obtain ⟨handle, hfound, hassigned⟩ := hholds
  exact ⟨handle, hget.trans hfound, hassigned⟩

/-- A worker has been replaced in the network. -/
theorem HoldsAssigned.update {network : Network TracedShard (List TensorTag)}
    {address worker name : String} {assignment : ShardAssignment}
    {servicer : InferenceServicer TracedShard (List TensorTag)}
    (hholds : HoldsAssigned (network worker) name assignment)
    (hown : worker = address →
      servicer.models.get? name = (network address).models.get? name) :
    HoldsAssigned (Function.update network address servicer worker) name assignment := by
  by_cases hworker : worker = address
  · subst hworker
    rw [Function.update_self]
    exact hholds.congr (hown rfl)
  · rw [Function.update_of_ne hworker]
    exact hholds

/-- Only an `UnloadShard` takes a shard away: a load never replaces one. -/
theorem HoldsAssigned.step {worker name : String} {assignment : ShardAssignment}
    (hholds : HoldsAssigned (cluster.network worker) name assignment)
    (hworkers : WorkersInv cluster) (htable : TableMove cluster next label)
    (hkept : tableEvent cluster label ≠ some (.unloaded worker name)) :
    HoldsAssigned (next.network worker) name assignment := by
  cases htable with
  | kept _ hsame _ =>
      obtain ⟨handle, hget, hstart, hend, hnext⟩ := hholds
      obtain ⟨handle', hget', heq⟩ := (hsame.shape name).handle hget
      refine ⟨handle', hget', ?_, ?_, ?_⟩
      · exact (congrArg ModelHandle.layerStart heq).trans hstart
      · exact (congrArg ModelHandle.layerEnd heq).trans hend
      · exact (nextWorkerAddress_of_withoutCache heq).trans hnext
  | @unloaded address modelName hevent hnetwork _ =>
      rw [hnetwork]
      apply hholds.update
      rintro rfl
      rw [InferenceServicer.unloadShard_get?, if_neg]
      rintro rfl
      exact hkept hevent
  | accepted _ _ _ hnetwork _ | failed _ _ hnetwork _ =>
      rw [hnetwork]
      apply hholds.update
      rintro rfl
      rfl
  | @built ticket address request _ _ _ _ hjob hnetwork _ =>
      rw [hnetwork]
      apply hholds.update
      rintro rfl
      apply Dict.get?_set_of_ne
      rintro rfl
      obtain ⟨handle, hget, _⟩ := hholds
      rw [hworkers.exclusive _ _ (hworkers.marked ticket _ request hjob)] at hget
      cases hget

/-- Where the report of a job comes from after a step. -/
inductive ReportMove (cluster next : Cluster) (label : ClusterLabel) (ticket : Ticket)
    (report : ShardReadyRequest) : Prop where
  | kept (hreport : (cluster.jobs ticket).report? = some report)
  | answered {tensorLocations : List TensorLocationSpec} {configJson : String}
      {replyLost : Option PyException} {run : LoadRun Ticket} {assignment : ShardAssignment}
      (hlabel : label = .dispatch ticket.loader (.handled tensorLocations configJson replyLost))
      (hload : cluster.loads ticket.loader = ⟨some run, none⟩)
      (hphase : run.phase = .dispatching ticket.index)
      (hget : run.plan.assignments[ticket.index]? = some assignment)
      (hheld : (cluster.network assignment.address).models.get? run.plan.modelName ≠ none)
      (hnetwork : next.network = cluster.network)
  | built {address : String} {request : LoadShardRequest}
      (hjob : cluster.jobs ticket = .loading address request)
      (hmodels : report.success = true → ∃ shard memoryMb,
        (next.network address).models.get? request.modelName =
          some (InferenceServicer.shardHandle request shard memoryMb))

theorem report_cases (hmove : Move setup cluster label next) {ticket : Ticket}
    {report : ShardReadyRequest} (hreport : (next.jobs ticket).report? = some report) :
    ReportMove cluster next label ticket report := by
  cases hmove with
  | request _ | unloadFailed _ | unloaded _ _ | finished _ _ | tokenizerFailed _
  | generationFailed _ _ _ | released _ _ _ _ | acquired _ _ _ _ | generated _ _ _
  | prepared _ _ | prepareFailed _ _ | slotCreated _ _ | dispatchFailed _ _
  | waitStarted _ _ | woken _ _ | collected _ _ | shutDown _ _ | concluded _ _ =>
      exact .kept hreport
  | @dispatched loader index assignment tensorLocations configJson replyLost run after servicer
      response thread _ hopen hphase hget hload _ _ =>
      by_cases heq : ticket = ⟨loader, index⟩
      · subst heq
        cases InferenceServicer.loadShard_answer hload with
        | @held handle hheld =>
            refine .answered rfl hopen hphase hget ?_ (Function.update_eq_self _ _)
            exact Option.ne_none_iff_exists'.mpr ⟨handle, hheld⟩
        | rejected _ => exact .kept hreport
        | accepted _ _ =>
            dsimp only [Cluster.startJob] at hreport
            rw [Function.update_self] at hreport
            cases hreport
      · cases thread with
        | none => exact .kept hreport
        | some thread =>
            dsimp only [Cluster.startJob] at hreport
            rw [Function.update_of_ne heq] at hreport
            exact .kept hreport
  | @jobFinished finished _ address request servicer made hjob hfinish =>
      by_cases heq : ticket = finished
      · subst heq
        obtain rfl : made = report := by simpa [WorkerJob.report?] using hreport
        refine .built hjob ?_
        intro hsuccess
        dsimp only
        rw [Function.update_self]
        rcases InferenceServicer.finishLoad_models hfinish with ⟨_, shard, memoryMb, hmodels⟩ |
          ⟨hfailure, _⟩
        · refine ⟨shard, memoryMb, ?_⟩
          rw [hmodels, Dict.get?_set_self]
        · rw [hsuccess] at hfailure
          cases hfailure
      · dsimp only at hreport
        rw [Function.update_of_ne heq] at hreport
        exact .kept hreport
  | @reportDelivered reported _ hjob | @reportDropped reported _ hjob =>
      dsimp only at hreport
      by_cases heq : ticket = reported
      · subst heq
        rw [Function.update_self] at hreport
        refine .kept ?_
        rw [hjob]
        exact hreport
      · rw [Function.update_of_ne heq] at hreport
        exact .kept hreport

/-- The shards in use are those their assignments ask for, and the successes taken
so far have been reported by the workers of the assignments. -/
structure HeldInv (cluster : Cluster) : Prop where
  reported : ∀ loader run index assignment report, cluster.Unfailed loader run →
    run.plan.assignments[index]? = some assignment →
    (cluster.jobs ⟨loader, index⟩).report? = some report → report.success = true →
    HoldsAssigned (cluster.network assignment.address) run.plan.modelName assignment
  ended : ∀ loader run index stored, cluster.Unfailed loader run →
    run.waiters index = .ended (.ok (some stored)) → stored.result.success = true →
    ∃ report, (cluster.jobs ⟨loader, index⟩).report? = some report ∧ report.success = true
  ready : ReadyModelsHeld cluster

/-- A shard in use stays where it is. -/
theorem ShardsUndisputed.kept (hok : ShardsUndisputed cluster label) {address name : String}
    (huse : ShardInUse cluster address name) :
    tableEvent cluster label ≠ some (.unloaded address name) := by
  intro hevent
  unfold tableEvent at hevent
  split at hevent
  · split at hevent <;> cases hevent
  · next id =>
      split at hevent
      · next call http hnext =>
          cases hevent
          exact hok.unload id call http rfl hnext huse
      · cases hevent
  · cases hevent

theorem HeldInv.reported_step (hinv : HeldInv cluster) (hruns : RunsInv cluster)
    (hworkers : WorkersInv cluster) (hjobs : setup.JobsInv cluster)
    (hok : ShardsUndisputed cluster label) (hmove : Move setup cluster label next)
    {loader index : Nat} {after : LoadRun Ticket} {assignment : ShardAssignment}
    {report : ShardReadyRequest} (hunfailed : next.Unfailed loader after)
    (hget : after.plan.assignments[index]? = some assignment)
    (hreport : (next.jobs ⟨loader, index⟩).report? = some report)
    (hsuccess : report.success = true) :
    HoldsAssigned (next.network assignment.address) after.plan.modelName assignment := by
  have hreports := report_cases hmove hreport
  rcases hmove.unfailed hruns hunfailed with ⟨hnone, _⟩ | ⟨run, hbefore, hadvances⟩
  · have habsent := hruns.noRun loader none hnone index
    cases hreports with
    | kept hkept =>
        rw [habsent] at hkept
        cases hkept
    | answered _ hload _ _ _ _ =>
        rw [hnone] at hload
        cases hload
    | built hjob _ =>
        rw [habsent] at hjob
        cases hjob
  · have hplan := hadvances.plan
    rw [hplan] at hget ⊢
    have hopenRun : ∃ outcome, cluster.loads loader = ⟨some run, outcome⟩ := by
      obtain ⟨_, outcome, _, _, hload, _⟩ := hbefore
      exact ⟨outcome, hload⟩
    obtain ⟨outcome, hload⟩ := hopenRun
    cases hreports with
    | kept hkept =>
        have hholds := hinv.reported loader run index assignment report hbefore hget hkept hsuccess
        apply hholds.step hworkers hmove.table
        exact hok.kept (.inr ⟨loader, run, index, assignment, report, hbefore, rfl, hget, rfl,
          hkept, hsuccess⟩)
    | @answered tensorLocations configJson replyLost found asg hlabel hopen hphase hasg hheld
        hnetwork =>
        rw [hload] at hopen
        cases hopen
        obtain rfl : asg = assignment := Option.some.inj (hasg.symm.trans hget)
        rw [hnetwork]
        exact hok.answer loader tensorLocations configJson replyLost run index asg hlabel hload
          hphase hasg hheld
    | @built address request hjob hmodels =>
        have hthere : cluster.jobs ⟨loader, index⟩ ≠ .absent := by rw [hjob]; simp
        obtain ⟨found, _, asg, hfound, hasg, hjobOk⟩ := hjobs _ hthere
        rw [hload] at hfound
        cases hfound
        obtain rfl : asg = assignment := Option.some.inj (hasg.symm.trans hget)
        obtain ⟨rfl, tensorLocations, configJson, rfl⟩ := hjobOk.loading address request hjob
        obtain ⟨shard, memoryMb, hmodels⟩ := hmodels hsuccess
        exact ⟨_, hmodels, rfl, rfl, rfl⟩

theorem HeldInv.ended_step (hinv : HeldInv cluster) (hruns : RunsInv cluster)
    (hcalls : CallsInv cluster) (hok : ShardsUndisputed cluster label)
    (hmove : Move setup cluster label next) {loader index : Nat} {after : LoadRun Ticket}
    {stored : MarkedReport Ticket} (hunfailed : next.Unfailed loader after)
    (hended : after.waiters index = .ended (.ok (some stored)))
    (hsuccess : stored.result.success = true) :
    ∃ report, (next.jobs ⟨loader, index⟩).report? = some report ∧ report.success = true := by
  rcases hmove.unfailed hruns hunfailed with ⟨_, plan, rfl⟩ | ⟨run, hbefore, hadvances⟩
  · cases hended
  · have hreported : ∃ report, (cluster.jobs ⟨loader, index⟩).report? = some report ∧
        report.success = true := by
      rcases hadvances.ended index stored hended with hold | htaken
      · exact hinv.ended loader run index stored hbefore hold hsuccess
      · have horigin := hok.wake loader run index stored hbefore htaken hsuccess
        obtain ⟨_, assignment, event, _, hslot⟩ := htaken
        obtain ⟨_, report, hjob, hresult⟩ := hcalls.stored _ event stored hslot
        rw [horigin] at hjob
        rw [hresult] at hsuccess
        exact ⟨report, by rw [hjob]; rfl, hsuccess⟩
    obtain ⟨report, hreport, hreportSuccess⟩ := hreported
    exact ⟨report, (hmove.job_cases _).report_kept hruns hreport, hreportSuccess⟩

/-- When a loader thread records its success, all workers of its plan hold their
shards. -/
theorem HeldInv.returned (hinv : HeldInv cluster) (hruns : RunsInv cluster)
    (hcalls : CallsInv cluster) {loader : Nat} {thread : LoaderThread}
    (hthread : cluster.http.loaders loader = some thread) (hrunning : thread.running = true)
    (houtcome : (cluster.loads loader).outcome = some (.ok ())) :
    ∀ assignment ∈ thread.plan.assignments,
      HoldsAssigned (cluster.network assignment.address) thread.plan.modelName assignment := by
  intro assignment hmem
  obtain ⟨run, hload, hreturned⟩ := hcalls.succeeded loader houtcome
  obtain ⟨found, hfound, hplan⟩ := hruns.plan loader run _ hload
  obtain rfl : thread = found := Option.some.inj (hthread.symm.trans hfound)
  rw [← hplan] at hmem ⊢
  have hunfailed : cluster.Unfailed loader run :=
    ⟨thread, _, hthread, hrunning, hload, by simp [LoadRun.Failed, hreturned], by simp⟩
  obtain ⟨index, hget⟩ := List.getElem?_of_mem hmem
  have hcollects := hcalls.collects loader run _ hload
  have hcollected : index ∈ run.collected := by
    rw [hcollects.returned hreturned, Finset.mem_range]
    exact (List.getElem?_eq_some_iff.mp hget).1
  obtain ⟨stored, hended, hsuccess⟩ := hcollects.collected index hcollected
  obtain ⟨report, hreport, hreportSuccess⟩ :=
    hinv.ended loader run index stored hunfailed hended hsuccess
  exact hinv.reported loader run index assignment report hunfailed hget hreport hreportSuccess

theorem HeldInv.step (hinv : HeldInv cluster) (hreach : setup.system.Reachable cluster)
    (hok : ShardsUndisputed cluster label) (hmove : Move setup cluster label next) :
    HeldInv next := by
  have hruns := runsInv_of_reachable hreach
  have hworkers := workersInv_of_reachable hreach
  have hcalls := callsInv_of_reachable hreach
  constructor
  · intro loader run index assignment report hunfailed hget hreport hsuccess
    exact hinv.reported_step hruns hworkers (jobsInv_of_reachable hreach) hok hmove hunfailed hget
      hreport hsuccess
  · intro loader run index stored hunfailed hended hsuccess
    exact hinv.ended_step hruns hcalls hok hmove hunfailed hended hsuccess
  · intro name entry plan hget hready hplan assignment hmem
    rcases hmove.entry_cases hget with hold | hwrite
    · apply (hinv.ready name entry plan hold hready hplan assignment hmem).step hworkers
        hmove.table
      exact hok.kept (.inl ⟨entry, plan, assignment, hold, hready, hplan, hmem, rfl⟩)
    · cases hwrite with
      | refused | dispatched _ _ _ => cases hready
      | @loaded loader thread outcome hthread hrunning hname houtcome hnetwork =>
          cases outcome with
          | error err => cases hready
          | ok _ =>
              obtain rfl : thread.plan = plan := Option.some.inj hplan
              rw [hnetwork, ← hname, ← (loader_planned hreach hthread).modelName]
              exact hinv.returned hruns hcalls hthread hrunning houtcome assignment hmem

theorem heldInv_of_reachable (hreach : setup.system.ReachableVia ShardsUndisputed cluster) :
    HeldInv cluster := by
  apply hreach.invariant
  · rintro _ rfl
    constructor
    · rintro loader run index assignment report ⟨_, _, hthread, _⟩
      cases hthread
    · rintro loader run index stored ⟨_, _, hthread, _⟩
      cases hthread
    · intro name entry plan hget
      cases hget
  · intro s label t hbefore hinv hok hstep
    exact hinv.step hbefore.reachable hok (step_move hstep)

/-- In every run in which no shard is disputed, the workers of every model that is
ready hold the shards of its plan. -/
theorem ready_models_held (setup : ClusterSetup) {cluster : Cluster}
    (hreach : setup.system.ReachableVia ShardsUndisputed cluster) : ReadyModelsHeld cluster :=
  (heldInv_of_reachable hreach).ready

/-- Enough for a step to leave every shard undisputed: nothing is unloaded, a worker
that is asked for a shard has none of the model, and a wait finds the report of its
own request. -/
def undisputedNow (cluster : Cluster) : ClusterLabel → Bool
  | .unload _ reached => !reached
  | .dispatch loader (.handled _ _ _) =>
      (cluster.loads loader).run.all fun run =>
        match run.phase with
        | .dispatching index =>
            (run.plan.assignments[index]?).all fun assignment =>
              ((cluster.network assignment.address).models.get? run.plan.modelName).isNone
        | _ => true
  | .wake loader index =>
      (cluster.loads loader).run.all fun run =>
        (run.plan.assignments[index]?).all fun assignment =>
          (cluster.shardStore.slots.get? (run.key assignment)).all fun slot =>
            slot.2.all fun stored => stored.origin = ⟨loader, index⟩
  | _ => true

theorem shardsUndisputed_of_now (hnow : undisputedNow cluster label = true) :
    ShardsUndisputed cluster label := by
  constructor
  · rintro loader _ _ _ run index assignment rfl hload hphase hget hheld
    simp only [undisputedNow, hload, Option.all_some, hphase, hget, Option.isNone_iff_eq_none]
      at hnow
    exact absurd hnow hheld
  · rintro id call http rfl
    cases hnow
  · rintro loader run index stored ⟨_, _, _, _, hload, _⟩ ⟨rfl, assignment, event, hget, hslot⟩ _
    simp only [undisputedNow, hload, Option.all_some, hget, hslot, decide_eq_true_eq] at hnow
    exact hnow

/-- A load of two workers, until the model is ready. -/
def twoNodeReady : List ClusterLabel :=
  .request (.register fiveLayerManifest) :: requestLoad 0 0 .load ++
    [.prepare 0 (.ok ()), .createSlot 0, .createSlot 0, .dispatch 0 (.handled [] "" none),
      .dispatch 0 (.handled [] "" none), .finishJob ⟨0, 1⟩ (.ok (⟨⟩, 100)), .report ⟨0, 1⟩ true,
      .startWait 0 0, .finishJob ⟨0, 0⟩ (.ok (⟨⟩, 100)), .report ⟨0, 0⟩ true, .startWait 0 1,
      .wake 0 1, .wake 0 0, .collect 0 1, .collect 0 0, .conclude 0 (.ok ()), .finishLoad 0]

theorem ready_models_held_two :
    ∃ cluster, (cluster.http.modelStates.get? "m").any (fun entry => entry.status = .ready) =
      true ∧ ReadyModelsHeld cluster := by
  have hrun : ∃ cluster, twoNodeCluster.system.ReachableVia ShardsUndisputed cluster ∧
      (cluster.http.modelStates.get? "m").any (fun entry => entry.status = .ready) = true := by
    apply TransitionSystem.reachable_of_execGuarded twoNodeReady (.init rfl)
      fun _ _ => shardsUndisputed_of_now
    decide
  obtain ⟨cluster, hreach, hready⟩ := hrun
  exact ⟨cluster, hready, ready_models_held twoNodeCluster hreach⟩

/-- The first attempt fails and leaves the first worker's shard behind. The second
worker leaves the cluster, so that the second attempt wants all layers from the
first one, which answers that it has loaded the model. -/
def staleShardRun : List ClusterLabel :=
  failingRun (.ok (⟨⟩, 100)) ++
    [.request (.reap 1000),
      .request (.heartbeat 1000 ⟨"a", "10.0.0.1", 4096, 8192, 4, "", "", "", 50051⟩)] ++
    requestLoad 1 1 .load ++
    [.prepare 1 (.ok ()), .createSlot 1, .dispatch 1 (.handled [] "" none), .report ⟨1, 0⟩ true,
      .startWait 1 0, .wake 1 0, .collect 1 0, .conclude 1 (.ok ()), .finishLoad 1]

/-- A worker in the plan of a model that is ready holds other layers. -/
def readyWithOtherLayers (cluster : Cluster) : Bool :=
  (cluster.http.modelStates.get? "m").any fun entry => entry.status = .ready &&
    entry.plan.any fun plan => plan.assignments.any fun assignment =>
      ((cluster.network assignment.address).models.get? "m").all fun handle =>
        handle.layerEnd ≠ assignment.layerEnd

theorem ready_models_held_counterexample :
    ¬ ∀ cluster, twoNodeCluster.system.Reachable cluster → ReadyModelsHeld cluster := by
  intro hclaim
  have hrun : ∃ cluster, twoNodeCluster.system.Reachable cluster ∧
      readyWithOtherLayers cluster = true := by
    apply TransitionSystem.reachable_of_exec staleShardRun rfl (fun _ _ _ => trivial)
    decide +kernel
  obtain ⟨cluster, hreach, htest⟩ := hrun
  obtain ⟨entry, hget, htest⟩ := (Option.any_eq_true _ _).mp htest
  obtain ⟨hready, htest⟩ := Bool.and_eq_true_iff.mp htest
  obtain ⟨plan, hplan, htest⟩ := (Option.any_eq_true _ _).mp htest
  obtain ⟨assignment, hmem, htest⟩ := List.any_eq_true.mp htest
  obtain ⟨handle, hfound, _, hend, _⟩ :=
    hclaim cluster hreach "m" entry plan hget (of_decide_eq_true hready) hplan assignment hmem
  rw [hfound, Option.all_some] at htest
  exact of_decide_eq_true htest hend

end PiSSM.Pipeline
