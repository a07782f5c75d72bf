import PiSSM.Inference.RunShard
import PiSSM.Orchestrator.ModelStore
import PiSSM.Pipeline.LoadBarrier

/-!
One `load` with the workers it talks to. The main thread names the tensors of a shard and
sends the request, the worker answers and builds the shard on a thread of its own, stores
it under its lock and reports, while the waiter threads of the load wait, in any order;
everything else that goes on at the workers may change what they hold under other names.
The system refines the barrier of `LoadBarrier`, which knows no workers.
-/

namespace PiSSM.Pipeline

open PiSSM.Lib PiSSM.Inference PiSSM.Orchestrator

/-- What the worker of an assignment has still to do for its `LoadShard`. -/
inductive WorkerThread where
  | absent
  | building (request : LoadShardRequest)
  | reporting (report : ShardReadyRequest)
  | finished
  deriving DecidableEq

def WorkerThread.ofLoadThread : Option LoadThread → WorkerThread
  | some (.loadShardBackground request) => .building request
  | some (.reportShardReady report) => .reporting report
  | none => .finished

/-- A planned load, what building a shard gives, and the slot map and the workers it
finds: the planned nodes answer at their addresses and do not know the model. -/
structure DeploymentSetup (μ κ : Type) where
  manifest : ModelManifest
  registry : NodeRegistry
  plan : DispatchPlan
  modelStore : ModelStore
  callbackAddress : String
  build : LoadShardRequest → Except String (μ × Nat)
  resultStore : ResultStore (MarkedReport Nat)
  network : Network μ κ
  planned : planDispatch manifest registry = .ok plan
  addresses : (plan.assignments.map ShardAssignment.address).Nodup
  named : ∀ a ∈ plan.assignments, ∃ named,
    modelStore.extractShard plan.arch a.layerStart a.layerEnd a.isFirst a.isLast = .ok named
  nodeId : ∀ a ∈ plan.assignments, (network a.address).nodeId = a.nodeId
  fresh : ∀ a ∈ plan.assignments, (network a.address).models.get? plan.modelName = none ∧
    plan.modelName ∉ (network a.address).loading

/-- `threads` are numbered like the assignments of the plan. -/
structure Deployment (μ κ : Type) where
  run : LoadRun Nat
  store : ResultStore (MarkedReport Nat)
  network : Network μ κ
  threads : Nat → WorkerThread

inductive DeploymentLabel (μ κ : Type) where
  | createSlot
  | dispatch
  | build (index : Nat)
  | report (index : Nat)
  | startWait (index : Nat)
  | wake (index : Nat)
  | collect (index : Nat)
  | shutdown
  /-- Something else happens at a worker. -/
  | other (address : String) (after : InferenceServicer μ κ)

namespace DeploymentSetup

variable {μ κ : Type} (setup : DeploymentSetup μ κ)

def count : Nat := setup.plan.assignments.length

/-- What `load` sends to the worker of an assignment. -/
def request (a : ShardAssignment) : Except PyException LoadShardRequest := do
  let (locations, configJson) ←
    setup.modelStore.extractShard setup.plan.arch a.layerStart a.layerEnd a.isFirst a.isLast
  return LoadRun.loadShardRequest setup.plan a locations configJson setup.callbackAddress

def initial : Deployment μ κ where
  run := LoadRun.start setup.plan
  store := setup.resultStore
  network := setup.network
  threads _ := .absent

/-- One iteration of the loop that dispatches the requests. -/
def dispatch (state : Deployment μ κ) : Option (Deployment μ κ) :=
  match state.run.phase with
  | .dispatching next =>
      match setup.plan.assignments[next]? with
      | none => none
      | some a =>
          match setup.request a with
          | .error err =>
              (state.run.dispatched (.error err)).map fun run => { state with run := run }
          | .ok request =>
              let (servicer, response, thread) := (state.network a.address).loadShard request
              (state.run.dispatched (.ok response)).map fun run =>
                { state with
                  run := run
                  network := Function.update state.network a.address servicer
                  threads := Function.update state.threads next (.ofLoadThread thread) }
  | _ => none

/-- The background thread of a worker stores what it has built, or the failure. -/
def finishBuild (state : Deployment μ κ) (index : Nat) : Option (Deployment μ κ) :=
  match state.threads index, setup.plan.assignments[index]? with
  | .building request, some a =>
      let (servicer, report) := (state.network a.address).finishLoad request (setup.build request)
      some { state with
        network := Function.update state.network a.address servicer
        threads := Function.update state.threads index (.reporting report) }
  | _, _ => none

def sendReport (state : Deployment μ κ) (index : Nat) : Option (Deployment μ κ) :=
  match state.threads index, setup.plan.assignments[index]? with
  | .reporting report, some _ =>
      some { state with
        store := reportShardReady state.store index report
        threads := Function.update state.threads index .finished }
  | _, _ => none

def step (state : Deployment μ κ) : DeploymentLabel μ κ → Option (Deployment μ κ)
  | .createSlot =>
      (state.run.createSlot state.store).map fun (run, store) =>
        { state with run := run, store := store }
  | .dispatch => setup.dispatch state
  | .build index => setup.finishBuild state index
  | .report index => setup.sendReport state index
  | .startWait index =>
      (state.run.startWait index state.store).map fun run => { state with run := run }
  | .wake index =>
      (state.run.wake index state.store).map fun (run, store) =>
        { state with run := run, store := store }
  | .collect index => (state.run.collect index).map fun run => { state with run := run }
  | .shutdown => state.run.shutdown.map fun run => { state with run := run }
  | .other address after =>
      some { state with network := Function.update state.network address after }

def system : TransitionSystem (Deployment μ κ) (DeploymentLabel μ κ) where
  init state := state = setup.initial
  step := setup.step

/-- What else happens at a worker does not concern this model. -/
def Elsewhere (state : Deployment μ κ) : DeploymentLabel μ κ → Prop
  | .other address after =>
      after.nodeId = (state.network address).nodeId ∧
        after.models.get? setup.plan.modelName =
          (state.network address).models.get? setup.plan.modelName ∧
        (setup.plan.modelName ∈ after.loading ↔
          setup.plan.modelName ∈ (state.network address).loading)
  | _ => True

/-- The outcome of the load on the worker of an assignment. -/
def result (index : Nat) : ShardReadyResult :=
  match (setup.plan.assignments[index]?).map setup.request with
  | some (.ok request) =>
      match setup.build request with
      | .ok (_, memoryMb) =>
          ⟨true, "", memoryMb, (request.layerEnd : Int) - request.layerStart⟩
      | .error message => ⟨false, message, 0, 0⟩
  | _ => ⟨false, "", 0, 0⟩

theorem nonempty : setup.plan.assignments ≠ [] :=
  (planDispatch_pipeline setup.planned).ne_nil

/-- The load without its workers. -/
def barrier : LoadSetup where
  plan := setup.plan
  result := setup.result
  store := setup.resultStore
  nonempty := setup.nonempty
  distinct := planDispatch_nodup setup.planned

/-- The worker holds what its build gave. -/
def Holds (servicer : InferenceServicer μ κ) (request : LoadShardRequest) : Prop :=
  servicer.models.get? setup.plan.modelName =
      (setup.build request).toOption.map (fun built =>
        InferenceServicer.shardHandle request built.1 built.2) ∧
    setup.plan.modelName ∉ servicer.loading

/-- What a worker holds under the model's name, by what it has still to do. -/
def WorkerOk (index : Nat) (a : ShardAssignment) (servicer : InferenceServicer μ κ) :
    WorkerThread → Prop
  | .absent =>
      servicer.models.get? setup.plan.modelName = none ∧
        setup.plan.modelName ∉ servicer.loading
  | .building request =>
      setup.request a = .ok request ∧
        servicer.models.get? setup.plan.modelName = none ∧
        setup.plan.modelName ∈ servicer.loading
  | .reporting report =>
      report = setup.barrier.reportRequest index a ∧
        ∃ request, setup.request a = .ok request ∧ setup.Holds servicer request
  | .finished => ∃ request, setup.request a = .ok request ∧ setup.Holds servicer request

/-- Workers that the main thread has not come to yet. -/
def Pending (threads : Nat → WorkerThread) : LoadPhase → Prop
  | .creating _ => ∀ index, threads index = .absent
  | .dispatching next => ∀ index, next ≤ index → threads index = .absent
  | _ => True

structure DeploymentInv (state : Deployment μ κ) : Prop where
  plan : state.run.plan = setup.plan
  nodeId : ∀ a ∈ setup.plan.assignments, (state.network a.address).nodeId = a.nodeId
  worker : ∀ index a, setup.plan.assignments[index]? = some a →
    setup.WorkerOk index a (state.network a.address) (state.threads index)
  pending : Pending state.threads state.run.phase

/-- The state of the load without its workers. -/
def barrierState (state : Deployment μ κ) : BarrierState where
  run := state.run
  store := state.store
  accepted := (Finset.range setup.count).filter fun index => state.threads index ≠ .absent
  reported := (Finset.range setup.count).filter fun index => state.threads index = .finished

variable {setup} {state next : Deployment μ κ}

theorem address_ne {i j : Nat} {a b : ShardAssignment}
    (ha : setup.plan.assignments[i]? = some a) (hb : setup.plan.assignments[j]? = some b)
    (hne : i ≠ j) : a.address ≠ b.address := by
  intro heq
  have hi : (setup.plan.assignments.map ShardAssignment.address)[i]? = some a.address := by
    rw [List.getElem?_map, ha, Option.map_some]
  have hj : (setup.plan.assignments.map ShardAssignment.address)[j]? = some a.address := by
    rw [List.getElem?_map, hb, Option.map_some, heq]
  have hbound := (List.getElem?_eq_some_iff.mp hi).1
  exact hne ((List.getElem?_inj hbound setup.addresses).mp (hi.trans hj.symm))

/-- Every shard of the plan has its request. -/
theorem exists_request {index : Nat} {a : ShardAssignment}
    (hget : setup.plan.assignments[index]? = some a) :
    ∃ request, setup.request a = .ok request := by
  obtain ⟨⟨locations, configJson⟩, hnamed⟩ := setup.named a (List.mem_of_getElem? hget)
  refine ⟨LoadRun.loadShardRequest setup.plan a locations configJson setup.callbackAddress, ?_⟩
  rw [request, hnamed]
  rfl

theorem request_ok {a : ShardAssignment} {request : LoadShardRequest}
    (hrequest : setup.request a = .ok request) :
    ∃ locations configJson,
      setup.modelStore.extractShard setup.plan.arch a.layerStart a.layerEnd a.isFirst a.isLast =
        .ok (locations, configJson) ∧
      request = LoadRun.loadShardRequest setup.plan a locations configJson
        setup.callbackAddress := by
  unfold DeploymentSetup.request at hrequest
  cases hextract : setup.modelStore.extractShard setup.plan.arch a.layerStart a.layerEnd
      a.isFirst a.isLast with
  | error err =>
      rw [hextract] at hrequest
      cases hrequest
  | ok named =>
      rw [hextract] at hrequest
      exact ⟨named.1, named.2, rfl, (Except.ok.inj hrequest).symm⟩

theorem request_modelName {a : ShardAssignment} {request : LoadShardRequest}
    (hrequest : setup.request a = .ok request) : request.modelName = setup.plan.modelName := by
  obtain ⟨_, _, _, rfl⟩ := request_ok hrequest
  rfl

theorem initial_inv : setup.DeploymentInv setup.initial where
  plan := rfl
  nodeId := setup.nodeId
  worker _ a hget := setup.fresh a (List.mem_of_getElem? hget)
  pending := by
    have hphase : setup.initial.run.phase = .creating 0 := if_neg setup.nonempty
    rw [hphase]
    exact fun _ => rfl

/-- The worker of one assignment takes a step. -/
theorem DeploymentInv.setWorker (hinv : setup.DeploymentInv state) {index : Nat}
    {a : ShardAssignment} (hget : setup.plan.assignments[index]? = some a)
    {servicer : InferenceServicer μ κ} {thread : WorkerThread}
    (hnode : servicer.nodeId = (state.network a.address).nodeId)
    (hworker : setup.WorkerOk index a servicer thread) {run : LoadRun Nat}
    (hplan : run.plan = setup.plan)
    (hpending : Pending (Function.update state.threads index thread) run.phase)
    {store : ResultStore (MarkedReport Nat)} :
    setup.DeploymentInv {
      run := run
      store := store
      network := Function.update state.network a.address servicer
      threads := Function.update state.threads index thread } := by
  refine ⟨hplan, ?_, ?_, hpending⟩
  · intro b hb
    by_cases haddress : b.address = a.address
    · simp only [haddress, Function.update_self]
      rw [hnode, ← haddress]
      exact hinv.nodeId b hb
    · simp only [Function.update_of_ne haddress]
      exact hinv.nodeId b hb
  · intro i b hb
    by_cases hi : i = index
    · subst hi
      obtain rfl : a = b := Option.some.inj (hget.symm.trans hb)
      simpa only [Function.update_self] using hworker
    · simp only [Function.update_of_ne hi, Function.update_of_ne (address_ne hb hget hi)]
      exact hinv.worker i b hb

/-- The worker that is sent its request does not know the model and starts to build. -/
theorem DeploymentInv.loadShard_fresh (hinv : setup.DeploymentInv state) {sent : Nat}
    (hphase : state.run.phase = .dispatching sent) {a : ShardAssignment}
    (hget : setup.plan.assignments[sent]? = some a) :
    ∃ request, setup.request a = .ok request ∧ state.threads sent = .absent ∧
      (state.network a.address).loadShard request =
        ({ state.network a.address with
          loading := insert setup.plan.modelName (state.network a.address).loading },
          ⟨true, ""⟩, some (.loadShardBackground request)) := by
  obtain ⟨request, hrequest⟩ := exists_request hget
  have habsent : state.threads sent = .absent := by
    have hpending := hinv.pending
    rw [hphase] at hpending
    exact hpending sent le_rfl
  have hworker := hinv.worker sent a hget
  rw [habsent] at hworker
  obtain ⟨hfree, hidle⟩ := hworker
  refine ⟨request, hrequest, habsent, ?_⟩
  unfold InferenceServicer.loadShard
  rw [request_modelName hrequest, hfree]
  simp only [if_neg hidle]

theorem DeploymentInv.dispatch_some (hinv : setup.DeploymentInv state)
    (hstep : setup.step state .dispatch = some next) :
    ∃ sent a request run, state.run.phase = .dispatching sent ∧
      setup.plan.assignments[sent]? = some a ∧ setup.request a = .ok request ∧
      state.threads sent = .absent ∧ state.run.dispatched (.ok ⟨true, ""⟩) = some run ∧
      next = { state with
        run := run
        network := Function.update state.network a.address
          { state.network a.address with
            loading := insert setup.plan.modelName (state.network a.address).loading }
        threads := Function.update state.threads sent (.building request) } := by
  change setup.dispatch state = some next at hstep
  unfold dispatch at hstep
  split at hstep
  · next sent hphase =>
      split at hstep
      · cases hstep
      · next a hget =>
          obtain ⟨request, hrequest, habsent, hload⟩ := hinv.loadShard_fresh hphase hget
          simp only [hrequest, hload] at hstep
          obtain ⟨run, hrun, rfl⟩ := Option.map_eq_some_iff.mp hstep
          exact ⟨sent, a, request, run, hphase, hget, hrequest, habsent, hrun, rfl⟩
  · cases hstep

theorem finishBuild_some {index : Nat}
    (hstep : setup.step state (.build index) = some next) :
    ∃ a request, setup.plan.assignments[index]? = some a ∧
      state.threads index = .building request ∧
      next = { state with
        network := Function.update state.network a.address
          ((state.network a.address).finishLoad request (setup.build request)).1
        threads := Function.update state.threads index
          (.reporting ((state.network a.address).finishLoad request
            (setup.build request)).2) } := by
  change setup.finishBuild state index = some next at hstep
  unfold finishBuild at hstep
  split at hstep
  · next request a hthread hget =>
      exact ⟨a, request, hget, hthread, (Option.some.inj hstep).symm⟩
  · cases hstep

theorem sendReport_some {index : Nat}
    (hstep : setup.step state (.report index) = some next) :
    ∃ a report, setup.plan.assignments[index]? = some a ∧
      state.threads index = .reporting report ∧
      next = { state with
        store := reportShardReady state.store index report
        threads := Function.update state.threads index .finished } := by
  change setup.sendReport state index = some next at hstep
  unfold sendReport at hstep
  split at hstep
  · next report a hthread hget =>
      exact ⟨a, report, hget, hthread, (Option.some.inj hstep).symm⟩
  · cases hstep

/-- The locked end of a background load. -/
theorem finishLoad_spec {index : Nat} {a : ShardAssignment}
    (hget : setup.plan.assignments[index]? = some a) {request : LoadShardRequest}
    (hrequest : setup.request a = .ok request) {servicer : InferenceServicer μ κ}
    (hnode : servicer.nodeId = a.nodeId)
    (hfree : servicer.models.get? setup.plan.modelName = none) :
    (servicer.finishLoad request (setup.build request)).1.nodeId = servicer.nodeId ∧
      (servicer.finishLoad request (setup.build request)).2 =
        setup.barrier.reportRequest index a ∧
      setup.Holds (servicer.finishLoad request (setup.build request)).1 request := by
  have hname := request_modelName hrequest
  have hresult : setup.barrier.result index = setup.result index := rfl
  unfold LoadSetup.reportRequest Holds
  rw [hresult, result, hget, Option.map_some, hrequest]
  unfold InferenceServicer.finishLoad
  cases hbuild : setup.build request with
  | ok built =>
      refine ⟨rfl, ?_, ?_, ?_⟩
      · simp only [InferenceServicer.readyReport, hname, hnode, hbuild]
        rfl
      · simp only [hname, Dict.get?_set_self, Except.toOption, Option.map_some]
      · simp only [hname, Finset.mem_erase, ne_eq, not_true_eq_false, false_and,
          not_false_eq_true]
  | error message =>
      refine ⟨rfl, ?_, ?_, ?_⟩
      · simp only [InferenceServicer.failureReport, hname, hnode, hbuild]
        rfl
      · simpa only [Except.toOption, Option.map_none] using hfree
      · simp only [hname, Finset.mem_erase, ne_eq, not_true_eq_false, false_and,
          not_false_eq_true]

/-- A step of the main thread or a waiter leaves the workers as they are. -/
theorem DeploymentInv.setRun (hinv : setup.DeploymentInv state) {run : LoadRun Nat}
    (hplan : run.plan = setup.plan) (hpending : Pending state.threads run.phase)
    {store : ResultStore (MarkedReport Nat)} :
    setup.DeploymentInv { state with run := run, store := store } :=
  ⟨hplan, hinv.nodeId, hinv.worker, hpending⟩

theorem WorkerOk.congr {index : Nat} {a : ShardAssignment}
    {servicer after : InferenceServicer μ κ} {thread : WorkerThread}
    (hworker : setup.WorkerOk index a servicer thread)
    (hmodels : after.models.get? setup.plan.modelName =
      servicer.models.get? setup.plan.modelName)
    (hloading : setup.plan.modelName ∈ after.loading ↔
      setup.plan.modelName ∈ servicer.loading) :
    setup.WorkerOk index a after thread := by
  cases thread with
  | absent => exact ⟨hmodels.trans hworker.1, hloading.not.mpr hworker.2⟩
  | building request =>
      exact ⟨hworker.1, hmodels.trans hworker.2.1, hloading.mpr hworker.2.2⟩
  | reporting report =>
      obtain ⟨hreport, request, hrequest, hheld, hidle⟩ := hworker
      exact ⟨hreport, request, hrequest, hmodels.trans hheld, hloading.not.mpr hidle⟩
  | finished =>
      obtain ⟨request, hrequest, hheld, hidle⟩ := hworker
      exact ⟨request, hrequest, hmodels.trans hheld, hloading.not.mpr hidle⟩

theorem DeploymentInv.other (hinv : setup.DeploymentInv state) {address : String}
    {after : InferenceServicer μ κ} (hok : setup.Elsewhere state (.other address after)) :
    setup.DeploymentInv
      { state with network := Function.update state.network address after } := by
  obtain ⟨hnode, hmodels, hloading⟩ := hok
  refine ⟨hinv.plan, ?_, ?_, hinv.pending⟩
  · intro a ha
    by_cases haddress : a.address = address
    · simp only [haddress, Function.update_self]
      rw [hnode, ← haddress]
      exact hinv.nodeId a ha
    · simp only [Function.update_of_ne haddress]
      exact hinv.nodeId a ha
  · intro index a hget
    by_cases haddress : a.address = address
    · simp only [haddress, Function.update_self]
      have hworker := hinv.worker index a hget
      rw [haddress] at hworker
      exact WorkerOk.congr hworker hmodels hloading
    · simp only [Function.update_of_ne haddress]
      exact hinv.worker index a hget

/-- A thread that has started does not make a worker pending. -/
theorem Pending.update {threads : Nat → WorkerThread} {phase : LoadPhase}
    (hpending : Pending threads phase) {index : Nat} (hthread : threads index ≠ .absent)
    (thread : WorkerThread) : Pending (Function.update threads index thread) phase := by
  have hother {i : Nat} (hi : threads i = .absent) : i ≠ index := by
    rintro rfl
    exact hthread hi
  cases phase with
  | creating created =>
      intro i
      rw [Function.update_of_ne (hother (hpending i))]
      exact hpending i
  | dispatching sent =>
      intro i hi
      rw [Function.update_of_ne (hother (hpending i hi))]
      exact hpending i hi
  | waiting | failing err | returned | raised err => trivial

/-- The main thread is past a worker it has just dispatched. -/
theorem Pending.dispatched {threads : Nat → WorkerThread} {sent : Nat} {run after : LoadRun Nat}
    (hphase : run.phase = .dispatching sent) (hpending : Pending threads run.phase)
    {response : Except PyException LoadShardResponse}
    (hrun : run.dispatched response = some after) (thread : WorkerThread) :
    Pending (Function.update threads sent thread) after.phase := by
  obtain ⟨index, hindex, hcases⟩ := LoadRun.dispatched_some hrun
  obtain rfl : sent = index := LoadPhase.dispatching.inj (hphase.symm.trans hindex)
  rw [hphase] at hpending
  rcases hcases with ⟨err, rfl⟩ | ⟨_, rfl⟩ | ⟨_, rfl⟩
  · trivial
  · intro i hi
    rw [Function.update_of_ne (by omega)]
    exact hpending i (by omega)
  · trivial

theorem DeploymentInv.dispatch (hinv : setup.DeploymentInv state)
    (hstep : setup.step state .dispatch = some next) : setup.DeploymentInv next := by
  obtain ⟨sent, a, request, run, hphase, hget, hrequest, habsent, hrun, rfl⟩ :=
    hinv.dispatch_some hstep
  have hworker := hinv.worker sent a hget
  rw [habsent] at hworker
  have hplan : run.plan = setup.plan := by
    obtain ⟨_, _, hcases⟩ := LoadRun.dispatched_some hrun
    rcases hcases with ⟨err, rfl⟩ | ⟨_, rfl⟩ | ⟨_, rfl⟩ <;> exact hinv.plan
  let servicer : InferenceServicer μ κ := { state.network a.address with
    loading := insert setup.plan.modelName (state.network a.address).loading }
  have hnode : servicer.nodeId = (state.network a.address).nodeId := rfl
  have hbuilding : setup.WorkerOk sent a servicer (.building request) :=
    ⟨hrequest, hworker.1, Finset.mem_insert_self _ _⟩
  exact hinv.setWorker hget hnode hbuilding hplan (hinv.pending.dispatched hphase hrun _)

theorem DeploymentInv.finishBuild {index : Nat} (hinv : setup.DeploymentInv state)
    (hstep : setup.step state (.build index) = some next) : setup.DeploymentInv next := by
  obtain ⟨a, request, hget, hthread, rfl⟩ := finishBuild_some hstep
  have hworker := hinv.worker index a hget
  rw [hthread] at hworker
  obtain ⟨hrequest, hfree, _⟩ := hworker
  obtain ⟨hnode, hreport, hheld⟩ := finishLoad_spec hget hrequest
    (hinv.nodeId a (List.mem_of_getElem? hget)) hfree
  have hstarted : state.threads index ≠ .absent := by
    rw [hthread]
    exact WorkerThread.noConfusion
  have hreporting : setup.WorkerOk index a
      ((state.network a.address).finishLoad request (setup.build request)).1
      (.reporting ((state.network a.address).finishLoad request (setup.build request)).2) :=
    ⟨hreport, request, hrequest, hheld⟩
  exact hinv.setWorker hget hnode hreporting hinv.plan (hinv.pending.update hstarted _)

theorem DeploymentInv.sendReport {index : Nat} (hinv : setup.DeploymentInv state)
    (hstep : setup.step state (.report index) = some next) : setup.DeploymentInv next := by
  obtain ⟨a, report, hget, hthread, rfl⟩ := sendReport_some hstep
  have hworker := hinv.worker index a hget
  rw [hthread] at hworker
  have hfinished : setup.WorkerOk index a (state.network a.address) .finished := hworker.2
  have hstarted : state.threads index ≠ .absent := by
    rw [hthread]
    exact WorkerThread.noConfusion
  have hnext : setup.DeploymentInv { state with
      store := reportShardReady state.store index report
      network := Function.update state.network a.address (state.network a.address)
      threads := Function.update state.threads index .finished } :=
    hinv.setWorker hget rfl hfinished hinv.plan (hinv.pending.update hstarted _)
  rwa [Function.update_eq_self] at hnext

theorem DeploymentInv.step {label : DeploymentLabel μ κ} (hinv : setup.DeploymentInv state)
    (hok : setup.Elsewhere state label) (hstep : setup.step state label = some next) :
    setup.DeploymentInv next := by
  cases label with
  | createSlot =>
      obtain ⟨⟨run, store⟩, hrun, rfl⟩ := Option.map_eq_some_iff.mp hstep
      obtain ⟨created, a, hphase, _, rfl, rfl⟩ := LoadRun.createSlot_some hrun
      have hpending := hinv.pending
      rw [hphase] at hpending
      refine hinv.setRun ?_ ?_
      · exact hinv.plan
      · by_cases hmore : created + 1 < state.run.plan.assignments.length
        · simp only [if_pos hmore]
          exact hpending
        · simp only [if_neg hmore]
          exact fun index _ => hpending index
  | dispatch => exact hinv.dispatch hstep
  | build index => exact hinv.finishBuild hstep
  | report index => exact hinv.sendReport hstep
  | startWait index =>
      obtain ⟨run, hrun, rfl⟩ := Option.map_eq_some_iff.mp hstep
      obtain ⟨a, _, _, hcases⟩ := LoadRun.startWait_some hrun
      rcases hcases with ⟨err, _, rfl⟩ | ⟨event, _, rfl⟩
      · refine hinv.setRun ?_ ?_
        · exact hinv.plan
        · exact hinv.pending
      · refine hinv.setRun ?_ ?_
        · exact hinv.plan
        · exact hinv.pending
  | wake index =>
      obtain ⟨⟨run, store⟩, hrun, rfl⟩ := Option.map_eq_some_iff.mp hstep
      obtain ⟨a, event, _, _, _, rfl, rfl⟩ := LoadRun.wake_some hrun
      refine hinv.setRun ?_ ?_
      · exact hinv.plan
      · exact hinv.pending
  | collect index =>
      obtain ⟨run, hrun, rfl⟩ := Option.map_eq_some_iff.mp hstep
      obtain ⟨outcome, a, _, _, _, _, hcases⟩ := LoadRun.collect_some hrun
      rcases hcases with ⟨err, _, rfl⟩ | ⟨_, rfl⟩
      · refine hinv.setRun ?_ ?_
        · exact hinv.plan
        · trivial
      · refine hinv.setRun ?_ ?_
        · exact hinv.plan
        · simp only
          split <;> trivial
  | shutdown =>
      obtain ⟨run, hrun, rfl⟩ := Option.map_eq_some_iff.mp hstep
      obtain ⟨err, _, rfl⟩ := LoadRun.shutdown_some hrun
      refine hinv.setRun ?_ ?_
      · exact hinv.plan
      · trivial
  | other address after =>
      obtain rfl := Option.some.inj hstep
      exact hinv.other hok

theorem deploymentInv_of_reachable (hreach : setup.system.ReachableVia setup.Elsewhere state) :
    setup.DeploymentInv state := by
  apply hreach.invariant
  · rintro _ rfl
    exact initial_inv
  · intro state label next _ hinv hok hstep
    exact hinv.step hok hstep

section Filters

variable {threads : Nat → WorkerThread} {index : Nat} {thread : WorkerThread}
  {is : WorkerThread → Prop} [DecidablePred is]

/-- The workers whose threads have come to some point, after a thread has come there. -/
theorem filter_update_insert (hindex : index < setup.count) (hthread : is thread) :
    ((Finset.range setup.count).filter fun i => is (Function.update threads index thread i)) =
      insert index ((Finset.range setup.count).filter fun i => is (threads i)) := by
  ext i
  rw [Finset.mem_insert, Finset.mem_filter, Finset.mem_filter, Finset.mem_range]
  by_cases hi : i = index
  · subst hi
    simp only [Function.update_self, hindex, hthread, and_self, true_or]
  · rw [Function.update_of_ne hi]
    exact ⟨.inr, fun hor => hor.resolve_left hi⟩

/-- They are the same after a step to another point. -/
theorem filter_update_same (hsame : is thread ↔ is (threads index)) :
    ((Finset.range setup.count).filter fun i => is (Function.update threads index thread i)) =
      (Finset.range setup.count).filter fun i => is (threads i) := by
  apply Finset.filter_congr
  intro i _
  by_cases hi : i = index
  · subst hi
    rw [Function.update_self]
    exact hsame
  · rw [Function.update_of_ne hi]

end Filters

/-- A step of the load and not of something else. -/
def Own : DeploymentLabel μ κ → Prop
  | .other _ _ => False
  | _ => True

/-- Every step is one of the barrier, or one it does not see: the end of a build, and what
is not of this load. -/
theorem DeploymentInv.refines {label : DeploymentLabel μ κ} (hinv : setup.DeploymentInv state)
    (hstep : setup.step state label = some next) :
    (setup.barrierState next = setup.barrierState state ∧
      (Own label → ∃ index, label = .build index)) ∨
      ∃ label', setup.barrier.step (setup.barrierState state) label' =
        some (setup.barrierState next) := by
  cases label with
  | createSlot =>
      obtain ⟨⟨run, store⟩, hrun, rfl⟩ := Option.map_eq_some_iff.mp hstep
      exact .inr ⟨.createSlot, Option.map_eq_some_iff.mpr ⟨(run, store), hrun, rfl⟩⟩
  | dispatch =>
      obtain ⟨sent, a, request, run, hphase, hget, _, habsent, hrun, rfl⟩ :=
        hinv.dispatch_some hstep
      have hsent : sent < setup.count := (List.getElem?_eq_some_iff.mp hget).1
      have haccepted := @filter_update_insert _ _ setup state.threads sent (.building request)
        (· ≠ .absent) _ hsent WorkerThread.noConfusion
      have hreported := @filter_update_same _ _ setup state.threads sent (.building request)
        (· = .finished) _ (by simp [habsent])
      refine .inr ⟨.dispatch, ?_⟩
      simp only [LoadSetup.step, barrierState, hphase, hrun, Option.map_some, haccepted,
        hreported]
  | build index =>
      obtain ⟨a, request, hget, hthread, rfl⟩ := finishBuild_some hstep
      refine .inl ⟨?_, fun _ => ⟨index, rfl⟩⟩
      simp only [barrierState]
      rw [@filter_update_same _ _ setup state.threads index _ (· ≠ .absent) _ (by simp [hthread]),
        @filter_update_same _ _ setup state.threads index _ (· = .finished) _ (by simp [hthread])]
  | report index =>
      obtain ⟨a, report, hget, hthread, rfl⟩ := sendReport_some hstep
      have hindex : index < setup.count := (List.getElem?_eq_some_iff.mp hget).1
      have hworker := hinv.worker index a hget
      rw [hthread] at hworker
      obtain ⟨rfl, _⟩ := hworker
      have haccepted := @filter_update_same _ _ setup state.threads index .finished
        (· ≠ .absent) _ (by simp [hthread])
      have hreported := @filter_update_insert _ _ setup state.threads index .finished
        (· = .finished) _ hindex rfl
      have hready : index ∈ (setup.barrierState state).accepted ∧
          index ∉ (setup.barrierState state).reported := by
        simp only [barrierState, Finset.mem_filter, Finset.mem_range, hindex, hthread,
          true_and]
        exact ⟨WorkerThread.noConfusion, WorkerThread.noConfusion⟩
      have hassigned : setup.barrier.plan.assignments[index]? = some a := hget
      refine .inr ⟨.report index, ?_⟩
      simp only [LoadSetup.step, hassigned, if_pos hready]
      simp only [barrierState, haccepted, hreported]
  | startWait index =>
      obtain ⟨run, hrun, rfl⟩ := Option.map_eq_some_iff.mp hstep
      exact .inr ⟨.startWait index, Option.map_eq_some_iff.mpr ⟨run, hrun, rfl⟩⟩
  | wake index =>
      obtain ⟨⟨run, store⟩, hrun, rfl⟩ := Option.map_eq_some_iff.mp hstep
      exact .inr ⟨.wake index, Option.map_eq_some_iff.mpr ⟨(run, store), hrun, rfl⟩⟩
  | collect index =>
      obtain ⟨run, hrun, rfl⟩ := Option.map_eq_some_iff.mp hstep
      exact .inr ⟨.collect index, Option.map_eq_some_iff.mpr ⟨run, hrun, rfl⟩⟩
  | shutdown =>
      obtain ⟨run, hrun, rfl⟩ := Option.map_eq_some_iff.mp hstep
      exact .inr ⟨.shutdown, Option.map_eq_some_iff.mpr ⟨run, hrun, rfl⟩⟩
  | other address after =>
      obtain rfl := Option.some.inj hstep
      exact .inl ⟨rfl, False.elim⟩

theorem barrier_reachable (hreach : setup.system.ReachableVia setup.Elsewhere state) :
    setup.barrier.system.Reachable (setup.barrierState state) := by
  apply hreach.simulates
  · rintro _ rfl
    change setup.barrierState setup.initial = setup.barrier.initial
    simp only [barrierState, initial, ne_eq, not_true_eq_false, Finset.filter_false,
      reduceCtorEq]
    rfl
  · intro state label next hreach _ hstep
    rcases (deploymentInv_of_reachable hreach).refines hstep with ⟨hsame, _⟩ | ⟨label', hstep'⟩
    · exact .inl hsame
    · exact .inr ⟨label', trivial, hstep'⟩

section Progress

def threadWork : WorkerThread → Nat
  | .building _ => 1
  | .absent | .reporting _ | .finished => 0

/-- A build is a step that the barrier does not see. -/
def work (setup : DeploymentSetup μ κ) (state : Deployment μ κ) : Nat :=
  2 * setup.barrier.work (setup.barrierState state) +
    ∑ index ∈ Finset.range setup.count, threadWork (state.threads index)

theorem sum_threadWork_update (threads : Nat → WorkerThread) {index : Nat}
    (hindex : index < setup.count) (thread : WorkerThread) :
    (∑ i ∈ Finset.range setup.count, threadWork (Function.update threads index thread i)) +
        threadWork (threads index) =
      (∑ i ∈ Finset.range setup.count, threadWork (threads i)) + threadWork thread := by
  have hmem : index ∈ Finset.range setup.count := Finset.mem_range.mpr hindex
  have hupdate : (fun i => threadWork (Function.update threads index thread i)) =
      Function.update (fun i => threadWork (threads i)) index (threadWork thread) :=
    Function.comp_update threadWork threads index thread
  have hsplit := Finset.sum_eq_add_sum_sdiff_singleton_of_mem hmem
    fun i => threadWork (threads i)
  rw [hupdate, Finset.sum_update_of_mem hmem, hsplit]
  omega

/-- Only a dispatch starts a build. -/
theorem DeploymentInv.threadWork_step {label : DeploymentLabel μ κ}
    (hinv : setup.DeploymentInv state) (hstep : setup.step state label = some next) :
    ∑ i ∈ Finset.range setup.count, threadWork (next.threads i) ≤
      (∑ i ∈ Finset.range setup.count, threadWork (state.threads i)) + 1 := by
  cases label with
  | dispatch =>
      obtain ⟨sent, a, request, run, _, hget, _, habsent, _, rfl⟩ := hinv.dispatch_some hstep
      have hsent : sent < setup.count := (List.getElem?_eq_some_iff.mp hget).1
      have hsum := sum_threadWork_update state.threads hsent (.building request)
      simp only [habsent, threadWork] at hsum ⊢
      omega
  | build index =>
      obtain ⟨a, request, hget, hthread, rfl⟩ := finishBuild_some hstep
      have hindex : index < setup.count := (List.getElem?_eq_some_iff.mp hget).1
      have hsum := sum_threadWork_update state.threads hindex
        (.reporting ((state.network a.address).finishLoad request (setup.build request)).2)
      simp only [hthread, threadWork] at hsum ⊢
      omega
  | report index =>
      obtain ⟨a, report, hget, hthread, rfl⟩ := sendReport_some hstep
      have hindex : index < setup.count := (List.getElem?_eq_some_iff.mp hget).1
      have hsum := sum_threadWork_update state.threads hindex .finished
      simp only [hthread, threadWork] at hsum ⊢
      omega
  | other address after =>
      obtain rfl := Option.some.inj hstep
      exact Nat.le_succ _
  | createSlot | startWait index | wake index | collect index | shutdown =>
      obtain ⟨_, _, rfl⟩ := Option.map_eq_some_iff.mp hstep
      exact Nat.le_succ _

/-- Every step of the load brings it closer to its end. -/
theorem DeploymentInv.work_decreases {label : DeploymentLabel μ κ}
    (hinv : setup.DeploymentInv state)
    (hbarrier : setup.barrier.BarrierInv (setup.barrierState state))
    (hown : Own label) (hstep : setup.step state label = some next) :
    setup.work next < setup.work state := by
  rcases hinv.refines hstep with ⟨hsame, hbuild⟩ | ⟨label', hstep'⟩
  · obtain ⟨index, rfl⟩ := hbuild hown
    obtain ⟨a, request, hget, hthread, rfl⟩ := finishBuild_some hstep
    have hindex : index < setup.count := (List.getElem?_eq_some_iff.mp hget).1
    have hsum := sum_threadWork_update state.threads hindex
      (.reporting ((state.network a.address).finishLoad request (setup.build request)).2)
    rw [hthread] at hsum
    change _ + 1 = _ + 0 at hsum
    simp only [work, hsame]
    omega
  · have hless := LoadSetup.work_decreases hbarrier hstep'
    have hthreads := hinv.threadWork_step hstep
    simp only [work]
    omega

/-- Where the load can take no step, neither can the barrier. -/
theorem DeploymentInv.barrier_stuck (hinv : setup.DeploymentInv state)
    (hstuck : ∀ label, Own label → setup.step state label = none) (label : BarrierLabel) :
    setup.barrier.step (setup.barrierState state) label = none := by
  -- What the barrier adds to a step of the load's own threads is a change of other fields.
  have hmap {α β γ : Type} {f : α → β} {g : α → γ} {x : Option α}
      (hnone : x.map f = none) : x.map g = none := by
    rw [Option.map_eq_none_iff] at hnone ⊢
    exact hnone
  cases label with
  | createSlot => exact hmap (hstuck .createSlot trivial)
  | startWait index => exact hmap (hstuck (.startWait index) trivial)
  | wake index => exact hmap (hstuck (.wake index) trivial)
  | collect index => exact hmap (hstuck (.collect index) trivial)
  | shutdown => exact hmap (hstuck .shutdown trivial)
  | dispatch =>
      have hnone : setup.dispatch state = none := hstuck .dispatch trivial
      simp only [LoadSetup.step, barrierState]
      split
      · next sent hphase =>
          simp only [DeploymentSetup.dispatch, hphase] at hnone
          cases hget : setup.plan.assignments[sent]? with
          | none =>
              have hrun : state.run.dispatched (.ok ⟨true, ""⟩) = none := by
                simp only [LoadRun.dispatched, hphase, hinv.plan, hget]
              rw [hrun, Option.map_none]
          | some a =>
              obtain ⟨request, hrequest, _, hload⟩ := hinv.loadShard_fresh hphase hget
              simp only [hget, hrequest, hload] at hnone
              exact hmap hnone
      · rfl
  | report index =>
      simp only [LoadSetup.step]
      split
      · rfl
      · next a hget =>
          have hget : setup.plan.assignments[index]? = some a := hget
          rw [if_neg]
          rintro ⟨haccepted, hreported⟩
          have hindex : index < setup.count := (List.getElem?_eq_some_iff.mp hget).1
          simp only [barrierState, Finset.mem_filter, Finset.mem_range, hindex,
            true_and] at haccepted hreported
          cases hthread : state.threads index with
          | absent => exact haccepted hthread
          | finished => exact hreported hthread
          | building request =>
              have hnone : setup.finishBuild state index = none := hstuck (.build index) trivial
              simp only [DeploymentSetup.finishBuild, hthread, hget] at hnone
              cases hnone
          | reporting report =>
              have hnone : setup.sendReport state index = none := hstuck (.report index) trivial
              simp only [DeploymentSetup.sendReport, hthread, hget] at hnone
              cases hnone

end Progress

/-- A worker before and after something that concerns only the model of this name. -/
structure SameElsewhere (modelName : String) (before after : InferenceServicer μ κ) : Prop where
  nodeId : after.nodeId = before.nodeId
  models : ∀ query ≠ modelName, after.models.get? query = before.models.get? query
  loading : ∀ query ≠ modelName, query ∈ after.loading ↔ query ∈ before.loading

theorem SameElsewhere.refl (modelName : String) (servicer : InferenceServicer μ κ) :
    SameElsewhere modelName servicer servicer :=
  ⟨rfl, fun _ _ => rfl, fun _ _ => Iff.rfl⟩

theorem finishLoad_sameElsewhere (servicer : InferenceServicer μ κ) (request : LoadShardRequest)
    (built : Except String (μ × Nat)) :
    SameElsewhere request.modelName servicer (servicer.finishLoad request built).1 := by
  have herase (query : String) (hquery : query ≠ request.modelName) :
      query ∈ servicer.loading.erase request.modelName ↔ query ∈ servicer.loading := by
    rw [Finset.mem_erase]
    exact and_iff_right hquery
  cases built with
  | ok built => exact ⟨rfl, fun query hquery => Dict.get?_set_of_ne _ _ hquery, herase⟩
  | error message => exact ⟨rfl, fun _ _ => rfl, herase⟩

/-- What a step of the load may change. -/
structure Guarantee (setup : DeploymentSetup μ κ) (state next : Deployment μ κ) : Prop where
  elsewhere : ∀ address,
    SameElsewhere setup.plan.modelName (state.network address) (next.network address)
  outside : ∀ address ∉ setup.plan.assignments.map ShardAssignment.address,
    next.network address = state.network address

theorem guarantee_of_network (hsame : next.network = state.network) :
    setup.Guarantee state next := by
  constructor
  · intro address
    rw [hsame]
    exact .refl _ _
  · intro address _
    rw [hsame]

theorem guarantee_update {index : Nat} {a : ShardAssignment}
    (hget : setup.plan.assignments[index]? = some a) {servicer : InferenceServicer μ κ}
    (hsame : SameElsewhere setup.plan.modelName (state.network a.address) servicer)
    (hnetwork : next.network = Function.update state.network a.address servicer) :
    setup.Guarantee state next := by
  constructor
  · intro address
    rw [hnetwork]
    by_cases haddress : address = a.address
    · rw [haddress, Function.update_self]
      exact hsame
    · rw [Function.update_of_ne haddress]
      exact .refl _ _
  · intro address haddress
    have hne : address ≠ a.address := by
      rintro rfl
      exact haddress (List.mem_map_of_mem (List.mem_of_getElem? hget))
    rw [hnetwork, Function.update_of_ne hne]

theorem DeploymentInv.guarantee {label : DeploymentLabel μ κ} (hinv : setup.DeploymentInv state)
    (hown : Own label) (hstep : setup.step state label = some next) :
    setup.Guarantee state next := by
  cases label with
  | dispatch =>
      obtain ⟨sent, a, request, run, _, hget, _, _, _, rfl⟩ := hinv.dispatch_some hstep
      refine guarantee_update hget ?_ rfl
      refine ⟨rfl, fun _ _ => rfl, ?_⟩
      intro query hquery
      rw [Finset.mem_insert]
      exact or_iff_right hquery
  | build index =>
      obtain ⟨a, request, hget, hthread, rfl⟩ := finishBuild_some hstep
      have hworker := hinv.worker index a hget
      rw [hthread] at hworker
      have hsame := finishLoad_sameElsewhere (state.network a.address) request
        (setup.build request)
      rw [request_modelName hworker.1] at hsame
      exact guarantee_update hget hsame rfl
  | report index =>
      obtain ⟨a, report, _, _, rfl⟩ := sendReport_some hstep
      exact guarantee_of_network rfl
  | other address after => exact hown.elim
  | createSlot | startWait index | wake index | collect index | shutdown =>
      obtain ⟨_, _, rfl⟩ := Option.map_eq_some_iff.mp hstep
      exact guarantee_of_network rfl

/-- A build of the plan that fails, with its text. -/
def BuildFails (setup : DeploymentSetup μ κ) (a : ShardAssignment) (message : String) : Prop :=
  ∃ request, setup.request a = .ok request ∧ setup.build request = .error message

/-- A worker has the shard that its request asks for. -/
def Deployed (setup : DeploymentSetup μ κ) (network : Network μ κ) (a : ShardAssignment) : Prop :=
  ∃ request shard memoryMb, setup.request a = .ok request ∧
    setup.build request = .ok (shard, memoryMb) ∧
    (network a.address).models.get? setup.plan.modelName =
      some (InferenceServicer.shardHandle request shard memoryMb)

/-- What a worker reports is how its build ended. -/
theorem result_cases {index : Nat} {a : ShardAssignment}
    (hget : setup.plan.assignments[index]? = some a) :
    ((setup.result index).success = true ∧ ∃ request built, setup.request a = .ok request ∧
      setup.build request = .ok built) ∨
    ((setup.result index).success = false ∧
      setup.BuildFails a (setup.result index).errorMessage) := by
  obtain ⟨request, hrequest⟩ := exists_request hget
  unfold result BuildFails
  rw [hget, Option.map_some, hrequest]
  cases hbuild : setup.build request with
  | ok built => exact .inl ⟨by simp only [hbuild], request, built, rfl, hbuild⟩
  | error message =>
      exact .inr ⟨by simp only [hbuild], request, rfl, by simp only [hbuild]⟩

/-- A worker that has reported success has its shard. -/
theorem DeploymentInv.deployed (hinv : setup.DeploymentInv state) {index : Nat}
    {a : ShardAssignment} (hget : setup.plan.assignments[index]? = some a)
    (hreported : index ∈ (setup.barrierState state).reported)
    (hsuccess : (setup.result index).success = true) : setup.Deployed state.network a := by
  have hthread : state.threads index = .finished := (Finset.mem_filter.mp hreported).2
  have hworker := hinv.worker index a hget
  rw [hthread] at hworker
  obtain ⟨request, hrequest, hheld, _⟩ := hworker
  rcases result_cases hget with ⟨_, request', ⟨shard, memoryMb⟩, hrequest', hbuild⟩ | ⟨hfailed, _⟩
  · obtain rfl : request = request' := Except.ok.inj (hrequest.symm.trans hrequest')
    refine ⟨request, shard, memoryMb, hrequest, hbuild, ?_⟩
    rw [hheld, hbuild]
    rfl
  · rw [hsuccess] at hfailed
    cases hfailed

/-- Every worker of a load that has returned has reported success. -/
theorem reported_of_returned (hreach : setup.system.ReachableVia setup.Elsewhere state)
    (hcase : state.run.phase = .returned) {index : Nat} {a : ShardAssignment}
    (hget : setup.plan.assignments[index]? = some a) :
    index ∈ (setup.barrierState state).reported ∧ (setup.result index).success = true := by
  have hphase := (LoadSetup.inv_of_reachable (barrier_reachable hreach)).phase
  have hcase : (setup.barrierState state).run.phase = .returned := hcase
  rw [hcase] at hphase
  obtain ⟨hwaits, hall⟩ := hphase
  have hindex : index ∈ (setup.barrierState state).run.collected := by
    rw [hall]
    exact Finset.mem_range.mpr (List.getElem?_eq_some_iff.mp hget).1
  obtain ⟨_, hreported, hsuccess⟩ := hwaits.collected index hindex
  exact ⟨hreported, hsuccess⟩

/-- A load that has returned has all its shards in place. -/
theorem deployed_of_returned (hreach : setup.system.ReachableVia setup.Elsewhere state)
    (hcase : state.run.phase = .returned) :
    ∀ a ∈ setup.plan.assignments, setup.Deployed state.network a := by
  intro a ha
  obtain ⟨index, hget⟩ := List.mem_iff_getElem?.mp ha
  obtain ⟨hreported, hsuccess⟩ := reported_of_returned hreach hcase hget
  exact (deploymentInv_of_reachable hreach).deployed hget hreported hsuccess

/-- A load that has raised names a worker whose build has failed. -/
theorem buildFails_of_raised (hreach : setup.system.ReachableVia setup.Elsewhere state)
    {err : PyException} (hcase : state.run.phase = .raised err) :
    ∃ a ∈ setup.plan.assignments, ∃ message, setup.BuildFails a message ∧
      err = .pipelineError (s!"worker {a.nodeId} failed to load shard: " ++ message) := by
  have hphase := (LoadSetup.inv_of_reachable (barrier_reachable hreach)).phase
  have hcase : (setup.barrierState state).run.phase = .raised err := hcase
  rw [hcase] at hphase
  obtain ⟨_, index, a, hget, _, hfailed, herr⟩ := hphase
  have hget : setup.plan.assignments[index]? = some a := hget
  have hfailed : (setup.result index).success = false := hfailed
  rcases result_cases hget with ⟨hsuccess, _⟩ | ⟨_, hbuild⟩
  · rw [hfailed] at hsuccess
    cases hsuccess
  · exact ⟨a, List.mem_of_getElem? hget, _, hbuild, herr⟩

/-- A load that can take no step has come to its end. -/
theorem ended_of_stuck (hreach : setup.system.ReachableVia setup.Elsewhere state)
    (hstuck : ∀ label, Own label → setup.step state label = none) :
    state.run.phase = .returned ∨ ∃ err, state.run.phase = .raised err :=
  LoadSetup.ended_of_stuck (LoadSetup.inv_of_reachable (barrier_reachable hreach))
    ((deploymentInv_of_reachable hreach).barrier_stuck hstuck)

/-- Every load can be brought to its end, by its own steps alone. -/
theorem exists_ended (hreach : setup.system.ReachableVia setup.Elsewhere state) :
    ∃ final, setup.system.RunVia setup.Elsewhere state final ∧
      (final.run.phase = .returned ∨ ∃ err, final.run.phase = .raised err) := by
  induction hwork : setup.work state using Nat.strong_induction_on generalizing state with
  | _ work ih =>
      by_cases hstuck : ∀ label, Own label → setup.step state label = none
      · exact ⟨state, .refl, ended_of_stuck hreach hstuck⟩
      · push Not at hstuck
        obtain ⟨label, hown, hstep⟩ := hstuck
        obtain ⟨next, hstep⟩ := Option.ne_none_iff_exists'.mp hstep
        have helsewhere : setup.Elsewhere state label := by
          cases label with
          | other address after => exact hown.elim
          | _ => trivial
        have hless := (deploymentInv_of_reachable hreach).work_decreases
          (LoadSetup.inv_of_reachable (barrier_reachable hreach)) hown hstep
        obtain ⟨final, hrun, hended⟩ := ih _ (hwork ▸ hless) (.step hreach helsewhere hstep) rfl
        exact ⟨final, .trans (.step .refl helsewhere hstep) hrun, hended⟩

section Alone

/-- A run of the load's own steps. -/
theorem elsewhere_of_own (hrun : setup.system.ReachableVia (fun _ => Own) state) :
    setup.system.ReachableVia setup.Elsewhere state := by
  refine hrun.weaken fun _ label _ hown => ?_
  cases label with
  | other address after => exact hown.elim
  | _ => trivial

theorem SameElsewhere.trans {modelName : String} {before middle after : InferenceServicer μ κ}
    (hfirst : SameElsewhere modelName before middle)
    (hrest : SameElsewhere modelName middle after) : SameElsewhere modelName before after where
  nodeId := hrest.nodeId.trans hfirst.nodeId
  models query hquery := (hrest.models query hquery).trans (hfirst.models query hquery)
  loading query hquery := (hrest.loading query hquery).trans (hfirst.loading query hquery)

/-- What a load that runs alone may have changed. -/
theorem guarantee_of_own (hrun : setup.system.ReachableVia (fun _ => Own) state) :
    setup.Guarantee setup.initial state := by
  induction hrun with
  | init hinit =>
      obtain rfl := hinit
      exact guarantee_of_network rfl
  | step hprev hown hstep ih =>
      have hstep' := (deploymentInv_of_reachable (elsewhere_of_own hprev)).guarantee hown hstep
      exact ⟨fun address => (ih.elsewhere address).trans (hstep'.elsewhere address),
        fun address haddress => (hstep'.outside address haddress).trans
          (ih.outside address haddress)⟩

/-- A load that runs alone comes to a state where nothing of it goes on. -/
theorem exists_stuck (hrun : setup.system.ReachableVia (fun _ => Own) state) :
    ∃ final, setup.system.ReachableVia (fun _ => Own) final ∧
      ∀ label, Own label → setup.step final label = none := by
  induction hwork : setup.work state using Nat.strong_induction_on generalizing state with
  | _ work ih =>
      by_cases hstuck : ∀ label, Own label → setup.step state label = none
      · exact ⟨state, hrun, hstuck⟩
      · push Not at hstuck
        obtain ⟨label, hown, hstep⟩ := hstuck
        obtain ⟨next, hstep⟩ := Option.ne_none_iff_exists'.mp hstep
        have hreach := elsewhere_of_own hrun
        have hless := (deploymentInv_of_reachable hreach).work_decreases
          (LoadSetup.inv_of_reachable (barrier_reachable hreach)) hown hstep
        exact ih _ (hwork ▸ hless) (.step hrun hown hstep) rfl

/-- A worker of a load that has returned is not loading the model any more. -/
theorem idle_of_returned (hreach : setup.system.ReachableVia setup.Elsewhere state)
    (hcase : state.run.phase = .returned) {a : ShardAssignment}
    (ha : a ∈ setup.plan.assignments) :
    setup.plan.modelName ∉ (state.network a.address).loading := by
  obtain ⟨index, hget⟩ := List.mem_iff_getElem?.mp ha
  obtain ⟨hreported, _⟩ := reported_of_returned hreach hcase hget
  have hworker := (deploymentInv_of_reachable hreach).worker index a hget
  rw [(Finset.mem_filter.mp hreported).2] at hworker
  obtain ⟨request, _, _, hidle⟩ := hworker
  exact hidle

end Alone

/-- The load is right so far. In the abstract it is a run of the barrier; it returns only
when every worker has the shard of its own request, and raises only the exception for a
worker whose build has failed, with its text; every step of it is one of the barrier or
the end of a build, brings it closer to its end and changes nothing under other names or
at other workers; and where it can take no step it has returned if every build succeeds,
and has raised if one fails. -/
structure LoadsRightly (state : Deployment μ κ) : Prop where
  barrier : setup.barrier.system.Reachable (setup.barrierState state)
  refines : ∀ label next, setup.step state label = some next →
    (setup.barrierState next = setup.barrierState state ∧
      (Own label → ∃ index, label = .build index)) ∨
    ∃ label', setup.barrier.step (setup.barrierState state) label' =
      some (setup.barrierState next)
  returned : state.run.phase = .returned →
    ∀ a ∈ setup.plan.assignments, setup.Deployed state.network a
  raised : ∀ err, state.run.phase = .raised err →
    ∃ a ∈ setup.plan.assignments, ∃ message, setup.BuildFails a message ∧
      err = .pipelineError (s!"worker {a.nodeId} failed to load shard: " ++ message)
  progress : ∀ label next, Own label → setup.step state label = some next →
    setup.work next < setup.work state ∧ setup.Guarantee state next
  ended : (∀ label, Own label → setup.step state label = none) →
    (state.run.phase = .returned ∨ ∃ err, state.run.phase = .raised err) ∧
    ((∃ err, state.run.phase = .raised err) ↔
      ∃ a ∈ setup.plan.assignments, ∃ message, setup.BuildFails a message)

/-- A load that can take no step has raised exactly if a build fails. -/
theorem raised_iff_of_stuck (hreach : setup.system.ReachableVia setup.Elsewhere state)
    (hstuck : ∀ label, Own label → setup.step state label = none) :
    (∃ err, state.run.phase = .raised err) ↔
      ∃ a ∈ setup.plan.assignments, ∃ message, setup.BuildFails a message := by
  constructor
  · rintro ⟨err, hcase⟩
    obtain ⟨a, ha, message, hbuild, _⟩ := buildFails_of_raised hreach hcase
    exact ⟨a, ha, message, hbuild⟩
  · rintro ⟨a, ha, message, request, hrequest, hbuild⟩
    refine (ended_of_stuck hreach hstuck).resolve_left fun hcase => ?_
    obtain ⟨request', shard, memoryMb, hrequest', hbuild', _⟩ :=
      deployed_of_returned hreach hcase a ha
    obtain rfl : request = request' := Except.ok.inj (hrequest.symm.trans hrequest')
    rw [hbuild] at hbuild'
    cases hbuild'

end DeploymentSetup

/-- `load` over the workers of its plan, in any interleaving of the main thread, the
waiters, the workers' threads and whatever else happens at the workers under other
names. -/
theorem load_deploys {μ κ : Type} (setup : DeploymentSetup μ κ) {state : Deployment μ κ}
    (hreach : setup.system.ReachableVia setup.Elsewhere state) : setup.LoadsRightly state := by
  have hinv := DeploymentSetup.deploymentInv_of_reachable hreach
  have hbarrier := DeploymentSetup.barrier_reachable hreach
  constructor
  · exact hbarrier
  · exact fun label next hstep => hinv.refines hstep
  · exact DeploymentSetup.deployed_of_returned hreach
  · exact fun err hcase => DeploymentSetup.buildFails_of_raised hreach hcase
  · intro label next hown hstep
    exact ⟨hinv.work_decreases (LoadSetup.inv_of_reachable hbarrier) hown hstep,
      hinv.guarantee hown hstep⟩
  · intro hstuck
    exact ⟨DeploymentSetup.ended_of_stuck hreach hstuck,
      DeploymentSetup.raised_iff_of_stuck hreach hstuck⟩

/-- The two workers of the five layers, of which the second cannot build its shard. -/
def twoWorkerDeployment : DeploymentSetup Unit Unit where
  manifest := fiveLayerManifest
  registry := twoNodeRegistry
  plan := twoNodePlan
  modelStore :=
    ⟨some ((Dict.empty.set embeddingName "model.safetensors").set normName "model.safetensors"),
      some "{}"⟩
  callbackAddress := "10.0.0.9:50050"
  build request := if request.layerStart = 0 then .ok ((), 64) else .error "no space"
  resultStore := ResultStore.create
  network address := InferenceServicer.create (if address = "10.0.0.1:50051" then "a" else "b")
  planned := twoNodePlan_planned
  addresses := by decide
  named a ha := by
    rcases List.mem_pair.mp ha with rfl | rfl
    · exact ⟨_, rfl⟩
    · exact ⟨_, rfl⟩
  nodeId := by decide
  fresh _ _ := ⟨rfl, Finset.notMem_empty _⟩

/-- The second worker fails before the first one has answered. -/
def twoWorkerFailure : List (DeploymentLabel Unit Unit) :=
  [.createSlot, .createSlot, .dispatch, .dispatch, .build 1, .startWait 1, .report 1, .wake 1,
    .collect 1, .build 0, .shutdown]

theorem load_deploys_two :
    ∃ state, twoWorkerDeployment.system.exec twoWorkerDeployment.initial twoWorkerFailure =
      some state ∧ twoWorkerDeployment.LoadsRightly state := by
  have hrun : (twoWorkerDeployment.system.exec twoWorkerDeployment.initial
      twoWorkerFailure).isSome = true := by
    decide
  obtain ⟨state, hstate⟩ := Option.isSome_iff_exists.mp hrun
  have hreach : twoWorkerDeployment.system.ReachableVia twoWorkerDeployment.Elsewhere state := by
    refine TransitionSystem.ReachableVia.exec (.init rfl) ?_ hstate
    intro label hlabel _
    cases label with
    | other address after => simp [twoWorkerFailure] at hlabel
    | _ => trivial
  exact ⟨state, hstate, load_deploys twoWorkerDeployment hreach⟩

end PiSSM.Pipeline
