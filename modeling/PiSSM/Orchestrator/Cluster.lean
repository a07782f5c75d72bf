import PiSSM.Orchestrator.HttpApi
import PiSSM.Orchestrator.PipelineLoad
import PiSSM.Orchestrator.PipelineRunner

/-!
The cluster: the HTTP API, its loader threads with their waits, the servicers of
all workers with the loads they run in the background, and the generations of
the infer requests. One step is one locked section, the handling of one RPC or
one step of a generation. Tensors and caches are traced: a tensor names the call
and the step it is the input of, and a cache lists the tensors it has been
advanced by, since nothing here depends on what they contain.
-/

namespace PiSSM.Orchestrator

open PiSSM.Lib PiSSM.Inference

structure TensorTag where
  call : Nat
  step : Nat
  deriving DecidableEq

/-- The module of a loaded shard. -/
structure TracedShard where
  deriving DecidableEq

instance : ShardModel TracedShard TensorTag (List TensorTag) where
  newCache _ := []
  forward _ x cache := (cache ++ [x], .ok x)
  forwardStateless _ x := .ok x

def tracedOps : TensorOps TensorTag where
  argmaxLast x := .ok ⟨x.call, x.step + 1⟩
  cat x _ := x

/-- Names a `LoadShard` request: the loader thread that sends it and the number
of its assignment. -/
structure Ticket where
  loader : Nat
  index : Nat
  deriving DecidableEq

/-- What has become of a `LoadShard` request a worker accepted. -/
inductive WorkerJob where
  | absent
  | loading (address : String) (request : LoadShardRequest)
  | reporting (report : ShardReadyRequest)
  | delivered (report : ShardReadyRequest)
  | dropped (report : ShardReadyRequest)
  deriving DecidableEq

def WorkerJob.start (address : String) : LoadThread → WorkerJob
  | .reportShardReady report => .reporting report
  | .loadShardBackground request => .loading address request

/-- The report a job has produced. -/
def WorkerJob.report? : WorkerJob → Option ShardReadyRequest
  | .absent | .loading _ _ => none
  | .reporting report | .delivered report | .dropped report => some report

/-- Where a loader thread is: the call of `load` once it has begun, and what the
thread is going to record once that is decided. -/
structure LoadProgress where
  run : Option (LoadRun Ticket)
  outcome : Option (Except PyException Unit)

/-- What the environment decides about one iteration of the dispatch loop. -/
inductive DispatchFate where
  /-- The extraction of the shard raises, or the call fails before the worker
  handles it. -/
  | failed (err : PyException)
  | handled (tensorLocations : List TensorLocationSpec) (configJson : String)
      (replyLost : Option PyException)

/-- A generation is active from entering its `with` block until it leaves it. -/
inductive GenerationPhase where
  | idle
  | active (session : InferenceSession) (step : Nat) (nextInput : TensorTag)
  | ended
  deriving DecidableEq

/-- `locks` are the generation locks of the runners. -/
structure Cluster where
  http : HttpState
  loads : Nat → LoadProgress
  shardStore : ResultStore (MarkedReport Ticket)
  jobs : Ticket → WorkerJob
  network : Network TracedShard (List TensorTag)
  resultStore : ResultStore (PipelineResult TensorTag)
  generations : Nat → GenerationPhase
  locks : Nat → Option Nat

structure ClusterSetup where
  registry : NodeRegistry
  callbackAddress : String
  callbackAddress_ne : callbackAddress ≠ ""
  nodeIdAt : String → String

inductive ClusterLabel where
  | request (label : RequestLabel)
  | unload (id : Nat) (reached : Bool)
  | prepare (loader : Nat) (metadata : Except PyException Unit)
  | createSlot (loader : Nat)
  | dispatch (loader : Nat) (fate : DispatchFate)
  | startWait (loader index : Nat)
  | wake (loader index : Nat)
  | collect (loader index : Nat)
  | shutdown (loader : Nat)
  | conclude (loader : Nat) (tokenizer : Except PyException Unit)
  | finishLoad (loader : Nat)
  | finishJob (ticket : Ticket) (built : Except String (TracedShard × Nat))
  | report (ticket : Ticket) (arrives : Bool)
  | tokenizerFailed (id : Nat) (err : PyException)
  | acquire (id : Nat)
  | generate (id fuel : Nat) (env : StepEnv (List TensorTag))
  | closeStream (id : Nat) (cause : Option PyException)

namespace Cluster

def setRun (cluster : Cluster) (loader : Nat) (run : LoadRun Ticket) : Cluster :=
  { cluster with loads := Function.update cluster.loads loader ⟨some run, none⟩ }

/-- An `UnloadShard` call of a request, which may fail to reach the worker. -/
def unload (cluster : Cluster) (id : Nat) (reached : Bool) : Option Cluster :=
  match cluster.http.nextUnload id with
  | none => none
  | some (call, http) =>
      if reached then
        some { cluster with
          http := http
          network := Function.update cluster.network call.address
            ((cluster.network call.address).unloadShard call.modelName).1 }
      else some { cluster with http := http }

/-- The loader thread reads the checkpoint's metadata and begins `load`. -/
def prepare (cluster : Cluster) (loader : Nat) (metadata : Except PyException Unit) :
    Option Cluster :=
  match cluster.http.loaders loader, cluster.loads loader with
  | some thread, ⟨none, none⟩ =>
      match metadata with
      | .ok () => some (cluster.setRun loader (.start thread.plan))
      | .error err =>
          some { cluster with
            loads := Function.update cluster.loads loader ⟨none, some (.error err)⟩ }
  | _, _ => none

/-- The call of `load` of a thread that has not decided its outcome yet. -/
def openRun (cluster : Cluster) (loader : Nat) : Option (LoadRun Ticket) :=
  match cluster.loads loader with
  | ⟨run, none⟩ => run
  | _ => none

def createSlot (cluster : Cluster) (loader : Nat) : Option Cluster :=
  (cluster.openRun loader).bind fun run =>
    (run.createSlot cluster.shardStore).map fun (run, store) =>
      { cluster.setRun loader run with shardStore := store }

/-- Records the thread a worker starts for a `LoadShard` request. -/
def startJob (jobs : Ticket → WorkerJob) (ticket : Ticket) (address : String) :
    Option LoadThread → Ticket → WorkerJob
  | none => jobs
  | some thread => Function.update jobs ticket (WorkerJob.start address thread)

/-- One iteration of the dispatch loop. -/
def dispatch (setup : ClusterSetup) (cluster : Cluster) (loader : Nat)
    (fate : DispatchFate) : Option Cluster :=
  (cluster.openRun loader).bind fun run =>
    match run.phase with
    | .dispatching index =>
        match run.plan.assignments[index]?, fate with
        | none, _ => none
        | some _, .failed err =>
            (run.dispatched (.error err)).map fun run => cluster.setRun loader run
        | some assignment, .handled tensorLocations configJson replyLost =>
            let request := LoadRun.loadShardRequest run.plan assignment tensorLocations
              configJson setup.callbackAddress
            let (servicer, response, thread) :=
              (cluster.network assignment.address).loadShard request
            let reply :=
              match replyLost with
              | none => .ok response
              | some err => .error err
            (run.dispatched reply).map fun run =>
              { cluster.setRun loader run with
                network := Function.update cluster.network assignment.address servicer
                jobs := startJob cluster.jobs ⟨loader, index⟩ assignment.address thread }
    | _ => none

/-- A waiter thread looks its slot up, perhaps after its load has failed. -/
def startWait (cluster : Cluster) (loader index : Nat) : Option Cluster :=
  (cluster.loads loader).run.bind fun run =>
    (run.startWait index cluster.shardStore).map fun run =>
      { cluster with
        loads := Function.update cluster.loads loader
          { cluster.loads loader with run := some run } }

def wake (cluster : Cluster) (loader index : Nat) : Option Cluster :=
  (cluster.loads loader).run.bind fun run =>
    (run.wake index cluster.shardStore).map fun (run, store) =>
      { cluster with
        loads := Function.update cluster.loads loader
          { cluster.loads loader with run := some run }
        shardStore := store }

def collect (cluster : Cluster) (loader index : Nat) : Option Cluster :=
  (cluster.openRun loader).bind fun run =>
    (run.collect index).map fun run => cluster.setRun loader run

def shutdown (cluster : Cluster) (loader : Nat) : Option Cluster :=
  (cluster.openRun loader).bind fun run =>
    run.shutdown.map fun run => cluster.setRun loader run

/-- The end of `_build_session`: an exception of `load`, or the tokenizer. -/
def conclude (cluster : Cluster) (loader : Nat) (tokenizer : Except PyException Unit) :
    Option Cluster :=
  (cluster.openRun loader).bind fun run =>
    let decide (outcome : Except PyException Unit) : Cluster :=
      { cluster with loads := Function.update cluster.loads loader ⟨some run, some outcome⟩ }
    match run.phase with
    | .returned => some (decide tokenizer)
    | .raised err => some (decide (.error err))
    | _ => none

/-- The last locked section of the loader thread. -/
def finishLoad (cluster : Cluster) (loader : Nat) : Option Cluster :=
  (cluster.loads loader).outcome.bind fun outcome =>
    (cluster.http.finishLoad loader outcome).map fun http => { cluster with http := http }

/-- A background load of a worker comes to its end. -/
def finishJob (cluster : Cluster) (ticket : Ticket)
    (built : Except String (TracedShard × Nat)) : Option Cluster :=
  match cluster.jobs ticket with
  | .loading address request =>
      let (servicer, report) := (cluster.network address).finishLoad request built
      some { cluster with
        network := Function.update cluster.network address servicer
        jobs := Function.update cluster.jobs ticket (.reporting report) }
  | _ => none

/-- A worker's `ReportShardReady`, which it does not repeat when it fails. -/
def report (cluster : Cluster) (ticket : Ticket) (arrives : Bool) : Option Cluster :=
  match cluster.jobs ticket with
  | .reporting report =>
      if arrives then
        some { cluster with
          shardStore := reportShardReady cluster.shardStore ticket report
          jobs := Function.update cluster.jobs ticket (.delivered report) }
      else
        some { cluster with
          jobs := Function.update cluster.jobs ticket (.dropped report) }
  | _ => none

def tokenizerFailed (cluster : Cluster) (id : Nat) (err : PyException) : Option Cluster :=
  match cluster.generations id with
  | .idle =>
      (cluster.http.tokenizerFailed id err).map fun http => { cluster with http := http }
  | _ => none

/-- The first step of a generator waits for the lock of its runner. -/
def acquire (cluster : Cluster) (id : Nat) : Option Cluster :=
  match cluster.http.requests id, cluster.generations id with
  | some request, .idle =>
      match request.phase with
      | .generating session =>
          match cluster.locks session.loader with
          | none =>
              some { cluster with
                generations := Function.update cluster.generations id
                  (.active session 0 ⟨id, 0⟩)
                locks := Function.update cluster.locks session.loader (some id) }
          | some _ => none
      | _ => none
  | _, _ => none

/-- A generation leaves its `with` block. -/
def release (cluster : Cluster) (id : Nat) (session : InferenceSession)
    (http : HttpState) : Cluster :=
  { cluster with
    http := http
    generations := Function.update cluster.generations id .ended
    locks := Function.update cluster.locks session.loader none }

def RequestKind.maxNewTokens : RequestKind → Int
  | .infer _ maxNewTokens => maxNewTokens
  | .load | .redistribute => 0

/-- The runner of a session. -/
def runner (setup : ClusterSetup) (session : InferenceSession) : PipelineRunner :=
  ⟨session.plan, setup.callbackAddress, setup.callbackAddress_ne⟩

/-- One iteration of the loop of `generate_stream`, or its end. -/
def generate (setup : ClusterSetup) (cluster : Cluster) (id fuel : Nat)
    (env : StepEnv (List TensorTag)) : Option Cluster :=
  match cluster.http.requests id, cluster.generations id with
  | some request, .active session step nextInput =>
      if step < (RequestKind.maxNewTokens request.kind).toNat then
        ((runner setup session).runShardStep fuel env nextInput (step = 0)
          ⟨cluster.network, cluster.resultStore⟩).bind fun (backend, result) =>
            let cluster := { cluster with
              network := backend.network
              resultStore := backend.resultStore }
            match PipelineRunner.generationStep tracedOps result with
            | .ok yielded =>
                some { cluster with
                  generations := Function.update cluster.generations id
                    (.active session (step + 1) yielded.tokenId) }
            | .error err =>
                (cluster.http.endGeneration id (.error err)).map fun http =>
                  cluster.release id session http
      else
        (cluster.http.endGeneration id (.ok ())).map fun http =>
          cluster.release id session http
  | _, _ => none

/-- The consumer of a stream leaves between two tokens: its client has gone, or
decoding a token has raised. -/
def closeStream (cluster : Cluster) (id : Nat) (cause : Option PyException) :
    Option Cluster :=
  match cluster.generations id with
  | .active session _ _ =>
      (cluster.http.disconnect id).bind fun disconnected =>
        match cause with
        | none => some (cluster.release id session disconnected)
        | some err =>
            (cluster.http.endGeneration id (.error err)).map fun http =>
              cluster.release id session http
  | _ => none

end Cluster

namespace ClusterSetup

def initial (setup : ClusterSetup) : Cluster where
  http := .create setup.registry
  loads := fun _ => ⟨none, none⟩
  shardStore := .create
  jobs := fun _ => .absent
  network := fun address => .create (setup.nodeIdAt address)
  resultStore := .create
  generations := fun _ => .idle
  locks := fun _ => none

def step (setup : ClusterSetup) (cluster : Cluster) : ClusterLabel → Option Cluster
  | .request label =>
      (cluster.http.requestStep label).map fun http => { cluster with http := http }
  | .unload id reached => cluster.unload id reached
  | .prepare loader metadata => cluster.prepare loader metadata
  | .createSlot loader => cluster.createSlot loader
  | .dispatch loader fate => cluster.dispatch setup loader fate
  | .startWait loader index => cluster.startWait loader index
  | .wake loader index => cluster.wake loader index
  | .collect loader index => cluster.collect loader index
  | .shutdown loader => cluster.shutdown loader
  | .conclude loader tokenizer => cluster.conclude loader tokenizer
  | .finishLoad loader => cluster.finishLoad loader
  | .finishJob ticket built => cluster.finishJob ticket built
  | .report ticket arrives => cluster.report ticket arrives
  | .tokenizerFailed id err => cluster.tokenizerFailed id err
  | .acquire id => cluster.acquire id
  | .generate id fuel env => cluster.generate setup id fuel env
  | .closeStream id cause => cluster.closeStream id cause

/-- All interleavings, from a cluster in which nothing has been loaded. -/
def system (setup : ClusterSetup) : TransitionSystem Cluster ClusterLabel where
  init cluster := cluster = setup.initial
  step := setup.step

/-- The `LoadShard` request of an assignment. -/
def loadRequest (setup : ClusterSetup) (plan : DispatchPlan) (assignment : ShardAssignment)
    (tensorLocations : List TensorLocationSpec) (configJson : String) : LoadShardRequest :=
  LoadRun.loadShardRequest plan assignment tensorLocations configJson setup.callbackAddress

/-- What one step can do. -/
inductive Move (setup : ClusterSetup) (cluster : Cluster) : ClusterLabel → Cluster → Prop where
  | request {label : RequestLabel} {http : HttpState}
      (hhttp : cluster.http.step (.request label) = some http) :
      Move setup cluster (.request label) { cluster with http := http }
  | unloadFailed {id : Nat} {http : HttpState}
      (hhttp : cluster.http.step (.unload id) = some http) :
      Move setup cluster (.unload id false) { cluster with http := http }
  | unloaded {id : Nat} {call : UnloadCall} {http : HttpState}
      (hnext : cluster.http.nextUnload id = some (call, http))
      (hhttp : cluster.http.step (.unload id) = some http) :
      Move setup cluster (.unload id true)
        { cluster with
          http := http
          network := Function.update cluster.network call.address
            ((cluster.network call.address).unloadShard call.modelName).1 }
  | prepared {loader : Nat} {thread : LoaderThread}
      (hthread : cluster.http.loaders loader = some thread)
      (hload : cluster.loads loader = ⟨none, none⟩) :
      Move setup cluster (.prepare loader (.ok ()))
        (cluster.setRun loader (.start thread.plan))
  | prepareFailed {loader : Nat} {err : PyException} {thread : LoaderThread}
      (hthread : cluster.http.loaders loader = some thread)
      (hload : cluster.loads loader = ⟨none, none⟩) :
      Move setup cluster (.prepare loader (.error err))
        { cluster with
          loads := Function.update cluster.loads loader ⟨none, some (.error err)⟩ }
  | slotCreated {loader : Nat} {run next : LoadRun Ticket}
      {store : ResultStore (MarkedReport Ticket)}
      (hopen : cluster.loads loader = ⟨some run, none⟩)
      (hcreate : run.createSlot cluster.shardStore = some (next, store)) :
      Move setup cluster (.createSlot loader)
        { cluster.setRun loader next with shardStore := store }
  | dispatchFailed {loader : Nat} {err : PyException} {run next : LoadRun Ticket}
      (hopen : cluster.loads loader = ⟨some run, none⟩)
      (hdispatched : run.dispatched (.error err) = some next) :
      Move setup cluster (.dispatch loader (.failed err)) (cluster.setRun loader next)
  | dispatched {loader index : Nat} {assignment : ShardAssignment}
      {tensorLocations : List TensorLocationSpec} {configJson : String}
      {replyLost : Option PyException} {run next : LoadRun Ticket}
      {servicer : InferenceServicer TracedShard (List TensorTag)}
      {response : LoadShardResponse} {thread : Option LoadThread}
      {reply : Except PyException LoadShardResponse}
      (hopen : cluster.loads loader = ⟨some run, none⟩)
      (hphase : run.phase = .dispatching index)
      (hget : run.plan.assignments[index]? = some assignment)
      (hload : (cluster.network assignment.address).loadShard
        (setup.loadRequest run.plan assignment tensorLocations configJson) =
          (servicer, response, thread))
      (hreply : reply = .ok response ∨ ∃ err, reply = .error err)
      (hdispatched : run.dispatched reply = some next) :
      Move setup cluster
        (.dispatch loader (.handled tensorLocations configJson replyLost))
        { cluster.setRun loader next with
          network := Function.update cluster.network assignment.address servicer
          jobs := Cluster.startJob cluster.jobs ⟨loader, index⟩ assignment.address thread }
  | waitStarted {loader index : Nat} {run next : LoadRun Ticket}
      {outcome : Option (Except PyException Unit)}
      (hrun : cluster.loads loader = ⟨some run, outcome⟩)
      (hwait : run.startWait index cluster.shardStore = some next) :
      Move setup cluster (.startWait loader index)
        { cluster with
          loads := Function.update cluster.loads loader ⟨some next, outcome⟩ }
  | woken {loader index : Nat} {run next : LoadRun Ticket}
      {outcome : Option (Except PyException Unit)}
      {store : ResultStore (MarkedReport Ticket)}
      (hrun : cluster.loads loader = ⟨some run, outcome⟩)
      (hwake : run.wake index cluster.shardStore = some (next, store)) :
      Move setup cluster (.wake loader index)
        { cluster with
          loads := Function.update cluster.loads loader ⟨some next, outcome⟩
          shardStore := store }
  | collected {loader index : Nat} {run next : LoadRun Ticket}
      (hopen : cluster.loads loader = ⟨some run, none⟩)
      (hcollect : run.collect index = some next) :
      Move setup cluster (.collect loader index) (cluster.setRun loader next)
  | shutDown {loader : Nat} {run next : LoadRun Ticket}
      (hopen : cluster.loads loader = ⟨some run, none⟩)
      (hshutdown : run.shutdown = some next) :
      Move setup cluster (.shutdown loader) (cluster.setRun loader next)
  | concluded {loader : Nat} {tokenizer outcome : Except PyException Unit}
      {run : LoadRun Ticket} (hopen : cluster.loads loader = ⟨some run, none⟩)
      (houtcome : (run.phase = .returned ∧ outcome = tokenizer) ∨
        ∃ err, run.phase = .raised err ∧ outcome = .error err) :
      Move setup cluster (.conclude loader tokenizer)
        { cluster with
          loads := Function.update cluster.loads loader ⟨some run, some outcome⟩ }
  | finished {loader : Nat} {outcome : Except PyException Unit} {http : HttpState}
      (houtcome : (cluster.loads loader).outcome = some outcome)
      (hhttp : cluster.http.step (.finishLoad loader outcome) = some http) :
      Move setup cluster (.finishLoad loader) { cluster with http := http }
  | jobFinished {ticket : Ticket} {built : Except String (TracedShard × Nat)}
      {address : String} {request : LoadShardRequest}
      {servicer : InferenceServicer TracedShard (List TensorTag)}
      {report : ShardReadyRequest}
      (hjob : cluster.jobs ticket = .loading address request)
      (hfinish : (cluster.network address).finishLoad request built = (servicer, report)) :
      Move setup cluster (.finishJob ticket built)
        { cluster with
          network := Function.update cluster.network address servicer
          jobs := Function.update cluster.jobs ticket (.reporting report) }
  | reportDelivered {ticket : Ticket} {report : ShardReadyRequest}
      (hjob : cluster.jobs ticket = .reporting report) :
      Move setup cluster (.report ticket true)
        { cluster with
          shardStore := reportShardReady cluster.shardStore ticket report
          jobs := Function.update cluster.jobs ticket (.delivered report) }
  | reportDropped {ticket : Ticket} {report : ShardReadyRequest}
      (hjob : cluster.jobs ticket = .reporting report) :
      Move setup cluster (.report ticket false)
        { cluster with jobs := Function.update cluster.jobs ticket (.dropped report) }
  | tokenizerFailed {id : Nat} {err : PyException} {http : HttpState}
      (hhttp : cluster.http.step (.tokenizerFailed id err) = some http) :
      Move setup cluster (.tokenizerFailed id err) { cluster with http := http }
  | acquired {id : Nat} {request : HttpRequest} {session : InferenceSession}
      (hget : cluster.http.requests id = some request)
      (hphase : request.phase = .generating session)
      (hidle : cluster.generations id = .idle)
      (hlock : cluster.locks session.loader = none) :
      Move setup cluster (.acquire id)
        { cluster with
          generations := Function.update cluster.generations id (.active session 0 ⟨id, 0⟩)
          locks := Function.update cluster.locks session.loader (some id) }
  | generated {id fuel step : Nat} {env : StepEnv (List TensorTag)}
      {session : InferenceSession} {input : TensorTag}
      {backend : Backend TracedShard TensorTag (List TensorTag)}
      {result : Except PyException (Option (PipelineResult TensorTag))}
      {yielded : GenerationStep TensorTag}
      (hactive : cluster.generations id = .active session step input)
      (hstep : (Cluster.runner setup session).runShardStep fuel env input (step = 0)
        ⟨cluster.network, cluster.resultStore⟩ = some (backend, result))
      (hyield : PipelineRunner.generationStep tracedOps result = .ok yielded) :
      Move setup cluster (.generate id fuel env)
        { cluster with
          network := backend.network
          resultStore := backend.resultStore
          generations := Function.update cluster.generations id
            (.active session (step + 1) yielded.tokenId) }
  | generationFailed {id fuel step : Nat} {env : StepEnv (List TensorTag)}
      {session : InferenceSession} {input : TensorTag} {err : PyException}
      {backend : Backend TracedShard TensorTag (List TensorTag)}
      {result : Except PyException (Option (PipelineResult TensorTag))} {http : HttpState}
      (hactive : cluster.generations id = .active session step input)
      (hstep : (Cluster.runner setup session).runShardStep fuel env input (step = 0)
        ⟨cluster.network, cluster.resultStore⟩ = some (backend, result))
      (hhttp : cluster.http.step (.generated id (.error err)) = some http) :
      Move setup cluster (.generate id fuel env)
        (Cluster.release { cluster with
          network := backend.network
          resultStore := backend.resultStore } id session http)
  | released {label : ClusterLabel} {httpLabel : HttpLabel} {id step : Nat}
      {session : InferenceSession} {input : TensorTag} {http : HttpState}
      (hby : (∃ fuel env, label = .generate id fuel env) ∨ ∃ cause, label = .closeStream id cause)
      (hactive : cluster.generations id = .active session step input)
      (hlabel : httpLabel = .disconnect id ∨ ∃ outcome, httpLabel = .generated id outcome)
      (hhttp : cluster.http.step httpLabel = some http) :
      Move setup cluster label (cluster.release id session http)

variable {setup : ClusterSetup} {cluster next : Cluster}

theorem openRun_some {loader : Nat} {run : LoadRun Ticket}
    (hopen : cluster.openRun loader = some run) : cluster.loads loader = ⟨some run, none⟩ := by
  unfold Cluster.openRun at hopen
  split at hopen
  · next found hload => rw [hload, hopen]
  · cases hopen

theorem unload_move {id : Nat} {reached : Bool}
    (hstep : cluster.unload id reached = some next) :
    Move setup cluster (.unload id reached) next := by
  unfold Cluster.unload at hstep
  split at hstep
  · cases hstep
  · next call http hnext =>
      have hhttp : cluster.http.step (.unload id) = some http := by
        simp only [HttpState.step, hnext, Option.map_some]
      split at hstep
      · next hreached =>
          obtain rfl := Option.some.inj hstep
          subst hreached
          exact .unloaded hnext hhttp
      · next hreached =>
          obtain rfl := Option.some.inj hstep
          obtain rfl : reached = false := by simpa using hreached
          exact .unloadFailed hhttp

theorem prepare_move {loader : Nat} {metadata : Except PyException Unit}
    (hstep : cluster.prepare loader metadata = some next) :
    Move setup cluster (.prepare loader metadata) next := by
  unfold Cluster.prepare at hstep
  split at hstep
  · next thread hthread hload =>
      cases metadata with
      | ok _ =>
          obtain rfl := Option.some.inj hstep
          exact .prepared hthread hload
      | error err =>
          obtain rfl := Option.some.inj hstep
          exact .prepareFailed hthread hload
  · cases hstep

theorem dispatch_move {loader : Nat} {fate : DispatchFate}
    (hstep : cluster.dispatch setup loader fate = some next) :
    Move setup cluster (.dispatch loader fate) next := by
  obtain ⟨run, hopen, hstep⟩ := Option.bind_eq_some_iff.mp hstep
  have hload := openRun_some hopen
  split at hstep
  · next index hphase =>
      cases hget : run.plan.assignments[index]? with
      | none =>
          rw [hget] at hstep
          cases hstep
      | some assignment =>
          rw [hget] at hstep
          cases fate with
          | failed err =>
              obtain ⟨after, hdispatched, rfl⟩ := Option.map_eq_some_iff.mp hstep
              exact .dispatchFailed hload hdispatched
          | handled tensorLocations configJson replyLost =>
              obtain ⟨after, hdispatched, rfl⟩ := Option.map_eq_some_iff.mp hstep
              refine .dispatched hload hphase hget rfl ?_ hdispatched
              cases replyLost with
              | none => exact .inl rfl
              | some err => exact .inr ⟨err, rfl⟩
  · cases hstep

/-- The steps of a loader thread that only involve its call of `load` and the
slots. -/
theorem load_move {loader : Nat} (index : Nat) {label : ClusterLabel}
    (hstep : (label = .createSlot loader ∧ cluster.createSlot loader = some next) ∨
      (label = .startWait loader index ∧ cluster.startWait loader index = some next) ∨
      (label = .wake loader index ∧ cluster.wake loader index = some next) ∨
      (label = .collect loader index ∧ cluster.collect loader index = some next) ∨
      (label = .shutdown loader ∧ cluster.shutdown loader = some next)) :
    Move setup cluster label next := by
  rcases hstep with ⟨rfl, hstep⟩ | ⟨rfl, hstep⟩ | ⟨rfl, hstep⟩ | ⟨rfl, hstep⟩ | ⟨rfl, hstep⟩
  · obtain ⟨run, hopen, hstep⟩ := Option.bind_eq_some_iff.mp hstep
    obtain ⟨⟨after, store⟩, hcreate, rfl⟩ := Option.map_eq_some_iff.mp hstep
    exact .slotCreated (openRun_some hopen) hcreate
  · obtain ⟨run, hrun, hstep⟩ := Option.bind_eq_some_iff.mp hstep
    obtain ⟨after, hwait, rfl⟩ := Option.map_eq_some_iff.mp hstep
    have hload : cluster.loads loader = ⟨some run, (cluster.loads loader).outcome⟩ := by
      rw [← hrun]
    exact .waitStarted hload hwait
  · obtain ⟨run, hrun, hstep⟩ := Option.bind_eq_some_iff.mp hstep
    obtain ⟨⟨after, store⟩, hwake, rfl⟩ := Option.map_eq_some_iff.mp hstep
    have hload : cluster.loads loader = ⟨some run, (cluster.loads loader).outcome⟩ := by
      rw [← hrun]
    exact .woken hload hwake
  · obtain ⟨run, hopen, hstep⟩ := Option.bind_eq_some_iff.mp hstep
    obtain ⟨after, hcollect, rfl⟩ := Option.map_eq_some_iff.mp hstep
    exact .collected (openRun_some hopen) hcollect
  · obtain ⟨run, hopen, hstep⟩ := Option.bind_eq_some_iff.mp hstep
    obtain ⟨after, hshutdown, rfl⟩ := Option.map_eq_some_iff.mp hstep
    exact .shutDown (openRun_some hopen) hshutdown

theorem conclude_move {loader : Nat} {tokenizer : Except PyException Unit}
    (hstep : cluster.conclude loader tokenizer = some next) :
    Move setup cluster (.conclude loader tokenizer) next := by
  obtain ⟨run, hopen, hstep⟩ := Option.bind_eq_some_iff.mp hstep
  have hload := openRun_some hopen
  dsimp only at hstep
  split at hstep
  · next hreturned =>
      obtain rfl := Option.some.inj hstep
      exact .concluded hload (.inl ⟨hreturned, rfl⟩)
  · next err hraised =>
      obtain rfl := Option.some.inj hstep
      exact .concluded hload (.inr ⟨err, hraised, rfl⟩)
  · cases hstep

theorem report_move {ticket : Ticket} {arrives : Bool}
    (hstep : cluster.report ticket arrives = some next) :
    Move setup cluster (.report ticket arrives) next := by
  unfold Cluster.report at hstep
  split at hstep
  · next report hjob =>
      cases arrives with
      | true =>
          obtain rfl := Option.some.inj hstep
          exact .reportDelivered hjob
      | false =>
          obtain rfl := Option.some.inj hstep
          exact .reportDropped hjob
  · cases hstep

theorem acquire_move {id : Nat} (hstep : cluster.acquire id = some next) :
    Move setup cluster (.acquire id) next := by
  unfold Cluster.acquire at hstep
  split at hstep
  · next request hget hidle =>
      split at hstep
      · next session hphase =>
          split at hstep
          · next hlock =>
              obtain rfl := Option.some.inj hstep
              exact .acquired hget hphase hidle hlock
          · cases hstep
      · cases hstep
  · cases hstep

theorem generate_move {id fuel : Nat} {env : StepEnv (List TensorTag)}
    (hstep : cluster.generate setup id fuel env = some next) :
    Move setup cluster (.generate id fuel env) next := by
  unfold Cluster.generate at hstep
  split at hstep
  · next request session step input hget hactive =>
      split at hstep
      · obtain ⟨⟨backend, result⟩, hrun, hstep⟩ := Option.bind_eq_some_iff.mp hstep
        dsimp only at hstep
        split at hstep
        · next yielded hyield =>
            obtain rfl := Option.some.inj hstep
            exact .generated hactive hrun hyield
        · next err _ =>
            obtain ⟨http, hhttp, rfl⟩ := Option.map_eq_some_iff.mp hstep
            exact .generationFailed hactive hrun hhttp
      · obtain ⟨http, hhttp, rfl⟩ := Option.map_eq_some_iff.mp hstep
        have hended : cluster.http.step (.generated id (.ok ())) = some http := hhttp
        exact .released (.inl ⟨_, _, rfl⟩) hactive (.inr ⟨_, rfl⟩) hended
  · cases hstep

theorem closeStream_move {id : Nat} {cause : Option PyException}
    (hstep : cluster.closeStream id cause = some next) :
    Move setup cluster (.closeStream id cause) next := by
  unfold Cluster.closeStream at hstep
  split at hstep
  · next session step input hactive =>
      obtain ⟨disconnected, hdisconnect, hstep⟩ := Option.bind_eq_some_iff.mp hstep
      cases cause with
      | none =>
          obtain rfl := Option.some.inj hstep
          have hhttp : cluster.http.step (.disconnect id) = some disconnected := hdisconnect
          exact .released (.inr ⟨_, rfl⟩) hactive (.inl rfl) hhttp
      | some err =>
          obtain ⟨http, hended, rfl⟩ := Option.map_eq_some_iff.mp hstep
          have hhttp : cluster.http.step (.generated id (.error err)) = some http := hended
          exact .released (.inr ⟨_, rfl⟩) hactive (.inr ⟨_, rfl⟩) hhttp
  · cases hstep

/-- Every step is one of these moves. -/
theorem step_move {label : ClusterLabel} (hstep : setup.step cluster label = some next) :
    Move setup cluster label next := by
  cases label with
  | request label =>
      obtain ⟨http, hhttp, rfl⟩ := Option.map_eq_some_iff.mp hstep
      exact .request hhttp
  | unload id reached => exact unload_move hstep
  | prepare loader metadata => exact prepare_move hstep
  | createSlot loader => exact load_move 0 (.inl ⟨rfl, hstep⟩)
  | dispatch loader fate => exact dispatch_move hstep
  | startWait loader index => exact load_move index (.inr (.inl ⟨rfl, hstep⟩))
  | wake loader index => exact load_move index (.inr (.inr (.inl ⟨rfl, hstep⟩)))
  | collect loader index => exact load_move index (.inr (.inr (.inr (.inl ⟨rfl, hstep⟩))))
  | shutdown loader => exact load_move 0 (.inr (.inr (.inr (.inr ⟨rfl, hstep⟩))))
  | conclude loader tokenizer => exact conclude_move hstep
  | finishLoad loader =>
      obtain ⟨outcome, houtcome, hstep⟩ := Option.bind_eq_some_iff.mp hstep
      obtain ⟨http, hhttp, rfl⟩ := Option.map_eq_some_iff.mp hstep
      exact .finished houtcome hhttp
  | finishJob ticket built =>
      simp only [step, Cluster.finishJob] at hstep
      split at hstep
      · next address request hjob =>
          obtain rfl := Option.some.inj hstep
          exact .jobFinished hjob rfl
      · cases hstep
  | report ticket arrives => exact report_move hstep
  | tokenizerFailed id err =>
      simp only [step, Cluster.tokenizerFailed] at hstep
      split at hstep
      · obtain ⟨http, hhttp, rfl⟩ := Option.map_eq_some_iff.mp hstep
        exact .tokenizerFailed hhttp
      · cases hstep
  | acquire id => exact acquire_move hstep
  | generate id fuel env => exact generate_move hstep
  | closeStream id cause => exact closeStream_move hstep

end ClusterSetup

end PiSSM.Orchestrator
