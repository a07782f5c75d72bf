import PiSSM.Orchestrator.InferenceHandlers
import PiSSM.Pipeline.DeployedGeneration

/-!
The orchestrator with its workers as one client sees it who waits for the end of every
request, and of the load it has started, before the next one. The routes and what they call
are run without interruption; a load goes on together with its workers in any order of their
steps, and every `UnloadShard` arrives.
-/

namespace PiSSM.Pipeline

open PiSSM.Lib PiSSM.Inference PiSSM.Orchestrator

/-- What `AutoTokenizer.from_pretrained` gives. -/
structure Tokenizer (H : Type) where
  tokenize : String → Except PyException (List H)
  tokenId : H → Nat
  decode : List Nat → Except PyException String

/-- What the orchestrator and its workers are given from outside. -/
structure Surroundings (γ ω H S : Type) where
  hub : ModelHub ω
  library : MambaLibrary γ ω (List H) S
  autoConfig : String → Except PyException String
  autoTokenizer : String → Except PyException (Tokenizer H)
  argmax : H → H
  callbackAddress : String
  callbackAddress_ne : callbackAddress ≠ ""
  floatText : ℚ → PyFloat

/-- `loaders` counts the loads that have been started. -/
structure Service (H S : Type) where
  registry : NodeRegistry
  modelRegistry : ModelRegistry
  modelStates : Dict String ModelState
  shardStore : ResultStore (MarkedReport Nat)
  resultStore : ResultStore (PipelineResult (List H))
  network : Network (MambaShardModule (List H) S) (Cache S)
  loaders : Nat

/-- How the steps of a generation go and how long it takes. -/
structure GenerationEnv (S : Type) where
  fuel : Nat
  steps : Nat → StepEnv (Cache S)
  latencyMs : PyFloat

/-- `expired` decides whether a client that has to wait for a load waits too long. -/
inductive ServiceRequest (S : Type) where
  | heartbeat (now : ℚ) (request : HeartbeatRequest)
  | reap (now : ℚ)
  | submit (manifest : ModelManifest)
  | nodes
  | models
  | load (name : String)
  | redistribute (name : String)
  | status (name : String)
  | topology
  | infer (stream : Bool) (submission : InferSubmission) (expired : Bool)
      (env : GenerationEnv S)

/-- The model that a request names. -/
def ServiceRequest.modelName? {S : Type} : ServiceRequest S → Option String
  | .load name | .redistribute name | .status name => some name
  | .infer _ submission _ _ => some submission.modelName
  | .heartbeat _ _ | .reap _ | .submit _ | .nodes | .models | .topology => none

/-- One entry of the assignments of `GET /topology`. -/
structure TopologyAssignment where
  nodeId : String
  ipAddress : String
  layerStart : Nat
  layerEnd : Nat
  isFirst : Bool
  isLast : Bool
  deriving DecidableEq

inductive ServiceReply where
  | acknowledged
  | created (manifest : ModelManifest)
  | nodes (nodes : List NodeInfo)
  | models (models : List ModelManifest)
  | http (response : HttpResponse)
  | notLoaded
  | topology (modelName : Option String) (assignments : List TopologyAssignment)
  | json (value : JsonValue)
  | lines (body : StreamBody)

/-- The `HTTPException` of every route for a model that is not registered. -/
def modelNotFound (name : String) : ServiceReply :=
  .http (.httpException 404 s!"Model '{name}' not found")

def topologyAssignment (a : ShardAssignment) : TopologyAssignment where
  nodeId := a.nodeId
  ipAddress := a.ipAddress
  layerStart := a.layerStart
  layerEnd := a.layerEnd
  isFirst := a.isFirst
  isLast := a.isLast

/-- The plans that are being loaded or resident, in the order of the table. -/
def activePlans (states : Dict String ModelState) : List (String × DispatchPlan) :=
  states.items.filterMap fun entry =>
    if entry.2.isActive then entry.2.plan.map fun plan => (entry.1, plan) else none

def getTopology (states : Dict String ModelState) : ServiceReply :=
  match (activePlans states).head? with
  | none => .topology none []
  | some (name, plan) => .topology (some name) (plan.assignments.map topologyAssignment)

def getModelStatus (states : Dict String ModelState) (name : String) : ServiceReply :=
  match states.get? name with
  | none => .notLoaded
  | some entry => .http (stateResponse entry)

/-- The response of a route that ends with `_ensure_loading_started`. -/
def ensureResponse : Except PyException ModelState → HttpResponse
  | .ok entry => stateResponse entry
  | .error err => .serverError err

section Workers

variable {μ κ : Type*}

/-- The workers after some `UnloadShard` calls. -/
def unloadShards (network : Network μ κ) (calls : List UnloadCall) : Network μ κ :=
  calls.foldl (fun network call =>
    Function.update network call.address
      ((network call.address).unloadShard call.modelName).1) network

theorem unloadShards_cons (network : Network μ κ) (call : UnloadCall)
    (calls : List UnloadCall) :
    unloadShards network (call :: calls) =
      unloadShards (Function.update network call.address
        ((network call.address).unloadShard call.modelName).1) calls := rfl

theorem unloadShards_nodeId (network : Network μ κ) (calls : List UnloadCall)
    (address : String) : (unloadShards network calls address).nodeId =
      (network address).nodeId := by
  induction calls generalizing network with
  | nil => rfl
  | cons call calls ih =>
      rw [unloadShards_cons, ih]
      by_cases haddress : address = call.address
      · rw [haddress, Function.update_self]
        unfold InferenceServicer.unloadShard
        split <;> rfl
      · rw [Function.update_of_ne haddress]

theorem unloadShards_loading (network : Network μ κ) (calls : List UnloadCall)
    (address : String) : (unloadShards network calls address).loading =
      (network address).loading := by
  induction calls generalizing network with
  | nil => rfl
  | cons call calls ih =>
      rw [unloadShards_cons, ih]
      by_cases haddress : address = call.address
      · rw [haddress, Function.update_self, InferenceServicer.unloadShard_loading]
      · rw [Function.update_of_ne haddress]

/-- A worker has lost what it was asked to unload and nothing else. -/
theorem unloadShards_get? (network : Network μ κ) (calls : List UnloadCall)
    (address modelName : String) : (unloadShards network calls address).models.get? modelName =
      if ⟨modelName, address⟩ ∈ calls then none else (network address).models.get? modelName := by
  induction calls generalizing network with
  | nil => rfl
  | cons call calls ih =>
      rw [unloadShards_cons, ih]
      by_cases hrest : (⟨modelName, address⟩ : UnloadCall) ∈ calls
      · rw [if_pos hrest, if_pos (List.mem_cons_of_mem _ hrest)]
      · rw [if_neg hrest]
        by_cases haddress : address = call.address
        · rw [haddress, Function.update_self, InferenceServicer.unloadShard_get?]
          by_cases hname : modelName = call.modelName
          · subst haddress hname
            rw [if_pos rfl, if_pos List.mem_cons_self]
          · rw [if_neg hname, if_neg]
            intro hmem
            rcases List.mem_cons.mp hmem with hhead | htail
            · exact hname (congrArg UnloadCall.modelName hhead)
            · exact hrest (haddress ▸ htail)
        · rw [Function.update_of_ne haddress, if_neg]
          intro hmem
          rcases List.mem_cons.mp hmem with hhead | htail
          · exact haddress (congrArg UnloadCall.address hhead)
          · exact hrest htail

variable {τ : Type*} [ShardModel μ τ κ]

section Handlers

variable {backend backend' : Backend μ τ κ} {session : ResidentSession τ}
  {floatText : ℚ → PyFloat} {env : HandlerEnv κ}

theorem streamTurns_sameCluster {remaining step : Nat} {nextInput : τ} {body ended : StreamBody}
    (hturns : session.streamTurns floatText env remaining step nextInput backend body =
      some (backend', ended)) : SameCluster backend.network backend'.network := by
  induction remaining generalizing step nextInput backend body with
  | zero =>
      obtain ⟨closing, _, hended⟩ := Option.bind_eq_some_iff.mp hturns
      obtain ⟨_, _, hresult⟩ := Option.map_eq_some_iff.mp hended
      obtain ⟨rfl, _⟩ := Prod.mk.inj hresult
      exact .refl _
  | succ remaining ih =>
      rw [ResidentSession.streamTurns] at hturns
      split at hturns
      · cases hturns
      · next middle result hstep =>
          have hfirst := runShardStep_sameCluster hstep
          split at hturns
          · obtain ⟨_, _, hresult⟩ := Option.map_eq_some_iff.mp hturns
            obtain ⟨rfl, _⟩ := Prod.mk.inj hresult
            exact hfirst
          · obtain ⟨advanced, _, hrest⟩ := Option.bind_eq_some_iff.mp hturns
            split at hrest
            · exact hfirst.trans (ih hrest)
            · obtain ⟨rfl, _⟩ := Prod.mk.inj (Option.some.inj hrest)
              exact hfirst

/-- Whatever goes wrong in it, a buffered inference changes nothing of the workers but
caches. -/
theorem runInference_sameCluster {submission : InferSubmission}
    {outcome : Except PyException JsonValue}
    (hrun : session.runInference floatText env submission backend = some (backend', outcome)) :
    SameCluster backend.network backend'.network := by
  unfold ResidentSession.runInference at hrun
  split at hrun
  · obtain ⟨rfl, _⟩ := Prod.mk.inj (Option.some.inj hrun)
    exact .refl _
  · obtain ⟨⟨middle, generated⟩, hgenerate, hresult⟩ := Option.map_eq_some_iff.mp hrun
    obtain ⟨⟨final, steps, err⟩, hstream, hended⟩ := Option.map_eq_some_iff.mp hgenerate
    have hsame := streamLoop_sameCluster hstream
    cases err with
    | none =>
        obtain ⟨rfl, rfl⟩ := Prod.mk.inj hended
        obtain ⟨rfl, _⟩ := Prod.mk.inj hresult
        exact hsame
    | some err =>
        obtain ⟨rfl, rfl⟩ := Prod.mk.inj hended
        obtain ⟨rfl, _⟩ := Prod.mk.inj hresult
        exact hsame

theorem runInferenceStream_sameCluster {submission : InferSubmission} {body : StreamBody}
    (hrun : session.runInferenceStream floatText env submission backend =
      some (backend', body)) : SameCluster backend.network backend'.network := by
  unfold ResidentSession.runInferenceStream at hrun
  split at hrun
  · obtain ⟨rfl, _⟩ := Prod.mk.inj (Option.some.inj hrun)
    exact .refl _
  · exact streamTurns_sameCluster hrun

end Handlers

end Workers

namespace Service

variable {H S : Type}

/-- The orchestrator and its workers when they have been started. -/
def create (floats : FloatArithmetic) (heartbeatIntervalS : ℚ) (missedThreshold : Nat)
    (nodeIdAt : String → String) : Service H S where
  registry := NodeRegistry.create floats heartbeatIntervalS missedThreshold
  modelRegistry := ModelRegistry.create
  modelStates := Dict.empty
  shardStore := ResultStore.create
  resultStore := ResultStore.create
  network address := InferenceServicer.create (nodeIdAt address)
  loaders := 0

variable (service : Service H S)

def backend : Backend (MambaShardModule (List H) S) (List H) (Cache S) :=
  ⟨service.network, service.resultStore⟩

def setBackend (backend : Backend (MambaShardModule (List H) S) (List H) (Cache S)) :
    Service H S :=
  { service with network := backend.network, resultStore := backend.resultStore }

def setState (name : String) (entry : ModelState) : Service H S :=
  { service with modelStates := service.modelStates.set name entry }

/-- The eviction in `_ensure_loading_started`, with its calls. -/
def evict : Service H S :=
  let calls := (loadedModels service.modelStates).flatMap fun entry => unloadCalls entry.2
  { service with
    modelStates := evictLoaded service.modelStates
    network := unloadShards service.network calls }

/-- `_ensure_loading_started` up to the start of its thread: the state it returns, and the
plan when there is a thread to run. -/
def ensureLoadingStarted (manifest : ModelManifest) :
    Service H S × Except PyException (ModelState × Option DispatchPlan) :=
  match (service.modelStates.get? manifest.name).filter ModelState.isActive with
  | some entry => (service, .ok (entry, none))
  | none =>
      let evicted := service.evict
      match planDispatch manifest evicted.registry with
      | .error (.dispatchError message) =>
          let entry : ModelState := ⟨.error, none, none, some message⟩
          (evicted.setState manifest.name entry, .ok (entry, none))
      | .error err => (evicted, .error err)
      | .ok plan =>
          let entry : ModelState := ⟨.loading, some plan, none, none⟩
          (evicted.setState manifest.name entry, .ok (entry, some plan))

/-- The locked section of `redistribute_model` and the calls that free the old session. -/
def takeDown (name : String) : Except HttpResponse (Service H S) :=
  match service.modelStates.get? name with
  | none => .error (.httpException 400
      s!"Model '{name}' has not been loaded yet - nothing to redistribute")
  | some entry =>
      if entry.status = .loading then
        .error (.httpException 409 s!"Model '{name}' is still loading")
      else
        .ok { service with
          modelStates := service.modelStates.erase name
          network := unloadShards service.network (unloadCalls entry.session) }

/-- The last locked section of `_load`. -/
def finishLoad (name : String) (plan : DispatchPlan) (outcome : Except PyException Unit) :
    Service H S :=
  { service.setState name (HttpState.loadOutcome service.loaders plan outcome) with
    loaders := service.loaders + 1 }

end Service

namespace Surroundings

variable {γ ω H S : Type} (around : Surroundings γ ω H S)

/-- The load of a plan, as its thread finds the service. -/
structure Starts (service : Service H S) (manifest : ModelManifest) (plan : DispatchPlan)
    (store : ModelStore) (setup : DeploymentSetup (MambaShardModule (List H) S) (Cache S)) :
    Prop where
  manifest : setup.manifest = manifest
  registry : setup.registry = service.registry
  plan : setup.plan = plan
  modelStore : setup.modelStore = store
  callbackAddress : setup.callbackAddress = around.callbackAddress
  build : setup.build = buildShard around.hub around.library
  resultStore : setup.resultStore = service.shardStore
  network : setup.network = service.network

/-- `_build_session` run to its end: the service it leaves and how it ends. -/
inductive BuildSession (service : Service H S) (manifest : ModelManifest)
    (plan : DispatchPlan) : Service H S → Except PyException Unit → Prop where
  | unreadable {store : ModelStore} {err : PyException}
      (hread : ModelStore.create.load around.hub around.autoConfig manifest =
        (store, .error err)) :
      BuildSession service manifest plan service (.error err)
  | raised {store : ModelStore}
      {setup : DeploymentSetup (MambaShardModule (List H) S) (Cache S)}
      {final : Deployment (MambaShardModule (List H) S) (Cache S)} {err : PyException}
      (hread : ModelStore.create.load around.hub around.autoConfig manifest = (store, .ok ()))
      (hstarts : around.Starts service manifest plan store setup)
      (hrun : setup.system.ReachableVia (fun _ => DeploymentSetup.Own) final)
      (hstuck : ∀ label, DeploymentSetup.Own label → setup.step final label = none)
      (hphase : final.run.phase = .raised err) :
      BuildSession service manifest plan
        { service with network := final.network, shardStore := final.store } (.error err)
  | returned {store : ModelStore}
      {setup : DeploymentSetup (MambaShardModule (List H) S) (Cache S)}
      {final : Deployment (MambaShardModule (List H) S) (Cache S)}
      (hread : ModelStore.create.load around.hub around.autoConfig manifest = (store, .ok ()))
      (hstarts : around.Starts service manifest plan store setup)
      (hrun : setup.system.ReachableVia (fun _ => DeploymentSetup.Own) final)
      (hstuck : ∀ label, DeploymentSetup.Own label → setup.step final label = none)
      (hphase : final.run.phase = .returned) :
      BuildSession service manifest plan
        { service with network := final.network, shardStore := final.store }
        ((around.autoTokenizer manifest.tokenizer).map fun _ => ())

/-- `_ensure_loading_started`, with the thread it has started run to its end. -/
inductive Ensures (service : Service H S) (manifest : ModelManifest) :
    Service H S → Except PyException ModelState → Prop where
  | settled {next : Service H S} {entry : ModelState}
      (hensure : service.ensureLoadingStarted manifest = (next, .ok (entry, none))) :
      Ensures service manifest next (.ok entry)
  | raised {next : Service H S} {err : PyException}
      (hensure : service.ensureLoadingStarted manifest = (next, .error err)) :
      Ensures service manifest next (.error err)
  | started {middle built : Service H S} {entry : ModelState} {plan : DispatchPlan}
      {outcome : Except PyException Unit}
      (hensure : service.ensureLoadingStarted manifest = (middle, .ok (entry, some plan)))
      (hbuild : around.BuildSession middle manifest plan built outcome) :
      Ensures service manifest (built.finishLoad manifest.name plan outcome) (.ok entry)

/-- The resident pipeline of a session. -/
def residentSession (plan : DispatchPlan) (tokenizer : Tokenizer H) :
    ResidentSession (List H) where
  runner := ⟨plan, around.callbackAddress, around.callbackAddress_ne⟩
  ops := sequenceOps around.argmax
  tokenize := tokenizer.tokenize
  row ids := ids.map tokenizer.tokenId
  decode := tokenizer.decode

/-- The handlers of `infer` from `_get_ready_session` on. A session has the tokenizer that
its manifest names. -/
def runInference (service : Service H S) (manifest : ModelManifest) (stream : Bool)
    (submission : InferSubmission) (env : GenerationEnv S) :
    Option (ServiceReply × Service H S) :=
  let entry := service.modelStates.get? manifest.name
  match pollResult manifest.name entry false with
  | .responded response => some (.http response, service)
  | .generating session =>
      match around.autoTokenizer manifest.tokenizer with
      | .error _ => none
      | .ok tokenizer =>
          let resident := around.residentSession session.plan tokenizer
          let handler : HandlerEnv (Cache S) :=
            ⟨env.fuel, env.steps, env.latencyMs, countNodes manifest.name entry⟩
          if stream then
            (resident.runInferenceStream around.floatText handler submission
              service.backend).map fun (backend, body) =>
                (.lines body, service.setBackend backend)
          else
            (resident.runInference around.floatText handler submission service.backend).map
              fun (backend, outcome) =>
                match outcome with
                | .ok value => (.json value, service.setBackend backend)
                | .error err => (.http (.serverError err), service.setBackend backend)
  | _ => none

/-- A request, its reply and the service after it. -/
inductive Serves (service : Service H S) :
    ServiceRequest S → ServiceReply → Service H S → Prop where
  | heartbeat (now : ℚ) (request : HeartbeatRequest) :
      Serves service (.heartbeat now request) .acknowledged
        { service with registry := service.registry.updateNode now request }
  | reap (now : ℚ) :
      Serves service (.reap now) .acknowledged
        { service with registry := (service.registry.reapStaleNodes now).1 }
  | submitted {manifest : ModelManifest} {registered : ModelRegistry}
      (hregister : service.modelRegistry.register manifest = .ok registered) :
      Serves service (.submit manifest) (.created manifest)
        { service with modelRegistry := registered }
  | duplicate {manifest : ModelManifest} {message : String}
      (hregister : service.modelRegistry.register manifest = .error (.valueError message)) :
      Serves service (.submit manifest) (.http (.httpException 409 message)) service
  | nodes : Serves service .nodes (.nodes (service.registry.listNodes none)) service
  | models : Serves service .models (.models service.modelRegistry.listModels) service
  | unknown {request : ServiceRequest S} {name : String} (hname : request.modelName? = some name)
      (hget : service.modelRegistry.get name = none) :
      Serves service request (modelNotFound name) service
  | status {name : String} {manifest : ModelManifest}
      (hget : service.modelRegistry.get name = some manifest) :
      Serves service (.status name) (getModelStatus service.modelStates name) service
  | topology : Serves service .topology (getTopology service.modelStates) service
  | load {name : String} {manifest : ModelManifest} {next : Service H S}
      {outcome : Except PyException ModelState}
      (hget : service.modelRegistry.get name = some manifest)
      (hensure : around.Ensures service manifest next outcome) :
      Serves service (.load name) (.http (ensureResponse outcome)) next
  | refused {name : String} {manifest : ModelManifest} {response : HttpResponse}
      (hget : service.modelRegistry.get name = some manifest)
      (hrefused : service.takeDown name = .error response) :
      Serves service (.redistribute name) (.http response) service
  | redistribute {name : String} {manifest : ModelManifest} {down next : Service H S}
      {outcome : Except PyException ModelState}
      (hget : service.modelRegistry.get name = some manifest)
      (hdown : service.takeDown name = .ok down)
      (hensure : around.Ensures down manifest next outcome) :
      Serves service (.redistribute name) (.http (ensureResponse outcome)) next
  | inferRaised {stream : Bool} {submission : InferSubmission} {expired : Bool}
      {env : GenerationEnv S} {manifest : ModelManifest} {next : Service H S} {err : PyException}
      (hget : service.modelRegistry.get submission.modelName = some manifest)
      (hensure : around.Ensures service manifest next (.error err)) :
      Serves service (.infer stream submission expired env) (.http (.serverError err)) next
  | timedOut {stream : Bool} {submission : InferSubmission} {env : GenerationEnv S}
      {manifest : ModelManifest} {next : Service H S} {entry : ModelState}
      (hget : service.modelRegistry.get submission.modelName = some manifest)
      (hensure : around.Ensures service manifest next (.ok entry))
      (hloading : entry.status = .loading) :
      Serves service (.infer stream submission true env)
        (.http (.httpException 504
          s!"Timed out waiting for model '{submission.modelName}' to load")) next
  | infer {stream : Bool} {submission : InferSubmission} {expired : Bool}
      {env : GenerationEnv S} {manifest : ModelManifest} {ensured next : Service H S}
      {entry : ModelState} {reply : ServiceReply}
      (hget : service.modelRegistry.get submission.modelName = some manifest)
      (hensure : around.Ensures service manifest ensured (.ok entry))
      (hready : expired = true → entry.status ≠ .loading)
      (hrun : around.runInference ensured manifest stream submission env = some (reply, next)) :
      Serves service (.infer stream submission expired env) reply next

end Surroundings

end PiSSM.Pipeline
