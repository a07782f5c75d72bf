import PiSSM.Lib.TransitionSystem
import PiSSM.Inference.Manifest
import PiSSM.Orchestrator.Dispatch

/-!
The HTTP API of the orchestrator: the table of model states, the requests that
read and change it in separate locked sections, and the loader threads they
start. One step is one section under the lock, one `UnloadShard` call or one
computation between two sections. How the loads and the generations go is left
to the environment here.
-/

namespace PiSSM.Orchestrator

open PiSSM.Lib PiSSM.Inference

/-- A resident pipeline. Its runner is named by the loader thread that built
it. -/
structure InferenceSession where
  loader : Nat
  plan : DispatchPlan
  deriving DecidableEq

inductive ModelStatus where
  | loading
  | ready
  | error
  deriving DecidableEq

structure ModelState where
  status : ModelStatus
  plan : Option DispatchPlan
  session : Option InferenceSession
  error : Option String
  deriving DecidableEq

/-- The statuses for which `_ensure_loading_started` leaves a model alone. -/
def ModelState.isActive (state : ModelState) : Bool :=
  state.status = .loading ∨ state.status = .ready

inductive RequestKind where
  | load
  | redistribute
  | infer (stream : Bool) (maxNewTokens : Int)
  deriving DecidableEq

/-- How the client sees a request end. -/
inductive HttpResponse where
  | modelState (status : ModelStatus) (error : Option String) (numNodes : Option Nat)
  | result (numNodes : Nat)
  | httpException (statusCode : Nat) (detail : String)
  /-- An exception that no handler turns into a response. -/
  | serverError (err : PyException)
  /-- The inline error line of a stream. -/
  | streamError (err : PyException)
  | disconnected
  deriving DecidableEq

/-- One `UnloadShard` call still to be sent. -/
structure UnloadCall where
  modelName : String
  address : String
  deriving DecidableEq

inductive RequestPhase where
  /-- Before the locked section of `redistribute_model`. -/
  | redistributing
  /-- Before the check of `_ensure_loading_started`, with the calls that free
  the session a redistribution has taken down. -/
  | entering (calls : List UnloadCall)
  /-- After the check, with the calls that free the evicted sessions. -/
  | evicting (calls : List UnloadCall)
  | recording (planned : Except String DispatchPlan)
  | polling
  | generating (session : InferenceSession)
  | summarizing
  | responded (response : HttpResponse)
  deriving DecidableEq

/-- Whether a request is between its check of the table and its insertion into
it. -/
def RequestPhase.inWindow : RequestPhase → Bool
  | .evicting _ | .recording _ => true
  | _ => false

structure HttpRequest where
  kind : RequestKind
  manifest : ModelManifest
  phase : RequestPhase

/-- A thread that runs `_load`, until it has recorded its outcome. -/
structure LoaderThread where
  manifest : ModelManifest
  plan : DispatchPlan
  running : Bool

/-- `madeReady` is a history variable: the models that a load has made ready
and no redistribution has taken down since. -/
structure HttpState where
  registry : NodeRegistry
  modelRegistry : ModelRegistry
  modelStates : Dict String ModelState
  requests : Nat → Option HttpRequest
  loaders : Nat → Option LoaderThread
  madeReady : Finset String

inductive RequestLabel where
  | heartbeat (now : ℚ) (request : HeartbeatRequest)
  | reap (now : ℚ)
  | register (manifest : ModelManifest)
  | post (id : Nat) (kind : RequestKind) (name : String)
  | redistribute (id : Nat)
  | check (id : Nat)
  | plan (id : Nat)
  | record (id loader : Nat)
  | poll (id : Nat) (expired : Bool)
  | summarize (id : Nat) (decoded : Except PyException Unit)

inductive HttpLabel where
  | request (label : RequestLabel)
  | unload (id : Nat)
  | finishLoad (loader : Nat) (outcome : Except PyException Unit)
  | tokenizerFailed (id : Nat) (err : PyException)
  | generated (id : Nat) (outcome : Except PyException Unit)
  | disconnect (id : Nat)

/-- `loaded`: the models that are ready, with their sessions. -/
def loadedModels (states : Dict String ModelState) :
    List (String × Option InferenceSession) :=
  (states.items.filter fun entry => entry.2.status = .ready).map fun entry =>
    (entry.1, entry.2.session)

def evictLoaded (states : Dict String ModelState) : Dict String ModelState :=
  (loadedModels states).foldl (fun states entry => states.erase entry.1) states

/-- The calls of `unload`, in plan order. -/
def unloadCalls : Option InferenceSession → List UnloadCall
  | none => []
  | some session =>
      session.plan.assignments.map fun assignment =>
        ⟨session.plan.modelName, assignment.address⟩

/-- The response of the load and redistribute routes. -/
def stateResponse (state : ModelState) : HttpResponse :=
  .modelState state.status state.error (state.plan.map fun plan => plan.assignments.length)

/-- What the caller of `_ensure_loading_started` does with the state it gets. -/
def afterEnsure (kind : RequestKind) (state : ModelState) : RequestPhase :=
  match kind with
  | .load | .redistribute => .responded (stateResponse state)
  | .infer _ _ => .polling

/-- One iteration of the loop of `_get_ready_session` with the entry it reads. -/
def pollResult (name : String) (entry : Option ModelState) (expired : Bool) :
    RequestPhase :=
  match entry with
  | none => .responded (.serverError (.keyError name))
  | some state =>
      match state.status with
      | .ready =>
          match state.session with
          | some session => .generating session
          | none => .responded (.serverError
              (.attributeError "'NoneType' object has no attribute 'tokenizer'"))
      | .error =>
          let error := state.error.getD ""
          if "no available".toList <:+: error.toList then
            .responded (.httpException 503 error)
          else .responded (.httpException 400 error)
      | .loading =>
          if expired then
            .responded (.httpException 504
              s!"Timed out waiting for model '{name}' to load")
          else .polling

/-- How an exception during the generation reaches the client. -/
def inferenceError (kind : RequestKind) (err : PyException) : HttpResponse :=
  match kind with
  | .infer true _ => .streamError err
  | _ => .serverError err

/-- The lookup of `num_nodes` for the summary of a generation. -/
def countNodes (name : String) (entry : Option ModelState) : Except PyException Nat :=
  match entry with
  | none => .error (.keyError name)
  | some state =>
      match state.plan with
      | none => .error (.attributeError "'NoneType' object has no attribute 'assignments'")
      | some plan => .ok plan.assignments.length

/-- The summary of a generation. The buffered response decodes its text before
the lookup, the last line of a stream after it. -/
def inferResponse (kind : RequestKind) (numNodes : Except PyException Nat)
    (decoded : Except PyException Unit) : HttpResponse :=
  let result :=
    match kind with
    | .infer true _ => numNodes.bind fun count => decoded.map fun _ => count
    | _ => decoded.bind fun _ => numNodes
  match result with
  | .ok count => .result count
  | .error err => .serverError err

namespace HttpState

def create (registry : NodeRegistry) : HttpState where
  registry := registry
  modelRegistry := ModelRegistry.create
  modelStates := Dict.empty
  requests := fun _ => none
  loaders := fun _ => none
  madeReady := ∅

def setPhase (state : HttpState) (id : Nat) (request : HttpRequest) (phase : RequestPhase) :
    HttpState :=
  { state with
    requests := Function.update state.requests id (some { request with phase := phase }) }

/-- A request arrives: its model is looked up in the registry. -/
def post (state : HttpState) (id : Nat) (kind : RequestKind) (name : String) :
    Option HttpState :=
  match state.requests id, state.modelRegistry.get name with
  | none, some manifest =>
      let phase := if kind = .redistribute then .redistributing else .entering []
      some { state with
        requests := Function.update state.requests id (some ⟨kind, manifest, phase⟩) }
  | _, _ => none

/-- The locked section of `redistribute_model`. -/
def redistributeModel (state : HttpState) (id : Nat) : Option HttpState :=
  match state.requests id with
  | none => none
  | some request =>
      let name := request.manifest.name
      match request.phase with
      | .redistributing =>
          match state.modelStates.get? name with
          | none =>
              some (state.setPhase id request (.responded (.httpException 400
                s!"Model '{name}' has not been loaded yet - nothing to redistribute")))
          | some entry =>
              if entry.status = .loading then
                some (state.setPhase id request (.responded (.httpException 409
                  s!"Model '{name}' is still loading")))
              else
                some { state.setPhase id request (.entering (unloadCalls entry.session)) with
                  modelStates := state.modelStates.erase name
                  madeReady := state.madeReady.erase name }
      | _ => none

/-- The next `UnloadShard` call of a request. -/
def nextUnload (state : HttpState) (id : Nat) : Option (UnloadCall × HttpState) :=
  match state.requests id with
  | none => none
  | some request =>
      match request.phase with
      | .entering (call :: rest) => some (call, state.setPhase id request (.entering rest))
      | .evicting (call :: rest) => some (call, state.setPhase id request (.evicting rest))
      | _ => none

/-- The first locked section of `_ensure_loading_started`. -/
def checkLoading (state : HttpState) (id : Nat) : Option HttpState :=
  match state.requests id with
  | none => none
  | some request =>
      match request.phase with
      | .entering [] =>
          match (state.modelStates.get? request.manifest.name).filter ModelState.isActive with
          | some entry => some (state.setPhase id request (afterEnsure request.kind entry))
          | none =>
              let calls := (loadedModels state.modelStates).flatMap fun entry =>
                unloadCalls entry.2
              some { state.setPhase id request (.evicting calls) with
                modelStates := evictLoaded state.modelStates }
      | _ => none

/-- `plan_dispatch` against the live registry. Only a `DispatchError` is
caught. -/
def planLoad (state : HttpState) (id : Nat) : Option HttpState :=
  match state.requests id with
  | none => none
  | some request =>
      match request.phase with
      | .evicting [] =>
          match planDispatch request.manifest state.registry with
          | .ok plan => some (state.setPhase id request (.recording (.ok plan)))
          | .error (.dispatchError message) =>
              some (state.setPhase id request (.recording (.error message)))
          | .error err =>
              some (state.setPhase id request (.responded (.serverError err)))
      | _ => none

/-- The last locked section of `_ensure_loading_started`, with the start of the
loader thread. -/
def recordPlan (state : HttpState) (id loader : Nat) : Option HttpState :=
  match state.requests id with
  | none => none
  | some request =>
      match request.phase with
      | .recording (.error message) =>
          let entry : ModelState := ⟨.error, none, none, some message⟩
          some { state.setPhase id request (afterEnsure request.kind entry) with
            modelStates := state.modelStates.set request.manifest.name entry }
      | .recording (.ok plan) =>
          if (state.loaders loader).isSome then none
          else
            let entry : ModelState := ⟨.loading, some plan, none, none⟩
            some { state.setPhase id request (afterEnsure request.kind entry) with
              modelStates := state.modelStates.set request.manifest.name entry
              loaders := Function.update state.loaders loader
                (some ⟨request.manifest, plan, true⟩) }
      | _ => none

def pollSession (state : HttpState) (id : Nat) (expired : Bool) : Option HttpState :=
  match state.requests id with
  | none => none
  | some request =>
      match request.phase with
      | .polling =>
          let name := request.manifest.name
          some (state.setPhase id request
            (pollResult name (state.modelStates.get? name) expired))
      | _ => none

def summarize (state : HttpState) (id : Nat) (decoded : Except PyException Unit) :
    Option HttpState :=
  match state.requests id with
  | none => none
  | some request =>
      match request.phase with
      | .summarizing =>
          let name := request.manifest.name
          let numNodes := countNodes name (state.modelStates.get? name)
          some (state.setPhase id request
            (.responded (inferResponse request.kind numNodes decoded)))
      | _ => none

/-- What a loader thread records. -/
def loadOutcome (loader : Nat) (plan : DispatchPlan) :
    Except PyException Unit → ModelState
  | .ok () => ⟨.ready, some plan, some ⟨loader, plan⟩, none⟩
  | .error err => ⟨.error, some plan, none, some err.str⟩

/-- The last locked section of `_load`. -/
def finishLoad (state : HttpState) (loader : Nat) (outcome : Except PyException Unit) :
    Option HttpState :=
  match state.loaders loader with
  | none => none
  | some thread =>
      if thread.running then
        let name := thread.manifest.name
        some { state with
          modelStates := state.modelStates.set name (loadOutcome loader thread.plan outcome)
          loaders := Function.update state.loaders loader
            (some { thread with running := false })
          madeReady :=
            match outcome with
            | .ok () => insert name state.madeReady
            | .error _ => state.madeReady }
      else none

/-- The tokenizer raises before the generation; a stream does not catch this
either. -/
def tokenizerFailed (state : HttpState) (id : Nat) (err : PyException) : Option HttpState :=
  match state.requests id with
  | none => none
  | some request =>
      match request.phase with
      | .generating _ =>
          some (state.setPhase id request (.responded (.serverError err)))
      | _ => none

/-- The generation of a request has ended. -/
def endGeneration (state : HttpState) (id : Nat) (outcome : Except PyException Unit) :
    Option HttpState :=
  match state.requests id with
  | none => none
  | some request =>
      match request.phase with
      | .generating _ =>
          match outcome with
          | .ok () => some (state.setPhase id request .summarizing)
          | .error err =>
              some (state.setPhase id request
                (.responded (inferenceError request.kind err)))
      | _ => none

/-- The client of a stream goes away between two tokens. -/
def disconnect (state : HttpState) (id : Nat) : Option HttpState :=
  match state.requests id with
  | none => none
  | some request =>
      match request.phase, request.kind with
      | .generating _, .infer true _ =>
          some (state.setPhase id request (.responded .disconnected))
      | _, _ => none

/-- The steps that involve neither a worker nor a loader thread. -/
def requestStep (state : HttpState) : RequestLabel → Option HttpState
  | .heartbeat now request =>
      some { state with registry := state.registry.updateNode now request }
  | .reap now => some { state with registry := (state.registry.reapStaleNodes now).1 }
  | .register manifest =>
      match state.modelRegistry.register manifest with
      | .ok registry => some { state with modelRegistry := registry }
      | .error _ => some state
  | .post id kind name => state.post id kind name
  | .redistribute id => state.redistributeModel id
  | .check id => state.checkLoading id
  | .plan id => state.planLoad id
  | .record id loader => state.recordPlan id loader
  | .poll id expired => state.pollSession id expired
  | .summarize id decoded => state.summarize id decoded

def step (state : HttpState) : HttpLabel → Option HttpState
  | .request label => state.requestStep label
  | .unload id => (state.nextUnload id).map Prod.snd
  | .finishLoad loader outcome => state.finishLoad loader outcome
  | .tokenizerFailed id err => state.tokenizerFailed id err
  | .generated id outcome => state.endGeneration id outcome
  | .disconnect id => state.disconnect id

/-- All interleavings of the requests and the loader threads, from an empty
table. -/
def system (registry : NodeRegistry) : TransitionSystem HttpState HttpLabel where
  init state := state = create registry
  step := step

/-- A request for `name` is between its check and its insertion. -/
def InWindow (state : HttpState) (id : Nat) (name : String) : Prop :=
  ∃ request, state.requests id = some request ∧ request.phase.inWindow = true ∧
    request.manifest.name = name

/-- A loader thread of `name` has not recorded its outcome yet. -/
def Running (state : HttpState) (loader : Nat) (name : String) : Prop :=
  ∃ thread, state.loaders loader = some thread ∧ thread.running = true ∧
    thread.manifest.name = name

def Active (state : HttpState) (name : String) : Prop :=
  ∃ entry, state.modelStates.get? name = some entry ∧ entry.isActive = true

/-- The request's check finds its model neither loading nor ready, so that it
goes on to dispatch it. -/
def PassesCheck (state : HttpState) (id : Nat) (name : String) : Prop :=
  (∃ request, state.requests id = some request ∧ request.phase = .entering [] ∧
    request.manifest.name = name) ∧ ¬ state.Active name

/-- What one step can do. Everything but the cases named here only moves a
request to a phase that is no further in than its window. -/
inductive Transition (state : HttpState) : HttpLabel → HttpState → Prop where
  | registry {label : HttpLabel} (registry : NodeRegistry) (modelRegistry : ModelRegistry) :
      Transition state label
        { state with registry := registry, modelRegistry := modelRegistry }
  | post {id : Nat} {kind : RequestKind} {manifest : ModelManifest} {phase : RequestPhase}
      (hfresh : state.requests id = none) (hphase : phase.inWindow = false) :
      Transition state (.request (.post id kind manifest.name))
        { state with
          requests := Function.update state.requests id (some ⟨kind, manifest, phase⟩) }
  | move {label : HttpLabel} {id : Nat} {request : HttpRequest} {phase : RequestPhase}
      (hget : state.requests id = some request)
      (hwindow : phase.inWindow = true → request.phase.inWindow = true)
      (hplan : ∀ plan, phase = .recording (.ok plan) →
        planDispatch request.manifest state.registry = .ok plan) :
      Transition state label (state.setPhase id request phase)
  | takeDown {label : HttpLabel} {id : Nat} {request : HttpRequest} {entry : ModelState}
      (hget : state.requests id = some request)
      (hentry : state.modelStates.get? request.manifest.name = some entry)
      (hstatus : entry.status ≠ .loading) :
      Transition state label
        { state.setPhase id request (.entering (unloadCalls entry.session)) with
          modelStates := state.modelStates.erase request.manifest.name
          madeReady := state.madeReady.erase request.manifest.name }
  | evict {id : Nat} {request : HttpRequest} {calls : List UnloadCall}
      (hget : state.requests id = some request)
      (hpass : state.PassesCheck id request.manifest.name) :
      Transition state (.request (.check id))
        { state.setPhase id request (.evicting calls) with
          modelStates := evictLoaded state.modelStates }
  | planFailed {label : HttpLabel} {id : Nat} {request : HttpRequest} {message : String}
      {phase : RequestPhase} (hget : state.requests id = some request)
      (hrecording : request.phase = .recording (.error message))
      (hphase : phase.inWindow = false) :
      Transition state label
        { state.setPhase id request phase with
          modelStates := state.modelStates.set request.manifest.name
            ⟨.error, none, none, some message⟩ }
  | started {id loader : Nat} {request : HttpRequest} {plan : DispatchPlan}
      {phase : RequestPhase} (hget : state.requests id = some request)
      (hrecording : request.phase = .recording (.ok plan))
      (hphase : phase.inWindow = false) (hfresh : state.loaders loader = none) :
      Transition state (.request (.record id loader))
        { state.setPhase id request phase with
          modelStates := state.modelStates.set request.manifest.name
            ⟨.loading, some plan, none, none⟩
          loaders := Function.update state.loaders loader
            (some ⟨request.manifest, plan, true⟩) }
  | ended {loader : Nat} {thread : LoaderThread} {outcome : Except PyException Unit}
      (hget : state.loaders loader = some thread) (hrunning : thread.running = true) :
      Transition state (.finishLoad loader outcome)
        { state with
          modelStates := state.modelStates.set thread.manifest.name
            (loadOutcome loader thread.plan outcome)
          loaders := Function.update state.loaders loader
            (some { thread with running := false })
          madeReady :=
            match outcome with
            | .ok () => insert thread.manifest.name state.madeReady
            | .error _ => state.madeReady }

theorem afterEnsure_inWindow (kind : RequestKind) (entry : ModelState) :
    (afterEnsure kind entry).inWindow = false := by
  cases kind <;> rfl

theorem pollResult_inWindow (name : String) (entry : Option ModelState) (expired : Bool) :
    (pollResult name entry expired).inWindow = false := by
  unfold pollResult
  split
  · rfl
  · split
    · split <;> rfl
    · dsimp only
      split <;> rfl
    · split <;> rfl

/-- A phase outside the window is neither in it nor a plan. -/
theorem Transition.move_out {state : HttpState} {label : HttpLabel} {id : Nat}
    {request : HttpRequest} {phase : RequestPhase}
    (hget : state.requests id = some request) (hphase : phase.inWindow = false) :
    Transition state label (state.setPhase id request phase) := by
  apply Transition.move hget
  · intro hin
    rw [hphase] at hin
    cases hin
  · rintro plan rfl
    cases hphase

variable {state next : HttpState}

theorem redistributeModel_transition {label : HttpLabel} {id : Nat}
    (hstep : state.redistributeModel id = some next) : Transition state label next := by
  unfold redistributeModel at hstep
  split at hstep
  · cases hstep
  · next request hget =>
      dsimp only at hstep
      split at hstep
      · split at hstep
        · obtain rfl := Option.some.inj hstep
          exact .move_out hget rfl
        · next entry hentry =>
            split at hstep
            · obtain rfl := Option.some.inj hstep
              exact .move_out hget rfl
            · next hstatus =>
                obtain rfl := Option.some.inj hstep
                exact .takeDown hget hentry hstatus
      · cases hstep

theorem nextUnload_transition {label : HttpLabel} {id : Nat} {call : UnloadCall}
    (hstep : state.nextUnload id = some (call, next)) : Transition state label next := by
  unfold nextUnload at hstep
  split at hstep
  · cases hstep
  · next request hget =>
      split at hstep
      · obtain ⟨_, rfl⟩ := Prod.mk.inj (Option.some.inj hstep)
        exact .move_out hget rfl
      · next first rest hphase =>
          obtain ⟨_, rfl⟩ := Prod.mk.inj (Option.some.inj hstep)
          apply Transition.move hget
          · intro _
            rw [hphase]
            rfl
          · intro plan heq
            cases heq
      · cases hstep

theorem checkLoading_transition {id : Nat}
    (hstep : state.checkLoading id = some next) :
    Transition state (.request (.check id)) next := by
  unfold checkLoading at hstep
  split at hstep
  · cases hstep
  · next request hget =>
      split at hstep
      · next hphase =>
          split at hstep
          · next entry hentry =>
              obtain rfl := Option.some.inj hstep
              exact .move_out hget (afterEnsure_inWindow _ _)
          · next hidle =>
              obtain rfl := Option.some.inj hstep
              refine .evict hget ⟨⟨request, hget, hphase, rfl⟩, ?_⟩
              rintro ⟨entry, hentry, hactive⟩
              rw [hentry, Option.filter_some, if_pos hactive] at hidle
              cases hidle
      · cases hstep

theorem planLoad_transition {label : HttpLabel} {id : Nat}
    (hstep : state.planLoad id = some next) : Transition state label next := by
  unfold planLoad at hstep
  split at hstep
  · cases hstep
  · next request hget =>
      split at hstep
      · next hphase =>
          have hin : request.phase.inWindow = true := by
            rw [hphase]
            rfl
          split at hstep
          · next plan hplan =>
              obtain rfl := Option.some.inj hstep
              apply Transition.move hget (fun _ => hin)
              intro plan' heq
              cases heq
              exact hplan
          · obtain rfl := Option.some.inj hstep
            apply Transition.move hget (fun _ => hin)
            intro plan heq
            cases heq
          · obtain rfl := Option.some.inj hstep
            exact .move_out hget rfl
      · cases hstep

theorem recordPlan_transition {id loader : Nat}
    (hstep : state.recordPlan id loader = some next) :
    Transition state (.request (.record id loader)) next := by
  unfold recordPlan at hstep
  split at hstep
  · cases hstep
  · next request hget =>
      split at hstep
      · next hphase =>
          obtain rfl := Option.some.inj hstep
          exact .planFailed hget hphase (afterEnsure_inWindow _ _)
      · next hphase =>
          split at hstep
          · cases hstep
          · next hfresh =>
              obtain rfl := Option.some.inj hstep
              exact .started hget hphase (afterEnsure_inWindow _ _) (by simpa using hfresh)
      · cases hstep

theorem finishLoad_transition {loader : Nat} {outcome : Except PyException Unit}
    (hstep : state.finishLoad loader outcome = some next) :
    Transition state (.finishLoad loader outcome) next := by
  unfold finishLoad at hstep
  split at hstep
  · cases hstep
  · next thread hget =>
      split at hstep
      · next hrunning =>
          obtain rfl := Option.some.inj hstep
          exact .ended hget hrunning
      · cases hstep

theorem requestStep_transition {label : RequestLabel}
    (hstep : state.requestStep label = some next) :
    Transition state (.request label) next := by
  cases label with
  | heartbeat now request =>
      obtain rfl := Option.some.inj hstep
      exact .registry _ state.modelRegistry
  | reap now =>
      obtain rfl := Option.some.inj hstep
      exact .registry _ state.modelRegistry
  | register manifest =>
      simp only [requestStep] at hstep
      split at hstep
      · next registry hregister =>
          obtain rfl := Option.some.inj hstep
          exact .registry state.registry registry
      · obtain rfl := Option.some.inj hstep
        exact .registry state.registry state.modelRegistry
  | post id kind name =>
      simp only [requestStep, post] at hstep
      split at hstep
      · next manifest hfresh hmanifest =>
          obtain rfl := Option.some.inj hstep
          obtain rfl : manifest.name = name := state.modelRegistry.keyed _ _ hmanifest
          apply Transition.post hfresh
          split <;> rfl
      · cases hstep
  | redistribute id => exact redistributeModel_transition hstep
  | check id => exact checkLoading_transition hstep
  | plan id => exact planLoad_transition hstep
  | record id loader => exact recordPlan_transition hstep
  | poll id expired =>
      simp only [requestStep, pollSession] at hstep
      split at hstep
      · cases hstep
      · next request hget =>
          split at hstep
          · obtain rfl := Option.some.inj hstep
            exact .move_out hget (pollResult_inWindow _ _ _)
          · cases hstep
  | summarize id decoded =>
      simp only [requestStep, summarize] at hstep
      split at hstep
      · cases hstep
      · next request hget =>
          split at hstep
          · obtain rfl := Option.some.inj hstep
            exact .move_out hget rfl
          · cases hstep

theorem generating_transition {label : HttpLabel} {id : Nat}
    (hstep : (∃ err, state.tokenizerFailed id err = some next) ∨
      (∃ outcome, state.endGeneration id outcome = some next) ∨
      state.disconnect id = some next) : Transition state label next := by
  rcases hstep with ⟨err, hstep⟩ | ⟨outcome, hstep⟩ | hstep
  · unfold tokenizerFailed at hstep
    split at hstep
    · cases hstep
    · next request hget =>
        split at hstep
        · obtain rfl := Option.some.inj hstep
          exact .move_out hget rfl
        · cases hstep
  · unfold endGeneration at hstep
    split at hstep
    · cases hstep
    · next request hget =>
        split at hstep
        · cases outcome with
          | ok _ =>
              obtain rfl := Option.some.inj hstep
              exact .move_out hget rfl
          | error err =>
              obtain rfl := Option.some.inj hstep
              exact .move_out hget rfl
        · cases hstep
  · unfold disconnect at hstep
    split at hstep
    · cases hstep
    · next request hget =>
        split at hstep
        · obtain rfl := Option.some.inj hstep
          exact .move_out hget rfl
        · cases hstep

/-- Every step is one of these transitions. -/
theorem step_transition {label : HttpLabel} (hstep : state.step label = some next) :
    Transition state label next := by
  cases label with
  | request label => exact requestStep_transition hstep
  | unload id =>
      obtain ⟨⟨call, after⟩, hnext, rfl⟩ := Option.map_eq_some_iff.mp hstep
      exact nextUnload_transition hnext
  | finishLoad loader outcome => exact finishLoad_transition hstep
  | tokenizerFailed id err => exact generating_transition (.inl ⟨err, hstep⟩)
  | generated id outcome => exact generating_transition (.inr (.inl ⟨outcome, hstep⟩))
  | disconnect id => exact generating_transition (.inr (.inr hstep))

end HttpState

end PiSSM.Orchestrator
