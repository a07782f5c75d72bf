import PiSSM.Orchestrator.HttpApi
import PiSSM.Orchestrator.InferenceLines

/-!
The response bodies of streaming inference requests, next to the HTTP API.
`_run_inference_stream` is a generator: between two of its lines the other
requests go on, and what it reads of the table of model states is what they
have left there. One step of a body is one stretch of the generator up to a
point where its tokenizer, its generation or the table is asked for something.
-/

namespace PiSSM.Orchestrator

open PiSSM.Lib

inductive StreamPosition where
  /-- Before the first line has been asked for. -/
  | created
  /-- At the head of the loop over the generation's steps. -/
  | looping
  /-- After the loop, before the lookup of the number of nodes. -/
  | closing
  | returned
  | raised (err : PyException)
  deriving DecidableEq

/-- The frame of the generator and the lines it has yielded. `steps` counts the
tokens that its generation has produced; `undecoded` says that the text of the last
of them could not be decoded. Nothing reads these two. -/
structure StreamBody where
  modelName : String
  maxNewTokens : Int
  position : StreamPosition
  outputIds : List Nat
  lastStep : Option StepMeasurements
  steps : Nat
  undecoded : Bool
  lines : List JsonValue

/-- What the tokenizer and the generation answer at one step of a body. -/
inductive StreamEvent where
  | tokenize (inputIds : Except PyException (List Nat))
  | token (tokenId : Nat) (stepResult : StepMeasurements)
      (decoded : Except PyException String)
  | stepFailed (err : PyException)
  | exhausted
  | summarize (latencyMs : PyFloat) (decoded : Except PyException String)

namespace StreamBody

def create (modelName : String) (maxNewTokens : Int) : StreamBody where
  modelName := modelName
  maxNewTokens := maxNewTokens
  position := .created
  outputIds := []
  lastStep := none
  steps := 0
  undecoded := false
  lines := []

/-- The generator has run to its end. -/
def Ended (body : StreamBody) : Prop :=
  body.position = .returned ∨ ∃ err, body.position = .raised err

/-- The code before the loop. Nothing catches what the tokenizer raises. -/
def tokenizeInput (body : StreamBody) : Except PyException (List Nat) → StreamBody
  | .ok inputIds => { body with position := .looping, outputIds := inputIds }
  | .error err => { body with position := .raised err }

/-- The handler around the loop: the error becomes the last line. -/
def reportError (body : StreamBody) (err : PyException) : StreamBody :=
  { body with position := .returned, lines := body.lines ++ [errorLine err.str] }

/-- One pass of the loop, with the token that the generation has produced. -/
def yieldToken (body : StreamBody) (tokenId : Nat) (stepResult : StepMeasurements)
    (decoded : Except PyException String) : StreamBody :=
  let advanced := { body with
    outputIds := body.outputIds ++ [tokenId]
    lastStep := some stepResult
    steps := body.steps + 1 }
  match decoded with
  | .ok text => { advanced with lines := body.lines ++ [tokenLine text] }
  | .error err => { advanced with undecoded := true }.reportError err

/-- The fields of the last line; the number of tokens is the one asked for. -/
def result (body : StreamBody) (numNodes : Nat) (latencyMs : PyFloat) (output : String) :
    InferResult where
  output := output
  latencyMs := latencyMs
  nodeLatenciesMs := body.lastStep.elim [] StepMeasurements.nodeLatenciesMs
  peakMemoryMb := body.lastStep.elim [] StepMeasurements.nodePeakMemoryMb
  numNodes := numNodes
  numTokens := body.maxNewTokens

/-- The code after the loop. Nothing catches what it raises. -/
def yieldResult (body : StreamBody) (numNodes : Except PyException Nat)
    (latencyMs : PyFloat) (decoded : Except PyException String) : StreamBody :=
  match numNodes, decoded with
  | .error err, _ => { body with position := .raised err }
  | .ok _, .error err => { body with position := .raised err }
  | .ok count, .ok output =>
      { body with
        position := .returned
        lines := body.lines ++ [resultLine (body.result count latencyMs output)] }

/-- The generator's own step; `numNodes` is what a lookup in the table gives at
this moment. -/
def next (body : StreamBody) (numNodes : Except PyException Nat) :
    StreamEvent → Option StreamBody
  | .tokenize inputIds =>
      if body.position = .created then some (body.tokenizeInput inputIds) else none
  | .token tokenId stepResult decoded =>
      if body.position = .looping ∧ (body.steps : Int) < body.maxNewTokens then
        some (body.yieldToken tokenId stepResult decoded)
      else none
  | .stepFailed err =>
      if body.position = .looping ∧ (body.steps : Int) < body.maxNewTokens then
        some (body.reportError err)
      else none
  | .exhausted =>
      if body.position = .looping ∧ body.maxNewTokens ≤ body.steps then
        some { body with position := .closing }
      else none
  | .summarize latencyMs decoded =>
      if body.position = .closing then some (body.yieldResult numNodes latencyMs decoded)
      else none

end StreamBody

/-- What the request of a body does at one of the body's steps. -/
def StreamEvent.requestLabel (id : Nat) : StreamEvent → Option HttpLabel
  | .tokenize (.error err) => some (.tokenizerFailed id err)
  | .tokenize (.ok _) => none
  | .token _ _ (.error err) => some (.generated id (.error err))
  | .token _ _ (.ok _) => none
  | .stepFailed err => some (.generated id (.error err))
  | .exhausted => some (.generated id (.ok ()))
  | .summarize _ decoded => some (.request (.summarize id (decoded.map fun _ => ())))

def RequestPhase.streams : RequestPhase → Bool
  | .generating _ | .summarizing => true
  | _ => false

structure StreamingState where
  http : HttpState
  bodies : Nat → Option StreamBody

inductive StreamLabel where
  | http (label : HttpLabel)
  | respond (id : Nat)
  | body (id : Nat) (event : StreamEvent)

namespace StreamingState

def create (registry : NodeRegistry) : StreamingState where
  http := HttpState.create registry
  bodies := fun _ => none

def setBody (state : StreamingState) (id : Nat) (body : StreamBody) : StreamingState :=
  { state with bodies := Function.update state.bodies id (some body) }

/-- The lookup of `num_nodes` for a body, in the table as it stands. -/
def numNodes (state : StreamingState) (body : StreamBody) : Except PyException Nat :=
  countNodes body.modelName (state.http.modelStates.get? body.modelName)

/-- The steps of a streaming request that are steps of its body. -/
def drivesStream (state : StreamingState) : HttpLabel → Bool
  | .tokenizerFailed id _ | .generated id _ | .request (.summarize id _) =>
      match state.http.requests id with
      | some ⟨.infer true _, _, _⟩ => true
      | _ => false
  | _ => false

/-- The route has its session and hands the generator to the response. -/
def respond (state : StreamingState) (id : Nat) : Option StreamingState :=
  match state.http.requests id, state.bodies id with
  | some ⟨.infer true maxNewTokens, manifest, .generating _⟩, none =>
      some (state.setBody id (StreamBody.create manifest.name maxNewTokens))
  | _, _ => none

/-- A step of a body, with the step of its request that it is. -/
def advance (state : StreamingState) (id : Nat) (event : StreamEvent) :
    Option StreamingState :=
  match state.http.requests id, state.bodies id with
  | some request, some body =>
      if request.phase.streams then
        match body.next (state.numNodes body) event with
        | none => none
        | some body =>
            match event.requestLabel id with
            | none => some (state.setBody id body)
            | some label =>
                (state.http.step label).map fun http =>
                  { state.setBody id body with http := http }
      else none
  | _, _ => none

def step (state : StreamingState) : StreamLabel → Option StreamingState
  | .http label =>
      if state.drivesStream label then none
      else (state.http.step label).map fun http => { state with http := http }
  | .respond id => state.respond id
  | .body id event => state.advance id event

def system (registry : NodeRegistry) : TransitionSystem StreamingState StreamLabel where
  init state := state = create registry
  step := step

variable {state next : StreamingState}

theorem advance_some {id : Nat} {event : StreamEvent}
    (hstep : state.advance id event = some next) :
    ∃ body after, state.bodies id = some body ∧
      body.next (state.numNodes body) event = some after ∧
      next.bodies = Function.update state.bodies id (some after) ∧
      (next.http = state.http ∨ ∃ label, state.http.step label = some next.http) := by
  unfold advance at hstep
  split at hstep
  · next request body hrequest hbody =>
      split at hstep
      · split at hstep
        · cases hstep
        · next after hafter =>
            refine ⟨body, after, hbody, hafter, ?_⟩
            split at hstep
            · obtain rfl := Option.some.inj hstep
              exact ⟨rfl, .inl rfl⟩
            · next label _ =>
                obtain ⟨http, hhttp, rfl⟩ := Option.map_eq_some_iff.mp hstep
                exact ⟨rfl, .inr ⟨label, hhttp⟩⟩
      · cases hstep
  · cases hstep

theorem respond_some {id : Nat} (hstep : state.respond id = some next) :
    state.bodies id = none ∧
      ∃ name maxNewTokens, next = state.setBody id (StreamBody.create name maxNewTokens) := by
  unfold respond at hstep
  split at hstep
  · next maxNewTokens manifest _ _ hbody =>
      obtain rfl := Option.some.inj hstep
      exact ⟨hbody, manifest.name, maxNewTokens, rfl⟩
  · cases hstep

/-- What one step does to the bodies. -/
inductive Move (state : StreamingState) : StreamLabel → StreamingState → Prop where
  | http {label : HttpLabel} {http : HttpState} (hstep : state.http.step label = some http) :
      Move state (.http label) { state with http := http }
  | respond {id : Nat} {name : String} {maxNewTokens : Int} (hfresh : state.bodies id = none) :
      Move state (.respond id) (state.setBody id (StreamBody.create name maxNewTokens))
  | body {id : Nat} {event : StreamEvent} {body after : StreamBody} {http : HttpState}
      (hbody : state.bodies id = some body)
      (hafter : body.next (state.numNodes body) event = some after)
      (hhttp : http = state.http ∨ ∃ label, state.http.step label = some http) :
      Move state (.body id event) { state.setBody id after with http := http }

theorem step_move {label : StreamLabel} (hstep : state.step label = some next) :
    Move state label next := by
  cases label with
  | http label =>
      obtain ⟨_, hown⟩ := Option.ite_none_left_eq_some.mp hstep
      obtain ⟨http, hhttp, rfl⟩ := Option.map_eq_some_iff.mp hown
      exact .http hhttp
  | respond id =>
      obtain ⟨hfresh, name, maxNewTokens, rfl⟩ := respond_some hstep
      exact .respond hfresh
  | body id event =>
      obtain ⟨body, after, hbody, hafter, hbodies, hhttp⟩ := advance_some hstep
      have hnext : next = { state.setBody id after with http := next.http } := by
        cases next
        simp only [setBody] at hbodies ⊢
        rw [hbodies]
      rw [hnext]
      exact .body hbody hafter hhttp

/-- The bodies add nothing to what the HTTP API can do: every run with them is
a run of it. -/
theorem http_reachable {registry : NodeRegistry} {ok : StreamingState → StreamLabel → Prop}
    (hreach : (system registry).ReachableVia ok state) :
    (HttpState.system registry).Reachable state.http := by
  apply hreach.simulates StreamingState.http
  · rintro _ rfl
    rfl
  · intro s label t _ _ hstep
    cases step_move hstep with
    | http hhttp => exact .inr ⟨_, trivial, hhttp⟩
    | respond _ => exact .inl rfl
    | body _ _ hhttp =>
        rcases hhttp with rfl | ⟨label, hlabel⟩
        · exact .inl rfl
        · exact .inr ⟨label, trivial, hlabel⟩

end StreamingState

end PiSSM.Orchestrator
