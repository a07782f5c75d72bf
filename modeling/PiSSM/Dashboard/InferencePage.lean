import PiSSM.Dashboard.Inference

/-!
The state of the inference page. Selecting a model starts an effect that loads it and polls
its status; redistributing starts it again. An effect that has been replaced is cancelled: its
calls still come back, in any order, and what they bring is dropped. The input can be sent once
the status is ready, and one answer is under way at a time.
-/

namespace PiSSM.Dashboard

inductive ModelLoadStatus where
  | notLoaded
  | loading
  | ready
  | error
  deriving DecidableEq

/-- The load is over. -/
def ModelLoadStatus.terminal (status : ModelLoadStatus) : Bool :=
  status = .ready || status = .error

structure ModelStatus where
  status : ModelLoadStatus
  error : Option String
  numNodes : Option Int

/-- Which endpoint the effect calls. -/
inductive PendingAction where
  | load
  | redistribute
  deriving DecidableEq

/-- One run of the effect, with the model it was started for. -/
structure EffectRun where
  model : String
  action : PendingAction
  cancelled : Bool
  deriving DecidableEq

def EffectRun.cancel (run : EffectRun) : EffectRun := { run with cancelled := true }

/-- A call that has not come back, by the run that has made it. -/
inductive PageCall where
  | action (run : Nat)
  | status (run : Nat)
  deriving DecidableEq

/-- `answering` is the `assistantId` of the call of `handleSend` while `sending` is set. -/
structure InferencePage where
  selectedModel : String
  modelStatus : ModelLoadStatus
  modelStatusError : Option String
  numNodes : Option Int
  redistributing : Bool
  pendingAction : PendingAction
  runs : List EffectRun
  calls : List PageCall
  input : String
  answering : Option Nat
  chat : Chat

/-- What happens on the page: what the user does, the timer of the effect, what calls bring
and what the stream of an answer brings. -/
inductive PageLabel where
  | select (name : String)
  | redistribute
  | type (text : String)
  | send (model input : String)
  | tick
  | actionSettled (run : Nat)
  | statusSettled (run : Nat) (result : Except String ModelStatus)
  | token (token : String)
  | streamEnded (outcome : Except String Unit)

namespace InferencePage

def initial : InferencePage where
  selectedModel := ""
  modelStatus := .notLoaded
  modelStatusError := none
  numNodes := none
  redistributing := false
  pendingAction := .load
  runs := []
  calls := []
  input := ""
  answering := none
  chat := .empty

variable (page : InferencePage)

/-- The cleanup of the effect's last run. -/
def cleanup : InferencePage :=
  { page with runs := page.runs.modify (page.runs.length - 1) EffectRun.cancel }

/-- The effect, up to the first `await` of `start`. -/
def runEffect : InferencePage :=
  let cleaned := page.cleanup
  if page.selectedModel = "" then cleaned
  else
    { cleaned with
      runs := cleaned.runs ++ [⟨page.selectedModel, page.pendingAction, false⟩]
      modelStatus := .loading
      modelStatusError := none
      calls := cleaned.calls ++ [.action cleaned.runs.length] }

/-- The browser reports a selection only if it is another one. -/
def handleSelectModel (name : String) : Option InferencePage :=
  if name = page.selectedModel then none
  else some { page with pendingAction := .load, selectedModel := name }.runEffect

def canRedistribute : Bool :=
  !page.redistributing && page.modelStatus.terminal && page.selectedModel ≠ ""

/-- The button is disabled unless `canRedistribute`. -/
def handleRedistribute : Option InferencePage :=
  if page.canRedistribute then
    some { page with pendingAction := .redistribute, redistributing := true }.runEffect
  else none

def modelReady : Bool := page.modelStatus = .ready

/-- The input is disabled while an answer is under way or the model is not ready. -/
def setInput (text : String) : Option InferencePage :=
  if page.answering = none ∧ page.modelReady then some { page with input := text } else none

def canSend : Bool :=
  page.modelReady && page.answering = none && trim page.input.toList ≠ []

/-- `handleSend` up to its call of `runInferenceStream`, with the arguments of the call. -/
def handleSend (model input : String) : Option InferencePage :=
  if page.canSend ∧ model = page.selectedModel ∧ input = page.input then
    some { page with
      chat := page.chat.send page.input
      input := ""
      answering := some page.chat.assistantId }
  else none

/-- The timer calls `checkStatus` until the effect is cleaned up. -/
def tick : Option InferencePage :=
  match page.runs.getLast? with
  | some ⟨_, _, false⟩ =>
      some { page with calls := page.calls ++ [.status (page.runs.length - 1)] }
  | _ => none

/-- `start` goes on to `checkStatus`, whether its action has failed or not and even when the
run has been cancelled. -/
def actionSettled (run : Nat) : Option InferencePage :=
  if .action run ∈ page.calls then
    some { page with calls := page.calls.erase (.action run) ++ [.status run] }
  else none

/-- `checkStatus` after its `await`. -/
def showStatus (result : Except String ModelStatus) : InferencePage :=
  match result with
  | .ok status =>
      { page with
        modelStatus := status.status
        modelStatusError := status.error
        numNodes := status.numNodes
        redistributing := !status.status.terminal && page.redistributing }
  | .error message =>
      { page with
        modelStatus := .error
        modelStatusError := some message
        redistributing := false }

def statusSettled (run : Nat) (result : Except String ModelStatus) : Option InferencePage :=
  if .status run ∈ page.calls then
    let returned := { page with calls := page.calls.erase (.status run) }
    match page.runs[run]? with
    | some ⟨_, _, false⟩ => some (returned.showStatus result)
    | _ => some returned
  else none

def onToken (token : String) : Option InferencePage :=
  page.answering.map fun assistantId =>
    { page with chat := page.chat.appendToken assistantId token }

/-- The end of `handleSend`. -/
def streamEnded (outcome : Except String Unit) : Option InferencePage :=
  page.answering.map fun assistantId =>
    match outcome with
    | .ok _ => { page with answering := none }
    | .error message =>
        { page with chat := page.chat.showError assistantId message, answering := none }

def step : PageLabel → Option InferencePage
  | .select name => page.handleSelectModel name
  | .redistribute => page.handleRedistribute
  | .type text => page.setInput text
  | .send model input => page.handleSend model input
  | .tick => page.tick
  | .actionSettled run => page.actionSettled run
  | .statusSettled run result => page.statusSettled run result
  | .token token => page.onToken token
  | .streamEnded outcome => page.streamEnded outcome

end InferencePage

end PiSSM.Dashboard
