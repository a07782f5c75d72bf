import PiSSM.Lib.TransitionSystem
import PiSSM.Orchestrator.PipelineLoad
import PiSSM.Orchestrator.PipelineRunner

/-!
All calls that share the slot map, in steps that any other thread can come between: `load`
with its waiter threads, and `run_forward`, `generate` and `generate_stream`, which reserve
a slot, send `RunShard` and wait in the calling thread. The keys of shard reports and the
request ids never coincide, so the slots of the two kinds are kept apart. Any report and any
result may be delivered at any time, and an event wait may expire whenever its event has not
been set. The generation locks only take some of these interleavings away.
-/

namespace PiSSM.Orchestrator

open PiSSM.Lib PiSSM.Inference

/-- A wait with a `load_timeout_s` whose event has not fired in time. -/
def LoadRun.expire {T : Type*} (run : LoadRun T) (index : Nat)
    (store : ResultStore (MarkedReport T)) :
    Option (LoadRun T × ResultStore (MarkedReport T)) :=
  match run.waiters index, run.plan.assignments[index]? with
  | .blocked event, some assignment =>
      if event ∈ store.fired then none
      else
        let requestId := run.key assignment
        some (run.setWaiter index (.ended (.error (.timeoutError
          s!"Timed out waiting for pipeline result '{requestId}'"))),
          (store.popSlot requestId).1)
  | _, _ => none

inductive RunnerOperation where
  | runForward
  | generate (maxNewTokens : Int)
  | generateStream (maxNewTokens : Int)
  deriving DecidableEq

/-- How often the operation calls `_run_shard_step` if nothing is raised. -/
def RunnerOperation.steps : RunnerOperation → Nat
  | .runForward => 1
  | .generate maxNewTokens | .generateStream maxNewTokens => maxNewTokens.toNat

/-- Where a call is: between two steps, or in `_run_shard_step`. -/
inductive StepPhase where
  | ready (step : Nat)
  | reserved (step : Nat) (requestId : String)
  | sent (step : Nat) (requestId : String)
  | blocked (step : Nat) (requestId : String) (event : Nat)
  | returned
  | closed
  | raised (err : PyException)
  deriving DecidableEq

structure StepCall where
  plan : DispatchPlan
  operation : RunnerOperation
  phase : StepPhase
  deriving DecidableEq

namespace StepCall

variable {τ : Type*}

/-- The head of the loop over the steps, and the slot of the next one. -/
def beginStep (call : StepCall) (requestId : String)
    (store : ResultStore (PipelineResult τ)) :
    Option (StepCall × ResultStore (PipelineResult τ)) :=
  match call.phase with
  | .ready step =>
      if step < call.operation.steps then
        some ({ call with phase := .reserved step requestId }, store.createSlot requestId)
      else none
  | _ => none

/-- The loop is at its end, or the consumer closes the stream between two steps. -/
def leave (call : StepCall) : Option StepCall :=
  match call.phase, call.operation with
  | .ready step, .generateStream maxNewTokens =>
      if step < maxNewTokens.toNat then some { call with phase := .closed }
      else some { call with phase := .returned }
  | .ready step, operation =>
      if step < operation.steps then none else some { call with phase := .returned }
  | _, _ => none

/-- From the slot to the reply of the first worker: the serialisation of the input and the
call may raise, and there may be no first worker. -/
def runShard (call : StepCall) (reply : Except PyException Unit) : Option StepCall :=
  match call.phase with
  | .reserved step requestId =>
      match call.plan.assignments.head?, reply with
      | none, _ =>
          some { call with phase := .raised (.indexError "list index out of range") }
      | some _, .error err => some { call with phase := .raised err }
      | some _, .ok () => some { call with phase := .sent step requestId }
  | _ => none

/-- The first section of `wait`. -/
def lookup (call : StepCall) (store : ResultStore (PipelineResult τ)) : Option StepCall :=
  match call.phase with
  | .sent step requestId =>
      match store.slotEvent requestId with
      | .error err => some { call with phase := .raised err }
      | .ok event => some { call with phase := .blocked step requestId event }
  | _ => none

/-- What becomes of the call when a step has come to this outcome. -/
def stepEnded (ops : TensorOps τ) (operation : RunnerOperation) (step : Nat)
    (outcome : Except PyException (Option (PipelineResult τ))) : StepPhase :=
  match operation with
  | .runForward =>
      match outcome with
      | .error err => .raised err
      | .ok _ => .returned
  | .generate _ | .generateStream _ =>
      match PipelineRunner.generationStep ops outcome with
      | .error err => .raised err
      | .ok _ => .ready (step + 1)

/-- `event.wait` returns and the slot is popped. -/
def endWait (ops : TensorOps τ) (call : StepCall) (store : ResultStore (PipelineResult τ)) :
    Option (StepCall × ResultStore (PipelineResult τ)) :=
  match call.phase with
  | .blocked step requestId event =>
      let (popped, result) := store.popSlot requestId
      let outcome :=
        if event ∈ store.fired then .ok result
        else .error (.timeoutError
          s!"Timed out waiting for pipeline result '{requestId}'")
      some ({ call with phase := stepEnded ops call.operation step outcome }, popped)
  | _ => none

end StepCall

inductive RunnerCall where
  | absent
  | load (run : LoadRun Unit)
  | steps (call : StepCall)

/-- The call has returned, raised or been closed. -/
def RunnerCall.Ended : RunnerCall → Prop
  | .absent => False
  | .load run => run.phase = .returned ∨ ∃ err, run.phase = .raised err
  | .steps call =>
      call.phase = .returned ∨ call.phase = .closed ∨ ∃ err, call.phase = .raised err

def RunnerCall.InProgress (call : RunnerCall) : Prop := call ≠ .absent ∧ ¬ call.Ended

/-- A thread of the call is blocked on this event. -/
def RunnerCall.BlockedOn (event : Nat) : RunnerCall → Prop
  | .absent => False
  | .load run => ∃ index, run.waiters index = .blocked event
  | .steps call => ∃ step requestId, call.phase = .blocked step requestId event

/-- The creators are history variables: the call each event was created by. -/
structure RunnerCalls (τ : Type*) where
  calls : Nat → RunnerCall
  shardStore : ResultStore (MarkedReport Unit)
  shardCreator : Nat → Option Nat
  resultStore : ResultStore (PipelineResult τ)
  resultCreator : Nat → Option Nat

inductive RunnerLabel (τ : Type*) where
  | load (id : Nat) (plan : DispatchPlan)
  | run (id : Nat) (plan : DispatchPlan) (operation : RunnerOperation)
  | createSlot (id : Nat)
  | dispatch (id : Nat) (response : Except PyException LoadShardResponse)
  | startWait (id index : Nat)
  | wake (id index : Nat)
  | expire (id index : Nat)
  | collect (id index : Nat)
  | shutdown (id : Nat)
  | beginStep (id : Nat) (requestId : String)
  | leave (id : Nat)
  | runShard (id : Nat) (reply : Except PyException Unit)
  | lookup (id : Nat)
  | endWait (id : Nat)
  | reportShardReady (request : ShardReadyRequest)
  | deliverResult (request : DeliverResultRequest τ)

namespace RunnerCalls

variable {τ : Type*}

def create : RunnerCalls τ where
  calls := fun _ => .absent
  shardStore := .create
  shardCreator := fun _ => none
  resultStore := .create
  resultCreator := fun _ => none

def start (state : RunnerCalls τ) (id : Nat) (call : RunnerCall) : Option (RunnerCalls τ) :=
  match state.calls id with
  | .absent => some { state with calls := Function.update state.calls id call }
  | _ => none

/-- A step of a `load`. -/
def loadStep (state : RunnerCalls τ) (id : Nat)
    (act : LoadRun Unit → ResultStore (MarkedReport Unit) →
      Option (LoadRun Unit × ResultStore (MarkedReport Unit))) : Option (RunnerCalls τ) :=
  match state.calls id with
  | .load run =>
      (act run state.shardStore).map fun (run, store) =>
        { state with
          calls := Function.update state.calls id (.load run)
          shardStore := store }
  | _ => none

/-- A step of a `load` that leaves the slots alone. -/
def loadOnly (state : RunnerCalls τ) (id : Nat) (act : LoadRun Unit → Option (LoadRun Unit)) :
    Option (RunnerCalls τ) :=
  state.loadStep id fun run store => (act run).map fun next => (next, store)

/-- A step of one of the other calls. -/
def stepsStep (state : RunnerCalls τ) (id : Nat)
    (act : StepCall → ResultStore (PipelineResult τ) →
      Option (StepCall × ResultStore (PipelineResult τ))) : Option (RunnerCalls τ) :=
  match state.calls id with
  | .steps call =>
      (act call state.resultStore).map fun (call, store) =>
        { state with
          calls := Function.update state.calls id (.steps call)
          resultStore := store }
  | _ => none

def stepsOnly (state : RunnerCalls τ) (id : Nat) (act : StepCall → Option StepCall) :
    Option (RunnerCalls τ) :=
  state.stepsStep id fun call store => (act call).map fun next => (next, store)

def step (ops : TensorOps τ) (state : RunnerCalls τ) : RunnerLabel τ → Option (RunnerCalls τ)
  | .load id plan => state.start id (.load (.start plan))
  | .run id plan operation => state.start id (.steps ⟨plan, operation, .ready 0⟩)
  | .createSlot id =>
      (state.loadStep id LoadRun.createSlot).map fun next =>
        { next with
          shardCreator :=
            Function.update state.shardCreator state.shardStore.nextEvent (some id) }
  | .dispatch id response => state.loadOnly id fun run => run.dispatched response
  | .startWait id index =>
      state.loadOnly id fun run => run.startWait index state.shardStore
  | .wake id index => state.loadStep id fun run => run.wake index
  | .expire id index => state.loadStep id fun run => run.expire index
  | .collect id index => state.loadOnly id fun run => run.collect index
  | .shutdown id => state.loadOnly id LoadRun.shutdown
  | .beginStep id requestId =>
      (state.stepsStep id fun call => call.beginStep requestId).map fun next =>
        { next with
          resultCreator :=
            Function.update state.resultCreator state.resultStore.nextEvent (some id) }
  | .leave id => state.stepsOnly id StepCall.leave
  | .runShard id reply => state.stepsOnly id fun call => call.runShard reply
  | .lookup id => state.stepsOnly id fun call => call.lookup state.resultStore
  | .endWait id => state.stepsStep id (StepCall.endWait ops)
  | .reportShardReady request =>
      some { state with shardStore := Orchestrator.reportShardReady state.shardStore () request }
  | .deliverResult request =>
      some { state with
        resultStore := PipelineRunner.deliverResult state.resultStore request }

/-- All interleavings of the calls, from an empty slot map. -/
def system (ops : TensorOps τ) : TransitionSystem (RunnerCalls τ) (RunnerLabel τ) where
  init state := state = create
  step := step ops

variable {state next : RunnerCalls τ} {id : Nat}

theorem loadStep_some {act : LoadRun Unit → ResultStore (MarkedReport Unit) →
      Option (LoadRun Unit × ResultStore (MarkedReport Unit))}
    (hstep : state.loadStep id act = some next) :
    ∃ run run' store, state.calls id = .load run ∧
      act run state.shardStore = some (run', store) ∧
      next = { state with
        calls := Function.update state.calls id (.load run')
        shardStore := store } := by
  unfold loadStep at hstep
  split at hstep
  · next run hcall =>
      obtain ⟨⟨run', store⟩, hact, rfl⟩ := Option.map_eq_some_iff.mp hstep
      exact ⟨run, run', store, hcall, hact, rfl⟩
  · cases hstep

theorem loadOnly_some {act : LoadRun Unit → Option (LoadRun Unit)}
    (hstep : state.loadOnly id act = some next) :
    ∃ run run', state.calls id = .load run ∧ act run = some run' ∧
      next = { state with calls := Function.update state.calls id (.load run') } := by
  obtain ⟨run, run', store, hcall, hact, rfl⟩ := loadStep_some hstep
  obtain ⟨found, hfound, heq⟩ := Option.map_eq_some_iff.mp hact
  obtain ⟨rfl, rfl⟩ := Prod.mk.inj heq
  exact ⟨run, found, hcall, hfound, rfl⟩

theorem stepsStep_some {act : StepCall → ResultStore (PipelineResult τ) →
      Option (StepCall × ResultStore (PipelineResult τ))}
    (hstep : state.stepsStep id act = some next) :
    ∃ call call' store, state.calls id = .steps call ∧
      act call state.resultStore = some (call', store) ∧
      next = { state with
        calls := Function.update state.calls id (.steps call')
        resultStore := store } := by
  unfold stepsStep at hstep
  split at hstep
  · next call hcall =>
      obtain ⟨⟨call', store⟩, hact, rfl⟩ := Option.map_eq_some_iff.mp hstep
      exact ⟨call, call', store, hcall, hact, rfl⟩
  · cases hstep

theorem stepsOnly_some {act : StepCall → Option StepCall}
    (hstep : state.stepsOnly id act = some next) :
    ∃ call call', state.calls id = .steps call ∧ act call = some call' ∧
      next = { state with calls := Function.update state.calls id (.steps call') } := by
  obtain ⟨call, call', store, hcall, hact, rfl⟩ := stepsStep_some hstep
  obtain ⟨found, hfound, heq⟩ := Option.map_eq_some_iff.mp hact
  obtain ⟨rfl, rfl⟩ := Prod.mk.inj heq
  exact ⟨call, found, hcall, hfound, rfl⟩

theorem start_some {call : RunnerCall} (hstep : state.start id call = some next) :
    state.calls id = .absent ∧
      next = { state with calls := Function.update state.calls id call } := by
  unfold start at hstep
  split at hstep
  · next hcall => exact ⟨hcall, (Option.some.inj hstep).symm⟩
  · cases hstep

end RunnerCalls

end PiSSM.Orchestrator
