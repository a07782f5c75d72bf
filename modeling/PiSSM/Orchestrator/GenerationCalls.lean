import PiSSM.Lib.TransitionSystem
import PiSSM.Orchestrator.PipelineRunner

/-!
Concurrent callers of one runner's `generate` and `generate_stream`. A call is
a generator that takes the generation lock when its caller first asks for a
token and keeps it while it is suspended between tokens, until it is
exhausted, raises or is closed. `generate` is a caller that asks until the end.
-/

namespace PiSSM.Orchestrator

open PiSSM.Lib PiSSM.Inference

/-- Where the body of a call is. Between `running` and `suspended` a step is
under way: its request has been sent in `inFlight`. -/
inductive CallPhase (τ : Type*) where
  | created
  | running (step : Nat) (nextInput : τ)
  | inFlight (step : Nat) (nextInput : τ)
  | suspended (step : Nat) (nextInput : τ)
  | exhausted
  | raised (err : PyException)
  | closed

/-- A call is active from entering the `with` block until it leaves it. -/
def CallPhase.isActive {τ : Type*} : CallPhase τ → Bool
  | .running _ _ | .inFlight _ _ | .suspended _ _ => true
  | .created | .exhausted | .raised _ | .closed => false

structure CallState (τ : Type*) where
  phase : CallPhase τ
  yielded : List (GenerationStep τ)

/-- A request that reached the first worker, and the result the call got for
it. -/
structure Arrival (τ : Type*) where
  caller : Nat
  request : RunShardRequest τ
  reply : Option (PipelineResult τ)

structure RunnerState (μ τ κ : Type*) where
  generationLock : Option Nat
  backend : Backend μ τ κ
  calls : Nat → CallState τ
  arrivals : List (Arrival τ)

/-- The arguments of the calls, what the environment does at each of their
steps, and the workers they find. -/
structure GenerationSetup (μ τ κ : Type*) where
  runner : PipelineRunner
  ops : TensorOps τ
  fuel : Nat
  inputIds : Nat → τ
  maxNewTokens : Nat → Int
  env : Nat → Nat → StepEnv κ
  backend : Backend μ τ κ

inductive GenerationLabel where
  | acquire (caller : Nat)
  | send (caller : Nat)
  | finish (caller : Nat)
  | resume (caller : Nat)
  | close (caller : Nat)
  deriving DecidableEq

/-- Records the reply to the latest arrival. -/
def recordReply {τ : Type*} (reply : PipelineResult τ) : List (Arrival τ) → List (Arrival τ)
  | [] => []
  | [arrival] => [{ arrival with reply := some reply }]
  | arrival :: rest => arrival :: recordReply reply rest

/-- Whether a step's request reaches the first worker. -/
def PipelineRunner.reachesWorker {κ : Type*} (runner : PipelineRunner) (env : StepEnv κ) :
    Bool :=
  match runner.plan.assignments, (env.hops 0).fault with
  | [], _ => false
  | _, some (.unreachable _ _ _) => false
  | _, _ => true

namespace RunnerState

variable {μ τ κ : Type*}

def setCall (state : RunnerState μ τ κ) (caller : Nat) (lock : Option Nat)
    (call : CallState τ) : RunnerState μ τ κ :=
  { state with generationLock := lock, calls := Function.update state.calls caller call }

end RunnerState

namespace GenerationSetup

variable {μ τ κ : Type*}

def initial (setup : GenerationSetup μ τ κ) : RunnerState μ τ κ where
  generationLock := none
  backend := setup.backend
  calls := fun _ => ⟨.created, []⟩
  arrivals := []

/-- The head of the loop of `generate_stream`: the next iteration, or the end
of the `with` block. -/
def enterIteration (setup : GenerationSetup μ τ κ) (state : RunnerState μ τ κ)
    (caller step : Nat) (nextInput : τ) : RunnerState μ τ κ :=
  if step < (setup.maxNewTokens caller).toNat then
    state.setCall caller (some caller)
      ⟨.running step nextInput, (state.calls caller).yielded⟩
  else
    state.setCall caller none ⟨.exhausted, (state.calls caller).yielded⟩

def request (setup : GenerationSetup μ τ κ) (caller step : Nat) (nextInput : τ) :
    RunShardRequest τ :=
  setup.runner.runRequest (setup.env caller step).requestId nextInput (step = 0)

/-- A step reserves its slot and sends its request. -/
def sendStep (setup : GenerationSetup μ τ κ) (state : RunnerState μ τ κ)
    (caller step : Nat) (nextInput : τ) : RunnerState μ τ κ where
  generationLock := state.generationLock
  backend := PipelineRunner.reserveSlot (setup.env caller step) state.backend
  calls := Function.update state.calls caller
    ⟨.inFlight step nextInput, (state.calls caller).yielded⟩
  arrivals :=
    if setup.runner.reachesWorker (setup.env caller step) then
      state.arrivals ++ [⟨caller, setup.request caller step nextInput, none⟩]
    else state.arrivals

/-- The end of a step, with the result it got: the token is yielded, or the
exception leaves the `with` block. -/
def endStep (setup : GenerationSetup μ τ κ) (state : RunnerState μ τ κ)
    (caller step : Nat) (backend : Backend μ τ κ)
    (result : Except PyException (Option (PipelineResult τ))) : RunnerState μ τ κ :=
  match PipelineRunner.generationStep setup.ops result with
  | .error err =>
      { generationLock := none
        backend := backend
        calls := Function.update state.calls caller
          ⟨.raised err, (state.calls caller).yielded⟩
        arrivals := state.arrivals }
  | .ok yielded =>
      { generationLock := some caller
        backend := backend
        calls := Function.update state.calls caller
          ⟨.suspended (step + 1) yielded.tokenId, (state.calls caller).yielded ++ [yielded]⟩
        arrivals := recordReply yielded.stepResult state.arrivals }

variable [ShardModel μ τ κ]

def step (setup : GenerationSetup μ τ κ) (state : RunnerState μ τ κ) :
    GenerationLabel → Option (RunnerState μ τ κ)
  | .acquire caller =>
      match state.generationLock, (state.calls caller).phase with
      | none, .created =>
          some (setup.enterIteration state caller 0 (setup.inputIds caller))
      | _, _ => none
  | .send caller =>
      match (state.calls caller).phase with
      | .running step nextInput => some (setup.sendStep state caller step nextInput)
      | _ => none
  | .finish caller =>
      match (state.calls caller).phase with
      | .inFlight step nextInput =>
          (setup.runner.finishShardStep setup.fuel (setup.env caller step) nextInput
            (step = 0) state.backend).map fun (backend, result) =>
              setup.endStep state caller step backend result
      | _ => none
  | .resume caller =>
      match (state.calls caller).phase with
      | .suspended step nextInput =>
          some (setup.enterIteration state caller step nextInput)
      | _ => none
  | .close caller =>
      match (state.calls caller).phase with
      | .created =>
          some (state.setCall caller state.generationLock
            ⟨.closed, (state.calls caller).yielded⟩)
      | .suspended _ _ =>
          some (state.setCall caller none ⟨.closed, (state.calls caller).yielded⟩)
      | _ => none

/-- All interleavings of the callers. -/
def system (setup : GenerationSetup μ τ κ) :
    TransitionSystem (RunnerState μ τ κ) GenerationLabel where
  init state := state = setup.initial
  step := setup.step

/-- What one step can do. -/
theorem step_cases {setup : GenerationSetup μ τ κ} {state next : RunnerState μ τ κ}
    {label : GenerationLabel} (hstep : setup.step state label = some next) :
    (∃ caller, state.generationLock = none ∧ (state.calls caller).phase = .created ∧
      next = setup.enterIteration state caller 0 (setup.inputIds caller)) ∨
    (∃ caller step nextInput, (state.calls caller).phase = .running step nextInput ∧
      next = setup.sendStep state caller step nextInput) ∨
    (∃ caller step nextInput backend result,
      (state.calls caller).phase = .inFlight step nextInput ∧
      setup.runner.finishShardStep setup.fuel (setup.env caller step) nextInput
        (step = 0) state.backend = some (backend, result) ∧
      next = setup.endStep state caller step backend result) ∨
    (∃ caller step nextInput, (state.calls caller).phase = .suspended step nextInput ∧
      next = setup.enterIteration state caller step nextInput) ∨
    (∃ caller, (state.calls caller).phase = .created ∧
      next = state.setCall caller state.generationLock
        ⟨.closed, (state.calls caller).yielded⟩) ∨
    (∃ caller step nextInput, (state.calls caller).phase = .suspended step nextInput ∧
      next = state.setCall caller none ⟨.closed, (state.calls caller).yielded⟩) := by
  cases label with
  | acquire caller =>
      simp only [step] at hstep
      split at hstep
      · next hlock hphase =>
          exact .inl ⟨caller, hlock, hphase, (Option.some.inj hstep).symm⟩
      · cases hstep
  | send caller =>
      simp only [step] at hstep
      split at hstep
      · next k input hphase =>
          exact .inr (.inl ⟨caller, k, input, hphase, (Option.some.inj hstep).symm⟩)
      · cases hstep
  | finish caller =>
      simp only [step] at hstep
      split at hstep
      · next k input hphase =>
          obtain ⟨⟨backend, result⟩, hfinish, rfl⟩ := Option.map_eq_some_iff.mp hstep
          exact .inr (.inr (.inl ⟨caller, k, input, backend, result, hphase, hfinish, rfl⟩))
      · cases hstep
  | resume caller =>
      simp only [step] at hstep
      split at hstep
      · next k input hphase =>
          exact .inr (.inr (.inr (.inl
            ⟨caller, k, input, hphase, (Option.some.inj hstep).symm⟩)))
      · cases hstep
  | close caller =>
      simp only [step] at hstep
      split at hstep
      · next hphase =>
          exact .inr (.inr (.inr (.inr (.inl
            ⟨caller, hphase, (Option.some.inj hstep).symm⟩))))
      · next k input hphase =>
          exact .inr (.inr (.inr (.inr (.inr
            ⟨caller, k, input, hphase, (Option.some.inj hstep).symm⟩))))
      · cases hstep

end GenerationSetup

end PiSSM.Orchestrator
