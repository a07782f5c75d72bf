import PiSSM.Inference.RunShard
import PiSSM.Orchestrator.Dispatch
import PiSSM.Orchestrator.ResultStore

/-!
Forward passes and generation as the pipeline runner drives them. One step
reserves a slot, sends one `RunShard` to the first worker of the plan and
waits for the result the last worker delivers. The environment supplies the
request id and the hops of each step. A step is `none` when its `RunShard`
does not come back within the fuel.
-/

namespace PiSSM.Orchestrator

open PiSSM.Lib PiSSM.Inference

structure PipelineResult (τ : Type*) where
  outputTensor : τ
  nodeLatenciesMs : List ℚ
  nodePeakMemoryMb : List Nat
  deriving DecidableEq

structure GenerationStep (τ : Type*) where
  tokenId : τ
  stepResult : PipelineResult τ

structure GenerationResult (τ : Type*) where
  outputIds : τ
  stepResults : List (PipelineResult τ)

/-- The tensor operations generation needs: the token chosen from the logits at
the last position, and concatenation along the sequence. -/
structure TensorOps (τ : Type*) where
  argmaxLast : τ → Except PyException τ
  cat : τ → τ → τ

/-- The server builds the callback address from a host and a port. -/
structure PipelineRunner where
  plan : DispatchPlan
  callbackAddress : String
  callbackAddress_ne : callbackAddress ≠ ""

/-- What a step talks to: the workers and the slot map. -/
structure Backend (μ τ κ : Type*) where
  network : Network μ κ
  resultStore : ResultStore (PipelineResult τ)

/-- What the environment decides about one step. -/
structure StepEnv (κ : Type*) where
  requestId : String
  hops : Nat → Hop κ

namespace PipelineRunner

variable {μ τ κ : Type*}

/-- The request of a step; what it does not set has the defaults of the
message. -/
def runRequest (runner : PipelineRunner) (requestId : String) (inputTensor : τ)
    (resetCache : Bool) : RunShardRequest τ where
  modelName := runner.plan.modelName
  inputTensor := inputTensor
  maxNewTokens := 0
  generateMode := false
  requestId := requestId
  orchestratorCallbackAddress := runner.callbackAddress
  nodeLatenciesMs := []
  nodePeakMemoryMb := []
  resetCache := resetCache

theorem runRequest_pipelineMode (runner : PipelineRunner) (requestId : String)
    (inputTensor : τ) (resetCache : Bool) :
    (runner.runRequest requestId inputTensor resetCache).pipelineMode = true := by
  simp [RunShardRequest.pipelineMode, runRequest, runner.callbackAddress_ne]

/-- The callback servicer's `DeliverResult`. -/
def deliverResult (store : ResultStore (PipelineResult τ))
    (request : DeliverResultRequest τ) : ResultStore (PipelineResult τ) :=
  (store.deliver request.requestId
    ⟨request.outputTensor, request.nodeLatenciesMs, request.nodePeakMemoryMb⟩).1

variable [ShardModel μ τ κ]

/-- A step from its `RunShard` on: the call and the wait for the result. An
error of the call leaves the slot behind. -/
def finishShardStep (runner : PipelineRunner) (fuel : Nat) (env : StepEnv κ)
    (inputTensor : τ) (resetCache : Bool) (backend : Backend μ τ κ) :
    Option (Backend μ τ κ × Except PyException (Option (PipelineResult τ))) :=
  match runner.plan.assignments.head? with
  | none => some (backend, .error (.indexError "list index out of range"))
  | some first =>
      (runShard fuel backend.network env.hops first.address
          (runner.runRequest env.requestId inputTensor resetCache)).map fun outcome =>
        let store := outcome.delivered.foldl deliverResult backend.resultStore
        match outcome.reply with
        | .error err => (⟨outcome.network, store⟩, .error err)
        | .ok _ =>
            (⟨outcome.network, (store.wait env.requestId).1⟩,
              (store.wait env.requestId).2)

def reserveSlot (env : StepEnv κ) (backend : Backend μ τ κ) : Backend μ τ κ :=
  { backend with resultStore := backend.resultStore.createSlot env.requestId }

def runShardStep (runner : PipelineRunner) (fuel : Nat) (env : StepEnv κ) (inputTensor : τ)
    (resetCache : Bool) (backend : Backend μ τ κ) :
    Option (Backend μ τ κ × Except PyException (Option (PipelineResult τ))) :=
  runner.finishShardStep fuel env inputTensor resetCache (reserveSlot env backend)

def runForward (runner : PipelineRunner) (fuel : Nat) (env : StepEnv κ) (inputTensor : τ)
    (backend : Backend μ τ κ) :
    Option (Backend μ τ κ × Except PyException (Option (PipelineResult τ))) :=
  runner.runShardStep fuel env inputTensor true backend

/-- What the loop of `generate_stream` makes of the result of a step. -/
def generationStep (ops : TensorOps τ)
    (result : Except PyException (Option (PipelineResult τ))) :
    Except PyException (GenerationStep τ) :=
  match result with
  | .error err => .error err
  | .ok none =>
      .error (.attributeError "'NoneType' object has no attribute 'output_tensor'")
  | .ok (some result) =>
      match ops.argmaxLast result.outputTensor with
      | .error err => .error err
      | .ok nextToken => .ok ⟨nextToken, result⟩

/-- A step is yielded for a result, with the token that `argmax` takes from it. -/
theorem generationStep_ok {ops : TensorOps τ}
    {outcome : Except PyException (Option (PipelineResult τ))} {yielded : GenerationStep τ}
    (hyield : generationStep ops outcome = .ok yielded) :
    outcome = .ok (some yielded.stepResult) ∧
      ops.argmaxLast yielded.stepResult.outputTensor = .ok yielded.tokenId := by
  unfold generationStep at hyield
  split at hyield
  · cases hyield
  · cases hyield
  · split at hyield
    · cases hyield
    · next nextToken hargmax =>
        obtain rfl := Except.ok.inj hyield
        exact ⟨rfl, hargmax⟩

/-- The loop of `generate_stream`, consumed to its end, from iteration `step`
with `remaining` iterations to go: the steps yielded and the exception that
ended it, if any. -/
def streamLoop (runner : PipelineRunner) (ops : TensorOps τ) (fuel : Nat)
    (env : Nat → StepEnv κ) : Nat → Nat → τ → Backend μ τ κ →
    Option (Backend μ τ κ × List (GenerationStep τ) × Option PyException)
  | 0, _, _, backend => some (backend, [], none)
  | remaining + 1, step, nextInput, backend =>
      match runner.runShardStep fuel (env step) nextInput (step = 0) backend with
      | none => none
      | some (backend, result) =>
          match generationStep ops result with
          | .error err => some (backend, [], some err)
          | .ok yielded =>
              (streamLoop runner ops fuel env remaining (step + 1) yielded.tokenId
                backend).map fun (backend, rest, err) => (backend, yielded :: rest, err)

/-- `generate_stream` consumed to its end by the only caller. -/
def generateStream (runner : PipelineRunner) (ops : TensorOps τ) (fuel : Nat)
    (env : Nat → StepEnv κ) (inputIds : τ) (maxNewTokens : Int) (backend : Backend μ τ κ) :
    Option (Backend μ τ κ × List (GenerationStep τ) × Option PyException) :=
  runner.streamLoop ops fuel env maxNewTokens.toNat 0 inputIds backend

def generate (runner : PipelineRunner) (ops : TensorOps τ) (fuel : Nat)
    (env : Nat → StepEnv κ) (inputIds : τ) (maxNewTokens : Int) (backend : Backend μ τ κ) :
    Option (Backend μ τ κ × Except PyException (GenerationResult τ)) :=
  (runner.generateStream ops fuel env inputIds maxNewTokens backend).map
    fun (backend, steps, err) =>
      match err with
      | some err => (backend, .error err)
      | none =>
          (backend, .ok ⟨steps.foldl (fun ids step => ops.cat ids step.tokenId) inputIds,
            steps.map GenerationStep.stepResult⟩)

/-- Decoding without cached state: every step runs the whole sequence so far
from the start. The steps, the final sequence and the exception, if any. -/
def recomputeLoop (runner : PipelineRunner) (ops : TensorOps τ) (fuel : Nat)
    (env : Nat → StepEnv κ) : Nat → Nat → τ → Backend μ τ κ →
    Option (Backend μ τ κ × List (GenerationStep τ) × τ × Option PyException)
  | 0, _, sequence, backend => some (backend, [], sequence, none)
  | remaining + 1, step, sequence, backend =>
      match runner.runForward fuel (env step) sequence backend with
      | none => none
      | some (backend, result) =>
          match generationStep ops result with
          | .error err => some (backend, [], sequence, some err)
          | .ok yielded =>
              (recomputeLoop runner ops fuel env remaining (step + 1)
                (ops.cat sequence yielded.tokenId) backend).map
                fun (backend, rest, final, err) => (backend, yielded :: rest, final, err)

end PipelineRunner

theorem host_ne : "host:50050" ≠ "" := by
  decide

def twoNodeRunner : PipelineRunner := ⟨twoNodePlan, "host:50050", host_ne⟩

end PiSSM.Orchestrator
