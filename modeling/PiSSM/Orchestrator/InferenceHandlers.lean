import PiSSM.Orchestrator.InferenceStream
import PiSSM.Orchestrator.PipelineRunner

/-!
The two handlers of an inference request, from the moment where the session is ready:
the one buffers the whole generation and returns one JSON object, the other consumes the
generator step by step and streams lines. Time and the table of model states are read
through the environment of a handler.
-/

namespace PiSSM.Orchestrator

open PiSSM.Lib PiSSM.Inference

/-- The runner and the tokenizer of a resident pipeline. `row` reads the ids of the one
sequence of a batch. -/
structure ResidentSession (τ : Type*) where
  runner : PipelineRunner
  ops : TensorOps τ
  tokenize : String → Except PyException τ
  row : τ → List Nat
  decode : List Nat → Except PyException String

structure InferSubmission where
  modelName : String
  input : String
  maxNewTokens : Int

/-- What a handler finds: the way its steps go, the time they take and the number of
nodes in the table at the end. -/
structure HandlerEnv (κ : Type*) where
  fuel : Nat
  steps : Nat → StepEnv κ
  latencyMs : PyFloat
  numNodes : Except PyException Nat

/-- The JSON of a buffered response. -/
def responseJson (result : InferResult) : JsonValue :=
  .object [
    ("output", .str result.output),
    ("latency_ms", .float result.latencyMs),
    ("node_latencies_ms", .array (result.nodeLatenciesMs.map .float)),
    ("peak_memory_mb", .array (result.peakMemoryMb.map .int)),
    ("num_nodes", .int result.numNodes),
    ("num_tokens", .int result.numTokens)]

variable {μ τ κ : Type*} [ShardModel μ τ κ]

/-- The lists a handler makes of the measurements of a step, with the text of each
time. -/
def PipelineResult.measured (floatText : ℚ → PyFloat) (result : PipelineResult τ) :
    StepMeasurements where
  nodeLatenciesMs := result.nodeLatenciesMs.map floatText
  nodePeakMemoryMb := result.nodePeakMemoryMb.map Int.ofNat

namespace ResidentSession

variable (session : ResidentSession τ) (floatText : ℚ → PyFloat) (env : HandlerEnv κ)

/-- The id in a tensor of one token. -/
def tokenOf (tokenId : τ) : Nat :=
  (session.row tokenId).headD 0

/-- The code of `_run_inference` after the generation. -/
def bufferedResult (submission : InferSubmission) (result : GenerationResult τ) :
    Except PyException InferResult := do
  let output ← session.decode (session.row result.outputIds)
  let lastStep := result.stepResults.getLast?.map (PipelineResult.measured floatText)
  let numNodes ← env.numNodes
  return {
    output := output
    latencyMs := env.latencyMs
    nodeLatenciesMs := lastStep.elim [] StepMeasurements.nodeLatenciesMs
    peakMemoryMb := lastStep.elim [] StepMeasurements.nodePeakMemoryMb
    numNodes := numNodes
    numTokens := submission.maxNewTokens }

def runInference (submission : InferSubmission) (backend : Backend μ τ κ) :
    Option (Backend μ τ κ × Except PyException JsonValue) :=
  match session.tokenize submission.input with
  | .error err => some (backend, .error err)
  | .ok inputIds =>
      (session.runner.generate session.ops env.fuel env.steps inputIds submission.maxNewTokens
        backend).map fun (backend, outcome) =>
          match outcome with
          | .error err => (backend, .error err)
          | .ok result =>
              (backend, (session.bufferedResult floatText env submission result).map responseJson)

/-- The loop of `_run_inference_stream` over the generator, from iteration `step` with
`remaining` iterations to go, and the code after it. A token that cannot be decoded ends
the loop and closes the generator. -/
def streamTurns :
    Nat → Nat → τ → Backend μ τ κ → StreamBody → Option (Backend μ τ κ × StreamBody)
  | 0, _, _, backend, body =>
      (body.next env.numNodes .exhausted).bind fun closing =>
        (closing.next env.numNodes
          (.summarize env.latencyMs (session.decode closing.outputIds))).map fun ended =>
            (backend, ended)
  | remaining + 1, step, nextInput, backend, body =>
      match session.runner.runShardStep env.fuel (env.steps step) nextInput (step = 0)
          backend with
      | none => none
      | some (backend, result) =>
          match PipelineRunner.generationStep session.ops result with
          | .error err =>
              (body.next env.numNodes (.stepFailed err)).map fun ended => (backend, ended)
          | .ok yielded =>
              (body.next env.numNodes
                (.token (session.tokenOf yielded.tokenId) (yielded.stepResult.measured floatText)
                  (session.decode (session.row yielded.tokenId)))).bind fun advanced =>
                if advanced.position = .looping then
                  streamTurns remaining (step + 1) yielded.tokenId backend advanced
                else
                  some (backend, advanced)

/-- `_run_inference_stream` consumed to its end. -/
def runInferenceStream (submission : InferSubmission) (backend : Backend μ τ κ) :
    Option (Backend μ τ κ × StreamBody) :=
  let created := StreamBody.create submission.modelName submission.maxNewTokens
  match session.tokenize submission.input with
  | .error err => some (backend, created.tokenizeInput (.error err))
  | .ok inputIds =>
      session.streamTurns floatText env submission.maxNewTokens.toNat 0 inputIds backend
        (created.tokenizeInput (.ok (session.row inputIds)))

end ResidentSession

end PiSSM.Orchestrator
