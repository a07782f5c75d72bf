import PiSSM.Lib.Json
import PiSSM.Lib.Utf8

/-!
The lines of a streaming inference response: one for each token, then one with
the result or with the error. Every line is one JSON object and a newline.
-/

namespace PiSSM.Orchestrator

open PiSSM.Lib

/-- The measurements of the last step of a generation. -/
structure StepMeasurements where
  nodeLatenciesMs : List PyFloat
  nodePeakMemoryMb : List Int

/-- The result fields of the last line. -/
structure InferResult where
  output : String
  latencyMs : PyFloat
  nodeLatenciesMs : List PyFloat
  peakMemoryMb : List Int
  numNodes : Int
  numTokens : Int

def tokenLine (text : String) : JsonValue :=
  .object [("token", .str text), ("done", .bool false)]

def errorLine (error : String) : JsonValue :=
  .object [("done", .bool true), ("error", .str error)]

def resultLine (result : InferResult) : JsonValue :=
  .object [
    ("done", .bool true),
    ("output", .str result.output),
    ("latency_ms", .float result.latencyMs),
    ("node_latencies_ms", .array (result.nodeLatenciesMs.map .float)),
    ("peak_memory_mb", .array (result.peakMemoryMb.map .int)),
    ("num_nodes", .int result.numNodes),
    ("num_tokens", .int result.numTokens)]

/-- `json.dumps(...) + "\n"` for each line, one after the other. -/
def linesText (lines : List JsonValue) : List Char :=
  lines.flatMap fun line => line.dumps ++ ['\n']

/-- The body of the response as it is sent. -/
def bodyBytes (lines : List JsonValue) : List UInt8 := utf8Encode (linesText lines)

/-- The lines of a successful generation. -/
def successLines (tokens : List String) (result : InferResult) : List JsonValue :=
  tokens.map tokenLine ++ [resultLine result]

end PiSSM.Orchestrator
