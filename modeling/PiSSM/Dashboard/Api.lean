import PiSSM.Lib.JsonParser
import PiSSM.Lib.Utf8

/-!
The dashboard's `runInferenceStream` from the point where the response has begun:
it decodes the chunks it reads into a buffer, takes complete lines off the buffer
and hands each parsed line to the token callback or keeps it as the result.
`JSON.parse` is a parameter. Properties a parsed line does not have are
`undefined`, here `none`.
-/

namespace PiSSM.Dashboard

open PiSSM.Lib

inductive JsError where
  | syntaxError
  | typeError
  /-- `new Error(message)`. -/
  | error (message : JsonValue)

/-- `JSON.parse`, which keeps a number as it is written. -/
def jsonParse (text : List Char) : Except JsError JsonValue :=
  match JsonValue.loads text with
  | some value => .ok value
  | none => .error .syntaxError

theorem jsonParse_dumps {value : JsonValue} (hwell : value.WellFormed) :
    jsonParse value.dumps = .ok value := by
  rw [jsonParse, JsonValue.loads_dumps hwell]

/-- What `String.prototype.trim` takes away. -/
def isJsWhitespace (c : Char) : Bool :=
  (0x0009 ≤ c.toNat ∧ c.toNat ≤ 0x000D) ∨ c.toNat = 0x0020 ∨ c.toNat = 0x00A0 ∨
    c.toNat = 0x1680 ∨ (0x2000 ≤ c.toNat ∧ c.toNat ≤ 0x200A) ∨ c.toNat = 0x2028 ∨
    c.toNat = 0x2029 ∨ c.toNat = 0x202F ∨ c.toNat = 0x205F ∨ c.toNat = 0x3000 ∨
    c.toNat = 0xFEFF

def trim (text : List Char) : List Char :=
  ((text.dropWhile isJsWhitespace).reverse.dropWhile isJsWhitespace).reverse

/-- `value.name`, which `null` does not have. -/
def property (value : JsonValue) (name : String) : Except JsError (Option JsonValue) :=
  match value with
  | .null => .error .typeError
  | .object fields => .ok (fields.lookup name)
  | _ => .ok none

/-- A float is zero when the digits before its exponent are. -/
def truthy : Option JsonValue → Bool
  | none => false
  | some .null => false
  | some (.bool value) => value
  | some (.int value) => value ≠ 0
  | some (.float value) =>
      (value.repr.takeWhile fun c => c ≠ 'e' ∧ c ≠ 'E').any fun c => '1' ≤ c ∧ c ≤ '9'
  | some (.str value) => value ≠ ""
  | some (.array _) => true
  | some (.object _) => true

structure InferResult where
  output : Option JsonValue
  latencyMs : Option JsonValue
  nodeLatenciesMs : Option JsonValue
  peakMemoryMb : Option JsonValue
  numNodes : Option JsonValue
  numTokens : Option JsonValue

/-- What the loop has done so far: the arguments of `onToken` and `finalResult`. -/
structure StreamProgress where
  tokens : List (Option JsonValue)
  finalResult : Option InferResult

/-- The body of the inner loop for one line. -/
def handleLine (parse : List Char → Except JsError JsonValue) (progress : StreamProgress)
    (rawLine : List Char) : Except JsError StreamProgress := do
  let line := trim rawLine
  if line = [] then return progress
  let chunk ← parse line
  if truthy (← property chunk "done") then
    let error ← property chunk "error"
    if truthy error then throw (.error (error.getD .null))
    return { progress with
      finalResult := some {
        output := ← property chunk "output"
        latencyMs := ← property chunk "latency_ms"
        nodeLatenciesMs := ← property chunk "node_latencies_ms"
        peakMemoryMb := ← property chunk "peak_memory_mb"
        numNodes := ← property chunk "num_nodes"
        numTokens := ← property chunk "num_tokens" } }
  else
    return { progress with tokens := progress.tokens ++ [← property chunk "token"] }

/-- The first complete line of the buffer and what follows its newline. -/
def nextLine : List Char → Option (List Char × List Char)
  | [] => none
  | c :: rest =>
      if c = '\n' then some ([], rest)
      else (nextLine rest).map fun (line, after) => (c :: line, after)

theorem nextLine_length {buffer line after : List Char}
    (hnext : nextLine buffer = some (line, after)) : after.length < buffer.length := by
  induction buffer generalizing line with
  | nil => cases hnext
  | cons c rest ih =>
      unfold nextLine at hnext
      split at hnext
      · obtain ⟨_, rfl⟩ := Prod.mk.inj (Option.some.inj hnext)
        exact Nat.lt_succ_self _
      · obtain ⟨⟨line', after'⟩, hrest, heq⟩ := Option.map_eq_some_iff.mp hnext
        obtain ⟨_, rfl⟩ := Prod.mk.inj heq
        exact Nat.lt_succ_of_lt (ih hrest)

/-- The inner loop: the progress, the buffer it leaves and the exception that has
ended it, if any. -/
def drainLines (parse : List Char → Except JsError JsonValue) (progress : StreamProgress)
    (buffer : List Char) : StreamProgress × List Char × Option JsError :=
  match _hnext : nextLine buffer with
  | none => (progress, buffer, none)
  | some (line, after) =>
      match handleLine parse progress line with
      | .error err => (progress, after, some err)
      | .ok next => drainLines parse next after
  termination_by buffer.length
  decreasing_by exact nextLine_length _hnext

/-- The outer loop over what `reader.read()` gives. -/
def readChunks (parse : List Char → Except JsError JsonValue) (decoder : Utf8Decoder)
    (progress : StreamProgress) (buffer : List Char) :
    List (List UInt8) → StreamProgress × Option JsError
  | [] => (progress, none)
  | chunk :: rest =>
      let (next, text) := decoder.decode chunk
      match drainLines parse progress (buffer ++ text) with
      | (progress, _, some err) => (progress, some err)
      | (progress, buffer, none) => readChunks parse next progress buffer rest

/-- The calls of `onToken` and how the promise is settled. -/
def runInferenceStream (parse : List Char → Except JsError JsonValue)
    (chunks : List (List UInt8)) : List (Option JsonValue) × Except JsError InferResult :=
  match readChunks parse .start ⟨[], none⟩ [] chunks with
  | (progress, some err) => (progress.tokens, .error err)
  | (progress, none) =>
      match progress.finalResult with
      | none =>
          (progress.tokens, .error (.error (.str "Stream ended without a final result")))
      | some result => (progress.tokens, .ok result)

/-- What `fetch` has come to: a response that is not ok, with what `response.json()` gives
for its body if it gives anything, a body that is read to its end, or one that breaks off. -/
inductive FetchResponse where
  | failed (status : Nat) (body : Option JsonValue)
  | streaming (chunks : List (List UInt8))
  | broken (chunks : List (List UInt8))

/-- The message of the `ApiError` for a response that is not ok: the detail of its body,
unless there is none. -/
def failureMessage (path : String) (status : Nat) (body : Option JsonValue) : JsonValue :=
  let detail := body.bind fun value =>
    match value with
    | .object fields => fields.lookup "detail"
    | _ => none
  match detail with
  | none | some .null => .str s!"Request to {path} failed with {status}"
  | some detail => detail

/-- `runInferenceStream` from its `fetch` on. `reader.read()` of a broken body rejects. -/
def postInferenceStream (parse : List Char → Except JsError JsonValue) :
    FetchResponse → List (Option JsonValue) × Except JsError InferResult
  | .failed status body => ([], .error (.error (failureMessage "/infer" status body)))
  | .streaming chunks => runInferenceStream parse chunks
  | .broken chunks =>
      match readChunks parse .start ⟨[], none⟩ [] chunks with
      | (progress, some err) => (progress.tokens, .error err)
      | (progress, none) => (progress.tokens, .error .typeError)

end PiSSM.Dashboard
