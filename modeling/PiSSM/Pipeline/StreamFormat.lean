import PiSSM.Dashboard.Api
import PiSSM.Orchestrator.InferenceLines

/-!
The streaming wire format from the server to the browser. Draining the buffer
after every chunk comes to the same as draining the whole text at once, so the
cuts between chunks do not matter; and the text the server sends is drained line
by line into the objects it was made from.
-/

namespace PiSSM.Pipeline

open PiSSM.Lib PiSSM.Dashboard
open PiSSM.Orchestrator (tokenLine errorLine resultLine linesText bodyBytes successLines)

variable {parse : List Char → Except JsError JsonValue} {progress : StreamProgress}

theorem nextLine_append {buffer line after : List Char} (more : List Char)
    (hnext : nextLine buffer = some (line, after)) :
    nextLine (buffer ++ more) = some (line, after ++ more) := by
  induction buffer generalizing line with
  | nil => cases hnext
  | cons c rest ih =>
      simp only [List.cons_append, nextLine] at hnext ⊢
      split at hnext
      · next hc =>
          obtain ⟨rfl, rfl⟩ := Prod.mk.inj (Option.some.inj hnext)
          rw [if_pos hc]
      · next hc =>
          obtain ⟨⟨line', after'⟩, hrest, heq⟩ := Option.map_eq_some_iff.mp hnext
          obtain ⟨rfl, rfl⟩ := Prod.mk.inj heq
          rw [if_neg hc, ih hrest, Option.map_some]

/-- The first line of a text is what comes before its first newline. -/
theorem nextLine_of_not_mem {line : List Char} (rest : List Char) (hline : '\n' ∉ line) :
    nextLine (line ++ '\n' :: rest) = some (line, rest) := by
  induction line with
  | nil => rfl
  | cons c line ih =>
      rw [List.mem_cons, not_or] at hline
      rw [List.cons_append, nextLine, if_neg (Ne.symm hline.1), ih hline.2, Option.map_some]

theorem drainLines_none {buffer : List Char} (hnext : nextLine buffer = none) :
    drainLines parse progress buffer = (progress, buffer, none) := by
  rw [drainLines]
  split
  · rfl
  · next hsome =>
      rw [hnext] at hsome
      cases hsome

theorem drainLines_error {buffer line after : List Char} {err : JsError}
    (hnext : nextLine buffer = some (line, after))
    (hline : handleLine parse progress line = .error err) :
    drainLines parse progress buffer = (progress, after, some err) := by
  rw [drainLines]
  split
  · next hnone =>
      rw [hnext] at hnone
      cases hnone
  · next hsome =>
      obtain ⟨rfl, rfl⟩ := Prod.mk.inj (Option.some.inj (hnext.symm.trans hsome))
      rw [hline]

theorem drainLines_ok {buffer line after : List Char} {next : StreamProgress}
    (hnext : nextLine buffer = some (line, after))
    (hline : handleLine parse progress line = .ok next) :
    drainLines parse progress buffer = drainLines parse next after := by
  rw [drainLines]
  split
  · next hnone =>
      rw [hnext] at hnone
      cases hnone
  · next hsome =>
      obtain ⟨rfl, rfl⟩ := Prod.mk.inj (Option.some.inj (hnext.symm.trans hsome))
      rw [hline]

/-- What has come of a buffer, apart from the rest it leaves. -/
def settled (drained : StreamProgress × List Char × Option JsError) :
    StreamProgress × Option JsError :=
  (drained.1, drained.2.2)

/-- Draining a buffer and then what is left of it together with more text is
draining all of it. -/
theorem drainLines_append (more : List Char) (progress : StreamProgress)
    (buffer : List Char) :
    settled (drainLines parse progress (buffer ++ more)) =
      match drainLines parse progress buffer with
      | (reached, _, some err) => (reached, some err)
      | (reached, rest, none) => settled (drainLines parse reached (rest ++ more)) := by
  induction hlength : buffer.length using Nat.strong_induction_on generalizing progress buffer with
  | _ length ih =>
      cases hnext : nextLine buffer with
      | none => rw [drainLines_none hnext]
      | some found =>
          obtain ⟨line, after⟩ := found
          have happend := nextLine_append more hnext
          cases hline : handleLine parse progress line with
          | error err =>
              rw [drainLines_error hnext hline, drainLines_error happend hline]
              rfl
          | ok next =>
              have hshorter : after.length < length := hlength ▸ nextLine_length hnext
              rw [drainLines_ok hnext hline, drainLines_ok happend hline]
              exact ih after.length hshorter next after rfl

/-- What is left of a drained buffer has no complete line. -/
theorem drainLines_rest {buffer rest : List Char} {reached : StreamProgress}
    (hdrained : drainLines parse progress buffer = (reached, rest, none)) :
    nextLine rest = none := by
  induction hlength : buffer.length using Nat.strong_induction_on generalizing progress buffer with
  | _ length ih =>
      cases hnext : nextLine buffer with
      | none =>
          rw [drainLines_none hnext] at hdrained
          obtain ⟨_, hrest, _⟩ := Prod.mk.inj hdrained |>.imp id Prod.mk.inj
          rw [← hrest]
          exact hnext
      | some found =>
          obtain ⟨line, after⟩ := found
          cases hline : handleLine parse progress line with
          | error err =>
              rw [drainLines_error hnext hline] at hdrained
              cases hdrained
          | ok next =>
              have hshorter : after.length < length := hlength ▸ nextLine_length hnext
              rw [drainLines_ok hnext hline] at hdrained
              exact ih after.length hshorter hdrained rfl

/-- The chunks of a stream are drained as their whole text is. -/
theorem readChunks_eq_drainLines (chunks : List (List UInt8)) (decoder : Utf8Decoder)
    (progress : StreamProgress) (buffer : List Char) (hnext : nextLine buffer = none) :
    readChunks parse decoder progress buffer chunks =
      settled (drainLines parse progress
        (buffer ++ (decoder.decodeChunks chunks).flatten)) := by
  induction chunks generalizing decoder progress buffer with
  | nil =>
      simp only [Utf8Decoder.decodeChunks, List.flatten_nil, List.append_nil]
      rw [drainLines_none hnext]
      rfl
  | cons chunk rest ih =>
      have hread : readChunks parse decoder progress buffer (chunk :: rest) =
          match drainLines parse progress (buffer ++ (decoder.decode chunk).2) with
          | (reached, _, some err) => (reached, some err)
          | (reached, left, none) =>
              readChunks parse (decoder.decode chunk).1 reached left rest := rfl
      rw [hread, Utf8Decoder.decodeChunks, List.flatten_cons, ← List.append_assoc,
        drainLines_append]
      cases hdrained : drainLines parse progress (buffer ++ (decoder.decode chunk).2) with
      | mk reached drained =>
          obtain ⟨left, err⟩ := drained
          cases err with
          | some err => rfl
          | none => exact ih (decoder.decode chunk).1 reached left (drainLines_rest hdrained)

/-- Trimming leaves a line alone that begins and ends with braces. -/
theorem trim_braced (body : List Char) :
    trim ('{' :: body ++ ['}']) = '{' :: body ++ ['}'] := by
  have hopen : isJsWhitespace '{' = false := by decide
  have hclose : isJsWhitespace '}' = false := by decide
  have hleft : ('{' :: body ++ ['}']).dropWhile isJsWhitespace = '{' :: body ++ ['}'] := by
    rw [List.cons_append, List.dropWhile_cons_of_neg (by simp [hopen])]
  have hright : ('{' :: body ++ ['}']).reverse.dropWhile isJsWhitespace =
      ('{' :: body ++ ['}']).reverse := by
    rw [List.reverse_append, List.reverse_singleton, List.singleton_append,
      List.dropWhile_cons_of_neg (by simp [hclose])]
  rw [trim, hleft, hright, List.reverse_reverse]

/-- The text of an object reaches the parser as it was sent. -/
theorem handleLine_object (fields : List (String × JsonValue)) :
    handleLine parse progress (JsonValue.object fields).dumps =
      (parse (JsonValue.object fields).dumps).bind fun chunk => do
        if truthy (← property chunk "done") then
          let error ← property chunk "error"
          if truthy error then throw (.error (error.getD .null))
          return { progress with
            finalResult := some {
              output := ← property chunk "output"
              latencyMs := ← property chunk "latency_ms"
              nodeLatenciesMs := ← property chunk "node_latencies_ms"
              peakMemoryMb := ← property chunk "peak_memory_mb"
              numNodes := ← property chunk "num_nodes"
              numTokens := ← property chunk "num_tokens" } }
        else
          return { progress with
            tokens := progress.tokens ++ [← property chunk "token"] } := by
  have hdumps : (JsonValue.object fields).dumps =
      '{' :: JsonValue.dumpsFields fields ++ ['}'] := by
    rw [JsonValue.dumps]
  unfold handleLine
  rw [hdumps, trim_braced]
  rfl

theorem handleLine_token {text : String}
    (hparse : parse (tokenLine text).dumps = .ok (tokenLine text)) :
    handleLine parse progress (tokenLine text).dumps =
      .ok { progress with tokens := progress.tokens ++ [some (.str text)] } := by
  unfold tokenLine at hparse ⊢
  rw [handleLine_object, hparse]
  rfl

/-- The fields of a result line as the client reads them. -/
def clientResult (result : Orchestrator.InferResult) : Dashboard.InferResult where
  output := some (.str result.output)
  latencyMs := some (.float result.latencyMs)
  nodeLatenciesMs := some (.array (result.nodeLatenciesMs.map .float))
  peakMemoryMb := some (.array (result.peakMemoryMb.map .int))
  numNodes := some (.int result.numNodes)
  numTokens := some (.int result.numTokens)

theorem handleLine_result {result : Orchestrator.InferResult}
    (hparse : parse (resultLine result).dumps = .ok (resultLine result)) :
    handleLine parse progress (resultLine result).dumps =
      .ok { progress with finalResult := some (clientResult result) } := by
  unfold resultLine at hparse ⊢
  rw [handleLine_object, hparse]
  rfl

/-- What the client makes of a last line without the fields of a result. -/
def undefinedResult : Dashboard.InferResult where
  output := none
  latencyMs := none
  nodeLatenciesMs := none
  peakMemoryMb := none
  numNodes := none
  numTokens := none

/-- An error line is told from a result line by its message being truthy. -/
theorem handleLine_errorLine {error : String}
    (hparse : parse (errorLine error).dumps = .ok (errorLine error)) :
    handleLine parse progress (errorLine error).dumps =
      if error = "" then .ok { progress with finalResult := some undefinedResult }
      else .error (.error (.str error)) := by
  unfold errorLine at hparse ⊢
  rw [handleLine_object, hparse]
  have hdone : property (.object [("done", .bool true), ("error", .str error)]) "done" =
      .ok (some (.bool true)) := rfl
  have herror : property (.object [("done", .bool true), ("error", .str error)]) "error" =
      .ok (some (.str error)) := rfl
  split
  · next hempty =>
      subst hempty
      rfl
  · next hmessage =>
      have htruthy : truthy (some (.str error)) = true := decide_eq_true hmessage
      have hflag : truthy (some (.bool true)) = true := rfl
      simp only [Except.bind, bind, hdone, herror, hflag, htruthy, if_true]
      rfl

/-- A line the server has sent ends at its own newline. -/
theorem nextLine_dumps (line : JsonValue) (rest : List Char) :
    nextLine (line.dumps ++ '\n' :: rest) = some (line.dumps, rest) := by
  have hnewline : '\n' ∉ line.dumps := fun hmem =>
    absurd (line.dumps_printable '\n' hmem) (by decide)
  exact nextLine_of_not_mem rest hnewline

/-- A line the server has sent, in front of the rest of the text. -/
theorem drainLines_line {line : JsonValue} {rest : List Char} {next : StreamProgress}
    (hline : handleLine parse progress line.dumps = .ok next) :
    drainLines parse progress (line.dumps ++ '\n' :: rest) = drainLines parse next rest :=
  drainLines_ok (nextLine_dumps line rest) hline

/-- The lines of the tokens, drained one after the other. -/
theorem drainLines_tokens (tokens : List String) (rest : List Char) (progress : StreamProgress)
    (hparse : ∀ text ∈ tokens, parse (tokenLine text).dumps = .ok (tokenLine text)) :
    drainLines parse progress (linesText (tokens.map tokenLine) ++ rest) =
      drainLines parse
        { progress with tokens := progress.tokens ++ tokens.map fun text => some (.str text) }
        rest := by
  induction tokens generalizing progress with
  | nil =>
      rw [List.map_nil, List.map_nil, List.append_nil]
      rfl
  | cons text more ih =>
      obtain ⟨hfirst, hmore⟩ := List.forall_mem_cons.mp hparse
      have htext : linesText ((text :: more).map tokenLine) ++ rest =
          (tokenLine text).dumps ++ '\n' :: (linesText (more.map tokenLine) ++ rest) := by
        simp [linesText]
      rw [htext, drainLines_line (handleLine_token hfirst), ih _ hmore, List.map_cons,
        List.append_assoc]
      rfl

theorem linesText_append (before after : List JsonValue) :
    linesText (before ++ after) = linesText before ++ linesText after :=
  List.flatMap_append

/-- The lines of a successful generation, drained one after the other. -/
theorem drainLines_success (tokens : List String) (result : Orchestrator.InferResult)
    (progress : StreamProgress)
    (hparse : ∀ line ∈ successLines tokens result, parse line.dumps = .ok line) :
    drainLines parse progress (linesText (successLines tokens result)) =
      (⟨progress.tokens ++ tokens.map fun text => some (.str text),
        some (clientResult result)⟩, [], none) := by
  have htokens : ∀ text ∈ tokens, parse (tokenLine text).dumps = .ok (tokenLine text) :=
    fun text hmem => hparse _ (List.mem_append_left _ (List.mem_map_of_mem hmem))
  have hresult := hparse (resultLine result) (List.mem_append_right _ List.mem_cons_self)
  have htext : linesText [resultLine result] = (resultLine result).dumps ++ '\n' :: [] := by
    simp [linesText]
  rw [successLines, linesText_append, drainLines_tokens tokens _ progress htokens, htext,
    drainLines_line (handleLine_result hresult), drainLines_none rfl]

/-- The lines of a generation that fails, drained one after the other. -/
theorem drainLines_failure (tokens : List String) (error : String) (progress : StreamProgress)
    (hparse : ∀ line ∈ tokens.map tokenLine ++ [errorLine error], parse line.dumps = .ok line) :
    drainLines parse progress (linesText (tokens.map tokenLine ++ [errorLine error])) =
      let called := progress.tokens ++ tokens.map fun text => some (.str text)
      if error = "" then (⟨called, some undefinedResult⟩, [], none)
      else (⟨called, progress.finalResult⟩, [], some (.error (.str error))) := by
  have htokens : ∀ text ∈ tokens, parse (tokenLine text).dumps = .ok (tokenLine text) :=
    fun text hmem => hparse _ (List.mem_append_left _ (List.mem_map_of_mem hmem))
  have herror := hparse (errorLine error) (List.mem_append_right _ List.mem_cons_self)
  have hline := @handleLine_errorLine parse
    { progress with tokens := progress.tokens ++ tokens.map fun text => some (.str text) }
    error herror
  have htext : linesText [errorLine error] = (errorLine error).dumps ++ '\n' :: [] := by
    simp [linesText]
  rw [linesText_append, drainLines_tokens tokens _ progress htokens, htext]
  dsimp only
  split
  · next hempty =>
      rw [if_pos hempty] at hline
      rw [drainLines_line hline, drainLines_none rfl]
  · next hmessage =>
      rw [if_neg hmessage] at hline
      exact drainLines_error (nextLine_dumps _ []) hline

/-- The text of the lines is ASCII. -/
theorem linesText_ascii (lines : List JsonValue) : ∀ c ∈ linesText lines, c.toNat < 0x80 := by
  intro c hmem
  obtain ⟨line, _, hc⟩ := List.mem_flatMap.mp hmem
  rcases List.mem_append.mp hc with hc | hc
  · have hprintable := of_decide_eq_true (line.dumps_printable c hc)
    omega
  · obtain rfl := List.mem_singleton.mp hc
    decide

/-- Whatever way the bytes of the lines are cut into chunks, the client drains their
text. -/
theorem readChunks_lines {lines : List JsonValue} {chunks : List (List UInt8)}
    (hchunks : chunks.flatten = bodyBytes lines) :
    readChunks parse .start ⟨[], none⟩ [] chunks =
      settled (drainLines parse ⟨[], none⟩ (linesText lines)) := by
  have htext : (Utf8Decoder.start.decodeChunks chunks).flatten = linesText lines := by
    rw [Utf8Decoder.decodeChunks_flatten, hchunks]
    exact Utf8Decoder.decode_ascii rfl (linesText_ascii _)
  rw [readChunks_eq_drainLines chunks .start ⟨[], none⟩ [] rfl, htext, List.nil_append]

/-- Whatever way the bytes of a successful response are cut into chunks, the
client is called back with the token texts in order and resolves to the six
fields of the result. -/
theorem stream_round_trip (parse : List Char → Except JsError JsonValue)
    (tokens : List String) (result : Orchestrator.InferResult)
    (hparse : ∀ line ∈ successLines tokens result, parse line.dumps = .ok line)
    (chunks : List (List UInt8))
    (hchunks : chunks.flatten = bodyBytes (successLines tokens result)) :
    runInferenceStream parse chunks =
      (tokens.map fun text => some (.str text), .ok (clientResult result)) := by
  unfold runInferenceStream
  rw [readChunks_lines hchunks, drainLines_success tokens result ⟨[], none⟩ hparse]
  rfl

/-- A parser that knows the texts of these lines. -/
def parseLines (lines : List JsonValue) (text : List Char) : Except JsError JsonValue :=
  match lines.find? fun line => line.dumps = text with
  | some line => .ok line
  | none => .error .syntaxError

theorem parseLines_of_mem {lines : List JsonValue} (hdistinct : (lines.map JsonValue.dumps).Nodup)
    {line : JsonValue} (hmem : line ∈ lines) : parseLines lines line.dumps = .ok line := by
  unfold parseLines
  cases hfind : lines.find? (fun other => other.dumps = line.dumps) with
  | none => exact absurd (List.find?_eq_none.mp hfind line hmem) (by simp)
  | some other =>
      have hsame : other.dumps = line.dumps := by simpa using List.find?_some hfind
      have hother := List.mem_of_find?_eq_some hfind
      rw [List.inj_on_of_nodup_map hdistinct hother hmem hsame]

def quotedTokens : List String := ["say \"hi\"\n", "🎉"]

theorem quotedLatency_printable : AllPrintable "12.5".toList :=
  AllPrintable.of_all (by decide)

theorem quotedNodeLatency_printable : AllPrintable "3.25".toList :=
  AllPrintable.of_all (by decide)

def quotedResult : Orchestrator.InferResult :=
  ⟨"say \"hi\"\n🎉", ⟨"12.5".toList, quotedLatency_printable⟩,
    [⟨"3.25".toList, quotedNodeLatency_printable⟩], [210], 1, 2⟩

/-- Two tokens with quotes, a newline and a character beyond the basic plane,
arriving one byte at a time. -/
theorem stream_round_trip_bytes :
    runInferenceStream (parseLines (successLines quotedTokens quotedResult))
        ((bodyBytes (successLines quotedTokens quotedResult)).map fun byte => [byte]) =
      ([some (.str "say \"hi\"\n"), some (.str "🎉")], .ok (clientResult quotedResult)) :=
  stream_round_trip _ quotedTokens quotedResult
    (fun _ hmem => parseLines_of_mem (by decide) hmem) _
    (by rw [← List.flatMap_def, List.flatMap_singleton'])

end PiSSM.Pipeline
