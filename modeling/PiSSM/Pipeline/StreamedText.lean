import PiSSM.Dashboard.Inference
import PiSSM.Lib.Utf8Segments
import PiSSM.Pipeline.BufferedInference
import PiSSM.Pipeline.StreamFormat

/-!
The text a user watches arrive. The server decodes each token on its own and the page
appends what it gets, so with a byte-level tokenizer the answer on the page is the text
of the generated tokens only while no character is spread over several of them; the
output field of the last line, decoded at once, has no such condition.
-/

namespace PiSSM.Pipeline

open PiSSM.Lib PiSSM.Inference PiSSM.Orchestrator
open PiSSM.Dashboard (Chat JsError drainLines)

/-- The bytes each id stands for. Special ids, which decoding skips, have none. -/
structure ByteLevelTokenizer where
  bytesOf : Nat → Option (List UInt8)

namespace ByteLevelTokenizer

variable (tokenizer : ByteLevelTokenizer)

def idBytes (id : Nat) : List UInt8 := (tokenizer.bytesOf id).getD []

def bytes (ids : List Nat) : List UInt8 := ids.flatMap tokenizer.idBytes

/-- `decode` with `skip_special_tokens`. -/
def decode (ids : List Nat) : String :=
  String.ofList (Utf8Decoder.decodeText (tokenizer.bytes ids))

/-- No character is cut by the end of an id's bytes. -/
def KeepsCharacters (ids : List Nat) : Prop :=
  ∀ before after, ids = before ++ after →
    ¬ Utf8Decoder.CutsCharacter (tokenizer.bytes before) (tokenizer.bytes after)

theorem join_map_ofList (texts : List (List Char)) :
    String.join (texts.map String.ofList) = String.ofList texts.flatten := by
  induction texts using List.reverseRecOn with
  | nil => rfl
  | append_singleton texts text ih =>
      have hjoin : String.join ((texts ++ [text]).map String.ofList) =
          String.join (texts.map String.ofList) ++ String.ofList text := by
        rw [List.map_append]
        exact List.foldl_append
      rw [hjoin, ih, List.flatten_append, List.flatten_singleton, String.ofList_append]

theorem bytes_eq_flatten (ids : List Nat) :
    tokenizer.bytes ids = (ids.map tokenizer.idBytes).flatten :=
  List.flatMap_def

/-- The texts of the ids, decoded one by one, make up the text of all of them exactly
when no character is cut. -/
theorem join_decode_iff (ids : List Nat) :
    String.join (ids.map fun id => tokenizer.decode [id]) = tokenizer.decode ids ↔
      tokenizer.KeepsCharacters ids := by
  have hsegments := Utf8Decoder.flatMap_decodeText_eq_iff (ids.map tokenizer.idBytes)
  have hjoin : String.join (ids.map fun id => tokenizer.decode [id]) =
      String.ofList ((ids.map tokenizer.idBytes).flatMap Utf8Decoder.decodeText) := by
    rw [List.flatMap_def, List.map_map, ← join_map_ofList, List.map_map]
    refine congrArg String.join (List.map_congr_left fun id _ => ?_)
    simp only [decode, bytes, List.flatMap_cons, List.flatMap_nil, List.append_nil,
      Function.comp_apply]
  rw [hjoin, decode, bytes_eq_flatten, String.ofList_inj, hsegments]
  constructor
  · intro hapart before after hsplit
    rw [bytes_eq_flatten, bytes_eq_flatten]
    exact hapart _ _ (by rw [hsplit, List.map_append])
  · intro hkeeps before after hsplit
    obtain ⟨first, second, rfl, rfl, rfl⟩ := List.map_eq_append_iff.mp hsplit
    rw [← bytes_eq_flatten, ← bytes_eq_flatten]
    exact hkeeps first second rfl

end ByteLevelTokenizer

/-- The text of a token line. -/
def tokenField : JsonValue → Option String
  | .object fields =>
      match fields.lookup "token" with
      | some (.str text) => some text
      | _ => none
  | _ => none

/-- The token fields of a response, in order. -/
def tokenFields (lines : List JsonValue) : List String := lines.filterMap tokenField

/-- What may come after the lines of the tokens. -/
inductive ClosingLines : List JsonValue → Prop where
  /-- The code after the loop has raised. -/
  | none : ClosingLines []
  | result (result : InferResult) : ClosingLines [resultLine result]
  | error (error : String) : ClosingLines [errorLine error]

theorem tokenFields_tokens (texts : List String) : tokenFields (texts.map tokenLine) = texts := by
  induction texts with
  | nil => rfl
  | cons text rest ih => exact congrArg (text :: ·) ih

theorem tokenFields_closing {last : List JsonValue} (hlast : ClosingLines last) :
    tokenFields last = [] := by
  cases hlast with
  | none => rfl
  | result result => rfl
  | error error => rfl

theorem tokenFields_response {texts : List String} {last : List JsonValue}
    (hlast : ClosingLines last) : tokenFields (texts.map tokenLine ++ last) = texts := by
  unfold tokenFields
  rw [List.filterMap_append, ← tokenFields, ← tokenFields, tokenFields_tokens,
    tokenFields_closing hlast, List.append_nil]

/-- The calls of `onToken` for a response, however its bytes are cut into chunks. -/
theorem onToken_calls {parse : List Char → Except JsError JsonValue} {texts : List String}
    {last : List JsonValue} (hlast : ClosingLines last)
    (hparse : ∀ line ∈ texts.map tokenLine ++ last, parse line.dumps = .ok line)
    {chunks : List (List UInt8)}
    (hchunks : chunks.flatten = bodyBytes (texts.map tokenLine ++ last)) :
    (Dashboard.runInferenceStream parse chunks).1 = texts.map fun text => some (.str text) := by
  unfold Dashboard.runInferenceStream
  rw [readChunks_lines hchunks]
  cases hlast with
  | none =>
      have htokens : ∀ text ∈ texts, parse (tokenLine text).dumps = .ok (tokenLine text) :=
        fun text hmem => hparse _ (List.mem_append_left _ (List.mem_map_of_mem hmem))
      have hdrained := drainLines_tokens texts [] ⟨[], none⟩ htokens
      rw [List.append_nil, @drainLines_none parse _ [] rfl] at hdrained
      rw [List.append_nil, hdrained]
      rfl
  | result result =>
      have hdrained := drainLines_success texts result ⟨[], none⟩ hparse
      rw [successLines] at hdrained
      rw [hdrained]
      rfl
  | error error =>
      rw [drainLines_failure texts error ⟨[], none⟩ hparse]
      dsimp only
      by_cases hempty : error = ""
      · rw [if_pos hempty]
        rfl
      · rw [if_neg hempty]
        rfl

section

variable {μ τ κ : Type*} [ShardModel μ τ κ]
  {session : ResidentSession τ} {floatText : ℚ → PyFloat} {env : HandlerEnv κ}

/-- The code after the loop adds at most the line of the result. -/
theorem streamTurns_closing (hdecode : ∀ ids, ∃ text, session.decode ids = .ok text)
    {step : Nat} {nextInput : τ} {backend : Backend μ τ κ} {body : StreamBody}
    (hposition : body.position = .looping) (hcount : body.steps = body.maxNewTokens.toNat) :
    ∃ ended last, session.streamTurns floatText env 0 step nextInput backend body =
      some (backend, ended) ∧ ended.lines = body.lines ++ last ∧ ClosingLines last := by
  cases hnodes : env.numNodes with
  | ok count =>
      obtain ⟨output, ended, _, hend, _, _, hlines⟩ :=
        @streamTurns_end μ _ _ _ session floatText env hdecode step count nextInput backend body
          hnodes hposition hcount
      exact ⟨ended, _, hend, hlines, .result _⟩
  | error err =>
      have hdone : body.position = .looping ∧ body.maxNewTokens ≤ body.steps :=
        ⟨hposition, by omega⟩
      refine ⟨{ body with position := .raised err }, [], ?_, (List.append_nil _).symm, .none⟩
      simp only [ResidentSession.streamTurns, StreamBody.next, if_pos hdone, Option.bind_some,
        if_true, hnodes, StreamBody.yieldResult, Option.map_some]

/-- A streaming response in full: the lines of the generator's items, then at most one
more line. -/
theorem runInferenceStream_lines (hdecode : ∀ ids, ∃ text, session.decode ids = .ok text)
    {submission : InferSubmission} {inputIds : τ}
    (htokenize : session.tokenize submission.input = .ok inputIds)
    {backend final : Backend μ τ κ} {steps : List (GenerationStep τ)}
    {outcome : Option PyException}
    (hrun : session.runner.generateStream session.ops env.fuel env.steps inputIds
      submission.maxNewTokens backend = some (final, steps, outcome)) :
    ∃ body texts last,
      session.runInferenceStream floatText env submission backend = some (final, body) ∧
      body.lines = texts.map tokenLine ++ last ∧ ClosingLines last ∧
      List.Forall₂ (fun step text => session.decode (session.row step.tokenId) = .ok text)
        steps texts := by
  let start := streamStart session submission inputIds
  let closing := consume session floatText start steps
  have hclosing : Consumed session floatText start closing steps := consumed hdecode start steps
  obtain ⟨texts, htexts, hdecoded⟩ := hclosing.lines
  rw [runInferenceStream_eq hdecode htokenize hrun]
  cases outcome with
  | some err =>
      refine ⟨closing.reportError err, texts, [errorLine err.str], rfl, ?_, .error _, hdecoded⟩
      rw [StreamBody.reportError, htexts]
      rfl
  | none =>
      have hlength := (streamLoop_steps hrun).1 rfl
      obtain ⟨ended, last, hend, hlines, hlast⟩ :=
        @streamTurns_closing μ _ _ _ session floatText env hdecode 0 inputIds final closing
          hclosing.position (by
            rw [hclosing.steps, hlength, hclosing.maxNewTokens]
            exact Nat.zero_add _)
      refine ⟨ended, texts, last, hend, ?_, hlast, hdecoded⟩
      rw [hlines, htexts]
      rfl

/-- With a byte-level tokenizer the page appends the tokens the server has decoded one by
one, and they make up the text of the generated ids exactly when no character is spread
over several ids. -/
theorem streamed_text (hids : SingleSequence session) {tokenizer : ByteLevelTokenizer}
    (hdecode : ∀ ids, session.decode ids = .ok (tokenizer.decode ids))
    {submission : InferSubmission} {inputIds : τ}
    (htokenize : session.tokenize submission.input = .ok inputIds)
    {backend final : Backend μ τ κ} {steps : List (GenerationStep τ)}
    {outcome : Option PyException}
    (hrun : session.runner.generateStream session.ops env.fuel env.steps inputIds
      submission.maxNewTokens backend = some (final, steps, outcome)) :
    ∃ body,
      session.runInferenceStream floatText env submission backend = some (final, body) ∧
      (∀ (parse : List Char → Except JsError JsonValue) (chunks : List (List UInt8))
          (chat : Chat), (∀ line ∈ body.lines, parse line.dumps = .ok line) →
        chunks.flatten = bodyBytes body.lines →
        (Dashboard.runInferenceStream parse chunks).1 =
            (tokenFields body.lines).map (fun text => some (.str text)) ∧
          ((chat.send submission.input).appendTokens chat.assistantId
              (tokenFields body.lines)).messages =
            chat.messages ++ [chat.userMessage submission.input,
              chat.assistantMessage (String.join (tokenFields body.lines))]) ∧
      (String.join (tokenFields body.lines) =
          tokenizer.decode (steps.map fun step => session.tokenOf step.tokenId) ↔
        tokenizer.KeepsCharacters (steps.map fun step => session.tokenOf step.tokenId)) := by
  obtain ⟨body, texts, last, hstream, hlines, hlast, hdecoded⟩ :=
    runInferenceStream_lines (fun ids => ⟨_, hdecode ids⟩) htokenize hrun
  have hfields : tokenFields body.lines = texts := by
    rw [hlines]
    exact tokenFields_response hlast
  have htexts : texts = (steps.map fun step => session.tokenOf step.tokenId).map
      fun id => tokenizer.decode [id] := by
    have hone : List.Forall₂
        (fun step text => session.decode (session.row step.tokenId) = .ok text) steps
        ((steps.map fun step => session.tokenOf step.tokenId).map
          fun id => tokenizer.decode [id]) := by
      rw [List.map_map, List.forall₂_map_right_iff, List.forall₂_same]
      intro step hmem
      rw [row_eq_tokenOf hids ((streamLoop_steps hrun).2 step hmem), hdecode]
      rfl
    refine List.right_unique_forall₂' ?_ hdecoded hone
    intro step text text' htext htext'
    exact Except.ok.inj (htext.symm.trans htext')
  refine ⟨body, hstream, fun parse chunks chat hparse hchunks => ?_, ?_⟩
  · rw [hfields]
    rw [hlines] at hparse hchunks
    exact ⟨onToken_calls hlast hparse hchunks, chat.messages_appendTokens _ _⟩
  · rw [hfields, htexts]
    exact tokenizer.join_decode_iff _

end

/-- A tokenizer with an id for each of the two bytes of a letter. -/
def letterTokenizer : ByteLevelTokenizer where
  bytesOf
    | 29 => some [0xC3]
    | 24 => some [0xA9]
    | 0 => none
    | _ => some [0x61]

/-- A tokenizer with an id for the letter itself. -/
def wordTokenizer : ByteLevelTokenizer where
  bytesOf
    | 29 => some [0xC3, 0xA9]
    | 24 => some [0x74, 0xC3, 0xA9]
    | 0 => none
    | _ => some [0x61]

def byteLevelSession (tokenizer : ByteLevelTokenizer) : ResidentSession (List Nat) :=
  { countingSession with decode := fun ids => .ok (tokenizer.decode ids) }

def letterRequest (maxNewTokens : Int) : InferSubmission := ⟨"m", "10 20 30", maxNewTokens⟩

theorem byteLevelSession_single (tokenizer : ByteLevelTokenizer) :
    SingleSequence (byteLevelSession tokenizer) where
  cat := countingSession_single.cat
  argmax := countingSession_single.argmax

/-- The generation does not decode anything. -/
theorem byteLevelSession_generated (tokenizer : ByteLevelTokenizer) :
    ((byteLevelSession tokenizer).runner.generateStream (byteLevelSession tokenizer).ops 2
      (countingEnv shortTime).steps [10, 20, 30] 2 countingBackend).map
        (fun (_, steps, outcome) =>
          (steps.map fun step => (byteLevelSession tokenizer).tokenOf step.tokenId, outcome)) =
      some ([29, 24], none) := by
  have hcounting : (countingSession.runner.generateStream countingSession.ops 2
      (countingEnv shortTime).steps [10, 20, 30] 2 countingBackend).map
        (fun (_, steps, outcome) =>
          (steps.map fun step => countingSession.tokenOf step.tokenId, outcome)) =
      some ([29, 24], none) := by
    decide +kernel
  exact hcounting

theorem wordTokenizer_keeps : wordTokenizer.KeepsCharacters [29, 24] :=
  (wordTokenizer.join_decode_iff [29, 24]).mp (by decide +kernel)

theorem streamed_text_word :
    ∃ final steps body,
      (byteLevelSession wordTokenizer).runner.generateStream (byteLevelSession wordTokenizer).ops
        2 (countingEnv shortTime).steps [10, 20, 30] 2 countingBackend =
          some (final, steps, none) ∧
      (steps.map fun step => (byteLevelSession wordTokenizer).tokenOf step.tokenId) = [29, 24] ∧
      (byteLevelSession wordTokenizer).runInferenceStream (fun _ => shortTime)
        (countingEnv shortTime) (letterRequest 2) countingBackend = some (final, body) ∧
      wordTokenizer.KeepsCharacters [29, 24] ∧ wordTokenizer.decode [29, 24] = "été" ∧
      String.join (tokenFields body.lines) = "été" := by
  obtain ⟨⟨final, steps, outcome⟩, hrun, hgenerated⟩ :=
    Option.map_eq_some_iff.mp (byteLevelSession_generated wordTokenizer)
  obtain ⟨hids, rfl⟩ := Prod.mk.inj hgenerated
  obtain ⟨body, hstream, _, hkeeps⟩ :=
    @streamed_text (MambaShardModule (List Nat) Nat) (List Nat) (Cache Nat) _
      (byteLevelSession wordTokenizer) (fun _ => shortTime) (countingEnv shortTime)
      (byteLevelSession_single wordTokenizer) wordTokenizer (fun _ => rfl) (letterRequest 2)
      [10, 20, 30] rfl countingBackend final steps none hrun
  have hword : wordTokenizer.decode [29, 24] = "été" := by decide +kernel
  rw [hids] at hkeeps
  exact ⟨final, steps, body, hrun, hids, hstream, wordTokenizer_keeps, hword,
    (hkeeps.mpr wordTokenizer_keeps).trans hword⟩

/-- The two ids of the letter, streamed as two replacement characters. -/
theorem streamed_text_counterexample :
    ((byteLevelSession letterTokenizer).runInferenceStream (fun _ => shortTime)
      (countingEnv shortTime) (letterRequest 2) countingBackend).map
        (fun (_, body) => tokenFields body.lines) =
        some ["\uFFFD", "\uFFFD"] ∧
      ((byteLevelSession letterTokenizer).runner.generateStream
        (byteLevelSession letterTokenizer).ops 2 (countingEnv shortTime).steps [10, 20, 30] 2
        countingBackend).map (fun (_, steps, _) => steps.map fun step =>
          (byteLevelSession letterTokenizer).tokenOf step.tokenId) = some [29, 24] ∧
      letterTokenizer.decode [29, 24] = "é" ∧
      String.join ["\uFFFD", "\uFFFD"] ≠ letterTokenizer.decode [29, 24] := by
  decide +kernel

end PiSSM.Pipeline
