import PiSSM.Pipeline.StreamBodies
import PiSSM.Pipeline.StreamFormat

/-!
How an error within a stream reaches the caller. The server ends the stream with a line
that has an error field, and the client takes the line for an error if that field is
truthy: an exception whose text is empty resolves the promise to a result of undefined
fields.
-/

namespace PiSSM.Pipeline

open PiSSM.Lib PiSSM.Inference PiSSM.Orchestrator
open PiSSM.Dashboard (JsError runInferenceStream)

/-- The exception of an event that ends the loop of a stream. -/
def StreamEvent.raises : StreamEvent → Option PyException
  | .stepFailed err => some err
  | .token _ _ (.error err) => some err
  | .tokenize _ | .token _ _ (.ok _) | .exhausted | .summarize _ _ => none

/-- Up to the end of its loop a body has yielded one line for each token. -/
def YieldsTokens (body : StreamBody) : Prop :=
  match body.position with
  | .created => body.lines = [] ∧ body.steps = 0
  | .looping => ∃ texts : List String, body.lines = texts.map tokenLine ∧
      texts.length = body.steps
  | .closing | .returned | .raised _ => True

variable {body after : StreamBody} {numNodes : Except PyException Nat}
  {state next : StreamingState}

theorem next_yieldsTokens {event : StreamEvent} (hbody : YieldsTokens body)
    (hnext : body.next numNodes event = some after) : YieldsTokens after := by
  cases event with
  | tokenize inputIds =>
      obtain ⟨hposition, hafter⟩ := Option.ite_none_right_eq_some.mp hnext
      obtain rfl := Option.some.inj hafter
      rw [YieldsTokens, hposition] at hbody
      obtain ⟨hlines, hsteps⟩ := hbody
      cases inputIds with
      | ok ids => exact ⟨[], hlines, hsteps.symm⟩
      | error err => exact trivial
  | token tokenId stepResult decoded =>
      obtain ⟨⟨hposition, _⟩, hafter⟩ := Option.ite_none_right_eq_some.mp hnext
      obtain rfl := Option.some.inj hafter
      rw [YieldsTokens, hposition] at hbody
      cases decoded with
      | ok text =>
          have hstays : (body.yieldToken tokenId stepResult (.ok text)).position = .looping :=
            hposition
          rw [YieldsTokens, hstays]
          exact lines_yieldToken hbody tokenId stepResult text
      | error err => exact trivial
  | stepFailed err =>
      obtain ⟨_, hafter⟩ := Option.ite_none_right_eq_some.mp hnext
      obtain rfl := Option.some.inj hafter
      exact trivial
  | exhausted =>
      obtain ⟨_, hafter⟩ := Option.ite_none_right_eq_some.mp hnext
      obtain rfl := Option.some.inj hafter
      exact trivial
  | summarize latencyMs decoded =>
      obtain ⟨_, hafter⟩ := Option.ite_none_right_eq_some.mp hnext
      obtain rfl := Option.some.inj hafter
      unfold StreamBody.yieldResult
      split <;> exact trivial

/-- In every run every body has yielded one line for each token. -/
theorem yieldsTokens_of_reachable {registry : NodeRegistry}
    (hreach : (StreamingState.system registry).Reachable state) :
    ∀ id body, state.bodies id = some body → YieldsTokens body := by
  apply hreach.invariant
  · rintro _ rfl id body hbody
    cases hbody
  · intro before label now _ hok _ hstep
    cases StreamingState.step_move hstep with
    | http _ => exact hok
    | respond _ =>
        intro query found hfound
        obtain ⟨_, hnew⟩ | ⟨_, hold⟩ := update_cases hfound
        · obtain rfl := Option.some.inj hnew
          exact ⟨rfl, rfl⟩
        · exact hok query found hold
    | @body id event body after http hbody hafter _ =>
        intro query found hfound
        obtain ⟨_, hnew⟩ | ⟨_, hold⟩ := update_cases hfound
        · obtain rfl := Option.some.inj hnew
          exact next_yieldsTokens (hok id body hbody) hafter
        · exact hok query found hold

/-- An exception within the loop adds the error line to those of the tokens. -/
theorem next_raises {event : StreamEvent} {err : PyException}
    (hraises : StreamEvent.raises event = some err)
    (hnext : body.next numNodes event = some after) :
    body.position = .looping ∧ after.position = .returned ∧
      after.lines = body.lines ++ [errorLine err.str] := by
  cases event with
  | tokenize _ | exhausted | summarize _ _ => cases hraises
  | token tokenId stepResult decoded =>
      obtain ⟨⟨hposition, _⟩, hafter⟩ := Option.ite_none_right_eq_some.mp hnext
      obtain rfl := Option.some.inj hafter
      cases decoded with
      | ok text => cases hraises
      | error raised =>
          obtain rfl : raised = err := Option.some.inj hraises
          exact ⟨hposition, rfl, rfl⟩
  | stepFailed raised =>
      obtain rfl : raised = err := Option.some.inj hraises
      obtain ⟨⟨hposition, _⟩, hafter⟩ := Option.ite_none_right_eq_some.mp hnext
      obtain rfl := Option.some.inj hafter
      exact ⟨hposition, rfl, rfl⟩

/-- What comes of a stream that ends with an error line, however its bytes are cut into
chunks. -/
theorem runInferenceStream_failure {parse : List Char → Except JsError JsonValue}
    {texts : List String} {error : String}
    (hparse : ∀ line ∈ texts.map tokenLine ++ [errorLine error], parse line.dumps = .ok line)
    {chunks : List (List UInt8)}
    (hchunks : chunks.flatten = bodyBytes (texts.map tokenLine ++ [errorLine error])) :
    runInferenceStream parse chunks =
      (texts.map (fun text => some (.str text)),
        if error = "" then .ok undefinedResult else .error (.error (.str error))) := by
  unfold runInferenceStream
  rw [readChunks_lines hchunks, drainLines_failure texts error ⟨[], none⟩ hparse]
  dsimp only
  by_cases hempty : error = ""
  · rw [if_pos hempty, if_pos hempty]
    rfl
  · rw [if_neg hempty, if_neg hempty]
    rfl

/-- In every run, whatever the generation or the decoding raises within a stream: the
caller has had the tokens so far, and the promise is rejected with the text of the
exception exactly when that is not empty. -/
theorem stream_errors {registry : NodeRegistry}
    (hreach : (StreamingState.system registry).Reachable state) {id : Nat}
    {event : StreamEvent} {err : PyException} (hraises : StreamEvent.raises event = some err)
    (hstep : state.step (.body id event) = some next) :
    ∃ body after, ∃ texts : List String,
      state.bodies id = some body ∧ next.bodies id = some after ∧ after.Ended ∧
      body.lines = texts.map tokenLine ∧ texts.length = body.steps ∧
      after.lines = texts.map tokenLine ++ [errorLine err.str] ∧
      ∀ (parse : List Char → Except JsError JsonValue) (chunks : List (List UInt8)),
        (∀ line ∈ after.lines, parse line.dumps = .ok line) →
        chunks.flatten = bodyBytes after.lines →
        (runInferenceStream parse chunks =
            (texts.map (fun text => some (.str text)), .error (.error (.str err.str))) ↔
          err.str ≠ "") := by
  have hmove : StreamingState.Move state (.body id event) next := StreamingState.step_move hstep
  cases hmove with
  | @body _ _ body after http hbody hafter _ =>
      obtain ⟨hposition, hreturned, hlines⟩ := next_raises hraises hafter
      have hyields := yieldsTokens_of_reachable hreach id body hbody
      rw [YieldsTokens, hposition] at hyields
      obtain ⟨texts, htokens, hlength⟩ := hyields
      rw [htokens] at hlines
      refine ⟨body, after, texts, hbody, by simp [StreamingState.setBody], .inl hreturned,
        htokens, hlength, hlines, fun parse chunks hparse hchunks => ?_⟩
      rw [hlines] at hparse hchunks
      rw [runInferenceStream_failure hparse hchunks]
      constructor
      · intro hrejects hempty
        rw [if_pos hempty] at hrejects
        cases congrArg Prod.snd hrejects
      · intro hmessage
        rw [if_neg hmessage]

/-- A stream of two tokens, up to its second step. -/
def secondStep : List StreamLabel :=
  [.http (.request (.register fiveLayerManifest)),
    .http (.request (.post 0 (.infer true 2) "m")), .http (.request (.check 0)),
    .http (.request (.plan 0)), .http (.request (.record 0 0)), .http (.finishLoad 0 (.ok ())),
    .http (.request (.poll 0 false)), .respond 0, .body 0 (.tokenize (.ok [5])),
    .body 0 (.token 7 ⟨[], [210]⟩ (.ok "a"))]

/-- The body of the stream after its first token. -/
def tokenBody : StreamBody where
  modelName := "m"
  maxNewTokens := 2
  position := .looping
  outputIds := [5, 7]
  lastStep := some ⟨[], [210]⟩
  steps := 1
  undecoded := false
  lines := [tokenLine "a"]

/-- The second step of the stream can fail with any exception. -/
theorem secondStep_fails (err : PyException) :
    ∃ state next, (StreamingState.system twoNodeRegistry).Reachable state ∧
      state.step (.body 0 (.stepFailed err)) = some next ∧
      state.bodies 0 = some tokenBody ∧ next.bodies 0 = some (tokenBody.reportError err) := by
  have hbody : ((StreamingState.system twoNodeRegistry).exec (.create twoNodeRegistry)
      secondStep).bind (fun state => state.bodies 0) = some tokenBody := rfl
  have hfails : ((StreamingState.system twoNodeRegistry).exec (.create twoNodeRegistry)
      secondStep).bind (fun state => (state.step (.body 0 (.stepFailed err))).bind
        fun next => next.bodies 0) = some (tokenBody.reportError err) := rfl
  obtain ⟨state, hexec, hfirst⟩ := Option.bind_eq_some_iff.mp hbody
  rw [hexec, Option.bind_some] at hfails
  obtain ⟨next, hstep, hafter⟩ := Option.bind_eq_some_iff.mp hfails
  exact ⟨state, next, .exec (.init rfl) (fun _ _ _ => trivial) hexec, hstep, hfirst, hafter⟩

theorem stream_errors_crashed :
    ∃ state next body after, ∃ texts : List String,
      (StreamingState.system twoNodeRegistry).Reachable state ∧
      state.step (.body 0 (.stepFailed (.pipelineError "worker crashed"))) = some next ∧
      state.bodies 0 = some body ∧ next.bodies 0 = some after ∧ texts.length = 1 ∧
      runInferenceStream (parseLines after.lines) [bodyBytes after.lines] =
        (texts.map (fun text => some (.str text)), .error (.error (.str "worker crashed"))) := by
  obtain ⟨state, next, hreach, hstep, hfirst, hfailed⟩ :=
    secondStep_fails (.pipelineError "worker crashed")
  obtain ⟨body, after, texts, hbody, hafter, _, _, hlength, _, hrejects⟩ :=
    stream_errors hreach rfl hstep
  obtain rfl := Option.some.inj (hfirst.symm.trans hbody)
  obtain rfl := Option.some.inj (hfailed.symm.trans hafter)
  refine ⟨state, next, _, _, texts, hreach, hstep, hfirst, hfailed, hlength, ?_⟩
  refine (hrejects _ _ (fun _ hmem => parseLines_of_mem (by decide) hmem) ?_).mpr (by decide)
  exact List.append_nil _

/-- An exception without a message: the promise resolves to a result of undefined
fields. -/
theorem stream_errors_counterexample :
    ∃ state next after, (StreamingState.system twoNodeRegistry).Reachable state ∧
      state.step (.body 0 (.stepFailed (.runtimeError ""))) = some next ∧
      next.bodies 0 = some after ∧
      runInferenceStream (parseLines after.lines) [bodyBytes after.lines] =
        ([some (.str "a")], .ok undefinedResult) := by
  obtain ⟨state, next, hreach, hstep, _, hfailed⟩ := secondStep_fails (.runtimeError "")
  refine ⟨state, next, _, hreach, hstep, hfailed, ?_⟩
  exact @runInferenceStream_failure _ ["a"] ""
    (fun _ hmem => parseLines_of_mem (by decide) hmem) _ (List.append_nil _)

end PiSSM.Pipeline
