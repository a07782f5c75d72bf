import PiSSM.Orchestrator.InferenceStream

/-!
What the client of a streaming inference gets to read, in any interleaving with
the other requests: the lines of the tokens, then one last line. The code before
and after the loop of the generator is outside its handler, so a body may also
end in an exception, and its last line counts the tokens that were asked for.
-/

namespace PiSSM.Pipeline

open PiSSM.Lib PiSSM.Inference PiSSM.Orchestrator

/-- The body raised nothing and yielded one line for each token, then one last
line with the error or the result. Only a token whose text could not be decoded has
no line: the error takes its place. -/
def Answers (body : StreamBody) : Prop :=
  body.position = .returned ∧ ∃ texts : List String,
    (∃ error, body.lines = texts.map tokenLine ++ [errorLine error] ∧
      texts.length + body.undecoded.toNat = body.steps) ∨
    (∃ result, body.lines = successLines texts result ∧
      result.numTokens = texts.length ∧ texts.length = body.steps)

/-- The tokenizer answers, and after the loop of a generation of no negative
number of tokens the model still has a plan and the output can be decoded. -/
def SafeEvent (body : StreamBody) (numNodes : Except PyException Nat) : StreamEvent → Prop
  | .tokenize inputIds => ∃ ids, inputIds = .ok ids
  | .summarize _ decoded =>
      0 ≤ body.maxNewTokens ∧ (∃ count, numNodes = .ok count) ∧ ∃ output, decoded = .ok output
  | .token _ _ _ | .stepFailed _ | .exhausted => True

def StreamsSafely (state : StreamingState) : StreamLabel → Prop
  | .body id event =>
      ∀ body, state.bodies id = some body → SafeEvent body (state.numNodes body) event
  | .http _ | .respond _ => True

/-- The loop has yielded one line for each token so far. -/
structure InLoop (body : StreamBody) : Prop where
  lines : ∃ texts : List String, body.lines = texts.map tokenLine ∧ texts.length = body.steps
  decoded : body.undecoded = false
  bound : body.steps = 0 ∨ (body.steps : Int) ≤ body.maxNewTokens

/-- The invariant of one body, position by position. -/
def BodyOk (body : StreamBody) : Prop :=
  match body.position with
  | .created => body.lines = [] ∧ body.steps = 0 ∧ body.undecoded = false
  | .looping => InLoop body
  | .closing => InLoop body ∧ body.maxNewTokens ≤ body.steps
  | .returned => Answers body
  | .raised _ => False

variable {body after : StreamBody} {numNodes : Except PyException Nat}

theorem InLoop.reportError (hloop : InLoop body) (err : PyException) :
    Answers (body.reportError err) := by
  obtain ⟨texts, hlines, hlength⟩ := hloop.lines
  refine ⟨rfl, texts, .inl ⟨err.str, ?_, ?_⟩⟩
  · rw [StreamBody.reportError, hlines]
  · rw [StreamBody.reportError, hloop.decoded]
    exact hlength

/-- A token whose text could be decoded adds its line. -/
theorem lines_yieldToken
    (hlines : ∃ texts : List String, body.lines = texts.map tokenLine ∧
      texts.length = body.steps)
    (tokenId : Nat) (stepResult : StepMeasurements) (text : String) :
    ∃ texts : List String,
      (body.yieldToken tokenId stepResult (.ok text)).lines = texts.map tokenLine ∧
        texts.length = (body.yieldToken tokenId stepResult (.ok text)).steps := by
  obtain ⟨texts, hlines, hlength⟩ := hlines
  refine ⟨texts ++ [text], ?_, ?_⟩
  · simp [StreamBody.yieldToken, hlines]
  · simp [StreamBody.yieldToken, hlength]

theorem InLoop.yieldToken (hloop : InLoop body) (hposition : body.position = .looping)
    (hless : (body.steps : Int) < body.maxNewTokens) (tokenId : Nat)
    (stepResult : StepMeasurements) (decoded : Except PyException String) :
    BodyOk (body.yieldToken tokenId stepResult decoded) := by
  cases decoded with
  | ok text =>
      have hnext : InLoop (body.yieldToken tokenId stepResult (.ok text)) := by
        constructor
        · exact lines_yieldToken hloop.lines tokenId stepResult text
        · exact hloop.decoded
        · right
          simp only [StreamBody.yieldToken]
          omega
      have hstays : (body.yieldToken tokenId stepResult (.ok text)).position = .looping :=
        hposition
      rw [BodyOk, hstays]
      exact hnext
  | error err =>
      obtain ⟨texts, hlines, hlength⟩ := hloop.lines
      refine ⟨rfl, texts, .inl ⟨err.str, ?_, ?_⟩⟩
      · simp [StreamBody.yieldToken, StreamBody.reportError, hlines]
      · simp [StreamBody.yieldToken, StreamBody.reportError, hlength]

/-- After the loop as many tokens have been produced as were asked for, unless
a negative number was. -/
theorem InLoop.steps_eq (hloop : InLoop body) (hdone : body.maxNewTokens ≤ body.steps)
    (hasked : 0 ≤ body.maxNewTokens) : body.maxNewTokens = body.steps := by
  rcases hloop.bound with hzero | hbound
  · rw [hzero] at hdone ⊢
    exact le_antisymm hdone hasked
  · exact le_antisymm hdone hbound

theorem InLoop.yieldResult (hloop : InLoop body) (hdone : body.maxNewTokens ≤ body.steps)
    (hasked : 0 ≤ body.maxNewTokens) (count : Nat) (latencyMs : PyFloat) (output : String) :
    Answers (body.yieldResult (.ok count) latencyMs (.ok output)) := by
  obtain ⟨texts, hlines, hlength⟩ := hloop.lines
  refine ⟨rfl, texts, .inr ⟨body.result count latencyMs output, ?_, ?_, hlength⟩⟩
  · rw [StreamBody.yieldResult, hlines, successLines]
  · rw [hlength]
    exact hloop.steps_eq hdone hasked

/-- One step of a body under the condition keeps its invariant. -/
theorem next_bodyOk {event : StreamEvent} (hbody : BodyOk body)
    (hsafe : SafeEvent body numNodes event) (hnext : body.next numNodes event = some after) :
    BodyOk after := by
  cases event with
  | tokenize inputIds =>
      obtain ⟨ids, rfl⟩ := hsafe
      obtain ⟨hposition, hafter⟩ := Option.ite_none_right_eq_some.mp hnext
      obtain rfl := Option.some.inj hafter
      rw [BodyOk, hposition] at hbody
      obtain ⟨hlines, hsteps, hdecoded⟩ := hbody
      exact ⟨⟨[], hlines, hsteps.symm⟩, hdecoded, .inl hsteps⟩
  | token tokenId stepResult decoded =>
      obtain ⟨⟨hposition, hless⟩, hafter⟩ := Option.ite_none_right_eq_some.mp hnext
      obtain rfl := Option.some.inj hafter
      rw [BodyOk, hposition] at hbody
      exact hbody.yieldToken hposition hless tokenId stepResult decoded
  | stepFailed err =>
      obtain ⟨⟨hposition, hless⟩, hafter⟩ := Option.ite_none_right_eq_some.mp hnext
      obtain rfl := Option.some.inj hafter
      rw [BodyOk, hposition] at hbody
      exact hbody.reportError err
  | exhausted =>
      obtain ⟨⟨hposition, hdone⟩, hafter⟩ := Option.ite_none_right_eq_some.mp hnext
      obtain rfl := Option.some.inj hafter
      rw [BodyOk, hposition] at hbody
      exact ⟨⟨hbody.lines, hbody.decoded, hbody.bound⟩, hdone⟩
  | summarize latencyMs decoded =>
      obtain ⟨hasked, ⟨count, rfl⟩, output, rfl⟩ := hsafe
      obtain ⟨hposition, hafter⟩ := Option.ite_none_right_eq_some.mp hnext
      obtain rfl := Option.some.inj hafter
      rw [BodyOk, hposition] at hbody
      obtain ⟨hloop, hdone⟩ := hbody
      exact hloop.yieldResult hdone hasked count latencyMs output

theorem not_answers_of_raised {err : PyException} (hraised : body.position = .raised err) :
    body.Ended ∧ ¬ Answers body := by
  refine ⟨.inr ⟨err, hraised⟩, fun hanswers => ?_⟩
  have hreturned := hanswers.1
  rw [hraised] at hreturned
  cases hreturned

/-- The last line of a generation of a negative number of tokens counts fewer
than none. -/
theorem not_answers_of_negative {lines : List JsonValue} {result : InferResult}
    (hlines : body.lines = lines ++ [resultLine result]) (hnegative : result.numTokens < 0) :
    ¬ Answers body := by
  rintro ⟨_, texts, ⟨error, herror, _⟩ | ⟨result', hresult, hcount, _⟩⟩
  · have hlast := List.append_inj_right' (hlines.symm.trans herror) rfl
    simp [resultLine, errorLine] at hlast
  · have hlast := List.append_inj_right' (hlines.symm.trans hresult) rfl
    have hsame : result.numTokens = result'.numTokens := by
      simp only [resultLine, List.cons.injEq, JsonValue.object.injEq, Prod.mk.injEq,
        JsonValue.int.injEq] at hlast
      tauto
    omega

/-- Every step of a body that does not meet the condition ends the body, with
an exception or with a result line that counts wrongly. -/
theorem not_answers_of_violation {event : StreamEvent} (hviolates : ¬ SafeEvent body numNodes event)
    (hnext : body.next numNodes event = some after) : after.Ended ∧ ¬ Answers after := by
  cases event with
  | tokenize inputIds =>
      obtain ⟨_, hafter⟩ := Option.ite_none_right_eq_some.mp hnext
      obtain rfl := Option.some.inj hafter
      cases inputIds with
      | ok ids => exact absurd ⟨ids, rfl⟩ hviolates
      | error err => exact not_answers_of_raised rfl
  | token _ _ _ | stepFailed _ | exhausted => exact absurd trivial hviolates
  | summarize latencyMs decoded =>
      obtain ⟨_, hafter⟩ := Option.ite_none_right_eq_some.mp hnext
      obtain rfl := Option.some.inj hafter
      cases numNodes with
      | error err => exact not_answers_of_raised rfl
      | ok count =>
          cases decoded with
          | error err => exact not_answers_of_raised rfl
          | ok output =>
              have hnegative : body.maxNewTokens < 0 := by
                apply lt_of_not_ge
                intro hasked
                exact hviolates ⟨hasked, ⟨count, rfl⟩, output, rfl⟩
              exact ⟨.inl rfl, not_answers_of_negative rfl hnegative⟩

/-- The invariant of a state with bodies. -/
def BodiesOk (state : StreamingState) : Prop :=
  ∀ id body, state.bodies id = some body → BodyOk body

variable {state next : StreamingState}

theorem BodiesOk.setBody (hok : BodiesOk state) {id : Nat} (hbody : BodyOk body) :
    BodiesOk (state.setBody id body) := by
  intro query found hfound
  obtain ⟨_, hnew⟩ | ⟨_, hold⟩ := update_cases hfound
  · obtain rfl := Option.some.inj hnew
    exact hbody
  · exact hok query found hold

theorem BodiesOk.step {label : StreamLabel} (hok : BodiesOk state)
    (hsafe : StreamsSafely state label) (hmove : StreamingState.Move state label next) :
    BodiesOk next := by
  cases hmove with
  | http _ => exact hok
  | respond _ => exact hok.setBody ⟨rfl, rfl, rfl⟩
  | @body id event body after http hbody hafter _ =>
      have hafterOk : BodyOk after := next_bodyOk (hok id body hbody) (hsafe body hbody) hafter
      exact hok.setBody hafterOk

theorem bodiesOk_of_reachable {registry : NodeRegistry}
    (hreach : (StreamingState.system registry).ReachableVia StreamsSafely state) :
    BodiesOk state := by
  apply hreach.invariant
  · rintro _ rfl id body hbody
    cases hbody
  · intro s label t _ hok hsafe hstep
    exact hok.step hsafe (StreamingState.step_move hstep)

/-- In every run whose steps all meet the condition, every stream that has run
to its end has answered; and in every run, a step that does not meet it ends a
stream that has not. -/
theorem stream_bodies (registry : NodeRegistry) :
    (∀ state, (StreamingState.system registry).ReachableVia StreamsSafely state →
      ∀ id body, state.bodies id = some body → body.Ended → Answers body) ∧
    ∀ state label next, (StreamingState.system registry).Reachable state →
      (StreamingState.system registry).step state label = some next →
      ¬ StreamsSafely state label →
      ∃ id body, next.bodies id = some body ∧ body.Ended ∧ ¬ Answers body := by
  constructor
  · intro state hreach id body hbody hended
    have hok := bodiesOk_of_reachable hreach id body hbody
    rcases hended with hreturned | ⟨err, hraised⟩
    · rw [BodyOk, hreturned] at hok
      exact hok
    · rw [BodyOk, hraised] at hok
      exact hok.elim
  · intro state label next _ hstep hviolates
    cases StreamingState.step_move hstep with
    | http _ => exact absurd trivial hviolates
    | respond _ => exact absurd trivial hviolates
    | @body id event body after http hbody hafter _ =>
        have hevent : ¬ SafeEvent body (state.numNodes body) event := by
          intro hsafe
          apply hviolates
          intro found hfound
          obtain rfl := Option.some.inj (hbody.symm.trans hfound)
          exact hsafe
        have hbad := not_answers_of_violation hevent hafter
        exact ⟨id, after, by simp [StreamingState.setBody], hbad⟩

/-- A stream of one token, up to the end of its loop: the request loads its model
first. -/
def oneTokenStream : List StreamLabel :=
  [.http (.request (.register fiveLayerManifest)),
    .http (.request (.post 0 (.infer true 1) "m")), .http (.request (.check 0)),
    .http (.request (.plan 0)), .http (.request (.record 0 0)), .http (.finishLoad 0 (.ok ())),
    .http (.request (.poll 0 false)), .respond 0, .body 0 (.tokenize (.ok [5])),
    .body 0 (.token 7 ⟨[], [210]⟩ (.ok "a")), .body 0 .exhausted]

def lastLine : StreamLabel :=
  .body 0 (.summarize ⟨"12.5".toList, AllPrintable.of_all (by decide)⟩ (.ok "a"))

/-- The steps of the loop meet the condition in any state. -/
theorem oneTokenStream_safe : ∀ label ∈ oneTokenStream, ∀ state, StreamsSafely state label := by
  intro label hmem state
  cases label with
  | http _ | respond _ => trivial
  | body id event =>
      intro body _
      cases event with
      | tokenize inputIds =>
          have hids : inputIds = .ok [5] := by simp_all [oneTokenStream]
          exact ⟨[5], hids⟩
      | token _ _ _ | stepFailed _ | exhausted => trivial
      | summarize _ _ => simp [oneTokenStream] at hmem

/-- Nothing else happens, and the stream answers with its token and its result. -/
theorem stream_bodies_one :
    ∃ state body, (StreamingState.system twoNodeRegistry).ReachableVia StreamsSafely state ∧
      state.bodies 0 = some body ∧ body.steps = 1 ∧ body.lines.length = 2 ∧ Answers body := by
  have hloop : ((StreamingState.system twoNodeRegistry).exec (.create twoNodeRegistry)
      oneTokenStream).any (fun looped => (looped.bodies 0).all fun body =>
        body.maxNewTokens = 1 && (looped.numNodes body).toOption = some 2) = true := by
    decide
  have hend : ((StreamingState.system twoNodeRegistry).exec (.create twoNodeRegistry)
      (oneTokenStream ++ [lastLine])).any (fun ended => (ended.bodies 0).any fun body =>
        body.position = .returned && body.steps = 1 && body.lines.length = 2) = true := by
    decide
  obtain ⟨looped, hexec, hlooped⟩ := (Option.any_eq_true _ _).mp hloop
  obtain ⟨ended, hended, hbody⟩ := (Option.any_eq_true _ _).mp hend
  obtain ⟨body, hget, hlines⟩ := (Option.any_eq_true _ _).mp hbody
  rw [TransitionSystem.exec_append, hexec, Option.bind_some] at hended
  obtain ⟨final, hstep, hfinal⟩ := Option.bind_eq_some_iff.mp hended
  obtain rfl : final = ended := Option.some.inj hfinal
  have hsafe : StreamsSafely looped lastLine := by
    intro body hbody
    rw [hbody] at hlooped
    have hfacts : body.maxNewTokens = 1 ∧ (looped.numNodes body).toOption = some 2 := by
      simpa using hlooped
    obtain ⟨hasked, hnodes⟩ := hfacts
    refine ⟨by rw [hasked]; decide, ?_, "a", rfl⟩
    cases hcount : looped.numNodes body with
    | ok count => exact ⟨count, rfl⟩
    | error err =>
        rw [hcount] at hnodes
        cases hnodes
  have hreach : (StreamingState.system twoNodeRegistry).ReachableVia StreamsSafely final :=
    .step (.exec (.init rfl) oneTokenStream_safe hexec) hsafe hstep
  have hfacts : (body.position = .returned ∧ body.steps = 1) ∧ body.lines.length = 2 := by
    simpa using hlines
  have hanswers := (stream_bodies twoNodeRegistry).1 final hreach 0 body hget (.inl hfacts.1.1)
  exact ⟨final, body, hreach, hget, hfacts.1.2, hfacts.2, hanswers⟩

/-- The model is redistributed while its stream is between two lines: the lookup
after the loop finds no entry, and the body ends in a `KeyError`. -/
theorem stream_bodies_counterexample :
    ¬ ∀ state, (StreamingState.system twoNodeRegistry).Reachable state →
      ∀ id body, state.bodies id = some body → body.Ended → Answers body := by
  intro hclaim
  have hraised : ∃ state, (StreamingState.system twoNodeRegistry).Reachable state ∧
      ((state.bodies 0).any fun body => body.position = .raised (.keyError "m")) = true := by
    apply TransitionSystem.reachable_of_exec (oneTokenStream ++
      [.http (.request (.post 1 .redistribute "m")), .http (.request (.redistribute 1)),
        lastLine]) rfl (fun _ _ _ => trivial)
    decide
  obtain ⟨state, hreach, htest⟩ := hraised
  obtain ⟨body, hbody, hposition⟩ := (Option.any_eq_true _ _).mp htest
  have hbad := not_answers_of_raised (of_decide_eq_true hposition)
  exact hbad.2 (hclaim state hreach 0 body hbody hbad.1)

end PiSSM.Pipeline
