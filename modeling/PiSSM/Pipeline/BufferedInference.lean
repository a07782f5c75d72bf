import PiSSM.Orchestrator.InferenceHandlers
import PiSSM.Pipeline.CachedDecoding

/-!
A buffered and a streamed inference with the same step results agree. Both keep the ids
and the last step on their own, the one from the whole generation and the other from the
generator's items, so the loop of the stream is first reduced to a fold over the items.
-/

namespace PiSSM.Pipeline

open PiSSM.Lib PiSSM.Inference PiSSM.Orchestrator

variable {μ τ κ : Type*} [ShardModel μ τ κ]

/-- The id tensors of a batch of one: concatenation joins the rows, and `argmax` at the
last position gives a single id. -/
structure SingleSequence (session : ResidentSession τ) : Prop where
  cat : ∀ ids token, session.row (session.ops.cat ids token) =
    session.row ids ++ session.row token
  argmax : ∀ logits token, session.ops.argmaxLast logits = .ok token →
    ∃ id, session.row token = [id]

section

variable {session : ResidentSession τ} {floatText : ℚ → PyFloat} {env : HandlerEnv κ}

/-- A generation yields steps with the tokens of their own results, and without an
exception one for each token asked for. -/
theorem streamLoop_steps {runner : PipelineRunner} {ops : TensorOps τ} {fuel : Nat}
    {stepEnv : Nat → StepEnv κ} {remaining step : Nat} {nextInput : τ}
    {backend final : Backend μ τ κ} {steps : List (GenerationStep τ)}
    {outcome : Option PyException}
    (hloop : runner.streamLoop ops fuel stepEnv remaining step nextInput backend =
      some (final, steps, outcome)) :
    (outcome = none → steps.length = remaining) ∧
      ∀ yielded ∈ steps, ops.argmaxLast yielded.stepResult.outputTensor = .ok yielded.tokenId := by
  induction remaining generalizing step nextInput backend steps with
  | zero =>
      simp only [PipelineRunner.streamLoop, Option.some.injEq, Prod.mk.injEq] at hloop
      obtain ⟨_, rfl, _⟩ := hloop
      exact ⟨fun _ => rfl, by simp⟩
  | succ remaining ih =>
      simp only [PipelineRunner.streamLoop] at hloop
      split at hloop
      · cases hloop
      · split at hloop
        · simp only [Option.some.injEq, Prod.mk.injEq] at hloop
          obtain ⟨_, rfl, rfl⟩ := hloop
          exact ⟨fun hnone => (by cases hnone), by simp⟩
        · next yielded hyielded =>
            obtain ⟨⟨after, rest, err⟩, hrest, heq⟩ := Option.map_eq_some_iff.mp hloop
            simp only [Prod.mk.injEq] at heq
            obtain ⟨rfl, rfl, rfl⟩ := heq
            obtain ⟨hlength, htokens⟩ := ih hrest
            refine ⟨fun hnone => by rw [List.length_cons, hlength hnone], ?_⟩
            exact List.forall_mem_cons.mpr
              ⟨(PipelineRunner.generationStep_ok hyielded).2, htokens⟩

/-- The loop body of the stream over the generator's items. -/
def consume (session : ResidentSession τ) (floatText : ℚ → PyFloat) (body : StreamBody)
    (steps : List (GenerationStep τ)) : StreamBody :=
  steps.foldl (fun body step =>
    body.yieldToken (session.tokenOf step.tokenId) (step.stepResult.measured floatText)
      (session.decode (session.row step.tokenId))) body

/-- What the fold leaves in the frame of the generator. -/
structure Consumed (session : ResidentSession τ) (floatText : ℚ → PyFloat)
    (body after : StreamBody) (items : List (GenerationStep τ)) : Prop where
  position : after.position = body.position
  maxNewTokens : after.maxNewTokens = body.maxNewTokens
  steps : after.steps = body.steps + items.length
  outputIds : after.outputIds =
    body.outputIds ++ items.map fun step => session.tokenOf step.tokenId
  lastStep : after.lastStep =
    ((items.getLast?.map fun step => step.stepResult.measured floatText).or body.lastStep)
  lines : ∃ texts : List String, after.lines = body.lines ++ texts.map tokenLine ∧
    List.Forall₂ (fun step text => session.decode (session.row step.tokenId) = .ok text)
      items texts

theorem consumed (hdecode : ∀ ids, ∃ text, session.decode ids = .ok text) (body : StreamBody)
    (steps : List (GenerationStep τ)) :
    Consumed session floatText body (consume session floatText body steps) steps := by
  induction steps using List.reverseRecOn with
  | nil =>
      exact {
        position := rfl
        maxNewTokens := rfl
        steps := rfl
        outputIds := (List.append_nil _).symm
        lastStep := rfl
        lines := ⟨[], (List.append_nil _).symm, .nil⟩ }
  | append_singleton steps step ih =>
      obtain ⟨text, htext⟩ := hdecode (session.row step.tokenId)
      obtain ⟨texts, hlines, hdecoded⟩ := ih.lines
      have hstep : consume session floatText body (steps ++ [step]) =
          (consume session floatText body steps).yieldToken (session.tokenOf step.tokenId)
            (step.stepResult.measured floatText) (.ok text) := by
        unfold consume
        rw [List.foldl_append, List.foldl_cons, List.foldl_nil, htext]
      rw [hstep]
      exact {
        position := ih.position
        maxNewTokens := ih.maxNewTokens
        steps := by
          rw [List.length_append, List.length_singleton, ← Nat.add_assoc, ← ih.steps]
          rfl
        outputIds := by
          rw [List.map_append, ← List.append_assoc, ← ih.outputIds]
          rfl
        lastStep := by
          rw [List.getLast?_append]
          rfl
        lines := by
          refine ⟨texts ++ [text], ?_, ?_⟩
          · rw [List.map_append, ← List.append_assoc, ← hlines]
            rfl
          · exact List.rel_append hdecoded (.cons htext .nil) }

/-- The interleaved loop of the stream comes to the fold over the items of the generator
and the code after the loop, or the handler around it. -/
theorem streamTurns_eq (hdecode : ∀ ids, ∃ text, session.decode ids = .ok text)
    {remaining step : Nat} {nextInput : τ} {backend final : Backend μ τ κ}
    {steps : List (GenerationStep τ)} {outcome : Option PyException} {body : StreamBody}
    (hloop : session.runner.streamLoop session.ops env.fuel env.steps remaining step nextInput
      backend = some (final, steps, outcome))
    (hposition : body.position = .looping)
    (hcount : body.steps + remaining = body.maxNewTokens.toNat) :
    session.streamTurns floatText env remaining step nextInput backend body =
      outcome.elim
        (session.streamTurns floatText env 0 step nextInput final
          (consume session floatText body steps))
        fun err => some (final, (consume session floatText body steps).reportError err) := by
  induction remaining generalizing step nextInput backend steps body with
  | zero =>
      simp only [PipelineRunner.streamLoop, Option.some.injEq, Prod.mk.injEq] at hloop
      obtain ⟨rfl, rfl, rfl⟩ := hloop
      rfl
  | succ remaining ih =>
      simp only [PipelineRunner.streamLoop] at hloop
      split at hloop
      · cases hloop
      · next after result hstep =>
          have hmore : body.position = .looping ∧ (body.steps : Int) < body.maxNewTokens :=
            ⟨hposition, by omega⟩
          split at hloop
          · next err hfailed =>
              simp only [Option.some.injEq, Prod.mk.injEq] at hloop
              obtain ⟨rfl, rfl, rfl⟩ := hloop
              simp only [ResidentSession.streamTurns, hstep, hfailed, StreamBody.next,
                if_pos hmore, Option.map_some]
              rfl
          · next yielded hyielded =>
              obtain ⟨⟨last, rest, err⟩, hrest, heq⟩ := Option.map_eq_some_iff.mp hloop
              simp only [Prod.mk.injEq] at heq
              obtain ⟨rfl, rfl, rfl⟩ := heq
              obtain ⟨text, htext⟩ := hdecode (session.row yielded.tokenId)
              let advanced := body.yieldToken (session.tokenOf yielded.tokenId)
                (yielded.stepResult.measured floatText)
                (session.decode (session.row yielded.tokenId))
              have hadvanced : advanced.position = .looping ∧
                  advanced.maxNewTokens = body.maxNewTokens ∧
                  advanced.steps = body.steps + 1 := by
                simp only [advanced, htext]
                exact ⟨hposition, rfl, rfl⟩
              have hturn : session.streamTurns floatText env (remaining + 1) step nextInput
                  backend body =
                    session.streamTurns floatText env remaining (step + 1) yielded.tokenId
                      after advanced := by
                simp only [ResidentSession.streamTurns, hstep, hyielded, StreamBody.next,
                  if_pos hmore, Option.bind_some]
                exact if_pos hadvanced.1
              rw [hturn]
              refine ih hrest hadvanced.1 ?_
              rw [hadvanced.2.1, hadvanced.2.2]
              omega

/-- The body of a streaming request as it enters the loop. -/
def streamStart (session : ResidentSession τ) (submission : InferSubmission) (inputIds : τ) :
    StreamBody :=
  (StreamBody.create submission.modelName submission.maxNewTokens).tokenizeInput
    (.ok (session.row inputIds))

/-- A streaming request comes to the same, from the items of its generator. -/
theorem runInferenceStream_eq (hdecode : ∀ ids, ∃ text, session.decode ids = .ok text)
    {submission : InferSubmission} {inputIds : τ}
    (htokenize : session.tokenize submission.input = .ok inputIds)
    {backend final : Backend μ τ κ} {steps : List (GenerationStep τ)}
    {outcome : Option PyException}
    (hrun : session.runner.generateStream session.ops env.fuel env.steps inputIds
      submission.maxNewTokens backend = some (final, steps, outcome)) :
    session.runInferenceStream floatText env submission backend =
      outcome.elim
        (session.streamTurns floatText env 0 0 inputIds final
          (consume session floatText (streamStart session submission inputIds) steps))
        fun err => some (final,
          (consume session floatText (streamStart session submission inputIds) steps).reportError
            err) := by
  have hstream : session.runInferenceStream floatText env submission backend =
      session.streamTurns floatText env submission.maxNewTokens.toNat 0 inputIds backend
        (streamStart session submission inputIds) := by
    unfold ResidentSession.runInferenceStream
    simp only [htokenize]
    rfl
  rw [hstream]
  exact streamTurns_eq hdecode hrun rfl (Nat.zero_add _)

/-- The code after the loop, when all the tokens asked for have been generated. -/
theorem streamTurns_end (hdecode : ∀ ids, ∃ text, session.decode ids = .ok text)
    {step count : Nat} {nextInput : τ} {backend : Backend μ τ κ} {body : StreamBody}
    (hnodes : env.numNodes = .ok count) (hposition : body.position = .looping)
    (hcount : body.steps = body.maxNewTokens.toNat) :
    ∃ output ended, session.decode body.outputIds = .ok output ∧
      session.streamTurns floatText env 0 step nextInput backend body =
        some (backend, ended) ∧
      ended.position = .returned ∧ ended.outputIds = body.outputIds ∧
      ended.lines = body.lines ++ [resultLine (body.result count env.latencyMs output)] := by
  obtain ⟨output, houtput⟩ := hdecode body.outputIds
  have hdone : body.position = .looping ∧ body.maxNewTokens ≤ body.steps :=
    ⟨hposition, by omega⟩
  refine ⟨output, { body with
    position := .returned
    lines := body.lines ++ [resultLine (body.result count env.latencyMs output)] },
    houtput, ?_, rfl, rfl, rfl⟩
  simp only [ResidentSession.streamTurns, StreamBody.next, if_pos hdone, Option.bind_some,
    if_true, hnodes, houtput, StreamBody.yieldResult, Option.map_some]
  rfl

/-- The tensor of a token holds one id. -/
theorem row_eq_tokenOf (hids : SingleSequence session) {logits tokenId : τ}
    (hargmax : session.ops.argmaxLast logits = .ok tokenId) :
    session.row tokenId = [session.tokenOf tokenId] := by
  obtain ⟨id, hid⟩ := hids.argmax logits tokenId hargmax
  unfold ResidentSession.tokenOf
  rw [hid]
  rfl

/-- The ids a generation returns are those of the prompt and its tokens. -/
theorem row_foldl_cat (hids : SingleSequence session) (inputIds : τ)
    {steps : List (GenerationStep τ)}
    (htokens : ∀ step ∈ steps,
      session.ops.argmaxLast step.stepResult.outputTensor = .ok step.tokenId) :
    session.row (steps.foldl (fun ids step => session.ops.cat ids step.tokenId) inputIds) =
      session.row inputIds ++ steps.map fun step => session.tokenOf step.tokenId := by
  induction steps generalizing inputIds with
  | nil => exact (List.append_nil _).symm
  | cons step rest ih =>
      obtain ⟨htoken, hrest⟩ := List.forall_mem_cons.mp htokens
      rw [List.foldl_cons, ih _ hrest, hids.cat, row_eq_tokenOf hids htoken, List.map_cons,
        List.append_assoc]
      rfl

end

/-- Two workers that count, and a tokenizer of numerals. -/
def countingSession : ResidentSession (List Nat) where
  runner := twoNodeRunner
  ops := sequenceOps (· % 50)
  tokenize _ := .ok [10, 20, 30]
  row ids := ids
  decode ids := .ok (" ".intercalate (ids.map toString))

theorem countingSession_single : SingleSequence countingSession where
  cat _ _ := rfl
  argmax logits token hargmax := by
    cases hlast : logits.getLast? with
    | none => simp [countingSession, sequenceOps, hlast] at hargmax
    | some last =>
        simp only [countingSession, sequenceOps, hlast, Except.ok.injEq] at hargmax
        exact ⟨_, hargmax.symm⟩

def countingEnv (latencyMs : PyFloat) : HandlerEnv (Cache Nat) where
  fuel := 2
  steps step := ⟨s!"request-{step}", fun k => ⟨k, k, none⟩⟩
  latencyMs := latencyMs
  numNodes := .ok 2

def shortTime : PyFloat := ⟨"1.5".toList, AllPrintable.of_all (by decide)⟩

end PiSSM.Pipeline
