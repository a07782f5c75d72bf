import PiSSM.Pipeline.DeployedGeneration
import PiSSM.Pipeline.SerializedGeneration
import PiSSM.Pipeline.StepFailures

/-!
Concurrent generations over the workers of one deployed checkpoint. Calls wait for each
other, and each starts from reset caches, so a call in which nothing goes wrong gives the
greedy continuation of its own prompt, whatever the calls around it do: fail at any hop,
stop halfway, or ask for their tokens in between. No call has to wait forever either: the
one that holds the lock can always be brought to let go of it.
-/

namespace PiSSM.Pipeline

open PiSSM.Lib PiSSM.Inference PiSSM.Orchestrator

section Chain

variable {μ τ κ : Type*}

/-- Workers that forward as a pipeline says are linked in its order. -/
theorem linkedChain_of_pipeline {network : Network μ κ} {modelName : String}
    {total start : Nat} {shards : List ShardAssignment}
    (hpipeline : IsPipeline total start shards)
    (hforwards : ∀ s ∈ shards, ∀ handle,
      (network s.address).models.get? modelName = some handle →
        handle.nextWorkerAddress = s.nextWorkerAddress) :
    LinkedChain network modelName (shards.map ShardAssignment.address) := by
  induction shards generalizing start with
  | nil => exact hpipeline.elim
  | cons first rest ih =>
      have hfirst := hforwards first List.mem_cons_self
      cases rest with
      | nil =>
          obtain ⟨_, _, _, _, _, hnext⟩ := hpipeline
          intro handle hget
          exact (hfirst handle hget).trans hnext
      | cons next rest =>
          obtain ⟨_, _, _, _, _, hnext, hrest⟩ := hpipeline
          exact ⟨fun handle hget => (hfirst handle hget).trans hnext,
            ih hrest fun s hs => hforwards s (List.mem_cons_of_mem _ hs)⟩

end Chain

section Lock

variable {μ τ κ : Type*} [ShardModel μ τ κ] {setup : GenerationSetup μ τ κ}
  {state : RunnerState μ τ κ}

/-- The workers forward to each other in the order of the plan, so that calls to them come
back. -/
def CallsReturn (setup : GenerationSetup μ τ κ) : Prop :=
  LinkedChain setup.backend.network setup.runner.plan.modelName
      (setup.runner.plan.assignments.map ShardAssignment.address) ∧
    setup.runner.plan.assignments.length ≤ setup.fuel

/-- A request that is under way comes back, whatever goes wrong at its hops. -/
theorem exists_finish (hlinked : CallsReturn setup)
    (hreach : setup.system.Reachable state) {caller step : Nat} {nextInput : τ}
    (hphase : (state.calls caller).phase = .inFlight step nextInput) :
    ∃ backend result, setup.system.step state (.finish caller) =
        some (setup.endStep state caller step backend result) ∧
      setup.runner.finishShardStep setup.fuel (setup.env caller step) nextInput (step = 0)
        state.backend = some (backend, result) := by
  have hfinish : ∃ backend result, setup.runner.finishShardStep setup.fuel
      (setup.env caller step) nextInput (step = 0) state.backend = some (backend, result) := by
    obtain ⟨hchain, hfuel⟩ := hlinked
    have hchain' := hchain.congr (serialized_of_reachable hreach).shape
    unfold PipelineRunner.finishShardStep
    cases hplan : setup.runner.plan.assignments with
    | nil => exact ⟨_, _, rfl⟩
    | cons first rest =>
        rw [hplan] at hchain' hfuel
        rw [List.length_cons] at hfuel
        have hmode := setup.runner.runRequest_pipelineMode (setup.env caller step).requestId
          nextInput (step = 0)
        have hshort : (rest.map ShardAssignment.address).length < setup.fuel := by
          rw [List.length_map]
          exact hfuel
        obtain ⟨outcome, hrun⟩ : ∃ outcome, runShard setup.fuel state.backend.network
            (setup.env caller step).hops first.address (setup.runner.runRequest
              (setup.env caller step).requestId nextInput (step = 0)) = some outcome :=
          LinkedChain.returns hmode hchain' hshort
        rw [List.head?_cons]
        simp only [hrun, Option.map_some]
        cases outcome.reply with
        | error err => exact ⟨_, _, rfl⟩
        | ok response => exact ⟨_, _, rfl⟩
  obtain ⟨backend, result, hfinish⟩ := hfinish
  refine ⟨backend, result, ?_, hfinish⟩
  simp only [GenerationSetup.system, GenerationSetup.step, hphase, hfinish, Option.map_some]

omit [ShardModel μ τ κ] in
theorem endStep_calls_of_ne {caller step other : Nat} {backend : Backend μ τ κ}
    {result : Except PyException (Option (PipelineResult τ))} (hother : other ≠ caller) :
    (setup.endStep state caller step backend result).calls other = state.calls other := by
  unfold GenerationSetup.endStep
  split
  · exact Function.update_of_ne hother _ _
  · exact Function.update_of_ne hother _ _

/-- A call that is suspended can be closed. -/
theorem unlocked_of_suspended {holder waiting step : Nat} {nextInput : τ}
    (hphase : (state.calls holder).phase = .suspended step nextInput)
    (hother : waiting ≠ holder) :
    ∃ final, setup.system.RunVia (fun _ _ => True) state final ∧
      final.generationLock = none ∧ final.calls waiting = state.calls waiting := by
  let closed := state.setCall holder none ⟨.closed, (state.calls holder).yielded⟩
  have hstep : setup.system.step state (.close holder) = some closed := by
    simp only [GenerationSetup.system, GenerationSetup.step, hphase, closed]
  exact ⟨closed, .step .refl trivial hstep, rfl, Function.update_of_ne hother _ _⟩

/-- A call whose request is under way lets go of the lock, by raising or closed after its
token. -/
theorem unlocked_of_inFlight (hreturn : CallsReturn setup)
    (hreach : setup.system.Reachable state) {holder waiting step : Nat} {nextInput : τ}
    (hphase : (state.calls holder).phase = .inFlight step nextInput)
    (hother : waiting ≠ holder) :
    ∃ final, setup.system.RunVia (fun _ _ => True) state final ∧
      final.generationLock = none ∧ final.calls waiting = state.calls waiting := by
  obtain ⟨backend, result, hstep, _⟩ := exists_finish hreturn hreach hphase
  have hkept : (setup.endStep state holder step backend result).calls waiting =
      state.calls waiting := endStep_calls_of_ne hother
  have hrun : setup.system.RunVia (fun _ _ => True) state
      (setup.endStep state holder step backend result) := .step .refl trivial hstep
  cases hyield : PipelineRunner.generationStep setup.ops result with
  | error err =>
      refine ⟨_, hrun, ?_, hkept⟩
      simp only [GenerationSetup.endStep, hyield]
  | ok token =>
      have hphase' : ((setup.endStep state holder step backend result).calls holder).phase =
          .suspended (step + 1) token.tokenId := by
        simp only [GenerationSetup.endStep, hyield, Function.update_self]
      obtain ⟨final, hrest, hlock, hsame⟩ := unlocked_of_suspended hphase' hother
      exact ⟨final, hrun.trans hrest, hlock, hsame.trans hkept⟩

/-- Whatever holds the lock can be brought to let go of it, while a call outside of it
waits. -/
theorem exists_unlocked (hreturn : CallsReturn setup)
    (hreach : setup.system.Reachable state) {waiting : Nat}
    (hwaiting : (state.calls waiting).phase.isActive = false) :
    ∃ final, setup.system.RunVia (fun _ _ => True) state final ∧
      final.generationLock = none ∧ final.calls waiting = state.calls waiting := by
  cases hlock : state.generationLock with
  | none => exact ⟨state, .refl, hlock, rfl⟩
  | some holder =>
      have hactive := ((serialized_of_reachable hreach).lock holder).mp hlock
      have hother : waiting ≠ holder := by
        rintro rfl
        rw [hwaiting] at hactive
        cases hactive
      cases hphase : (state.calls holder).phase with
      | running step nextInput =>
          let sent := setup.sendStep state holder step nextInput
          have hstep : setup.system.step state (.send holder) = some sent := by
            simp only [GenerationSetup.system, GenerationSetup.step, hphase, sent]
          have hphase' : (sent.calls holder).phase = .inFlight step nextInput := by
            simp only [sent, GenerationSetup.sendStep, Function.update_self]
          have hkept : sent.calls waiting = state.calls waiting :=
            Function.update_of_ne hother _ _
          obtain ⟨final, hrest, hfree, hsame⟩ :=
            unlocked_of_inFlight hreturn (.step hreach trivial hstep) hphase' hother
          exact ⟨final, .trans (.step .refl trivial hstep) hrest, hfree, hsame.trans hkept⟩
      | inFlight step nextInput => exact unlocked_of_inFlight hreturn hreach hphase hother
      | suspended step nextInput => exact unlocked_of_suspended hphase hother
      | created => simp [hphase, CallPhase.isActive] at hactive
      | exhausted => simp [hphase, CallPhase.isActive] at hactive
      | raised err => simp [hphase, CallPhase.isActive] at hactive
      | closed => simp [hphase, CallPhase.isActive] at hactive

/-- Where one step leaves one call: where it was, at work or at its regular end, closed
with what it had yielded, or failed at the end of a step. -/
theorem callState_cases {next : RunnerState μ τ κ} {label : GenerationLabel}
    (hstep : setup.step state label = some next) (query : Nat) :
    next.calls query = state.calls query ∨
    ((next.calls query).phase ≠ .closed ∧ ∀ err, (next.calls query).phase ≠ .raised err) ∨
    ((next.calls query).phase = .closed ∧
      (next.calls query).yielded = (state.calls query).yielded) ∨
    ∃ step nextInput backend result err,
      (state.calls query).phase = .inFlight step nextInput ∧
      setup.runner.finishShardStep setup.fuel (setup.env query step) nextInput (step = 0)
        state.backend = some (backend, result) ∧
      PipelineRunner.generationStep setup.ops result = .error err := by
  have henter {caller step : Nat} {nextInput : τ} :
      (setup.enterIteration state caller step nextInput).calls query = state.calls query ∨
      (((setup.enterIteration state caller step nextInput).calls query).phase ≠ .closed ∧
        ∀ err, ((setup.enterIteration state caller step nextInput).calls query).phase ≠
          .raised err) := by
    unfold GenerationSetup.enterIteration RunnerState.setCall
    by_cases hquery : query = caller
    · subst hquery
      split <;> simp
    · split <;> simp [Function.update_of_ne hquery]
  rcases GenerationSetup.step_cases hstep with
    ⟨caller, _, _, rfl⟩ | ⟨caller, step, nextInput, _, rfl⟩ |
    ⟨caller, step, nextInput, backend, result, hphase, hfinish, rfl⟩ |
    ⟨caller, step, nextInput, _, rfl⟩ | ⟨caller, _, rfl⟩ | ⟨caller, step, nextInput, _, rfl⟩
  · exact henter.imp id .inl
  · by_cases hquery : query = caller
    · subst hquery
      refine .inr (.inl ?_)
      simp [GenerationSetup.sendStep]
    · exact .inl (Function.update_of_ne hquery _ _)
  · by_cases hquery : query = caller
    · subst hquery
      cases hyield : PipelineRunner.generationStep setup.ops result with
      | error err => exact .inr (.inr (.inr ⟨step, nextInput, _, _, err, hphase, hfinish, hyield⟩))
      | ok token =>
          refine .inr (.inl ?_)
          simp [GenerationSetup.endStep, hyield]
    · exact .inl (endStep_calls_of_ne hquery)
  · exact henter.imp id .inl
  · by_cases hquery : query = caller
    · subst hquery
      refine .inr (.inr (.inl ?_))
      simp [RunnerState.setCall]
    · exact .inl (Function.update_of_ne hquery _ _)
  · by_cases hquery : query = caller
    · subst hquery
      refine .inr (.inr (.inl ?_))
      simp [RunnerState.setCall]
    · exact .inl (Function.update_of_ne hquery _ _)

end Lock

section Greedy

variable {H S : Type} {embeddings normF lmHead : H → H} {layer : Nat → Recurrence H S}
  {argmax : H → H} {setup : GenerationSetup (MambaShardModule (List H) S) (List H) (Cache S)}
  {caller : Nat}

/-- The calls of a setup meet workers that hold the shards of one model. -/
structure OverModel (embeddings normF lmHead : H → H) (layer : Nat → Recurrence H S)
    (argmax : H → H)
    (setup : GenerationSetup (MambaShardModule (List H) S) (List H) (Cache S)) : Prop where
  pipeline : IsPipeline setup.runner.plan.totalLayers 0 setup.runner.plan.assignments
  distinct : (setup.runner.plan.assignments.map ShardAssignment.address).Nodup
  fuel : setup.runner.plan.assignments.length ≤ setup.fuel
  ops : setup.ops = sequenceOps argmax
  holds : HoldsPlan embeddings normF lmHead layer setup.runner setup.backend

/-- A call with a prompt, at whose own steps nothing goes wrong. -/
structure FaultFree (setup : GenerationSetup (MambaShardModule (List H) S) (List H) (Cache S))
    (caller : Nat) : Prop where
  faults : ∀ step k, ((setup.env caller step).hops k).fault = none
  prompt : 1 ≤ (setup.inputIds caller).length

theorem OverModel.callsReturn (hover : OverModel embeddings normF lmHead layer argmax setup) :
    CallsReturn setup := by
  refine ⟨linkedChain_of_pipeline hover.pipeline ?_, hover.fuel⟩
  intro s hs handle hget
  obtain ⟨handle', hget', _, hnext⟩ := hover.holds s hs
  obtain rfl : handle' = handle := Option.some.inj (hget'.symm.trans hget)
  exact hnext

/-- The logits of the undivided model. -/
abbrev wholeLogits (embeddings normF lmHead : H → H) (layer : Nat → Recurrence H S)
    (setup : GenerationSetup (MambaShardModule (List H) S) (List H) (Cache S)) :
    List H → List H :=
  (recurrentModel setup.runner.plan.totalLayers embeddings normF lmHead layer).logits
    setup.runner.plan.totalLayers (fun _ => none)

/-- The call alone on its workers. -/
theorem OverModel.alone (hover : OverModel embeddings normF lmHead layer argmax setup)
    (hfree : FaultFree setup caller) (count : Nat) :
    ∃ final steps,
      setup.runner.streamLoop setup.ops setup.fuel (setup.env caller) count 0
          (setup.inputIds caller) setup.backend = some (final, steps, none) ∧
      GreedySteps (wholeLogits embeddings normF lmHead layer setup) argmax
        (setup.inputIds caller) steps ∧
      steps.length = count := by
  obtain ⟨final, steps, hstream, hgreedy, hcount⟩ :=
    generateStream_greedy embeddings normF lmHead layer argmax hover.pipeline hover.distinct
      hover.fuel hfree.faults hfree.prompt count hover.holds
  rw [PipelineRunner.generateStream, Int.toNat_natCast, ← hover.ops] at hstream
  exact ⟨final, steps, hstream, hgreedy, hcount⟩

/-- What a call has yielded after some steps alone is greedy. -/
theorem OverModel.streamPrefix_greedy
    (hover : OverModel embeddings normF lmHead layer argmax setup)
    (hfree : FaultFree setup caller) {count : Nat}
    {backend : Backend (MambaShardModule (List H) S) (List H) (Cache S)} {nextInput : List H}
    {yielded : List (GenerationStep (List H))}
    (hstreamed : streamPrefix setup caller count = some (backend, nextInput, yielded)) :
    GreedySteps (wholeLogits embeddings normF lmHead layer setup) argmax
        (setup.inputIds caller) yielded ∧ yielded.length = count := by
  obtain ⟨final, steps, hstream, hgreedy, hcount⟩ := hover.alone hfree count
  have hloop := streamLoop_of_prefix setup hstreamed 0
  rw [Nat.add_zero, hstream, PipelineRunner.streamLoop, Option.map_some] at hloop
  obtain rfl : steps = yielded := by
    have hsteps := congrArg (fun shown => shown.2.1) (Option.some.inj hloop)
    simpa using hsteps
  exact ⟨hgreedy, hcount⟩

/-- The next step of a call alone yields a token. -/
theorem OverModel.streamPrefix_next
    (hover : OverModel embeddings normF lmHead layer argmax setup)
    (hfree : FaultFree setup caller) {count : Nat}
    {backend : Backend (MambaShardModule (List H) S) (List H) (Cache S)} {nextInput : List H}
    {yielded : List (GenerationStep (List H))}
    (hstreamed : streamPrefix setup caller count = some (backend, nextInput, yielded)) :
    ∃ backend' result token,
      setup.runner.runShardStep setup.fuel (setup.env caller count) nextInput (count = 0)
        backend = some (backend', result) ∧
      PipelineRunner.generationStep setup.ops result = .ok token := by
  obtain ⟨final, steps, hstream, _, _⟩ := hover.alone hfree (count + 1)
  have hloop := streamLoop_of_prefix setup hstreamed 1
  rw [hstream, PipelineRunner.streamLoop] at hloop
  cases hstep : setup.runner.runShardStep setup.fuel (setup.env caller count) nextInput
      (count = 0) backend with
  | none =>
      rw [hstep] at hloop
      cases hloop
  | some stepped =>
      obtain ⟨backend', result⟩ := stepped
      rw [hstep] at hloop
      cases hyield : PipelineRunner.generationStep setup.ops result with
      | error err =>
          simp only [hyield, Option.map_some] at hloop
          cases hloop
      | ok token => exact ⟨backend', result, token, rfl, hyield⟩

variable {state : RunnerState (MambaShardModule (List H) S) (List H) (Cache S)}

/-- The result of a step among other calls is the result the call gets alone. -/
theorem OverModel.finish_ok (hover : OverModel embeddings normF lmHead layer argmax setup)
    (hfree : FaultFree setup caller) (hreach : setup.system.Reachable state) {step : Nat}
    {nextInput : List H} (hphase : (state.calls caller).phase = .inFlight step nextInput)
    {backend : Backend (MambaShardModule (List H) S) (List H) (Cache S)}
    {result : Except PyException (Option (PipelineResult (List H)))}
    (hfinish : setup.runner.finishShardStep setup.fuel (setup.env caller step) nextInput
      (step = 0) state.backend = some (backend, result)) :
    ∃ token, PipelineRunner.generationStep setup.ops result = .ok token := by
  have hcall := (serialized_of_reachable hreach).calls caller
  simp only [CallOk, hphase] at hcall
  obtain ⟨_, ⟨alone, hstreamed, hshape, hagree⟩, hslot⟩ := hcall
  obtain ⟨alone', result', token, hstep, hyield⟩ := hover.streamPrefix_next hfree hstreamed
  have hcaches : decide (step = 0) = true ∨
      RunnerAgrees setup.runner state.backend.network alone.network := by
    by_cases hzero : step = 0
    · exact .inl (decide_eq_true hzero)
    · exact .inr (hagree hzero)
  have hreserved : (PipelineRunner.reserveSlot (setup.env caller step)
      alone).resultStore.SlotHolds (setup.env caller step).requestId none :=
    ResultStore.createSlot_slotHolds _ _
  have hshape' : SameShape setup.runner.plan.modelName state.backend.network
      (PipelineRunner.reserveSlot (setup.env caller step) alone).network := hshape
  obtain ⟨_, halone, _, _, _⟩ :=
    finishShardStep_together hshape' hcaches hslot hreserved hfinish
  obtain ⟨_, rfl⟩ := Prod.mk.inj (Option.some.inj (hstep.symm.trans halone))
  exact ⟨token, hyield⟩

/-- What there is to say of a call in which nothing goes wrong. -/
structure CallGreedy (embeddings normF lmHead : H → H) (layer : Nat → Recurrence H S)
    (argmax : H → H)
    (setup : GenerationSetup (MambaShardModule (List H) S) (List H) (Cache S)) (caller : Nat)
    (call : CallState (List H)) : Prop where
  notRaised : ∀ err, call.phase ≠ .raised err
  greedy : GreedySteps (wholeLogits embeddings normF lmHead layer setup) argmax
    (setup.inputIds caller) call.yielded
  atMost : call.yielded.length ≤ (setup.maxNewTokens caller).toNat
  exhausted : call.phase = .exhausted →
    call.yielded.length = (setup.maxNewTokens caller).toNat

/-- A call that goes on, or has come to its regular end. -/
theorem OverModel.callGreedy (hover : OverModel embeddings normF lmHead layer argmax setup)
    (hfree : FaultFree setup caller) (hreach : setup.system.Reachable state)
    (hopen : (state.calls caller).phase ≠ .closed)
    (hregular : ∀ err, (state.calls caller).phase ≠ .raised err) :
    CallGreedy embeddings normF lmHead layer argmax setup caller (state.calls caller) := by
  have hcall := (serialized_of_reachable hreach).calls caller
  have hlike {step : Nat} {nextInput : List H}
      (hle : step ≤ (setup.maxNewTokens caller).toNat)
      (hlike : LikeAlone setup state.backend caller step nextInput
        (state.calls caller).yielded)
      (hnot : (state.calls caller).phase ≠ .exhausted) :
      CallGreedy embeddings normF lmHead layer argmax setup caller (state.calls caller) := by
    obtain ⟨alone, hstreamed, _⟩ := hlike
    obtain ⟨hgreedy, hcount⟩ := hover.streamPrefix_greedy hfree hstreamed
    exact ⟨hregular, hgreedy, hcount.trans_le hle, fun hphase => absurd hphase hnot⟩
  cases hphase : (state.calls caller).phase with
  | created =>
      simp only [CallOk, hphase] at hcall
      refine ⟨hregular, ?_, ?_, fun hend => ?_⟩
      · rw [hcall]
        trivial
      · rw [hcall]
        exact Nat.zero_le _
      · rw [hphase] at hend
        cases hend
  | running step nextInput =>
      simp only [CallOk, hphase] at hcall
      exact hlike (Nat.le_of_lt hcall.1) hcall.2 (by simp [hphase])
  | inFlight step nextInput =>
      simp only [CallOk, hphase] at hcall
      exact hlike (Nat.le_of_lt hcall.1) hcall.2.1 (by simp [hphase])
  | suspended step nextInput =>
      simp only [CallOk, hphase] at hcall
      exact hlike hcall.1 hcall.2 (by simp [hphase])
  | exhausted =>
      simp only [CallOk, hphase] at hcall
      obtain ⟨alone, hstream⟩ := hcall
      obtain ⟨final, steps, hloop, hgreedy, hcount⟩ :=
        hover.alone hfree (setup.maxNewTokens caller).toNat
      rw [PipelineRunner.generateStream, hloop] at hstream
      obtain rfl : steps = (state.calls caller).yielded :=
        congrArg (fun shown => shown.2.1) (Option.some.inj hstream)
      exact ⟨hregular, hgreedy, hcount.le, fun _ => hcount⟩
  | raised err => exact absurd hphase (hregular err)
  | closed => exact absurd hphase hopen

/-- In every interleaving, a call in which nothing goes wrong has yielded the greedy
continuation of its own prompt and has not raised. -/
theorem OverModel.callGreedy_of_reachable
    (hover : OverModel embeddings normF lmHead layer argmax setup)
    (hfree : FaultFree setup caller) (hreach : setup.system.Reachable state) :
    CallGreedy embeddings normF lmHead layer argmax setup caller (state.calls caller) := by
  induction hreach with
  | init hinit =>
      obtain rfl := hinit
      exact ⟨nofun, trivial, Nat.zero_le _, nofun⟩
  | step hprev _ hstep hcall =>
      have hreach := TransitionSystem.ReachableVia.step hprev trivial hstep
      rcases callState_cases hstep caller with hsame | ⟨hopen, hregular⟩ | ⟨hclosed, hsame⟩ |
        ⟨step, nextInput, backend, result, err, hphase, hfinish, herror⟩
      · rw [hsame]
        exact hcall
      · exact hover.callGreedy hfree hreach hopen hregular
      · refine ⟨?_, ?_, ?_, ?_⟩
        · rw [hclosed]
          exact nofun
        · rw [hsame]
          exact hcall.greedy
        · rw [hsame]
          exact hcall.atMost
        · rw [hclosed]
          exact nofun
      · obtain ⟨token, htoken⟩ := hover.finish_ok hfree hprev hphase hfinish
        rw [herror] at htoken
        cases htoken

/-- A step of the call that is under way ends with its token. -/
theorem OverModel.exists_suspended_of_inFlight
    (hover : OverModel embeddings normF lmHead layer argmax setup)
    (hfree : FaultFree setup caller) (hreach : setup.system.Reachable state) {step : Nat}
    {nextInput : List H} (hphase : (state.calls caller).phase = .inFlight step nextInput) :
    ∃ final nextInput', setup.system.RunVia (fun _ _ => True) state final ∧
      (final.calls caller).phase = .suspended (step + 1) nextInput' := by
  obtain ⟨backend, result, hstep, hfinish⟩ := exists_finish hover.callsReturn hreach hphase
  obtain ⟨token, htoken⟩ := hover.finish_ok hfree hreach hphase hfinish
  refine ⟨_, token.tokenId, .step .refl trivial hstep, ?_⟩
  simp only [GenerationSetup.endStep, htoken, Function.update_self]

theorem OverModel.exists_suspended_of_running
    (hover : OverModel embeddings normF lmHead layer argmax setup)
    (hfree : FaultFree setup caller) (hreach : setup.system.Reachable state) {step : Nat}
    {nextInput : List H} (hphase : (state.calls caller).phase = .running step nextInput) :
    ∃ final nextInput', setup.system.RunVia (fun _ _ => True) state final ∧
      (final.calls caller).phase = .suspended (step + 1) nextInput' := by
  let sent := setup.sendStep state caller step nextInput
  have hstep : setup.system.step state (.send caller) = some sent := by
    simp only [GenerationSetup.system, GenerationSetup.step, hphase, sent]
  have hphase' : (sent.calls caller).phase = .inFlight step nextInput := by
    simp only [sent, GenerationSetup.sendStep, Function.update_self]
  obtain ⟨final, nextInput', hrest, hsuspended⟩ :=
    hover.exists_suspended_of_inFlight hfree (.step hreach trivial hstep) hphase'
  exact ⟨final, nextInput', .trans (.step .refl trivial hstep) hrest, hsuspended⟩

theorem resume_step {step : Nat} {nextInput : List H}
    (hphase : (state.calls caller).phase = .suspended step nextInput) :
    setup.system.step state (.resume caller) =
      some (setup.enterIteration state caller step nextInput) := by
  simp only [GenerationSetup.system, GenerationSetup.step, hphase]

/-- A call at the head of its loop, with `remaining` iterations to go, gets to its end when
its caller keeps asking. -/
theorem OverModel.exists_exhausted_of_entered
    (hover : OverModel embeddings normF lmHead layer argmax setup)
    (hfree : FaultFree setup caller) {step remaining : Nat} {nextInput : List H}
    (hreach : setup.system.Reachable (setup.enterIteration state caller step nextInput))
    (hcount : step + remaining = (setup.maxNewTokens caller).toNat) :
    ∃ final, setup.system.RunVia (fun _ _ => True)
        (setup.enterIteration state caller step nextInput) final ∧
      (final.calls caller).phase = .exhausted := by
  induction remaining generalizing state step nextInput with
  | zero =>
      have hend : ¬ step < (setup.maxNewTokens caller).toNat := by omega
      refine ⟨_, .refl, ?_⟩
      simp only [GenerationSetup.enterIteration, if_neg hend, RunnerState.setCall,
        Function.update_self]
  | succ remaining ih =>
      have hlt : step < (setup.maxNewTokens caller).toNat := by omega
      have hphase : ((setup.enterIteration state caller step nextInput).calls caller).phase =
          .running step nextInput := by
        simp only [GenerationSetup.enterIteration, if_pos hlt, RunnerState.setCall,
          Function.update_self]
      obtain ⟨middle, nextInput', hrun, hsuspended⟩ :=
        hover.exists_suspended_of_running hfree hreach hphase
      have hresume : setup.system.step middle (.resume caller) =
          some (setup.enterIteration middle caller (step + 1) nextInput') :=
        resume_step hsuspended
      obtain ⟨final, hrest, hexhausted⟩ :=
        ih (.step (hrun.reachable hreach) trivial hresume) (by omega)
      exact ⟨final, (hrun.step trivial hresume).trans hrest, hexhausted⟩

/-- A call in which nothing goes wrong can be brought to its end from every state, unless
its caller has closed it. -/
theorem OverModel.exists_exhausted
    (hover : OverModel embeddings normF lmHead layer argmax setup)
    (hfree : FaultFree setup caller) (hreach : setup.system.Reachable state)
    (hopen : (state.calls caller).phase ≠ .closed) :
    ∃ final, setup.system.RunVia (fun _ _ => True) state final ∧
      (final.calls caller).phase = .exhausted := by
  have hsuspended {middle : RunnerState (MambaShardModule (List H) S) (List H) (Cache S)}
      {step : Nat} {nextInput : List H}
      (hrun : setup.system.RunVia (fun _ _ => True) state middle)
      (hphase : (middle.calls caller).phase = .suspended step nextInput) :
      ∃ final, setup.system.RunVia (fun _ _ => True) state final ∧
        (final.calls caller).phase = .exhausted := by
    have hmiddle := hrun.reachable hreach
    have hcall := (serialized_of_reachable hmiddle).calls caller
    simp only [CallOk, hphase] at hcall
    obtain ⟨remaining, hcount⟩ := Nat.exists_eq_add_of_le hcall.1
    have hresume : setup.system.step middle (.resume caller) =
        some (setup.enterIteration middle caller step nextInput) := resume_step hphase
    obtain ⟨final, hrest, hexhausted⟩ := hover.exists_exhausted_of_entered hfree
      (.step hmiddle trivial hresume) hcount.symm
    exact ⟨final, (hrun.step trivial hresume).trans hrest, hexhausted⟩
  cases hphase : (state.calls caller).phase with
  | created =>
      obtain ⟨middle, hrun, hlock, hsame⟩ := exists_unlocked hover.callsReturn hreach
        (by rw [hphase]; rfl : (state.calls caller).phase.isActive = false)
      have hcreated : (middle.calls caller).phase = .created := by rw [hsame, hphase]
      have hacquire : setup.system.step middle (.acquire caller) =
          some (setup.enterIteration middle caller 0 (setup.inputIds caller)) := by
        simp only [GenerationSetup.system, GenerationSetup.step, hlock, hcreated]
      obtain ⟨final, hrest, hexhausted⟩ := hover.exists_exhausted_of_entered hfree
        (.step (hrun.reachable hreach) trivial hacquire) (Nat.zero_add _)
      exact ⟨final, (hrun.step trivial hacquire).trans hrest, hexhausted⟩
  | running step nextInput =>
      obtain ⟨middle, _, hrun, hphase'⟩ := hover.exists_suspended_of_running hfree hreach hphase
      exact hsuspended hrun hphase'
  | inFlight step nextInput =>
      obtain ⟨middle, _, hrun, hphase'⟩ := hover.exists_suspended_of_inFlight hfree hreach hphase
      exact hsuspended hrun hphase'
  | suspended step nextInput => exact hsuspended .refl hphase
  | exhausted => exact ⟨state, .refl, hphase⟩
  | raised err =>
      exact absurd hphase ((hover.callGreedy_of_reachable hfree hreach).notRaised err)
  | closed => exact absurd hphase hopen

end Greedy

/-- Concurrent calls on the workers of a deployed checkpoint. Whatever the callers around it
do and whatever goes wrong in their calls, a call in which nothing goes wrong never raises,
has at every moment yielded a greedy continuation of its own prompt by the checkpoint's
undivided model, of exactly the length asked for at its end, and unless its caller has
closed it can still be brought to that end. -/
theorem concurrent_generations {γ ω H S : Type} (hosted : HostedDeployment γ ω H S) :
    ∃ model, hosted.library.fromPretrained hosted.checkpoint = .ok model ∧
      ∀ deployed, hosted.setup.system.ReachableVia hosted.setup.Elsewhere deployed →
        deployed.run.phase = .returned →
        ∀ (argmax : H → H) (store : ResultStore (PipelineResult (List H)))
          (setup : GenerationSetup (MambaShardModule (List H) S) (List H) (Cache S)),
          setup.runner.plan = hosted.setup.plan →
          setup.ops = sequenceOps argmax →
          hosted.setup.plan.assignments.length ≤ setup.fuel →
          Served setup.runner (sequenceOps argmax) ⟨deployed.network, store⟩ setup.backend →
          ∀ state, setup.system.Reachable state →
            ∀ caller, FaultFree setup caller →
              (∀ err, (state.calls caller).phase ≠ .raised err) ∧
              (∃ tokens,
                (state.calls caller).yielded.map GenerationStep.tokenId =
                  tokens.map ([·]) ∧
                GreedyTokens ((hosted.wholeModel model).wholeForward
                  hosted.setup.manifest.layers) argmax (setup.inputIds caller) tokens ∧
                tokens.length ≤ (setup.maxNewTokens caller).toNat ∧
                ((state.calls caller).phase = .exhausted →
                  tokens.length = (setup.maxNewTokens caller).toNat)) ∧
              ((state.calls caller).phase ≠ .closed →
                ∃ final, setup.system.RunVia (fun _ _ => True) state final ∧
                  (final.calls caller).phase = .exhausted) := by
  obtain ⟨model, hmodel, _⟩ := hosted.library.pretrained hosted.checkpoint
  refine ⟨model, hmodel, ?_⟩
  intro deployed hdeployed hreturned argmax store setup hplan hops hfuel hserved state hreach
    caller hfree
  obtain ⟨hpipeline, hdistinct, hlayers⟩ := hosted.pipeline_of_plan hplan
  have hover : OverModel (hosted.embedding model.embeddings) (hosted.norm model.normF)
      (hosted.head model.lmHead) (fun layerIdx => hosted.block (model.layers.getD layerIdx []))
      argmax setup := {
    pipeline := hpipeline
    distinct := hdistinct
    fuel := by
      rw [hplan]
      exact hfuel
    ops := hops
    holds := hosted.holdsPlan hmodel hdeployed hreturned hplan hserved.workers }
  have hcall := hover.callGreedy_of_reachable hfree hreach
  obtain ⟨tokens, htokens⟩ := hcall.greedy.exists_tokens
  have hlength : tokens.length = (state.calls caller).yielded.length := by
    have hmaps := congrArg List.length htokens
    rwa [List.length_map, List.length_map, eq_comm] at hmaps
  have hgreedy := hcall.greedy.greedyTokens htokens
  refine ⟨hcall.notRaised, ⟨tokens, htokens, ?_, hlength ▸ hcall.atMost, fun hend => ?_⟩,
    hover.exists_exhausted hfree hreach⟩
  · rw [HostedDeployment.wholeModel, hlayers, ← hplan]
    exact hgreedy
  · rw [hlength]
    exact hcall.exhausted hend

/-- Two callers on the deployed layers, of which the first one's worker runs out of memory
at its second token. -/
def fiveLayerCalls (network : Network (MambaShardModule (List Nat) Nat) (Cache Nat)) :
    GenerationSetup (MambaShardModule (List Nat) Nat) (List Nat) (Cache Nat) where
  runner := twoNodeRunner
  ops := sequenceOps (· % 50)
  fuel := 2
  inputIds caller := [10 + caller, 20, 30]
  maxNewTokens _ := 3
  env caller step := ⟨s!"{caller}-{step}", fun hop =>
    ⟨hop, hop, if caller = 0 ∧ step = 1 then some (.forward [] "out of memory") else none⟩⟩
  backend := ⟨network, ResultStore.create⟩

theorem concurrent_generations_five :
    ∃ (model : ModelParameters String)
      (deployed : Deployment (MambaShardModule (List Nat) Nat) (Cache Nat))
      (state : RunnerState (MambaShardModule (List Nat) Nat) (List Nat) (Cache Nat))
      (tokens : List Nat),
      fiveLayerLibrary.fromPretrained fiveLayerFiles = .ok model ∧
      deployed.run.phase = .returned ∧
      (fiveLayerCalls deployed.network).system.Reachable state ∧
      (state.calls 1).phase = .exhausted ∧
      (state.calls 1).yielded.map GenerationStep.tokenId = tokens.map ([·]) ∧
      tokens.length = 3 ∧
      GreedyTokens ((fiveLayerHosted.wholeModel model).wholeForward 5) (· % 50) [11, 20, 30]
        tokens := by
  obtain ⟨model, hmodel, hall⟩ := concurrent_generations fiveLayerHosted
  have hstart : fiveLayerHosted.setup.system.ReachableVia fiveLayerHosted.setup.Elsewhere
      fiveLayerHosted.setup.initial := .init rfl
  obtain ⟨deployed, hload, hended⟩ := DeploymentSetup.exists_ended hstart
  have hdeployed := hload.reachable hstart
  have hreturned : deployed.run.phase = .returned :=
    hended.resolve_right fun ⟨err, herr⟩ => fiveLayerHosted.not_raised hmodel hdeployed err herr
  have hfree : FaultFree (fiveLayerCalls deployed.network) 1 :=
    ⟨fun _ _ => rfl, Nat.le_add_left 1 2⟩
  have hcalls := hall deployed hdeployed hreturned (· % 50) ResultStore.create
    (fiveLayerCalls deployed.network) rfl rfl (Nat.le_refl 2) .refl
  obtain ⟨_, _, hfinish⟩ := hcalls _ (.init rfl) 1 hfree
  obtain ⟨state, hrun, hexhausted⟩ := hfinish nofun
  have hreach := hrun.reachable (.init rfl)
  obtain ⟨_, ⟨tokens, htokens, hgreedy, _, hcount⟩, _⟩ := hcalls state hreach 1 hfree
  exact ⟨model, deployed, state, tokens, hmodel, hreturned, hreach, hexhausted, htokens,
    hcount hexhausted, hgreedy⟩

end PiSSM.Pipeline
