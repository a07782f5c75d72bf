import PiSSM.Orchestrator.PipelineRunner
import PiSSM.Pipeline.ShardChain

/-!
Cached generation against full recomputation, for a model whose layers are
causal recurrences. A tensor is the list of its positions. The invariant of the
generation loop: every layer's slot, on whatever worker it lives, holds the
state that layer reaches on the sequence fed so far, so that one more token
gives the logits the whole sequence would give at its last position.
-/

namespace PiSSM.Pipeline

open PiSSM.Lib PiSSM.Inference PiSSM.Orchestrator

section Runner

variable {τ σ : Type*} (model : MambaForCausalLM τ σ) (slots : Nat → Option σ)

/-- One step of the runner over a plan whose workers are ready: it returns the
logits, and the workers are ready for a continuation. -/
theorem runShardStep_ready {runner : PipelineRunner} {fuel : Nat}
    {env : StepEnv (Cache σ)} (inputTensor : τ) {resetCache : Bool}
    {backend : Backend (MambaShardModule τ σ) τ (Cache σ)}
    (hpipeline : IsPipeline runner.plan.totalLayers 0 runner.plan.assignments)
    (hdistinct : (runner.plan.assignments.map ShardAssignment.address).Nodup)
    (hfuel : runner.plan.assignments.length ≤ fuel)
    (hfaults : ∀ k, (env.hops k).fault = none)
    (hready : ∀ s ∈ runner.plan.assignments,
      ReadyFor model runner.plan.totalLayers runner.plan.modelName slots resetCache
        backend.network s) :
    ∃ backend' result,
      runner.runShardStep fuel env inputTensor resetCache backend =
        some (backend', .ok (some result)) ∧
      result.outputTensor = model.logits runner.plan.totalLayers slots inputTensor ∧
      ∀ s ∈ runner.plan.assignments,
        ReadyFor model runner.plan.totalLayers runner.plan.modelName
          (fun i => some (model.slotAt slots inputTensor i)) false backend'.network s := by
  let request := runner.runRequest env.requestId inputTensor resetCache
  have hmode : request.pipelineMode = true := by
    simp only [RunShardRequest.pipelineMode, request, PipelineRunner.runRequest, ne_eq,
      runner.callbackAddress_ne, not_false_eq_true, decide_true]
  obtain ⟨first, network', hfirst, hrun, _, hdone⟩ := runShard_plan model slots hpipeline
    hdistinct hfuel hfaults hmode hready
  let delivered := chainResult model runner.plan.totalLayers slots inputTensor env.hops
    runner.plan.assignments.length request
  let result : PipelineResult τ :=
    ⟨delivered.outputTensor, delivered.nodeLatenciesMs, delivered.nodePeakMemoryMb⟩
  let store := PipelineRunner.deliverResult
    (backend.resultStore.createSlot env.requestId) delivered
  refine ⟨⟨network', (store.wait env.requestId).1⟩, result, ?_, rfl, hdone⟩
  have hwait : (store.wait env.requestId).2 = .ok (some result) :=
    ((ResultStore.createSlot_slotHolds _ _).deliver result).wait
  change PipelineRunner.finishShardStep _ _ _ _ _ _ = _
  rw [PipelineRunner.finishShardStep, hfirst]
  simp only [PipelineRunner.reserveSlot]
  rw [show runner.runRequest env.requestId inputTensor resetCache = request from rfl, hrun,
    Option.map_some]
  simp only [List.foldl_cons, List.foldl_nil]
  rw [← hwait]
  rfl

end Runner

section Recurrent

variable {H S : Type*}

/-- A model whose layers are causal recurrences and whose embedding, final norm
and head act on each position. -/
def recurrentModel (numHiddenLayers : Nat) (embeddings normF lmHead : H → H)
    (layer : Nat → Recurrence H S) : MambaForCausalLM (List H) S where
  numHiddenLayers := numHiddenLayers
  embeddings := List.map embeddings
  layer i := (layer i).call
  normF := List.map normF
  lmHead := List.map lmHead

/-- The tensor operations on lists of positions. -/
def sequenceOps (argmax : H → H) : TensorOps (List H) where
  argmaxLast xs :=
    match xs.getLast? with
    | none => .error (.indexError
        "index -1 is out of bounds for dimension 1 with size 0")
    | some logits => .ok [argmax logits]
  cat := List.append

variable (numHiddenLayers : Nat) (embeddings normF lmHead : H → H)
  (layer : Nat → Recurrence H S)

/-- Feeding a continuation to the slots left by a prefix gives the logits of
the whole sequence at the continuation's positions. -/
theorem logits_append (total : Nat) (xs ys : List H) :
    (recurrentModel numHiddenLayers embeddings normF lmHead layer).logits total
        (fun _ => none) (xs ++ ys) =
      (recurrentModel numHiddenLayers embeddings normF lmHead layer).logits total
          (fun _ => none) xs ++
        (recurrentModel numHiddenLayers embeddings normF lmHead layer).logits total
          (fun i => some ((recurrentModel numHiddenLayers embeddings normF lmHead
            layer).slotAt (fun _ => none) xs i)) ys := by
  have hcausal : ∀ i, IsCausal (layer i).call := fun i => (layer i).isCausal
  have hstack := stackHidden_append hcausal (xs.map embeddings) (ys.map embeddings) total
  simp only [MambaForCausalLM.logits, MambaForCausalLM.hiddenAt, recurrentModel,
    List.map_append, hstack, MambaForCausalLM.slotAt]

theorem slotAt_append (xs ys : List H) (i : Nat) :
    (recurrentModel numHiddenLayers embeddings normF lmHead layer).slotAt
        (fun _ => none) (xs ++ ys) i =
      (recurrentModel numHiddenLayers embeddings normF lmHead layer).slotAt
        (fun j => some ((recurrentModel numHiddenLayers embeddings normF lmHead
          layer).slotAt (fun _ => none) xs j)) ys i := by
  have hcausal : ∀ i, IsCausal (layer i).call := fun i => (layer i).isCausal
  have hslot := slotAfter_append hcausal (xs.map embeddings) (ys.map embeddings) i
  simpa only [MambaForCausalLM.slotAt, recurrentModel, List.map_append] using hslot

theorem logits_length (total : Nat) (slots : Nat → Option S) (xs : List H) :
    ((recurrentModel numHiddenLayers embeddings normF lmHead layer).logits total
      slots xs).length = xs.length := by
  have hcausal : ∀ i, IsCausal (layer i).call := fun i => (layer i).isCausal
  have hstack := stackHidden_length hcausal slots (xs.map embeddings) total
  simp only [MambaForCausalLM.logits, MambaForCausalLM.hiddenAt, recurrentModel,
    List.length_map] at hstack ⊢
  exact hstack

theorem argmaxLast_of_getLast? (argmax : H → H) {xs : List H} {logits : H}
    (hlast : xs.getLast? = some logits) :
    (sequenceOps argmax).argmaxLast xs = .ok [argmax logits] := by
  simp only [sequenceOps, hlast]

theorem getLast?_of_length {xs : List H} (hlength : 1 ≤ xs.length) :
    ∃ last, xs.getLast? = some last := by
  have hne : xs ≠ [] := List.ne_nil_of_length_pos hlength
  exact ⟨xs.getLast hne, List.getLast?_eq_some_getLast hne⟩

/-- Greedy decoding as a property of the steps yielded: every step shows at its
last position the logits of the whole sequence so far, and yields their
argmax. -/
def GreedySteps (whole : List H → List H) (argmax : H → H) :
    List H → List (GenerationStep (List H)) → Prop
  | _, [] => True
  | sequence, step :: rest =>
      (∃ logits, (whole sequence).getLast? = some logits ∧
        step.stepResult.outputTensor.getLast? = some logits ∧
        step.tokenId = [argmax logits]) ∧
      GreedySteps whole argmax (sequence ++ step.tokenId) rest

/-- The tokens of greedy steps are determined by the sequence they start from
and their number. -/
theorem GreedySteps.tokens_eq {whole : List H → List H} {argmax : H → H}
    {sequence : List H} {steps steps' : List (GenerationStep (List H))}
    (hsteps : GreedySteps whole argmax sequence steps)
    (hsteps' : GreedySteps whole argmax sequence steps')
    (hlength : steps.length = steps'.length) :
    steps.map GenerationStep.tokenId = steps'.map GenerationStep.tokenId := by
  induction steps generalizing sequence steps' with
  | nil =>
      obtain rfl : steps' = [] := List.eq_nil_of_length_eq_zero hlength.symm
      rfl
  | cons step rest ih =>
      cases steps' with
      | nil => simp at hlength
      | cons step' rest' =>
          obtain ⟨⟨logits, hwhole, _, htoken⟩, hrest⟩ := hsteps
          obtain ⟨⟨logits', hwhole', _, htoken'⟩, hrest'⟩ := hsteps'
          obtain rfl : logits = logits' := Option.some.inj (hwhole.symm.trans hwhole')
          rw [htoken] at hrest
          rw [htoken'] at hrest'
          have htail := ih hrest hrest' (Nat.succ.inj hlength)
          rw [List.map_cons, List.map_cons, htoken, htoken', htail]

theorem GreedySteps.at {whole : List H → List H} {argmax : H → H}
    {sequence : List H} {steps : List (GenerationStep (List H))} {tokens : List H}
    (hsteps : GreedySteps whole argmax sequence steps)
    (htokens : steps.map GenerationStep.tokenId = tokens.map ([·]))
    {k : Nat} {step : GenerationStep (List H)} (hk : steps[k]? = some step) :
    ∃ logits, (whole (sequence ++ tokens.take k)).getLast? = some logits ∧
      step.stepResult.outputTensor.getLast? = some logits ∧
      tokens[k]? = some (argmax logits) := by
  induction steps generalizing sequence tokens k with
  | nil => simp at hk
  | cons first rest ih =>
      obtain ⟨⟨logits, hwhole, hshown, htoken⟩, hrest⟩ := hsteps
      cases tokens with
      | nil => simp at htokens
      | cons token tokens =>
          rw [List.map_cons, List.map_cons] at htokens
          obtain ⟨hhead, htail⟩ := List.cons.inj htokens
          cases k with
          | zero =>
              obtain rfl : first = step := by simpa using hk
              obtain rfl : token = argmax logits := by
                simpa using hhead.symm.trans htoken
              exact ⟨logits, by simpa using hwhole, hshown, rfl⟩
          | succ k =>
              rw [hhead] at hrest
              obtain ⟨logits', hwhole', hshown', htoken'⟩ :=
                ih hrest htail (by simpa using hk)
              refine ⟨logits', ?_, hshown', by simpa using htoken'⟩
              rw [List.take_succ_cons, ← List.singleton_append, ← List.append_assoc]
              exact hwhole'

/-- Concatenating the tokens one by one. -/
theorem foldl_cat (argmax : H → H) (sequence : List H)
    (steps : List (GenerationStep (List H))) {tokens : List H}
    (htokens : steps.map GenerationStep.tokenId = tokens.map ([·])) :
    steps.foldl (fun ids step => (sequenceOps argmax).cat ids step.tokenId) sequence =
      sequence ++ tokens := by
  induction steps generalizing sequence tokens with
  | nil =>
      obtain rfl : tokens = [] := by simpa using htokens.symm
      simp
  | cons step rest ih =>
      cases tokens with
      | nil => simp at htokens
      | cons token tokens =>
          rw [List.map_cons, List.map_cons] at htokens
          obtain ⟨hhead, htail⟩ := List.cons.inj htokens
          rw [List.foldl_cons, ih _ htail, hhead]
          change sequence ++ [token] ++ tokens = sequence ++ token :: tokens
          rw [List.append_assoc, List.singleton_append]

/-- The workers of the runner's plan hold their shards of the model. -/
def HoldsPlan (runner : PipelineRunner)
    (backend : Backend (MambaShardModule (List H) S) (List H) (Cache S)) : Prop :=
  ∀ s ∈ runner.plan.assignments,
    HoldsShard (recurrentModel runner.plan.totalLayers embeddings normF lmHead layer)
      runner.plan.totalLayers runner.plan.modelName backend.network s

section Loops

variable {runner : PipelineRunner} {fuel : Nat} (argmax : H → H)
  (hpipeline : IsPipeline runner.plan.totalLayers 0 runner.plan.assignments)
  (hdistinct : (runner.plan.assignments.map ShardAssignment.address).Nodup)
  (hfuel : runner.plan.assignments.length ≤ fuel)

include hpipeline hdistinct hfuel

/-- A full pass from any caches. -/
theorem runForward_whole {env : StepEnv (Cache S)} (hfaults : ∀ k, (env.hops k).fault = none)
    (xs : List H) {backend : Backend (MambaShardModule (List H) S) (List H) (Cache S)}
    (hholds : HoldsPlan embeddings normF lmHead layer runner backend) :
    ∃ backend' result,
      runner.runForward fuel env xs backend = some (backend', .ok (some result)) ∧
      result.outputTensor =
        (recurrentModel runner.plan.totalLayers embeddings normF lmHead layer).logits
          runner.plan.totalLayers (fun _ => none) xs ∧
      ∀ s ∈ runner.plan.assignments,
        ReadyFor (recurrentModel runner.plan.totalLayers embeddings normF lmHead layer)
          runner.plan.totalLayers runner.plan.modelName
          (fun i => some ((recurrentModel runner.plan.totalLayers embeddings normF lmHead
            layer).slotAt (fun _ => none) xs i)) false backend'.network s := by
  have hready := fun s (hs : s ∈ runner.plan.assignments) =>
    (hholds s hs).readyFor_reset (hpipeline.layerEnd_le hs)
  exact runShardStep_ready _ _ xs hpipeline hdistinct hfuel hfaults hready

/-- The decoding loop: with the slots of `fed` in place and one token to feed,
the remaining steps are greedy for the whole sequence. -/
theorem streamLoop_cached {env : Nat → StepEnv (Cache S)}
    (hfaults : ∀ step k, ((env step).hops k).fault = none) (remaining step : Nat)
    (fed : List H) (token : H)
    {backend : Backend (MambaShardModule (List H) S) (List H) (Cache S)}
    (hready : ∀ s ∈ runner.plan.assignments,
      ReadyFor (recurrentModel runner.plan.totalLayers embeddings normF lmHead layer)
        runner.plan.totalLayers runner.plan.modelName
        (fun i => some ((recurrentModel runner.plan.totalLayers embeddings normF lmHead
          layer).slotAt (fun _ => none) fed i)) false backend.network s) :
    ∃ backend' steps,
      runner.streamLoop (sequenceOps argmax) fuel env remaining (step + 1) [token] backend =
        some (backend', steps, none) ∧
      GreedySteps ((recurrentModel runner.plan.totalLayers embeddings normF lmHead
        layer).logits runner.plan.totalLayers (fun _ => none)) argmax (fed ++ [token])
        steps ∧
      steps.length = remaining := by
  induction remaining generalizing step fed token backend with
  | zero => exact ⟨backend, [], rfl, trivial, rfl⟩
  | succ remaining ih =>
      obtain ⟨backend₁, result, hstep, hlogits, hready₁⟩ :=
        runShardStep_ready _ _ [token] hpipeline hdistinct hfuel
          (hfaults (step + 1)) hready
      have hlength : 1 ≤ result.outputTensor.length := by
        rw [hlogits, logits_length, List.length_singleton]
      obtain ⟨logits, hshown⟩ := getLast?_of_length hlength
      have hwhole : ((recurrentModel runner.plan.totalLayers embeddings normF lmHead
          layer).logits runner.plan.totalLayers (fun _ => none) (fed ++ [token])).getLast? =
          some logits := by
        rw [logits_append, ← hlogits, List.getLast?_append, hshown, Option.some_or]
      have hslots : ∀ s ∈ runner.plan.assignments,
          ReadyFor (recurrentModel runner.plan.totalLayers embeddings normF lmHead layer)
            runner.plan.totalLayers runner.plan.modelName
            (fun i => some ((recurrentModel runner.plan.totalLayers embeddings normF lmHead
              layer).slotAt (fun _ => none) (fed ++ [token]) i)) false backend₁.network s := by
        intro s hs
        simpa only [slotAt_append] using hready₁ s hs
      obtain ⟨backend₂, rest, hloop, hgreedy, hcount⟩ :=
        ih (step + 1) (fed ++ [token]) (argmax logits) hslots
      let first : GenerationStep (List H) := ⟨[argmax logits], result⟩
      refine ⟨backend₂, first :: rest, ?_, ⟨⟨logits, hwhole, hshown, rfl⟩, hgreedy⟩, ?_⟩
      · have hyield : PipelineRunner.generationStep (sequenceOps argmax)
            (.ok (some result)) = .ok first := by
          simp only [PipelineRunner.generationStep, argmaxLast_of_getLast? argmax hshown,
            first]
        rw [PipelineRunner.streamLoop, decide_eq_false (Nat.succ_ne_zero step), hstep]
        simp only [hyield, first, hloop, Option.map_some]
      · rw [List.length_cons, hcount]

/-- Generation from any caches: the prefill resets every worker, and the loop
invariant takes over from there. -/
theorem generateStream_greedy {env : Nat → StepEnv (Cache S)}
    (hfaults : ∀ step k, ((env step).hops k).fault = none) {prompt : List H}
    (hprompt : 1 ≤ prompt.length) (count : Nat)
    {backend : Backend (MambaShardModule (List H) S) (List H) (Cache S)}
    (hholds : HoldsPlan embeddings normF lmHead layer runner backend) :
    ∃ backend' steps,
      runner.generateStream (sequenceOps argmax) fuel env prompt count backend =
        some (backend', steps, none) ∧
      GreedySteps ((recurrentModel runner.plan.totalLayers embeddings normF lmHead
        layer).logits runner.plan.totalLayers (fun _ => none)) argmax prompt steps ∧
      steps.length = count := by
  rw [PipelineRunner.generateStream, Int.toNat_natCast]
  cases count with
  | zero => exact ⟨backend, [], rfl, trivial, rfl⟩
  | succ remaining =>
      obtain ⟨backend₁, result, hstep, hlogits, hready₁⟩ :=
        runForward_whole embeddings normF lmHead layer hpipeline hdistinct hfuel
          (hfaults 0) prompt hholds
      have hlength : 1 ≤ result.outputTensor.length := by
        rw [hlogits, logits_length]
        exact hprompt
      obtain ⟨logits, hshown⟩ := getLast?_of_length hlength
      obtain ⟨backend₂, rest, hloop, hgreedy, hcount⟩ :=
        streamLoop_cached embeddings normF lmHead layer argmax hpipeline hdistinct hfuel
          hfaults remaining 0 prompt (argmax logits) hready₁
      let first : GenerationStep (List H) := ⟨[argmax logits], result⟩
      refine ⟨backend₂, first :: rest, ?_, ⟨⟨logits, ?_, hshown, rfl⟩, hgreedy⟩, ?_⟩
      · have hyield : PipelineRunner.generationStep (sequenceOps argmax)
            (.ok (some result)) = .ok first := by
          simp only [PipelineRunner.generationStep, argmaxLast_of_getLast? argmax hshown,
            first]
        rw [PipelineRunner.runForward] at hstep
        rw [PipelineRunner.streamLoop, decide_eq_true rfl, hstep]
        simp only [hyield, first, hloop, Option.map_some]
      · rw [← hlogits]
        exact hshown
      · rw [List.length_cons, hcount]

/-- Full recomputation at every step is greedy as well. -/
theorem recomputeLoop_greedy {env : Nat → StepEnv (Cache S)}
    (hfaults : ∀ step k, ((env step).hops k).fault = none) (remaining step : Nat)
    {sequence : List H} (hsequence : 1 ≤ sequence.length)
    {backend : Backend (MambaShardModule (List H) S) (List H) (Cache S)}
    (hholds : HoldsPlan embeddings normF lmHead layer runner backend) :
    ∃ backend' steps tokens,
      runner.recomputeLoop (sequenceOps argmax) fuel env remaining step sequence backend =
        some (backend', steps, sequence ++ tokens, none) ∧
      GreedySteps ((recurrentModel runner.plan.totalLayers embeddings normF lmHead
        layer).logits runner.plan.totalLayers (fun _ => none)) argmax sequence steps ∧
      steps.map GenerationStep.tokenId = tokens.map ([·]) ∧ steps.length = remaining := by
  induction remaining generalizing step sequence backend with
  | zero => exact ⟨backend, [], [], by rw [List.append_nil]; rfl, trivial, rfl, rfl⟩
  | succ remaining ih =>
      obtain ⟨backend₁, result, hstep, hlogits, hready₁⟩ :=
        runForward_whole embeddings normF lmHead layer hpipeline hdistinct hfuel
          (hfaults step) sequence hholds
      have hlength : 1 ≤ result.outputTensor.length := by
        rw [hlogits, logits_length]
        exact hsequence
      obtain ⟨logits, hshown⟩ := getLast?_of_length hlength
      have hgrown : 1 ≤ (sequence ++ [argmax logits]).length := by
        rw [List.length_append]
        omega
      obtain ⟨backend₂, rest, tokens, hloop, hgreedy, htokens, hcount⟩ :=
        ih (step + 1) hgrown fun s hs => (hready₁ s hs).holdsShard
      let first : GenerationStep (List H) := ⟨[argmax logits], result⟩
      refine ⟨backend₂, first :: rest, argmax logits :: tokens, ?_,
        ⟨⟨logits, ?_, hshown, rfl⟩, hgreedy⟩, ?_, ?_⟩
      · have hyield : PipelineRunner.generationStep (sequenceOps argmax)
            (.ok (some result)) = .ok first := by
          simp only [PipelineRunner.generationStep, argmaxLast_of_getLast? argmax hshown,
            first]
        have hcat : (sequenceOps argmax).cat sequence [argmax logits] =
            sequence ++ [argmax logits] := rfl
        rw [PipelineRunner.recomputeLoop, hstep]
        simp only [hyield, first, hcat, hloop, Option.map_some, List.append_assoc,
          List.singleton_append]
      · rw [← hlogits]
        exact hshown
      · rw [List.map_cons, List.map_cons, htokens]
      · rw [List.length_cons, hcount]

end Loops

/-- Cached generation over a planned pipeline, from any leftover caches, when no
step fails: it yields the tokens of the loop that recomputes the whole growing
sequence, shows at every step the last-position logits of a forward pass over
that sequence, and returns the prompt followed by exactly the tokens asked for,
with one result per token. -/
theorem generate_eq_recompute {manifest : ModelManifest} {registry : NodeRegistry}
    {runner : PipelineRunner} (hplan : planDispatch manifest registry = .ok runner.plan)
    (hdistinct : (runner.plan.assignments.map ShardAssignment.address).Nodup)
    {fuel : Nat}
    (hfuel : runner.plan.assignments.length ≤ fuel) (argmax : H → H)
    {env env' : Nat → StepEnv (Cache S)}
    (hfaults : ∀ step k, ((env step).hops k).fault = none)
    (hfaults' : ∀ step k, ((env' step).hops k).fault = none)
    {prompt : List H} (hprompt : 1 ≤ prompt.length) (n : Nat)
    {backend backend' : Backend (MambaShardModule (List H) S) (List H) (Cache S)}
    (hholds : HoldsPlan embeddings normF lmHead layer runner backend)
    (hholds' : HoldsPlan embeddings normF lmHead layer runner backend') :
    ∃ final final' result steps tokens,
      runner.generate (sequenceOps argmax) fuel env prompt n backend =
        some (final, .ok result) ∧
      runner.recomputeLoop (sequenceOps argmax) fuel env' n 0 prompt backend' =
        some (final', steps, prompt ++ tokens, none) ∧
      result.outputIds = prompt ++ tokens ∧ tokens.length = n ∧
      steps.map GenerationStep.tokenId = tokens.map ([·]) ∧
      result.stepResults.length = n ∧
      ∀ k < n, ∀ (env₁ : StepEnv (Cache S))
        (backend₁ : Backend (MambaShardModule (List H) S) (List H) (Cache S)),
        (∀ hop, (env₁.hops hop).fault = none) →
        HoldsPlan embeddings normF lmHead layer runner backend₁ →
        ∃ backend₂ forward shown logits,
          runner.runForward fuel env₁ (prompt ++ tokens.take k) backend₁ =
            some (backend₂, .ok (some forward)) ∧
          result.stepResults[k]? = some shown ∧
          shown.outputTensor.getLast? = some logits ∧
          forward.outputTensor.getLast? = some logits ∧
          tokens[k]? = some (argmax logits) := by
  have hpipeline := planDispatch_pipeline hplan
  obtain ⟨final, steps, hstream, hgreedy, hcount⟩ :=
    generateStream_greedy embeddings normF lmHead layer argmax hpipeline hdistinct hfuel
      hfaults hprompt n hholds
  obtain ⟨final', steps', tokens, hrecompute, hgreedy', htokens', hcount'⟩ :=
    recomputeLoop_greedy embeddings normF lmHead layer argmax hpipeline hdistinct hfuel
      hfaults' n 0 hprompt hholds'
  have hsame := hgreedy.tokens_eq hgreedy' (hcount.trans hcount'.symm)
  have htokens : steps.map GenerationStep.tokenId = tokens.map ([·]) := hsame.trans htokens'
  have hlength : tokens.length = n := by
    have hmaps := congrArg List.length htokens
    rw [List.length_map, List.length_map, hcount] at hmaps
    exact hmaps.symm
  let result : GenerationResult (List H) :=
    ⟨prompt ++ tokens, steps.map GenerationStep.stepResult⟩
  refine ⟨final, final', result, steps', tokens, ?_, hrecompute, rfl, hlength, htokens',
    ?_, ?_⟩
  · rw [PipelineRunner.generate, hstream, Option.map_some]
    simp only [foldl_cat argmax prompt steps htokens, result]
  · rw [List.length_map, hcount]
  · intro k hk env₁ backend₁ hfaults₁ hholds₁
    obtain ⟨backend₂, forward, hforward, hlogits, _⟩ :=
      runForward_whole embeddings normF lmHead layer hpipeline hdistinct hfuel
        hfaults₁ (prompt ++ tokens.take k) hholds₁
    have hstep : steps[k]? = some (steps.get ⟨k, by omega⟩) := List.getElem?_eq_getElem _
    obtain ⟨logits, hwhole, hshown, htoken⟩ := hgreedy.at htokens hstep
    refine ⟨backend₂, forward, _, logits, hforward, ?_, hshown, ?_, htoken⟩
    · rw [List.getElem?_map, hstep, Option.map_some]
    · rw [hlogits]
      exact hwhole

end Recurrent

/-- A recurrence whose state depends on the order of its inputs. -/
def countingRecurrence (i : Nat) : Recurrence Nat Nat where
  initial := i
  step s x := (2 * s + x, s + x)

def countingBackend : Backend (MambaShardModule (List Nat) Nat) (List Nat) (Cache Nat) where
  network := loadedNetwork (recurrentModel 5 (· + 1) (· + 2) (3 * ·) countingRecurrence)
    twoNodePlan
  resultStore := ResultStore.create

theorem generate_eq_recompute_two :
    ∃ final final' result steps tokens,
      twoNodeRunner.generate (sequenceOps (· % 50)) 2
          (fun step => ⟨s!"cached-{step}", fun k => ⟨k, k, none⟩⟩) [10, 20, 30] 3
          countingBackend =
        some (final, .ok result) ∧
      twoNodeRunner.recomputeLoop (sequenceOps (· % 50)) 2
          (fun step => ⟨s!"full-{step}", fun k => ⟨k, k, none⟩⟩) 3 0 [10, 20, 30]
          countingBackend =
        some (final', steps, [10, 20, 30] ++ tokens, none) ∧
      result.outputIds = [10, 20, 30] ++ tokens ∧ tokens.length = 3 ∧
      steps.map GenerationStep.tokenId = tokens.map ([·]) ∧
      result.stepResults.length = 3 ∧
      ∀ k < 3, ∀ (env₁ : StepEnv (Cache Nat))
        (backend₁ : Backend (MambaShardModule (List Nat) Nat) (List Nat) (Cache Nat)),
        (∀ hop, (env₁.hops hop).fault = none) →
        HoldsPlan (· + 1) (· + 2) (3 * ·) countingRecurrence twoNodeRunner backend₁ →
        ∃ backend₂ forward shown logits,
          twoNodeRunner.runForward 2 env₁ ([10, 20, 30] ++ tokens.take k) backend₁ =
            some (backend₂, .ok (some forward)) ∧
          result.stepResults[k]? = some shown ∧
          shown.outputTensor.getLast? = some logits ∧
          forward.outputTensor.getLast? = some logits ∧
          tokens[k]? = some (logits % 50) :=
  generate_eq_recompute (· + 1) (· + 2) (3 * ·) countingRecurrence twoNodePlan_planned
    (by decide) (by decide) (· % 50) (fun _ _ => rfl) (fun _ _ => rfl)
    (by decide) 3 (fun _ hs => loadedNetwork_holds _ twoNodePlan (by decide) hs)
    (fun _ hs => loadedNetwork_holds _ twoNodePlan (by decide) hs)

end PiSSM.Pipeline
