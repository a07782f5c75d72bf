import PiSSM.Orchestrator.GenerationCalls
import PiSSM.Pipeline.CacheAgreement
import PiSSM.Pipeline.ShardChain

/-!
Generations on one runner are serialized. In every interleaving of any number
of callers the requests that reach the first worker are a concatenation of
blocks, one for each call, and a call that completes has yielded what it would
have yielded as the only caller. The invariant compares the call that holds the
lock with its run alone: both have made the same steps, on workers that hold
the same shards and, since the call's first step, the same caches.
-/

namespace PiSSM.Pipeline

open PiSSM.Lib PiSSM.Inference PiSSM.Orchestrator

variable {μ τ κ : Type*}

/-- What a delivery leaves in the slot of its request. -/
def deliveredResult (request : DeliverResultRequest τ) : PipelineResult τ :=
  ⟨request.outputTensor, request.nodeLatenciesMs, request.nodePeakMemoryMb⟩

theorem slotHolds_deliverResult {store : ResultStore (PipelineResult τ)} {requestId : String}
    {result : Option (PipelineResult τ)} (hslot : store.SlotHolds requestId result)
    {delivered : List (DeliverResultRequest τ)}
    (hids : ∀ d ∈ delivered, d.requestId = requestId) :
    (delivered.foldl PipelineRunner.deliverResult store).SlotHolds requestId
      (delivered.foldl (fun _ d => some (deliveredResult d)) result) := by
  induction delivered generalizing store result with
  | nil => exact hslot
  | cons d rest ih =>
      have hnext : (PipelineRunner.deliverResult store d).SlotHolds requestId
          (some (deliveredResult d)) := by
        have hid := hids d List.mem_cons_self
        subst hid
        exact hslot.deliver (deliveredResult d)
      exact ih hnext fun other hother => hids other (List.mem_cons_of_mem _ hother)

section Step

variable [ShardModel μ τ κ] {runner : PipelineRunner} {fuel : Nat} {env : StepEnv κ}
  {inputTensor : τ} {resetCache : Bool}

/-- The workers that a step of the runner passes have equal caches. -/
def RunnerAgrees (runner : PipelineRunner) (left right : Network μ κ) : Prop :=
  ∀ first, runner.plan.assignments.head? = some first →
    AgreesFrom runner.plan.modelName left right first.address

/-- One step on two backends: the same result, and when it is one, equal caches
wherever the next step passes. -/
theorem finishShardStep_together {left right left' : Backend μ τ κ}
    {result : Except PyException (Option (PipelineResult τ))}
    (hshape : SameShape runner.plan.modelName left.network right.network)
    (hcaches : resetCache = true ∨ RunnerAgrees runner left.network right.network)
    (hleft : left.resultStore.SlotHolds env.requestId none)
    (hright : right.resultStore.SlotHolds env.requestId none)
    (hfinish : runner.finishShardStep fuel env inputTensor resetCache left =
      some (left', result)) :
    ∃ right', runner.finishShardStep fuel env inputTensor resetCache right =
        some (right', result) ∧
      SameShape runner.plan.modelName left.network left'.network ∧
      SameShape runner.plan.modelName left'.network right'.network ∧
      ∀ shown, result = .ok shown → RunnerAgrees runner left'.network right'.network := by
  unfold PipelineRunner.finishShardStep at hfinish ⊢
  cases hfirst : runner.plan.assignments.head? with
  | none =>
      simp only [hfirst] at hfinish
      obtain ⟨rfl, rfl⟩ := Prod.mk.inj (Option.some.inj hfinish)
      exact ⟨right, rfl, SameShape.refl _ _, hshape, fun shown hok => by cases hok⟩
  | some first =>
      simp only [hfirst] at hfinish
      obtain ⟨outcome, hrun, hresult⟩ := Option.map_eq_some_iff.mp hfinish
      have hmode := runner.runRequest_pipelineMode env.requestId inputTensor resetCache
      have hcaches' : (runner.runRequest env.requestId inputTensor resetCache).resetCache =
          true ∨ AgreesFrom runner.plan.modelName left.network right.network
            first.address :=
        hcaches.imp id fun hagree => hagree first hfirst
      obtain ⟨outcome', hrun', htogether⟩ := runShard_together hmode hshape hcaches' hrun
      have hkept : SameShape runner.plan.modelName left.network outcome.network :=
        runShard_shape hmode hrun
      simp only [hrun', Option.map_some, htogether.reply]
      cases hreply : outcome.reply with
      | error err =>
          simp only [hreply] at hresult
          obtain ⟨rfl, rfl⟩ := Prod.mk.inj hresult
          exact ⟨_, rfl, hkept, htogether.shape, fun shown hok => by cases hok⟩
      | ok response =>
          simp only [hreply] at hresult
          obtain ⟨rfl, rfl⟩ := Prod.mk.inj hresult
          have hids : ∀ d ∈ outcome.delivered, d.requestId = env.requestId := fun d hd => by
            have hid := runShard_delivered_id hmode hrun hd
            exact hid
          have hwait := (slotHolds_deliverResult hleft hids).wait
          have hwait' := (slotHolds_deliverResult hright hids).wait
          let store' := outcome'.delivered.foldl PipelineRunner.deliverResult
            right.resultStore
          have hsame : ((outcome.delivered.foldl PipelineRunner.deliverResult
              left.resultStore).wait env.requestId).2 = (store'.wait env.requestId).2 := by
            simp only [store', htogether.delivered]
            exact hwait.trans hwait'.symm
          refine ⟨⟨outcome'.network, (store'.wait env.requestId).1⟩, ?_, hkept,
            htogether.shape, ?_⟩
          · rw [hsame]
          · intro shown hok first' hfirst'
            obtain rfl : first = first' := Option.some.inj (hfirst.symm.trans hfirst')
            apply htogether.passed
            intro hnone
            rw [hnone] at hok hwait
            rw [hwait] at hok
            cases hok

end Step

section Alone

variable [ShardModel μ τ κ] (setup : GenerationSetup μ τ κ)

/-- The first `count` steps of a call that is the only one, when they succeed:
the backend, the next input and the steps yielded. -/
def streamPrefix (caller : Nat) : Nat → Option (Backend μ τ κ × τ × List (GenerationStep τ))
  | 0 => some (setup.backend, setup.inputIds caller, [])
  | count + 1 =>
      match streamPrefix caller count with
      | none => none
      | some (backend, nextInput, steps) =>
          match setup.runner.runShardStep setup.fuel (setup.env caller count) nextInput
            (count = 0) backend with
          | none => none
          | some (backend, result) =>
              match PipelineRunner.generationStep setup.ops result with
              | .error _ => none
              | .ok yielded => some (backend, yielded.tokenId, steps ++ [yielded])

theorem streamPrefix_succ {caller count : Nat} {backend backend' : Backend μ τ κ}
    {nextInput : τ} {steps : List (GenerationStep τ)}
    {result : Except PyException (Option (PipelineResult τ))} {yielded : GenerationStep τ}
    (hstreamed : streamPrefix setup caller count = some (backend, nextInput, steps))
    (hstep : setup.runner.runShardStep setup.fuel (setup.env caller count) nextInput
      (count = 0) backend = some (backend', result))
    (hyield : PipelineRunner.generationStep setup.ops result = .ok yielded) :
    streamPrefix setup caller (count + 1) =
      some (backend', yielded.tokenId, steps ++ [yielded]) := by
  rw [streamPrefix, hstreamed]
  simp only [hstep, hyield]

/-- The loop continues from where its first steps have led. -/
theorem streamLoop_of_prefix {caller count : Nat} {backend : Backend μ τ κ}
    {nextInput : τ} {steps : List (GenerationStep τ)}
    (hstreamed : streamPrefix setup caller count = some (backend, nextInput, steps))
    (remaining : Nat) :
    setup.runner.streamLoop setup.ops setup.fuel (setup.env caller) (count + remaining) 0
        (setup.inputIds caller) setup.backend =
      (setup.runner.streamLoop setup.ops setup.fuel (setup.env caller) remaining count
        nextInput backend).map fun (final, rest, err) => (final, steps ++ rest, err) := by
  induction count generalizing backend nextInput steps remaining with
  | zero =>
      rw [streamPrefix] at hstreamed
      obtain ⟨rfl, rfl, rfl⟩ := Prod.mk.inj (Option.some.inj hstreamed) |>.imp id Prod.mk.inj
      simp
  | succ count ih =>
      rw [streamPrefix] at hstreamed
      cases hbefore : streamPrefix setup caller count with
      | none =>
          simp only [hbefore] at hstreamed
          cases hstreamed
      | some before =>
          obtain ⟨backend₀, input₀, steps₀⟩ := before
          simp only [hbefore] at hstreamed
          cases hstep : setup.runner.runShardStep setup.fuel (setup.env caller count) input₀
              (count = 0) backend₀ with
          | none =>
              simp only [hstep] at hstreamed
              cases hstreamed
          | some stepped =>
              obtain ⟨backend₁, result⟩ := stepped
              simp only [hstep] at hstreamed
              cases hyield : PipelineRunner.generationStep setup.ops result with
              | error err =>
                  simp only [hyield] at hstreamed
                  cases hstreamed
              | ok yielded =>
                  simp only [hyield] at hstreamed
                  obtain ⟨rfl, rfl, rfl⟩ :=
                    Prod.mk.inj (Option.some.inj hstreamed) |>.imp id Prod.mk.inj
                  have hloop := ih hbefore (remaining + 1)
                  rw [PipelineRunner.streamLoop, hstep] at hloop
                  simp only [hyield, Option.map_map] at hloop
                  rw [Nat.add_assoc, Nat.add_comm 1 remaining, hloop]
                  congr 1
                  funext rest
                  simp

theorem generateStream_of_prefix {caller : Nat} {backend : Backend μ τ κ}
    {nextInput : τ} {steps : List (GenerationStep τ)}
    (hstreamed : streamPrefix setup caller (setup.maxNewTokens caller).toNat =
      some (backend, nextInput, steps)) :
    setup.runner.generateStream setup.ops setup.fuel (setup.env caller)
        (setup.inputIds caller) (setup.maxNewTokens caller) setup.backend =
      some (backend, steps, none) := by
  have hloop := streamLoop_of_prefix setup hstreamed 0
  rw [Nat.add_zero] at hloop
  rw [PipelineRunner.generateStream, hloop, PipelineRunner.streamLoop]
  simp

end Alone

section Invariant

variable [ShardModel μ τ κ] (setup : GenerationSetup μ τ κ)

/-- The call has made `step` steps as it would have made them alone. -/
def LikeAlone (backend : Backend μ τ κ) (caller step : Nat) (nextInput : τ)
    (yielded : List (GenerationStep τ)) : Prop :=
  ∃ alone, streamPrefix setup caller step = some (alone, nextInput, yielded) ∧
    SameShape setup.runner.plan.modelName backend.network alone.network ∧
    (step ≠ 0 → RunnerAgrees setup.runner backend.network alone.network)

def CallOk (backend : Backend μ τ κ) (caller : Nat) (call : CallState τ) : Prop :=
  match call.phase with
  | .created => call.yielded = []
  | .running step nextInput =>
      step < (setup.maxNewTokens caller).toNat ∧
        LikeAlone setup backend caller step nextInput call.yielded
  | .inFlight step nextInput =>
      step < (setup.maxNewTokens caller).toNat ∧
        LikeAlone setup backend caller step nextInput call.yielded ∧
        backend.resultStore.SlotHolds (setup.env caller step).requestId none
  | .suspended step nextInput =>
      step ≤ (setup.maxNewTokens caller).toNat ∧
        LikeAlone setup backend caller step nextInput call.yielded
  | .exhausted =>
      ∃ alone, setup.runner.generateStream setup.ops setup.fuel (setup.env caller)
        (setup.inputIds caller) (setup.maxNewTokens caller) setup.backend =
          some (alone, call.yielded, none)
  | .raised _ | .closed => True

/-- The lock is held by the one call inside the `with` block. -/
structure Serialized (state : RunnerState μ τ κ) : Prop where
  lock : ∀ caller, state.generationLock = some caller ↔
    (state.calls caller).phase.isActive = true
  shape : SameShape setup.runner.plan.modelName setup.backend.network state.backend.network
  calls : ∀ caller, CallOk setup state.backend caller (state.calls caller)

variable {setup} {state : RunnerState μ τ κ}

/-- What a call outside the lock has done does not depend on the workers. -/
theorem CallOk.frame {backend : Backend μ τ κ} {caller : Nat} {call : CallState τ}
    (hcall : CallOk setup backend caller call) (hfree : call.phase.isActive = false)
    (backend' : Backend μ τ κ) : CallOk setup backend' caller call := by
  unfold CallOk at hcall ⊢
  cases hphase : call.phase with
  | created => simpa only [hphase] using hcall
  | running step nextInput => simp [hphase, CallPhase.isActive] at hfree
  | inFlight step nextInput => simp [hphase, CallPhase.isActive] at hfree
  | suspended step nextInput => simp [hphase, CallPhase.isActive] at hfree
  | exhausted => simpa only [hphase] using hcall
  | raised err => trivial
  | closed => trivial

/-- Only the holder of the lock is inside the `with` block. -/
theorem Serialized.others_free (hinv : Serialized setup state) {caller : Nat}
    (hholder : (state.calls caller).phase.isActive = true ∨ state.generationLock = none)
    {other : Nat} (hne : other ≠ caller) :
    (state.calls other).phase.isActive = false := by
  rw [Bool.eq_false_iff]
  intro hholds
  have hlock := (hinv.lock other).mpr hholds
  rcases hholder with hholder | hnone
  · have hlock' := (hinv.lock caller).mpr hholder
    exact hne (Option.some.inj (hlock.symm.trans hlock'))
  · rw [hnone] at hlock
    cases hlock

/-- A step of the call that holds the lock, or takes it. -/
theorem Serialized.update (hinv : Serialized setup state) {next : RunnerState μ τ κ}
    {caller : Nat} {call : CallState τ}
    (hholder : (state.calls caller).phase.isActive = true ∨ state.generationLock = none)
    (hcalls : next.calls = Function.update state.calls caller call)
    (hlock : next.generationLock = if call.phase.isActive then some caller else none)
    (hshape : SameShape setup.runner.plan.modelName setup.backend.network
      next.backend.network)
    (hcall : CallOk setup next.backend caller call) : Serialized setup next where
  lock other := by
    rw [hlock, hcalls]
    by_cases hother : other = caller
    · subst hother
      rw [Function.update_self]
      cases call.phase.isActive <;> simp
    · have hfree := hinv.others_free hholder hother
      rw [Function.update_of_ne hother, hfree]
      cases call.phase.isActive <;> simp [Ne.symm hother]
  shape := hshape
  calls other := by
    rw [hcalls]
    by_cases hother : other = caller
    · subst hother
      rw [Function.update_self]
      exact hcall
    · rw [Function.update_of_ne hother]
      exact (hinv.calls other).frame (hinv.others_free hholder hother) _

theorem Serialized.enterIteration (hinv : Serialized setup state) {caller step : Nat}
    {nextInput : τ}
    (hholder : (state.calls caller).phase.isActive = true ∨ state.generationLock = none)
    (hle : step ≤ (setup.maxNewTokens caller).toNat)
    (hlike : LikeAlone setup state.backend caller step nextInput
      (state.calls caller).yielded) :
    Serialized setup (setup.enterIteration state caller step nextInput) := by
  unfold GenerationSetup.enterIteration
  split
  · next hlt =>
      exact hinv.update hholder rfl rfl hinv.shape ⟨hlt, hlike⟩
  · next hend =>
      have hlast : step = (setup.maxNewTokens caller).toNat := by omega
      subst hlast
      obtain ⟨alone, hstreamed, _⟩ := hlike
      exact hinv.update hholder rfl rfl hinv.shape
        ⟨alone, generateStream_of_prefix setup hstreamed⟩

/-- A finished step is the step the call would have made alone. -/
theorem LikeAlone.finish {backend backend' : Backend μ τ κ} {caller step : Nat}
    {nextInput : τ} {yielded : List (GenerationStep τ)}
    {result : Except PyException (Option (PipelineResult τ))}
    (hlike : LikeAlone setup backend caller step nextInput yielded)
    (hslot : backend.resultStore.SlotHolds (setup.env caller step).requestId none)
    (hfinish : setup.runner.finishShardStep setup.fuel (setup.env caller step) nextInput
      (step = 0) backend = some (backend', result)) :
    SameShape setup.runner.plan.modelName backend.network backend'.network ∧
      ∀ token, PipelineRunner.generationStep setup.ops result = .ok token →
        LikeAlone setup backend' caller (step + 1) token.tokenId (yielded ++ [token]) := by
  obtain ⟨alone, hstreamed, hshape, hagree⟩ := hlike
  have hcaches : decide (step = 0) = true ∨
      RunnerAgrees setup.runner backend.network alone.network := by
    by_cases hzero : step = 0
    · exact .inl (decide_eq_true hzero)
    · exact .inr (hagree hzero)
  have hreserved : (PipelineRunner.reserveSlot (setup.env caller step)
      alone).resultStore.SlotHolds (setup.env caller step).requestId none :=
    ResultStore.createSlot_slotHolds _ _
  have hshape₀ : SameShape setup.runner.plan.modelName backend.network
      (PipelineRunner.reserveSlot (setup.env caller step) alone).network := hshape
  obtain ⟨alone', halone, hkept, hshape', hagree'⟩ :=
    finishShardStep_together hshape₀ hcaches hslot hreserved hfinish
  refine ⟨hkept, fun token htoken => ?_⟩
  have hshown : ∃ shown, result = .ok shown := by
    cases result with
    | error err => cases htoken
    | ok shown => exact ⟨shown, rfl⟩
  obtain ⟨shown, hshown⟩ := hshown
  exact ⟨alone', streamPrefix_succ setup hstreamed halone htoken, hshape',
    fun _ => hagree' shown hshown⟩

theorem Serialized.initial : Serialized setup setup.initial where
  lock caller := by
    constructor
    · intro hlock
      cases hlock
    · intro hholds
      cases hholds
  shape := SameShape.refl _ _
  calls caller := rfl

theorem Serialized.step (hinv : Serialized setup state) {next : RunnerState μ τ κ}
    {label : GenerationLabel} (hstep : setup.step state label = some next) :
    Serialized setup next := by
  rcases GenerationSetup.step_cases hstep with
    ⟨caller, hlock, hphase, rfl⟩ | ⟨caller, step, nextInput, hphase, rfl⟩ |
    ⟨caller, step, nextInput, backend, result, hphase, hfinish, rfl⟩ |
    ⟨caller, step, nextInput, hphase, rfl⟩ | ⟨caller, hphase, rfl⟩ |
    ⟨caller, step, nextInput, hphase, rfl⟩
  · have hcall := hinv.calls caller
    simp only [CallOk, hphase] at hcall
    refine hinv.enterIteration (.inr hlock) (Nat.zero_le _)
      ⟨setup.backend, ?_, hinv.shape.symm, fun hne => absurd rfl hne⟩
    rw [hcall]
    rfl
  · have hholds : (state.calls caller).phase.isActive = true := by
      rw [hphase]
      rfl
    have hcall := hinv.calls caller
    simp only [CallOk, hphase] at hcall
    obtain ⟨hlt, hlike⟩ := hcall
    refine hinv.update (.inl hholds) rfl ((hinv.lock caller).mpr hholds) hinv.shape
      ⟨hlt, hlike, ResultStore.createSlot_slotHolds _ _⟩
  · have hholds : (state.calls caller).phase.isActive = true := by
      rw [hphase]
      rfl
    have hcall := hinv.calls caller
    simp only [CallOk, hphase] at hcall
    obtain ⟨hlt, hlike, hslot⟩ := hcall
    obtain ⟨hkept, hnext⟩ := hlike.finish hslot hfinish
    unfold GenerationSetup.endStep
    split
    · exact hinv.update (.inl hholds) rfl rfl (hinv.shape.trans hkept) trivial
    · next token htoken =>
        exact hinv.update (.inl hholds) rfl rfl (hinv.shape.trans hkept)
          ⟨hlt, hnext token htoken⟩
  · have hholds : (state.calls caller).phase.isActive = true := by
      rw [hphase]
      rfl
    have hcall := hinv.calls caller
    simp only [CallOk, hphase] at hcall
    exact hinv.enterIteration (.inl hholds) hcall.1 hcall.2
  · -- A call that has not started is closed without touching the lock.
    constructor
    · intro other
      by_cases hother : other = caller
      · subst hother
        have hfree := (hinv.lock other).not.mpr (by simp [hphase, CallPhase.isActive])
        simp [RunnerState.setCall, CallPhase.isActive, hfree]
      · simp only [RunnerState.setCall, Function.update_of_ne hother]
        exact hinv.lock other
    · exact hinv.shape
    · intro other
      by_cases hother : other = caller
      · subst hother
        simp [RunnerState.setCall, CallOk]
      · simp only [RunnerState.setCall, Function.update_of_ne hother]
        exact hinv.calls other
  · have hholds : (state.calls caller).phase.isActive = true := by
      rw [hphase]
      rfl
    exact hinv.update (.inl hholds) rfl rfl hinv.shape trivial

theorem serialized_of_reachable (hreach : setup.system.Reachable state) :
    Serialized setup state := by
  refine hreach.invariant ?_ ?_
  · rintro state rfl
    exact Serialized.initial
  · intro state label next _ hinv _ hstep
    exact hinv.step hstep

end Invariant

/-- The later request of a call carries only the token chosen from the reply to
the earlier one, and reuses the cache. -/
def Follows (ops : TensorOps τ) (previous next : Arrival τ) : Prop :=
  next.request.resetCache = false ∧ ∃ result, previous.reply = some result ∧
    ops.argmaxLast result.outputTensor = .ok next.request.inputTensor

/-- The requests of one call: the full prompt with a reset, then token by token. -/
structure IsBlock (ops : TensorOps τ) (inputIds : τ) (caller : Nat)
    (block : List (Arrival τ)) : Prop where
  nonempty : block ≠ []
  caller : ∀ arrival ∈ block, arrival.caller = caller
  first : ∀ arrival, block.head? = some arrival →
    arrival.request.resetCache = true ∧ arrival.request.inputTensor = inputIds
  follows : block.IsChain (Follows ops)

section Block

variable {ops : TensorOps τ} {inputIds : τ} {caller : Nat}

theorem IsBlock.single {arrival : Arrival τ} (hcaller : arrival.caller = caller)
    (hreset : arrival.request.resetCache = true)
    (hinput : arrival.request.inputTensor = inputIds) :
    IsBlock ops inputIds caller [arrival] where
  nonempty := List.cons_ne_nil _ _
  caller other hother := by
    obtain rfl := List.mem_singleton.mp hother
    exact hcaller
  first other hother := by
    obtain rfl := Option.some.inj hother
    exact ⟨hreset, hinput⟩
  follows := List.IsChain.singleton _

/-- A block grows by a request that follows its last one. -/
theorem IsBlock.concat {entries : List (Arrival τ)} {last next : Arrival τ}
    (hblock : IsBlock ops inputIds caller (entries ++ [last]))
    (hcaller : next.caller = caller) (hfollows : Follows ops last next) :
    IsBlock ops inputIds caller (entries ++ [last] ++ [next]) where
  nonempty := by simp
  caller other hother := by
    rcases List.mem_append.mp hother with hother | hother
    · exact hblock.caller other hother
    · obtain rfl := List.mem_singleton.mp hother
      exact hcaller
  first other hother := by
    rw [List.head?_append_of_ne_nil _ hblock.nonempty] at hother
    exact hblock.first other hother
  follows := by
    rw [List.isChain_append]
    refine ⟨hblock.follows, List.IsChain.singleton _, ?_⟩
    intro previous hprevious other hother
    obtain rfl : last = previous := by simpa using hprevious
    obtain rfl : next = other := by simpa using hother
    exact hfollows

/-- The reply to the last request of a block is not looked at by the block. -/
theorem IsBlock.setReply {entries : List (Arrival τ)} {last : Arrival τ}
    (hblock : IsBlock ops inputIds caller (entries ++ [last]))
    (reply : Option (PipelineResult τ)) :
    IsBlock ops inputIds caller (entries ++ [{ last with reply := reply }]) where
  nonempty := by simp
  caller other hother := by
    rcases List.mem_append.mp hother with hother | hother
    · exact hblock.caller other (List.mem_append_left _ hother)
    · obtain rfl := List.mem_singleton.mp hother
      exact hblock.caller last (by simp)
  first other hother := by
    cases entries with
    | nil =>
        obtain rfl := Option.some.inj hother
        exact hblock.first last rfl
    | cons first rest => exact hblock.first other hother
  follows := by
    have hchain := List.isChain_append.mp hblock.follows
    refine List.isChain_append.mpr ⟨hchain.1, List.IsChain.singleton _, ?_⟩
    intro previous hprevious other hother
    obtain rfl : { last with reply := reply } = other := by simpa using hother
    exact hchain.2.2 previous hprevious last rfl

end Block

theorem recordReply_concat (reply : PipelineResult τ) (arrivals : List (Arrival τ))
    (last : Arrival τ) :
    recordReply reply (arrivals ++ [last]) =
      arrivals ++ [{ last with reply := some reply }] := by
  induction arrivals with
  | nil => rfl
  | cons first rest ih =>
      cases rest with
      | nil => rfl
      | cons second rest =>
          rw [List.cons_append, List.cons_append, recordReply]
          · exact congrArg (first :: ·) ih
          · simp

/-- The latest arrival is this one, of this call. -/
def LatestArrival (blocks : List (Nat × List (Arrival τ))) (caller : Nat)
    (last : Arrival τ) : Prop :=
  ∃ before entries, blocks = before ++ [(caller, entries ++ [last])]

section Blocks

variable [ShardModel μ τ κ] (setup : GenerationSetup μ τ κ)

/-- Between two steps of a call: nothing of it has arrived before its first
step, and afterwards its next input is chosen from the reply to its latest
request. -/
def AwaitsStep (blocks : List (Nat × List (Arrival τ))) (caller step : Nat) (nextInput : τ) :
    Prop :=
  (step = 0 ∧ nextInput = setup.inputIds caller ∧ caller ∉ blocks.map Prod.fst) ∨
    (step ≠ 0 ∧ ∃ last result, LatestArrival blocks caller last ∧
      last.reply = some result ∧
      setup.ops.argmaxLast result.outputTensor = .ok nextInput)

def PhaseOk (blocks : List (Nat × List (Arrival τ))) (caller : Nat) :
    CallPhase τ → Prop
  | .created => caller ∉ blocks.map Prod.fst
  | .running step nextInput | .suspended step nextInput =>
      AwaitsStep setup blocks caller step nextInput
  | .inFlight step _ =>
      setup.runner.reachesWorker (setup.env caller step) = true →
        ∃ last, LatestArrival blocks caller last
  | .exhausted | .raised _ | .closed => True

structure InBlocks (state : RunnerState μ τ κ)
    (blocks : List (Nat × List (Arrival τ))) : Prop where
  arrivals : state.arrivals = blocks.flatMap Prod.snd
  nodup : (blocks.map Prod.fst).Nodup
  block : ∀ block ∈ blocks,
    IsBlock setup.ops (setup.inputIds block.1) block.1 block.2
  phase : ∀ caller, PhaseOk setup blocks caller (state.calls caller).phase

/-- The arrivals are a concatenation of blocks of different calls. -/
def ArrivesInBlocks (state : RunnerState μ τ κ) : Prop :=
  ∃ blocks, InBlocks setup state blocks

variable {setup} {state next : RunnerState μ τ κ}
  {blocks blocks' : List (Nat × List (Arrival τ))}

omit [ShardModel μ τ κ] in
/-- Other calls do not care which blocks grow, as long as they get none. -/
theorem PhaseOk.frame {other : Nat} {phase : CallPhase τ}
    (hphase : PhaseOk setup blocks other phase) (hfree : phase.isActive = false)
    (hcallers : other ∉ blocks.map Prod.fst → other ∉ blocks'.map Prod.fst) :
    PhaseOk setup blocks' other phase := by
  cases phase with
  | created => exact hcallers hphase
  | running step nextInput => cases hfree
  | inFlight step nextInput => cases hfree
  | suspended step nextInput => cases hfree
  | exhausted => trivial
  | raised err => trivial
  | closed => trivial

/-- A step of the call that holds the lock, or takes it. -/
theorem InBlocks.update (hin : InBlocks setup state blocks) (hinv : Serialized setup state)
    {caller : Nat} {call : CallState τ}
    (hholder : (state.calls caller).phase.isActive = true ∨ state.generationLock = none)
    (hcalls : next.calls = Function.update state.calls caller call)
    (harrivals : next.arrivals = blocks'.flatMap Prod.snd)
    (hnodup : (blocks'.map Prod.fst).Nodup)
    (hblock : ∀ block ∈ blocks',
      IsBlock setup.ops (setup.inputIds block.1) block.1 block.2)
    (hothers : ∀ other ≠ caller, other ∉ blocks.map Prod.fst →
      other ∉ blocks'.map Prod.fst)
    (hphase : PhaseOk setup blocks' caller call.phase) :
    InBlocks setup next blocks' where
  arrivals := harrivals
  nodup := hnodup
  block := hblock
  phase other := by
    rw [hcalls]
    by_cases hother : other = caller
    · subst hother
      rw [Function.update_self]
      exact hphase
    · rw [Function.update_of_ne hother]
      exact (hin.phase other).frame (hinv.others_free hholder hother)
        (hothers other hother)

theorem InBlocks.enterIteration (hin : InBlocks setup state blocks)
    (hinv : Serialized setup state) {caller step : Nat} {nextInput : τ}
    (hholder : (state.calls caller).phase.isActive = true ∨ state.generationLock = none)
    (hawaits : AwaitsStep setup blocks caller step nextInput) :
    InBlocks setup (setup.enterIteration state caller step nextInput) blocks := by
  unfold GenerationSetup.enterIteration
  split
  · exact hin.update hinv hholder rfl hin.arrivals hin.nodup hin.block
      (fun _ _ hnot => hnot) hawaits
  · exact hin.update hinv hholder rfl hin.arrivals hin.nodup hin.block
      (fun _ _ hnot => hnot) trivial

/-- A request that arrives opens the block of its call or extends it. -/
theorem InBlocks.sendStep (hin : InBlocks setup state blocks)
    (hinv : Serialized setup state) {caller step : Nat} {nextInput : τ}
    (hphase : (state.calls caller).phase = .running step nextInput) :
    ArrivesInBlocks setup (setup.sendStep state caller step nextInput) := by
  have hholds : (state.calls caller).phase.isActive = true := by
    rw [hphase]
    rfl
  have hawaits := hin.phase caller
  rw [hphase] at hawaits
  by_cases hreached : setup.runner.reachesWorker (setup.env caller step) = true
  · have harrivals : (setup.sendStep state caller step nextInput).arrivals =
        state.arrivals ++ [⟨caller, setup.request caller step nextInput, none⟩] := if_pos hreached
    rcases hawaits with ⟨rfl, rfl, hnew⟩ | ⟨hstep, last, result, ⟨before, entries, rfl⟩,
      hreply, htoken⟩
    · let arrival : Arrival τ :=
        ⟨caller, setup.request caller 0 (setup.inputIds caller), none⟩
      refine ⟨blocks ++ [(caller, [arrival])],
        hin.update hinv (.inl hholds) rfl ?_ ?_ ?_ ?_ fun _ => ⟨arrival, blocks, [], rfl⟩⟩
      · rw [harrivals, hin.arrivals, List.flatMap_append]
        simp [arrival]
      · rw [List.map_append, List.nodup_append]
        refine ⟨hin.nodup, List.nodup_singleton _, ?_⟩
        intro old hold other hother heq
        obtain rfl : other = caller := by simpa using hother
        exact hnew (heq ▸ hold)
      · intro block hblock
        rcases List.mem_append.mp hblock with hold | hnewBlock
        · exact hin.block block hold
        · obtain rfl := List.mem_singleton.mp hnewBlock
          exact IsBlock.single rfl rfl rfl
      · intro other hother hnot
        simp [hother] at hnot ⊢
        exact hnot
    · let arrival : Arrival τ := ⟨caller, setup.request caller step nextInput, none⟩
      have hfollows : Follows setup.ops last arrival :=
        ⟨decide_eq_false hstep, result, hreply, htoken⟩
      have hlast := hin.block (caller, entries ++ [last]) (by simp)
      refine ⟨before ++ [(caller, entries ++ [last] ++ [arrival])],
        hin.update hinv (.inl hholds) rfl ?_ ?_ ?_ ?_
          fun _ => ⟨arrival, before, entries ++ [last], rfl⟩⟩
      · rw [harrivals, hin.arrivals]
        simp [arrival]
      · have hnodup := hin.nodup
        rw [List.map_append] at hnodup ⊢
        exact hnodup
      · intro block hblock
        rcases List.mem_append.mp hblock with hold | hgrown
        · exact hin.block block (List.mem_append_left _ hold)
        · obtain rfl := List.mem_singleton.mp hgrown
          exact hlast.concat rfl hfollows
      · intro other hother hnot
        rw [List.map_append] at hnot ⊢
        exact hnot
  · refine ⟨blocks, hin.update hinv (.inl hholds) rfl ?_ hin.nodup hin.block
      (fun _ _ hnot => hnot) fun hreached' => absurd hreached' hreached⟩
    rw [← hin.arrivals]
    exact if_neg hreached

/-- A step whose request has not arrived fails. -/
theorem finishShardStep_unreached {runner : PipelineRunner} {fuel : Nat} {env : StepEnv κ}
    {inputTensor : τ} {resetCache : Bool} {backend backend' : Backend μ τ κ}
    {result : Except PyException (Option (PipelineResult τ))}
    (hunreached : runner.reachesWorker env = false)
    (hfinish : runner.finishShardStep fuel env inputTensor resetCache backend =
      some (backend', result)) : ∃ err, result = .error err := by
  unfold PipelineRunner.finishShardStep at hfinish
  cases hplan : runner.plan.assignments with
  | nil =>
      simp only [hplan, List.head?_nil] at hfinish
      exact ⟨_, (Prod.mk.inj (Option.some.inj hfinish)).2.symm⟩
  | cons first rest =>
      simp only [hplan, List.head?_cons] at hfinish
      have hfault : ∃ code details message,
          (env.hops 0).fault = some (.unreachable code details message) := by
        by_contra hnone
        simp only [PipelineRunner.reachesWorker, hplan] at hunreached
        split at hunreached
        · next hnil => cases hnil
        · next heq _ => exact hnone ⟨_, _, _, heq⟩
        · cases hunreached
      obtain ⟨code, details, message, hfault⟩ := hfault
      cases fuel with
      | zero => cases hfinish
      | succ fuel =>
          rw [runShard, hfault] at hfinish
          exact ⟨_, (Prod.mk.inj (Option.some.inj hfinish)).2.symm⟩

theorem InBlocks.endStep (hin : InBlocks setup state blocks)
    (hinv : Serialized setup state) {caller step : Nat} {nextInput : τ}
    (hphase : (state.calls caller).phase = .inFlight step nextInput)
    {backend : Backend μ τ κ} {result : Except PyException (Option (PipelineResult τ))}
    (hfinish : setup.runner.finishShardStep setup.fuel (setup.env caller step) nextInput
      (step = 0) state.backend = some (backend, result)) :
    ArrivesInBlocks setup (setup.endStep state caller step backend result) := by
  have hholds : (state.calls caller).phase.isActive = true := by
    rw [hphase]
    rfl
  have hsent := hin.phase caller
  rw [hphase] at hsent
  unfold GenerationSetup.endStep
  split
  · exact ⟨blocks, hin.update hinv (.inl hholds) rfl hin.arrivals hin.nodup hin.block
      (fun _ _ hnot => hnot) trivial⟩
  · next token htoken =>
      have hreached : setup.runner.reachesWorker (setup.env caller step) = true := by
        rw [← Bool.not_eq_false]
        intro hunreached
        obtain ⟨err, rfl⟩ := finishShardStep_unreached hunreached hfinish
        cases htoken
      obtain ⟨last, before, entries, rfl⟩ := hsent hreached
      have hlast := hin.block (caller, entries ++ [last]) (by simp)
      have hchosen := (PipelineRunner.generationStep_ok htoken).2
      refine ⟨before ++ [(caller, entries ++ [{ last with reply := some token.stepResult }])],
        hin.update hinv (.inl hholds) rfl ?_ ?_ ?_ ?_
          (.inr ⟨Nat.succ_ne_zero step, _, token.stepResult, ⟨before, entries, rfl⟩, rfl,
            hchosen⟩)⟩
      · have hsplit : state.arrivals = before.flatMap Prod.snd ++ entries ++ [last] := by
          rw [hin.arrivals]
          simp
        simp only [hsplit]
        rw [recordReply_concat]
        simp
      · have hnodup := hin.nodup
        rw [List.map_append] at hnodup ⊢
        exact hnodup
      · intro block hblock
        rcases List.mem_append.mp hblock with hold | hreplied
        · exact hin.block block (List.mem_append_left _ hold)
        · obtain rfl := List.mem_singleton.mp hreplied
          exact hlast.setReply _
      · intro other hother hnot
        rw [List.map_append] at hnot ⊢
        exact hnot

theorem InBlocks.step (hin : InBlocks setup state blocks) (hinv : Serialized setup state)
    {label : GenerationLabel} (hstep : setup.step state label = some next) :
    ArrivesInBlocks setup next := by
  rcases GenerationSetup.step_cases hstep with
    ⟨caller, hlock, hphase, rfl⟩ | ⟨caller, step, nextInput, hphase, rfl⟩ |
    ⟨caller, step, nextInput, backend, result, hphase, hfinish, rfl⟩ |
    ⟨caller, step, nextInput, hphase, rfl⟩ | ⟨caller, hphase, rfl⟩ |
    ⟨caller, step, nextInput, hphase, rfl⟩
  · have hnew := hin.phase caller
    rw [hphase] at hnew
    exact ⟨blocks, hin.enterIteration hinv (.inr hlock) (.inl ⟨rfl, rfl, hnew⟩)⟩
  · exact hin.sendStep hinv hphase
  · exact hin.endStep hinv hphase hfinish
  · have hholds : (state.calls caller).phase.isActive = true := by
      rw [hphase]
      rfl
    have hawaits := hin.phase caller
    rw [hphase] at hawaits
    exact ⟨blocks, hin.enterIteration hinv (.inl hholds) hawaits⟩
  · refine ⟨blocks, ⟨hin.arrivals, hin.nodup, hin.block, fun other => ?_⟩⟩
    by_cases hother : other = caller
    · subst hother
      simp [RunnerState.setCall, PhaseOk]
    · simp only [RunnerState.setCall, Function.update_of_ne hother]
      exact hin.phase other
  · have hholds : (state.calls caller).phase.isActive = true := by
      rw [hphase]
      rfl
    exact ⟨blocks, hin.update hinv (.inl hholds) rfl hin.arrivals hin.nodup hin.block
      (fun _ _ hnot => hnot) trivial⟩

theorem inBlocks_of_reachable (hreach : setup.system.Reachable state) :
    ArrivesInBlocks setup state := by
  refine hreach.invariant ?_ ?_
  · rintro state rfl
    exact ⟨[], rfl, List.nodup_nil, by simp, fun caller => List.not_mem_nil⟩
  · intro state label next hreach hin _ hstep
    obtain ⟨blocks, hin⟩ := hin
    exact hin.step (serialized_of_reachable hreach) hstep

end Blocks

/-- In every interleaving of any number of callers: the requests reaching the
first worker are a concatenation of blocks of different calls, a call that has
completed has yielded what it yields alone on the same workers, and the lock
is free when no call is active. -/
theorem generation_serialized [ShardModel μ τ κ] (setup : GenerationSetup μ τ κ)
    {state : RunnerState μ τ κ} (hreach : setup.system.Reachable state) :
    (∃ blocks : List (Nat × List (Arrival τ)),
      state.arrivals = blocks.flatMap Prod.snd ∧ (blocks.map Prod.fst).Nodup ∧
      ∀ block ∈ blocks, IsBlock setup.ops (setup.inputIds block.1) block.1 block.2) ∧
    (∀ caller, (state.calls caller).phase = .exhausted →
      ∃ alone, setup.runner.generateStream setup.ops setup.fuel (setup.env caller)
        (setup.inputIds caller) (setup.maxNewTokens caller) setup.backend =
          some (alone, (state.calls caller).yielded, none)) ∧
    ((∀ caller, (state.calls caller).phase.isActive = false) →
      state.generationLock = none) := by
  have hinv := serialized_of_reachable hreach
  obtain ⟨blocks, hin⟩ := inBlocks_of_reachable hreach
  refine ⟨⟨blocks, hin.arrivals, hin.nodup, hin.block⟩, ?_, ?_⟩
  · intro caller hphase
    have hcall := hinv.calls caller
    simpa only [CallOk, hphase] using hcall
  · intro hidle
    cases hlock : state.generationLock with
    | none => rfl
    | some caller =>
        have hactive := (hinv.lock caller).mp hlock
        rw [hidle caller] at hactive
        cases hactive

/-- Two callers that ask for two tokens each. -/
def twoCallers : GenerationSetup (MambaShardModule Nat Nat) Nat (Cache Nat) where
  runner := twoNodeRunner
  ops := ⟨fun x => .ok (x % 7), fun x y => x + y⟩
  fuel := 2
  inputIds caller := 3 + caller
  maxNewTokens _ := 2
  env caller step := ⟨s!"{caller}-{step}", fun hop => ⟨hop, hop, none⟩⟩
  backend := ⟨loadedNetwork countingModel twoNodePlan, ResultStore.create⟩

/-- The first call completes, the second is closed after its first token. -/
def twoCallersRun : List GenerationLabel :=
  [.acquire 0, .send 0, .finish 0, .resume 0, .send 0, .finish 0, .resume 0,
    .acquire 1, .send 1, .finish 1, .close 1]

theorem generation_serialized_two :
    ∃ state, twoCallers.system.exec twoCallers.initial twoCallersRun = some state ∧
      (∃ blocks : List (Nat × List (Arrival Nat)),
        state.arrivals = blocks.flatMap Prod.snd ∧ (blocks.map Prod.fst).Nodup ∧
        ∀ block ∈ blocks, IsBlock twoCallers.ops (3 + block.1) block.1 block.2) ∧
      (∀ caller, (state.calls caller).phase = .exhausted →
        ∃ alone, twoNodeRunner.generateStream twoCallers.ops 2 (twoCallers.env caller)
          (3 + caller) 2 twoCallers.backend =
            some (alone, (state.calls caller).yielded, none)) ∧
      ((∀ caller, (state.calls caller).phase.isActive = false) →
        state.generationLock = none) := by
  have hrun : (twoCallers.system.exec twoCallers.initial twoCallersRun).isSome = true := by
    decide
  obtain ⟨state, hstate⟩ := Option.isSome_iff_exists.mp hrun
  have hreach : twoCallers.system.Reachable state :=
    TransitionSystem.ReachableVia.exec (.init rfl) (fun _ _ _ => trivial) hstate
  exact ⟨state, hstate, generation_serialized twoCallers hreach⟩

end PiSSM.Pipeline
