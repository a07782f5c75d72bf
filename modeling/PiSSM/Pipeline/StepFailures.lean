import PiSSM.Orchestrator.PipelineRunner
import PiSSM.Pipeline.CacheAgreement
import PiSSM.Pipeline.ShardChain

/-!
What the orchestrator learns of a `RunShard` step that fails somewhere along
the workers. `FailsAt` says at which worker of the chain and with which
exception the processing of a step fails, apart from what becomes of the
replies. A failed response of the next worker is not looked at, neither by the
worker that called it nor by the orchestrator, so that only an RPC error of the
first worker's own call ends a step; every other failure leaves the orchestrator
waiting for a result that never comes.
-/

namespace PiSSM.Pipeline

open PiSSM.Lib PiSSM.Inference PiSSM.Orchestrator

section

variable {μ τ κ : Type*}

/-- What `_run_shard_step` makes of the reply of the first worker: it goes on to
wait for the result unless the call has raised. -/
def acceptReply (reply : Except PyException (RunShardResponse τ)) : Except PyException Unit :=
  match reply with
  | .error err => .error err
  | .ok _ => .ok ()

/-- The workers along these addresses forward to each other in order, as far as
they hold the model. -/
def LinkedChain (network : Network μ κ) (modelName : String) : List String → Prop
  | [] => False
  | [last] => ∀ handle, (network last).models.get? modelName = some handle →
      handle.nextWorkerAddress = ""
  | address :: next :: rest =>
      (∀ handle, (network address).models.get? modelName = some handle →
        handle.nextWorkerAddress = next) ∧
      LinkedChain network modelName (next :: rest)

theorem forwardedReply_ok (outcome : RunShardOutcome μ τ κ) :
    ∃ response, (forwardedReply outcome).reply = .ok response := by
  unfold forwardedReply
  split <;> exact ⟨_, rfl⟩

theorem deliverResult_ok (network : Network μ κ) (request : RunShardRequest τ) (output : τ)
    (hop : Hop κ) : ∃ response, (deliverResult network request output hop).reply =
      .ok response := by
  unfold deliverResult
  split <;> exact ⟨_, rfl⟩

/-- An RPC error after the worker has answered is the loss of the reply. -/
theorem lostReply_error {fault : Option (HopFault κ)} {outcome : RunShardOutcome μ τ κ}
    {raised : PyException} (hreply : ∃ response, outcome.reply = .ok response)
    (herror : (lostReply fault outcome).reply = .error raised) :
    ∃ code details message, fault = some (.replyLost code details message) ∧
      raised = .rpcError code details message := by
  obtain ⟨response, hreply⟩ := hreply
  unfold lostReply at herror
  split at herror
  · next code details message =>
      exact ⟨code, details, message, rfl, (Except.error.inj herror).symm⟩
  · rw [hreply] at herror
    cases herror

/-- The links of a chain do not depend on the caches. -/
theorem LinkedChain.congr {left right : Network μ κ} {modelName : String}
    {addresses : List String} (hchain : LinkedChain left modelName addresses)
    (hshape : SameShape modelName left right) : LinkedChain right modelName addresses := by
  have hlink {address next : String}
      (hnext : ∀ handle, (left address).models.get? modelName = some handle →
        handle.nextWorkerAddress = next) (handle : ModelHandle μ κ)
      (hget : (right address).models.get? modelName = some handle) :
      handle.nextWorkerAddress = next := by
    obtain ⟨handle', hget', hsame⟩ := hshape.symm.handle hget
    rw [← nextWorkerAddress_of_withoutCache hsame]
    exact hnext handle' hget'
  induction addresses with
  | nil => exact hchain.elim
  | cons address rest ih =>
      cases rest with
      | nil => exact fun handle => hlink hchain handle
      | cons next rest => exact ⟨fun handle => hlink hchain.1 handle, ih hchain.2⟩

variable [ShardModel μ τ κ]

/-- The processing of a step fails at the worker `position` calls away from the
first one, with this exception. -/
inductive FailsAt : Network μ κ → (Nat → Hop κ) → String → RunShardRequest τ → Nat →
    PyException → Prop where
  | unreachable {network : Network μ κ} {hops : Nat → Hop κ} {address : String}
      {request : RunShardRequest τ} {code details message : String}
      (hfault : (hops 0).fault = some (.unreachable code details message)) :
      FailsAt network hops address request 0 (.rpcError code details message)
  | notLoaded {network : Network μ κ} {hops : Nat → Hop κ} {address : String}
      {request : RunShardRequest τ}
      (hreached : ∀ code details message,
        (hops 0).fault ≠ some (.unreachable code details message))
      (hget : (network address).models.get? request.modelName = none) :
      FailsAt network hops address request 0 (notLoaded request.modelName)
  /-- The input cannot be deserialised or the forward pass raises. -/
  | compute {network : Network μ κ} {hops : Nat → Hop κ} {address : String}
      {request : RunShardRequest τ} {handle : ModelHandle μ κ} {err : PyException}
      (hreached : ∀ code details message,
        (hops 0).fault ≠ some (.unreachable code details message))
      (hget : (network address).models.get? request.modelName = some handle)
      (hcompute : (computeShard handle request (hops 0).fault).2 = .error err) :
      FailsAt network hops address request 0 err
  | deliver {network : Network μ κ} {hops : Nat → Hop κ} {address : String}
      {request : RunShardRequest τ} {handle : ModelHandle μ κ} {output : τ}
      {code details message : String}
      (hget : (network address).models.get? request.modelName = some handle)
      (hcompute : (computeShard handle request (hops 0).fault).2 = .ok output)
      (hnext : handle.nextWorkerAddress = "")
      (hfault : (hops 0).fault = some (.deliver code details message)) :
      FailsAt network hops address request 0 (.rpcError code details message)
  | replyLost {network : Network μ κ} {hops : Nat → Hop κ} {address : String}
      {request : RunShardRequest τ} {handle : ModelHandle μ κ}
      {code details message : String}
      (hget : (network address).models.get? request.modelName = some handle)
      (hfault : (hops 0).fault = some (.replyLost code details message)) :
      FailsAt network hops address request 0 (.rpcError code details message)
  | next {network : Network μ κ} {hops : Nat → Hop κ} {address : String}
      {request : RunShardRequest τ} {handle : ModelHandle μ κ} {output : τ}
      {position : Nat} {err : PyException}
      (hreached : ∀ code details message,
        (hops 0).fault ≠ some (.unreachable code details message))
      (hget : (network address).models.get? request.modelName = some handle)
      (hcompute : (computeShard handle request (hops 0).fault).2 = .ok output)
      (hnext : handle.nextWorkerAddress ≠ "")
      (hfails : FailsAt
        (setHandle network address request.modelName
          (computeShard handle request (hops 0).fault).1)
        (fun k => hops (k + 1)) handle.nextWorkerAddress
        (forwardRequest request output (hops 0)) position err) :
      FailsAt network hops address request (position + 1) err

/-- The call to the worker at `address` itself ends in an RPC error: it does not
reach the worker, the worker does not hold the model, or the reply is lost. -/
def CallFails (network : Network μ κ) (hops : Nat → Hop κ) (address modelName : String) :
    Prop :=
  (∃ code details message, (hops 0).fault = some (.unreachable code details message)) ∨
    (network address).models.get? modelName = none ∨
    ∃ code details message, (hops 0).fault = some (.replyLost code details message)

/-- A failure of the step reaches the orchestrator. -/
structure FailureReported (network : Network μ κ) (hops : Nat → Hop κ) (address : String)
    (request : RunShardRequest τ) (outcome : RunShardOutcome μ τ κ) : Prop where
  /-- A step that fails somewhere is given up with an error that names a failure. -/
  aborts : ∀ position err, FailsAt network hops address request position err →
    ∃ raised position' err', acceptReply outcome.reply = .error raised ∧
      FailsAt network hops address request position' err' ∧
      err'.str.toList <:+: raised.str.toList
  /-- A response of success means that the result has been delivered. -/
  delivers : ∀ response, outcome.reply = .ok response → response.success = true →
    ∃ result ∈ outcome.delivered, result.requestId = request.requestId
  /-- A failed response is never ignored. -/
  heeds : ∀ response, outcome.reply = .ok response → response.success = false →
    ∃ raised, acceptReply outcome.reply = .error raised

/-- A step after its call: it raises what the call has raised, or waits. -/
theorem finishShardStep_accept (runner : PipelineRunner) (fuel : Nat) (env : StepEnv κ)
    (inputTensor : τ) (resetCache : Bool) (backend : Backend μ τ κ) {first : ShardAssignment}
    {outcome : RunShardOutcome μ τ κ} (hfirst : runner.plan.assignments.head? = some first)
    (hrun : runShard fuel backend.network env.hops first.address
      (runner.runRequest env.requestId inputTensor resetCache) = some outcome) :
    runner.finishShardStep fuel env inputTensor resetCache backend =
      let store := outcome.delivered.foldl PipelineRunner.deliverResult backend.resultStore
      some (match acceptReply outcome.reply with
        | .error raised => (⟨outcome.network, store⟩, .error raised)
        | .ok () =>
            (⟨outcome.network, (store.wait env.requestId).1⟩,
              (store.wait env.requestId).2)) := by
  unfold PipelineRunner.finishShardStep acceptReply
  rw [hfirst]
  simp only [hrun, Option.map_some]
  cases outcome.reply <;> rfl

variable {network : Network μ κ} {hops : Nat → Hop κ} {address : String}
  {request : RunShardRequest τ} {outcome : RunShardOutcome μ τ κ} {fuel : Nat}

/-- The call raises only what its own RPC raises. -/
theorem raised_callFails (hmode : request.pipelineMode = true) {raised : PyException}
    (hrun : runShard fuel network hops address request = some outcome)
    (hraised : outcome.reply = .error raised) :
    CallFails network hops address request.modelName := by
  cases fuel with
  | zero => cases hrun
  | succ fuel =>
      have hlost {inner : RunShardOutcome μ τ κ}
          (hreply : ∃ response, inner.reply = .ok response)
          (herror : (lostReply (hops 0).fault inner).reply = .error raised) :
          CallFails network hops address request.modelName := by
        obtain ⟨code, details, message, hfault, _⟩ := lostReply_error hreply herror
        exact .inr (.inr ⟨code, details, message, hfault⟩)
      cases (runShard_iff_hopRun hmode).mp hrun with
      | unreachable hfault => exact .inl ⟨_, _, _, hfault⟩
      | notLoaded _ hget => exact .inr (.inl hget)
      | failed _ _ _ => exact hlost ⟨_, rfl⟩ hraised
      | forwarded _ _ _ _ _ => exact hlost (forwardedReply_ok _) hraised
      | delivered _ _ _ _ => exact hlost (deliverResult_ok _ _ _ _) hraised

/-- A call whose own RPC fails raises, and what it raises is a failure of the
step. -/
theorem raised_of_callFails (hmode : request.pipelineMode = true)
    (hrun : runShard fuel network hops address request = some outcome)
    (hcall : CallFails network hops address request.modelName) :
    ∃ raised, outcome.reply = .error raised ∧
      FailsAt network hops address request 0 raised := by
  cases fuel with
  | zero => cases hrun
  | succ fuel =>
      have hlost {inner : RunShardOutcome μ τ κ} {handle : ModelHandle μ κ}
          (hreached : ∀ code details message,
            (hops 0).fault ≠ some (.unreachable code details message))
          (hget : (network address).models.get? request.modelName = some handle) :
          ∃ raised, (lostReply (hops 0).fault inner).reply = .error raised ∧
            FailsAt network hops address request 0 raised := by
        rcases hcall with ⟨code, details, message, hfault⟩ | hnone |
          ⟨code, details, message, hfault⟩
        · exact absurd hfault (hreached _ _ _)
        · rw [hget] at hnone
          cases hnone
        · refine ⟨.rpcError code details message, ?_, .replyLost hget hfault⟩
          rw [hfault]
          rfl
      cases (runShard_iff_hopRun hmode).mp hrun with
      | unreachable hfault => exact ⟨_, rfl, .unreachable hfault⟩
      | notLoaded hreached hget => exact ⟨_, rfl, .notLoaded hreached hget⟩
      | failed hreached hget _ => exact hlost hreached hget
      | forwarded hreached hget _ _ _ => exact hlost hreached hget
      | delivered hreached hget _ _ => exact hlost hreached hget

/-- A step that fails nowhere is answered with success and has delivered its
result. -/
theorem delivered_of_no_failure (hmode : request.pipelineMode = true)
    (hrun : runShard fuel network hops address request = some outcome)
    (hnone : ∀ position err, ¬ FailsAt network hops address request position err) :
    outcome.reply = .ok ⟨true, "", none, 0, 0⟩ ∧
      ∃ result ∈ outcome.delivered, result.requestId = request.requestId := by
  induction fuel generalizing network hops address request outcome with
  | zero => cases hrun
  | succ fuel ih =>
      have hkept {handle : ModelHandle μ κ} {inner : RunShardOutcome μ τ κ}
          (hget : (network address).models.get? request.modelName = some handle) :
          lostReply (hops 0).fault inner = inner := by
        unfold lostReply
        split
        · next hfault => exact absurd (.replyLost hget hfault) (hnone 0 _)
        · rfl
      cases (runShard_iff_hopRun hmode).mp hrun with
      | unreachable hfault => exact absurd (.unreachable hfault) (hnone 0 _)
      | notLoaded hreached hget => exact absurd (.notLoaded hreached hget) (hnone 0 _)
      | failed hreached hget hcompute =>
          exact absurd (.compute hreached hget hcompute) (hnone 0 _)
      | forwarded hreached hget hcompute hnext hinner =>
          obtain ⟨hreply, result, hmem, hid⟩ :=
            ih (forwardRequest_pipelineMode hmode _ _) hinner fun position err hfails =>
              hnone (position + 1) err (.next hreached hget hcompute hnext hfails)
          rw [hkept hget, forwardedReply_delivered]
          refine ⟨?_, result, hmem, hid⟩
          unfold forwardedReply
          rw [hreply]
      | delivered hreached hget hcompute hnext =>
          rw [hkept hget]
          unfold deliverResult
          split
          · next hfault => exact absurd (.deliver hget hcompute hnext hfault) (hnone 0 _)
          · exact ⟨rfl, _, List.mem_singleton_self _, rfl⟩

/-- A failure past the call of the first worker is lost. -/
theorem not_reported (hmode : request.pipelineMode = true)
    (hrun : runShard fuel network hops address request = some outcome)
    (hcall : ¬ CallFails network hops address request.modelName) {position : Nat}
    {err : PyException} (hfails : FailsAt network hops address request position err) :
    ¬ FailureReported network hops address request outcome := by
  intro hreported
  obtain ⟨raised, _, _, haccept, _⟩ := hreported.aborts position err hfails
  unfold acceptReply at haccept
  split at haccept
  · next hraised => exact hcall (raised_callFails hmode hrun hraised)
  · cases haccept

theorem reported_iff (hmode : request.pipelineMode = true)
    (hrun : runShard fuel network hops address request = some outcome) :
    FailureReported network hops address request outcome ↔
      (∀ position err, ¬ FailsAt network hops address request position err) ∨
        CallFails network hops address request.modelName := by
  constructor
  · intro hreported
    by_contra hneither
    rw [not_or] at hneither
    obtain ⟨hsome, hcall⟩ := hneither
    push Not at hsome
    obtain ⟨position, err, hfails⟩ := hsome
    exact not_reported hmode hrun hcall hfails hreported
  · rintro (hnone | hcall)
    · obtain ⟨hreply, hdelivered⟩ := delivered_of_no_failure hmode hrun hnone
      refine ⟨fun position err hfails => absurd hfails (hnone position err),
        fun _ _ _ => hdelivered, fun response hresponse hfailed => ?_⟩
      rw [hreply] at hresponse
      obtain rfl := Except.ok.inj hresponse
      cases hfailed
    · obtain ⟨raised, hraised, hfails⟩ := raised_of_callFails hmode hrun hcall
      have hno : ∀ response, outcome.reply ≠ .ok response := by
        intro response hresponse
        rw [hraised] at hresponse
        cases hresponse
      refine ⟨fun _ _ _ => ⟨raised, 0, raised, ?_, hfails, List.infix_refl _⟩,
        fun response hresponse => absurd hresponse (hno response),
        fun response hresponse => absurd hresponse (hno response)⟩
      unfold acceptReply
      rw [hraised]

/-- A call comes back once the call it makes does. -/
theorem runShard_returns (hmode : request.pipelineMode = true)
    (hinner : ∀ handle output, (network address).models.get? request.modelName = some handle →
      (computeShard handle request (hops 0).fault).2 = .ok output →
        handle.nextWorkerAddress ≠ "" →
          ∃ inner, runShard fuel
            (setHandle network address request.modelName
              (computeShard handle request (hops 0).fault).1)
            (fun k => hops (k + 1)) handle.nextWorkerAddress
            (forwardRequest request output (hops 0)) = some inner) :
    ∃ outcome, runShard (fuel + 1) network hops address request = some outcome := by
  by_cases hunreached : ∃ code details message,
      (hops 0).fault = some (.unreachable code details message)
  · obtain ⟨code, details, message, hfault⟩ := hunreached
    exact ⟨_, (runShard_iff_hopRun hmode).mpr (.unreachable hfault)⟩
  · have hreached : ∀ code details message,
        (hops 0).fault ≠ some (.unreachable code details message) :=
      fun code details message hfault => hunreached ⟨code, details, message, hfault⟩
    cases hget : (network address).models.get? request.modelName with
    | none => exact ⟨_, (runShard_iff_hopRun hmode).mpr (.notLoaded hreached hget)⟩
    | some handle =>
        cases hcompute : (computeShard handle request (hops 0).fault).2 with
        | error err =>
            exact ⟨_, (runShard_iff_hopRun hmode).mpr (.failed hreached hget hcompute)⟩
        | ok output =>
            by_cases hnext : handle.nextWorkerAddress = ""
            · exact ⟨_, (runShard_iff_hopRun hmode).mpr
                (.delivered hreached hget hcompute hnext)⟩
            · obtain ⟨inner, hrun⟩ := hinner handle output hget hcompute hnext
              exact ⟨_, (runShard_iff_hopRun hmode).mpr
                (.forwarded hreached hget hcompute hnext hrun)⟩

/-- A call along a chain comes back after as many nested calls as the chain has
workers. -/
theorem LinkedChain.returns {addresses : List String} (hmode : request.pipelineMode = true)
    (hchain : LinkedChain network request.modelName (address :: addresses))
    (hfuel : addresses.length < fuel) :
    ∃ outcome, runShard fuel network hops address request = some outcome := by
  induction addresses generalizing network hops address request fuel with
  | nil =>
      obtain ⟨fuel, rfl⟩ : ∃ n, fuel = n + 1 := ⟨fuel - 1, by simp at hfuel; omega⟩
      apply runShard_returns hmode
      intro handle output hget _ hnext
      exact absurd (hchain handle hget) hnext
  | cons next rest ih =>
      obtain ⟨fuel, rfl⟩ : ∃ n, fuel = n + 1 := ⟨fuel - 1, by simp at hfuel; omega⟩
      apply runShard_returns hmode
      intro handle output hget _ _
      have hshape := sameShape_setHandle hget
        (computeShard_withoutCache handle request (hops 0).fault)
      rw [hchain.1 handle hget]
      exact ih (forwardRequest_pipelineMode hmode output (hops 0)) (hchain.2.congr hshape)
        (by simpa using hfuel)

/-- The failures of one step of a runner reach it exactly when there is none or
the call to the first worker itself fails. -/
theorem failure_reported (runner : PipelineRunner) (env : StepEnv κ) (inputTensor : τ)
    (resetCache : Bool) (backend : Backend μ τ κ) (first : ShardAssignment)
    (rest : List ShardAssignment) (hplan : runner.plan.assignments = first :: rest)
    (hchain : LinkedChain backend.network runner.plan.modelName
      (runner.plan.assignments.map ShardAssignment.address)) :
    ∀ fuel ≥ runner.plan.assignments.length, ∃ outcome,
      runShard fuel backend.network env.hops first.address
          (runner.runRequest env.requestId inputTensor resetCache) = some outcome ∧
        (∀ raised, acceptReply outcome.reply = .error raised →
          (runner.runShardStep fuel env inputTensor resetCache backend).map Prod.snd =
            some (.error raised)) ∧
        (FailureReported backend.network env.hops first.address
            (runner.runRequest env.requestId inputTensor resetCache) outcome ↔
          (∀ position err, ¬ FailsAt backend.network env.hops first.address
            (runner.runRequest env.requestId inputTensor resetCache) position err) ∨
          CallFails backend.network env.hops first.address runner.plan.modelName) := by
  intro fuel hfuel
  have hmode := runner.runRequest_pipelineMode env.requestId inputTensor resetCache
  rw [hplan] at hchain hfuel
  obtain ⟨outcome, hrun⟩ := @LinkedChain.returns _ _ _ _ backend.network env.hops first.address
    (runner.runRequest env.requestId inputTensor resetCache) fuel
    (rest.map ShardAssignment.address) hmode hchain (by simpa using hfuel)
  refine ⟨outcome, hrun, fun raised hraised => ?_, reported_iff hmode hrun⟩
  have hfirst : runner.plan.assignments.head? = some first := by rw [hplan]; rfl
  have hstep := finishShardStep_accept runner fuel env inputTensor resetCache
    (PipelineRunner.reserveSlot env backend) hfirst hrun
  unfold PipelineRunner.runShardStep
  rw [hstep, hraised]
  rfl

end

/-- The second of two workers fails in its forward pass. -/
def failingHops (position : Nat) : Hop (Cache Nat) :=
  ⟨1, 1, if position = 1 then some (.forward [] "out of memory") else none⟩

def loadedBackend : Backend (MambaShardModule Nat Nat) Nat (Cache Nat) :=
  ⟨loadedNetwork countingModel twoNodePlan, .create⟩

theorem loadedBackend_linked : LinkedChain loadedBackend.network "m"
    (twoNodePlan.assignments.map ShardAssignment.address) := by
  constructor
  · intro handle hget
    obtain rfl := Option.some.inj (show some (assignedHandle countingModel twoNodePlan _) =
      some handle from hget)
    rfl
  · intro handle hget
    obtain rfl := Option.some.inj (show some (assignedHandle countingModel twoNodePlan _) =
      some handle from hget)
    rfl

/-- A worker past the first one fails, the first worker answers with success,
nothing is delivered, and the step waits. -/
theorem failure_reported_counterexample :
    ∃ outcome, runShard 2 loadedBackend.network failingHops "10.0.0.1:50051"
        (twoNodeRunner.runRequest "request" 3 true) = some outcome ∧
      FailsAt loadedBackend.network failingHops "10.0.0.1:50051"
        (twoNodeRunner.runRequest "request" 3 true) 1 (.runtimeError "out of memory") ∧
      ¬ FailureReported loadedBackend.network failingHops "10.0.0.1:50051"
        (twoNodeRunner.runRequest "request" 3 true) outcome := by
  have hmode : (twoNodeRunner.runRequest "request" 3 true).pipelineMode = true := rfl
  have hreached : ∀ k code details message,
      (failingHops k).fault ≠ some (.unreachable code details message) := by
    intro k code details message
    unfold failingHops
    split <;> simp
  obtain ⟨outcome, hrun⟩ := @LinkedChain.returns _ _ _ _ loadedBackend.network failingHops
    "10.0.0.1:50051" (twoNodeRunner.runRequest "request" 3 true) 2 _ hmode loadedBackend_linked
    (by decide)
  have hfails : FailsAt loadedBackend.network failingHops "10.0.0.1:50051"
      (twoNodeRunner.runRequest "request" 3 true) 1 (.runtimeError "out of memory") :=
    .next (hreached 0) rfl rfl (by decide) (.compute (hreached 1) rfl rfl)
  have hcall : ¬ CallFails loadedBackend.network failingHops "10.0.0.1:50051" "m" := by
    rintro (⟨_, _, _, hfault⟩ | hget | ⟨_, _, _, hfault⟩)
    · cases hfault
    · cases hget
    · cases hfault
  exact ⟨outcome, hrun, hfails, not_reported hmode hrun hcall hfails⟩

theorem failure_reported_two :
    ∃ outcome,
      runShard 2 loadedBackend.network failingHops "10.0.0.1:50051"
          (twoNodeRunner.runRequest "request" 3 true) = some outcome ∧
        (∀ raised, acceptReply outcome.reply = .error raised →
          (twoNodeRunner.runShardStep 2 ⟨"request", failingHops⟩ 3 true loadedBackend).map
            Prod.snd = some (.error raised)) ∧
        (FailureReported loadedBackend.network failingHops "10.0.0.1:50051"
            (twoNodeRunner.runRequest "request" 3 true) outcome ↔
          (∀ position err, ¬ FailsAt loadedBackend.network failingHops "10.0.0.1:50051"
            (twoNodeRunner.runRequest "request" 3 true) position err) ∨
          CallFails loadedBackend.network failingHops "10.0.0.1:50051" "m") :=
  failure_reported twoNodeRunner ⟨"request", failingHops⟩ 3 true loadedBackend _ _ rfl
    loadedBackend_linked 2 (by decide)

end PiSSM.Pipeline
