import PiSSM.Inference.Service

/-!
`RunShard` and its forwarding along the workers. A call computes on the
addressed worker and, in pipeline mode, forwards the output to the next
worker's `RunShard` or, on the last shard, delivers it to the orchestrator.
The calls are nested: a worker answers when the call it made has come back.
The environment decides what goes wrong at each hop.
-/

namespace PiSSM.Inference

open PiSSM.Lib

structure RunShardRequest (τ : Type*) where
  modelName : String
  inputTensor : τ
  maxNewTokens : Nat
  generateMode : Bool
  requestId : String
  orchestratorCallbackAddress : String
  nodeLatenciesMs : List ℚ
  nodePeakMemoryMb : List Nat
  resetCache : Bool

structure RunShardResponse (τ : Type*) where
  success : Bool
  errorMessage : String
  outputTensor : Option τ
  latencyMs : ℚ
  peakMemoryMb : Nat

structure DeliverResultRequest (τ : Type*) where
  requestId : String
  outputTensor : τ
  nodeLatenciesMs : List ℚ
  nodePeakMemoryMb : List Nat

/-- What can go wrong at a hop besides what the worker's own state decides. -/
inductive HopFault (κ : Type*) where
  /-- The call fails before the worker handles it. -/
  | unreachable (code details message : String)
  | deserialize (message : String)
  /-- The forward pass raises and leaves some cache behind. -/
  | forward (leftover : κ) (message : String)
  | deliver (code details message : String)
  /-- The worker has handled the call, but its reply does not arrive. -/
  | replyLost (code details message : String)

/-- The measurements taken at a hop and its fault, if any. -/
structure Hop (κ : Type*) where
  elapsedMs : ℚ
  peakMemoryMb : Nat
  fault : Option (HopFault κ)

abbrev Network (μ κ : Type*) := String → InferenceServicer μ κ

/-- How a `RunShard` call ended: the workers afterwards, the results that
reached the orchestrator meanwhile and the response or the error the caller
gets. -/
structure RunShardOutcome (μ τ κ : Type*) where
  network : Network μ κ
  delivered : List (DeliverResultRequest τ)
  reply : Except PyException (RunShardResponse τ)

section

variable {μ τ κ : Type*} [ShardModel μ τ κ]

def RunShardRequest.pipelineMode (request : RunShardRequest τ) : Bool :=
  request.orchestratorCallbackAddress ≠ ""

/-- The cache a pipeline step runs on: a fresh one when the step resets or when
the handle has none. -/
def startCache (handle : ModelHandle μ κ) (resetCache : Bool) : κ :=
  match handle.cache with
  | some cache => if resetCache then ShardModel.newCache handle.model else cache
  | none => ShardModel.newCache handle.model

/-- The computing part of `RunShard`: the handle afterwards and the output. A
shard module has no `generate`. -/
def computeShard (handle : ModelHandle μ κ) (request : RunShardRequest τ)
    (fault : Option (HopFault κ)) : ModelHandle μ κ × Except PyException τ :=
  match fault with
  | some (.deserialize message) => (handle, .error (.valueError message))
  | some (.forward leftover message) =>
      if request.pipelineMode then
        (handle.setCache leftover, .error (.runtimeError message))
      else
        (handle, .error (.runtimeError message))
  | _ =>
      if request.pipelineMode then
        let (cache, output) := ShardModel.forward handle.model request.inputTensor
          (startCache handle request.resetCache)
        (handle.setCache cache, output)
      else if request.generateMode then
        (handle, .error (.attributeError
          "'MambaShardModule' object has no attribute 'generate'"))
      else
        (handle, ShardModel.forwardStateless handle.model request.inputTensor)

def setHandle (network : Network μ κ) (address modelName : String)
    (handle : ModelHandle μ κ) : Network μ κ :=
  Function.update network address
    { network address with models := (network address).models.set modelName handle }

def failedResponse (err : PyException) : RunShardResponse τ :=
  ⟨false, err.str, none, 0, 0⟩

def notLoaded (modelName : String) : PyException :=
  .rpcError "NOT_FOUND" s!"Model '{modelName}' is not loaded"
    s!"NOT_FOUND: Model '{modelName}' is not loaded"

/-- The request a worker forwards; request id, callback address and reset flag
are passed on unchanged. -/
def forwardRequest (request : RunShardRequest τ) (output : τ) (hop : Hop κ) :
    RunShardRequest τ where
  modelName := request.modelName
  inputTensor := output
  maxNewTokens := request.maxNewTokens
  generateMode := false
  requestId := request.requestId
  orchestratorCallbackAddress := request.orchestratorCallbackAddress
  nodeLatenciesMs := request.nodeLatenciesMs ++ [hop.elapsedMs]
  nodePeakMemoryMb := request.nodePeakMemoryMb ++ [hop.peakMemoryMb]
  resetCache := request.resetCache

def deliverRequest (request : RunShardRequest τ) (output : τ) (hop : Hop κ) :
    DeliverResultRequest τ where
  requestId := request.requestId
  outputTensor := output
  nodeLatenciesMs := request.nodeLatenciesMs ++ [hop.elapsedMs]
  nodePeakMemoryMb := request.nodePeakMemoryMb ++ [hop.peakMemoryMb]

/-- The reply as the caller sees it. -/
def lostReply (fault : Option (HopFault κ)) (outcome : RunShardOutcome μ τ κ) :
    RunShardOutcome μ τ κ :=
  match fault with
  | some (.replyLost code details message) =>
      { outcome with reply := .error (.rpcError code details message) }
  | _ => outcome

/-- The last worker's call of `DeliverResult`. -/
def deliverResult (network : Network μ κ) (request : RunShardRequest τ) (output : τ)
    (hop : Hop κ) : RunShardOutcome μ τ κ :=
  match hop.fault with
  | some (.deliver code details message) =>
      ⟨network, [], .ok (failedResponse (.rpcError code details message))⟩
  | _ => ⟨network, [deliverRequest request output hop], .ok ⟨true, "", none, 0, 0⟩⟩

/-- The answer after forwarding: the next worker's response is not looked at,
an RPC error is turned into a failed response. -/
def forwardedReply (outcome : RunShardOutcome μ τ κ) : RunShardOutcome μ τ κ :=
  match outcome.reply with
  | .ok _ => { outcome with reply := .ok ⟨true, "", none, 0, 0⟩ }
  | .error err => { outcome with reply := .ok (failedResponse err) }

/-- A `RunShard` call to the worker at `address`. The fuel bounds the number of
nested calls; `none` means that it did not suffice. -/
def runShard : Nat → Network μ κ → (Nat → Hop κ) → String → RunShardRequest τ →
    Option (RunShardOutcome μ τ κ)
  | 0, _, _, _, _ => none
  | fuel + 1, network, hops, address, request =>
      match (hops 0).fault with
      | some (.unreachable code details message) =>
          some ⟨network, [], .error (.rpcError code details message)⟩
      | fault =>
          match (network address).models.get? request.modelName with
          | none => some ⟨network, [], .error (notLoaded request.modelName)⟩
          | some handle =>
              let computed := computeShard handle request fault
              let network := setHandle network address request.modelName computed.1
              let outcome : Option (RunShardOutcome μ τ κ) :=
                match computed.2 with
                | .error err => some ⟨network, [], .ok (failedResponse err)⟩
                | .ok output =>
                    if request.pipelineMode then
                      if handle.nextWorkerAddress ≠ "" then
                        (runShard fuel network (fun k => hops (k + 1))
                          handle.nextWorkerAddress
                          (forwardRequest request output (hops 0))).map forwardedReply
                      else
                        some (deliverResult network request output (hops 0))
                    else
                      some ⟨network, [], .ok ⟨true, "", some output,
                        (hops 0).elapsedMs, (hops 0).peakMemoryMb⟩⟩
              outcome.map (lostReply fault)

/-- The first hop of a pipeline step, as a relation: how a call with this fuel
left for the hops behind it can end. -/
inductive HopRun (fuel : Nat) (network : Network μ κ) (hops : Nat → Hop κ)
    (address : String) (request : RunShardRequest τ) : RunShardOutcome μ τ κ → Prop where
  | unreachable {code details message : String}
      (hfault : (hops 0).fault = some (.unreachable code details message)) :
      HopRun fuel network hops address request
        ⟨network, [], .error (.rpcError code details message)⟩
  | notLoaded
      (hreached : ∀ code details message,
        (hops 0).fault ≠ some (.unreachable code details message))
      (hget : (network address).models.get? request.modelName = none) :
      HopRun fuel network hops address request
        ⟨network, [], .error (notLoaded request.modelName)⟩
  | failed {handle : ModelHandle μ κ} {err : PyException}
      (hreached : ∀ code details message,
        (hops 0).fault ≠ some (.unreachable code details message))
      (hget : (network address).models.get? request.modelName = some handle)
      (hcompute : (computeShard handle request (hops 0).fault).2 = .error err) :
      HopRun fuel network hops address request
        (lostReply (hops 0).fault
          ⟨setHandle network address request.modelName
            (computeShard handle request (hops 0).fault).1, [], .ok (failedResponse err)⟩)
  | forwarded {handle : ModelHandle μ κ} {output : τ} {inner : RunShardOutcome μ τ κ}
      (hreached : ∀ code details message,
        (hops 0).fault ≠ some (.unreachable code details message))
      (hget : (network address).models.get? request.modelName = some handle)
      (hcompute : (computeShard handle request (hops 0).fault).2 = .ok output)
      (hnext : handle.nextWorkerAddress ≠ "")
      (hinner : runShard fuel
        (setHandle network address request.modelName
          (computeShard handle request (hops 0).fault).1)
        (fun k => hops (k + 1)) handle.nextWorkerAddress
        (forwardRequest request output (hops 0)) = some inner) :
      HopRun fuel network hops address request
        (lostReply (hops 0).fault (forwardedReply inner))
  | delivered {handle : ModelHandle μ κ} {output : τ}
      (hreached : ∀ code details message,
        (hops 0).fault ≠ some (.unreachable code details message))
      (hget : (network address).models.get? request.modelName = some handle)
      (hcompute : (computeShard handle request (hops 0).fault).2 = .ok output)
      (hnext : handle.nextWorkerAddress = "") :
      HopRun fuel network hops address request
        (lostReply (hops 0).fault
          (deliverResult
            (setHandle network address request.modelName
              (computeShard handle request (hops 0).fault).1)
            request output (hops 0)))

/-- A call that reaches its worker. -/
theorem runShard_reached {fuel : Nat} {network : Network μ κ} {hops : Nat → Hop κ}
    {address : String} {request : RunShardRequest τ}
    (hreached : ∀ code details message,
      (hops 0).fault ≠ some (.unreachable code details message)) :
    runShard (fuel + 1) network hops address request =
      match (network address).models.get? request.modelName with
      | none => some ⟨network, [], .error (notLoaded request.modelName)⟩
      | some handle =>
          let computed := computeShard handle request (hops 0).fault
          let network := setHandle network address request.modelName computed.1
          let outcome : Option (RunShardOutcome μ τ κ) :=
            match computed.2 with
            | .error err => some ⟨network, [], .ok (failedResponse err)⟩
            | .ok output =>
                if request.pipelineMode then
                  if handle.nextWorkerAddress ≠ "" then
                    (runShard fuel network (fun k => hops (k + 1))
                      handle.nextWorkerAddress
                      (forwardRequest request output (hops 0))).map forwardedReply
                  else
                    some (deliverResult network request output (hops 0))
                else
                  some ⟨network, [], .ok ⟨true, "", some output,
                    (hops 0).elapsedMs, (hops 0).peakMemoryMb⟩⟩
          outcome.map (lostReply (hops 0).fault) := by
  rw [runShard]
  split
  · next hfault => exact absurd hfault (hreached _ _ _)
  · rfl

/-- The executable call and the relation agree on pipeline steps. -/
theorem runShard_iff_hopRun {fuel : Nat} {network : Network μ κ} {hops : Nat → Hop κ}
    {address : String} {request : RunShardRequest τ} (hmode : request.pipelineMode = true)
    {outcome : RunShardOutcome μ τ κ} :
    runShard (fuel + 1) network hops address request = some outcome ↔
      HopRun fuel network hops address request outcome := by
  constructor
  · intro hrun
    by_cases hunreached : ∃ code details message,
        (hops 0).fault = some (.unreachable code details message)
    · obtain ⟨code, details, message, hfault⟩ := hunreached
      rw [runShard, hfault] at hrun
      obtain rfl := Option.some.inj hrun
      exact .unreachable hfault
    · have hreached : ∀ code details message,
          (hops 0).fault ≠ some (.unreachable code details message) :=
        fun code details message hfault => hunreached ⟨code, details, message, hfault⟩
      rw [runShard_reached hreached] at hrun
      cases hget : (network address).models.get? request.modelName with
      | none =>
          rw [hget] at hrun
          obtain rfl := Option.some.inj hrun
          exact .notLoaded hreached hget
      | some handle =>
          simp only [hget] at hrun
          cases hcompute : (computeShard handle request (hops 0).fault).2 with
          | error err =>
              simp only [hcompute, Option.map_some] at hrun
              obtain rfl := Option.some.inj hrun
              exact .failed hreached hget hcompute
          | ok output =>
              simp only [hcompute, hmode, if_true] at hrun
              split at hrun
              · next hnext =>
                  rw [Option.map_map, Option.map_eq_some_iff] at hrun
                  obtain ⟨inner, hinner, rfl⟩ := hrun
                  exact .forwarded hreached hget hcompute hnext hinner
              · next hnext =>
                  rw [Option.map_some] at hrun
                  obtain rfl := Option.some.inj hrun
                  exact .delivered hreached hget hcompute (not_not.mp hnext)
  · intro hhop
    cases hhop with
    | unreachable hfault => rw [runShard, hfault]
    | notLoaded hreached hget => rw [runShard_reached hreached, hget]
    | failed hreached hget hcompute =>
        rw [runShard_reached hreached, hget]
        simp only [hcompute, Option.map_some]
    | forwarded hreached hget hcompute hnext hinner =>
        rw [runShard_reached hreached, hget]
        simp only [hcompute, hmode, if_true, if_pos hnext, hinner, Option.map_some]
    | delivered hreached hget hcompute hnext =>
        have hlast : ¬ (_ ≠ "") := not_not.mpr hnext
        rw [runShard_reached hreached, hget]
        simp only [hcompute, hmode, if_true, if_neg hlast, Option.map_some]

end

end PiSSM.Inference
