import PiSSM.Orchestrator.PipelineRunner
import PiSSM.Pipeline.TensorTransport

/-!
Generation as it is on the wire. Between two processes a tensor is its bytes, its shape and
the name of its dtype: a worker deserialises the input of a `RunShard` call before it
computes and serialises its output for the next worker or for the orchestrator, whose
`DeliverResult` deserialises it again. The runs of this model are those of the model that
passes tensors, with every delivered tensor replaced by the copy that has come off the wire.
-/

namespace PiSSM.Pipeline

open PiSSM.Lib PiSSM.Inference PiSSM.Orchestrator

/-- A tensor between two processes. -/
structure Payload where
  data : List UInt8
  shape : List Int
  dtype : String

namespace Payload

def serialize (tensor : Tensor) : Except PyException Payload :=
  (serializeTensor tensor).map fun (data, shape, dtype) => ⟨data, shape, dtype⟩

def tensor (payload : Payload) : Except PyException Tensor :=
  deserializeTensor payload.data payload.shape payload.dtype

end Payload

/-- A request with another input and the same other fields. -/
def withInput {τ τ' : Type*} (request : RunShardRequest τ) (input : τ') : RunShardRequest τ' where
  modelName := request.modelName
  inputTensor := input
  maxNewTokens := request.maxNewTokens
  generateMode := request.generateMode
  requestId := request.requestId
  orchestratorCallbackAddress := request.orchestratorCallbackAddress
  nodeLatenciesMs := request.nodeLatenciesMs
  nodePeakMemoryMb := request.nodePeakMemoryMb
  resetCache := request.resetCache

/-- What the worker is told when the servicer's `DeliverResult` raises. -/
def callbackRaised (err : PyException) : PyException :=
  .rpcError "UNKNOWN" s!"Exception calling application: {err.str}"
    s!"UNKNOWN: Exception calling application: {err.str}"

section

variable {μ κ : Type*} [ShardModel μ Tensor κ]

/-- The computing part of `RunShard`, from the input as it comes to the output as it goes. -/
def computePayload (handle : ModelHandle μ κ) (request : RunShardRequest Payload)
    (fault : Option (HopFault κ)) : ModelHandle μ κ × Except PyException Payload :=
  match request.inputTensor.tensor with
  | .error err => (handle, .error err)
  | .ok input =>
      let computed := computeShard handle (withInput request input) fault
      (computed.1, computed.2 >>= Payload.serialize)

/-- The last worker's call of `DeliverResult`, which the servicer answers if it can
deserialise the output. -/
def deliverPayload (network : Network μ κ) (request : RunShardRequest Payload) (output : Payload)
    (hop : Hop κ) : RunShardOutcome μ Payload κ :=
  match hop.fault with
  | some (.deliver code details message) =>
      ⟨network, [], .ok (failedResponse (.rpcError code details message))⟩
  | _ =>
      match output.tensor with
      | .error err => ⟨network, [], .ok (failedResponse (callbackRaised err))⟩
      | .ok _ => ⟨network, [deliverRequest request output hop], .ok ⟨true, "", none, 0, 0⟩⟩

/-- `RunShard` on the wire. -/
def runShardWire : Nat → Network μ κ → (Nat → Hop κ) → String → RunShardRequest Payload →
    Option (RunShardOutcome μ Payload κ)
  | 0, _, _, _, _ => none
  | fuel + 1, network, hops, address, request =>
      match (hops 0).fault with
      | some (.unreachable code details message) =>
          some ⟨network, [], .error (.rpcError code details message)⟩
      | fault =>
          match (network address).models.get? request.modelName with
          | none => some ⟨network, [], .error (notLoaded request.modelName)⟩
          | some handle =>
              let computed := computePayload handle request fault
              let network := setHandle network address request.modelName computed.1
              let outcome : Option (RunShardOutcome μ Payload κ) :=
                match computed.2 with
                | .error err => some ⟨network, [], .ok (failedResponse err)⟩
                | .ok output =>
                    if request.pipelineMode then
                      if handle.nextWorkerAddress ≠ "" then
                        (runShardWire fuel network (fun k => hops (k + 1))
                          handle.nextWorkerAddress
                          (forwardRequest request output (hops 0))).map forwardedReply
                      else
                        some (deliverPayload network request output (hops 0))
                    else
                      some ⟨network, [], .ok ⟨true, "", some output,
                        (hops 0).elapsedMs, (hops 0).peakMemoryMb⟩⟩
              outcome.map (lostReply fault)

/-- The servicer's `DeliverResult`. -/
def receiveResult (store : ResultStore (PipelineResult Tensor))
    (request : DeliverResultRequest Payload) : ResultStore (PipelineResult Tensor) :=
  match request.outputTensor.tensor with
  | .error _ => store
  | .ok output =>
      (store.deliver request.requestId
        ⟨output, request.nodeLatenciesMs, request.nodePeakMemoryMb⟩).1

/-- `_run_shard_step` on the wire. -/
def runShardStepWire (runner : PipelineRunner) (fuel : Nat) (env : StepEnv κ)
    (inputTensor : Tensor) (resetCache : Bool) (backend : Backend μ Tensor κ) :
    Option (Backend μ Tensor κ × Except PyException (Option (PipelineResult Tensor))) :=
  let reserved := PipelineRunner.reserveSlot env backend
  match Payload.serialize inputTensor with
  | .error err => some (reserved, .error err)
  | .ok input =>
      match runner.plan.assignments.head? with
      | none => some (reserved, .error (.indexError "list index out of range"))
      | some first =>
          (runShardWire fuel reserved.network env.hops first.address
              (runner.runRequest env.requestId input resetCache)).map fun outcome =>
            let store := outcome.delivered.foldl receiveResult reserved.resultStore
            match outcome.reply with
            | .error err => (⟨outcome.network, store⟩, .error err)
            | .ok _ =>
                (⟨outcome.network, (store.wait env.requestId).1⟩,
                  (store.wait env.requestId).2)

/-- The loop of `generate_stream` over these steps. -/
def streamLoopWire (runner : PipelineRunner) (ops : TensorOps Tensor) (fuel : Nat)
    (env : Nat → StepEnv κ) : Nat → Nat → Tensor → Backend μ Tensor κ →
    Option (Backend μ Tensor κ × List (GenerationStep Tensor) × Option PyException)
  | 0, _, _, backend => some (backend, [], none)
  | remaining + 1, step, nextInput, backend =>
      match runShardStepWire runner fuel (env step) nextInput (step = 0) backend with
      | none => none
      | some (backend, result) =>
          match PipelineRunner.generationStep ops result with
          | .error err => some (backend, [], some err)
          | .ok yielded =>
              (streamLoopWire runner ops fuel env remaining (step + 1) yielded.tokenId
                backend).map fun (backend, rest, err) => (backend, yielded :: rest, err)

def generateWire (runner : PipelineRunner) (ops : TensorOps Tensor) (fuel : Nat)
    (env : Nat → StepEnv κ) (inputIds : Tensor) (maxNewTokens : Int)
    (backend : Backend μ Tensor κ) :
    Option (Backend μ Tensor κ × Except PyException (GenerationResult Tensor)) :=
  (streamLoopWire runner ops fuel env maxNewTokens.toNat 0 inputIds backend).map
    fun (backend, steps, err) =>
      match err with
      | some err => (backend, .error err)
      | none =>
          (backend, .ok ⟨steps.foldl (fun ids step => ops.cat ids step.tokenId) inputIds,
            steps.map GenerationStep.stepResult⟩)

end

/-- Tensors that a computation cannot tell apart. -/
structure SameValue (left right : Tensor) : Prop where
  shape : left.shape = right.shape
  dtype : left.dtype = right.dtype
  bytes : left.tobytes = right.tobytes

/-- There can be a numpy array of this shape. -/
def Fits (tensor : Tensor) : Prop :=
  tensor.shape.length ≤ maxDims ∧ arrayBytes tensor.shape tensor.dtype < 2 ^ 63

instance (tensor : Tensor) : Decidable (Fits tensor) :=
  inferInstanceAs (Decidable (_ ∧ _))

/-- How a tensor that fits looks on the wire. -/
def Payload.of (tensor : Tensor) : Payload :=
  ⟨tensor.tobytes, tensor.shape.map Int.ofNat, tensor.dtype.str⟩

theorem serialize_of {tensor : Tensor} (hfits : Fits tensor) :
    Payload.serialize tensor = .ok (Payload.of tensor) := by
  rw [Payload.serialize, serializeTensor_ok_iff.mpr ⟨hfits, rfl⟩]
  rfl

/-- The copy of a tensor that comes off the wire. -/
def received (tensor : Tensor) : Tensor :=
  match (Payload.of tensor).tensor with
  | .ok copy => copy
  | .error _ => tensor

/-- Two computations raise the same or return tensors of the same values. -/
def SameOutcome : Except PyException Tensor → Except PyException Tensor → Prop
  | .error left, .error right => left = right
  | .ok left, .ok right => SameValue left right
  | _, _ => False

/-- The computations of a shard read their input by its values, whatever strides it has, and
there can be numpy arrays of their outputs. -/
structure ReadsValues (μ : Type*) {κ : Type*} [ShardModel μ Tensor κ] : Prop where
  cache : ∀ (model : μ) {left right : Tensor} (cache : κ), SameValue left right →
    (ShardModel.forward model left cache).1 = (ShardModel.forward model right cache).1
  forward : ∀ (model : μ) {left right : Tensor} (cache : κ), SameValue left right →
    SameOutcome (ShardModel.forward model left cache).2 (ShardModel.forward model right cache).2
  forwardStateless : ∀ (model : μ) {left right : Tensor}, SameValue left right →
    SameOutcome (ShardModel.forwardStateless model left)
      (ShardModel.forwardStateless model right)
  fits : ∀ (model : μ) (input : Tensor) (cache : κ) {output : Tensor},
    (ShardModel.forward model input cache).2 = .ok output → Fits output
  fitsStateless : ∀ (model : μ) (input : Tensor) {output : Tensor},
    ShardModel.forwardStateless model input = .ok output → Fits output

/-- Tensors of the same values look the same on the wire. -/
theorem SameValue.payload {left right : Tensor} (hsame : SameValue left right) :
    Payload.of left = Payload.of right := by
  unfold Payload.of
  rw [hsame.shape, hsame.dtype, hsame.bytes]

theorem SameOutcome.payload {left right : Except PyException Tensor}
    (hsame : SameOutcome left right) : left.map Payload.of = right.map Payload.of := by
  cases left with
  | error err =>
      cases right with
      | error other =>
          have herr : err = other := hsame
          rw [herr]
      | ok output => exact hsame.elim
  | ok output =>
      cases right with
      | error err => exact hsame.elim
      | ok other =>
          have hvalue : SameValue output other := hsame
          simp only [Except.map, hvalue.payload]

theorem tensor_of {tensor : Tensor} (hfits : Fits tensor) :
    (Payload.of tensor).tensor = .ok (received tensor) := by
  obtain ⟨copy, hcopy, _⟩ := deserializeTensor_whole tensor.length_tobytes hfits.1 hfits.2
  have hok : (Payload.of tensor).tensor = .ok copy := hcopy
  rw [received, hok]

/-- Whatever comes off the wire for a tensor has its values. -/
theorem received_sameValue (tensor : Tensor) : SameValue (received tensor) tensor := by
  unfold received
  split
  · next copy hcopy =>
      have hdecoded := deserializeTensor_ok hcopy
      have hnone := unknownCount_ofNat tensor.shape
      have hdtype : copy.dtype = tensor.dtype :=
        Option.some.inj (hdecoded.lookup.symm.trans (dtypeMap_str tensor.dtype))
      have hshape : copy.shape = tensor.shape := by
        cases hdecoded.filled with
        | whole _ _ hfilled => exact hfilled.trans (fillUnknown_ofNat 0 tensor.shape)
        | inferred hone _ _ _ => exact absurd (hone.symm.trans hnone) one_ne_zero
      exact ⟨hshape, hdtype, hdecoded.bytes⟩
  · exact ⟨rfl, rfl, rfl⟩

def encodeResponse (response : RunShardResponse Tensor) : RunShardResponse Payload where
  success := response.success
  errorMessage := response.errorMessage
  outputTensor := response.outputTensor.map Payload.of
  latencyMs := response.latencyMs
  peakMemoryMb := response.peakMemoryMb

def encodeDelivery (request : DeliverResultRequest Tensor) : DeliverResultRequest Payload where
  requestId := request.requestId
  outputTensor := Payload.of request.outputTensor
  nodeLatenciesMs := request.nodeLatenciesMs
  nodePeakMemoryMb := request.nodePeakMemoryMb

/-- How a call looks on the wire. -/
def encodeOutcome {μ κ : Type*} (outcome : RunShardOutcome μ Tensor κ) :
    RunShardOutcome μ Payload κ where
  network := outcome.network
  delivered := outcome.delivered.map encodeDelivery
  reply := outcome.reply.map encodeResponse

section Calls

variable {μ κ : Type*}

theorem encodeOutcome_lostReply (fault : Option (HopFault κ))
    (outcome : RunShardOutcome μ Tensor κ) :
    encodeOutcome (lostReply fault outcome) = lostReply fault (encodeOutcome outcome) := by
  unfold lostReply
  split <;> rfl

theorem encodeOutcome_forwardedReply (outcome : RunShardOutcome μ Tensor κ) :
    encodeOutcome (forwardedReply outcome) = forwardedReply (encodeOutcome outcome) := by
  unfold forwardedReply encodeOutcome
  cases outcome.reply <;> rfl

theorem deliverPayload_of {network : Network μ κ} {request : RunShardRequest Tensor}
    {output : Tensor} {hop : Hop κ} (input : Payload) (hfits : Fits output) :
    deliverPayload network (withInput request input) (Payload.of output) hop =
      encodeOutcome (deliverResult network request output hop) := by
  unfold deliverPayload deliverResult
  rw [tensor_of hfits]
  cases hop.fault with
  | none => rfl
  | some fault => cases fault <;> rfl

variable [ShardModel μ Tensor κ]

/-- The computing part leaves the same cache and the same output on the wire. -/
theorem computeShard_congr (hreads : ReadsValues μ) {handle : ModelHandle μ κ}
    {request : RunShardRequest Tensor} {fault : Option (HopFault κ)} {input : Tensor}
    (hsame : SameValue input request.inputTensor) :
    (computeShard handle (withInput request input) fault).1 =
        (computeShard handle request fault).1 ∧
      (computeShard handle (withInput request input) fault).2.map Payload.of =
        (computeShard handle request fault).2.map Payload.of := by
  have hcache := hreads.cache handle.model (startCache handle request.resetCache) hsame
  have hforward :=
    (hreads.forward handle.model (startCache handle request.resetCache) hsame).payload
  have hstateless := (hreads.forwardStateless handle.model hsame).payload
  have hmode : (withInput request input).pipelineMode = request.pipelineMode := rfl
  unfold computeShard
  simp only [hmode]
  split
  · exact ⟨rfl, rfl⟩
  · exact ⟨rfl, rfl⟩
  · split
    · exact ⟨congrArg handle.setCache hcache, hforward⟩
    · by_cases hgenerate : request.generateMode = true
      · have hwire : (withInput request input).generateMode = true := hgenerate
        rw [if_pos hwire, if_pos hgenerate]
        exact ⟨rfl, rfl⟩
      · have hwire : ¬ (withInput request input).generateMode = true := hgenerate
        rw [if_neg hwire, if_neg hgenerate]
        exact ⟨rfl, hstateless⟩

theorem computeShard_fits (hreads : ReadsValues μ) {handle : ModelHandle μ κ}
    {request : RunShardRequest Tensor} {fault : Option (HopFault κ)} {output : Tensor}
    (hok : (computeShard handle request fault).2 = .ok output) : Fits output := by
  unfold computeShard at hok
  split at hok
  · cases hok
  · split at hok <;> cases hok
  · split at hok
    · exact hreads.fits handle.model _ _ hok
    · split at hok
      · cases hok
      · exact hreads.fitsStateless handle.model _ hok

/-- The computing part on the wire. -/
theorem computePayload_of (hreads : ReadsValues μ) {handle : ModelHandle μ κ}
    {request : RunShardRequest Tensor} {fault : Option (HopFault κ)}
    (hfits : Fits request.inputTensor) :
    computePayload handle (withInput request (Payload.of request.inputTensor)) fault =
      ((computeShard handle request fault).1,
        (computeShard handle request fault).2.map Payload.of) := by
  obtain ⟨hhandle, houtput⟩ := @computeShard_congr _ _ _ hreads handle request fault _
    (received_sameValue request.inputTensor)
  have hinput : (withInput request (Payload.of request.inputTensor)).inputTensor.tensor =
      .ok (received request.inputTensor) := tensor_of hfits
  have hserialize : (computeShard handle (withInput request (received request.inputTensor))
      fault).2 >>= Payload.serialize =
      (computeShard handle (withInput request (received request.inputTensor)) fault).2.map
        Payload.of := by
    cases hcompute : (computeShard handle (withInput request (received request.inputTensor))
        fault).2 with
    | error err => rfl
    | ok output => exact serialize_of (computeShard_fits hreads hcompute)
  unfold computePayload
  rw [hinput]
  exact Prod.ext hhandle (hserialize.trans houtput)

/-- A call on the wire goes as the call that passes tensors. -/
theorem runShardWire_of (hreads : ReadsValues μ) {fuel : Nat} {network : Network μ κ}
    {hops : Nat → Hop κ} {address : String} {request : RunShardRequest Tensor}
    (hfits : Fits request.inputTensor) :
    runShardWire fuel network hops address (withInput request (Payload.of request.inputTensor)) =
      (runShard fuel network hops address request).map encodeOutcome := by
  induction fuel generalizing network hops address request with
  | zero => rfl
  | succ fuel ih =>
      have hname (input : Payload) : (withInput request input).modelName = request.modelName := rfl
      have hmode (input : Payload) :
          (withInput request input).pipelineMode = request.pipelineMode := rfl
      by_cases hunreached : ∃ code details message,
          (hops 0).fault = some (.unreachable code details message)
      · obtain ⟨code, details, message, hfault⟩ := hunreached
        rw [runShardWire, runShard, hfault]
        rfl
      · have hreached : ∀ code details message,
            (hops 0).fault ≠ some (.unreachable code details message) :=
          fun code details message hfault => hunreached ⟨code, details, message, hfault⟩
        rw [runShard_reached hreached, runShardWire]
        split
        · next hfault => exact absurd hfault (hreached _ _ _)
        · rw [hname]
          cases (network address).models.get? request.modelName with
          | none => rfl
          | some handle =>
              simp only [computePayload_of hreads hfits, hmode]
              cases hcompute : (computeShard handle request (hops 0).fault).2 with
              | error err =>
                  simp only [Except.map, Option.map_some, encodeOutcome_lostReply]
                  rfl
              | ok output =>
                  have hout := computeShard_fits hreads hcompute
                  simp only [Except.map]
                  split
                  · split
                    · have hinner := @ih (setHandle network address request.modelName
                        (computeShard handle request (hops 0).fault).1) (fun k => hops (k + 1))
                        handle.nextWorkerAddress (forwardRequest request output (hops 0)) hout
                      have hforward : forwardRequest
                          (withInput request (Payload.of request.inputTensor))
                          (Payload.of output) (hops 0) =
                          withInput (forwardRequest request output (hops 0))
                            (Payload.of output) := rfl
                      rw [hforward]
                      have hinput : (forwardRequest request output (hops 0)).inputTensor =
                        output := rfl
                      rw [hinput] at hinner
                      rw [hinner]
                      simp only [Option.map_map]
                      congr 1
                      funext outcome
                      simp only [Function.comp_apply, encodeOutcome_lostReply,
                        encodeOutcome_forwardedReply]
                    · rw [deliverPayload_of _ hout, Option.map_some, Option.map_some,
                        Option.map_some, encodeOutcome_lostReply]
                  · simp only [Option.map_some, encodeOutcome_lostReply]
                    rfl

/-- Every delivered tensor fits in memory. -/
theorem runShard_delivered_fits (hreads : ReadsValues μ) {fuel : Nat} {network : Network μ κ}
    {hops : Nat → Hop κ} {address : String} {request : RunShardRequest Tensor}
    (hmode : request.pipelineMode = true) {outcome : RunShardOutcome μ Tensor κ}
    (hrun : runShard fuel network hops address request = some outcome) :
    ∀ delivery ∈ outcome.delivered, Fits delivery.outputTensor := by
  induction fuel generalizing network hops address request outcome with
  | zero => cases hrun
  | succ fuel ih =>
      have hlost (result : RunShardOutcome μ Tensor κ) :
          (lostReply (hops 0).fault result).delivered = result.delivered := by
        unfold lostReply
        split <;> rfl
      have hempty : ∀ delivery ∈ ([] : List (DeliverResultRequest Tensor)),
          Fits delivery.outputTensor := fun _ hmem => absurd hmem List.not_mem_nil
      cases (runShard_iff_hopRun hmode).mp hrun with
      | unreachable _ => exact hempty
      | notLoaded _ _ => exact hempty
      | failed _ _ _ =>
          rw [hlost]
          exact hempty
      | @forwarded handle output inner _ _ _ _ hinner =>
          have hkept : (forwardedReply inner).delivered = inner.delivered := by
            unfold forwardedReply
            split <;> rfl
          rw [hlost, hkept]
          have hforward : (forwardRequest request output (hops 0)).pipelineMode = true := hmode
          exact ih hforward hinner
      | @delivered handle output _ _ hcompute _ =>
          rw [hlost]
          unfold deliverResult
          split
          · exact hempty
          · intro delivery hmem
            obtain rfl := List.mem_singleton.mp hmem
            exact computeShard_fits hreads hcompute

end Calls

/-- A result as it is in the store of the orchestrator. -/
def receivedResult (result : PipelineResult Tensor) : PipelineResult Tensor :=
  { result with outputTensor := received result.outputTensor }

def receivedStep (step : GenerationStep Tensor) : GenerationStep Tensor :=
  { step with stepResult := receivedResult step.stepResult }

def receivedBackend {μ κ : Type*} (backend : Backend μ Tensor κ) : Backend μ Tensor κ :=
  { backend with resultStore := backend.resultStore.map receivedResult }

section Runs

variable {μ κ : Type*} [ShardModel μ Tensor κ]

theorem receiveResult_of {store : ResultStore (PipelineResult Tensor)}
    {deliveries : List (DeliverResultRequest Tensor)}
    (hfits : ∀ delivery ∈ deliveries, Fits delivery.outputTensor) :
    (deliveries.map encodeDelivery).foldl receiveResult (store.map receivedResult) =
      (deliveries.foldl PipelineRunner.deliverResult store).map receivedResult := by
  induction deliveries generalizing store with
  | nil => rfl
  | cons delivery rest ih =>
      have hone : receiveResult (store.map receivedResult) (encodeDelivery delivery) =
          (PipelineRunner.deliverResult store delivery).map receivedResult := by
        unfold receiveResult PipelineRunner.deliverResult
        have houtput : (encodeDelivery delivery).outputTensor.tensor =
            .ok (received delivery.outputTensor) := tensor_of (hfits _ List.mem_cons_self)
        rw [houtput, ResultStore.map_deliver]
        rfl
      rw [List.map_cons, List.foldl_cons, hone, List.foldl_cons]
      exact ih fun later hmem => hfits later (List.mem_cons_of_mem _ hmem)

/-- A step on the wire goes as the step that passes tensors. -/
theorem runShardStepWire_of (hreads : ReadsValues μ) {runner : PipelineRunner} {fuel : Nat}
    {env : StepEnv κ} {inputTensor : Tensor} (hfits : Fits inputTensor) {resetCache : Bool}
    {backend : Backend μ Tensor κ} :
    runShardStepWire runner fuel env inputTensor resetCache (receivedBackend backend) =
      (runner.runShardStep fuel env inputTensor resetCache backend).map fun (after, result) =>
        (receivedBackend after, result.map (Option.map receivedResult)) := by
  have hreserved : PipelineRunner.reserveSlot env (receivedBackend backend) =
      receivedBackend (PipelineRunner.reserveSlot env backend) := by
    unfold PipelineRunner.reserveSlot receivedBackend
    rw [ResultStore.map_createSlot]
  unfold runShardStepWire PipelineRunner.runShardStep PipelineRunner.finishShardStep
  rw [hreserved, serialize_of hfits]
  cases runner.plan.assignments.head? with
  | none => rfl
  | some first =>
      have hwire := @runShardWire_of μ κ _ hreads fuel backend.network env.hops first.address
        (runner.runRequest env.requestId inputTensor resetCache) hfits
      have hrequest : withInput (runner.runRequest env.requestId inputTensor resetCache)
          (Payload.of inputTensor) =
          runner.runRequest env.requestId (Payload.of inputTensor) resetCache := rfl
      have hinput : (runner.runRequest env.requestId inputTensor resetCache).inputTensor =
          inputTensor := rfl
      rw [hinput, hrequest] at hwire
      show Option.map _ (runShardWire fuel backend.network env.hops first.address _) = _
      rw [hwire, Option.map_map, Option.map_map]
      apply Option.map_congr
      intro outcome hrun
      have hdelivered := runShard_delivered_fits hreads
        (runner.runRequest_pipelineMode env.requestId inputTensor resetCache) hrun
      have hstore := @receiveResult_of (PipelineRunner.reserveSlot env backend).resultStore _
        hdelivered
      simp only [Function.comp_apply, encodeOutcome, receivedBackend, hstore]
      cases outcome.reply with
      | error err => rfl
      | ok response => simp only [Except.map, ResultStore.map_wait]

/-- What generation does with tensors depends on their values, and there can be a numpy
array of a token. -/
structure OpsReadValues (ops : TensorOps Tensor) : Prop where
  argmaxLast : ∀ {left right : Tensor}, SameValue left right →
    ops.argmaxLast left = ops.argmaxLast right
  fits : ∀ {logits token : Tensor}, ops.argmaxLast logits = .ok token → Fits token

theorem generationStep_received {ops : TensorOps Tensor} (hops : OpsReadValues ops)
    (result : Except PyException (Option (PipelineResult Tensor))) :
    PipelineRunner.generationStep ops (result.map (Option.map receivedResult)) =
      (PipelineRunner.generationStep ops result).map receivedStep := by
  rcases result with err | _ | result
  · rfl
  · rfl
  · have hargmax := hops.argmaxLast (received_sameValue result.outputTensor)
    simp only [PipelineRunner.generationStep, Except.map, Option.map_some]
    have houtput : (receivedResult result).outputTensor = received result.outputTensor := rfl
    rw [houtput, hargmax]
    cases ops.argmaxLast result.outputTensor <;> rfl

theorem streamLoopWire_of (hreads : ReadsValues μ) {runner : PipelineRunner}
    {ops : TensorOps Tensor} (hops : OpsReadValues ops) {fuel : Nat} {env : Nat → StepEnv κ}
    {remaining step : Nat} {nextInput : Tensor} (hfits : Fits nextInput)
    {backend : Backend μ Tensor κ} :
    streamLoopWire runner ops fuel env remaining step nextInput (receivedBackend backend) =
      (runner.streamLoop ops fuel env remaining step nextInput backend).map
        fun (after, steps, err) => (receivedBackend after, steps.map receivedStep, err) := by
  induction remaining generalizing step nextInput backend with
  | zero => rfl
  | succ remaining ih =>
      rw [streamLoopWire, PipelineRunner.streamLoop, runShardStepWire_of hreads hfits]
      cases runner.runShardStep fuel (env step) nextInput (step = 0) backend with
      | none => rfl
      | some outcome =>
          obtain ⟨after, result⟩ := outcome
          simp only [Option.map_some, generationStep_received hops]
          cases hyield : PipelineRunner.generationStep ops result with
          | error err => rfl
          | ok yielded =>
              have htoken := hops.fits (PipelineRunner.generationStep_ok hyield).2
              have hrest := @ih (step + 1) yielded.tokenId htoken after
              simp only [Except.map]
              show Option.map _ (streamLoopWire runner ops fuel env remaining (step + 1)
                yielded.tokenId (receivedBackend after)) = _
              rw [hrest, Option.map_map, Option.map_map]
              rfl

/-- Serialisation is transparent: whatever goes wrong in a generation, it comes to the same
end on the wire as it would if the processes passed tensors to each other. The caches it
leaves at the workers, the sequence it returns and the exception it raises are the same, and
the results it collects have the same values, in the copies the orchestrator has received. -/
theorem wire_generation (hreads : ReadsValues μ) (runner : PipelineRunner)
    (ops : TensorOps Tensor) (hops : OpsReadValues ops) (fuel : Nat) (env : Nat → StepEnv κ)
    (inputIds : Tensor) (hfits : Fits inputIds) (maxNewTokens : Int)
    (backend : Backend μ Tensor κ) :
    (∀ result : PipelineResult Tensor,
      SameValue (receivedResult result).outputTensor result.outputTensor) ∧
    generateWire runner ops fuel env inputIds maxNewTokens (receivedBackend backend) =
      (runner.generate ops fuel env inputIds maxNewTokens backend).map fun (after, result) =>
        (receivedBackend after, result.map fun generated =>
          { generated with stepResults := generated.stepResults.map receivedResult }) := by
  refine ⟨fun result => received_sameValue result.outputTensor, ?_⟩
  have hids (steps : List (GenerationStep Tensor)) (ids : Tensor) :
      (steps.map receivedStep).foldl (fun ids step => ops.cat ids step.tokenId) ids =
        steps.foldl (fun ids step => ops.cat ids step.tokenId) ids := by
    rw [List.foldl_map]
    rfl
  unfold generateWire PipelineRunner.generate PipelineRunner.generateStream
  rw [streamLoopWire_of hreads hops hfits, Option.map_map, Option.map_map]
  congr 1
  funext ⟨after, steps, err⟩
  simp only [Function.comp_apply]
  cases err with
  | some err => rfl
  | none =>
      simp only [hids, Except.map, List.map_map]
      rfl

end Runs

/-- A shard that passes its input on and counts its steps. -/
structure EchoShard where

instance : ShardModel EchoShard Tensor Nat where
  newCache _ := 0
  forward _ input steps :=
    (steps + 1, if Fits input then .ok input else .error (.runtimeError "not enough memory"))
  forwardStateless _ input :=
    if Fits input then .ok input else .error (.runtimeError "not enough memory")

theorem echo_sameOutcome {left right : Tensor} (hsame : SameValue left right) :
    SameOutcome
      (if Fits left then .ok left else .error (.runtimeError "not enough memory"))
      (if Fits right then .ok right else .error (.runtimeError "not enough memory")) := by
  have hfits : Fits left ↔ Fits right := by
    unfold Fits
    rw [hsame.shape, hsame.dtype]
  rw [if_congr hfits rfl rfl]
  split
  · exact hsame
  · exact rfl

theorem echo_fits {input output : Tensor}
    (hok : (if Fits input then .ok input
      else .error (.runtimeError "not enough memory") : Except PyException Tensor) = .ok output) :
    Fits output := by
  split at hok
  · next hfits =>
      obtain rfl := Except.ok.inj hok
      exact hfits
  · cases hok

theorem echo_readsValues : ReadsValues EchoShard where
  cache _ _ _ _ _ := rfl
  forward _ _ _ _ hsame := echo_sameOutcome hsame
  forwardStateless _ _ _ hsame := echo_sameOutcome hsame
  fits _ _ _ _ hok := echo_fits hok
  fitsStateless _ _ _ hok := echo_fits hok

def tokenTensor (token : UInt8) : Tensor where
  dtype := .int64
  view := .ofElements [1, 1] [#v[token, 0, 0, 0, 0, 0, 0, 0]] rfl

theorem tokenTensor_fits (token : UInt8) : Fits (tokenTensor token) := by
  show [1, 1].length ≤ maxDims ∧ arrayBytes [1, 1] .int64 < 2 ^ 63
  decide

/-- The token is the number of bytes the logits have. -/
def echoOps : TensorOps Tensor where
  argmaxLast logits := .ok (tokenTensor (UInt8.ofNat logits.tobytes.length))
  cat ids token :=
    let data := ids.tobytes ++ token.tobytes
    match deserializeTensor data [1, data.length / 8] "torch.int64" with
    | .ok sequence => sequence
    | .error _ => ids

theorem echo_opsReadValues : OpsReadValues echoOps where
  argmaxLast hsame := by simp only [echoOps, hsame.bytes]
  fits hok := by
    obtain rfl := Except.ok.inj hok
    exact tokenTensor_fits _

def echoHandle (nextWorkerAddress : String) : ModelHandle EchoShard Nat :=
  ⟨"m", ⟨⟩, 10, 0, 2, true, false, nextWorkerAddress, none⟩

def echoBackend : Backend EchoShard Tensor Nat where
  network := fun address =>
    ⟨address, Dict.empty.set "m"
      (echoHandle (if address = "10.0.0.1:50051" then "10.0.0.2:50051" else "")), ∅⟩
  resultStore := .create

def echoEnv (step : Nat) : StepEnv Nat :=
  ⟨s!"request-{step}", fun _ => ⟨1, 10, none⟩⟩

/-- Two tokens through two workers: the prompt of 8 bytes and a first token of 8 bytes. -/
theorem wire_generation_echo :
    ∃ after generated,
      generateWire twoNodeRunner echoOps 3 echoEnv (tokenTensor 5) 2
          (receivedBackend echoBackend) = some (after, .ok generated) ∧
        generated.outputIds.tobytes =
          [5, 0, 0, 0, 0, 0, 0, 0, 8, 0, 0, 0, 0, 0, 0, 0, 8, 0, 0, 0, 0, 0, 0, 0] ∧
        generated.stepResults.length = 2 := by
  have hecho : (twoNodeRunner.generate echoOps 3 echoEnv (tokenTensor 5) 2 echoBackend).map
      (fun outcome => outcome.2.toOption.map fun generated =>
        (generated.outputIds.tobytes, generated.stepResults.length)) =
      some (some
        ([5, 0, 0, 0, 0, 0, 0, 0, 8, 0, 0, 0, 0, 0, 0, 0, 8, 0, 0, 0, 0, 0, 0, 0], 2)) := by
    decide +kernel
  obtain ⟨_, hwire⟩ := wire_generation echo_readsValues twoNodeRunner echoOps
    echo_opsReadValues 3 echoEnv (tokenTensor 5) (tokenTensor_fits 5) 2 echoBackend
  obtain ⟨⟨after, result⟩, hrun, hresult⟩ := Option.map_eq_some_iff.mp hecho
  cases result with
  | error err => cases hresult
  | ok generated =>
      obtain ⟨hids, hsteps⟩ := Prod.mk.inj (Option.some.inj hresult)
      rw [hrun] at hwire
      refine ⟨_, _, hwire, hids, ?_⟩
      rw [List.length_map]
      exact hsteps

end PiSSM.Pipeline
