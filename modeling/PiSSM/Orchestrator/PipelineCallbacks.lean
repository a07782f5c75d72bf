import PiSSM.Inference.TensorUtils
import PiSSM.Orchestrator.PipelineLoad
import PiSSM.Orchestrator.PipelineRunner
import PiSSM.Orchestrator.ResultSlots

/-!
The callback servicer over the shared slot map. `DeliverResult` and `ReportShardReady`
make a result of the request, hand it to `ResultStore.deliver` and answer. The steps of a
handler interleave with those of the other handlers and of the threads that create slots
and wait for them.
-/

namespace PiSSM.Orchestrator

open PiSSM.Lib PiSSM.Inference

/-- A `DeliverResultRequest` as it is on the wire. -/
structure DeliverResultMessage where
  requestId : String
  outputTensor : List UInt8
  outputShape : List Int
  outputDtype : String
  nodeLatenciesMs : List ℚ
  nodePeakMemoryMb : List Nat

inductive StoredResult where
  | pipeline (result : PipelineResult Tensor)
  | shardReady (result : ShardReadyResult)

inductive Callback where
  | deliverResult (request : DeliverResultMessage)
  | reportShardReady (request : ShardReadyRequest)

namespace Callback

/-- The id the handler delivers to. -/
def slotId : Callback → String
  | .deliverResult request => request.requestId
  | .reportShardReady request => shardReadyKey request.modelName request.nodeId

/-- The result the handler makes of its request. -/
def result : Callback → Except PyException StoredResult
  | .deliverResult request => do
      let outputTensor ←
        deserializeTensor request.outputTensor request.outputShape request.outputDtype
      return .pipeline ⟨outputTensor, request.nodeLatenciesMs, request.nodePeakMemoryMb⟩
  | .reportShardReady request =>
      .ok (.shardReady ⟨request.success, request.errorMessage, request.memoryUsedMb,
        request.layersLoaded⟩)

end Callback

inductive HandlerPhase where
  | absent
  /-- In `ResultStore.deliver`, or about to call it. -/
  | delivering (callback : Callback) (result : StoredResult)
  | answered (callback : Callback) (acknowledged : Bool)
  | raised (err : PyException)

/-- `matched` is a history variable: the calls that found a slot for their id when they
were handled. -/
structure CallbackState where
  store : ResultSlots StoredResult
  handlers : Nat → HandlerPhase
  matched : Finset Nat

inductive CallbackLabel where
  | createSlot (requestId : String)
  | lookup (thread : Nat) (requestId : String)
  | wake (thread : Nat)
  | expire (thread : Nat)
  | pop (thread : Nat)
  | receive (call : Nat) (callback : Callback)
  | deliver (call : Nat)
  | setEvent (call : Nat)
  | answer (call : Nat)

namespace CallbackState

def create : CallbackState where
  store := ResultSlots.create
  handlers := fun _ => .absent
  matched := ∅

def setHandler (state : CallbackState) (call : Nat) (phase : HandlerPhase) : CallbackState :=
  { state with handlers := Function.update state.handlers call phase }

/-- The slot a callback is for, if there is one at this moment. -/
def slot? (state : CallbackState) (callback : Callback) : Option (Nat × Option StoredResult) :=
  state.store.slots.get? callback.slotId

/-- The code of a handler up to its call of `deliver`. -/
def receive (state : CallbackState) (call : Nat) (callback : Callback) :
    Option CallbackState :=
  match state.handlers call with
  | .absent =>
      match callback.result with
      | .error err => some (state.setHandler call (.raised err))
      | .ok result => some (state.setHandler call (.delivering callback result))
  | _ => none

def deliver (state : CallbackState) (call : Nat) : Option CallbackState :=
  match state.handlers call with
  | .delivering callback result =>
      (state.store.deliver call callback.slotId result).map fun store =>
        { state with
          store := store
          matched :=
            if (state.slot? callback).isSome then insert call state.matched else state.matched }
  | _ => none

def setEvent (state : CallbackState) (call : Nat) : Option CallbackState :=
  match state.handlers call with
  | .delivering _ _ => (state.store.setEvent call).map fun store => { state with store := store }
  | _ => none

/-- The end of a handler: the answer does not depend on what `deliver` has returned. -/
def answer (state : CallbackState) (call : Nat) : Option CallbackState :=
  match state.handlers call, state.store.deliveries call with
  | .delivering callback _, .returned _ _ _ =>
      some (state.setHandler call (.answered callback true))
  | _, _ => none

/-- A step of a thread that creates slots or waits. -/
def callerStep (state : CallbackState) (label : SlotLabel StoredResult) :
    Option CallbackState :=
  (state.store.step label).map fun store => { state with store := store }

def step (state : CallbackState) : CallbackLabel → Option CallbackState
  | .createSlot requestId => state.callerStep (.createSlot requestId)
  | .lookup thread requestId => state.callerStep (.lookup thread requestId)
  | .wake thread => state.callerStep (.wake thread)
  | .expire thread => state.callerStep (.expire thread)
  | .pop thread => state.callerStep (.pop thread)
  | .receive call callback => state.receive call callback
  | .deliver call => state.deliver call
  | .setEvent call => state.setEvent call
  | .answer call => state.answer call

def system : TransitionSystem CallbackState CallbackLabel where
  init state := state = create
  step := step

/-- What one step can do. -/
inductive Move (state : CallbackState) : CallbackLabel → CallbackState → Prop where
  /-- The callers leave the deliveries alone. -/
  | caller {label : CallbackLabel} {store : ResultSlots StoredResult}
      (hcaller : ∀ call, label ≠ .deliver call)
      (hdeliveries : store.deliveries = state.store.deliveries) :
      Move state label { state with store := store }
  | received {call : Nat} {callback : Callback} {phase : HandlerPhase}
      (habsent : state.handlers call = .absent)
      (hphase : ∀ other acknowledged, phase ≠ .answered other acknowledged) :
      Move state (.receive call callback) (state.setHandler call phase)
  | missed {call : Nat} {callback : Callback} {result : StoredResult}
      (hhandler : state.handlers call = .delivering callback result)
      (hthread : state.store.deliveries call = .absent)
      (hslot : state.slot? callback = none) :
      Move state (.deliver call)
        { state with
          store := state.store.setDelivery call (.returned callback.slotId result false) }
  | stored {call event : Nat} {callback : Callback} {result : StoredResult}
      {pending : Option StoredResult}
      (hhandler : state.handlers call = .delivering callback result)
      (hthread : state.store.deliveries call = .absent)
      (hslot : state.slot? callback = some (event, pending)) :
      Move state (.deliver call)
        { state with
          store := { state.store.setDelivery call (.setting callback.slotId result event) with
            slots := state.store.slots.set callback.slotId (event, some result) }
          matched := insert call state.matched }
  | eventSet {call event : Nat} {callback : Callback} {result other : StoredResult}
      {requestId : String}
      (hhandler : state.handlers call = .delivering callback result)
      (hthread : state.store.deliveries call = .setting requestId other event) :
      Move state (.setEvent call)
        { state with
          store := { state.store.setDelivery call (.returned requestId other true) with
            fired := insert event state.store.fired } }
  | answered {call : Nat} {callback : Callback} {result other : StoredResult}
      {requestId : String} {answer : Bool}
      (hhandler : state.handlers call = .delivering callback result)
      (hthread : state.store.deliveries call = .returned requestId other answer) :
      Move state (.answer call) (state.setHandler call (.answered callback true))

variable {state next : CallbackState}

theorem callerStep_move {label : CallbackLabel} {slotLabel : SlotLabel StoredResult}
    (hcaller : ∀ call, label ≠ .deliver call)
    (hdeliver : ∀ call requestId result, slotLabel ≠ .deliver call requestId result)
    (hset : ∀ call, slotLabel ≠ .setEvent call)
    (hstep : state.callerStep slotLabel = some next) : Move state label next := by
  obtain ⟨store, hstore, rfl⟩ := Option.map_eq_some_iff.mp hstep
  apply Move.caller hcaller
  cases ResultSlots.step_move hstore with
  | refused _ _ | stored _ _ => exact absurd rfl (hdeliver _ _ _)
  | eventSet _ => exact absurd rfl (hset _)
  | created _ | noSlot _ _ | found _ _ | waited _ _ _ | popped _ => rfl

theorem receive_move {call : Nat} {callback : Callback}
    (hstep : state.receive call callback = some next) :
    Move state (.receive call callback) next := by
  simp only [receive] at hstep
  split at hstep
  · next habsent =>
      split at hstep
      · obtain rfl := Option.some.inj hstep
        exact .received habsent nofun
      · obtain rfl := Option.some.inj hstep
        exact .received habsent nofun
  · cases hstep

theorem deliver_move {call : Nat} (hstep : state.deliver call = some next) :
    Move state (.deliver call) next := by
  simp only [deliver] at hstep
  split at hstep
  · next callback result hhandler =>
      obtain ⟨store, hstore, rfl⟩ := Option.map_eq_some_iff.mp hstep
      have hmove : ResultSlots.Move state.store (.deliver call callback.slotId result) store :=
        ResultSlots.step_move hstore
      cases hmove with
      | refused hthread hslot =>
          have hnone : state.slot? callback = none := hslot
          rw [hnone]
          exact .missed hhandler hthread hnone
      | stored hthread hslot =>
          have hsome : state.slot? callback = some (_, _) := hslot
          rw [hsome]
          exact .stored hhandler hthread hsome
      | waited hlabel _ _ => split at hlabel <;> cases hlabel
  · cases hstep

theorem setEvent_move {call : Nat} (hstep : state.setEvent call = some next) :
    Move state (.setEvent call) next := by
  simp only [setEvent] at hstep
  split at hstep
  · next hhandler =>
      obtain ⟨store, hstore, rfl⟩ := Option.map_eq_some_iff.mp hstep
      have hmove : ResultSlots.Move state.store (.setEvent call) store :=
        ResultSlots.step_move hstore
      cases hmove with
      | eventSet hthread => exact .eventSet hhandler hthread
      | waited hlabel _ _ => split at hlabel <;> cases hlabel
  · cases hstep

theorem answer_move {call : Nat} (hstep : state.answer call = some next) :
    Move state (.answer call) next := by
  simp only [answer] at hstep
  split at hstep
  · next hhandler hthread =>
      obtain rfl := Option.some.inj hstep
      exact .answered hhandler hthread
  · cases hstep

/-- Every step is one of these moves. -/
theorem step_move {label : CallbackLabel} (hstep : state.step label = some next) :
    Move state label next := by
  cases label with
  | createSlot _ | lookup _ _ | wake _ | expire _ | pop _ =>
      exact callerStep_move (by nofun) (by nofun) (by nofun) hstep
  | receive call callback => exact receive_move hstep
  | deliver call => exact deliver_move hstep
  | setEvent call => exact setEvent_move hstep
  | answer call => exact answer_move hstep

end CallbackState

end PiSSM.Orchestrator
