import PiSSM.Exceptions
import PiSSM.Lib.Dict
import PiSSM.Lib.TransitionSystem

/-!
The slot map with its calls taken apart into the steps other threads can come
between: `deliver` stores the result under the lock and sets the event after it,
and `wait` looks its slot up, waits for the event, and pops the slot. The calls
of `deliver` and of `wait` are numbered, and each number is used for one call.
-/

namespace PiSSM.Orchestrator

open PiSSM.Lib

/-- A call of `deliver`: between its locked section and `event.set()`, or with
its answer. -/
inductive DeliverPhase (ρ : Type*) where
  | absent
  | setting (requestId : String) (result : ρ) (event : Nat)
  | returned (requestId : String) (result : ρ) (answer : Bool)
  deriving DecidableEq

/-- A call of `wait`: blocked on the event it has found, about to pop its slot
with what the event wait has returned, or with its outcome. -/
inductive WaitPhase (ρ : Type*) where
  | absent
  | blocked (requestId : String) (event : Nat)
  | popping (requestId : String) (fired : Bool)
  | ended (requestId : String) (outcome : Except PyException (Option ρ))
  deriving DecidableEq

def DeliverPhase.requestId? {ρ : Type*} : DeliverPhase ρ → Option String
  | .absent => none
  | .setting requestId _ _ | .returned requestId _ _ => some requestId

def WaitPhase.requestId? {ρ : Type*} : WaitPhase ρ → Option String
  | .absent => none
  | .blocked requestId _ | .popping requestId _ | .ended requestId _ => some requestId

/-- Whether a call of `deliver` has put this result into the slot of this id. -/
def DeliverPhase.Stored {ρ : Type*} (requestId : String) (result : ρ)
    (phase : DeliverPhase ρ) : Prop :=
  (∃ event, phase = .setting requestId result event) ∨ phase = .returned requestId result true

/-- `created` is a history variable: the ids a slot has been created for. -/
structure ResultSlots (ρ : Type*) where
  slots : Dict String (Nat × Option ρ)
  fired : Finset Nat
  nextEvent : Nat
  created : Finset String
  deliveries : Nat → DeliverPhase ρ
  waits : Nat → WaitPhase ρ

inductive SlotLabel (ρ : Type*) where
  | createSlot (requestId : String)
  | deliver (thread : Nat) (requestId : String) (result : ρ)
  | setEvent (thread : Nat)
  | lookup (thread : Nat) (requestId : String)
  | wake (thread : Nat)
  | expire (thread : Nat)
  | pop (thread : Nat)

namespace ResultSlots

variable {ρ : Type*}

def create : ResultSlots ρ where
  slots := Dict.empty
  fired := ∅
  nextEvent := 0
  created := ∅
  deliveries := fun _ => .absent
  waits := fun _ => .absent

def setDelivery (state : ResultSlots ρ) (thread : Nat) (phase : DeliverPhase ρ) :
    ResultSlots ρ :=
  { state with deliveries := Function.update state.deliveries thread phase }

def setWait (state : ResultSlots ρ) (thread : Nat) (phase : WaitPhase ρ) : ResultSlots ρ :=
  { state with waits := Function.update state.waits thread phase }

def createSlot (state : ResultSlots ρ) (requestId : String) : ResultSlots ρ :=
  { state with
    slots := state.slots.set requestId (state.nextEvent, none)
    nextEvent := state.nextEvent + 1
    created := insert requestId state.created }

/-- The locked section of `deliver`. -/
def deliver (state : ResultSlots ρ) (thread : Nat) (requestId : String) (result : ρ) :
    Option (ResultSlots ρ) :=
  match state.deliveries thread with
  | .absent =>
      match state.slots.get? requestId with
      | none => some (state.setDelivery thread (.returned requestId result false))
      | some (event, _) =>
          some { state.setDelivery thread (.setting requestId result event) with
            slots := state.slots.set requestId (event, some result) }
  | _ => none

def setEvent (state : ResultSlots ρ) (thread : Nat) : Option (ResultSlots ρ) :=
  match state.deliveries thread with
  | .setting requestId result event =>
      some { state.setDelivery thread (.returned requestId result true) with
        fired := insert event state.fired }
  | _ => none

/-- The first locked section of `wait`. -/
def lookup (state : ResultSlots ρ) (thread : Nat) (requestId : String) :
    Option (ResultSlots ρ) :=
  match state.waits thread with
  | .absent =>
      match state.slots.get? requestId with
      | none =>
          some (state.setWait thread (.ended requestId
            (.error (.keyError s!"No slot for request_id '{requestId}'"))))
      | some (event, _) => some (state.setWait thread (.blocked requestId event))
  | _ => none

/-- `event.wait` returns: true once the event is set, false when the time is up
and the event has not been set. -/
def eventWait (state : ResultSlots ρ) (thread : Nat) (fired : Bool) :
    Option (ResultSlots ρ) :=
  match state.waits thread with
  | .blocked requestId event =>
      if (event ∈ state.fired) ↔ fired then
        some (state.setWait thread (.popping requestId fired))
      else none
  | _ => none

/-- The outcome of `wait` from what it has popped. -/
def waitOutcome (requestId : String) (fired : Bool) (popped : Option (Nat × Option ρ)) :
    Except PyException (Option ρ) :=
  if fired then .ok (popped.bind Prod.snd)
  else .error (.timeoutError s!"Timed out waiting for pipeline result '{requestId}'")

/-- The second locked section of `wait`. -/
def pop (state : ResultSlots ρ) (thread : Nat) : Option (ResultSlots ρ) :=
  match state.waits thread with
  | .popping requestId fired =>
      some { state.setWait thread
          (.ended requestId (waitOutcome requestId fired (state.slots.get? requestId))) with
        slots := state.slots.erase requestId }
  | _ => none

def step (state : ResultSlots ρ) : SlotLabel ρ → Option (ResultSlots ρ)
  | .createSlot requestId => some (state.createSlot requestId)
  | .deliver thread requestId result => state.deliver thread requestId result
  | .setEvent thread => state.setEvent thread
  | .lookup thread requestId => state.lookup thread requestId
  | .wake thread => state.eventWait thread true
  | .expire thread => state.eventWait thread false
  | .pop thread => state.pop thread

/-- All interleavings, from an empty map. -/
def system (ρ : Type*) : TransitionSystem (ResultSlots ρ) (SlotLabel ρ) where
  init state := state = create
  step := step

/-- The id a step is about. -/
def labelId (state : ResultSlots ρ) : SlotLabel ρ → Option String
  | .createSlot requestId | .deliver _ requestId _ | .lookup _ requestId => some requestId
  | .setEvent thread => (state.deliveries thread).requestId?
  | .wake thread | .expire thread | .pop thread => (state.waits thread).requestId?

/-- Every id is created once, before it is delivered or waited on, and is waited
on by at most one thread. -/
def SingleUse (state : ResultSlots ρ) : SlotLabel ρ → Prop
  | .createSlot requestId => requestId ∉ state.created
  | .deliver _ requestId _ => requestId ∈ state.created
  | .lookup _ requestId =>
      requestId ∈ state.created ∧
        ∀ thread, (state.waits thread).requestId? ≠ some requestId
  | .setEvent _ | .wake _ | .expire _ | .pop _ => True

/-- What one step can do. -/
inductive Move (state : ResultSlots ρ) : SlotLabel ρ → ResultSlots ρ → Prop where
  | created (requestId : String) :
      Move state (.createSlot requestId) (state.createSlot requestId)
  | refused {thread : Nat} {requestId : String} {result : ρ}
      (hthread : state.deliveries thread = .absent)
      (hslot : state.slots.get? requestId = none) :
      Move state (.deliver thread requestId result)
        (state.setDelivery thread (.returned requestId result false))
  | stored {thread event : Nat} {requestId : String} {result : ρ} {pending : Option ρ}
      (hthread : state.deliveries thread = .absent)
      (hslot : state.slots.get? requestId = some (event, pending)) :
      Move state (.deliver thread requestId result)
        { state.setDelivery thread (.setting requestId result event) with
          slots := state.slots.set requestId (event, some result) }
  | eventSet {thread event : Nat} {requestId : String} {result : ρ}
      (hthread : state.deliveries thread = .setting requestId result event) :
      Move state (.setEvent thread)
        { state.setDelivery thread (.returned requestId result true) with
          fired := insert event state.fired }
  | noSlot {thread : Nat} {requestId : String} {err : PyException}
      (hthread : state.waits thread = .absent)
      (hslot : state.slots.get? requestId = none) :
      Move state (.lookup thread requestId)
        (state.setWait thread (.ended requestId (.error err)))
  | found {thread event : Nat} {requestId : String} {pending : Option ρ}
      (hthread : state.waits thread = .absent)
      (hslot : state.slots.get? requestId = some (event, pending)) :
      Move state (.lookup thread requestId)
        (state.setWait thread (.blocked requestId event))
  | waited {label : SlotLabel ρ} {thread event : Nat} {requestId : String} {fired : Bool}
      (hlabel : label = if fired then .wake thread else .expire thread)
      (hthread : state.waits thread = .blocked requestId event)
      (hfired : event ∈ state.fired ↔ fired = true) :
      Move state label (state.setWait thread (.popping requestId fired))
  | popped {thread : Nat} {requestId : String} {fired : Bool}
      (hthread : state.waits thread = .popping requestId fired) :
      Move state (.pop thread)
        { state.setWait thread
            (.ended requestId (waitOutcome requestId fired (state.slots.get? requestId))) with
          slots := state.slots.erase requestId }

variable {state next : ResultSlots ρ}

theorem eventWait_move {thread : Nat} {fired : Bool}
    (hstep : state.eventWait thread fired = some next) :
    Move state (if fired then .wake thread else .expire thread) next := by
  unfold eventWait at hstep
  split at hstep
  · next hthread =>
      split at hstep
      · next hfired =>
          obtain rfl := Option.some.inj hstep
          exact .waited rfl hthread hfired
      · cases hstep
  · cases hstep

/-- Every step is one of these moves. -/
theorem step_move {label : SlotLabel ρ} (hstep : state.step label = some next) :
    Move state label next := by
  cases label with
  | createSlot requestId =>
      obtain rfl := Option.some.inj hstep
      exact .created requestId
  | deliver thread requestId result =>
      simp only [step, deliver] at hstep
      split at hstep
      · next hthread =>
          split at hstep
          · next hslot =>
              obtain rfl := Option.some.inj hstep
              exact .refused hthread hslot
          · next hslot =>
              obtain rfl := Option.some.inj hstep
              exact .stored hthread hslot
      · cases hstep
  | setEvent thread =>
      simp only [step, setEvent] at hstep
      split at hstep
      · next hthread =>
          obtain rfl := Option.some.inj hstep
          exact .eventSet hthread
      · cases hstep
  | lookup thread requestId =>
      simp only [step, lookup] at hstep
      split at hstep
      · next hthread =>
          split at hstep
          · next hslot =>
              obtain rfl := Option.some.inj hstep
              exact .noSlot hthread hslot
          · next hslot =>
              obtain rfl := Option.some.inj hstep
              exact .found hthread hslot
      · cases hstep
  | wake thread => exact eventWait_move hstep
  | expire thread => exact eventWait_move hstep
  | pop thread =>
      simp only [step, pop] at hstep
      split at hstep
      · next hthread =>
          obtain rfl := Option.some.inj hstep
          exact .popped hthread
      · cases hstep

end ResultSlots

end PiSSM.Orchestrator
