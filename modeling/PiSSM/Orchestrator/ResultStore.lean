import PiSSM.Exceptions
import PiSSM.Lib.Dict

/-!
The slot map that correlates requests with results. A slot pairs an event with
the result delivered so far; a waiter remembers the event it found when it
started and pops the slot when that event has fired, whichever event the slot
has by then. Each operation below is one section under the store's lock.
-/

namespace PiSSM.Orchestrator

open PiSSM.Lib

/-- Events are numbered in the order of their creation; `fired` are those that
have been set. No two slots share an event, and a slot's event has fired exactly
when the slot has a result. -/
structure ResultStore (ρ : Type*) where
  slots : Dict String (Nat × Option ρ)
  fired : Finset Nat
  nextEvent : Nat
  slot_lt : ∀ requestId event pending,
    slots.get? requestId = some (event, pending) → event < nextEvent
  fired_lt : ∀ event ∈ fired, event < nextEvent
  slot_inj : ∀ requestId requestId' event pending pending',
    slots.get? requestId = some (event, pending) →
    slots.get? requestId' = some (event, pending') → requestId = requestId'
  fired_iff : ∀ requestId event pending,
    slots.get? requestId = some (event, pending) →
    (event ∈ fired ↔ pending.isSome = true)

namespace ResultStore

variable {ρ : Type*}

def create : ResultStore ρ where
  slots := Dict.empty
  fired := ∅
  nextEvent := 0
  slot_lt requestId event pending hslot := by simp at hslot
  fired_lt event hevent := by simp at hevent
  slot_inj requestId requestId' event pending pending' hslot := by simp at hslot
  fired_iff requestId event pending hslot := by simp at hslot

/-- A slot with a new event; a slot that is already there is overwritten. -/
def createSlot (store : ResultStore ρ) (requestId : String) : ResultStore ρ where
  slots := store.slots.set requestId (store.nextEvent, none)
  fired := store.fired
  nextEvent := store.nextEvent + 1
  slot_lt query event pending hslot := by
    rw [Dict.get?_set] at hslot
    split at hslot
    · obtain ⟨rfl, _⟩ := Prod.mk.inj (Option.some.inj hslot)
      exact Nat.lt_succ_self _
    · exact Nat.lt_succ_of_lt (store.slot_lt query event pending hslot)
  fired_lt event hevent := Nat.lt_succ_of_lt (store.fired_lt event hevent)
  slot_inj query query' event pending pending' hslot hslot' := by
    rw [Dict.get?_set] at hslot hslot'
    split at hslot <;> split at hslot'
    · next hquery hquery' => exact hquery.trans hquery'.symm
    · obtain ⟨rfl, _⟩ := Prod.mk.inj (Option.some.inj hslot)
      exact absurd (store.slot_lt _ _ _ hslot') (Nat.lt_irrefl _)
    · obtain ⟨rfl, _⟩ := Prod.mk.inj (Option.some.inj hslot')
      exact absurd (store.slot_lt _ _ _ hslot) (Nat.lt_irrefl _)
    · exact store.slot_inj query query' event pending pending' hslot hslot'
  fired_iff query event pending hslot := by
    rw [Dict.get?_set] at hslot
    split at hslot
    · obtain ⟨rfl, rfl⟩ := Prod.mk.inj (Option.some.inj hslot)
      have hunset : store.nextEvent ∉ store.fired := fun hfired =>
        absurd (store.fired_lt _ hfired) (Nat.lt_irrefl _)
      simp [hunset]
    · exact store.fired_iff query event pending hslot

/-- Puts the result into a slot and sets the slot's event. -/
def resolve (store : ResultStore ρ) (requestId : String) (result : ρ) {event : Nat}
    {pending : Option ρ} (hslot : store.slots.get? requestId = some (event, pending)) :
    ResultStore ρ where
  slots := store.slots.set requestId (event, some result)
  fired := insert event store.fired
  nextEvent := store.nextEvent
  slot_lt query other pending' hother := by
    rw [Dict.get?_set] at hother
    split at hother
    · obtain ⟨rfl, _⟩ := Prod.mk.inj (Option.some.inj hother)
      exact store.slot_lt requestId _ pending hslot
    · exact store.slot_lt query other pending' hother
  fired_lt other hother := by
    rcases Finset.mem_insert.mp hother with rfl | hother
    · exact store.slot_lt requestId _ pending hslot
    · exact store.fired_lt other hother
  slot_inj query query' other pending₁ pending₂ hother hother' := by
    rw [Dict.get?_set] at hother hother'
    split at hother <;> split at hother'
    · next hquery hquery' => exact hquery.trans hquery'.symm
    · next hquery _ =>
        obtain ⟨rfl, _⟩ := Prod.mk.inj (Option.some.inj hother)
        exact hquery.trans (store.slot_inj _ _ _ _ _ hslot hother')
    · next _ hquery' =>
        obtain ⟨rfl, _⟩ := Prod.mk.inj (Option.some.inj hother')
        exact (store.slot_inj _ _ _ _ _ hother hslot).trans hquery'.symm
    · exact store.slot_inj query query' other pending₁ pending₂ hother hother'
  fired_iff query other pending' hother := by
    rw [Dict.get?_set] at hother
    split at hother
    · obtain ⟨rfl, rfl⟩ := Prod.mk.inj (Option.some.inj hother)
      simp
    · next hquery =>
        have hne : other ≠ event := by
          rintro rfl
          exact hquery (store.slot_inj _ _ _ _ _ hother hslot)
        rw [Finset.mem_insert, or_iff_right hne]
        exact store.fired_iff query other pending' hother

/-- Stores the result and sets the event; the answer says whether there was a
slot. -/
def deliver (store : ResultStore ρ) (requestId : String) (result : ρ) :
    ResultStore ρ × Bool :=
  match hslot : store.slots.get? requestId with
  | none => (store, false)
  | some (_, _) => (store.resolve requestId result hslot, true)

/-- The first section of `wait`: the event to wait for. -/
def slotEvent (store : ResultStore ρ) (requestId : String) : Except PyException Nat :=
  match store.slots.get? requestId with
  | none => .error (.keyError s!"No slot for request_id '{requestId}'")
  | some (event, _) => .ok event

def removeSlot (store : ResultStore ρ) (requestId : String) : ResultStore ρ where
  slots := store.slots.erase requestId
  fired := store.fired
  nextEvent := store.nextEvent
  slot_lt query event pending hslot := by
    rw [Dict.get?_erase] at hslot
    split at hslot
    · cases hslot
    · exact store.slot_lt query event pending hslot
  fired_lt := store.fired_lt
  slot_inj query query' event pending pending' hslot hslot' := by
    rw [Dict.get?_erase] at hslot hslot'
    split at hslot
    · cases hslot
    · split at hslot'
      · cases hslot'
      · exact store.slot_inj query query' event pending pending' hslot hslot'
  fired_iff query event pending hslot := by
    rw [Dict.get?_erase] at hslot
    split at hslot
    · cases hslot
    · exact store.fired_iff query event pending hslot

/-- The second section of `wait`, after the event has been waited for. -/
def popSlot (store : ResultStore ρ) (requestId : String) : ResultStore ρ × Option ρ :=
  (store.removeSlot requestId, (store.slots.get? requestId).bind Prod.snd)

/-- `wait` by a caller whose event can no longer be set if it is not set now,
so that an unset event means a timeout. -/
def wait (store : ResultStore ρ) (requestId : String) :
    ResultStore ρ × Except PyException (Option ρ) :=
  match store.slotEvent requestId with
  | .error err => (store, .error err)
  | .ok event =>
      let (popped, result) := store.popSlot requestId
      if event ∈ store.fired then (popped, .ok result)
      else
        (popped, .error (.timeoutError
          s!"Timed out waiting for pipeline result '{requestId}'"))

theorem createSlot_get? (store : ResultStore ρ) (requestId query : String) :
    (store.createSlot requestId).slots.get? query =
      if query = requestId then some (store.nextEvent, none)
      else store.slots.get? query :=
  Dict.get?_set _ _ _ _

theorem popSlot_get? (store : ResultStore ρ) (requestId query : String) :
    (store.popSlot requestId).1.slots.get? query =
      if query = requestId then none else store.slots.get? query :=
  Dict.get?_erase _ _ _

theorem deliver_of_none {store : ResultStore ρ} {requestId : String} (result : ρ)
    (hslot : store.slots.get? requestId = none) :
    store.deliver requestId result = (store, false) := by
  unfold deliver
  split
  · rfl
  · next hsome =>
      rw [hslot] at hsome
      cases hsome

theorem deliver_of_some {store : ResultStore ρ} {requestId : String} (result : ρ)
    {event : Nat} {pending : Option ρ}
    (hslot : store.slots.get? requestId = some (event, pending)) :
    store.deliver requestId result = (store.resolve requestId result hslot, true) := by
  unfold deliver
  split
  · next hnone =>
      rw [hslot] at hnone
      cases hnone
  · next event' pending' hsome =>
      obtain ⟨rfl, rfl⟩ := Prod.mk.inj (Option.some.inj (hslot.symm.trans hsome))
      rfl

/-- What a delivery does to the slots. -/
theorem deliver_get? (store : ResultStore ρ) (requestId query : String) (result : ρ) :
    (store.deliver requestId result).1.slots.get? query =
      if query = requestId then
        (store.slots.get? requestId).map fun slot => (slot.1, some result)
      else store.slots.get? query := by
  cases hslot : store.slots.get? requestId with
  | none =>
      rw [deliver_of_none result hslot]
      split
      · next hquery => rw [hquery, hslot, Option.map_none]
      · rfl
  | some slot =>
      obtain ⟨event, pending⟩ := slot
      rw [deliver_of_some result hslot]
      exact Dict.get?_set _ _ _ _

/-- There is a slot for the request, with this result. -/
def SlotHolds (store : ResultStore ρ) (requestId : String) (result : Option ρ) : Prop :=
  ∃ event, store.slots.get? requestId = some (event, result)

theorem createSlot_slotHolds (store : ResultStore ρ) (requestId : String) :
    (store.createSlot requestId).SlotHolds requestId none :=
  ⟨store.nextEvent, by rw [createSlot_get?, if_pos rfl]⟩

theorem SlotHolds.createSlot {store : ResultStore ρ} {requestId other : String}
    {result : Option ρ} (hslot : store.SlotHolds requestId result)
    (hne : requestId ≠ other) : (store.createSlot other).SlotHolds requestId result := by
  obtain ⟨event, hget⟩ := hslot
  exact ⟨event, by rw [createSlot_get?, if_neg hne, hget]⟩

theorem SlotHolds.deliver {store : ResultStore ρ} {requestId : String} {result : Option ρ}
    (hslot : store.SlotHolds requestId result) (next : ρ) :
    (store.deliver requestId next).1.SlotHolds requestId (some next) := by
  obtain ⟨event, hget⟩ := hslot
  exact ⟨event, by rw [deliver_get?, if_pos rfl, hget, Option.map_some]⟩

theorem SlotHolds.deliver_of_ne {store : ResultStore ρ} {requestId other : String}
    {result : Option ρ} (hslot : store.SlotHolds requestId result)
    (hne : requestId ≠ other) (next : ρ) :
    (store.deliver other next).1.SlotHolds requestId result := by
  obtain ⟨event, hget⟩ := hslot
  exact ⟨event, by rw [deliver_get?, if_neg hne, hget]⟩

/-- What waiting for a slot with this result comes to. -/
def waitResult (requestId : String) : Option ρ → Except PyException (Option ρ)
  | some result => .ok (some result)
  | none => .error (.timeoutError s!"Timed out waiting for pipeline result '{requestId}'")

theorem SlotHolds.wait {store : ResultStore ρ} {requestId : String} {result : Option ρ}
    (hslot : store.SlotHolds requestId result) :
    (store.wait requestId).2 = waitResult requestId result := by
  obtain ⟨event, hget⟩ := hslot
  have hfired := store.fired_iff requestId event result hget
  simp only [ResultStore.wait, slotEvent, popSlot, hget, Option.bind_some, waitResult]
  cases result with
  | none =>
      have hunset : event ∉ store.fired := by simp [hfired]
      rw [if_neg hunset]
  | some result =>
      have hset : event ∈ store.fired := by simp [hfired]
      rw [if_pos hset]

theorem ext_of {left right : ResultStore ρ} (hslots : left.slots = right.slots)
    (hfired : left.fired = right.fired) (hnext : left.nextEvent = right.nextEvent) :
    left = right := by
  cases left
  cases right
  obtain rfl : _ = _ := hslots
  obtain rfl : _ = _ := hfired
  obtain rfl : _ = _ := hnext
  rfl

section Map

variable {ρ' : Type*} (f : ρ → ρ')

def mapSlot (slot : Nat × Option ρ) : Nat × Option ρ' :=
  (slot.1, slot.2.map f)

theorem get?_mapSlots {store : ResultStore ρ} {requestId : String} {event : Nat}
    {pending : Option ρ'}
    (hslot : (store.slots.map (mapSlot f)).get? requestId = some (event, pending)) :
    ∃ found, store.slots.get? requestId = some (event, found) ∧ pending = found.map f := by
  rw [Dict.get?_map, Option.map_eq_some_iff] at hslot
  obtain ⟨⟨_, found⟩, hfound, heq⟩ := hslot
  obtain ⟨rfl, rfl⟩ := Prod.mk.inj heq
  exact ⟨found, hfound, rfl⟩

/-- The store with every result replaced. -/
def map (store : ResultStore ρ) : ResultStore ρ' where
  slots := store.slots.map (mapSlot f)
  fired := store.fired
  nextEvent := store.nextEvent
  slot_lt requestId event pending hslot := by
    obtain ⟨found, hfound, _⟩ := get?_mapSlots f hslot
    exact store.slot_lt requestId event found hfound
  fired_lt := store.fired_lt
  slot_inj requestId requestId' event pending pending' hslot hslot' := by
    obtain ⟨found, hfound, _⟩ := get?_mapSlots f hslot
    obtain ⟨found', hfound', _⟩ := get?_mapSlots f hslot'
    exact store.slot_inj requestId requestId' event found found' hfound hfound'
  fired_iff requestId event pending hslot := by
    obtain ⟨found, hfound, rfl⟩ := get?_mapSlots f hslot
    rw [Option.isSome_map]
    exact store.fired_iff requestId event found hfound

theorem map_createSlot (store : ResultStore ρ) (requestId : String) :
    (store.createSlot requestId).map f = (store.map f).createSlot requestId :=
  ext_of (Dict.map_set (mapSlot f) store.slots requestId
    (store.nextEvent, none)) rfl rfl

theorem map_deliver (store : ResultStore ρ) (requestId : String) (result : ρ) :
    (store.deliver requestId result).1.map f = ((store.map f).deliver requestId (f result)).1 := by
  cases hslot : store.slots.get? requestId with
  | none =>
      have hmapped : (store.map f).slots.get? requestId = none := by
        rw [map, Dict.get?_map, hslot, Option.map_none]
      rw [deliver_of_none result hslot, deliver_of_none (f result) hmapped]
  | some slot =>
      obtain ⟨event, pending⟩ := slot
      have hmapped : (store.map f).slots.get? requestId = some (event, pending.map f) := by
        rw [map, Dict.get?_map, hslot]
        rfl
      rw [deliver_of_some result hslot, deliver_of_some (f result) hmapped]
      exact ext_of (Dict.map_set (mapSlot f) store.slots requestId
        (event, some result)) rfl rfl

theorem map_wait (store : ResultStore ρ) (requestId : String) :
    (store.map f).wait requestId =
      ((store.wait requestId).1.map f, (store.wait requestId).2.map (Option.map f)) := by
  have hremove : (store.map f).removeSlot requestId = (store.removeSlot requestId).map f :=
    ext_of (Dict.map_erase (mapSlot f) store.slots requestId).symm
      rfl rfl
  have hget : (store.map f).slots.get? requestId =
      (store.slots.get? requestId).map (mapSlot f) :=
    Dict.get?_map _ _ _
  unfold wait slotEvent popSlot
  rw [hget, hremove]
  cases store.slots.get? requestId with
  | none => rfl
  | some slot =>
      obtain ⟨event, pending⟩ := slot
      simp only [Option.map_some, Option.bind_some, mapSlot]
      by_cases hfired : event ∈ store.fired
      · rw [if_pos hfired, if_pos (show event ∈ (store.map f).fired from hfired)]
        rfl
      · rw [if_neg hfired, if_neg (show event ∉ (store.map f).fired from hfired)]
        rfl

end Map

end ResultStore

end PiSSM.Orchestrator
