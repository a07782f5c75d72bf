import PiSSM.Orchestrator.ResultSlots

/-!
The slot map under ids that are used once. Slots never share an event, so a step
about one id changes nothing another id depends on; what holds of an id is then
an invariant over the steps about that id alone. A wait that returns has a
delivered result, a completed delivery ends the wait it comes in time for, and
an id whose wait has ended stays closed.
-/

namespace PiSSM.Pipeline

open PiSSM.Lib PiSSM.Orchestrator PiSSM.Orchestrator.ResultSlots

variable {ρ : Type*} {state next : ResultSlots ρ} {label : SlotLabel ρ}

/-- Events are not shared: neither between slots nor between a slot and a
delivery to another id that has still to set its event. -/
structure EventsDistinct (state : ResultSlots ρ) : Prop where
  slot_lt : ∀ requestId event pending,
    state.slots.get? requestId = some (event, pending) → event < state.nextEvent
  fired_lt : ∀ event ∈ state.fired, event < state.nextEvent
  setting_lt : ∀ thread requestId result event,
    state.deliveries thread = .setting requestId result event → event < state.nextEvent
  slot_inj : ∀ requestId requestId' event pending pending',
    state.slots.get? requestId = some (event, pending) →
    state.slots.get? requestId' = some (event, pending') → requestId' = requestId
  setting_inj : ∀ thread requestId requestId' result event pending,
    state.deliveries thread = .setting requestId result event →
    state.slots.get? requestId' = some (event, pending) → requestId' = requestId

theorem eventsDistinct_create : EventsDistinct (create : ResultSlots ρ) where
  slot_lt _ _ _ hslot := by cases hslot
  fired_lt event hevent := absurd hevent (Finset.notMem_empty event)
  setting_lt _ _ _ _ hthread := by cases hthread
  slot_inj _ _ _ _ _ hslot := by cases hslot
  setting_inj _ _ _ _ _ _ hthread := by cases hthread

theorem slot_set {slots : Dict String (Nat × Option ρ)} {requestId query : String}
    {slot found : Nat × Option ρ} (hget : (slots.set requestId slot).get? query = some found) :
    (query = requestId ∧ found = slot) ∨
      (query ≠ requestId ∧ slots.get? query = some found) := by
  rw [Dict.get?_set] at hget
  split at hget
  · next hquery => exact .inl ⟨hquery, (Option.some.inj hget).symm⟩
  · next hquery => exact .inr ⟨hquery, hget⟩

theorem slot_erase {slots : Dict String (Nat × Option ρ)} {requestId query : String}
    {found : Nat × Option ρ} (hget : (slots.erase requestId).get? query = some found) :
    query ≠ requestId ∧ slots.get? query = some found := by
  rw [Dict.get?_erase] at hget
  split at hget
  · cases hget
  · next hquery => exact ⟨hquery, hget⟩

/-- Events stay distinct when neither the slots nor the events change and no
delivery begins to set its event. -/
theorem EventsDistinct.setDelivery (hinv : EventsDistinct state) {thread : Nat}
    {requestId : String} {result : ρ} {answer : Bool} :
    EventsDistinct (state.setDelivery thread (.returned requestId result answer)) where
  slot_lt := hinv.slot_lt
  fired_lt := hinv.fired_lt
  setting_lt query id other event hget := by
    rcases update_cases hget with ⟨_, hphase⟩ | ⟨_, hkept⟩
    · cases hphase
    · exact hinv.setting_lt query id other event hkept
  slot_inj := hinv.slot_inj
  setting_inj query id id' other event pending hget hslot := by
    rcases update_cases hget with ⟨_, hphase⟩ | ⟨_, hkept⟩
    · cases hphase
    · exact hinv.setting_inj query id id' other event pending hkept hslot

theorem EventsDistinct.setWait (hinv : EventsDistinct state) {thread : Nat}
    {phase : WaitPhase ρ} : EventsDistinct (state.setWait thread phase) where
  slot_lt := hinv.slot_lt
  fired_lt := hinv.fired_lt
  setting_lt := hinv.setting_lt
  slot_inj := hinv.slot_inj
  setting_inj := hinv.setting_inj

/-- Storing a result keeps the event of the slot. -/
theorem EventsDistinct.stored (hinv : EventsDistinct state) {thread event : Nat}
    {requestId : String} {result : ρ} {pending : Option ρ}
    (hslot : state.slots.get? requestId = some (event, pending)) :
    EventsDistinct { state.setDelivery thread (.setting requestId result event) with
      slots := state.slots.set requestId (event, some result) } := by
  have hsame : ∀ query found pending',
      (state.slots.set requestId (event, some result)).get? query = some (found, pending') →
        ∃ pending, state.slots.get? query = some (found, pending) := by
    intro query found pending' hget
    rcases slot_set hget with ⟨rfl, heq⟩ | ⟨_, hkept⟩
    · obtain ⟨rfl, _⟩ := Prod.mk.inj heq
      exact ⟨pending, hslot⟩
    · exact ⟨pending', hkept⟩
  constructor
  · intro query found pending' hget
    obtain ⟨_, hold⟩ := hsame query found pending' hget
    exact hinv.slot_lt query found _ hold
  · exact hinv.fired_lt
  · intro query id other found hget
    rcases update_cases hget with ⟨_, hphase⟩ | ⟨_, hkept⟩
    · cases hphase
      exact hinv.slot_lt requestId event pending hslot
    · exact hinv.setting_lt query id other found hkept
  · intro id id' found pending₁ pending₂ hget hget'
    obtain ⟨_, hold⟩ := hsame id found pending₁ hget
    obtain ⟨_, hold'⟩ := hsame id' found pending₂ hget'
    exact hinv.slot_inj id id' found _ _ hold hold'
  · intro query id id' other found pending' hget hslot'
    obtain ⟨_, hold⟩ := hsame id' found pending' hslot'
    rcases update_cases hget with ⟨_, hphase⟩ | ⟨_, hkept⟩
    · cases hphase
      exact hinv.slot_inj requestId id' event pending _ hslot hold
    · exact hinv.setting_inj query id id' other found _ hkept hold

theorem EventsDistinct.createSlot (hinv : EventsDistinct state) (requestId : String) :
    EventsDistinct (state.createSlot requestId) := by
  have hfresh : ∀ id pending, state.slots.get? id ≠ some (state.nextEvent, pending) :=
    fun id pending hget => absurd (hinv.slot_lt id _ pending hget) (Nat.lt_irrefl _)
  constructor
  · intro id event pending hget
    rcases slot_set hget with ⟨_, heq⟩ | ⟨_, hkept⟩
    · obtain ⟨rfl, _⟩ := Prod.mk.inj heq
      exact Nat.lt_succ_self _
    · exact Nat.lt_succ_of_lt (hinv.slot_lt id event pending hkept)
  · exact fun event hevent => Nat.lt_succ_of_lt (hinv.fired_lt event hevent)
  · exact fun thread id result event hget =>
      Nat.lt_succ_of_lt (hinv.setting_lt thread id result event hget)
  · intro id id' event pending pending' hget hget'
    rcases slot_set hget with ⟨rfl, heq⟩ | ⟨_, hkept⟩
    · rcases slot_set hget' with ⟨rfl, _⟩ | ⟨_, hkept'⟩
      · rfl
      · obtain ⟨rfl, _⟩ := Prod.mk.inj heq
        exact absurd hkept' (hfresh _ _)
    · rcases slot_set hget' with ⟨rfl, heq⟩ | ⟨_, hkept'⟩
      · obtain ⟨rfl, _⟩ := Prod.mk.inj heq
        exact absurd hkept (hfresh _ _)
      · exact hinv.slot_inj id id' event pending pending' hkept hkept'
  · intro thread id id' result event pending hget hslot
    rcases slot_set hslot with ⟨_, heq⟩ | ⟨_, hkept⟩
    · obtain ⟨rfl, _⟩ := Prod.mk.inj heq
      exact absurd (hinv.setting_lt thread id result _ hget) (Nat.lt_irrefl _)
    · exact hinv.setting_inj thread id id' result event pending hget hkept

theorem eventsDistinct_move (hmove : Move state label next)
    (hinv : EventsDistinct state) : EventsDistinct next := by
  cases hmove with
  | created requestId => exact hinv.createSlot requestId
  | refused _ _ => exact hinv.setDelivery
  | stored _ hslot => exact hinv.stored hslot
  | @eventSet thread event requestId result hthread =>
      have hset := @EventsDistinct.setDelivery ρ state hinv thread requestId result true
      refine ⟨hset.slot_lt, ?_, hset.setting_lt, hset.slot_inj, hset.setting_inj⟩
      intro other hother
      rcases Finset.mem_insert.mp hother with rfl | hother
      · exact hinv.setting_lt thread requestId result other hthread
      · exact hinv.fired_lt other hother
  | noSlot _ _ => exact hinv.setWait
  | found _ _ => exact hinv.setWait
  | waited _ _ _ => exact hinv.setWait
  | popped _ =>
      exact {
        slot_lt := fun id event pending hget =>
          hinv.slot_lt id event pending (slot_erase hget).2
        fired_lt := hinv.fired_lt
        setting_lt := hinv.setting_lt
        slot_inj := fun id id' event pending pending' hget hget' =>
          hinv.slot_inj id id' event pending pending' (slot_erase hget).2 (slot_erase hget').2
        setting_inj := fun thread id id' result event pending hget hslot =>
          hinv.setting_inj thread id id' result event pending hget (slot_erase hslot).2 }

theorem eventsDistinct_of_reachable {ok : ResultSlots ρ → SlotLabel ρ → Prop}
    (hreach : (system ρ).ReachableVia ok state) : EventsDistinct state := by
  apply hreach.invariant
  · rintro _ rfl
    exact eventsDistinct_create
  · intro _ _ _ _ hinv _ hstep
    exact eventsDistinct_move (step_move hstep) hinv

/-- Nothing an id depends on differs between two states: its slot, whether the
slot's event has fired, and the calls about it. -/
structure SameFor (requestId : String) (state next : ResultSlots ρ) : Prop where
  created : requestId ∈ next.created ↔ requestId ∈ state.created
  slot : next.slots.get? requestId = state.slots.get? requestId
  fired : ∀ event pending, state.slots.get? requestId = some (event, pending) →
    (event ∈ next.fired ↔ event ∈ state.fired)
  deliveries : ∀ thread phase, phase.requestId? = some requestId →
    (next.deliveries thread = phase ↔ state.deliveries thread = phase)
  waits : ∀ thread phase, phase.requestId? = some requestId →
    (next.waits thread = phase ↔ state.waits thread = phase)

theorem update_phase_iff {φ : Type*} {phases : Nat → φ} {thread query : Nat}
    {phase found : φ} (hold : found ≠ phases thread) (hnew : found ≠ phase) :
    Function.update phases thread phase query = found ↔ phases query = found := by
  by_cases hquery : query = thread
  · subst hquery
    rw [Function.update_self]
    exact ⟨fun h => absurd h.symm hnew, fun h => absurd h.symm hold⟩
  · rw [Function.update_of_ne hquery]

/-- A call of `deliver` for another id has moved. -/
theorem SameFor.setDelivery {thread : Nat} {phase : DeliverPhase ρ} {requestId : String}
    (hold : (state.deliveries thread).requestId? ≠ some requestId)
    (hnew : phase.requestId? ≠ some requestId) :
    SameFor requestId state (state.setDelivery thread phase) where
  created := Iff.rfl
  slot := rfl
  fired _ _ _ := Iff.rfl
  deliveries _ _ hfound :=
    update_phase_iff (fun heq => hold (heq ▸ hfound)) (fun heq => hnew (heq ▸ hfound))
  waits _ _ _ := Iff.rfl

theorem SameFor.setWait {thread : Nat} {phase : WaitPhase ρ} {requestId : String}
    (hold : (state.waits thread).requestId? ≠ some requestId)
    (hnew : phase.requestId? ≠ some requestId) :
    SameFor requestId state (state.setWait thread phase) where
  created := Iff.rfl
  slot := rfl
  fired _ _ _ := Iff.rfl
  deliveries _ _ _ := Iff.rfl
  waits _ _ hfound :=
    update_phase_iff (fun heq => hold (heq ▸ hfound)) (fun heq => hnew (heq ▸ hfound))

/-- A step about another id changes nothing an id depends on. -/
theorem sameFor_move (hinv : EventsDistinct state) (hmove : Move state label next)
    {requestId : String} (hother : labelId state label ≠ some requestId) :
    SameFor requestId state next := by
  cases hmove with
  | created other =>
      have hne : requestId ≠ other := fun heq => hother (heq ▸ rfl)
      refine ⟨?_, Dict.get?_set_of_ne _ _ hne, fun _ _ _ => Iff.rfl, fun _ _ _ => Iff.rfl,
        fun _ _ _ => Iff.rfl⟩
      exact Finset.mem_insert.trans (or_iff_right hne)
  | refused hthread _ => exact .setDelivery (by rw [hthread]; simp [DeliverPhase.requestId?]) hother
  | @stored thread event other result pending hthread hslot =>
      have hne : requestId ≠ other := fun heq => hother (heq ▸ rfl)
      have hsame := @SameFor.setDelivery ρ state thread (.setting other result event) requestId
        (by rw [hthread]; simp [DeliverPhase.requestId?]) hother
      exact ⟨hsame.created, Dict.get?_set_of_ne _ _ hne, hsame.fired, hsame.deliveries,
        hsame.waits⟩
  | @eventSet thread event other result hthread =>
      have hold : (state.deliveries thread).requestId? ≠ some requestId := hother
      have hne : other ≠ requestId := by
        rintro rfl
        rw [hthread] at hold
        exact hold rfl
      have hsame := @SameFor.setDelivery ρ state thread (.returned other result true) requestId
        hold (fun heq => hne (Option.some.inj heq))
      refine ⟨hsame.created, hsame.slot, ?_, hsame.deliveries, hsame.waits⟩
      intro found pending hslot
      have hdistinct : found ≠ event := by
        rintro rfl
        exact hne (hinv.setting_inj thread other requestId result found pending hthread
          hslot).symm
      exact Finset.mem_insert.trans (or_iff_right hdistinct)
  | noSlot hthread _ => exact .setWait (by rw [hthread]; simp [WaitPhase.requestId?]) hother
  | found hthread _ => exact .setWait (by rw [hthread]; simp [WaitPhase.requestId?]) hother
  | @waited _ thread event other fired hlabel hthread _ =>
      have hold : (state.waits thread).requestId? ≠ some requestId := by
        subst hlabel
        cases fired <;> exact hother
      rw [hthread] at hold
      exact .setWait (by rw [hthread]; exact hold) hold
  | @popped thread other fired hthread =>
      have hold : (state.waits thread).requestId? ≠ some requestId := hother
      have hne : requestId ≠ other := by
        rintro rfl
        rw [hthread] at hold
        exact hold rfl
      have hsame := @SameFor.setWait ρ state thread
        (.ended other (waitOutcome other fired (state.slots.get? other))) requestId hold
        (fun heq => hne (Option.some.inj heq).symm)
      exact ⟨hsame.created, Dict.get?_erase_of_ne _ hne, hsame.fired, hsame.deliveries,
        hsame.waits⟩

/-- What holds of an id that is used once. -/
structure UsedOnce (state : ResultSlots ρ) (requestId : String) : Prop where
  slot_created : ∀ slot, state.slots.get? requestId = some slot → requestId ∈ state.created
  delivery_created : ∀ thread, (state.deliveries thread).requestId? = some requestId →
    requestId ∈ state.created
  wait_created : ∀ thread, (state.waits thread).requestId? = some requestId →
    requestId ∈ state.created
  /-- The slot is there from its creation to the end of its wait. -/
  present : requestId ∈ state.created →
    (∀ thread outcome, state.waits thread ≠ .ended requestId outcome) →
      ∃ slot, state.slots.get? requestId = some slot
  absent : ∀ thread outcome, state.waits thread = .ended requestId outcome →
    state.slots.get? requestId = none
  single : ∀ thread thread', (state.waits thread).requestId? = some requestId →
    (state.waits thread').requestId? = some requestId → thread' = thread
  blocked : ∀ thread event, state.waits thread = .blocked requestId event →
    ∃ pending, state.slots.get? requestId = some (event, pending)
  popping : ∀ thread, state.waits thread = .popping requestId true →
    ∃ event result, state.slots.get? requestId = some (event, some result)
  /-- A delivery that has still to set its event has put a result into its slot. -/
  setting : ∀ thread result event, state.deliveries thread = .setting requestId result event →
    ∀ event' pending, state.slots.get? requestId = some (event', pending) →
      event' = event ∧ pending.isSome = true
  fired : ∀ event pending, state.slots.get? requestId = some (event, pending) →
    event ∈ state.fired → pending.isSome = true
  source : ∀ event result, state.slots.get? requestId = some (event, some result) →
    ∃ thread, (state.deliveries thread).Stored requestId result
  completed : ∀ thread result, state.deliveries thread = .returned requestId result true →
    ∀ event pending, state.slots.get? requestId = some (event, pending) → event ∈ state.fired
  refused : ∀ thread result, state.deliveries thread = .returned requestId result false →
    state.slots.get? requestId = none
  result : ∀ thread outcome, state.waits thread = .ended requestId (.ok outcome) →
    ∃ result, outcome = some result ∧
      ∃ thread, (state.deliveries thread).Stored requestId result

theorem usedOnce_create (requestId : String) :
    UsedOnce (create : ResultSlots ρ) requestId where
  slot_created _ hslot := by cases hslot
  delivery_created _ hthread := by cases hthread
  wait_created _ hthread := by cases hthread
  present hcreated _ := absurd hcreated (Finset.notMem_empty requestId)
  absent _ _ hthread := by cases hthread
  single _ _ hthread := by cases hthread
  blocked _ _ hthread := by cases hthread
  popping _ hthread := by cases hthread
  setting _ _ _ hthread := by cases hthread
  fired _ _ hslot := by cases hslot
  source _ _ hslot := by cases hslot
  completed _ _ hthread := by cases hthread
  refused _ _ hthread := by cases hthread
  result _ _ hthread := by cases hthread

theorem requestId_of_stored {requestId : String} {result : ρ}
    {phase : DeliverPhase ρ} (hstored : phase.Stored requestId result) :
    phase.requestId? = some requestId := by
  rcases hstored with ⟨event, rfl⟩ | rfl <;> rfl

theorem SameFor.stored {requestId : String} (hsame : SameFor requestId state next)
    {result : ρ} (hstored : ∃ thread, (state.deliveries thread).Stored requestId result) :
    ∃ thread, (next.deliveries thread).Stored requestId result := by
  obtain ⟨thread, hstored⟩ := hstored
  have hphase := (hsame.deliveries thread _ (requestId_of_stored hstored)).mpr rfl
  exact ⟨thread, hphase ▸ hstored⟩

/-- What holds of an id depends on nothing else. -/
theorem UsedOnce.congr {requestId : String} (hinv : UsedOnce state requestId)
    (hsame : SameFor requestId state next) : UsedOnce next requestId where
  slot_created slot hslot := by
    rw [hsame.slot] at hslot
    exact hsame.created.mpr (hinv.slot_created slot hslot)
  delivery_created thread hthread := by
    have hphase := (hsame.deliveries thread _ hthread).mp rfl
    exact hsame.created.mpr (hinv.delivery_created thread (hphase ▸ hthread))
  wait_created thread hthread := by
    have hphase := (hsame.waits thread _ hthread).mp rfl
    exact hsame.created.mpr (hinv.wait_created thread (hphase ▸ hthread))
  present hcreated hopen := by
    rw [hsame.slot]
    exact hinv.present (hsame.created.mp hcreated) fun thread outcome hended =>
      hopen thread outcome ((hsame.waits thread _ rfl).mpr hended)
  absent thread outcome hended := by
    rw [hsame.slot]
    exact hinv.absent thread outcome ((hsame.waits thread _ rfl).mp hended)
  single thread thread' hthread hthread' := by
    have hphase := (hsame.waits thread _ hthread).mp rfl
    have hphase' := (hsame.waits thread' _ hthread').mp rfl
    exact hinv.single thread thread' (hphase ▸ hthread) (hphase' ▸ hthread')
  blocked thread event hthread := by
    rw [hsame.slot]
    exact hinv.blocked thread event ((hsame.waits thread _ rfl).mp hthread)
  popping thread hthread := by
    rw [hsame.slot]
    exact hinv.popping thread ((hsame.waits thread _ rfl).mp hthread)
  setting thread result event hthread := by
    rw [hsame.slot]
    exact hinv.setting thread result event ((hsame.deliveries thread _ rfl).mp hthread)
  fired event pending hslot hfired := by
    rw [hsame.slot] at hslot
    exact hinv.fired event pending hslot ((hsame.fired event pending hslot).mp hfired)
  source event result hslot := by
    rw [hsame.slot] at hslot
    exact hsame.stored (hinv.source event result hslot)
  completed thread result hthread event pending hslot := by
    rw [hsame.slot] at hslot
    have hold := (hsame.deliveries thread _ rfl).mp hthread
    exact (hsame.fired event pending hslot).mpr
      (hinv.completed thread result hold event pending hslot)
  refused thread result hthread := by
    rw [hsame.slot]
    exact hinv.refused thread result ((hsame.deliveries thread _ rfl).mp hthread)
  result thread outcome hthread := by
    obtain ⟨result, heq, hstored⟩ :=
      hinv.result thread outcome ((hsame.waits thread _ rfl).mp hthread)
    exact ⟨result, heq, hsame.stored hstored⟩

/-- A slot is created for an id nothing has been done about. -/
theorem UsedOnce.createSlot {requestId : String} (hinv : UsedOnce state requestId)
    (hevents : EventsDistinct state) (hfresh : requestId ∉ state.created) :
    UsedOnce (state.createSlot requestId) requestId := by
  have hdelivery : ∀ thread, (state.deliveries thread).requestId? ≠ some requestId :=
    fun thread hthread => hfresh (hinv.delivery_created thread hthread)
  have hwait : ∀ thread phase, phase.requestId? = some requestId →
      state.waits thread ≠ phase := by
    rintro thread phase hphase rfl
    exact hfresh (hinv.wait_created thread hphase)
  have hslot : (state.createSlot requestId).slots.get? requestId =
      some (state.nextEvent, none) := Dict.get?_set_self _ _ _
  exact {
    slot_created := fun _ _ => Finset.mem_insert_self _ _
    delivery_created := fun _ _ => Finset.mem_insert_self _ _
    wait_created := fun _ _ => Finset.mem_insert_self _ _
    present := fun _ _ => ⟨_, hslot⟩
    absent := fun thread outcome hthread => absurd hthread (hwait thread _ rfl)
    single := fun thread _ hthread _ => absurd rfl (hwait thread _ hthread)
    blocked := fun thread event hthread => absurd hthread (hwait thread _ rfl)
    popping := fun thread hthread => absurd hthread (hwait thread _ rfl)
    setting := fun thread result event hthread =>
      absurd (congrArg DeliverPhase.requestId? hthread) (hdelivery thread)
    fired := by
      intro event pending hget hfired
      obtain ⟨rfl, _⟩ := Prod.mk.inj (Option.some.inj (hslot.symm.trans hget))
      exact absurd (hevents.fired_lt _ hfired) (Nat.lt_irrefl _)
    source := by
      intro event result hget
      cases Option.some.inj (hslot.symm.trans hget)
    completed := fun thread result hthread =>
      absurd (congrArg DeliverPhase.requestId? hthread) (hdelivery thread)
    refused := fun thread result hthread =>
      absurd (congrArg DeliverPhase.requestId? hthread) (hdelivery thread)
    result := fun thread outcome hthread => absurd hthread (hwait thread _ rfl) }

/-- Results stay stored while another call of `deliver` begins. -/
theorem stored_update {deliveries : Nat → DeliverPhase ρ} {thread : Nat}
    {phase : DeliverPhase ρ} {requestId : String} {result : ρ}
    (habsent : deliveries thread = .absent)
    (hstored : ∃ query, (deliveries query).Stored requestId result) :
    ∃ query, (Function.update deliveries thread phase query).Stored requestId result := by
  obtain ⟨query, hstored⟩ := hstored
  have hne : query ≠ thread := by
    rintro rfl
    rw [habsent] at hstored
    cases requestId_of_stored hstored
  refine ⟨query, ?_⟩
  rw [Function.update_of_ne hne]
  exact hstored

theorem UsedOnce.refused_move {requestId : String} (hinv : UsedOnce state requestId)
    (hcreated : requestId ∈ state.created) {thread : Nat} {result : ρ}
    (hthread : state.deliveries thread = .absent)
    (hslot : state.slots.get? requestId = none) :
    UsedOnce (state.setDelivery thread (.returned requestId result false)) requestId where
  slot_created := hinv.slot_created
  delivery_created _ _ := hcreated
  wait_created := hinv.wait_created
  present := hinv.present
  absent := hinv.absent
  single := hinv.single
  blocked := hinv.blocked
  popping := hinv.popping
  setting query other event hget := by
    rcases update_cases hget with ⟨_, hphase⟩ | ⟨_, hkept⟩
    · cases hphase
    · exact hinv.setting query other event hkept
  fired := hinv.fired
  source event other hget := stored_update hthread (hinv.source event other hget)
  completed query other hget := by
    rcases update_cases hget with ⟨_, hphase⟩ | ⟨_, hkept⟩
    · cases hphase
    · exact hinv.completed query other hkept
  refused _ _ _ := hslot
  result query outcome hget := by
    obtain ⟨other, heq, hstored⟩ := hinv.result query outcome hget
    exact ⟨other, heq, stored_update hthread hstored⟩

theorem UsedOnce.stored_move {requestId : String} (hinv : UsedOnce state requestId)
    {thread event : Nat} {result : ρ} {pending : Option ρ}
    (hslot : state.slots.get? requestId = some (event, pending)) :
    UsedOnce { state.setDelivery thread (.setting requestId result event) with
      slots := state.slots.set requestId (event, some result) } requestId := by
  have hcreated := hinv.slot_created _ hslot
  have hnew : (state.slots.set requestId (event, some result)).get? requestId =
      some (event, some result) := Dict.get?_set_self _ _ _
  have hopen : ∀ query outcome, state.waits query ≠ .ended requestId outcome := by
    intro query outcome hended
    rw [hinv.absent query outcome hended] at hslot
    cases hslot
  have hstored : ∃ query, (Function.update state.deliveries thread
      (.setting requestId result event) query).Stored requestId result :=
    ⟨thread, .inl ⟨event, Function.update_self _ _ _⟩⟩
  have hinj {event' : Nat} {pending' : Option ρ}
      (hget : (state.slots.set requestId (event, some result)).get? requestId =
        some (event', pending')) : event' = event ∧ pending' = some result := by
    obtain ⟨rfl, rfl⟩ := Prod.mk.inj (Option.some.inj (hnew.symm.trans hget))
    exact ⟨rfl, rfl⟩
  exact {
    slot_created := fun _ _ => hcreated
    delivery_created := fun _ _ => hcreated
    wait_created := hinv.wait_created
    present := fun _ _ => ⟨_, hnew⟩
    absent := fun query outcome hended => absurd hended (hopen query outcome)
    single := hinv.single
    blocked := by
      intro query found hget
      obtain ⟨_, hold⟩ := hinv.blocked query found hget
      obtain ⟨rfl, _⟩ := Prod.mk.inj (Option.some.inj (hslot.symm.trans hold))
      exact ⟨_, hnew⟩
    popping := fun _ _ => ⟨event, result, hnew⟩
    setting := by
      intro query other found hget event' pending' hget'
      obtain ⟨rfl, rfl⟩ := hinj hget'
      rcases update_cases hget with ⟨_, hphase⟩ | ⟨_, hkept⟩
      · cases hphase
        exact ⟨rfl, rfl⟩
      · exact ⟨(hinv.setting query other found hkept _ pending hslot).1, rfl⟩
    fired := by
      intro event' pending' hget _
      rw [(hinj hget).2]
      rfl
    source := by
      intro event' other hget
      obtain rfl := Option.some.inj (hinj hget).2
      exact hstored
    completed := by
      intro query other hget event' pending' hget'
      obtain ⟨rfl, _⟩ := hinj hget'
      rcases update_cases hget with ⟨_, hphase⟩ | ⟨_, hkept⟩
      · cases hphase
      · exact hinv.completed query other hkept _ pending hslot
    refused := by
      intro query other hget
      rcases update_cases hget with ⟨_, hphase⟩ | ⟨_, hkept⟩
      · cases hphase
      · rw [hinv.refused query other hkept] at hslot
        cases hslot
    result := fun query outcome hended => absurd hended (hopen query _) }

theorem UsedOnce.eventSet_move {requestId : String} (hinv : UsedOnce state requestId)
    {thread event : Nat} {result : ρ}
    (hthread : state.deliveries thread = .setting requestId result event) :
    UsedOnce { state.setDelivery thread (.returned requestId result true) with
      fired := insert event state.fired } requestId := by
  have hcreated := hinv.delivery_created thread (congrArg DeliverPhase.requestId? hthread)
  have hstored {other : ρ}
      (hold : ∃ query, (state.deliveries query).Stored requestId other) :
      ∃ query, (Function.update state.deliveries thread
        (.returned requestId result true) query).Stored requestId other := by
    obtain ⟨query, hold⟩ := hold
    by_cases hquery : query = thread
    · subst hquery
      rw [hthread] at hold
      rcases hold with ⟨_, hphase⟩ | hphase
      · cases hphase
        exact ⟨query, .inr (Function.update_self _ _ _)⟩
      · cases hphase
    · refine ⟨query, ?_⟩
      rw [Function.update_of_ne hquery]
      exact hold
  exact {
    slot_created := hinv.slot_created
    delivery_created := fun _ _ => hcreated
    wait_created := hinv.wait_created
    present := hinv.present
    absent := hinv.absent
    single := hinv.single
    blocked := hinv.blocked
    popping := hinv.popping
    setting := by
      intro query other found hget
      rcases update_cases hget with ⟨_, hphase⟩ | ⟨_, hkept⟩
      · cases hphase
      · exact hinv.setting query other found hkept
    fired := by
      intro event' pending hslot hfired
      rcases Finset.mem_insert.mp hfired with rfl | hfired
      · exact (hinv.setting thread result event' hthread _ pending hslot).2
      · exact hinv.fired event' pending hslot hfired
    source := fun event' other hget => hstored (hinv.source event' other hget)
    completed := by
      intro query other hget event' pending hslot
      rcases update_cases hget with _ | ⟨_, hkept⟩
      · rw [(hinv.setting thread result event hthread event' pending hslot).1]
        exact Finset.mem_insert_self _ _
      · exact Finset.mem_insert_of_mem (hinv.completed query other hkept event' pending hslot)
    refused := by
      intro query other hget
      rcases update_cases hget with ⟨_, hphase⟩ | ⟨_, hkept⟩
      · cases hphase
      · exact hinv.refused query other hkept
    result := by
      intro query outcome hget
      obtain ⟨other, heq, hold⟩ := hinv.result query outcome hget
      exact ⟨other, heq, hstored hold⟩ }

/-- A wait of this id goes on while its slot stays as it is. -/
theorem UsedOnce.setWait {requestId : String} (hinv : UsedOnce state requestId) {thread : Nat}
    {phase : WaitPhase ρ} (hcreated : requestId ∈ state.created)
    (halone : ∀ query, query ≠ thread → (state.waits query).requestId? ≠ some requestId)
    (hslot : ∃ slot, state.slots.get? requestId = some slot)
    (hended : ∀ outcome, phase ≠ .ended requestId outcome)
    (hblocked : ∀ event, phase = .blocked requestId event →
      ∃ pending, state.slots.get? requestId = some (event, pending))
    (hpopping : phase = .popping requestId true →
      ∃ event result, state.slots.get? requestId = some (event, some result)) :
    UsedOnce (state.setWait thread phase) requestId := by
  have hself {query : Nat} {found : WaitPhase ρ} (hfound : found.requestId? = some requestId)
      (hget : Function.update state.waits thread phase query = found) :
      query = thread ∧ found = phase := by
    rcases update_cases hget with hnew | ⟨hne, hkept⟩
    · exact hnew
    · rw [← hkept] at hfound
      exact absurd hfound (halone query hne)
  exact {
    slot_created := hinv.slot_created
    delivery_created := hinv.delivery_created
    wait_created := fun _ _ => hcreated
    present := fun _ _ => hslot
    absent := fun query outcome hget => absurd (hself rfl hget).2.symm (hended outcome)
    single := fun query query' hget hget' =>
      (hself hget' rfl).1.trans (hself hget rfl).1.symm
    blocked := fun query event hget => hblocked event (hself rfl hget).2.symm
    popping := fun query hget => hpopping (hself rfl hget).2.symm
    setting := hinv.setting
    fired := hinv.fired
    source := hinv.source
    completed := hinv.completed
    refused := hinv.refused
    result := fun query outcome hget => absurd (hself rfl hget).2.symm (hended _) }

/-- The event wait of this id is over. -/
theorem UsedOnce.waited_move {requestId : String} (hinv : UsedOnce state requestId)
    {thread event : Nat} {fired : Bool}
    (hthread : state.waits thread = .blocked requestId event)
    (hfired : event ∈ state.fired ↔ fired = true) :
    UsedOnce (state.setWait thread (.popping requestId fired)) requestId := by
  have hid : (state.waits thread).requestId? = some requestId := by
    rw [hthread]
    rfl
  obtain ⟨pending, hslot⟩ := hinv.blocked thread event hthread
  apply hinv.setWait (hinv.wait_created thread hid)
  · exact fun query hne hquery => hne (hinv.single thread query hid hquery)
  · exact ⟨_, hslot⟩
  · intro outcome heq
    cases heq
  · intro found heq
    cases heq
  · intro heq
    obtain rfl : fired = true := (WaitPhase.popping.inj heq).2
    obtain ⟨result, rfl⟩ := Option.isSome_iff_exists.mp
      (hinv.fired event pending hslot (hfired.mpr rfl))
    exact ⟨event, result, hslot⟩

/-- The wait of this id ends and takes the slot away. -/
theorem UsedOnce.popped_move {requestId : String} (hinv : UsedOnce state requestId)
    {thread : Nat} {fired : Bool}
    (hthread : state.waits thread = .popping requestId fired) :
    UsedOnce { state.setWait thread
        (.ended requestId (waitOutcome requestId fired (state.slots.get? requestId))) with
      slots := state.slots.erase requestId } requestId := by
  have hid : (state.waits thread).requestId? = some requestId := by
    rw [hthread]
    rfl
  have hgone : (state.slots.erase requestId).get? requestId = none := Dict.get?_erase_self _ _
  have hno {slot : Nat × Option ρ} {p : Prop}
      (hget : (state.slots.erase requestId).get? requestId = some slot) : p := by
    rw [hgone] at hget
    cases hget
  have hself {query : Nat} {found : WaitPhase ρ} (hfound : found.requestId? = some requestId)
      (hget : Function.update state.waits thread
        (.ended requestId (waitOutcome requestId fired (state.slots.get? requestId))) query =
          found) :
      query = thread ∧
        found = .ended requestId
          (waitOutcome requestId fired (state.slots.get? requestId)) := by
    rcases update_cases hget with hnew | ⟨hne, hkept⟩
    · exact hnew
    · rw [← hkept] at hfound
      exact absurd (hinv.single thread query hid hfound) hne
  exact {
    slot_created := fun _ hget => hno hget
    delivery_created := hinv.delivery_created
    wait_created := fun _ _ => hinv.wait_created thread hid
    present := fun _ hopen => absurd (Function.update_self _ _ _) (hopen thread _)
    absent := fun _ _ _ => hgone
    single := fun query query' hget hget' =>
      (hself hget' rfl).1.trans (hself hget rfl).1.symm
    blocked := fun query event hget => by cases (hself rfl hget).2
    popping := fun query hget => by cases (hself rfl hget).2
    setting := fun _ _ _ _ _ _ hget => hno hget
    fired := fun _ _ hget => hno hget
    source := fun _ _ hget => hno hget
    completed := fun _ _ _ _ _ hget => hno hget
    refused := fun _ _ _ => hgone
    result := by
      intro query outcome hget
      have heq := (WaitPhase.ended.inj (hself rfl hget).2).2
      unfold waitOutcome at heq
      split at heq
      · next hfired =>
          subst hfired
          obtain ⟨event, result, hslot⟩ := hinv.popping thread hthread
          rw [hslot, Option.bind_some] at heq
          exact ⟨result, Except.ok.inj heq, hinv.source event result hslot⟩
      · cases heq }

/-- Every step of a single-use run keeps what holds of each id. -/
theorem usedOnce_move (hevents : EventsDistinct state)
    (hinv : ∀ requestId, UsedOnce state requestId) (hok : SingleUse state label)
    (hmove : Move state label next) (requestId : String) : UsedOnce next requestId := by
  by_cases habout : labelId state label = some requestId
  · cases hmove with
    | created other =>
        obtain rfl := Option.some.inj habout
        exact (hinv other).createSlot hevents hok
    | refused hthread hslot =>
        obtain rfl := Option.some.inj habout
        exact (hinv _).refused_move hok hthread hslot
    | stored _ hslot =>
        obtain rfl := Option.some.inj habout
        exact (hinv _).stored_move hslot
    | eventSet hthread =>
        simp only [labelId, hthread] at habout
        obtain rfl := Option.some.inj habout
        exact (hinv _).eventSet_move hthread
    | noSlot _ hslot =>
        obtain rfl := Option.some.inj habout
        obtain ⟨hcreated, halone⟩ := hok
        obtain ⟨slot, hget⟩ := (hinv _).present hcreated fun thread outcome hended =>
          halone thread (congrArg WaitPhase.requestId? hended)
        rw [hslot] at hget
        cases hget
    | found _ hslot =>
        obtain rfl := Option.some.inj habout
        obtain ⟨hcreated, halone⟩ := hok
        apply (hinv _).setWait hcreated (fun query _ => halone query) ⟨_, hslot⟩
        · intro outcome heq
          cases heq
        · intro event heq
          cases heq
          exact ⟨_, hslot⟩
        · intro heq
          cases heq
    | @waited _ thread event other fired hlabel hthread hfired =>
        have hid : (state.waits thread).requestId? = some requestId := by
          subst hlabel
          cases fired <;> exact habout
        rw [hthread] at hid
        obtain rfl := Option.some.inj hid
        exact (hinv _).waited_move hthread hfired
    | popped hthread =>
        simp only [labelId, hthread] at habout
        obtain rfl := Option.some.inj habout
        exact (hinv _).popped_move hthread
  · exact (hinv requestId).congr (sameFor_move hevents hmove habout)

theorem usedOnce_of_reachable (hreach : (system ρ).ReachableVia SingleUse state) :
    ∀ requestId, UsedOnce state requestId := by
  apply hreach.invariant
  · rintro _ rfl requestId
    exact usedOnce_create requestId
  · intro _ _ _ hprev hinv hok hstep
    exact usedOnce_move (eventsDistinct_of_reachable hprev) hinv hok (step_move hstep)

/-- An id that a delivery has been completed for and whose wait, if any, has not
run out of time. -/
structure InTime (requestId : String) (state : ResultSlots ρ) : Prop where
  delivered : ∃ call result answer, state.deliveries call = .returned requestId result answer
  unexpired : ∀ thread, state.waits thread ≠ .popping requestId false
  unraised : ∀ thread err, state.waits thread ≠ .ended requestId (.error err)

theorem returned_kept (hmove : Move state label next) {call : Nat} {requestId : String}
    {result : ρ} {answer : Bool}
    (hcall : state.deliveries call = .returned requestId result answer) :
    next.deliveries call = .returned requestId result answer := by
  have hother {thread : Nat} {phase : DeliverPhase ρ}
      (hthread : state.deliveries thread ≠ .returned requestId result answer) :
      Function.update state.deliveries thread phase call =
        .returned requestId result answer := by
    have hne : call ≠ thread := fun heq => hthread (heq ▸ hcall)
    rw [Function.update_of_ne hne, hcall]
  cases hmove with
  | refused hthread _ | stored hthread _ | eventSet hthread =>
      exact hother (by rw [hthread]; simp)
  | created _ | noSlot _ _ | found _ _ | waited _ _ _ | popped _ => exact hcall

theorem ended_kept (hmove : Move state label next) {thread : Nat} {requestId : String}
    {outcome : Except PyException (Option ρ)}
    (hended : state.waits thread = .ended requestId outcome) :
    next.waits thread = .ended requestId outcome := by
  have hother {query : Nat} {phase : WaitPhase ρ}
      (hquery : state.waits query ≠ .ended requestId outcome) :
      Function.update state.waits query phase thread = .ended requestId outcome := by
    have hne : thread ≠ query := fun heq => hquery (heq ▸ hended)
    rw [Function.update_of_ne hne, hended]
  cases hmove with
  | noSlot hthread _ | found hthread _ | waited _ hthread _ | popped hthread =>
      exact hother (by rw [hthread]; simp)
  | created _ | refused _ _ | stored _ _ | eventSet _ => exact hended

/-- A completed delivery leaves a slot whose event has fired, as long as the slot
is there. -/
theorem InTime.fired {requestId : String} (hinv : UsedOnce state requestId)
    (hintime : InTime requestId state) {event : Nat} {pending : Option ρ}
    (hslot : state.slots.get? requestId = some (event, pending)) : event ∈ state.fired := by
  obtain ⟨call, result, answer, hcall⟩ := hintime.delivered
  cases answer with
  | true => exact hinv.completed call result hcall event pending hslot
  | false =>
      rw [hinv.refused call result hcall] at hslot
      cases hslot

/-- Once a delivery has come in time, the wait can no longer expire. -/
theorem InTime.move {requestId : String} (hinv : ∀ requestId, UsedOnce state requestId)
    (hintime : InTime requestId state) (hok : SingleUse state label)
    (hmove : Move state label next) : InTime requestId next := by
  obtain ⟨call, result, answer, hcall⟩ := hintime.delivered
  refine ⟨⟨call, result, answer, returned_kept hmove hcall⟩, ?_, ?_⟩
  · intro query hget
    cases hmove with
    | created _ | refused _ _ | stored _ _ | eventSet _ => exact hintime.unexpired query hget
    | noSlot _ _ | found _ _ | popped _ =>
        rcases update_cases hget with ⟨_, hphase⟩ | ⟨_, hkept⟩
        · cases hphase
        · exact hintime.unexpired query hkept
    | @waited _ thread event other fired hlabel hthread hfired =>
        rcases update_cases hget with ⟨_, hphase⟩ | ⟨_, hkept⟩
        · cases hphase
          obtain ⟨pending, hslot⟩ := (hinv requestId).blocked thread event hthread
          cases hfired.mp (hintime.fired (hinv requestId) hslot)
        · exact hintime.unexpired query hkept
  · intro query err hget
    cases hmove with
    | created _ | refused _ _ | stored _ _ | eventSet _ => exact hintime.unraised query err hget
    | found _ _ | waited _ _ _ =>
        rcases update_cases hget with ⟨_, hphase⟩ | ⟨_, hkept⟩
        · cases hphase
        · exact hintime.unraised query err hkept
    | noSlot _ hslot =>
        rcases update_cases hget with ⟨_, hphase⟩ | ⟨_, hkept⟩
        · cases hphase
          obtain ⟨hcreated, halone⟩ := hok
          obtain ⟨slot, hpresent⟩ := (hinv requestId).present hcreated
            fun thread outcome hended => halone thread (congrArg WaitPhase.requestId? hended)
          rw [hslot] at hpresent
          cases hpresent
        · exact hintime.unraised query err hkept
    | @popped thread other fired hthread =>
        rcases update_cases hget with ⟨_, hphase⟩ | ⟨_, hkept⟩
        · obtain ⟨rfl, houtcome⟩ := WaitPhase.ended.inj hphase
          cases fired with
          | true => cases houtcome
          | false => exact hintime.unexpired thread hthread
        · exact hintime.unraised query err hkept

/-- What the callers of the slot map rely on, for one id. -/
structure ResultKept (state : ResultSlots ρ) (requestId : String) : Prop where
  /-- A wait that returns gives a result delivered for its id. -/
  returned : ∀ thread outcome, state.waits thread = .ended requestId (.ok outcome) →
    ∃ result, outcome = some result ∧ ∃ call, (state.deliveries call).Stored requestId result
  /-- Once a delivery has completed before the wait's time is up, the wait goes
  through: it never raises, and each of its steps to come is enabled. -/
  answered : InTime requestId state → ∀ later, (system ρ).RunVia SingleUse state later →
    (∀ thread err, later.waits thread ≠ .ended requestId (.error err)) ∧
    (∀ thread event, later.waits thread = .blocked requestId event →
      ∃ woken, later.step (.wake thread) = some woken ∧
        woken.waits thread = .popping requestId true) ∧
    ∀ thread fired, later.waits thread = .popping requestId fired →
      ∃ popped result, later.step (.pop thread) = some popped ∧
        popped.waits thread = .ended requestId (.ok (some result))
  /-- After the wait has ended, the id is absent and its deliveries are refused
  and change nothing. -/
  closed : ∀ thread outcome, state.waits thread = .ended requestId outcome →
    ∀ later, (system ρ).RunVia SingleUse state later →
      later.slots.get? requestId = none ∧
      ∀ call result next, later.step (.deliver call requestId result) = some next →
        next.deliveries call = .returned requestId result false ∧
          next.slots = later.slots ∧ next.fired = later.fired
  /-- Steps about other ids change nothing. -/
  framed : ∀ label next, state.step label = some next →
    labelId state label ≠ some requestId → SameFor requestId state next

theorem resultKept_answered (hreach : (system ρ).ReachableVia SingleUse state)
    {requestId : String} (hintime : InTime requestId state) {later : ResultSlots ρ}
    (hrun : (system ρ).RunVia SingleUse state later) :
    (∀ thread err, later.waits thread ≠ .ended requestId (.error err)) ∧
    (∀ thread event, later.waits thread = .blocked requestId event →
      ∃ woken, later.step (.wake thread) = some woken ∧
        woken.waits thread = .popping requestId true) ∧
    ∀ thread fired, later.waits thread = .popping requestId fired →
      ∃ popped result, later.step (.pop thread) = some popped ∧
        popped.waits thread = .ended requestId (.ok (some result)) := by
  have hlater : InTime requestId later := by
    apply hrun.invariant hreach hintime
    intro _ _ _ hprev hinv hok hstep
    exact hinv.move (usedOnce_of_reachable hprev) hok (step_move hstep)
  have hinv := usedOnce_of_reachable (hrun.reachable hreach) requestId
  refine ⟨hlater.unraised, ?_, ?_⟩
  · intro thread event hthread
    obtain ⟨pending, hslot⟩ := hinv.blocked thread event hthread
    have hfired := hlater.fired hinv hslot
    refine ⟨later.setWait thread (.popping requestId true), ?_, Function.update_self _ _ _⟩
    simp only [step, eventWait, hthread, hfired, if_pos]
  · intro thread fired hthread
    obtain rfl : fired = true := by
      cases fired with
      | true => rfl
      | false => exact absurd hthread (hlater.unexpired thread)
    obtain ⟨event, result, hslot⟩ := hinv.popping thread hthread
    refine ⟨_, result, by simp only [step, pop, hthread]; rfl, ?_⟩
    simp [ResultSlots.setWait, waitOutcome, hslot]

theorem resultKept_closed (hreach : (system ρ).ReachableVia SingleUse state)
    {requestId : String} {thread : Nat} {outcome : Except PyException (Option ρ)}
    (hended : state.waits thread = .ended requestId outcome) {later : ResultSlots ρ}
    (hrun : (system ρ).RunVia SingleUse state later) :
    later.slots.get? requestId = none ∧
      ∀ call result next, later.step (.deliver call requestId result) = some next →
        next.deliveries call = .returned requestId result false ∧
          next.slots = later.slots ∧ next.fired = later.fired := by
  have hlater : later.waits thread = .ended requestId outcome := by
    apply @TransitionSystem.RunVia.invariant _ _ _ _
      (fun state => state.waits thread = .ended requestId outcome) _ _ hrun hreach hended
    intro _ _ _ _ hinv _ hstep
    exact ended_kept (step_move hstep) hinv
  have hgone := (usedOnce_of_reachable (hrun.reachable hreach) requestId).absent thread outcome
    hlater
  refine ⟨hgone, ?_⟩
  intro call result next hstep
  cases step_move hstep with
  | refused _ _ => exact ⟨Function.update_self _ _ _, rfl, rfl⟩
  | stored _ hslot =>
      rw [hgone] at hslot
      cases hslot
  | @waited _ _ _ _ fired hlabel _ _ => cases fired <;> cases hlabel

/-- Under single-use ids, in every state any interleaving of the calls comes
to, the slot map keeps what each of its callers relies on. -/
theorem single_use_results (hreach : (system ρ).ReachableVia SingleUse state)
    (requestId : String) : ResultKept state requestId where
  returned := (usedOnce_of_reachable hreach requestId).result
  answered hintime _ hrun := resultKept_answered hreach hintime hrun
  closed _ _ hended _ hrun := resultKept_closed hreach hended hrun
  framed _ _ hstep := sameFor_move (eventsDistinct_of_reachable hreach) (step_move hstep)

/-- A delivery that comes between the lookup and the event wait of another
thread. -/
theorem single_use_results_delivered :
    ∃ state : ResultSlots Nat, (system Nat).exec create
        [.createSlot "a", .lookup 0 "a", .deliver 0 "a" 7, .setEvent 0, .wake 0, .pop 0] =
      some state ∧ state.waits 0 = .ended "a" (.ok (some 7)) ∧ ResultKept state "a" := by
  have hnext {state next : ResultSlots Nat} (label : SlotLabel Nat)
      (hreach : (system Nat).ReachableVia SingleUse state) (hok : SingleUse state label)
      (hstep : state.step label = some next) : (system Nat).ReachableVia SingleUse next :=
    .step hreach hok hstep
  have hcreated := hnext (.createSlot "a") (.init rfl) (Finset.notMem_empty "a") rfl
  have hlookup := hnext (.lookup 0 "a") hcreated
    ⟨Finset.mem_insert_self _ _, fun thread heq => by cases heq⟩ rfl
  have hstored := hnext (.deliver 0 "a" 7) hlookup (Finset.mem_insert_self _ _) rfl
  have hset := hnext (.setEvent 0) hstored trivial rfl
  have hwoken := hnext (.wake 0) hset trivial rfl
  have hpopped := hnext (.pop 0) hwoken trivial rfl
  exact ⟨_, rfl, rfl, single_use_results hpopped "a"⟩

end PiSSM.Pipeline
