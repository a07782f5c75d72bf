import PiSSM.Orchestrator.HttpApi

/-!
What the table of model states guarantees. The check of
`_ensure_loading_started` and its insertion are separate sections, and only
models that are ready are evicted, so both results are about the runs in which
no check overlaps another load: under that condition at most one model is
active, and the load of one model is idempotent.
-/

namespace PiSSM.Orchestrator.HttpState

open PiSSM.Lib PiSSM.Inference

variable {state next : HttpState} {label : HttpLabel}

/-- A model that is active, is being loaded or is about to be inserted. -/
def Busy (state : HttpState) (name : String) : Prop :=
  state.Active name ∨ (∃ loader, state.Running loader name) ∨
    ∃ id, state.InWindow id name

/-- A check that goes on to load a model finds no load of another one, neither
in the table, nor on a thread, nor on its way into the table. -/
def LoadsAlone (state : HttpState) (label : HttpLabel) : Prop :=
  ∀ id name, label = .request (.check id) → state.PassesCheck id name →
    ∀ other, other ≠ name →
      (∀ entry, state.modelStates.get? other = some entry → entry.status ≠ .loading) ∧
      (∀ loader, ¬ state.Running loader other) ∧ ∀ id', ¬ state.InWindow id' other

/-- Every request is for this model. -/
def OnlyRequests (name : String) (_ : HttpState) (label : HttpLabel) : Prop :=
  ∀ id kind other, label = .request (.post id kind other) → other = name

/-- A check that goes on to load this model finds no other request between its
own check and its insertion. -/
def ChecksAlone (name : String) (state : HttpState) (label : HttpLabel) : Prop :=
  ∀ id, label = .request (.check id) → state.PassesCheck id name →
    ∀ id', ¬ state.InWindow id' name

/-- There is one loader thread at most, and a request that is dispatching the
model is alone: no other one is, no loader thread is running, and the model has
not been made ready since the last redistribution. -/
structure LoadedOnce (state : HttpState) (name : String) : Prop where
  threads : ∀ loader loader', state.Running loader name → state.Running loader' name →
    loader = loader'
  dispatch : ∀ id, state.InWindow id name →
    (∀ id', state.InWindow id' name → id' = id) ∧
    (∀ loader, ¬ state.Running loader name) ∧ name ∉ state.madeReady

theorem ModelState.isActive_iff {entry : ModelState} :
    entry.isActive = true ↔ entry.status ≠ .error := by
  unfold ModelState.isActive
  cases entry.status <;> simp

theorem active_iff {name : String} :
    state.Active name ↔ (state.modelStates.get? name).any ModelState.isActive = true := by
  simp [Active, Option.any_eq_true]

theorem running_iff {loader : Nat} {name : String} :
    state.Running loader name ↔ (state.loaders loader).any
      (fun thread => thread.running && thread.manifest.name = name) = true := by
  simp [Running, Option.any_eq_true]

instance (state : HttpState) (name : String) : Decidable (state.Active name) :=
  decidable_of_iff _ active_iff.symm

instance (state : HttpState) (loader : Nat) (name : String) :
    Decidable (state.Running loader name) :=
  decidable_of_iff _ running_iff.symm

/-- A ready entry is not found after the eviction; the others are. -/
theorem evictLoaded_get? (states : Dict String ModelState) (name : String) :
    (evictLoaded states).get? name =
      (states.get? name).filter fun entry => entry.status ≠ .ready := by
  have hmem : name ∈ (loadedModels states).map Prod.fst ↔
      ∃ entry, states.get? name = some entry ∧ entry.status = .ready := by
    simp only [loadedModels, List.map_map, List.mem_map, List.mem_filter,
      decide_eq_true_eq, Function.comp_apply]
    constructor
    · rintro ⟨⟨key, entry⟩, ⟨hitem, hready⟩, rfl⟩
      exact ⟨entry, (states.mem_items_iff _ _).mp hitem, hready⟩
    · rintro ⟨entry, hget, hready⟩
      exact ⟨(name, entry), ⟨(states.mem_items_iff _ _).mpr hget, hready⟩, rfl⟩
  unfold evictLoaded
  rw [Dict.get?_foldl_erase]
  cases hget : states.get? name with
  | none => simp
  | some entry =>
      simp only [hget, Option.some.injEq, exists_eq_left'] at hmem
      by_cases hready : entry.status = .ready
      · rw [if_pos (hmem.mpr hready), Option.filter_some]
        simp [hready]
      · rw [if_neg (fun hin => hready (hmem.mp hin)), Option.filter_some]
        simp [hready]

/-- The window after a request has moved: it is in its own window if its new
phase is, and the others are where they were. -/
theorem inWindow_setPhase {id id' : Nat} {request : HttpRequest} {phase : RequestPhase}
    {name : String} :
    (state.setPhase id request phase).InWindow id' name ↔
      (id' = id ∧ phase.inWindow = true ∧ request.manifest.name = name) ∨
        (id' ≠ id ∧ state.InWindow id' name) := by
  by_cases hid : id' = id
  · subst hid
    simp [InWindow, setPhase]
  · simp [InWindow, setPhase, hid]

theorem InWindow.of_move {id id' : Nat} {request : HttpRequest} {phase : RequestPhase}
    {name : String} (hwin : (state.setPhase id request phase).InWindow id' name)
    (hget : state.requests id = some request)
    (hwindow : phase.inWindow = true → request.phase.inWindow = true) :
    state.InWindow id' name := by
  rcases inWindow_setPhase.mp hwin with ⟨rfl, hphase, hname⟩ | ⟨_, hin⟩
  · exact ⟨request, hget, hwindow hphase, hname⟩
  · exact hin

theorem InWindow.of_leave {id id' : Nat} {request : HttpRequest} {phase : RequestPhase}
    {name : String} (hwin : (state.setPhase id request phase).InWindow id' name)
    (hphase : phase.inWindow = false) : id' ≠ id ∧ state.InWindow id' name := by
  rcases inWindow_setPhase.mp hwin with ⟨_, hin, _⟩ | hother
  · rw [hphase] at hin
    cases hin
  · exact hother

theorem InWindow.of_post {id id' : Nat} {request : HttpRequest} {name : String}
    (hwin : ({ state with
      requests := Function.update state.requests id (some request) } : HttpState).InWindow
        id' name)
    (hphase : request.phase.inWindow = false) : state.InWindow id' name := by
  obtain ⟨found, hget, hin, hname⟩ := hwin
  simp only [Function.update_apply] at hget
  split at hget
  · obtain rfl := Option.some.inj hget
    rw [hphase] at hin
    cases hin
  · exact ⟨found, hget, hin, hname⟩

theorem Running.of_update {loader loader' : Nat} {thread : LoaderThread} {name : String}
    (hrun : ({ state with
      loaders := Function.update state.loaders loader (some thread) } : HttpState).Running
        loader' name) :
    (loader' = loader ∧ thread.running = true ∧ thread.manifest.name = name) ∨
      (loader' ≠ loader ∧ state.Running loader' name) := by
  obtain ⟨found, hget, hrunning, hname⟩ := hrun
  simp only [Function.update_apply] at hget
  split at hget
  · next heq =>
      obtain rfl := Option.some.inj hget
      exact .inl ⟨heq, hrunning, hname⟩
  · next hne => exact .inr ⟨hne, found, hget, hrunning, hname⟩

/-- The entries after one has been set. -/
theorem Active.of_set {key name : String} {entry : ModelState}
    (hactive : ({ state with
      modelStates := state.modelStates.set key entry } : HttpState).Active name) :
    (name = key ∧ entry.isActive = true) ∨ state.Active name := by
  obtain ⟨found, hget, hfound⟩ := hactive
  simp only [Dict.get?_set] at hget
  split at hget
  · next hkey =>
      obtain rfl := Option.some.inj hget
      exact .inl ⟨hkey, hfound⟩
  · exact .inr ⟨found, hget, hfound⟩

theorem Active.of_erase {key name : String}
    (hactive : ({ state with
      modelStates := state.modelStates.erase key } : HttpState).Active name) :
    state.Active name := by
  obtain ⟨found, hget, hfound⟩ := hactive
  simp only [Dict.get?_erase] at hget
  split at hget
  · cases hget
  · exact ⟨found, hget, hfound⟩

/-- What is active after an eviction is still loading. -/
theorem Active.of_evict {name : String}
    (hactive : ({ state with modelStates := evictLoaded state.modelStates } :
      HttpState).Active name) :
    ∃ entry, state.modelStates.get? name = some entry ∧ entry.status = .loading := by
  obtain ⟨entry, hget, hfound⟩ := hactive
  simp only [evictLoaded_get?, Option.filter_eq_some_iff, decide_eq_true_eq] at hget
  refine ⟨entry, hget.1, ?_⟩
  have herror := ModelState.isActive_iff.mp hfound
  have hready := hget.2
  cases hstatus : entry.status with
  | loading => rfl
  | ready => exact absurd hstatus hready
  | error => exact absurd hstatus herror

/-- A check that goes on to load `name`: what is ready is evicted and nothing
but its own request enters a window. -/
structure Evicts (state next : HttpState) (id : Nat) (name : String) : Prop where
  pass : state.PassesCheck id name
  states : next.modelStates = evictLoaded state.modelStates
  loaders : next.loaders = state.loaders
  window : ∀ id' other, next.InWindow id' other → other = name ∨ state.InWindow id' other

/-- A model becomes busy only by passing its check. -/
theorem Transition.busy {name : String} (htrans : Transition state label next)
    (hbusy : next.Busy name) :
    state.Busy name ∨
      ∃ id, label = .request (.check id) ∧ Evicts state next id name := by
  cases htrans with
  | registry _ _ => exact .inl hbusy
  | post hfresh hphase =>
      rcases hbusy with hactive | hrun | ⟨id', hwin⟩
      · exact .inl (.inl hactive)
      · exact .inl (.inr (.inl hrun))
      · exact .inl (.inr (.inr ⟨id', hwin.of_post hphase⟩))
  | move hget hwindow _ =>
      rcases hbusy with hactive | hrun | ⟨id', hwin⟩
      · exact .inl (.inl hactive)
      · exact .inl (.inr (.inl hrun))
      · exact .inl (.inr (.inr ⟨id', hwin.of_move hget hwindow⟩))
  | takeDown hget _ _ =>
      rcases hbusy with hactive | hrun | ⟨id', hwin⟩
      · exact .inl (.inl hactive.of_erase)
      · exact .inl (.inr (.inl hrun))
      · have hin : _ ∧ state.InWindow id' name := InWindow.of_leave hwin rfl
        exact .inl (.inr (.inr ⟨id', hin.2⟩))
  | @evict id request calls hget hpass =>
      rcases hbusy with hactive | hrun | ⟨id', hwin⟩
      · obtain ⟨entry, hentry, hloading⟩ := hactive.of_evict
        have hentryActive : entry.isActive = true := by
          simp [ModelState.isActive, hloading]
        exact .inl (.inl ⟨entry, hentry, hentryActive⟩)
      · exact .inl (.inr (.inl hrun))
      · have hsplit (other : Nat) (model : String)
            (hother : (state.setPhase id request (.evicting calls)).InWindow other model) :
            model = request.manifest.name ∨ state.InWindow other model := by
          rcases inWindow_setPhase.mp hother with ⟨_, _, hname⟩ | ⟨_, hin⟩
          · exact .inl hname.symm
          · exact .inr hin
        rcases hsplit id' name hwin with rfl | hin
        · exact .inr ⟨id, rfl, hpass, rfl, rfl, hsplit⟩
        · exact .inl (.inr (.inr ⟨id', hin⟩))
  | planFailed hget _ hphase =>
      rcases hbusy with hactive | hrun | ⟨id', hwin⟩
      · rcases hactive.of_set with ⟨_, herror⟩ | hactive
        · simp [ModelState.isActive] at herror
        · exact .inl (.inl hactive)
      · exact .inl (.inr (.inl hrun))
      · have hin : _ ∧ state.InWindow id' name := InWindow.of_leave hwin hphase
        exact .inl (.inr (.inr ⟨id', hin.2⟩))
  | @started id loader request plan phase hget hrecording hphase hfresh =>
      have hwindow : state.InWindow id request.manifest.name :=
        ⟨request, hget, by rw [hrecording]; rfl, rfl⟩
      rcases hbusy with hactive | ⟨loader', hrun⟩ | ⟨id', hwin⟩
      · rcases hactive.of_set with ⟨rfl, _⟩ | hactive
        · exact .inl (.inr (.inr ⟨id, hwindow⟩))
        · exact .inl (.inl hactive)
      · rcases hrun.of_update with ⟨_, _, rfl⟩ | ⟨_, hrun⟩
        · exact .inl (.inr (.inr ⟨id, hwindow⟩))
        · exact .inl (.inr (.inl ⟨loader', hrun⟩))
      · have hin : _ ∧ state.InWindow id' name := InWindow.of_leave hwin hphase
        exact .inl (.inr (.inr ⟨id', hin.2⟩))
  | @ended loader thread outcome hget hrunning =>
      have hrun : state.Running loader thread.manifest.name := ⟨thread, hget, hrunning, rfl⟩
      rcases hbusy with hactive | ⟨loader', hother⟩ | hwin
      · rcases hactive.of_set with ⟨rfl, _⟩ | hactive
        · exact .inl (.inr (.inl ⟨loader, hrun⟩))
        · exact .inl (.inl hactive)
      · rcases hother.of_update with ⟨_, hended, _⟩ | ⟨_, hother⟩
        · cases hended
        · exact .inl (.inr (.inl ⟨loader', hother⟩))
      · exact .inl (.inr (.inr hwin))

/-- After a check that ran alone, only the model it found idle is busy. -/
theorem Evicts.busy_eq {id : Nat} {name other : String} (hevict : Evicts state next id name)
    (halone : state.LoadsAlone (.request (.check id))) (hbusy : next.Busy other) :
    other = name := by
  by_contra hne
  obtain ⟨hloading, hrunning, hwin⟩ := halone id name rfl hevict.pass other hne
  rcases hbusy with hactive | ⟨loader, thread, hget, hrun, hname⟩ | ⟨id', hin⟩
  · obtain ⟨entry, hentry, hfound⟩ := hactive
    rw [hevict.states] at hentry
    have hleft : ({ state with modelStates := evictLoaded state.modelStates } :
        HttpState).Active other := ⟨entry, hentry, hfound⟩
    obtain ⟨old, hold, hstatus⟩ := hleft.of_evict
    exact hloading old hold hstatus
  · rw [hevict.loaders] at hget
    exact hrunning loader ⟨thread, hget, hrun, hname⟩
  · rcases hevict.window id' other hin with heq | hin
    · exact hne heq
    · exact hwin id' hin

/-- One step keeps at most one model busy. -/
theorem Transition.sole (htrans : Transition state label next)
    (halone : state.LoadsAlone label)
    (hsole : ∀ name name', state.Busy name → state.Busy name' → name = name') :
    ∀ name name', next.Busy name → next.Busy name' → name = name' := by
  intro name name' hbusy hbusy'
  rcases htrans.busy hbusy with hold | ⟨id, rfl, hevict⟩
  · rcases htrans.busy hbusy' with hold' | ⟨id, rfl, hevict⟩
    · exact hsole name name' hold hold'
    · exact hevict.busy_eq halone hbusy
  · exact (hevict.busy_eq halone hbusy').symm

theorem create_not_busy (registry : NodeRegistry) (name : String) :
    ¬ (create registry).Busy name := by
  rintro (⟨entry, hget, _⟩ | ⟨loader, thread, hget, _⟩ | ⟨id, request, hget, _⟩)
  · simp [create] at hget
  · simp [create] at hget
  · simp [create] at hget

/-- What the runs for one model keep under `ChecksAlone`. -/
structure LoadedOnceInv (state : HttpState) (name : String) : Prop where
  requests : ∀ id request, state.requests id = some request → request.manifest.name = name
  entries : ∀ key entry, state.modelStates.get? key = some entry → key = name
  threads : ∀ loader thread, state.loaders loader = some thread → thread.manifest.name = name
  window : ∀ id id', state.InWindow id name → state.InWindow id' name → id = id'
  windowIdle : ∀ id, state.InWindow id name →
    (∀ loader, ¬ state.Running loader name) ∧ name ∉ state.madeReady
  running : ∀ loader loader', state.Running loader name → state.Running loader' name →
    loader = loader'
  runningLoading : ∀ loader, state.Running loader name →
    ∃ entry, state.modelStates.get? name = some entry ∧ entry.status = .loading
  ready : name ∈ state.madeReady →
    ∃ entry, state.modelStates.get? name = some entry ∧ entry.status = .ready

theorem LoadedOnceInv.loadedOnce {name : String} (hinv : state.LoadedOnceInv name) :
    state.LoadedOnce name where
  threads := hinv.running
  dispatch id hin :=
    ⟨fun id' hin' => hinv.window id' id hin' hin, hinv.windowIdle id hin⟩

theorem create_loadedOnceInv (registry : NodeRegistry) (name : String) :
    (create registry).LoadedOnceInv name where
  requests id request hget := by simp [create] at hget
  entries key entry hget := by simp [create] at hget
  threads loader thread hget := by simp [create] at hget
  window id id' hin := by
    obtain ⟨request, hget, _⟩ := hin
    simp [create] at hget
  windowIdle id hin := by
    obtain ⟨request, hget, _⟩ := hin
    simp [create] at hget
  running loader loader' hrun := by
    obtain ⟨thread, hget, _⟩ := hrun
    simp [create] at hget
  runningLoading loader hrun := by
    obtain ⟨thread, hget, _⟩ := hrun
    simp [create] at hget
  ready hready := by simp [create] at hready

/-- Requests keep their manifest; a new one has the model it was posted for. -/
theorem Transition.request_name {name : String} (htrans : Transition state label next)
    (honly : OnlyRequests name state label)
    (hold : ∀ id request, state.requests id = some request → request.manifest.name = name) :
    ∀ id request, next.requests id = some request → request.manifest.name = name := by
  intro id request hget
  cases htrans with
  | registry _ _ => exact hold id request hget
  | post hfresh hphase =>
      simp only [Function.update_apply] at hget
      split at hget
      · obtain rfl := Option.some.inj hget
        exact honly _ _ _ rfl
      · exact hold id request hget
  | move hmoved _ _ | takeDown hmoved _ _ | evict hmoved _ | planFailed hmoved _ _
  | started hmoved _ _ _ =>
      simp only [setPhase, Function.update_apply] at hget
      split at hget
      · obtain rfl := Option.some.inj hget
        have hname := hold _ _ hmoved
        exact hname
      · exact hold id request hget
  | ended _ _ => exact hold id request hget

/-- Steps that leave the table, the threads and the history alone. -/
theorem LoadedOnceInv.quiet {name : String} (hinv : state.LoadedOnceInv name)
    (hrequests : ∀ id request, next.requests id = some request →
      request.manifest.name = name)
    (hstates : next.modelStates = state.modelStates)
    (hloaders : next.loaders = state.loaders) (hready : next.madeReady = state.madeReady)
    (hwindow : ∀ id, next.InWindow id name → state.InWindow id name) :
    next.LoadedOnceInv name := by
  have hrun (loader : Nat) : next.Running loader name ↔ state.Running loader name := by
    rw [Running, Running, hloaders]
  constructor
  · exact hrequests
  · rw [hstates]
    exact hinv.entries
  · rw [hloaders]
    exact hinv.threads
  · intro id id' hin hin'
    exact hinv.window id id' (hwindow id hin) (hwindow id' hin')
  · intro id hin
    simp only [hrun, hready]
    exact hinv.windowIdle id (hwindow id hin)
  · simp only [hrun]
    exact hinv.running
  · simp only [hrun, hstates]
    exact hinv.runningLoading
  · rw [hready, hstates]
    exact hinv.ready

theorem LoadedOnceInv.takeDown {name : String} {id : Nat} {request : HttpRequest}
    {entry : ModelState} (hinv : state.LoadedOnceInv name)
    (hrequests : ∀ other found, (state.setPhase id request
      (.entering (unloadCalls entry.session))).requests other = some found →
        found.manifest.name = name)
    (hget : state.requests id = some request)
    (hentry : state.modelStates.get? request.manifest.name = some entry)
    (hstatus : entry.status ≠ .loading) :
    ({ state.setPhase id request (.entering (unloadCalls entry.session)) with
        modelStates := state.modelStates.erase request.manifest.name
        madeReady := state.madeReady.erase request.manifest.name } :
      HttpState).LoadedOnceInv name := by
  obtain rfl := hinv.requests id request hget
  have hidle (loader : Nat) : ¬ state.Running loader request.manifest.name := by
    intro hrun
    obtain ⟨found, hfound, hloading⟩ := hinv.runningLoading loader hrun
    obtain rfl : entry = found := Option.some.inj (hentry.symm.trans hfound)
    exact hstatus hloading
  constructor
  · exact hrequests
  · intro key found hfound
    simp only [Dict.get?_erase] at hfound
    split at hfound
    · cases hfound
    · exact hinv.entries key found hfound
  · exact hinv.threads
  · intro id' id'' hin hin'
    have hout : _ ∧ state.InWindow id' _ := InWindow.of_leave hin rfl
    have hout' : _ ∧ state.InWindow id'' _ := InWindow.of_leave hin' rfl
    exact hinv.window id' id'' hout.2 hout'.2
  · intro id' hin
    exact ⟨hidle, Finset.notMem_erase _ _⟩
  · exact hinv.running
  · intro loader hrun
    exact absurd hrun (hidle loader)
  · intro hready
    exact absurd hready (Finset.notMem_erase _ _)

theorem LoadedOnceInv.evict {name : String} {id : Nat} {request : HttpRequest}
    {calls : List UnloadCall} (hinv : state.LoadedOnceInv name)
    (hrequests : ∀ other found, (state.setPhase id request
      (.evicting calls)).requests other = some found → found.manifest.name = name)
    (hget : state.requests id = some request)
    (hpass : state.PassesCheck id request.manifest.name)
    (halone : ChecksAlone name state (.request (.check id))) :
    ({ state.setPhase id request (.evicting calls) with
        modelStates := evictLoaded state.modelStates } : HttpState).LoadedOnceInv name := by
  obtain rfl := hinv.requests id request hget
  have hnone := halone id rfl hpass
  have hidle (loader : Nat) : ¬ state.Running loader request.manifest.name := by
    intro hrun
    obtain ⟨entry, hentry, hloading⟩ := hinv.runningLoading loader hrun
    exact hpass.2 ⟨entry, hentry, by simp [ModelState.isActive, hloading]⟩
  have hnotReady : request.manifest.name ∉ state.madeReady := by
    intro hready
    obtain ⟨entry, hentry, hstatus⟩ := hinv.ready hready
    exact hpass.2 ⟨entry, hentry, by simp [ModelState.isActive, hstatus]⟩
  have hown (id' : Nat) (hin : (state.setPhase id request (.evicting calls)).InWindow id'
      request.manifest.name) : id' = id := by
    rcases inWindow_setPhase.mp hin with ⟨heq, _⟩ | ⟨_, hin⟩
    · exact heq
    · exact absurd hin (hnone id')
  constructor
  · exact hrequests
  · intro key found hfound
    simp only [evictLoaded_get?, Option.filter_eq_some_iff] at hfound
    exact hinv.entries key found hfound.1
  · exact hinv.threads
  · intro id' id'' hin hin'
    exact (hown id' hin).trans (hown id'' hin').symm
  · intro id' _
    exact ⟨hidle, hnotReady⟩
  · exact hinv.running
  · intro loader hrun
    exact absurd hrun (hidle loader)
  · intro hready
    exact absurd hready hnotReady

theorem LoadedOnceInv.planFailed {name message : String} {id : Nat} {request : HttpRequest}
    {phase : RequestPhase} (hinv : state.LoadedOnceInv name)
    (hrequests : ∀ other found, (state.setPhase id request phase).requests other = some found →
      found.manifest.name = name)
    (hget : state.requests id = some request) (hwindow : request.phase.inWindow = true)
    (hphase : phase.inWindow = false) :
    ({ state.setPhase id request phase with
        modelStates := state.modelStates.set request.manifest.name
          ⟨.error, none, none, some message⟩ } : HttpState).LoadedOnceInv name := by
  obtain rfl := hinv.requests id request hget
  have hin : state.InWindow id request.manifest.name := ⟨request, hget, hwindow, rfl⟩
  obtain ⟨hidle, hnotReady⟩ := hinv.windowIdle id hin
  constructor
  · exact hrequests
  · intro key found hfound
    simp only [Dict.get?_set] at hfound
    split at hfound
    · next hkey => exact hkey
    · exact hinv.entries key found hfound
  · exact hinv.threads
  · intro id' id'' hin' hin''
    have hout : _ ∧ state.InWindow id' _ := InWindow.of_leave hin' hphase
    have hout' : _ ∧ state.InWindow id'' _ := InWindow.of_leave hin'' hphase
    exact hinv.window id' id'' hout.2 hout'.2
  · intro id' _
    exact ⟨hidle, hnotReady⟩
  · exact hinv.running
  · intro loader hrun
    exact absurd hrun (hidle loader)
  · intro hready
    exact absurd hready hnotReady

theorem LoadedOnceInv.started {name : String} {id loader : Nat} {request : HttpRequest}
    {plan : DispatchPlan} {phase : RequestPhase} (hinv : state.LoadedOnceInv name)
    (hrequests : ∀ other found, (state.setPhase id request phase).requests other = some found →
      found.manifest.name = name)
    (hget : state.requests id = some request) (hwindow : request.phase.inWindow = true)
    (hphase : phase.inWindow = false) :
    ({ state.setPhase id request phase with
        modelStates := state.modelStates.set request.manifest.name
          ⟨.loading, some plan, none, none⟩
        loaders := Function.update state.loaders loader
          (some ⟨request.manifest, plan, true⟩) } : HttpState).LoadedOnceInv name := by
  obtain rfl := hinv.requests id request hget
  have hin : state.InWindow id request.manifest.name := ⟨request, hget, hwindow, rfl⟩
  obtain ⟨hidle, hnotReady⟩ := hinv.windowIdle id hin
  have hnone (id' : Nat) : ¬ (state.setPhase id request phase).InWindow id'
      request.manifest.name := by
    intro hin'
    have hother := hin'.of_leave hphase
    exact hother.1 (hinv.window id' id hother.2 hin)
  constructor
  · exact hrequests
  · intro key found hfound
    simp only [Dict.get?_set] at hfound
    split at hfound
    · next hkey => exact hkey
    · exact hinv.entries key found hfound
  · intro loader' thread hthread
    simp only [Function.update_apply] at hthread
    split at hthread
    · obtain rfl := Option.some.inj hthread
      rfl
    · exact hinv.threads loader' thread hthread
  · intro id' id'' hin'
    exact absurd hin' (hnone id')
  · intro id' hin'
    exact absurd hin' (hnone id')
  · intro loader' loader'' hrun hrun'
    rcases hrun.of_update with ⟨rfl, _⟩ | ⟨_, hold⟩
    · rcases hrun'.of_update with ⟨rfl, _⟩ | ⟨_, hold⟩
      · rfl
      · exact absurd hold (hidle loader'')
    · exact absurd hold (hidle loader')
  · intro loader' _
    exact ⟨_, Dict.get?_set_self _ _ _, rfl⟩
  · intro hready
    exact absurd hready hnotReady

theorem LoadedOnceInv.ended {name : String} {loader : Nat} {thread : LoaderThread}
    {outcome : Except PyException Unit} {ready : Finset String}
    (hinv : state.LoadedOnceInv name)
    (hget : state.loaders loader = some thread) (hrunning : thread.running = true)
    (hready : name ∈ ready → outcome = .ok () ∨ name ∈ state.madeReady) :
    ({ state with
        modelStates := state.modelStates.set thread.manifest.name
          (loadOutcome loader thread.plan outcome)
        loaders := Function.update state.loaders loader
          (some { thread with running := false })
        madeReady := ready } : HttpState).LoadedOnceInv name := by
  obtain rfl := hinv.threads loader thread hget
  have hrun : state.Running loader thread.manifest.name := ⟨thread, hget, hrunning, rfl⟩
  have hnone (id : Nat) : ¬ state.InWindow id thread.manifest.name := fun hin =>
    (hinv.windowIdle id hin).1 loader hrun
  have hidle (loader' : Nat) : ¬ ({ state with
      loaders := Function.update state.loaders loader
        (some { thread with running := false }) } : HttpState).Running loader'
          thread.manifest.name := by
    intro hrun'
    rcases hrun'.of_update with ⟨_, hended, _⟩ | ⟨hne, hother⟩
    · cases hended
    · exact hne (hinv.running loader' loader hother hrun)
  constructor
  · exact hinv.requests
  · intro key found hfound
    simp only [Dict.get?_set] at hfound
    split at hfound
    · next hkey => exact hkey
    · exact hinv.entries key found hfound
  · intro loader' found hfound
    simp only [Function.update_apply] at hfound
    split at hfound
    · obtain rfl := Option.some.inj hfound
      rfl
    · exact hinv.threads loader' found hfound
  · intro id id' hin
    exact absurd hin (hnone id)
  · intro id hin
    exact absurd hin (hnone id)
  · intro loader' loader'' hrun'
    exact absurd hrun' (hidle loader')
  · intro loader' hrun'
    exact absurd hrun' (hidle loader')
  · intro hmem
    refine ⟨_, Dict.get?_set_self _ _ _, ?_⟩
    rcases hready hmem with rfl | hold
    · rfl
    · obtain ⟨entry, hentry, hstatus⟩ := hinv.ready hold
      obtain ⟨entry', hentry', hloading⟩ := hinv.runningLoading loader hrun
      obtain rfl : entry = entry' := Option.some.inj (hentry.symm.trans hentry')
      rw [hstatus] at hloading
      cases hloading

theorem LoadedOnceInv.step {name : String} (hinv : state.LoadedOnceInv name)
    (htrans : Transition state label next) (honly : OnlyRequests name state label)
    (halone : ChecksAlone name state label) : next.LoadedOnceInv name := by
  have hrequests := htrans.request_name honly hinv.requests
  cases htrans with
  | registry _ _ => exact hinv.quiet hrequests rfl rfl rfl fun _ hin => hin
  | post _ hphase =>
      exact hinv.quiet hrequests rfl rfl rfl fun _ hin => hin.of_post hphase
  | move hget hwindow _ =>
      exact hinv.quiet hrequests rfl rfl rfl fun _ hin => hin.of_move hget hwindow
  | takeDown hget hentry hstatus => exact hinv.takeDown hrequests hget hentry hstatus
  | evict hget hpass => exact hinv.evict hrequests hget hpass halone
  | planFailed hget hrecording hphase =>
      exact hinv.planFailed hrequests hget (by rw [hrecording]; rfl) hphase
  | started hget hrecording hphase _ =>
      exact hinv.started hrequests hget (by rw [hrecording]; rfl) hphase
  | @ended loader thread outcome hget hrunning =>
      apply hinv.ended hget hrunning
      intro hready
      cases outcome with
      | ok _ => exact .inl rfl
      | error _ => exact .inr hready

/-- Requests are there once they have been posted, and loader threads once they have been
started. -/
theorem allowed_of_reachable {registry : NodeRegistry} {ok : HttpState → HttpLabel → Prop}
    {allowed : Nat → Prop}
    (hpost : ∀ s id kind name, ok s (.request (.post id kind name)) → allowed id)
    (hrecord : ∀ s id loader, ok s (.request (.record id loader)) → allowed loader)
    (hreach : (system registry).ReachableVia ok state) :
    (∀ id request, state.requests id = some request → allowed id) ∧
      ∀ loader thread, state.loaders loader = some thread → allowed loader := by
  apply hreach.invariant
  · rintro _ rfl
    constructor
    · intro id request hget
      simp [create] at hget
    · intro loader thread hget
      simp [create] at hget
  · rintro s label t _ ⟨hrequests, hloaders⟩ hok hstep
    cases step_transition hstep with
    | registry _ _ => exact ⟨hrequests, hloaders⟩
    | post _ _ =>
        refine ⟨?_, hloaders⟩
        intro id request hget
        rcases update_cases hget with ⟨rfl, _⟩ | ⟨_, hold⟩
        · exact hpost _ _ _ _ hok
        · exact hrequests id request hold
    | move hmoved _ _ | takeDown hmoved _ _ | evict hmoved _ | planFailed hmoved _ _ =>
        refine ⟨?_, hloaders⟩
        intro id request hget
        rcases update_cases hget with ⟨rfl, _⟩ | ⟨_, hold⟩
        · exact hrequests _ _ hmoved
        · exact hrequests id request hold
    | started hmoved _ _ _ =>
        constructor
        · intro id request hget
          rcases update_cases hget with ⟨rfl, _⟩ | ⟨_, hold⟩
          · exact hrequests _ _ hmoved
          · exact hrequests id request hold
        · intro loader thread hget
          rcases update_cases hget with ⟨rfl, _⟩ | ⟨_, hold⟩
          · exact hrecord _ _ _ hok
          · exact hloaders loader thread hold
    | ended hthread _ =>
        refine ⟨hrequests, ?_⟩
        intro loader thread hget
        rcases update_cases hget with ⟨rfl, _⟩ | ⟨_, hold⟩
        · exact hloaders _ _ hthread
        · exact hloaders loader thread hold

/-- No load is under way, of two requests with two loader threads. -/
def quiet (state : HttpState) : Bool :=
  (state.modelStates.items.all fun entry => entry.2.status ≠ .loading) &&
    (List.range 2).all fun number =>
      (state.loaders number).all (fun thread => !thread.running) &&
        (state.requests number).all fun request => !request.phase.inWindow

/-- Enough for a check of one of two requests to be made alone: its model is active, or no
load is under way. -/
def aloneNow (state : HttpState) : HttpLabel → Bool
  | .request (.post id _ _) => id < 2
  | .request (.record _ loader) => loader < 2
  | .request (.check id) =>
      ((state.requests id).any fun request =>
        (state.modelStates.get? request.manifest.name).any ModelState.isActive) || state.quiet
  | _ => true

/-- A check that goes on to load a model finds no load under way. -/
theorem idle_of_aloneNow {registry : NodeRegistry}
    (hreach : (system registry).ReachableVia (fun s l => s.aloneNow l = true) state) {id : Nat}
    {name : String} (hnow : state.aloneNow (.request (.check id)) = true)
    (hpass : state.PassesCheck id name) :
    (∀ other entry, state.modelStates.get? other = some entry → entry.status ≠ .loading) ∧
      (∀ loader other, ¬ state.Running loader other) ∧ ∀ id' other, ¬ state.InWindow id' other := by
  obtain ⟨⟨request, hget, _, rfl⟩, hnotActive⟩ := hpass
  have hquiet : state.quiet = true := by
    refine (Bool.or_eq_true_iff.mp hnow).resolve_left ?_
    rw [hget, Option.any_some, ← active_iff]
    exact hnotActive
  obtain ⟨hentries, hnumbers⟩ := Bool.and_eq_true_iff.mp hquiet
  rw [List.all_eq_true] at hentries hnumbers
  have hbelow := @allowed_of_reachable state registry _ (· < 2)
    (fun _ _ _ _ hok => of_decide_eq_true hok) (fun _ _ _ hok => of_decide_eq_true hok) hreach
  refine ⟨?_, ?_, ?_⟩
  · intro other entry hentry
    have hitem := (state.modelStates.mem_items_iff other entry).mpr hentry
    exact of_decide_eq_true (hentries _ hitem)
  · rintro loader other ⟨thread, hthread, hrunning, _⟩
    have hidle := hnumbers loader (List.mem_range.mpr (hbelow.2 loader thread hthread))
    simp only [hthread, Option.all_some, hrunning] at hidle
    cases hidle
  · rintro id' other ⟨found, hfound, hwindow, _⟩
    have hout := hnumbers id' (List.mem_range.mpr (hbelow.1 id' found hfound))
    simp only [hfound, Option.all_some, hwindow, Bool.not_true, Bool.and_false] at hout
    cases hout

end PiSSM.Orchestrator.HttpState

namespace PiSSM.Pipeline

open PiSSM.Lib PiSSM.Inference PiSSM.Orchestrator

/-- Only one model runs on the cluster at a time, in every run whose checks are
made while no other model is being loaded. -/
theorem one_active_model (registry : NodeRegistry) {state : HttpState}
    (hreach : (HttpState.system registry).ReachableVia HttpState.LoadsAlone state)
    {name name' : String} (hactive : state.Active name) (hactive' : state.Active name') :
    name = name' := by
  have hsole : ∀ name name', state.Busy name → state.Busy name' → name = name' := by
    apply hreach.invariant
    · rintro _ rfl name name' hbusy
      exact absurd hbusy (HttpState.create_not_busy registry name)
    · intro s label t _ hinv halone hstep
      exact (HttpState.step_transition hstep).sole halone hinv
  exact hsole name name' (.inl hactive) (.inl hactive')

/-- A model is loaded after another one, which is evicted from the two workers. -/
def oneAfterAnother : List HttpLabel :=
  [.request (.register { fiveLayerManifest with name := "a" }),
    .request (.register { fiveLayerManifest with name := "b" }),
    .request (.post 0 .load "a"), .request (.check 0), .request (.plan 0),
    .request (.record 0 0), .finishLoad 0 (.ok ()), .request (.post 1 .load "b"),
    .request (.check 1), .unload 1, .unload 1, .request (.plan 1), .request (.record 1 1)]

theorem one_active_model_two :
    ∃ state, (HttpState.system twoNodeRegistry).Reachable state ∧ "a" ∈ state.madeReady ∧
      state.Active "b" ∧ ∀ name, state.Active name → name = "b" := by
  obtain ⟨state, hnow, htest⟩ := TransitionSystem.reachable_of_execGuarded oneAfterAnother
    (.init rfl : (HttpState.system twoNodeRegistry).ReachableVia
      (fun s label => s.aloneNow label = true) (.create twoNodeRegistry))
    (fun _ _ hnow => hnow)
    (by decide : (((HttpState.system twoNodeRegistry).execGuarded HttpState.aloneNow
      (.create twoNodeRegistry) oneAfterAnother).any fun state =>
        decide ("a" ∈ state.madeReady ∧ state.Active "b")) = true)
  obtain ⟨hready, hactive⟩ := of_decide_eq_true htest
  have hreach : (HttpState.system twoNodeRegistry).ReachableVia HttpState.LoadsAlone state := by
    apply hnow.weaken
    rintro s label hbefore hguard id name rfl hpass other _
    obtain ⟨hentries, hrunning, hwindow⟩ := HttpState.idle_of_aloneNow hbefore hguard hpass
    exact ⟨hentries other, fun loader => hrunning loader other, fun id' => hwindow id' other⟩
  exact ⟨state, hreach.reachable, hready, hactive,
    fun name hname => one_active_model twoNodeRegistry hreach hname hactive⟩

def twoModelsRun : List HttpLabel :=
  [.request (.register { fiveLayerManifest with name := "a" }),
    .request (.register { fiveLayerManifest with name := "b" }),
    .request (.post 0 .load "a"), .request (.check 0), .request (.plan 0),
    .request (.record 0 0),
    .request (.post 1 .load "b"), .request (.check 1), .request (.plan 1),
    .request (.record 1 1)]

/-- A load that starts while another model is still loading evicts nothing, and
both models are active. -/
theorem one_active_model_counterexample :
    ¬ ∀ state, (HttpState.system twoNodeRegistry).Reachable state →
      ∀ name name', state.Active name → state.Active name' → name = name' := by
  intro hclaim
  have hboth : ∃ state, (HttpState.system twoNodeRegistry).Reachable state ∧
      decide (state.Active "a" ∧ state.Active "b") = true := by
    apply TransitionSystem.reachable_of_exec twoModelsRun rfl (fun _ _ _ => trivial)
    decide
  obtain ⟨state, hreach, htest⟩ := hboth
  obtain ⟨ha, hb⟩ := of_decide_eq_true htest
  have heq := hclaim state hreach "a" "b" ha hb
  exact absurd heq (by decide)

/-- Loading one model is idempotent, in every run of requests for it whose
checks do not overlap another request's way from its check to its insertion. -/
theorem loaded_once (registry : NodeRegistry) (name : String) {state : HttpState}
    (hreach : (HttpState.system registry).ReachableVia
      (fun state label => HttpState.OnlyRequests name state label ∧
        HttpState.ChecksAlone name state label) state) :
    state.LoadedOnce name := by
  have hinv : state.LoadedOnceInv name := by
    apply hreach.invariant
    · rintro _ rfl
      exact HttpState.create_loadedOnceInv registry name
    · intro s label t _ hinv hok hstep
      exact hinv.step (HttpState.step_transition hstep) hok.1 hok.2
  exact hinv.loadedOnce

/-- A second request for the model comes while it is being loaded. -/
def loadedMeanwhile : List HttpLabel :=
  [.request (.register fiveLayerManifest), .request (.post 0 .load "m"),
    .request (.post 1 .load "m"), .request (.check 0), .request (.plan 0),
    .request (.record 0 0), .request (.check 1), .finishLoad 0 (.ok ())]

/-- The request is for this model. -/
def postsOnly (name : String) : HttpLabel → Bool
  | .request (.post _ _ other) => other = name
  | _ => true

/-- Both requests have been answered, and the model has been made ready. -/
theorem loaded_once_two :
    ∃ state : HttpState, state.LoadedOnce "m" ∧ "m" ∈ state.madeReady ∧
      ([0, 1].all fun id => (state.requests id).any fun request =>
        request.phase = .responded (.modelState .loading none (some 2))) = true := by
  obtain ⟨state, hnow, htest⟩ := TransitionSystem.reachable_of_execGuarded loadedMeanwhile
    (.init rfl : (HttpState.system twoNodeRegistry).ReachableVia
      (fun s label => (s.aloneNow label && postsOnly "m" label) = true)
      (.create twoNodeRegistry))
    (fun _ _ hnow => hnow)
    (by decide : (((HttpState.system twoNodeRegistry).execGuarded
      (fun s label => s.aloneNow label && postsOnly "m" label) (.create twoNodeRegistry)
      loadedMeanwhile).any fun state => decide ("m" ∈ state.madeReady ∧
        ([0, 1].all fun id => (state.requests id).any fun request =>
          request.phase = .responded (.modelState .loading none (some 2))) = true)) = true)
  obtain ⟨hready, hanswered⟩ := of_decide_eq_true htest
  refine ⟨state, loaded_once twoNodeRegistry "m" ?_, hready, hanswered⟩
  apply hnow.weaken
  intro s label hbefore hguard
  obtain ⟨halone, hposts⟩ := Bool.and_eq_true_iff.mp hguard
  constructor
  · rintro id kind other rfl
    exact of_decide_eq_true hposts
  · rintro id rfl hpass id'
    have hbefore' := hbefore.weaken fun _ _ _ hok => (Bool.and_eq_true_iff.mp hok).1
    exact (HttpState.idle_of_aloneNow hbefore' halone hpass).2.2 id' "m"

/-- Two load requests whose checks both come before the first insertion. -/
def overlappingLoadsRun : List HttpLabel :=
  [.request (.register fiveLayerManifest),
    .request (.post 0 .load "m"), .request (.post 1 .load "m"),
    .request (.check 0), .request (.check 1),
    .request (.plan 0), .request (.record 0 0), .request (.plan 1), .request (.record 1 1)]

/-- Both of them start a loader thread. -/
theorem loaded_once_counterexample :
    ¬ ∀ state, (HttpState.system twoNodeRegistry).ReachableVia
        (HttpState.OnlyRequests "m") state → state.LoadedOnce "m" := by
  intro hclaim
  have hboth : ∃ state, (HttpState.system twoNodeRegistry).ReachableVia
      (HttpState.OnlyRequests "m") state ∧
      decide (state.Running 0 "m" ∧ state.Running 1 "m") = true := by
    apply TransitionSystem.reachable_of_exec overlappingLoadsRun rfl
    · intro label hmem state id kind other hpost
      simp [overlappingLoadsRun, hpost] at hmem
      rcases hmem with hmem | hmem
      · exact hmem.2.2
      · exact hmem.2.2
    · decide
  obtain ⟨state, hreach, htest⟩ := hboth
  obtain ⟨hfirst, hsecond⟩ := of_decide_eq_true htest
  have heq := (hclaim state hreach).threads 0 1 hfirst hsecond
  exact absurd heq (by decide)

end PiSSM.Pipeline
