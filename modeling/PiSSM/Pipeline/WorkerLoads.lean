import PiSSM.Inference.Worker

/-!
The loads of one worker over all interleavings of its calls. A name is never both
held and being loaded, exactly the names being loaded have an unfinished load and
each of them has one, and every accepted call makes one report. A report of
success tells what the worker holds as long as no call is answered from a handle
of another shard.
-/

namespace PiSSM.Pipeline

open PiSSM.Lib PiSSM.Inference PiSSM.Inference.Worker

variable {μ κ : Type*} {worker next : Worker μ κ} {label : WorkerLabel μ κ} {nodeId : String}

/-- A call whose background load has not executed its locked completion. -/
def Unfinished (worker : Worker μ κ) (name : String) (id : Nat) : Prop :=
  ∃ request response, worker.calls id = some ⟨request, response, .loading⟩ ∧
    request.modelName = name

structure LoadsInv (worker : Worker μ κ) : Prop where
  exclusive : ∀ name ∈ worker.servicer.loading, worker.servicer.models.get? name = none
  marked : ∀ name id, Unfinished worker name id → name ∈ worker.servicer.loading
  covered : ∀ name ∈ worker.servicer.loading, ∃ id, Unfinished worker name id
  unique : ∀ name id id', Unfinished worker name id → Unfinished worker name id' → id' = id
  answered : ∀ id call, worker.calls id = some call →
    (call.response.success = false ↔ call.thread = .none)
  /-- A decided outcome of failure has left nothing in the table. -/
  failed : ∀ id request response report held,
    worker.calls id = some ⟨request, response, .reporting report held⟩ ∨
      worker.calls id = some ⟨request, response, .ended report held⟩ →
    report.success = false → held = none
  reported : ∀ id report, (id, report) ∈ worker.reports →
    ∃ request response held,
      worker.calls id = some ⟨request, response, .ended report held⟩
  once : ∀ id request response report held,
    worker.calls id = some ⟨request, response, .ended report held⟩ →
      worker.reports.countP (fun sent => sent.1 = id) = 1

theorem loadsInv_create : LoadsInv (create nodeId : Worker μ κ) where
  exclusive name hname := absurd hname (Finset.notMem_empty name)
  marked _ _ hload := by
    obtain ⟨_, _, hcall, _⟩ := hload
    cases hcall
  covered name hname := absurd hname (Finset.notMem_empty name)
  unique _ _ _ hload := by
    obtain ⟨_, _, hcall, _⟩ := hload
    cases hcall
  answered _ _ hcall := by cases hcall
  failed _ _ _ _ _ hcall := by rcases hcall with hcall | hcall <;> cases hcall
  reported _ _ hmem := by cases hmem
  once _ _ _ _ _ hcall := by cases hcall

/-- No report has been made for a call that has not ended. -/
theorem LoadsInv.count_zero (hinv : LoadsInv worker) {id : Nat}
    (hopen : ∀ request response report held,
      worker.calls id ≠ some ⟨request, response, .ended report held⟩) :
    worker.reports.countP (fun sent => sent.1 = id) = 0 := by
  rw [List.countP_eq_zero]
  rintro ⟨sent, report⟩ hmem heq
  obtain rfl : sent = id := by simpa using heq
  obtain ⟨request, response, held, hcall⟩ := hinv.reported sent report hmem
  exact hopen request response report held hcall

/-- The unfinished loads after a call has moved to a phase in which it is not one
of them. -/
theorem unfinished_setCall {id : Nat} {call : LoadCall μ κ} {name : String} {query : Nat}
    (hcall : call.thread ≠ .loading)
    (hload : Unfinished (worker.setCall id call) name query) :
    query ≠ id ∧ Unfinished worker name query := by
  obtain ⟨request, response, hget, hname⟩ := hload
  rcases update_cases hget with ⟨_, heq⟩ | ⟨hne, hkept⟩
  · obtain rfl := Option.some.inj heq
    exact absurd rfl hcall
  · exact ⟨hne, request, response, hkept, hname⟩

theorem unfinished_kept {id : Nat} {call : LoadCall μ κ} {name : String} {query : Nat}
    (hne : query ≠ id) (hload : Unfinished worker name query) :
    Unfinished (worker.setCall id call) name query := by
  obtain ⟨request, response, hget, hname⟩ := hload
  exact ⟨request, response, (Function.update_of_ne hne _ _).trans hget, hname⟩

theorem LoadsInv.answered_setCall (hinv : LoadsInv worker) {id : Nat} {call : LoadCall μ κ}
    (hanswer : call.response.success = false ↔ call.thread = .none) (query : Nat)
    (found : LoadCall μ κ) (hget : (worker.setCall id call).calls query = some found) :
    found.response.success = false ↔ found.thread = .none := by
  rcases update_cases hget with ⟨_, heq⟩ | ⟨_, hkept⟩
  · obtain rfl := Option.some.inj heq
    exact hanswer
  · exact hinv.answered query found hkept

/-- A decided outcome is that of the call which has moved or was there before. -/
theorem decided_setCall {id query : Nat} {call : LoadCall μ κ} {request : LoadShardRequest}
    {response : LoadShardResponse} {report : ShardReadyRequest}
    {held : Option (ModelHandle μ κ)}
    (hget : (worker.setCall id call).calls query =
        some ⟨request, response, .reporting report held⟩ ∨
      (worker.setCall id call).calls query = some ⟨request, response, .ended report held⟩) :
    (call.request = request ∧
      (call.thread = .reporting report held ∨ call.thread = .ended report held)) ∨
    worker.calls query = some ⟨request, response, .reporting report held⟩ ∨
      worker.calls query = some ⟨request, response, .ended report held⟩ := by
  rcases hget with hget | hget
  · rcases update_cases hget with ⟨_, heq⟩ | ⟨_, hkept⟩
    · obtain rfl := Option.some.inj heq
      exact .inl ⟨rfl, .inl rfl⟩
    · exact .inr (.inl hkept)
  · rcases update_cases hget with ⟨_, heq⟩ | ⟨_, hkept⟩
    · obtain rfl := Option.some.inj heq
      exact .inl ⟨rfl, .inr rfl⟩
    · exact .inr (.inr hkept)

/-- The outcomes of failure after a call whose own outcome, if it has one, is as
it should be. -/
theorem LoadsInv.failed_setCall (hinv : LoadsInv worker) {id : Nat} {call : LoadCall μ κ}
    (hdecided : ∀ report held,
      call.thread = .reporting report held ∨ call.thread = .ended report held →
        report.success = false → held = none)
    (query : Nat) (request : LoadShardRequest) (response : LoadShardResponse)
    (report : ShardReadyRequest) (held : Option (ModelHandle μ κ))
    (hget : (worker.setCall id call).calls query =
        some ⟨request, response, .reporting report held⟩ ∨
      (worker.setCall id call).calls query = some ⟨request, response, .ended report held⟩)
    (hfailed : report.success = false) : held = none := by
  rcases decided_setCall hget with ⟨_, hnew⟩ | hkept
  · exact hdecided report held hnew hfailed
  · exact hinv.failed query request response report held hkept hfailed

/-- The reports made so far, after a call that has made none has moved on. -/
theorem LoadsInv.reported_setCall (hinv : LoadsInv worker) {id : Nat} {call : LoadCall μ κ}
    (hopen : ∀ request response report held,
      worker.calls id ≠ some ⟨request, response, .ended report held⟩)
    (query : Nat) (report : ShardReadyRequest) (hmem : (query, report) ∈ worker.reports) :
    ∃ request response held, (worker.setCall id call).calls query =
      some ⟨request, response, .ended report held⟩ := by
  obtain ⟨request, response, held, hcall⟩ := hinv.reported query report hmem
  have hne : query ≠ id := by
    rintro rfl
    exact hopen request response report held hcall
  exact ⟨request, response, held, (Function.update_of_ne hne _ _).trans hcall⟩

theorem LoadsInv.once_setCall (hinv : LoadsInv worker) {id : Nat} {call : LoadCall μ κ}
    (hopen : ∀ report held, call.thread ≠ .ended report held) (query : Nat)
    (request : LoadShardRequest) (response : LoadShardResponse) (report : ShardReadyRequest)
    (held : Option (ModelHandle μ κ))
    (hget : (worker.setCall id call).calls query =
      some ⟨request, response, .ended report held⟩) :
    worker.reports.countP (fun sent => sent.1 = query) = 1 := by
  rcases update_cases hget with ⟨_, heq⟩ | ⟨_, hkept⟩
  · obtain rfl := Option.some.inj heq
    exact absurd rfl (hopen report held)
  · exact hinv.once query request response report held hkept

/-- A call that is answered without a background load. -/
theorem LoadsInv.answered_call (hinv : LoadsInv worker) {id : Nat} {call : LoadCall μ κ}
    (hfresh : worker.calls id = none) (hthread : call.thread = .none ∨
      ∃ report held, call.thread = .reporting report held ∧ report.success = true)
    (hanswer : call.response.success = false ↔ call.thread = .none) :
    LoadsInv (worker.setCall id call) := by
  have hloading : call.thread ≠ .loading := by
    intro heq
    rcases hthread with hnone | ⟨_, _, hreporting, _⟩
    · rw [heq] at hnone
      cases hnone
    · rw [heq] at hreporting
      cases hreporting
  have hopen : ∀ report held, call.thread ≠ .ended report held := by
    intro report held heq
    rcases hthread with hnone | ⟨_, _, hreporting, _⟩
    · rw [heq] at hnone
      cases hnone
    · rw [heq] at hreporting
      cases hreporting
  have hold {name : String} {query : Nat} (hload : Unfinished worker name query) :
      query ≠ id := by
    rintro rfl
    obtain ⟨_, _, hcall, _⟩ := hload
    rw [hfresh] at hcall
    cases hcall
  constructor
  · exact hinv.exclusive
  · exact fun name query hload =>
      hinv.marked name query (unfinished_setCall hloading hload).2
  · intro name hname
    obtain ⟨query, hload⟩ := hinv.covered name hname
    exact ⟨query, unfinished_kept (hold hload) hload⟩
  · exact fun name query query' hload hload' =>
      hinv.unique name query query' (unfinished_setCall hloading hload).2
        (unfinished_setCall hloading hload').2
  · exact hinv.answered_setCall hanswer
  · apply hinv.failed_setCall
    intro report held hdecided hfailed
    rcases hdecided with hreporting | hended
    · rcases hthread with hnone | ⟨_, _, hother, hsuccess⟩
      · rw [hreporting] at hnone
        cases hnone
      · rw [hreporting] at hother
        cases hother
        rw [hfailed] at hsuccess
        cases hsuccess
    · exact absurd hended (hopen report held)
  · apply hinv.reported_setCall
    intro _ _ _ _ hcall
    rw [hfresh] at hcall
    cases hcall
  · exact hinv.once_setCall hopen

/-- A call that is accepted: its name is marked and its load is unfinished. -/
theorem LoadsInv.accepted_call (hinv : LoadsInv worker) {id : Nat}
    {request : LoadShardRequest} (hfresh : worker.calls id = none)
    (hget : worker.servicer.models.get? request.modelName = none)
    (hloading : request.modelName ∉ worker.servicer.loading) :
    LoadsInv { worker.setCall id ⟨request, ⟨true, ""⟩, .loading⟩ with
      servicer := { worker.servicer with
        loading := insert request.modelName worker.servicer.loading } } := by
  have hcases {name : String} {query : Nat}
      (hload : Unfinished (worker.setCall id ⟨request, ⟨true, ""⟩, .loading⟩) name query) :
      (query = id ∧ name = request.modelName) ∨ Unfinished worker name query := by
    obtain ⟨found, response, hcall, hname⟩ := hload
    rcases update_cases hcall with ⟨hquery, heq⟩ | ⟨_, hkept⟩
    · cases Option.some.inj heq
      exact .inl ⟨hquery, hname.symm⟩
    · exact .inr ⟨found, response, hkept, hname⟩
  have hunmarked {query : Nat} : ¬ Unfinished worker request.modelName query := fun hload =>
    hloading (hinv.marked _ query hload)
  constructor
  · intro name hname
    rcases Finset.mem_insert.mp hname with rfl | hname
    · exact hget
    · exact hinv.exclusive name hname
  · intro name query hload
    rcases hcases hload with ⟨_, rfl⟩ | hold
    · exact Finset.mem_insert_self _ _
    · exact Finset.mem_insert_of_mem (hinv.marked name query hold)
  · intro name hname
    rcases Finset.mem_insert.mp hname with rfl | hname
    · exact ⟨id, request, ⟨true, ""⟩, Function.update_self _ _ _, rfl⟩
    · obtain ⟨query, hload⟩ := hinv.covered name hname
      have hne : query ≠ id := by
        rintro rfl
        obtain ⟨_, _, hcall, _⟩ := hload
        rw [hfresh] at hcall
        cases hcall
      exact ⟨query, unfinished_kept hne hload⟩
  · intro name query query' hload hload'
    rcases hcases hload with ⟨rfl, rfl⟩ | hold
    · rcases hcases hload' with ⟨rfl, _⟩ | hold'
      · rfl
      · exact absurd hold' hunmarked
    · rcases hcases hload' with ⟨_, rfl⟩ | hold'
      · exact absurd hold hunmarked
      · exact hinv.unique name query query' hold hold'
  · exact hinv.answered_setCall (by simp)
  · apply hinv.failed_setCall
    intro _ _ hdecided _
    rcases hdecided with hreporting | hended
    · cases hreporting
    · cases hended
  · apply hinv.reported_setCall
    intro _ _ _ _ hcall
    rw [hfresh] at hcall
    cases hcall
  · exact hinv.once_setCall (by simp)

/-- The locked completion of a load, successful or not. -/
theorem LoadsInv.finished_call (hinv : LoadsInv worker) {id : Nat}
    {built : Except String (μ × Nat)} {request : LoadShardRequest}
    {response : LoadShardResponse} {servicer : InferenceServicer μ κ}
    {report : ShardReadyRequest}
    (hcall : worker.calls id = some ⟨request, response, .loading⟩)
    (hfinish : worker.servicer.finishLoad request built = (servicer, report)) :
    LoadsInv { worker.setCall id ⟨request, response,
        .reporting report (servicer.models.get? request.modelName)⟩ with
      servicer := servicer } := by
  have hself : Unfinished worker request.modelName id := ⟨request, response, hcall, rfl⟩
  have hmarked := hinv.marked _ id hself
  have hloading := InferenceServicer.finishLoad_loading hfinish
  have hmodels := InferenceServicer.finishLoad_models hfinish
  have hothers {name : String} (hne : name ≠ request.modelName) :
      servicer.models.get? name = worker.servicer.models.get? name := by
    rcases hmodels with ⟨_, shard, memoryMb, heq⟩ | ⟨_, heq⟩
    · rw [heq, Dict.get?_set_of_ne _ _ hne]
    · rw [heq]
  constructor
  · intro name hname
    dsimp only at hname ⊢
    rw [hloading] at hname
    obtain ⟨hne, hname⟩ := Finset.mem_erase.mp hname
    rw [hothers hne]
    exact hinv.exclusive name hname
  · intro name query hload
    obtain ⟨hne, hold⟩ := unfinished_setCall (by simp) hload
    dsimp only
    rw [hloading]
    refine Finset.mem_erase.mpr ⟨?_, hinv.marked name query hold⟩
    rintro rfl
    exact hne (hinv.unique _ id query hself hold)
  · intro name hname
    dsimp only at hname
    rw [hloading] at hname
    obtain ⟨hne, hname⟩ := Finset.mem_erase.mp hname
    obtain ⟨query, hload⟩ := hinv.covered name hname
    have hquery : query ≠ id := by
      rintro rfl
      obtain ⟨found, answer, hget, rfl⟩ := hload
      rw [hcall] at hget
      cases hget
      exact hne rfl
    exact ⟨query, unfinished_kept hquery hload⟩
  · exact fun name query query' hload hload' =>
      hinv.unique name query query' (unfinished_setCall (by simp) hload).2
        (unfinished_setCall (by simp) hload').2
  · apply hinv.answered_setCall
    simpa using hinv.answered id _ hcall
  · apply hinv.failed_setCall
    intro sent held hdecided hfailed
    rcases hdecided with hreporting | hended
    · cases hreporting
      rcases hmodels with ⟨hsuccess, _⟩ | ⟨_, heq⟩
      · rw [hfailed] at hsuccess
        cases hsuccess
      · rw [heq]
        exact hinv.exclusive _ hmarked
    · cases hended
  · apply hinv.reported_setCall
    intro _ _ _ _ hended
    rw [hcall] at hended
    cases hended
  · exact hinv.once_setCall (by simp)

/-- The report of a call is made. -/
theorem LoadsInv.reported_call (hinv : LoadsInv worker) {id : Nat}
    {request : LoadShardRequest} {response : LoadShardResponse}
    {report : ShardReadyRequest} {held : Option (ModelHandle μ κ)}
    (hcall : worker.calls id = some ⟨request, response, .reporting report held⟩) :
    LoadsInv { worker.setCall id ⟨request, response, .ended report held⟩ with
      reports := worker.reports ++ [(id, report)] } := by
  have hne {name : String} {query : Nat} (hload : Unfinished worker name query) :
      query ≠ id := by
    rintro rfl
    obtain ⟨_, _, hget, _⟩ := hload
    rw [hcall] at hget
    cases hget
  have hopen : ∀ request response report held,
      worker.calls id ≠ some ⟨request, response, .ended report held⟩ := by
    intro _ _ _ _ hended
    rw [hcall] at hended
    cases hended
  have hzero := hinv.count_zero hopen
  constructor
  · exact hinv.exclusive
  · exact fun name query hload => hinv.marked name query (unfinished_setCall (by simp) hload).2
  · intro name hname
    obtain ⟨query, hload⟩ := hinv.covered name hname
    exact ⟨query, unfinished_kept (hne hload) hload⟩
  · exact fun name query query' hload hload' =>
      hinv.unique name query query' (unfinished_setCall (by simp) hload).2
        (unfinished_setCall (by simp) hload').2
  · apply hinv.answered_setCall
    simpa using hinv.answered id _ hcall
  · apply hinv.failed_setCall
    intro sent kept hdecided hfailed
    rcases hdecided with hreporting | hended
    · cases hreporting
    · cases hended
      exact hinv.failed id _ _ _ _ (.inl hcall) hfailed
  · intro query sent hmem
    rcases List.mem_append.mp hmem with hold | hnew
    · exact hinv.reported_setCall hopen query sent hold
    · cases List.mem_singleton.mp hnew
      exact ⟨request, response, held, Function.update_self _ _ _⟩
  · intro query found answer sent kept hget
    dsimp only
    rw [List.countP_append]
    rcases update_cases hget with ⟨rfl, _⟩ | ⟨hquery, hkept⟩
    · rw [hzero]
      simp
    · rw [hinv.once query found answer sent kept hkept]
      simp [Ne.symm hquery]

theorem loadsInv_move (hmove : Move worker label next) (hinv : LoadsInv worker) :
    LoadsInv next := by
  cases hmove with
  | held hfresh hget =>
      exact hinv.answered_call hfresh (.inr ⟨_, _, rfl, rfl⟩) (by simp)
  | rejected hfresh _ => exact hinv.answered_call hfresh (.inl rfl) (by simp)
  | accepted hfresh hget hloading => exact hinv.accepted_call hfresh hget hloading
  | finished hcall hfinish => exact hinv.finished_call hcall hfinish
  | reported hcall => exact hinv.reported_call hcall
  | unloaded modelName =>
      refine ⟨?_, ?_, ?_, hinv.unique, hinv.answered, hinv.failed, hinv.reported, hinv.once⟩
      · intro name hname
        dsimp only at hname ⊢
        rw [InferenceServicer.unloadShard_loading] at hname
        rw [InferenceServicer.unloadShard_get?]
        split
        · rfl
        · exact hinv.exclusive name hname
      · intro name id hload
        dsimp only
        rw [InferenceServicer.unloadShard_loading]
        exact hinv.marked name id hload
      · intro name hname
        dsimp only at hname
        rw [InferenceServicer.unloadShard_loading] at hname
        exact hinv.covered name hname
  | ran modelName cache =>
      obtain ⟨hcalls, hreports, hloading, hmodels⟩ := worker.runShard_frame modelName cache
      have hload {name : String} {id : Nat} :
          Unfinished (worker.runShard modelName cache) name id ↔ Unfinished worker name id := by
        unfold Unfinished
        rw [hcalls]
      refine ⟨?_, ?_, ?_, ?_, ?_, ?_, ?_, ?_⟩
      · intro name hname
        rw [hmodels]
        exact hinv.exclusive name (hloading ▸ hname)
      · intro name id hunfinished
        rw [hloading]
        exact hinv.marked name id (hload.mp hunfinished)
      · intro name hname
        obtain ⟨id, hunfinished⟩ := hinv.covered name (hloading ▸ hname)
        exact ⟨id, hload.mpr hunfinished⟩
      · exact fun name id id' hleft hright =>
          hinv.unique name id id' (hload.mp hleft) (hload.mp hright)
      · rw [hcalls]
        exact hinv.answered
      · rw [hcalls]
        exact hinv.failed
      · rw [hcalls, hreports]
        exact hinv.reported
      · rw [hcalls, hreports]
        exact hinv.once

theorem loadsInv_of_reachable
    (hreach : (system μ κ nodeId).Reachable worker) : LoadsInv worker := by
  apply hreach.invariant
  · rintro _ rfl
    exact loadsInv_create
  · intro _ _ _ _ hinv _ hstep
    exact loadsInv_move (step_move hstep) hinv

/-- In every state reached, whatever the interleaving: no name is both held and
being loaded, a name has one unfinished load while it is being loaded and none
otherwise, an accepted call has made its one report when its thread has ended and
a rejected one makes none, and failure is reported only for a load that has stored
no handle. -/
theorem worker_loads (hreach : (system μ κ nodeId).Reachable worker) :
    (∀ name ∈ worker.servicer.loading, worker.servicer.models.get? name = none) ∧
    (∀ name, {id | Unfinished worker name id}.encard =
      if name ∈ worker.servicer.loading then 1 else 0) ∧
    (∀ id call, worker.calls id = some call →
      (call.response.success = true → call.thread ≠ .none ∧
        ∀ report held, call.thread = .ended report held →
          worker.reports.countP (fun sent => sent.1 = id) = 1) ∧
      (call.response.success = false →
        worker.reports.countP (fun sent => sent.1 = id) = 0)) ∧
    (∀ id report, (id, report) ∈ worker.reports → report.success = false →
      ∃ request response, worker.calls id = some ⟨request, response, .ended report none⟩) := by
  have hinv := loadsInv_of_reachable hreach
  refine ⟨hinv.exclusive, ?_, ?_, ?_⟩
  · intro name
    split
    · next hname =>
        obtain ⟨id, hload⟩ := hinv.covered name hname
        rw [Set.encard_eq_one]
        refine ⟨id, Set.eq_singleton_iff_unique_mem.mpr ⟨hload, ?_⟩⟩
        exact fun other hother => hinv.unique name id other hload hother
    · next hname =>
        rw [Set.encard_eq_zero, Set.eq_empty_iff_forall_notMem]
        exact fun id hload => hname (hinv.marked name id hload)
  · rintro id ⟨request, response, thread⟩ hcall
    have hanswer := hinv.answered id _ hcall
    constructor
    · intro hsuccess
      refine ⟨fun hnone => ?_, ?_⟩
      · rw [hanswer.mpr hnone] at hsuccess
        cases hsuccess
      · rintro report held rfl
        exact hinv.once id request response report held hcall
    · intro hfailure
      apply hinv.count_zero
      intro request' response' report held hended
      rw [hcall] at hended
      cases hended
      cases hanswer.mp hfailure
  · intro id report hmem hfailed
    obtain ⟨request, response, held, hcall⟩ := hinv.reported id report hmem
    obtain rfl := hinv.failed id request response report held (.inr hcall) hfailed
    exact ⟨request, response, hcall⟩

/-- A request for these layers of a model. -/
def layersRequest (layerStart layerEnd : Nat) (nextWorkerAddress : String) :
    LoadShardRequest :=
  ⟨"m", "checkpoint", "mamba", layerStart, layerEnd, 24, nextWorkerAddress, [], "{}",
    "host:50050"⟩

/-- Two calls for one name, the second one while the first is loading. -/
def repeatedLoad : List (WorkerLabel Unit Unit) :=
  [.loadShard 0 (layersRequest 0 12 "b:50051"), .loadShard 1 (layersRequest 0 12 "b:50051"),
    .finishLoad 0 (.ok ((), 260)), .report 0]

theorem worker_loads_repeated :
    ∃ worker, (system Unit Unit "a").exec (create "a") repeatedLoad = some worker ∧
      worker.reports.countP (fun sent => sent.1 = 0) = 1 ∧
      worker.reports.countP (fun sent => sent.1 = 1) = 0 := by
  have hrun : (system Unit Unit "a").exec (create "a") repeatedLoad = some _ := rfl
  have hinit : (system Unit Unit "a").Reachable (create "a") := .init rfl
  have hreach := hinit.exec (fun _ _ _ => trivial) hrun
  obtain ⟨_, _, hcalls, _⟩ := worker_loads hreach
  exact ⟨_, hrun, ((hcalls 0 _ rfl).1 rfl).2 _ _ rfl, (hcalls 1 _ rfl).2 rfl⟩

/-- The shard of this request. -/
def IsShardOf (request : LoadShardRequest) (handle : ModelHandle μ κ) : Prop :=
  handle.layerStart = request.layerStart ∧ handle.layerEnd = request.layerEnd ∧
    handle.nextWorkerAddress = request.nextWorkerAddress

/-- Every report of success tells what the worker held when the outcome was
decided. -/
def SuccessReportsDescribe (worker : Worker μ κ) : Prop :=
  ∀ id request response report held,
    worker.calls id = some ⟨request, response, .reporting report held⟩ ∨
      worker.calls id = some ⟨request, response, .ended report held⟩ →
    report.success = true →
      ∃ handle, held = some handle ∧ IsShardOf request handle ∧
        report.layersLoaded = (handle.layerEnd : Int) - handle.layerStart

/-- A call answered from the table finds the shard it asks for. -/
def FindsOwnShard (worker : Worker μ κ) : WorkerLabel μ κ → Prop
  | .loadShard _ request => ∀ handle,
      worker.servicer.models.get? request.modelName = some handle → IsShardOf request handle
  | .finishLoad _ _ | .report _ | .unloadShard _ | .runShard _ _ => True

theorem describe_move (hmove : Move worker label next)
    (hinv : SuccessReportsDescribe worker) (hok : FindsOwnShard worker label) :
    SuccessReportsDescribe next := by
  have hset {id : Nat} {call : LoadCall μ κ}
      (hnew : ∀ report held, call.thread = .reporting report held ∨
        call.thread = .ended report held → report.success = true →
          ∃ handle, held = some handle ∧ IsShardOf call.request handle ∧
            report.layersLoaded = (handle.layerEnd : Int) - handle.layerStart) :
      SuccessReportsDescribe (worker.setCall id call) := by
    intro query request response report held hcall hsuccess
    rcases decided_setCall hcall with ⟨rfl, hown⟩ | hkept
    · exact hnew report held hown hsuccess
    · exact hinv query request response report held hkept hsuccess
  cases hmove with
  | held _ hget =>
      apply hset
      rintro report held (hthread | hthread) _
      · cases hthread
        have hshard := hok _ hget
        refine ⟨_, rfl, hshard, ?_⟩
        rw [hshard.1, hshard.2.1]
        rfl
      · cases hthread
  | rejected _ _ =>
      apply hset
      rintro report held (hthread | hthread) _ <;> cases hthread
  | accepted _ _ _ =>
      apply hset
      rintro report held (hthread | hthread) _ <;> cases hthread
  | finished hcall hfinish =>
      apply hset
      rintro report held (hthread | hthread) hsuccess
      · cases hthread
        rcases InferenceServicer.finishLoad_models hfinish with ⟨_, shard, memoryMb, hmodels⟩ |
          ⟨hfailed, _⟩
        · have hlayers := InferenceServicer.finishLoad_layersLoaded hfinish hsuccess
          exact ⟨_, by rw [hmodels, Dict.get?_set_self], ⟨rfl, rfl, rfl⟩, hlayers⟩
        · rw [hsuccess] at hfailed
          cases hfailed
      · cases hthread
  | reported hcall =>
      apply hset
      rintro report held (hthread | hthread) hsuccess
      · cases hthread
      · cases hthread
        exact hinv _ _ _ _ _ (.inl hcall) hsuccess
  | unloaded modelName => exact hinv
  | ran modelName cache =>
      unfold SuccessReportsDescribe
      rw [(worker.runShard_frame modelName cache).1]
      exact hinv

/-- Answering a call from the handle of another shard makes a report that does
not describe it. -/
theorem not_describe_of_held (hinv : LoadsInv worker) {id : Nat}
    {request : LoadShardRequest}
    (hstep : worker.step (.loadShard id request) = some next)
    (hother : ¬ FindsOwnShard worker (.loadShard id request)) :
    ¬ SuccessReportsDescribe next := by
  unfold FindsOwnShard at hother
  push Not at hother
  obtain ⟨handle, hget, hshard⟩ := hother
  intro hdescribe
  cases step_move hstep with
  | @held _ _ found hfresh hfound =>
      obtain rfl : handle = found := Option.some.inj (hget.symm.trans hfound)
      obtain ⟨_, heq, hown, _⟩ := hdescribe id request _ _ _
        (.inl (Function.update_self _ _ _)) rfl
      obtain rfl := Option.some.inj heq
      exact hshard hown
  | rejected _ hloading =>
      rw [hinv.exclusive _ hloading] at hget
      cases hget
  | accepted _ hnone _ =>
      rw [hget] at hnone
      cases hnone

/-- In every run in which a call answered from the table finds the shard it asks
for, every report of success describes the shard the worker holds; a call that
finds another shard makes a report that does not. -/
theorem success_reports_describe (μ κ : Type*) (nodeId : String) :
    (∀ worker : Worker μ κ, (system μ κ nodeId).ReachableVia FindsOwnShard worker →
      SuccessReportsDescribe worker) ∧
    (∀ (worker : Worker μ κ) (id : Nat) (request : LoadShardRequest) (next : Worker μ κ),
      (system μ κ nodeId).Reachable worker →
        worker.step (.loadShard id request) = some next →
          ¬ FindsOwnShard worker (.loadShard id request) →
            ¬ SuccessReportsDescribe next) := by
  constructor
  · intro worker hreach
    apply hreach.invariant
    · rintro _ rfl id request response report held hcall
      rcases hcall with hcall | hcall <;> cases hcall
    · intro _ _ _ _ hinv hok hstep
      exact describe_move (step_move hstep) hinv hok
  · intro worker id request next hreach hstep hother
    exact not_describe_of_held (loadsInv_of_reachable hreach) hstep hother

/-- A shard is loaded, and then another one of the same model is asked for. -/
def otherShardRun : List (WorkerLabel Unit Unit) :=
  [.loadShard 0 (layersRequest 0 12 "b:50051"), .finishLoad 0 (.ok ((), 260)), .report 0,
    .loadShard 1 (layersRequest 12 24 "")]

/-- The report for the second half of the layers is made over the handle of the
first half. -/
theorem success_reports_describe_counterexample :
    ∃ worker, (system Unit Unit "a").Reachable worker ∧ ¬ SuccessReportsDescribe worker := by
  have hrun : (system Unit Unit "a").exec (create "a") otherShardRun = some _ := rfl
  have hinit : (system Unit Unit "a").Reachable (create "a") := .init rfl
  refine ⟨_, hinit.exec (fun _ _ _ => trivial) hrun, ?_⟩
  intro hdescribe
  obtain ⟨handle, hheld, ⟨hstart, _⟩, _⟩ := hdescribe 1 _ _ _ _ (.inl rfl) rfl
  obtain rfl := Option.some.inj hheld
  cases hstart

/-- The condition is met by a run that loads a shard, asks for it again and is
answered from the table. -/
theorem success_reports_describe_again :
    ∃ worker, (system Unit Unit "a").exec (create "a")
        [.loadShard 0 (layersRequest 0 12 "b:50051"), .finishLoad 0 (.ok ((), 260)),
          .loadShard 1 (layersRequest 0 12 "b:50051")] = some worker ∧
      SuccessReportsDescribe worker := by
  have hnext {worker next : Worker Unit Unit} (label : WorkerLabel Unit Unit)
      (hreach : (system Unit Unit "a").ReachableVia FindsOwnShard worker)
      (hok : FindsOwnShard worker label) (hstep : worker.step label = some next) :
      (system Unit Unit "a").ReachableVia FindsOwnShard next := .step hreach hok hstep
  have hasked := hnext (.loadShard 0 (layersRequest 0 12 "b:50051")) (.init rfl)
    (fun _ hget => by cases hget) rfl
  have hloaded := hnext (.finishLoad 0 (.ok ((), 260))) hasked trivial rfl
  have hagain := hnext (.loadShard 1 (layersRequest 0 12 "b:50051")) hloaded
    (fun _ hget => by obtain rfl := Option.some.inj hget; exact ⟨rfl, rfl, rfl⟩) rfl
  exact ⟨_, rfl, (success_reports_describe Unit Unit "a").1 _ hagain⟩

end PiSSM.Pipeline
