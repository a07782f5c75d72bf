import PiSSM.Pipeline.ModelStates
import PiSSM.Pipeline.PlannedShards

/-!
A load that cannot be dispatched. `_ensure_loading_started` makes room before it asks
`plan_dispatch`: the models that are ready are taken down and their workers told so,
also when no plan comes of it. The entries of the other models stay as they were.
-/

namespace PiSSM.Orchestrator.HttpState

open PiSSM.Lib PiSSM.Inference

variable {state : HttpState} {id loader : Nat} {request : HttpRequest}

/-- The `UnloadShard` calls that are sent in the course of a run. -/
def sentUnloads (state : HttpState) : List HttpLabel → List UnloadCall
  | [] => []
  | label :: rest =>
      (match label with
        | .unload id => ((state.nextUnload id).map Prod.fst).toList
        | _ => []) ++
      match state.step label with
      | some next => next.sentUnloads rest
      | none => []

/-- The steps of one request in `_ensure_loading_started` when its check finds the model
to be loaded, with this many calls to send. -/
def loadingSteps (id loader sends : Nat) : List HttpLabel :=
  .request (.check id) ::
    (List.replicate sends (.unload id) ++ [.request (.plan id), .request (.record id loader)])

/-- The calls that free the models that are ready. -/
def evictionCalls (states : Dict String ModelState) : List UnloadCall :=
  (loadedModels states).flatMap fun entry => unloadCalls entry.2

/-- The state after the check, with these calls still to be sent. -/
def evicted (state : HttpState) (id : Nat) (request : HttpRequest)
    (calls : List UnloadCall) : HttpState :=
  { state.setPhase id request (.evicting calls) with
    modelStates := evictLoaded state.modelStates }

/-- The state when the request has recorded why there is no plan. -/
def refused (state : HttpState) (id : Nat) (request : HttpRequest) (message : String) :
    HttpState :=
  { state.setPhase id request
      (afterEnsure request.kind ⟨.error, none, none, some message⟩) with
    modelStates := (evictLoaded state.modelStates).set request.manifest.name
      ⟨.error, none, none, some message⟩ }

theorem sentUnloads_requests (labels : List RequestLabel) :
    state.sentUnloads (labels.map .request) = [] := by
  induction labels generalizing state with
  | nil => rfl
  | cons label rest ih =>
      simp only [List.map_cons, sentUnloads, List.nil_append]
      split
      · exact ih
      · rfl

theorem nextUnload_evicted (call : UnloadCall) (rest : List UnloadCall) :
    (state.evicted id request (call :: rest)).nextUnload id =
      some (call, state.evicted id request rest) := by
  simp only [nextUnload, evicted, setPhase, Function.update_self, Function.update_idem]

/-- The calls are sent one after another. -/
theorem exec_unloads (registry : NodeRegistry) (calls : List UnloadCall)
    (after : List HttpLabel) :
    (system registry).exec (state.evicted id request calls)
        (List.replicate calls.length (.unload id) ++ after) =
      (system registry).exec (state.evicted id request []) after ∧
    (state.evicted id request calls).sentUnloads
        (List.replicate calls.length (.unload id) ++ after) =
      calls ++ (state.evicted id request []).sentUnloads after := by
  induction calls with
  | nil => exact ⟨rfl, rfl⟩
  | cons call rest ih =>
      have hnext := @nextUnload_evicted state id request call rest
      have hstep : (state.evicted id request (call :: rest)).step (.unload id) =
          some (state.evicted id request rest) := by
        simp only [step, hnext, Option.map_some]
      rw [List.length_cons, List.replicate_succ, List.cons_append]
      constructor
      · rw [TransitionSystem.exec]
        show ((state.evicted id request (call :: rest)).step (.unload id)).bind _ = _
        rw [hstep, Option.bind_some]
        exact ih.1
      · simp only [sentUnloads, hnext, hstep, Option.map_some, Option.toList_some, ih.2,
          List.cons_append, List.nil_append]

theorem checkLoading_evicts (hget : state.requests id = some request)
    (hphase : request.phase = .entering [])
    (hidle : ¬ state.Active request.manifest.name) :
    state.checkLoading id =
      some (state.evicted id request (evictionCalls state.modelStates)) := by
  have hnone : (state.modelStates.get? request.manifest.name).filter ModelState.isActive =
      none := by
    rw [Option.filter_eq_none_iff]
    exact fun entry hentry hactive => hidle ⟨entry, hentry, hactive⟩
  simp only [checkLoading, hget, hphase, hnone]
  rfl

/-- An active model is left alone, and so are the others. -/
theorem checkLoading_active (hget : state.requests id = some request)
    (hphase : request.phase = .entering []) (hactive : state.Active request.manifest.name) :
    ∃ entry, state.modelStates.get? request.manifest.name = some entry ∧
      state.checkLoading id =
        some (state.setPhase id request (afterEnsure request.kind entry)) := by
  obtain ⟨entry, hentry, hisActive⟩ := hactive
  refine ⟨entry, hentry, ?_⟩
  simp only [checkLoading, hget, hphase, hentry, Option.filter_some, if_pos hisActive]

/-- The last two sections of a load without a plan. -/
theorem exec_refused (registry : NodeRegistry) {message : String}
    (hrefused : planDispatch request.manifest state.registry =
      .error (.dispatchError message)) :
    (system registry).exec (state.evicted id request [])
        [.request (.plan id), .request (.record id loader)] =
      some (state.refused id request message) := by
  have hplan : (state.evicted id request []).planLoad id =
      some { state.setPhase id request (.recording (.error message)) with
        modelStates := evictLoaded state.modelStates } := by
    simp only [planLoad, evicted, setPhase, Function.update_self, Function.update_idem,
      hrefused]
  have hrecord : ({ state.setPhase id request (.recording (.error message)) with
      modelStates := evictLoaded state.modelStates } : HttpState).recordPlan id loader =
      some (state.refused id request message) := by
    simp only [recordPlan, refused, setPhase, Function.update_self, Function.update_idem]
  show ((state.evicted id request []).planLoad id).bind _ = _
  rw [hplan, Option.bind_some]
  show (recordPlan _ id loader).bind _ = _
  rw [hrecord]
  rfl

end PiSSM.Orchestrator.HttpState

namespace PiSSM.Pipeline

open PiSSM.Lib PiSSM.Inference PiSSM.Orchestrator PiSSM.Orchestrator.HttpState

/-- What a load that cannot be dispatched leaves of the table, and what it sends. -/
structure LoadRefused (state after : HttpState) (name message : String)
    (sent : List UnloadCall) : Prop where
  own : after.modelStates.get? name = some ⟨.error, none, none, some message⟩
  /-- The other models keep their entries, the ready ones apart. -/
  others : ∀ other, other ≠ name → after.modelStates.get? other =
    (state.modelStates.get? other).filter fun entry => entry.status ≠ .ready
  /-- The workers of the ready models are told, and no others. -/
  sent_iff : ∀ call, call ∈ sent ↔ ∃ other entry session shard,
    state.modelStates.get? other = some entry ∧ entry.status = .ready ∧
      entry.session = some session ∧ shard ∈ session.plan.assignments ∧
        call = ⟨session.plan.modelName, shard.address⟩
  /-- With no ready model it is only the own entry that changes. -/
  untouched : (∀ other entry, state.modelStates.get? other = some entry →
    entry.status ≠ .ready) → sent = [] ∧ ∀ other, other ≠ name →
      after.modelStates.get? other = state.modelStates.get? other

theorem mem_evictionCalls {states : Dict String ModelState} {call : UnloadCall} :
    call ∈ evictionCalls states ↔ ∃ other entry session shard,
      states.get? other = some entry ∧ entry.status = .ready ∧
        entry.session = some session ∧ shard ∈ session.plan.assignments ∧
          call = ⟨session.plan.modelName, shard.address⟩ := by
  unfold evictionCalls loadedModels
  rw [List.mem_flatMap]
  constructor
  · rintro ⟨_, hmem, hcall⟩
    obtain ⟨⟨other, entry⟩, hloaded, rfl⟩ := List.mem_map.mp hmem
    obtain ⟨hitem, hready⟩ := List.mem_filter.mp hloaded
    cases hsession : entry.session with
    | none =>
        rw [hsession] at hcall
        cases hcall
    | some session =>
        rw [hsession] at hcall
        obtain ⟨shard, hshard, rfl⟩ := List.mem_map.mp hcall
        exact ⟨other, entry, session, shard, (states.mem_items_iff _ _).mp hitem,
          of_decide_eq_true hready, hsession, hshard, rfl⟩
  · rintro ⟨other, entry, session, shard, hget, hready, hsession, hshard, rfl⟩
    refine ⟨(other, entry.session), List.mem_map.mpr ⟨(other, entry), ?_, rfl⟩, ?_⟩
    · exact List.mem_filter.mpr ⟨(states.mem_items_iff _ _).mpr hget, decide_eq_true hready⟩
    · rw [hsession]
      exact List.mem_map.mpr ⟨shard, hshard, rfl⟩

theorem loadRefused (state : HttpState) (id : Nat) (request : HttpRequest)
    (message : String) :
    LoadRefused state (state.refused id request message) request.manifest.name message
      (evictionCalls state.modelStates) := by
  have hothers (other : String) (hother : other ≠ request.manifest.name) :
      (state.refused id request message).modelStates.get? other =
        (state.modelStates.get? other).filter fun entry => entry.status ≠ .ready := by
    unfold refused
    rw [Dict.get?_set_of_ne _ _ hother, evictLoaded_get?]
  refine ⟨Dict.get?_set_self _ _ _, hothers, fun call => mem_evictionCalls, ?_⟩
  intro hnone
  constructor
  · rw [List.eq_nil_iff_forall_not_mem]
    intro call hcall
    obtain ⟨other, entry, _, _, hentry, hready, _⟩ := mem_evictionCalls.mp hcall
    exact hnone other entry hentry hready
  · intro other hother
    rw [hothers other hother]
    cases hentry : state.modelStates.get? other with
    | none => rfl
    | some entry =>
        rw [Option.filter_some, if_pos (decide_eq_true (hnone other entry hentry))]

/-- A request for a load that cannot be dispatched takes down the models that are
ready, leaves the entries of the other ones alone and records the error; if its own
model is active already, it only answers with its state. -/
theorem refused_load (registry : NodeRegistry) {state : HttpState} {id loader : Nat}
    {request : HttpRequest} {err : PyException} (hget : state.requests id = some request)
    (hphase : request.phase = .entering [])
    (hrefused : planDispatch request.manifest state.registry = .error err) :
    (state.Active request.manifest.name → ∃ entry,
      state.modelStates.get? request.manifest.name = some entry ∧
        state.step (.request (.check id)) =
          some (state.setPhase id request (afterEnsure request.kind entry))) ∧
    (¬ state.Active request.manifest.name → ∃ message sends after,
      err = .dispatchError message ∧
      (system registry).exec state (loadingSteps id loader sends) = some after ∧
      LoadRefused state after request.manifest.name message
        (state.sentUnloads (loadingSteps id loader sends))) := by
  obtain ⟨message, rfl⟩ := planDispatch_error hrefused
  refine ⟨checkLoading_active hget hphase, fun hidle => ?_⟩
  have hcheck : state.step (.request (.check id)) =
      some (state.evicted id request (evictionCalls state.modelStates)) :=
    checkLoading_evicts hget hphase hidle
  obtain ⟨hexec, hsent⟩ := @exec_unloads state id request registry (evictionCalls state.modelStates)
    [.request (.plan id), .request (.record id loader)]
  rw [exec_refused registry hrefused] at hexec
  have hcalls : state.sentUnloads (loadingSteps id loader (evictionCalls
      state.modelStates).length) = evictionCalls state.modelStates := by
    have hrest := @sentUnloads_requests (state.evicted id request [])
      [.plan id, .record id loader]
    rw [show [HttpLabel.request (.plan id), .request (.record id loader)] =
      List.map HttpLabel.request [.plan id, .record id loader] from rfl, hrest] at hsent
    simp only [loadingSteps, sentUnloads, hcheck, List.nil_append]
    rw [List.append_nil] at hsent
    exact hsent
  refine ⟨message, (evictionCalls state.modelStates).length, state.refused id request message,
    rfl, ?_, ?_⟩
  · exact (congrArg (Option.bind · _) hcheck).trans hexec
  · rw [hcalls]
    exact loadRefused state id request message

/-- A model of fewer layers than there are nodes. -/
def oneLayerManifest : ModelManifest := { fiveLayerManifest with name := "small", layers := 1 }

/-- A model is made ready, and a request arrives for one that cannot be dispatched. -/
def readyThenRefused : List HttpLabel :=
  [.request (.register fiveLayerManifest), .request (.post 0 .load "m"),
    .request (.check 0), .request (.plan 0), .request (.record 0 0), .finishLoad 0 (.ok ()),
    .request (.register oneLayerManifest), .request (.post 1 .load "small")]

/-- The request of the refused load, before its check. -/
def refusedRequest : HttpRequest := ⟨.load, oneLayerManifest, .entering []⟩

theorem readyThenRefused_run :
    ∃ state, (system twoNodeRegistry).Reachable state ∧
      (state.modelStates.get? "m" = some ⟨.ready, some twoNodePlan, some ⟨0, twoNodePlan⟩, none⟩ ∧
        state.modelStates.get? "small" = none) ∧
      state.requests 1 = some refusedRequest ∧ state.registry = twoNodeRegistry := by
  have hrun : (system twoNodeRegistry).exec (.create twoNodeRegistry) readyThenRefused =
    some _ := rfl
  exact ⟨_, TransitionSystem.ReachableVia.exec (.init rfl) (fun _ _ _ => trivial) hrun,
    ⟨rfl, rfl⟩, rfl, rfl⟩

theorem oneLayer_refused : ∃ message,
    planDispatch oneLayerManifest twoNodeRegistry = .error (.dispatchError message) :=
  planDispatch_refused (.inr (by decide))

/-- The ready model is gone from the table, and its workers have been told. -/
theorem refused_load_ready :
    ∃ state message sends after, (system twoNodeRegistry).Reachable state ∧
      (system twoNodeRegistry).exec state (loadingSteps 1 1 sends) = some after ∧
      LoadRefused state after "small" message (state.sentUnloads (loadingSteps 1 1 sends)) := by
  obtain ⟨state, hreach, ⟨_, hnone⟩, hrequest, hregistry⟩ := readyThenRefused_run
  obtain ⟨message, hrefused⟩ := oneLayer_refused
  rw [← hregistry] at hrefused
  have hidle : ¬ state.Active "small" := by
    rintro ⟨entry, hentry, _⟩
    rw [hnone] at hentry
    cases hentry
  obtain ⟨message, sends, after, _, hexec, hresult⟩ :=
    (refused_load twoNodeRegistry hrequest rfl hrefused).2 hidle
  exact ⟨state, message, sends, after, hreach, hexec, hresult⟩

/-- The refused load takes down the other model, which was ready, and has its workers
free it. -/
theorem refused_load_counterexample :
    ∃ state message, (system twoNodeRegistry).Reachable state ∧
      planDispatch oneLayerManifest state.registry = .error (.dispatchError message) ∧
      state.requests 1 = some refusedRequest ∧
      (state.modelStates.get? "m").isSome ∧
      ∃ after, (system twoNodeRegistry).exec state (loadingSteps 1 1 2) = some after ∧
        after.modelStates.get? "m" = none ∧
        state.sentUnloads (loadingSteps 1 1 2) =
          [⟨"m", "10.0.0.1:50051"⟩, ⟨"m", "10.0.0.2:50051"⟩] := by
  have hrun : (system twoNodeRegistry).exec (.create twoNodeRegistry) readyThenRefused =
    some _ := rfl
  obtain ⟨message, hrefused⟩ := oneLayer_refused
  exact ⟨_, message, TransitionSystem.ReachableVia.exec (.init rfl) (fun _ _ _ => trivial) hrun,
    hrefused, rfl, rfl, _, rfl, rfl, rfl⟩

end PiSSM.Pipeline
