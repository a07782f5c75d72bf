import PiSSM.Orchestrator.RequestMoves
import PiSSM.Pipeline.RefusedLoads

/-!
How `_get_ready_session` ends. Between two polls of the table the lock is free, and the
entry a request waits for can be taken out by a redistribution of its model or by the
check of a load that evicts it. In the runs in which that happens to no model that a
request waits for, the wait ends with the session of a ready model or with one of the
three HTTP errors.
-/

namespace PiSSM.Pipeline

open PiSSM.Lib PiSSM.Inference PiSSM.Orchestrator PiSSM.Orchestrator.HttpState

variable {state next : HttpState} {label : HttpLabel} {name : String} {id : Nat}

/-- The request is in the loop of `_get_ready_session`. -/
def Polling (state : HttpState) (id : Nat) (name : String) : Prop :=
  ∃ request, state.requests id = some request ∧ request.phase = .polling ∧
    request.manifest.name = name

/-- The step takes this model's entry out of the table. -/
def Removes (state : HttpState) (name : String) : HttpLabel → Prop
  | .request (.redistribute id) => ∃ request entry, state.requests id = some request ∧
      request.phase = .redistributing ∧ request.manifest.name = name ∧
      state.modelStates.get? name = some entry ∧ entry.status ≠ .loading
  | .request (.check id) => ∃ other entry, state.PassesCheck id other ∧
      state.modelStates.get? name = some entry ∧ entry.status = .ready
  | _ => False

/-- No entry is taken out of the table that a request waits for. -/
def KeepsAwaited (state : HttpState) (label : HttpLabel) : Prop :=
  ∀ name id, Removes state name label → ¬ Polling state id name

/-- The phases of a request in `_get_ready_session`. -/
def inReadySession : RequestPhase → Bool
  | .entering _ | .evicting _ | .recording _ | .polling => true
  | _ => false

/-- A step of `_get_ready_session` goes on, returns the session of the model's ready
state or raises an HTTP error. -/
def SessionOutcome (state : HttpState) (name : String) (phase : RequestPhase) : Prop :=
  inReadySession phase = true ∨
  (∃ entry session, phase = .generating session ∧ state.modelStates.get? name = some entry ∧
    entry.status = .ready ∧ entry.session = some session) ∨
  ∃ statusCode detail, phase = .responded (.httpException statusCode detail) ∧
    (statusCode = 503 ∨ statusCode = 400 ∨ statusCode = 504)

/-- A model with a request waiting for it has an entry, and a ready entry has its
session. -/
structure AwaitedInv (state : HttpState) : Prop where
  present : ∀ id name, Polling state id name → (state.modelStates.get? name).isSome
  session : ∀ name entry, state.modelStates.get? name = some entry →
    entry.status = .ready → entry.session.isSome

/-- What a poll does with an entry. -/
theorem sessionOutcome_poll {entry : ModelState}
    (hentry : state.modelStates.get? name = some entry)
    (hsession : entry.status = .ready → entry.session.isSome) (expired : Bool) :
    SessionOutcome state name (pollResult name (some entry) expired) := by
  unfold pollResult
  dsimp only
  split
  · next hready =>
      obtain ⟨session, hsome⟩ := Option.isSome_iff_exists.mp (hsession hready)
      rw [hsome]
      exact .inr (.inl ⟨entry, session, rfl, hentry, hready, hsome⟩)
  · split
    · exact .inr (.inr ⟨_, _, rfl, .inl rfl⟩)
    · exact .inr (.inr ⟨_, _, rfl, .inr (.inl rfl)⟩)
  · split
    · exact .inr (.inr ⟨_, _, rfl, .inr (.inr rfl)⟩)
    · exact .inl rfl

/-- A request that polls after a step did so before, or has just found its entry. -/
theorem polling_step (hstep : state.step label = some next) (hpolling : Polling next id name) :
    Polling state id name ∨ (next.modelStates.get? name).isSome := by
  obtain ⟨request, hget, hphase, rfl⟩ := hpolling
  cases step_requestStep hstep id with
  | stays hsame => exact .inl ⟨request, hsame ▸ hget, hphase, rfl⟩
  | arrives _ hnew hnewPhase =>
      obtain rfl := Option.some.inj (hget.symm.trans hnew)
      rcases hnewPhase with hnewPhase | hnewPhase <;> (rw [hphase] at hnewPhase; cases hnewPhase)
  | moves hold hnew hmove =>
      obtain rfl := Option.some.inj (hget.symm.trans hnew)
      dsimp only at hphase ⊢
      cases hmove with
      | polled hpolled => exact .inl ⟨_, hold, hpolled, rfl⟩
      | found _ hentry | recorded _ hentry => exact .inr (Option.isSome_of_eq_some hentry)
      | _ => cases hphase

/-- What a step does to the table. -/
inductive TableStep (state next : HttpState) (label : HttpLabel) : Prop where
  | same (hsame : next.modelStates = state.modelStates)
      (hnone : ∀ name, ¬ Removes state name label)
  | set {key : String} {entry : ModelState}
      (hset : next.modelStates = state.modelStates.set key entry)
      (hsession : entry.status = .ready → entry.session.isSome)
      (hnone : ∀ name, ¬ Removes state name label)
  | removes (hgone : ∀ name, Removes state name label → next.modelStates.get? name = none)
      (hkept : ∀ name, ¬ Removes state name label →
        next.modelStates.get? name = state.modelStates.get? name)

theorem redistributeModel_table (hstep : state.redistributeModel id = some next) :
    TableStep state next (.request (.redistribute id)) := by
  unfold redistributeModel at hstep
  split at hstep
  · cases hstep
  · next request hget =>
      dsimp only at hstep
      split at hstep
      · next hphase =>
          split at hstep
          · next hnone =>
              obtain rfl := Option.some.inj hstep
              refine .same rfl ?_
              rintro name ⟨found, _, hfound, _, rfl, hentry, _⟩
              obtain rfl := Option.some.inj (hget.symm.trans hfound)
              rw [hnone] at hentry
              cases hentry
          · next entry hentry =>
              split at hstep
              · next hloading =>
                  obtain rfl := Option.some.inj hstep
                  refine .same rfl ?_
                  rintro name ⟨found, _, hfound, _, rfl, hother, hstatus⟩
                  obtain rfl := Option.some.inj (hget.symm.trans hfound)
                  obtain rfl := Option.some.inj (hentry.symm.trans hother)
                  exact hstatus hloading
              · next hstatus =>
                  obtain rfl := Option.some.inj hstep
                  apply TableStep.removes
                  · rintro name ⟨found, _, hfound, _, rfl, _⟩
                    obtain rfl := Option.some.inj (hget.symm.trans hfound)
                    exact Dict.get?_erase_self _ _
                  · intro name hnot
                    apply Dict.get?_erase_of_ne
                    rintro rfl
                    exact hnot ⟨request, entry, hget, hphase, rfl, hentry, hstatus⟩
      · cases hstep

/-- A check that goes on to load its model evicts the ready ones. -/
theorem checkLoading_table (hstep : state.checkLoading id = some next) :
    TableStep state next (.request (.check id)) := by
  unfold checkLoading at hstep
  split at hstep
  · cases hstep
  · next request hget =>
      split at hstep
      · next hphase =>
          split at hstep
          · next entry hentry =>
              obtain rfl := Option.some.inj hstep
              obtain ⟨hfound, hactive⟩ := Option.filter_eq_some_iff.mp hentry
              refine .same rfl ?_
              rintro name ⟨_, _, ⟨⟨other, hother, _, rfl⟩, hidle⟩, _⟩
              obtain rfl := Option.some.inj (hget.symm.trans hother)
              exact hidle ⟨entry, hfound, hactive⟩
          · next hidle =>
              obtain rfl := Option.some.inj hstep
              have hpass : state.PassesCheck id request.manifest.name := by
                refine ⟨⟨request, hget, hphase, rfl⟩, ?_⟩
                rintro ⟨entry, hentry, hactive⟩
                rw [hentry, Option.filter_some, if_pos hactive] at hidle
                cases hidle
              apply TableStep.removes
              · rintro name ⟨_, entry, _, hentry, hready⟩
                dsimp only
                rw [evictLoaded_get?, hentry, Option.filter_some]
                simp [hready]
              · intro name hnot
                dsimp only
                rw [evictLoaded_get?]
                cases hentry : state.modelStates.get? name with
                | none => rfl
                | some entry =>
                    have hready : entry.status ≠ .ready := fun hready =>
                      hnot ⟨_, entry, hpass, hentry, hready⟩
                    rw [Option.filter_some, if_pos (decide_eq_true hready)]
      · cases hstep

theorem recordPlan_table {loader : Nat} (hstep : state.recordPlan id loader = some next) :
    TableStep state next (.request (.record id loader)) := by
  unfold recordPlan at hstep
  split at hstep
  · cases hstep
  · split at hstep
    · obtain rfl := Option.some.inj hstep
      exact .set rfl (by rintro ⟨⟩) fun _ => not_false
    · split at hstep
      · cases hstep
      · obtain rfl := Option.some.inj hstep
        exact .set rfl (by rintro ⟨⟩) fun _ => not_false
    · cases hstep

theorem finishLoad_table {loader : Nat} {outcome : Except PyException Unit}
    (hstep : state.finishLoad loader outcome = some next) :
    TableStep state next (.finishLoad loader outcome) := by
  unfold HttpState.finishLoad at hstep
  split at hstep
  · cases hstep
  · split at hstep
    · obtain rfl := Option.some.inj hstep
      refine .set rfl ?_ fun _ => not_false
      cases outcome with
      | ok _ => exact fun _ => rfl
      | error _ => rintro ⟨⟩
    · cases hstep

theorem step_table (hstep : state.step label = some next) : TableStep state next label := by
  cases label with
  | request label =>
      cases label with
      | redistribute id => exact redistributeModel_table hstep
      | check id => exact checkLoading_table hstep
      | record id loader => exact recordPlan_table hstep
      | heartbeat _ _ | reap _ | register _ | post _ _ _ | plan _ | poll _ _ | summarize _ _ =>
          -- These steps only move a request or change the registries.
          refine .same ?_ fun _ => not_false
          simp only [step, requestStep, post, planLoad, pollSession, summarize] at hstep
          repeat' split at hstep
          all_goals first
            | cases hstep; done
            | obtain rfl := Option.some.inj hstep; rfl
  | finishLoad loader outcome => exact finishLoad_table hstep
  | unload _ | tokenizerFailed _ _ | generated _ _ | disconnect _ =>
      refine .same ?_ fun _ => not_false
      simp only [step, nextUnload, tokenizerFailed, endGeneration, disconnect] at hstep
      repeat' split at hstep
      all_goals first
        | cases hstep; done
        | obtain rfl := Option.some.inj hstep; rfl

theorem AwaitedInv.step (hinv : AwaitedInv state) (hstep : state.step label = some next)
    (hkeeps : KeepsAwaited state label) : AwaitedInv next := by
  constructor
  · intro id name hpolling
    rcases polling_step hstep hpolling with hbefore | hfound
    · have hentry := hinv.present id name hbefore
      cases step_table hstep with
      | same hsame _ => exact hsame ▸ hentry
      | set hset _ _ =>
          rw [hset, Dict.get?_set]
          split
          · rfl
          · exact hentry
      | removes _ hkept =>
          rw [hkept name fun hremoves => hkeeps name id hremoves hbefore]
          exact hentry
    · exact hfound
  · intro name entry hget hready
    cases step_table hstep with
    | same hsame _ => exact hinv.session name entry (hsame ▸ hget) hready
    | set hset hsession _ =>
        rw [hset, Dict.get?_set] at hget
        split at hget
        · obtain rfl := Option.some.inj hget
          exact hsession hready
        · exact hinv.session name entry hget hready
    | removes hgone hkept =>
        by_cases hremoves : Removes state name label
        · rw [hgone name hremoves] at hget
          cases hget
        · rw [hkept name hremoves] at hget
          exact hinv.session name entry hget hready

theorem awaitedInv_of_reachable {registry : NodeRegistry}
    (hreach : (system registry).ReachableVia KeepsAwaited state) : AwaitedInv state := by
  apply hreach.invariant
  · rintro _ rfl
    constructor
    · rintro id name ⟨request, hget, _⟩
      cases hget
    · intro name entry hget
      cases hget
  · intro s label t _ hinv hkeeps hstep
    exact hinv.step hstep hkeeps

/-- A step of a request in `_get_ready_session`. -/
theorem sessionOutcome_step (hinv : AwaitedInv state) (hstep : state.step label = some next)
    {request moved : HttpRequest} (hget : state.requests id = some request)
    (hkind : ∃ stream maxNewTokens, request.kind = .infer stream maxNewTokens)
    (hphase : inReadySession request.phase = true)
    (hnext : next.requests id = some moved) :
    SessionOutcome state request.manifest.name moved.phase := by
  obtain ⟨stream, maxNewTokens, hkind⟩ := hkind
  cases step_requestStep hstep id with
  | stays hsame =>
      obtain rfl := Option.some.inj (hget.symm.trans (hsame.symm.trans hnext))
      exact .inl hphase
  | arrives hfresh _ _ =>
      rw [hget] at hfresh
      cases hfresh
  | moves hold hnew hmove =>
      obtain rfl := Option.some.inj (hget.symm.trans hold)
      obtain rfl := Option.some.inj (hnext.symm.trans hnew)
      dsimp only
      cases hmove with
      | sent _ | sentEvicting _ | evicts _ | planned _ => exact .inl rfl
      | found _ _ | recorded _ _ =>
          rw [hkind]
          exact .inl rfl
      | planRaised _ hplan hother =>
          obtain ⟨message, hmessage⟩ := planDispatch_error hplan
          exact absurd hmessage (hother message)
      | polled hpolling =>
          obtain ⟨entry, hentry⟩ := Option.isSome_iff_exists.mp
            (hinv.present id _ ⟨request, hget, hpolling, rfl⟩)
          rw [hentry]
          exact sessionOutcome_poll hentry (hinv.session _ entry hentry) _
      | refused hother | takenDown hother | tokenizerFailed hother | generated hother
        | generationFailed hother | disconnected hother | summarized hother =>
          rw [hother] at hphase
          cases hphase

/-- A request whose model has lost its entry is answered with a `KeyError`. -/
theorem poll_keyError (hpolling : Polling state id name)
    (hnone : state.modelStates.get? name = none) (expired : Bool) :
    ∃ after moved, state.step (.request (.poll id expired)) = some after ∧
      after.requests id = some moved ∧
        moved.phase = .responded (.serverError (.keyError name)) := by
  obtain ⟨request, hget, hphase, rfl⟩ := hpolling
  refine ⟨state.setPhase id request (.responded (.serverError (.keyError
    request.manifest.name))), _, ?_, Function.update_self _ _ _, rfl⟩
  simp only [HttpState.step, requestStep, pollSession, hget, hphase, hnone, pollResult]

/-- Whoever takes an entry out leaves the requests that wait for it waiting. -/
theorem polling_of_removes (hstep : state.step label = some next)
    (hremoves : Removes state name label) (hpolling : Polling state id name) :
    Polling next id name := by
  obtain ⟨request, hget, hphase, rfl⟩ := hpolling
  cases step_requestStep hstep id with
  | stays hsame => exact ⟨request, hsame.trans hget, hphase, rfl⟩
  | arrives hfresh _ _ =>
      rw [hget] at hfresh
      cases hfresh
  | moves hold _ hmove =>
      obtain rfl := Option.some.inj (hget.symm.trans hold)
      cases hmove with
      | polled _ => exact hremoves.elim
      | refused hother | takenDown hother | sent hother | sentEvicting hother | found hother _
        | evicts hother | planned hother | planRaised hother _ _ | recorded hother _
        | tokenizerFailed hother | generated hother | generationFailed hother
        | disconnected hother | summarized hother =>
          rw [hphase] at hother
          cases hother

theorem removes_gone (hstep : state.step label = some next)
    (hremoves : Removes state name label) : next.modelStates.get? name = none := by
  cases step_table hstep with
  | same _ hnone | set _ _ hnone => exact absurd hremoves (hnone name)
  | removes hgone _ => exact hgone name hremoves

/-- In every run that takes no entry out which a request waits for, `_get_ready_session`
ends with the session of its model's ready state or with an HTTP error; after a step
that takes one out, the next poll of the request raises a `KeyError`. -/
theorem ready_sessions (registry : NodeRegistry) :
    (∀ state, (system registry).ReachableVia KeepsAwaited state →
      ∀ label next, state.step label = some next →
        ∀ id request moved, state.requests id = some request →
          (∃ stream maxNewTokens, request.kind = .infer stream maxNewTokens) →
            inReadySession request.phase = true → next.requests id = some moved →
              SessionOutcome state request.manifest.name moved.phase) ∧
    ∀ state label next, state.step label = some next → ¬ KeepsAwaited state label →
      ∃ id name, Polling state id name ∧ ∀ expired, ∃ after moved,
        next.step (.request (.poll id expired)) = some after ∧
          after.requests id = some moved ∧
            moved.phase = .responded (.serverError (.keyError name)) := by
  constructor
  · intro state hreach label next hstep id request moved hget hkind hphase hnext
    exact sessionOutcome_step (awaitedInv_of_reachable hreach) hstep hget hkind hphase hnext
  · intro state label next hstep hlost
    simp only [KeepsAwaited, not_forall, not_not] at hlost
    obtain ⟨name, id, hremoves, hpolling⟩ := hlost
    exact ⟨id, name, hpolling, poll_keyError (polling_of_removes hstep hremoves hpolling)
      (removes_gone hstep hremoves)⟩

/-- A request for a generation on a model that is not loaded yet. -/
def inferArrival : List HttpLabel :=
  [.request (.register fiveLayerManifest), .request (.post 0 (.infer false 4) "m")]

/-- From its check on, until its model is ready. -/
def inferLoad : List HttpLabel :=
  [.request (.plan 0), .request (.record 0 0), .finishLoad 0 (.ok ())]

/-- A request that is alone gets the session of the model it has had loaded. -/
theorem ready_sessions_alone :
    ∃ state next moved, (system twoNodeRegistry).Reachable state ∧
      state.step (.request (.poll 0 false)) = some next ∧ next.requests 0 = some moved ∧
        SessionOutcome state "m" moved.phase := by
  have hnext {state next : HttpState} (label : HttpLabel)
      (hreach : (system twoNodeRegistry).ReachableVia KeepsAwaited state)
      (hkeeps : ∀ name, ¬ Removes state name label) (hstep : state.step label = some next) :
      (system twoNodeRegistry).ReachableVia KeepsAwaited next :=
    .step hreach (fun name _ hremoves => absurd hremoves (hkeeps name)) hstep
  have hregistered := hnext (.request (.register fiveLayerManifest)) (.init rfl)
    (fun _ => not_false) rfl
  have harrived := hnext (.request (.post 0 (.infer false 4) "m")) hregistered
    (fun _ => not_false) rfl
  have hchecked := hnext (.request (.check 0)) harrived
    (by rintro name ⟨_, entry, _, hentry, _⟩; cases hentry) rfl
  have hplanned := hnext (.request (.plan 0)) hchecked (fun _ => not_false) rfl
  have hrecorded := hnext (.request (.record 0 0)) hplanned (fun _ => not_false) rfl
  have hready := hnext (.finishLoad 0 (.ok ())) hrecorded (fun _ => not_false) rfl
  refine ⟨_, _, _, hready.reachable, rfl, rfl, ?_⟩
  exact (ready_sessions twoNodeRegistry).1 _ hready (.request (.poll 0 false)) _ rfl 0 _ _ rfl
    ⟨false, 4, rfl⟩ rfl rfl

/-- The model has been made ready, and another load evicts it before the request that
waits for it looks at the table again. -/
theorem ready_sessions_counterexample :
    ∃ state next, (system twoNodeRegistry).Reachable state ∧ Polling state 0 "m" ∧
      state.step (.request (.poll 0 false)) = some next ∧
        (next.requests 0).map HttpRequest.phase =
          some (.responded (.serverError (.keyError "m"))) := by
  have hrun : (system twoNodeRegistry).exec (.create twoNodeRegistry)
      (inferArrival ++ .request (.check 0) :: inferLoad ++
        [.request (.register oneLayerManifest), .request (.post 1 .load "small"),
          .request (.check 1)]) = some _ := rfl
  exact ⟨_, _, TransitionSystem.ReachableVia.exec (.init rfl) (fun _ _ _ => trivial) hrun,
    ⟨_, rfl, rfl, rfl⟩, rfl, rfl⟩

end PiSSM.Pipeline
