import PiSSM.Orchestrator.HttpApi

/-!
What a step of the HTTP API does to one request: the phases it goes through, with what
it reads at each of them, and the steps that take entries out of the table.
-/

namespace PiSSM.Orchestrator.HttpState

open PiSSM.Lib PiSSM.Inference

/-- The phases that a step takes a request to. -/
inductive RequestMove (state next : HttpState) (id : Nat) (request : HttpRequest) :
    HttpLabel → RequestPhase → Prop where
  | refused {statusCode : Nat} {detail : String} (hphase : request.phase = .redistributing) :
      RequestMove state next id request (.request (.redistribute id))
        (.responded (.httpException statusCode detail))
  | takenDown {calls : List UnloadCall} (hphase : request.phase = .redistributing) :
      RequestMove state next id request (.request (.redistribute id)) (.entering calls)
  | sent {call : UnloadCall} {rest : List UnloadCall}
      (hphase : request.phase = .entering (call :: rest)) :
      RequestMove state next id request (.unload id) (.entering rest)
  | sentEvicting {call : UnloadCall} {rest : List UnloadCall}
      (hphase : request.phase = .evicting (call :: rest)) :
      RequestMove state next id request (.unload id) (.evicting rest)
  | found {entry : ModelState} (hphase : request.phase = .entering [])
      (hentry : next.modelStates.get? request.manifest.name = some entry) :
      RequestMove state next id request (.request (.check id)) (afterEnsure request.kind entry)
  | evicts {calls : List UnloadCall} (hphase : request.phase = .entering []) :
      RequestMove state next id request (.request (.check id)) (.evicting calls)
  | planned {plan : Except String DispatchPlan} (hphase : request.phase = .evicting []) :
      RequestMove state next id request (.request (.plan id)) (.recording plan)
  | planRaised {err : PyException} (hphase : request.phase = .evicting [])
      (hplan : planDispatch request.manifest state.registry = .error err)
      (hother : ∀ message, err ≠ .dispatchError message) :
      RequestMove state next id request (.request (.plan id)) (.responded (.serverError err))
  | recorded {loader : Nat} {planned : Except String DispatchPlan} {entry : ModelState}
      (hphase : request.phase = .recording planned)
      (hentry : next.modelStates.get? request.manifest.name = some entry) :
      RequestMove state next id request (.request (.record id loader))
        (afterEnsure request.kind entry)
  | polled {expired : Bool} (hphase : request.phase = .polling) :
      RequestMove state next id request (.request (.poll id expired))
        (pollResult request.manifest.name
          (state.modelStates.get? request.manifest.name) expired)
  | tokenizerFailed {session : InferenceSession} {err : PyException}
      (hphase : request.phase = .generating session) :
      RequestMove state next id request (.tokenizerFailed id err)
        (.responded (.serverError err))
  | generated {session : InferenceSession} (hphase : request.phase = .generating session) :
      RequestMove state next id request (.generated id (.ok ())) .summarizing
  | generationFailed {session : InferenceSession} {err : PyException}
      (hphase : request.phase = .generating session) :
      RequestMove state next id request (.generated id (.error err))
        (.responded (inferenceError request.kind err))
  | disconnected {session : InferenceSession} (hphase : request.phase = .generating session) :
      RequestMove state next id request (.disconnect id) (.responded .disconnected)
  | summarized {decoded : Except PyException Unit} (hphase : request.phase = .summarizing) :
      RequestMove state next id request (.request (.summarize id decoded))
        (.responded (inferResponse request.kind (countNodes request.manifest.name
          (state.modelStates.get? request.manifest.name)) decoded))

/-- A request after a step: it is where it was, it has just arrived, or it has moved. -/
inductive RequestStep (state next : HttpState) (label : HttpLabel) (id : Nat) : Prop where
  | stays (hsame : next.requests id = state.requests id)
  | arrives {request : HttpRequest} (hfresh : state.requests id = none)
      (hget : next.requests id = some request)
      (hphase : request.phase = .redistributing ∨ request.phase = .entering [])
  | moves {request : HttpRequest} {phase : RequestPhase}
      (hget : state.requests id = some request)
      (hnext : next.requests id = some { request with phase := phase })
      (hmove : RequestMove state next id request label phase)

variable {state next : HttpState} {label : HttpLabel}

/-- A step of one request leaves the others where they are. -/
theorem RequestStep.of_setPhase {id : Nat} {request : HttpRequest} {phase : RequestPhase}
    (hget : state.requests id = some request)
    (hnext : next.requests = (state.setPhase id request phase).requests)
    (hmove : RequestMove state next id request label phase) (query : Nat) :
    RequestStep state next label query := by
  by_cases hquery : query = id
  · subst hquery
    apply RequestStep.moves hget _ hmove
    rw [hnext]
    exact Function.update_self _ _ _
  · apply RequestStep.stays
    rw [hnext]
    exact Function.update_of_ne hquery _ _

theorem redistributeModel_move {id : Nat} (hstep : state.redistributeModel id = some next)
    (query : Nat) : RequestStep state next (.request (.redistribute id)) query := by
  unfold redistributeModel at hstep
  split at hstep
  · cases hstep
  · next request hget =>
      dsimp only at hstep
      split at hstep
      · next hphase =>
          split at hstep
          · obtain rfl := Option.some.inj hstep
            exact .of_setPhase hget rfl (.refused hphase) query
          · split at hstep
            · obtain rfl := Option.some.inj hstep
              exact .of_setPhase hget rfl (.refused hphase) query
            · obtain rfl := Option.some.inj hstep
              apply RequestStep.of_setPhase hget
              · rfl
              · exact .takenDown hphase
      · cases hstep

theorem nextUnload_move {id : Nat} {call : UnloadCall}
    (hstep : state.nextUnload id = some (call, next)) (query : Nat) :
    RequestStep state next (.unload id) query := by
  unfold nextUnload at hstep
  split at hstep
  · cases hstep
  · next request hget =>
      split at hstep
      · next hphase =>
          obtain ⟨_, rfl⟩ := Prod.mk.inj (Option.some.inj hstep)
          exact .of_setPhase hget rfl (.sent hphase) query
      · next hphase =>
          obtain ⟨_, rfl⟩ := Prod.mk.inj (Option.some.inj hstep)
          exact .of_setPhase hget rfl (.sentEvicting hphase) query
      · cases hstep

theorem checkLoading_move {id : Nat} (hstep : state.checkLoading id = some next)
    (query : Nat) : RequestStep state next (.request (.check id)) query := by
  unfold checkLoading at hstep
  split at hstep
  · cases hstep
  · next request hget =>
      split at hstep
      · next hphase =>
          split at hstep
          · next entry hentry =>
              obtain rfl := Option.some.inj hstep
              have hfound := (Option.filter_eq_some_iff.mp hentry).1
              exact .of_setPhase hget rfl (.found hphase hfound) query
          · obtain rfl := Option.some.inj hstep
            apply RequestStep.of_setPhase hget
            · rfl
            · exact .evicts hphase
      · cases hstep

theorem planLoad_move {id : Nat} (hstep : state.planLoad id = some next) (query : Nat) :
    RequestStep state next (.request (.plan id)) query := by
  unfold planLoad at hstep
  split at hstep
  · cases hstep
  · next request hget =>
      split at hstep
      · next hphase =>
          split at hstep
          · obtain rfl := Option.some.inj hstep
            exact .of_setPhase hget rfl (.planned hphase) query
          · obtain rfl := Option.some.inj hstep
            exact .of_setPhase hget rfl (.planned hphase) query
          · next err hother hplan =>
              obtain rfl := Option.some.inj hstep
              refine .of_setPhase hget rfl (.planRaised hphase hplan ?_) query
              rintro message rfl
              exact hother message rfl
      · cases hstep

theorem recordPlan_move {id loader : Nat} (hstep : state.recordPlan id loader = some next)
    (query : Nat) : RequestStep state next (.request (.record id loader)) query := by
  unfold recordPlan at hstep
  split at hstep
  · cases hstep
  · next request hget =>
      split at hstep
      · next hphase =>
          obtain rfl := Option.some.inj hstep
          apply RequestStep.of_setPhase hget
          · rfl
          · exact .recorded hphase (Dict.get?_set_self _ _ _)
      · next hphase =>
          split at hstep
          · cases hstep
          · obtain rfl := Option.some.inj hstep
            apply RequestStep.of_setPhase hget
            · rfl
            · exact .recorded hphase (Dict.get?_set_self _ _ _)
      · cases hstep

theorem pollSession_move {id : Nat} {expired : Bool}
    (hstep : state.pollSession id expired = some next) (query : Nat) :
    RequestStep state next (.request (.poll id expired)) query := by
  unfold pollSession at hstep
  split at hstep
  · cases hstep
  · next request hget =>
      split at hstep
      · next hphase =>
          obtain rfl := Option.some.inj hstep
          exact .of_setPhase hget rfl (.polled hphase) query
      · cases hstep

theorem summarize_move {id : Nat} {decoded : Except PyException Unit}
    (hstep : state.summarize id decoded = some next) (query : Nat) :
    RequestStep state next (.request (.summarize id decoded)) query := by
  unfold summarize at hstep
  split at hstep
  · cases hstep
  · next request hget =>
      split at hstep
      · next hphase =>
          obtain rfl := Option.some.inj hstep
          exact .of_setPhase hget rfl (.summarized hphase) query
      · cases hstep

theorem tokenizerFailed_move {id : Nat} {err : PyException}
    (hstep : state.tokenizerFailed id err = some next) (query : Nat) :
    RequestStep state next (.tokenizerFailed id err) query := by
  unfold tokenizerFailed at hstep
  split at hstep
  · cases hstep
  · next request hget =>
      split at hstep
      · next hphase =>
          obtain rfl := Option.some.inj hstep
          exact .of_setPhase hget rfl (.tokenizerFailed hphase) query
      · cases hstep

theorem endGeneration_move {id : Nat} {outcome : Except PyException Unit}
    (hstep : state.endGeneration id outcome = some next) (query : Nat) :
    RequestStep state next (.generated id outcome) query := by
  unfold endGeneration at hstep
  split at hstep
  · cases hstep
  · next request hget =>
      split at hstep
      · next hphase =>
          cases outcome with
          | ok _ =>
              obtain rfl := Option.some.inj hstep
              exact .of_setPhase hget rfl (.generated hphase) query
          | error err =>
              obtain rfl := Option.some.inj hstep
              exact .of_setPhase hget rfl (.generationFailed hphase) query
      · cases hstep

theorem disconnect_move {id : Nat} (hstep : state.disconnect id = some next) (query : Nat) :
    RequestStep state next (.disconnect id) query := by
  unfold disconnect at hstep
  split at hstep
  · cases hstep
  · next request hget =>
      split at hstep
      · next hphase _ =>
          obtain rfl := Option.some.inj hstep
          exact .of_setPhase hget rfl (.disconnected hphase) query
      · cases hstep

theorem post_move {id : Nat} {kind : RequestKind} {name : String}
    (hstep : state.post id kind name = some next) (query : Nat) :
    RequestStep state next label query := by
  unfold post at hstep
  split at hstep
  · next hfresh _ =>
    obtain rfl := Option.some.inj hstep
    by_cases hquery : query = id
    · subst hquery
      apply RequestStep.arrives hfresh (Function.update_self _ _ _)
      dsimp only
      split
      · exact .inl rfl
      · exact .inr rfl
    · exact .stays (Function.update_of_ne hquery _ _)
  · cases hstep

/-- What a step does to each request. -/
theorem step_requestStep (hstep : state.step label = some next) (query : Nat) :
    RequestStep state next label query := by
  cases label with
  | request label =>
      cases label with
      | heartbeat now request | reap now =>
          obtain rfl := Option.some.inj hstep
          exact .stays rfl
      | register manifest =>
          simp only [step, requestStep] at hstep
          split at hstep <;> (obtain rfl := Option.some.inj hstep; exact .stays rfl)
      | post id kind name => exact post_move hstep query
      | redistribute id => exact redistributeModel_move hstep query
      | check id => exact checkLoading_move hstep query
      | plan id => exact planLoad_move hstep query
      | record id loader => exact recordPlan_move hstep query
      | poll id expired => exact pollSession_move hstep query
      | summarize id decoded => exact summarize_move hstep query
  | unload id =>
      obtain ⟨⟨call, after⟩, hnext, rfl⟩ := Option.map_eq_some_iff.mp hstep
      exact nextUnload_move hnext query
  | finishLoad loader outcome =>
      simp only [step, finishLoad] at hstep
      split at hstep
      · cases hstep
      · split at hstep
        · obtain rfl := Option.some.inj hstep
          exact .stays rfl
        · cases hstep
  | tokenizerFailed id err => exact tokenizerFailed_move hstep query
  | generated id outcome => exact endGeneration_move hstep query
  | disconnect id => exact disconnect_move hstep query

/-- A generation is left when it ends, when the tokenizer has raised before it or when
its client has gone. -/
theorem generating_kept (hstep : state.step label = some next) {id : Nat}
    {request : HttpRequest} {session : InferenceSession}
    (hget : state.requests id = some request) (hphase : request.phase = .generating session)
    (hended : ∀ outcome, label ≠ .generated id outcome)
    (htokenizer : ∀ err, label ≠ .tokenizerFailed id err) (hclient : label ≠ .disconnect id) :
    next.requests id = some request := by
  cases step_requestStep hstep id with
  | stays hsame => exact hsame.trans hget
  | arrives hfresh _ _ => cases hfresh.symm.trans hget
  | moves hfound _ hmove =>
      obtain rfl := Option.some.inj (hfound.symm.trans hget)
      cases hmove with
      | tokenizerFailed _ => exact absurd rfl (htokenizer _)
      | generated _ | generationFailed _ => exact absurd rfl (hended _)
      | disconnected _ => exact absurd rfl hclient
      | refused hother | takenDown hother | sent hother | sentEvicting hother | found hother _
      | evicts hother | planned hother | planRaised hother _ _ | recorded hother _
      | polled hother | summarized hother => cases hother.symm.trans hphase

theorem pollResult_ne_result (name : String) (entry : Option ModelState) (expired : Bool)
    (numNodes : Nat) : pollResult name entry expired ≠ .responded (.result numNodes) := by
  unfold pollResult
  dsimp only
  repeat' split
  all_goals simp

theorem inferResponse_result {kind : RequestKind} {counted : Except PyException Nat}
    {decoded : Except PyException Unit} {numNodes : Nat}
    (hresult : inferResponse kind counted decoded = .result numNodes) :
    counted = .ok numNodes := by
  unfold inferResponse at hresult
  dsimp only at hresult
  split at hresult
  · next count hcombined =>
      obtain rfl := HttpResponse.result.inj hresult
      split at hcombined
      · cases counted with
        | error err => cases hcombined
        | ok found =>
            cases decoded with
            | error err => cases hcombined
            | ok text => exact hcombined
      · cases decoded with
        | error err => cases hcombined
        | ok text => exact hcombined
  · cases hresult

theorem countNodes_ok {name : String} {entry : Option ModelState} {numNodes : Nat}
    (hcount : countNodes name entry = .ok numNodes) :
    ∃ state plan, entry = some state ∧ state.plan = some plan ∧
      numNodes = plan.assignments.length := by
  unfold countNodes at hcount
  split at hcount
  · cases hcount
  · next state =>
      split at hcount
      · cases hcount
      · next plan hplan => exact ⟨state, plan, rfl, hplan, (Except.ok.inj hcount).symm⟩

/-- The only result is the one of the summary. -/
theorem RequestMove.result {id numNodes : Nat} {request : HttpRequest} {phase : RequestPhase}
    (hmove : RequestMove state next id request label phase)
    (hphase : phase = .responded (.result numNodes)) :
    ∃ decoded entry plan, label = .request (.summarize id decoded) ∧
      request.phase = .summarizing ∧
      state.modelStates.get? request.manifest.name = some entry ∧
      entry.plan = some plan ∧ numNodes = plan.assignments.length := by
  cases hmove with
  | refused _ | takenDown _ | sent _ | sentEvicting _ | evicts _ | planned _
  | planRaised _ _ _ | tokenizerFailed _ | generated _ | disconnected _ => cases hphase
  | found _ _ | recorded _ _ =>
      unfold afterEnsure stateResponse at hphase
      split at hphase <;> cases hphase
  | polled _ => exact absurd hphase (pollResult_ne_result _ _ _ _)
  | generationFailed _ =>
      unfold inferenceError at hphase
      split at hphase <;> cases hphase
  | summarized hsummarizing =>
      have hcount := inferResponse_result (RequestPhase.responded.inj hphase)
      obtain ⟨entry, plan, hentry, hplan, hnumber⟩ := countNodes_ok hcount
      exact ⟨_, entry, plan, rfl, hsummarizing, hentry, hplan, hnumber⟩

theorem pollResult_generating {name : String} {entry : Option ModelState} {expired : Bool}
    {session : InferenceSession} (hpoll : pollResult name entry expired = .generating session) :
    ∃ found, entry = some found ∧ found.status = .ready ∧ found.session = some session := by
  unfold pollResult at hpoll
  split at hpoll
  · cases hpoll
  · next found =>
      split at hpoll
      · next hready =>
          split at hpoll
          · next hsession =>
              cases hpoll
              exact ⟨found, rfl, hready, hsession⟩
          · cases hpoll
      · dsimp only at hpoll
        split at hpoll <;> cases hpoll
      · split at hpoll <;> cases hpoll

/-- A generation starts with the session that a poll has found. -/
theorem RequestMove.generating {id : Nat} {request : HttpRequest} {phase : RequestPhase}
    {session : InferenceSession} (hmove : RequestMove state next id request label phase)
    (hphase : phase = .generating session) :
    ∃ expired entry, label = .request (.poll id expired) ∧
      state.modelStates.get? request.manifest.name = some entry ∧ entry.status = .ready ∧
      entry.session = some session := by
  cases hmove with
  | refused _ | takenDown _ | sent _ | sentEvicting _ | evicts _ | planned _
  | planRaised _ _ _ | tokenizerFailed _ | generated _ | generationFailed _ | disconnected _
  | summarized _ => cases hphase
  | found _ _ | recorded _ _ =>
      unfold afterEnsure at hphase
      split at hphase <;> cases hphase
  | polled _ =>
      obtain ⟨entry, hentry, hready, hsession⟩ := pollResult_generating hphase
      exact ⟨_, entry, rfl, hentry, hready, hsession⟩

theorem RequestMove.summarizing {id : Nat} {request : HttpRequest} {phase : RequestPhase}
    (hmove : RequestMove state next id request label phase) (hphase : phase = .summarizing) :
    ∃ session, request.phase = .generating session := by
  cases hmove with
  | refused _ | takenDown _ | sent _ | sentEvicting _ | evicts _ | planned _
  | planRaised _ _ _ | tokenizerFailed _ | generationFailed _ | disconnected _
  | summarized _ => cases hphase
  | found _ _ | recorded _ _ =>
      unfold afterEnsure at hphase
      split at hphase <;> cases hphase
  | polled _ =>
      unfold pollResult at hphase
      dsimp only at hphase
      repeat' split at hphase
      all_goals cases hphase
  | generated hgenerating => exact ⟨_, hgenerating⟩

end PiSSM.Orchestrator.HttpState
