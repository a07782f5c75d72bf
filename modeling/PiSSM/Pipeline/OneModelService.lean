import PiSSM.Lib.Traces
import PiSSM.Pipeline.BufferedInference
import PiSSM.Pipeline.ResidentModels

/-!
The service of `SequentialRequests` refines the store of `OneModelStore`, request by request,
when the checkpoints of the submitted manifests are hosted and every heartbeat comes from
the worker at its address.
-/

namespace PiSSM.Pipeline

open PiSSM.Lib PiSSM.Inference PiSSM.Orchestrator

variable {γ ω H S : Type}

section Handlers

variable {μ τ κ : Type*} [ShardModel μ τ κ]

/-- Both handlers return what the steps of a generation come to. -/
theorem handlers_result {session : ResidentSession τ} (hids : SingleSequence session)
    (floatText : ℚ → PyFloat) {env : HandlerEnv κ} {submission : InferSubmission}
    {inputIds : τ} (htokenize : session.tokenize submission.input = .ok inputIds)
    (hdecode : ∀ ids, ∃ text, session.decode ids = .ok text) {count : Nat}
    (hnodes : env.numNodes = .ok count) {backend final : Backend μ τ κ}
    {steps : List (GenerationStep τ)}
    (hrun : session.runner.generateStream session.ops env.fuel env.steps inputIds
      submission.maxNewTokens backend = some (final, steps, none)) :
    ∃ result body,
      session.runInference floatText env submission backend =
        some (final, .ok (responseJson result)) ∧
      session.runInferenceStream floatText env submission backend = some (final, body) ∧
      session.decode (session.row inputIds ++ steps.map fun step =>
        session.tokenOf step.tokenId) = .ok result.output ∧
      result.numNodes = count ∧ result.numTokens = submission.maxNewTokens ∧
      body.position = .returned ∧ ∃ texts : List String,
        List.Forall₂ (fun step text => session.decode (session.row step.tokenId) = .ok text)
          steps texts ∧
        body.lines = texts.map tokenLine ++ [resultLine result] := by
  obtain ⟨hcount, htokens⟩ := streamLoop_steps hrun
  let start := streamStart session submission inputIds
  let closing := consume session floatText start steps
  have hclosing : Consumed session floatText start closing steps := consumed hdecode start steps
  obtain ⟨output, ended, houtput, hend, hreturned, _, hlines⟩ :=
    @streamTurns_end μ _ _ _ session floatText env hdecode 0 count inputIds final closing
      hnodes hclosing.position (by
        rw [hclosing.steps, hcount rfl, hclosing.maxNewTokens]
        exact Nat.zero_add _)
  obtain ⟨texts, htexts, hdecoded⟩ := hclosing.lines
  rw [hclosing.outputIds] at houtput
  have hgenerate : session.runner.generate session.ops env.fuel env.steps inputIds
      submission.maxNewTokens backend = some (final, .ok
        ⟨steps.foldl (fun ids step => session.ops.cat ids step.tokenId) inputIds,
          steps.map GenerationStep.stepResult⟩) := by
    rw [PipelineRunner.generate, hrun]
    rfl
  have hlast : ((steps.map GenerationStep.stepResult).getLast?.map
      (PipelineResult.measured floatText)) = closing.lastStep := by
    rw [hclosing.lastStep, List.getLast?_map, Option.map_map]
    exact Option.or_none.symm
  refine ⟨closing.result count env.latencyMs output, ended, ?_,
    (runInferenceStream_eq hdecode htokenize hrun).trans hend, houtput, rfl,
    hclosing.maxNewTokens, hreturned, texts, hdecoded, ?_⟩
  · unfold ResidentSession.runInference
    simp only [htokenize, hgenerate, Option.map_some]
    unfold ResidentSession.bufferedResult StreamBody.result
    rw [row_foldl_cat hids inputIds htokens, hlast, hnodes, hclosing.maxNewTokens]
    change some (final, Except.map responseJson (do
      let output ← session.decode (start.outputIds ++ steps.map fun step =>
        session.tokenOf step.tokenId)
      _)) = _
    rw [houtput]
    rfl
  · rw [hlines, htexts]
    rfl

end Handlers

section Inferences

variable {around : Surroundings γ ω H S} {catalog : Catalog around} {store : OneModelStore}
  {service : Service H S} {manifest : ModelManifest} {plan : DispatchPlan} {stream : Bool}
  {submission : InferSubmission} {env : GenerationEnv S}

theorem residentSession_single (around : Surroundings γ ω H S) (plan : DispatchPlan)
    (tokenizer : Tokenizer H) : SingleSequence (around.residentSession plan tokenizer) where
  cat _ _ := List.map_append
  argmax logits token hargmax := by
    change (sequenceOps around.argmax).argmaxLast logits = .ok token at hargmax
    cases hlast : logits.getLast? with
    | none => simp [sequenceOps, hlast] at hargmax
    | some last =>
        simp only [sequenceOps, hlast, Except.ok.injEq] at hargmax
        subst hargmax
        exact ⟨tokenizer.tokenId (around.argmax last), rfl⟩

theorem Represents.setBackend (hrep : Represents catalog service store)
    {backend : Backend (MambaShardModule (List H) S) (List H) (Cache S)}
    (hsame : SameCluster service.network backend.network) :
    Represents catalog (service.setBackend backend) store where
  registry := hrep.registry
  modelRegistry := hrep.modelRegistry
  listed := hrep.listed
  located := hrep.located.of_nodeId hsame.nodeId
  table := hrep.table
  workers := hrep.workers.of_sameCluster hsame

/-- What a ready session does with a submission. -/
def Surroundings.runReady (around : Surroundings γ ω H S) (service : Service H S)
    (plan : DispatchPlan) (tokenizer : Tokenizer H) (stream : Bool)
    (submission : InferSubmission) (env : GenerationEnv S) :
    Option (ServiceReply × Service H S) :=
  let resident := around.residentSession plan tokenizer
  let handler : HandlerEnv (Cache S) :=
    ⟨env.fuel, env.steps, env.latencyMs, .ok plan.assignments.length⟩
  if stream then
    (resident.runInferenceStream around.floatText handler submission service.backend).map
      fun (backend, body) => (.lines body, service.setBackend backend)
  else
    (resident.runInference around.floatText handler submission service.backend).map
      fun (backend, outcome) =>
        match outcome with
        | .ok value => (.json value, service.setBackend backend)
        | .error err => (.http (.serverError err), service.setBackend backend)

theorem runInference_ready {loader : Nat}
    (hget : service.modelStates.get? manifest.name = some (readyState loader plan))
    {tokenizer : Tokenizer H} (hread : around.autoTokenizer manifest.tokenizer = .ok tokenizer) :
    around.runInference service manifest stream submission env =
      around.runReady service plan tokenizer stream submission env := by
  unfold Surroundings.runInference
  simp only [hget, pollResult, readyState, HttpState.loadOutcome, hread]
  rfl

theorem Represents.runReady (hrep : Represents catalog service store) {tokenizer : Tokenizer H}
    {reply : ServiceReply} {next : Service H S}
    (hrun : around.runReady service plan tokenizer stream submission env = some (reply, next)) :
    Represents catalog next store := by
  unfold Surroundings.runReady at hrun
  dsimp only at hrun
  split at hrun
  · obtain ⟨⟨backend, body⟩, hstream, hresult⟩ := Option.map_eq_some_iff.mp hrun
    obtain ⟨_, rfl⟩ := Prod.mk.inj hresult
    exact hrep.setBackend (runInferenceStream_sameCluster hstream)
  · obtain ⟨⟨backend, outcome⟩, hbuffered, hresult⟩ := Option.map_eq_some_iff.mp hrun
    have hnext := hrep.setBackend (runInference_sameCluster hbuffered)
    cases outcome with
    | ok value =>
        obtain ⟨_, rfl⟩ := Prod.mk.inj hresult
        exact hnext
    | error err =>
        obtain ⟨_, rfl⟩ := Prod.mk.inj hresult
        exact hnext

/-- A prompt is continued on the workers that hold the model. -/
theorem Placed.continues (hplaced : Placed catalog manifest plan service.network)
    {hosted : HostedModel around manifest} (hhosted : catalog manifest = some hosted)
    {prompt : List H} (htokenize : hosted.tokenizer.tokenize submission.input = .ok prompt)
    (hprompt : 1 ≤ prompt.length) (hsound : env.Sound plan) :
    ∃ reply next,
      around.runReady service plan hosted.tokenizer stream submission env = some (reply, next) ∧
      Continues hosted plan stream submission prompt reply := by
  obtain ⟨model, hmodel, _⟩ := around.library.pretrained hosted.checkpoint
  obtain ⟨registry, hplanned⟩ := hplaced.planned
  have hlayers : plan.totalLayers = manifest.layers := by
    obtain ⟨_, _, rfl⟩ := planDispatch_ok hplanned
    rfl
  let session := around.residentSession plan hosted.tokenizer
  have hholds : HoldsPlan (hosted.embedding model.embeddings) (hosted.norm model.normF)
      (hosted.head model.lmHead) (fun layerIdx => hosted.block (model.layers.getD layerIdx []))
      session.runner service.backend := by
    intro a ha
    change HoldsShard (recurrentModel plan.totalLayers _ _ _ _) plan.totalLayers plan.modelName
      service.network a
    have hshard := hplaced.shards hosted model hhosted hmodel a ha
    rw [HostedModel.wholeModel, ← hlayers] at hshard
    exact hshard
  have hpipeline : IsPipeline session.runner.plan.totalLayers 0 session.runner.plan.assignments :=
    planDispatch_pipeline hplanned
  obtain ⟨final, steps, tokens, hstream, htokens, hcount, hgreedy⟩ :=
    generateStream_tokens around.argmax hpipeline hplaced.addresses hsound.1 hsound.2 hprompt
      submission.maxNewTokens.toNat hholds hlayers.symm
  have hrun : session.runner.generateStream session.ops env.fuel env.steps prompt
      submission.maxNewTokens service.backend = some (final, steps, none) := by
    rw [PipelineRunner.generateStream, Int.toNat_natCast] at hstream
    exact hstream
  let handler : HandlerEnv (Cache S) :=
    ⟨env.fuel, env.steps, env.latencyMs, .ok plan.assignments.length⟩
  obtain ⟨result, body, hbuffered, hstreamed, houtput, hnodes, hasked, hreturned, texts, htexts,
    hlines⟩ := @handlers_result _ _ _ _ session
      (residentSession_single around plan hosted.tokenizer) around.floatText handler submission
      prompt htokenize hosted.decodes _ rfl _ _ _ hrun
  have hids : steps.map (fun step => session.tokenOf step.tokenId) =
      tokens.map hosted.tokenizer.tokenId := by
    calc steps.map (fun step => session.tokenOf step.tokenId)
        = (steps.map GenerationStep.tokenId).map session.tokenOf := by rw [List.map_map]; rfl
      _ = tokens.map hosted.tokenizer.tokenId := by rw [htokens, List.map_map]; rfl
  have htext : hosted.tokenizer.decode ((prompt ++ tokens).map hosted.tokenizer.tokenId) =
      .ok result.output := by
    rw [List.map_append, ← hids]
    exact houtput
  have htokenTexts : List.Forall₂ (fun token text =>
      hosted.tokenizer.decode [hosted.tokenizer.tokenId token] = .ok text) tokens texts := by
    have hsteps : List.Forall₂ (fun ids text => session.decode (session.row ids) = .ok text)
        (steps.map GenerationStep.tokenId) texts := List.forall₂_map_left_iff.mpr htexts
    rw [htokens, List.forall₂_map_left_iff] at hsteps
    exact hsteps
  unfold Surroundings.runReady
  cases stream with
  | true =>
      refine ⟨.lines body, service.setBackend final, ?_, model, tokens, result, hmodel, hcount,
        hgreedy, htext, hnodes, hasked, rfl, hreturned, texts, htokenTexts, hlines⟩
      dsimp only
      rw [if_pos rfl, hstreamed]
      rfl
  | false =>
      refine ⟨.json (responseJson result), service.setBackend final, ?_, model, tokens, result,
        hmodel, hcount, hgreedy, htext, hnodes, hasked, rfl, rfl⟩
      dsimp only
      rw [if_neg Bool.false_ne_true, hbuffered]
      rfl

/-- An inference with a resident model. -/
theorem Represents.runInference_resident (hrep : Represents catalog service store)
    (hget : store.modelRegistry.get manifest.name = some manifest)
    (hholds : store.holds manifest.name = some plan) {reply : ServiceReply}
    {next : Service H S}
    (hrun : around.runInference service manifest stream submission env = some (reply, next)) :
    GreedyAnswer catalog manifest plan stream submission env reply ∧
      Represents catalog next store := by
  obtain ⟨loader, hentry⟩ := hrep.table.get?_of_holds hholds
  obtain ⟨hosted, hhosted⟩ := Option.isSome_iff_exists.mp (hrep.listed _ _ hget)
  rw [runInference_ready hentry hosted.tokenizerRead] at hrun
  refine ⟨?_, hrep.runReady hrun⟩
  intro hosted' prompt hhosted' htokenize hprompt hsound
  obtain rfl := Option.some.inj (hhosted.symm.trans hhosted')
  obtain ⟨manifest', hget', hplaced⟩ := hrep.workers.placed _ _ hholds
  obtain rfl := Option.some.inj (hget.symm.trans hget')
  obtain ⟨reply', next', hrun', hcontinues⟩ :=
    @Placed.continues _ _ _ _ _ _ _ _ _ stream _ _ hplaced _ hhosted _ htokenize hprompt hsound
  obtain ⟨rfl, _⟩ := Prod.mk.inj (Option.some.inj (hrun.symm.trans hrun'))
  exact hcontinues

/-- It can be run to its end when nothing fails. -/
theorem Represents.exists_runInference (hrep : Represents catalog service store)
    (hget : store.modelRegistry.get manifest.name = some manifest)
    (hholds : store.holds manifest.name = some plan) {hosted : HostedModel around manifest}
    (hhosted : catalog manifest = some hosted) {prompt : List H}
    (htokenize : hosted.tokenizer.tokenize submission.input = .ok prompt)
    (hprompt : 1 ≤ prompt.length) (hsound : env.Sound plan) :
    ∃ reply next,
      around.runInference service manifest stream submission env = some (reply, next) := by
  obtain ⟨loader, hentry⟩ := hrep.table.get?_of_holds hholds
  obtain ⟨manifest', hget', hplaced⟩ := hrep.workers.placed _ _ hholds
  obtain rfl := Option.some.inj (hget.symm.trans hget')
  obtain ⟨reply, next, hrun, _⟩ := hplaced.continues hhosted htokenize hprompt hsound
  exact ⟨reply, next, (runInference_ready hentry hosted.tokenizerRead).trans hrun⟩

/-- An inference with a model that could not be made resident. -/
theorem Represents.runInference_failed (hrep : Represents catalog service store)
    (hholds : store.holds manifest.name = none) {message : String}
    (hfailed : store.failed manifest.name = some message) :
    around.runInference service manifest stream submission env = some (.http (.httpException
      (if "no available".toList <:+: message.toList then 503 else 400) message), service) := by
  have hentry := hrep.table.get?_of_failed hholds
  rw [hfailed, Option.map_some] at hentry
  unfold Surroundings.runInference
  by_cases hmissing : "no available".toList <:+: message.toList
  · simp only [hentry, pollResult, failedState, Option.getD_some, if_pos hmissing]
  · simp only [hentry, pollResult, failedState, Option.getD_some, if_neg hmissing]

end Inferences

section Runs

variable {around : Surroundings γ ω H S} (catalog : Catalog around) {store : OneModelStore}
  {service next : Service H S} {request : ServiceRequest S} {reply : ServiceReply}

/-- Heartbeats come from the worker at their address, and only manifests of the catalog are
submitted. -/
def Allowed (service : Service H S) : ServiceRequest S → Prop
  | .heartbeat _ request =>
      (service.network s!"{request.ipAddress}:{request.inferencePort}").nodeId = request.nodeId
  | .submit manifest => (catalog manifest).isSome
  | _ => True

/-- Requests that end: the tokenizer gives a prompt and nothing fails in the generation. -/
def Ends (store : OneModelStore) : ServiceRequest S → Prop
  | .infer _ submission _ env => ∀ manifest hosted,
      store.modelRegistry.get submission.modelName = some manifest →
      catalog manifest = some hosted →
      (∃ prompt, hosted.tokenizer.tokenize submission.input = .ok prompt ∧ 1 ≤ prompt.length) ∧
      ∀ plan, (store.makeResident manifest).holds manifest.name = some plan → env.Sound plan
  | _ => True

variable {catalog}

theorem Located.updateNode {registry : NodeRegistry} {μ κ : Type} {network : Network μ κ}
    (hlocated : Located registry network) {now : ℚ} {request : HeartbeatRequest}
    (hown : (network s!"{request.ipAddress}:{request.inferencePort}").nodeId =
      request.nodeId) : Located (registry.updateNode now request) network := by
  intro node hnode
  obtain ⟨⟨key, found⟩, hmem, rfl⟩ := List.mem_map.mp hnode
  have hget := (Dict.mem_items_iff _ _ _).mp hmem
  change (registry.nodes.set request.nodeId (registry.heartbeatInfo now request)).get? key =
    some found at hget
  rw [Dict.get?_set] at hget
  split at hget
  · obtain rfl := Option.some.inj hget
    exact hown
  · exact hlocated found (List.mem_map_of_mem ((Dict.mem_items_iff _ _ _).mpr hget))

theorem Located.reapStaleNodes {registry : NodeRegistry} {μ κ : Type} {network : Network μ κ}
    (hlocated : Located registry network) (now : ℚ) :
    Located (registry.reapStaleNodes now).1 network := by
  intro node hnode
  obtain ⟨reaped, hmem, rfl⟩ := List.mem_map.mp hnode
  obtain ⟨⟨key, found⟩, hfound, rfl⟩ := List.mem_map.mp hmem
  have hsame : nodeAddress (registry.reapNode now found) = nodeAddress found := by
    unfold NodeRegistry.reapNode
    split
    · rfl
    · rfl
  change (network (nodeAddress (registry.reapNode now found))).nodeId =
    (registry.reapNode now found).nodeId
  rw [hsame, registry.reapNode_nodeId]
  exact hlocated found (List.mem_map_of_mem hfound)

/-- A registered model stays as it is when another one is submitted. -/
theorem register_cases {models : ModelRegistry} {manifest : ModelManifest} :
    (∃ registered, models.register manifest = .ok registered ∧
      models.get manifest.name = none ∧ ∀ name, registered.get name =
        if name = manifest.name then some manifest else models.get name) ∨
    ∃ message, models.register manifest = .error (.valueError message) := by
  unfold ModelRegistry.register
  split
  · exact .inr ⟨_, rfl⟩
  · next hnew =>
      refine .inl ⟨_, rfl, ?_, fun name => Dict.get?_set _ _ _ _⟩
      unfold Dict.contains at hnew
      exact Option.not_isSome_iff_eq_none.mp hnew

theorem Represents.submit (hrep : Represents catalog service store) {manifest : ModelManifest}
    (hlisted : (catalog manifest).isSome) {registered : ModelRegistry}
    (hregister : store.modelRegistry.register manifest = .ok registered) :
    Represents catalog { service with modelRegistry := registered }
      { store with modelRegistry := registered } := by
  rcases @register_cases store.modelRegistry manifest with
    ⟨registered', hregister', hnew, hget⟩ | ⟨message, herror⟩
  · obtain rfl := Except.ok.inj (hregister.symm.trans hregister')
    have hkept (name : String) (found : ModelManifest)
        (hfound : store.modelRegistry.get name = some found) :
        registered.get name = some found := by
      rw [hget, if_neg, hfound]
      rintro rfl
      rw [hnew] at hfound
      cases hfound
    refine ⟨hrep.registry, rfl, ?_, hrep.located, hrep.table, hrep.workers.idle,
      hrep.workers.held, ?_⟩
    · intro name found hfound
      change registered.get name = some found at hfound
      rw [hget] at hfound
      split at hfound
      · obtain rfl := Option.some.inj hfound
        exact hlisted
      · exact hrep.listed name found hfound
    · intro name plan hholds
      obtain ⟨found, hfound, hplaced⟩ := hrep.workers.placed name plan hholds
      exact ⟨found, hkept name found hfound, hplaced⟩
  · rw [herror] at hregister
    cases hregister

theorem getTopology_eq (hshows : Shows service.modelStates store) :
    getTopology service.modelStates =
      match store.resident with
      | none => .topology none []
      | some (name, plan) => .topology (some name) (plan.assignments.map topologyAssignment) := by
  have hmem (name : String) (plan : DispatchPlan) :
      (name, plan) ∈ activePlans service.modelStates ↔ store.resident = some (name, plan) := by
    unfold activePlans
    rw [← OneModelStore.holds_eq_some, List.mem_filterMap]
    constructor
    · rintro ⟨⟨key, entry⟩, hitem, hactive⟩
      split at hactive
      · next hstatus =>
          obtain ⟨found, hfound, heq⟩ := Option.map_eq_some_iff.mp hactive
          obtain ⟨rfl, rfl⟩ := Prod.mk.inj heq
          have hget := (Dict.mem_items_iff _ _ _).mp hitem
          cases hholds : store.holds key with
          | some plan =>
              obtain ⟨loader, hready⟩ := hshows.get?_of_holds hholds
              obtain rfl := Option.some.inj (hget.symm.trans hready)
              exact hfound
          | none =>
              rw [hshows.get?_of_failed hholds] at hget
              obtain ⟨message, _, rfl⟩ := Option.map_eq_some_iff.mp hget
              cases hfound
      · cases hactive
    · intro hholds
      obtain ⟨loader, hready⟩ := hshows.get?_of_holds hholds
      exact ⟨(name, readyState loader plan), (Dict.mem_items_iff _ _ _).mpr hready, rfl⟩
  unfold getTopology
  cases hresident : store.resident with
  | none =>
      have hempty : activePlans service.modelStates = [] := by
        refine List.eq_nil_iff_forall_not_mem.mpr fun entry hentry => ?_
        have hsome := (hmem entry.1 entry.2).mp hentry
        rw [hresident] at hsome
        cases hsome
      rw [hempty]
      rfl
  | some entry =>
      have hentry := (hmem entry.1 entry.2).mpr hresident
      cases hactive : activePlans service.modelStates with
      | nil =>
          rw [hactive] at hentry
          cases hentry
      | cons first rest =>
          have hfirst := (hmem first.1 first.2).mp (by
            rw [hactive]
            exact List.mem_cons_self)
          obtain rfl := Option.some.inj (hresident.symm.trans hfirst)
          rfl

/-- The three ways an inference finds the store. -/
theorem OneModelStore.makeResident_cases (store : OneModelStore) (manifest : ModelManifest) :
    (∃ plan, store.holds manifest.name = some plan ∧ store.makeResident manifest = store ∧
      store.residentAnswer manifest = readyState 0 plan) ∨
    (store.holds manifest.name = none ∧ ∃ plan,
      planDispatch manifest store.registry = .ok plan ∧
      store.makeResident manifest = store.settle manifest.name plan ∧
      store.residentAnswer manifest = ⟨.loading, some plan, none, none⟩) ∨
    (store.holds manifest.name = none ∧ ∃ err,
      planDispatch manifest store.registry = .error err ∧
      store.makeResident manifest = store.refuse manifest.name err.str ∧
      store.residentAnswer manifest = failedState err.str) := by
  unfold OneModelStore.makeResident OneModelStore.residentAnswer
  cases store.holds manifest.name with
  | some plan => exact .inl ⟨plan, rfl, rfl, rfl⟩
  | none =>
      cases planDispatch manifest store.registry with
      | ok plan => exact .inr (.inl ⟨rfl, plan, rfl, rfl, rfl⟩)
      | error err => exact .inr (.inr ⟨rfl, err, rfl, rfl, rfl⟩)

section Answered

variable {manifest : ModelManifest} {stream expired : Bool} {submission : InferSubmission}
  {env : GenerationEnv S}

theorem Represents.timedOut (hrep : Represents catalog service store)
    (hget : store.modelRegistry.get manifest.name = some manifest) {entry : ModelState}
    (hensure : around.Ensures service manifest next (.ok entry))
    (hloading : entry.status = .loading) :
    InferAnswer catalog store manifest stream submission true env
      (.http (.httpException 504
        s!"Timed out waiting for model '{manifest.name}' to load")) := by
  obtain ⟨_, entry', heq, hentry⟩ := hrep.ensures hget hensure
  obtain rfl := Except.ok.inj heq
  rw [← forgetLoader_status, hentry] at hloading
  unfold InferAnswer
  rcases store.makeResident_cases manifest with ⟨plan, _, _, hanswer⟩ |
    ⟨hholds, plan, hplan, _, _⟩ | ⟨_, err, _, _, hanswer⟩
  · rw [hanswer] at hloading
    cases hloading
  · simp only [hholds, hplan, if_true]
  · rw [hanswer] at hloading
    cases hloading

/-- The answer to an inference whose client has waited for the load, if there was one. -/
theorem Represents.infers (hrep : Represents catalog service store)
    (hget : store.modelRegistry.get manifest.name = some manifest) {ensured : Service H S}
    {entry : ModelState} (hensure : around.Ensures service manifest ensured (.ok entry))
    (hready : expired = true → entry.status ≠ .loading)
    (hrun : around.runInference ensured manifest stream submission env = some (reply, next)) :
    InferAnswer catalog store manifest stream submission expired env reply ∧
      Represents catalog next (store.makeResident manifest) := by
  obtain ⟨hrep', entry', heq, hentry⟩ := hrep.ensures hget hensure
  obtain rfl := Except.ok.inj heq
  have hstatus : entry.status = (store.residentAnswer manifest).status := by
    rw [← hentry, forgetLoader_status]
  unfold InferAnswer
  rcases store.makeResident_cases manifest with ⟨plan, hholds, hmade, _⟩ |
    ⟨hholds, plan, hplan, hmade, hanswer⟩ | ⟨hholds, err, hplan, hmade, _⟩
  · rw [hmade] at hrep' ⊢
    simp only [hholds]
    exact hrep'.runInference_resident hget hholds hrun
  · rw [hmade] at hrep' ⊢
    have hexpired : expired = false := by
      rw [Bool.eq_false_iff]
      intro hexpired
      exact hready hexpired (hstatus.trans (congrArg ModelState.status hanswer))
    have hsettled : (store.settle manifest.name plan).holds manifest.name = some plan := by
      rw [OneModelStore.holds_settle, if_pos rfl]
    simp only [hholds, hplan, hexpired, Bool.false_eq_true, if_false]
    exact hrep'.runInference_resident hget hsettled hrun
  · rw [hmade] at hrep' ⊢
    have hfailed : (store.refuse manifest.name err.str).failed manifest.name = some err.str :=
      Function.update_self _ _ _
    rw [hrep'.runInference_failed rfl hfailed] at hrun
    obtain ⟨rfl, rfl⟩ := Prod.mk.inj (Option.some.inj hrun)
    simp only [hholds, hplan]
    exact ⟨trivial, hrep'⟩

end Answered

/-- One request: the reply is the store's, and the service goes on representing it. -/
theorem Represents.serves (hrep : Represents catalog service store)
    (hallowed : Allowed catalog service request)
    (hserves : around.Serves service request reply next) :
    Replies catalog store request reply ∧ Represents catalog next (store.next request) := by
  have hregistered := hrep.modelRegistry
  cases hserves with
  | heartbeat now request =>
      exact ⟨rfl, congrArg (fun registry => registry.updateNode now request) hrep.registry,
        hregistered, hrep.listed, hrep.located.updateNode hallowed, hrep.table,
        ⟨hrep.workers.idle, hrep.workers.held, hrep.workers.placed⟩⟩
  | reap now =>
      exact ⟨rfl, congrArg (fun registry => (registry.reapStaleNodes now).1) hrep.registry,
        hregistered, hrep.listed, hrep.located.reapStaleNodes now, hrep.table,
        ⟨hrep.workers.idle, hrep.workers.held, hrep.workers.placed⟩⟩
  | submitted hregister =>
      rw [← hregistered] at hregister
      simp only [Replies, OneModelStore.next, hregister, true_and]
      exact hrep.submit hallowed hregister
  | duplicate hregister =>
      rw [← hregistered] at hregister
      simp only [Replies, OneModelStore.next, hregister]
      exact ⟨rfl, hrep⟩
  | nodes =>
      refine ⟨?_, hrep⟩
      rw [Replies, hrep.registry]
  | models =>
      refine ⟨?_, hrep⟩
      rw [Replies, hregistered]
  | @unknown _ name hname hget =>
      rw [← hregistered] at hget
      cases request with
      | load queried | redistribute queried | status queried =>
          obtain rfl := Option.some.inj hname
          simp only [Replies, OneModelStore.reply, OneModelStore.next, hget]
          exact ⟨trivial, hrep⟩
      | infer stream submission expired env =>
          obtain rfl := Option.some.inj hname
          simp only [Replies, OneModelStore.next, hget]
          exact ⟨trivial, hrep⟩
      | heartbeat _ _ | reap _ | submit _ | nodes | models | topology => cases hname
  | @status name manifest hget =>
      rw [← hregistered] at hget
      refine ⟨?_, hrep⟩
      simp only [Replies, OneModelStore.reply, hget]
      rw [← hrep.table name]
      unfold getModelStatus
      cases service.modelStates.get? name with
      | none => rfl
      | some entry => rfl
  | topology => exact ⟨getTopology_eq hrep.table, hrep⟩
  | @load name manifest _ _ hget hensure =>
      rw [← hregistered] at hget
      obtain rfl := store.modelRegistry.keyed _ _ hget
      obtain ⟨hnext, entry, rfl, hentry⟩ := hrep.ensures hget hensure
      simp only [Replies, OneModelStore.reply, OneModelStore.next, hget]
      refine ⟨?_, hnext⟩
      rw [← hentry]
      rfl
  | @refused name manifest response hget hrefused =>
      rw [← hregistered] at hget
      have hentry := hrep.table name
      unfold Service.takeDown at hrefused
      simp only [Replies, OneModelStore.reply, OneModelStore.next, hget]
      cases hstate : service.modelStates.get? name with
      | none =>
          rw [hstate] at hrefused hentry
          simp only [← hentry, Option.map_none]
          exact ⟨congrArg ServiceReply.http (Except.error.inj hrefused).symm, hrep⟩
      | some found =>
          rw [hstate] at hrefused
          simp only at hrefused
          split at hrefused
          · next hloading =>
              exact absurd hloading (hrep.table.not_loading hstate)
          · cases hrefused
  | @redistribute name manifest down _ _ hget hdown hensure =>
      rw [← hregistered] at hget
      obtain rfl := store.modelRegistry.keyed _ _ hget
      unfold Service.takeDown at hdown
      cases hstate : service.modelStates.get? manifest.name with
      | none =>
          rw [hstate] at hdown
          cases hdown
      | some found =>
          rw [hstate] at hdown
          simp only [if_neg (hrep.table.not_loading hstate)] at hdown
          obtain rfl := Except.ok.inj hdown
          obtain ⟨hnext, entry, rfl, hentry⟩ := (hrep.drop hstate).ensures hget hensure
          have hknown := hrep.table manifest.name
          rw [hstate, Option.map_some] at hknown
          simp only [Replies, OneModelStore.reply, OneModelStore.next, hget, ← hknown]
          refine ⟨?_, hnext⟩
          rw [← hentry]
          rfl
  | @inferRaised _ submission _ _ manifest _ err hget hensure =>
      rw [← hregistered] at hget
      have hname := store.modelRegistry.keyed _ _ hget
      obtain ⟨_, entry, heq, _⟩ := hrep.ensures (hname.symm ▸ hget) hensure
      cases heq
  | @timedOut _ submission _ manifest _ _ hget hensure hloading =>
      rw [← hregistered] at hget
      have hname := store.modelRegistry.keyed _ _ hget
      have hown : store.modelRegistry.get manifest.name = some manifest := hname.symm ▸ hget
      simp only [Replies, OneModelStore.next, hget]
      rw [← hname]
      exact ⟨hrep.timedOut hown hensure hloading, (hrep.ensures hown hensure).1⟩
  | @infer _ _ _ _ manifest _ _ _ _ hget hensure hready hrun =>
      rw [← hregistered] at hget
      have hname := store.modelRegistry.keyed _ _ hget
      simp only [Replies, OneModelStore.next, hget]
      exact hrep.infers (hname.symm ▸ hget) hensure hready hrun

/-- Every request that ends is served. -/
theorem Represents.exists_serves (hrep : Represents catalog service store)
    (hends : Ends catalog store request) :
    ∃ reply next, around.Serves service request reply next := by
  have hregistered := hrep.modelRegistry
  cases request with
  | heartbeat now request => exact ⟨_, _, .heartbeat now request⟩
  | reap now => exact ⟨_, _, .reap now⟩
  | submit manifest =>
      rcases @register_cases service.modelRegistry manifest with
        ⟨registered, hregister, _⟩ | ⟨message, hregister⟩
      · exact ⟨_, _, .submitted hregister⟩
      · exact ⟨_, _, .duplicate hregister⟩
  | nodes => exact ⟨_, _, .nodes⟩
  | models => exact ⟨_, _, .models⟩
  | topology => exact ⟨_, _, .topology⟩
  | status name =>
      cases hget : service.modelRegistry.get name with
      | none => exact ⟨_, _, .unknown rfl hget⟩
      | some manifest => exact ⟨_, _, .status hget⟩
  | load name =>
      cases hget : service.modelRegistry.get name with
      | none => exact ⟨_, _, .unknown rfl hget⟩
      | some manifest =>
          have hown := hget
          rw [← hregistered] at hown
          obtain rfl := store.modelRegistry.keyed _ _ hown
          obtain ⟨next, outcome, hensure⟩ := hrep.exists_ensures hown
          exact ⟨_, _, .load hget hensure⟩
  | redistribute name =>
      cases hget : service.modelRegistry.get name with
      | none => exact ⟨_, _, .unknown rfl hget⟩
      | some manifest =>
          have hown := hget
          rw [← hregistered] at hown
          obtain rfl := store.modelRegistry.keyed _ _ hown
          cases hdown : service.takeDown manifest.name with
          | error response => exact ⟨_, _, .refused hget hdown⟩
          | ok down =>
              have htaken := hdown
              unfold Service.takeDown at htaken
              split at htaken
              · cases htaken
              · next entry hentry =>
                  rw [if_neg (hrep.table.not_loading hentry)] at htaken
                  obtain rfl := Except.ok.inj htaken
                  obtain ⟨next, outcome, hensure⟩ := (hrep.drop hentry).exists_ensures hown
                  exact ⟨_, _, .redistribute hget hdown hensure⟩
  | infer stream submission expired env =>
      cases hget : service.modelRegistry.get submission.modelName with
      | none => exact ⟨_, _, .unknown rfl hget⟩
      | some manifest =>
          have hown := hget
          rw [← hregistered] at hown
          have hname := store.modelRegistry.keyed _ _ hown
          have hself : store.modelRegistry.get manifest.name = some manifest :=
            hname.symm ▸ hown
          obtain ⟨ensured, outcome, hensure⟩ := hrep.exists_ensures hself
          obtain ⟨hrep', entry, rfl, hentry⟩ := hrep.ensures hself hensure
          by_cases hlate : expired = true ∧ entry.status = .loading
          · obtain ⟨rfl, hloading⟩ := hlate
            exact ⟨_, _, .timedOut hget hensure hloading⟩
          · have hready : expired = true → entry.status ≠ .loading := fun hexpired hloading =>
              hlate ⟨hexpired, hloading⟩
            obtain ⟨hosted, hhosted⟩ := Option.isSome_iff_exists.mp (hrep.listed _ _ hself)
            obtain ⟨⟨prompt, htokenize, hprompt⟩, hsound⟩ := hends manifest hosted hown hhosted
            rcases store.makeResident_cases manifest with ⟨plan, hholds, hmade, _⟩ |
              ⟨_, plan, _, hmade, _⟩ | ⟨_, err, _, hmade, _⟩
            · rw [hmade] at hrep' hsound
              obtain ⟨reply, next, hrun⟩ := hrep'.exists_runInference hself hholds hhosted
                htokenize hprompt (hsound plan hholds)
              exact ⟨_, _, .infer hget hensure hready hrun⟩
            · rw [hmade] at hrep' hsound
              have hholds : (store.settle manifest.name plan).holds manifest.name =
                  some plan := by
                rw [OneModelStore.holds_settle, if_pos rfl]
              obtain ⟨reply, next, hrun⟩ := hrep'.exists_runInference hself hholds hhosted
                htokenize hprompt (hsound plan hholds)
              exact ⟨_, _, .infer hget hensure hready hrun⟩
            · rw [hmade] at hrep'
              have hfailed : (store.refuse manifest.name err.str).failed manifest.name =
                  some err.str := Function.update_self _ _ _
              exact ⟨_, _, .infer hget hensure hready (hrep'.runInference_failed rfl hfailed)⟩

theorem represents_create (catalog : Catalog around) (floats : FloatArithmetic)
    (heartbeatIntervalS : ℚ) (missedThreshold : Nat) (nodeIdAt : String → String) :
    Represents catalog (Service.create floats heartbeatIntervalS missedThreshold nodeIdAt)
      (OneModelStore.create (NodeRegistry.create floats heartbeatIntervalS missedThreshold)) where
  registry := rfl
  modelRegistry := rfl
  listed _ _ hget := by cases hget
  located _ hnode := by cases hnode
  table _ := rfl
  workers := {
    idle := fun _ => rfl
    held := fun _ _ _ hget => by cases hget
    placed := fun _ _ hholds => by cases hholds }

end Runs

/-- The orchestrator is a store that has one model resident at a time. However requests are
sent, from the start of the orchestrator and its workers, each of them once the one before
it and the load that one has started have ended, with all that a load may do: each reply is
what the store answers after the requests before it, the state represents the store's, so
that the workers hold the shards of the resident model and nothing else, and every request
that ends gets a reply. -/
theorem one_model_store {around : Surroundings γ ω H S} (catalog : Catalog around)
    (floats : FloatArithmetic) (heartbeatIntervalS : ℚ) (missedThreshold : Nat)
    (nodeIdAt : String → String) {exchanges : List (ServiceRequest S × ServiceReply)}
    {service : Service H S}
    (hrun : Trace (fun service exchange next => Allowed catalog service exchange.1 ∧
        around.Serves service exchange.1 exchange.2 next)
      (Service.create floats heartbeatIntervalS missedThreshold nodeIdAt) exchanges service) :
    let start :=
      OneModelStore.create (NodeRegistry.create floats heartbeatIntervalS missedThreshold)
    (∀ before exchange after, exchanges = before ++ exchange :: after →
      Replies catalog (start.after before) exchange.1 exchange.2) ∧
    Represents catalog service (start.after exchanges) ∧
    ∀ request, Ends catalog (start.after exchanges) request →
      ∃ reply next, around.Serves service request reply next := by
  have hstart := represents_create catalog floats heartbeatIntervalS missedThreshold nodeIdAt
  obtain ⟨hanswers, hrep⟩ := hrun.tracks hstart fun _ _ _ _ hrep hstep =>
    hrep.serves hstep.1 hstep.2
  exact ⟨hanswers, hrep, fun request hends => hrep.exists_serves hends⟩

def fiveLayerTokenizer : Tokenizer Nat where
  tokenize _ := .ok [10, 20, 30]
  tokenId id := id
  decode ids := .ok (" ".intercalate (ids.map toString))

def fiveLayerSurroundings : Surroundings Unit String Nat Nat where
  hub := fiveLayerHub
  library := fiveLayerLibrary
  autoConfig _ := .ok "{}"
  autoTokenizer _ := .ok fiveLayerTokenizer
  argmax := (· % 50)
  callbackAddress := "host:50050"
  callbackAddress_ne := host_ne
  floatText _ := shortTime

/-- Every manifest of a Mamba model with five layers is hosted. -/
def fiveLayerCatalog : Catalog fiveLayerSurroundings := fun manifest =>
  if hmamba : manifest.layers = 5 ∧ manifest.arch ∈ archToShardClass then
    some {
      config := ()
      checkpoint := fiveLayerFiles
      embedding := fun _ x => x + 1
      block := fun _ => countingRecurrence 0
      norm := fun _ x => x + 2
      head := fun _ x => 3 * x
      tokenizer := fiveLayerTokenizer
      hosts := ⟨rfl, rfl, rfl, rfl, rfl, hmamba.1.symm, hmamba.2⟩
      parts := rfl
      configText := rfl
      tokenizerRead := rfl
      decodes := fun _ => ⟨_, rfl⟩ }
  else none

/-- Two workers report and a manifest is submitted. -/
def fiveLayerExchanges : List (ServiceRequest Nat × ServiceReply) := [
  (.heartbeat 0 ⟨"a", "10.0.0.1", 2048, 4096, 4, "aarch64", "Linux", "6.6", 50051⟩,
    .acknowledged),
  (.heartbeat 0 ⟨"b", "10.0.0.2", 2048, 4096, 4, "aarch64", "Linux", "6.6", 50051⟩,
    .acknowledged),
  (.submit fiveLayerManifest, .created fiveLayerManifest)]

/-- Three tokens, for which the model has to be loaded first. -/
def fiveLayerInference : ServiceRequest Nat :=
  .infer false ⟨"m", "10 20 30", 3⟩ false ⟨2, fun step => ⟨s!"step-{step}", fun k => ⟨k, k, none⟩⟩,
    shortTime⟩

theorem one_model_store_five :
    ∃ hosted reply service, fiveLayerCatalog fiveLayerManifest = some hosted ∧
      Trace (fun service exchange next => Allowed fiveLayerCatalog service exchange.1 ∧
          fiveLayerSurroundings.Serves service exchange.1 exchange.2 next)
        (Service.create .exact 2 3 fun address =>
          if address = "10.0.0.1:50051" then "a" else "b")
        (fiveLayerExchanges ++ [(fiveLayerInference, reply)]) service ∧
      Continues hosted twoNodePlan false ⟨"m", "10 20 30", 3⟩ [10, 20, 30] reply := by
  have htrace : Trace (fun service exchange next => Allowed fiveLayerCatalog service exchange.1 ∧
      fiveLayerSurroundings.Serves service exchange.1 exchange.2 next)
      (Service.create .exact 2 3 fun address => if address = "10.0.0.1:50051" then "a" else "b")
      fiveLayerExchanges _ :=
    .snoc (.snoc (.snoc .nil ⟨rfl, .heartbeat _ _⟩) ⟨rfl, .heartbeat _ _⟩) ⟨rfl, .submitted rfl⟩
  obtain ⟨_, _, hserved⟩ := one_model_store fiveLayerCatalog .exact 2 3 _ htrace
  have hends : Ends fiveLayerCatalog ((OneModelStore.create (NodeRegistry.create .exact 2 3)).after
      fiveLayerExchanges) fiveLayerInference := by
    intro manifest hosted hget hhosted
    obtain rfl : fiveLayerManifest = manifest := Option.some.inj hget
    obtain rfl := Option.some.inj hhosted
    refine ⟨⟨[10, 20, 30], rfl, by decide⟩, fun plan hplan => ?_⟩
    obtain rfl : twoNodePlan = plan := Option.some.inj hplan
    exact ⟨by decide, fun _ _ => rfl⟩
  obtain ⟨reply, service, hserves⟩ := hserved fiveLayerInference hends
  have hinference := @Trace.snoc _ _ _ _ _ (fiveLayerInference, reply) _ _ htrace
    ⟨trivial, hserves⟩
  obtain ⟨hreplies, _, _⟩ := one_model_store fiveLayerCatalog .exact 2 3 _ hinference
  have hreply : GreedyAnswer fiveLayerCatalog fiveLayerManifest twoNodePlan false
      ⟨"m", "10 20 30", 3⟩ ⟨2, fun step => ⟨s!"step-{step}", fun k => ⟨k, k, none⟩⟩, shortTime⟩
      reply := hreplies fiveLayerExchanges (fiveLayerInference, reply) [] rfl
  exact ⟨_, reply, service, rfl, hinference,
    hreply _ [10, 20, 30] rfl rfl (by decide) ⟨by decide, fun _ _ => rfl⟩⟩

end PiSSM.Pipeline
