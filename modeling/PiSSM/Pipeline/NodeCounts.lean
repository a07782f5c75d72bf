import PiSSM.Lib.Chains
import PiSSM.Orchestrator.RequestMoves
import PiSSM.Pipeline.ReadyModels
import PiSSM.Pipeline.CacheOwnership

/-!
The node count of a result. The lists of a result have one entry for every worker its
last step came by; the count is looked up in the table after the generation, by the name
of the model, where a redistribution may have put another plan. A session that is found in
the table has its shards on the workers of its plan, so that its steps go from one
assignment to the next as long as no load rewires one of these workers. In the runs in
which none does, and in which no plan of another size is written while one is in use, the
table has, for every plan in use, one of its size, and the lists have that length too.
-/

namespace PiSSM.Pipeline

open PiSSM.Lib PiSSM.Inference PiSSM.Orchestrator

section Chain

variable {μ τ κ : Type*}

/-- The worker that this one forwards a `RunShard` of the model to, if it has the model
and is not the last one. -/
def nextAddress (network : Network μ κ) (modelName address : String) :
    Option (Option String) :=
  ((network address).models.get? modelName).map fun handle =>
    if handle.nextWorkerAddress = "" then none else some handle.nextWorkerAddress

theorem nextAddress_congr {left right : Network μ κ} {modelName : String}
    (hshape : SameShape modelName left right) :
    nextAddress left modelName = nextAddress right modelName := by
  funext address
  unfold nextAddress
  cases hleft : (left address).models.get? modelName with
  | none => rw [hshape.get?_none hleft]
  | some handle =>
      obtain ⟨handle', hright, hsame⟩ := hshape.handle hleft
      rw [hright, Option.map_some, Option.map_some, nextWorkerAddress_of_withoutCache hsame]

variable [ShardModel μ τ κ] {network : Network μ κ} {hops : Nat → Hop κ} {address : String}
  {request : RunShardRequest τ} {outcome : RunShardOutcome μ τ κ}

/-- Every worker that a delivered result comes by adds its entry to both lists. -/
theorem runShard_counts {fuel : Nat} (hmode : request.pipelineMode = true)
    (hrun : runShard fuel network hops address request = some outcome)
    {d : DeliverResultRequest τ} (hmem : d ∈ outcome.delivered) :
    ∃ count, chainLength (nextAddress network request.modelName) fuel address = some count ∧
      d.nodeLatenciesMs.length = request.nodeLatenciesMs.length + count ∧
      d.nodePeakMemoryMb.length = request.nodePeakMemoryMb.length + count := by
  induction fuel generalizing network hops address request outcome with
  | zero => cases hrun
  | succ fuel ih =>
      cases (runShard_iff_hopRun hmode).mp hrun with
      | unreachable _ | notLoaded _ _ => cases hmem
      | failed _ _ _ =>
          rw [lostReply_delivered] at hmem
          cases hmem
      | @delivered handle output _ hget _ hlast =>
          have hend : nextAddress network request.modelName address = some none := by
            simp only [nextAddress, hget, Option.map_some, hlast, if_true]
          rw [lostReply_delivered] at hmem
          unfold deliverResult at hmem
          split at hmem
          · cases hmem
          · obtain rfl := List.mem_singleton.mp hmem
            refine ⟨1, ?_, ?_, ?_⟩
            · simp only [chainLength, hend]
            · simp only [deliverRequest, List.length_append, List.length_singleton]
            · simp only [deliverRequest, List.length_append, List.length_singleton]
      | @forwarded handle output inner _ hget _ hnext hinner =>
          have hlink : nextAddress network request.modelName address =
              some (some handle.nextWorkerAddress) := by
            simp only [nextAddress, hget, Option.map_some, hnext, if_false]
          rw [lostReply_delivered, forwardedReply_delivered] at hmem
          obtain ⟨count, hcount, hlatencies, hmemory⟩ :=
            ih (forwardRequest_pipelineMode hmode _ _) hinner hmem
          have hsame : nextAddress network request.modelName =
              nextAddress (setHandle network address request.modelName
                (computeShard handle request (hops 0).fault).1) request.modelName :=
            nextAddress_congr (sameShape_computed hget)
          refine ⟨count + 1, ?_, ?_, ?_⟩
          · simp only [chainLength, hlink]
            rw [hsame]
            exact congrArg (Option.map (· + 1)) hcount
          · rw [hlatencies, forwardRequest, List.length_append, List.length_singleton]
            omega
          · rw [hmemory, forwardRequest, List.length_append, List.length_singleton]
            omega

end Chain

/-- The last step of every request that has generated a token: the plan of its session
and the result of the step. -/
abbrev LastSteps := Nat → Option (DispatchPlan × PipelineResult TensorTag)

/-- The token that a step of the cluster generates, with its request. -/
def yieldedStep (setup : ClusterSetup) (cluster : Cluster) :
    ClusterLabel → Option (Nat × DispatchPlan × PipelineResult TensorTag)
  | .generate id fuel env =>
      match cluster.http.requests id, cluster.generations id with
      | some request, .active session step input =>
          if step < (Cluster.RequestKind.maxNewTokens request.kind).toNat then
            ((Cluster.runner setup session).runShardStep fuel env input (step = 0)
              ⟨cluster.network, cluster.resultStore⟩).bind fun (_, result) =>
                match PipelineRunner.generationStep tracedOps result with
                | .ok yielded => some (id, session.plan, yielded.stepResult)
                | .error _ => none
          else none
      | _, _ => none
  | _ => none

def recordStep (setup : ClusterSetup) (cluster : Cluster) (label : ClusterLabel)
    (lastSteps : LastSteps) : LastSteps :=
  match yieldedStep setup cluster label with
  | some (id, plan, result) => Function.update lastSteps id (some (plan, result))
  | none => lastSteps

/-- The cluster with the last steps as a history variable. -/
def countedSystem (setup : ClusterSetup) :
    TransitionSystem (Cluster × LastSteps) ClusterLabel :=
  setup.system.withHistory (fun _ => none) (recordStep setup)

/-- The node count of every result with a token, buffered or streamed, is that of the
plan that produced the tokens, and both lists are as long. -/
def NodeCountsAgree (state : Cluster × LastSteps) : Prop :=
  ∀ id request numNodes plan result, state.1.http.requests id = some request →
    request.phase = .responded (.result numNodes) → state.2 id = some (plan, result) →
    numNodes = plan.assignments.length ∧ numNodes = result.nodeLatenciesMs.length ∧
      numNodes = result.nodePeakMemoryMb.length

/-- The plan of the session that a request runs on: the session is known as long as it
generates, and after that by the last step. -/
inductive PlanInUse (lastSteps : LastSteps) (id : Nat) (request : HttpRequest) :
    DispatchPlan → Prop where
  | generating {session : InferenceSession} (hphase : request.phase = .generating session) :
      PlanInUse lastSteps id request session.plan
  | summarizing {plan : DispatchPlan} {result : PipelineResult TensorTag}
      (hphase : request.phase = .summarizing) (hlast : lastSteps id = some (plan, result)) :
      PlanInUse lastSteps id request plan

/-- The steps that write an entry with a plan into the table: a dispatch that is recorded
and the end of a load. -/
inductive WritesPlan (cluster : Cluster) (name : String) : ClusterLabel → DispatchPlan → Prop where
  | recorded {id loader : Nat} {request : HttpRequest} {plan : DispatchPlan}
      (hget : cluster.http.requests id = some request)
      (hphase : request.phase = .recording (.ok plan)) (hname : request.manifest.name = name) :
      WritesPlan cluster name (.request (.record id loader)) plan
  | loaded {loader : Nat} {thread : LoaderThread}
      (hthread : cluster.http.loaders loader = some thread) (hrunning : thread.running = true)
      (hname : thread.manifest.name = name) :
      WritesPlan cluster name (.finishLoad loader) thread.plan

/-- No shard is disputed; a load that ends at a worker of a session in use leaves it wired
as the plan of the session says; and a plan that is written while one of its model is in
use has as many assignments as that one. -/
structure CountsOfPlan (state : Cluster × LastSteps) (label : ClusterLabel) : Prop where
  undisputed : ShardsUndisputed state.1 label
  rewired : ∀ id request session ticket built loaded assignment,
    state.1.http.requests id = some request → request.phase = .generating session →
    label = .finishJob ticket built → state.1.jobs ticket = .loading assignment.address loaded →
    loaded.modelName = session.plan.modelName → assignment ∈ session.plan.assignments →
    loaded.nextWorkerAddress = assignment.nextWorkerAddress
  table : ∀ id request used plan, state.1.http.requests id = some request →
    PlanInUse state.2 id request used → WritesPlan state.1 request.manifest.name label plan →
    plan.assignments.length = used.assignments.length

open ClusterSetup

variable {setup : ClusterSetup} {cluster next : Cluster} {label : ClusterLabel}

/-- The plan is a pipeline, and every worker of it that has the model forwards to the
worker of the next assignment. -/
structure Wired (network : Network TracedShard (List TensorTag)) (plan : DispatchPlan) :
    Prop where
  pipeline : IsPipeline plan.totalLayers 0 plan.assignments
  links : ∀ assignment ∈ plan.assignments, ∀ handle,
    (network assignment.address).models.get? plan.modelName = some handle →
    handle.nextWorkerAddress = assignment.nextWorkerAddress

/-- Where one can go on from the worker of an assignment, one goes where the plan says. -/
theorem Wired.nextAddress {network : Network TracedShard (List TensorTag)}
    {plan : DispatchPlan} (hwired : Wired network plan) {assignment : ShardAssignment}
    (hmem : assignment ∈ plan.assignments) {link : Option String}
    (hlink : nextAddress network plan.modelName assignment.address = some link) :
    link = if assignment.nextWorkerAddress = "" then none
      else some assignment.nextWorkerAddress := by
  obtain ⟨handle, hget, rfl⟩ := Option.map_eq_some_iff.mp hlink
  rw [hwired.links assignment hmem handle hget]

/-- A call that comes to the end of the chain has come by every assignment. -/
theorem Wired.chainLength_eq {network : Network TracedShard (List TensorTag)}
    {plan : DispatchPlan} (hwired : Wired network plan) {first : ShardAssignment}
    (hfirst : plan.assignments.head? = some first) {links count : Nat}
    (hlength : chainLength (Pipeline.nextAddress network plan.modelName) links first.address =
      some count) : count = plan.assignments.length := by
  obtain ⟨rest, hrest⟩ := List.head?_eq_some_iff.mp hfirst
  have hlinked : List.IsChain (fun a b => ∀ link,
      Pipeline.nextAddress network plan.modelName a = some link → link = some b)
      (plan.assignments.map ShardAssignment.address) := by
    rw [List.isChain_map, List.isChain_iff_getElem]
    intro index hindex link hlink
    have hforward := hwired.pipeline.linked
      (List.getElem?_eq_getElem (Nat.lt_of_succ_lt hindex)) (List.getElem?_eq_getElem hindex)
    rw [hwired.nextAddress (List.getElem_mem _) hlink, hforward,
      if_neg (ShardAssignment.address_ne_empty _)]
  have hclosed : ∀ last, plan.assignments.getLast? = some last → ∀ link,
      Pipeline.nextAddress network plan.modelName last.address = some link → link = none := by
    intro last hlast link hlink
    have hmem := List.mem_of_getLast? hlast
    rw [hwired.nextAddress hmem hlink, hwired.pipeline.closed hlast, if_pos rfl]
  rw [hrest] at hlinked hclosed ⊢
  rw [List.map_cons] at hlinked
  have hcount : count = (first.address :: rest.map ShardAssignment.address).length := by
    apply Lib.chainLength_eq hlinked _ hlength
    simp only [← List.map_cons, List.getLast_map]
    exact hclosed _ (List.getLast?_eq_getLast_of_ne_nil (List.cons_ne_nil _ _))
  rw [hcount, List.length_cons, List.length_map, List.length_cons]

/-- The wires of a plan stay as they are when the loads that end keep to them. -/
theorem Wired.step {plan : DispatchPlan} (hwired : Wired cluster.network plan)
    (htable : TableMove cluster next label)
    (hbuilt : ∀ ticket built loaded assignment, label = .finishJob ticket built →
      cluster.jobs ticket = .loading assignment.address loaded →
      loaded.modelName = plan.modelName → assignment ∈ plan.assignments →
      loaded.nextWorkerAddress = assignment.nextWorkerAddress) :
    Wired next.network plan := by
  refine ⟨hwired.pipeline, ?_⟩
  intro assignment hmem handle hget
  -- A worker whose handle of the model is the one it had is wired as it was.
  have hkept {address : String} {servicer : InferenceServicer TracedShard (List TensorTag)}
      (hnetwork : next.network = Function.update cluster.network address servicer)
      (hown : servicer.models.get? plan.modelName = some handle →
        assignment.address = address →
        handle.nextWorkerAddress = assignment.nextWorkerAddress) :
      handle.nextWorkerAddress = assignment.nextWorkerAddress := by
    rw [hnetwork] at hget
    by_cases haddress : assignment.address = address
    · rw [haddress, Function.update_self] at hget
      exact hown hget haddress
    · rw [Function.update_of_ne haddress] at hget
      exact hwired.links assignment hmem handle hget
  cases htable with
  | kept _ hsame _ =>
      obtain ⟨handle', hget', heq⟩ := (hsame.shape plan.modelName).symm.handle hget
      rw [← nextWorkerAddress_of_withoutCache heq]
      exact hwired.links assignment hmem handle' hget'
  | @unloaded address modelName _ hnetwork _ =>
      apply hkept hnetwork
      rintro hown rfl
      rw [InferenceServicer.unloadShard_get?] at hown
      split at hown
      · cases hown
      · exact hwired.links assignment hmem handle hown
  | accepted _ _ _ hnetwork _ | failed _ _ hnetwork _ =>
      apply hkept hnetwork
      rintro hown rfl
      exact hwired.links assignment hmem handle hown
  | @built ticket address loaded shard memoryMb report hevent hjob hnetwork _ =>
      apply hkept hnetwork
      rintro hown rfl
      by_cases hname : loaded.modelName = plan.modelName
      · rw [hname, Dict.get?_set_self] at hown
        obtain rfl := Option.some.inj hown
        obtain ⟨built, hlabel⟩ := tableEvent_built hevent
        exact hbuilt ticket built loaded assignment hlabel hjob hname hmem
      · rw [Dict.get?_set_of_ne _ _ (Ne.symm hname)] at hown
        exact hwired.links assignment hmem handle hown

/-- A token is generated by an active generation, in a step that goes along a chain as
long as the lists of its result. -/
theorem yieldedStep_some {id : Nat} {plan : DispatchPlan} {result : PipelineResult TensorTag}
    (hyield : yieldedStep setup cluster label = some (id, plan, result)) :
    ∃ session step input first links,
      cluster.generations id = .active session step input ∧ plan = session.plan ∧
      session.plan.assignments.head? = some first ∧
      chainLength (nextAddress cluster.network session.plan.modelName) links first.address =
        some result.nodeLatenciesMs.length ∧
      result.nodePeakMemoryMb.length = result.nodeLatenciesMs.length := by
  unfold yieldedStep at hyield
  split at hyield
  · next caller fuel env =>
      split at hyield
      · next request session step input hget hactive =>
          split at hyield
          · obtain ⟨⟨backend, outcome⟩, hrun, hyield⟩ := Option.bind_eq_some_iff.mp hyield
            dsimp only at hyield
            split at hyield
            · next yielded hgenerated =>
                cases hyield
                obtain ⟨rfl, -⟩ := PipelineRunner.generationStep_ok hgenerated
                rcases runShardStep_cases hrun with ⟨-, err, herr⟩ |
                  ⟨first, after, hfirst, hcall, -, hresult⟩
                · cases herr
                · obtain ⟨d, hmem, hfound⟩ := hresult yielded.stepResult rfl
                  obtain ⟨count, hcount, hlatencies, hmemory⟩ :=
                    runShard_counts (PipelineRunner.runRequest_pipelineMode _ _ _ _) hcall hmem
                  refine ⟨session, step, input, first, fuel, hactive, rfl, hfirst, ?_, ?_⟩
                  · rw [hfound]
                    simp only [deliveredResult, hlatencies, PipelineRunner.runRequest,
                      List.length_nil, Nat.zero_add]
                    exact hcount
                  · rw [hfound]
                    simp only [deliveredResult, hlatencies, hmemory,
                      PipelineRunner.runRequest, List.length_nil]
            · cases hyield
          · cases hyield
      · cases hyield
  · cases hyield

/-- An entry with a plan was there before, or the step has written the plan. -/
theorem plan_cases (hstep : setup.step cluster label = some next) {name : String}
    {entry : ModelState} {plan : DispatchPlan}
    (hget : next.http.modelStates.get? name = some entry) (hplan : entry.plan = some plan) :
    cluster.http.modelStates.get? name = some entry ∨ WritesPlan cluster name label plan := by
  rcases (step_move hstep).entry_cases hget with hold | hwrite
  · exact .inl hold
  · cases hwrite with
    | refused => cases hplan
    | dispatched hrequest hphase hname =>
        cases hplan
        exact .inr (.recorded hrequest hphase hname)
    | @loaded loader thread outcome hthread hrunning hname _ _ =>
        cases outcome with
        | ok _ | error err =>
            cases hplan
            exact .inr (.loaded hthread hrunning hname)

/-- The phases of a request that has generated a token with this plan. -/
inductive RunsOn (plan : DispatchPlan) : RequestPhase → Prop where
  | generating {session : InferenceSession} (hplan : plan = session.plan) :
      RunsOn plan (.generating session)
  | summarizing : RunsOn plan .summarizing
  | responded (response : HttpResponse) : RunsOn plan (.responded response)

/-- A request that has generated a token does not go back. -/
theorem RunsOn.move {state after : HttpState} {httpLabel : HttpLabel} {id : Nat}
    {request : HttpRequest} {phase : RequestPhase} {plan : DispatchPlan}
    (hruns : RunsOn plan request.phase)
    (hmove : HttpState.RequestMove state after id request httpLabel phase) :
    RunsOn plan phase := by
  cases hmove with
  | tokenizerFailed _ | generationFailed _ | disconnected _ | summarized _ => exact .responded _
  | generated _ => exact .summarizing
  | refused hphase | takenDown hphase | sent hphase | sentEvicting hphase | found hphase _
  | evicts hphase | planned hphase | planRaised hphase _ _ | recorded hphase _
  | polled hphase =>
      rw [hphase] at hruns
      cases hruns

/-- The plans in the table are those of `plan_dispatch`, with the plan of every session
among them, and the plans of the sessions in use are wired; for every plan in use the
table has one with as many assignments, as far as it has one of the model; the lists of
the last steps are as long as their plans, and a request that has got its result has got
the count of its plan. -/
structure CountInv (state : Cluster × LastSteps) : Prop where
  generating : ∀ id session step input, state.1.generations id = .active session step input →
    ∃ request, state.1.http.requests id = some request ∧ request.phase = .generating session
  session : ∀ name entry session, state.1.http.modelStates.get? name = some entry →
    entry.session = some session → entry.plan = some session.plan
  planned : ∀ name entry plan, state.1.http.modelStates.get? name = some entry →
    entry.plan = some plan → ∃ manifest, manifest.name = name ∧ HttpState.Planned manifest plan
  wired : ∀ id request session, state.1.http.requests id = some request →
    request.phase = .generating session → Wired state.1.network session.plan
  lists : ∀ id plan result, state.2 id = some (plan, result) →
    result.nodeLatenciesMs.length = plan.assignments.length ∧
      result.nodePeakMemoryMb.length = plan.assignments.length
  runs : ∀ id plan result, state.2 id = some (plan, result) →
    ∃ request, state.1.http.requests id = some request ∧ RunsOn plan request.phase
  table : ∀ id request plan entry found, state.1.http.requests id = some request →
    PlanInUse state.2 id request plan →
    state.1.http.modelStates.get? request.manifest.name = some entry →
    entry.plan = some found → found.assignments.length = plan.assignments.length
  counted : ∀ id request numNodes plan result, state.1.http.requests id = some request →
    request.phase = .responded (.result numNodes) → state.2 id = some (plan, result) →
    numNodes = plan.assignments.length

/-- The tokenizer is called before the generation starts. -/
theorem idle_of_tokenizerFailed {id : Nat} {err : PyException}
    (hstep : setup.step cluster (.tokenizerFailed id err) = some next) :
    cluster.generations id = .idle := by
  simp only [ClusterSetup.step, Cluster.tokenizerFailed] at hstep
  split at hstep
  · next hidle => exact hidle
  · cases hstep

variable {lastSteps : LastSteps}

theorem CountInv.generating_step (hinv : CountInv (cluster, lastSteps))
    (hstep : setup.step cluster label = some next) {id step : Nat} {session : InferenceSession}
    {input : TensorTag} (hactive : next.generations id = .active session step input) :
    ∃ request, next.http.requests id = some request ∧
      request.phase = .generating session := by
  have hkept {httpLabel : HttpLabel} {http : HttpState}
      (hhttp : cluster.http.step httpLabel = some http) {step : Nat} {input : TensorTag}
      (hactive : cluster.generations id = .active session step input)
      (hended : ∀ outcome, httpLabel ≠ .generated id outcome)
      (htokenizer : ∀ err, httpLabel ≠ .tokenizerFailed id err)
      (hclient : httpLabel ≠ .disconnect id) :
      ∃ request, http.requests id = some request ∧ request.phase = .generating session := by
    obtain ⟨request, hget, hphase⟩ := hinv.generating id session step input hactive
    exact ⟨request, HttpState.generating_kept hhttp hget hphase hended htokenizer hclient,
      hphase⟩
  -- The request of a generation that goes on is not the one whose generation has ended.
  have hreleased {other : Nat} {httpLabel : HttpLabel} {http : HttpState}
      {generations : Nat → GenerationPhase}
      (hgenerations : generations = Function.update cluster.generations other .ended)
      (hlabel : httpLabel = .disconnect other ∨ ∃ outcome, httpLabel = .generated other outcome)
      (hhttp : cluster.http.step httpLabel = some http)
      (hactive : generations id = .active session step input) :
      ∃ request, http.requests id = some request ∧ request.phase = .generating session := by
    rw [hgenerations] at hactive
    rcases update_cases hactive with ⟨_, heq⟩ | ⟨hne, hold⟩
    · cases heq
    · rcases hlabel with rfl | ⟨outcome, rfl⟩
      · refine hkept hhttp hold (by simp) (by simp) ?_
        rintro ⟨⟩
        exact hne rfl
      · refine hkept hhttp hold ?_ (by simp) (by simp)
        rintro _ ⟨⟩
        exact hne rfl
  cases step_move hstep with
  | request hhttp => exact hkept hhttp hactive (by simp) (by simp) (by simp)
  | unloadFailed hhttp | unloaded _ hhttp =>
      exact hkept hhttp hactive (by simp) (by simp) (by simp)
  | finished _ hhttp => exact hkept hhttp hactive (by simp) (by simp) (by simp)
  | tokenizerFailed hhttp =>
      refine hkept hhttp hactive (by simp) ?_ (by simp)
      rintro _ ⟨⟩
      cases (idle_of_tokenizerFailed hstep).symm.trans hactive
  | @acquired other request session' hget hphase _ _ =>
      rcases update_cases hactive with ⟨rfl, heq⟩ | ⟨_, hold⟩
      · obtain ⟨rfl, -, -⟩ := GenerationPhase.active.inj heq
        exact ⟨request, hget, hphase⟩
      · exact hinv.generating id session step input hold
  | @generated other _ _ _ _ _ _ _ _ hold _ _ =>
      rcases update_cases hactive with ⟨rfl, heq⟩ | ⟨_, hkept⟩
      · obtain ⟨rfl, -, -⟩ := GenerationPhase.active.inj heq
        exact hinv.generating id _ _ _ hold
      · exact hinv.generating id session step input hkept
  | generationFailed _ _ hhttp => exact hreleased rfl (.inr ⟨_, rfl⟩) hhttp hactive
  | released _ _ hlabel hhttp => exact hreleased rfl hlabel hhttp hactive
  | prepared _ _ | prepareFailed _ _ | slotCreated _ _ | dispatchFailed _ _
  | dispatched _ _ _ _ _ _ | waitStarted _ _ | woken _ _ | collected _ _ | shutDown _ _
  | concluded _ _ | jobFinished _ _ | reportDelivered _ | reportDropped _ =>
      exact hinv.generating id session step input hactive

theorem recordStep_some {id : Nat} {plan : DispatchPlan} {result : PipelineResult TensorTag}
    (hrecord : recordStep setup cluster label lastSteps id = some (plan, result)) :
    yieldedStep setup cluster label = some (id, plan, result) ∨
      lastSteps id = some (plan, result) := by
  unfold recordStep at hrecord
  cases hyield : yieldedStep setup cluster label with
  | none =>
      rw [hyield] at hrecord
      exact .inr hrecord
  | some yielded =>
      rw [hyield] at hrecord
      rcases update_cases hrecord with ⟨rfl, heq⟩ | ⟨_, hold⟩
      · cases heq
        exact .inl rfl
      · exact .inr hold

theorem CountInv.lists_step (hinv : CountInv (cluster, lastSteps))
    {id : Nat} {plan : DispatchPlan} {result : PipelineResult TensorTag}
    (hrecord : recordStep setup cluster label lastSteps id = some (plan, result)) :
    result.nodeLatenciesMs.length = plan.assignments.length ∧
      result.nodePeakMemoryMb.length = plan.assignments.length := by
  rcases recordStep_some hrecord with hyield | hold
  · obtain ⟨session, step, input, first, links, hactive, rfl, hfirst, hlength, hmemory⟩ :=
      yieldedStep_some hyield
    obtain ⟨request, hget, hphase⟩ := hinv.generating id session step input hactive
    have hlatencies := (hinv.wired id request session hget hphase).chainLength_eq hfirst hlength
    exact ⟨hlatencies, hmemory.trans hlatencies⟩
  · exact hinv.lists id plan result hold

theorem CountInv.session_step (hinv : CountInv (cluster, lastSteps))
    (hstep : setup.step cluster label = some next) {name : String} {entry : ModelState}
    {session : InferenceSession} (hget : next.http.modelStates.get? name = some entry)
    (hsession : entry.session = some session) : entry.plan = some session.plan := by
  rcases (step_move hstep).entry_cases hget with hold | hwrite
  · exact hinv.session name entry session hold hsession
  · cases hwrite with
    | refused | dispatched _ _ _ => cases hsession
    | @loaded loader thread outcome _ _ _ _ _ =>
        cases outcome with
        | error err => cases hsession
        | ok _ =>
            cases hsession
            rfl

theorem CountInv.planned_step (hinv : CountInv (cluster, lastSteps))
    (hreach : setup.system.Reachable cluster) (hstep : setup.step cluster label = some next)
    {name : String} {entry : ModelState} {plan : DispatchPlan}
    (hget : next.http.modelStates.get? name = some entry) (hplan : entry.plan = some plan) :
    ∃ manifest, manifest.name = name ∧ HttpState.Planned manifest plan := by
  rcases plan_cases hstep hget hplan with hold | hwrites
  · exact hinv.planned name entry plan hold hplan
  · cases hwrites with
    | @recorded id _ request plan hrequest hphase hname =>
        have hplans := HttpState.plansOk_of_reachable (http_reachable hreach)
        exact ⟨_, hname, hplans.recording id request plan hrequest hphase⟩
    | loaded hthread _ hname => exact ⟨_, hname, loader_planned hreach hthread⟩

/-- A request that generates did so before, or a poll has just found its session in the
table. -/
theorem generating_before (hstep : setup.step cluster label = some next) {id : Nat}
    {request : HttpRequest} {session : InferenceSession}
    (hget : next.http.requests id = some request) (hphase : request.phase = .generating session) :
    cluster.http.requests id = some request ∨
    ∃ expired entry, label = .request (.poll id expired) ∧
      cluster.http.modelStates.get? request.manifest.name = some entry ∧
      entry.status = .ready ∧ entry.session = some session := by
  rcases (step_move hstep).http with heq | ⟨httpLabel, hhttp, hlabel⟩
  · rw [heq] at hget
    exact .inl hget
  · cases HttpState.step_requestStep hhttp id with
    | stays hsame => exact .inl (hsame.symm.trans hget)
    | arrives _ hnew harrived =>
        obtain rfl := Option.some.inj (hnew.symm.trans hget)
        rcases harrived with harrived | harrived <;> cases harrived.symm.trans hphase
    | moves _ hnew hmove =>
        obtain rfl := Option.some.inj (hnew.symm.trans hget)
        obtain ⟨expired, entry, rfl, hentry, hready, hsession⟩ := hmove.generating hphase
        exact .inr ⟨expired, entry, hlabel _ rfl, hentry, hready, hsession⟩

/-- The plan of a session that a poll finds is wired: its model is ready, so the workers
hold the shards. -/
theorem CountInv.wired_step (hinv : CountInv (cluster, lastSteps)) (hheld : HeldInv cluster)
    (hok : CountsOfPlan (cluster, lastSteps) label)
    (hstep : setup.step cluster label = some next) {id : Nat} {request : HttpRequest}
    {session : InferenceSession} (hget : next.http.requests id = some request)
    (hphase : request.phase = .generating session) : Wired next.network session.plan := by
  rcases generating_before hstep hget hphase with
    hold | ⟨expired, entry, rfl, hentry, hready, hsession⟩
  · apply (hinv.wired id request session hold hphase).step (step_move hstep).table
    intro ticket built loaded assignment
    exact hok.rewired id request session ticket built loaded assignment hold hphase
  · obtain ⟨http, _, rfl⟩ := Option.map_eq_some_iff.mp hstep
    have hplan := hinv.session _ entry session hentry hsession
    obtain ⟨manifest, hname, hplanned⟩ := hinv.planned _ entry _ hentry hplan
    have hmodel : session.plan.modelName = request.manifest.name := hplanned.modelName.trans hname
    obtain ⟨registry, hdispatch⟩ := hplanned
    refine ⟨planDispatch_pipeline hdispatch, ?_⟩
    intro assignment hmem handle hfound
    rw [hmodel] at hfound
    obtain ⟨held, hholds, _, _, hnext⟩ :=
      hheld.ready _ entry session.plan hentry hready hplan assignment hmem
    obtain rfl := Option.some.inj (hfound.symm.trans hholds)
    exact hnext

/-- A request with a last step after a step of the cluster runs on its plan before. -/
theorem CountInv.runs_before (hinv : CountInv (cluster, lastSteps)) {id : Nat}
    {plan : DispatchPlan} {result : PipelineResult TensorTag}
    (hrecord : recordStep setup cluster label lastSteps id = some (plan, result)) :
    ∃ request, cluster.http.requests id = some request ∧ RunsOn plan request.phase := by
  rcases recordStep_some hrecord with hyield | hold
  · obtain ⟨session, step, input, _, _, hactive, rfl, _⟩ := yieldedStep_some hyield
    obtain ⟨request, hget, hphase⟩ := hinv.generating id session step input hactive
    refine ⟨request, hget, ?_⟩
    rw [hphase]
    exact .generating rfl
  · exact hinv.runs id plan result hold

theorem CountInv.runs_step (hinv : CountInv (cluster, lastSteps))
    (hstep : setup.step cluster label = some next) {id : Nat} {plan : DispatchPlan}
    {result : PipelineResult TensorTag}
    (hrecord : recordStep setup cluster label lastSteps id = some (plan, result)) :
    ∃ request, next.http.requests id = some request ∧ RunsOn plan request.phase := by
  obtain ⟨request, hget, hruns⟩ := hinv.runs_before hrecord
  rcases (step_move hstep).http with heq | ⟨httpLabel, hhttp, _⟩
  · rw [heq]
    exact ⟨request, hget, hruns⟩
  · cases HttpState.step_requestStep hhttp id with
    | stays hsame => exact ⟨request, hsame.trans hget, hruns⟩
    | arrives hfresh _ _ => cases hfresh.symm.trans hget
    | moves hfound hnext hmove =>
        obtain rfl := Option.some.inj (hfound.symm.trans hget)
        exact ⟨_, hnext, hruns.move hmove⟩

/-- A request that does not generate gets no further token. -/
theorem CountInv.last_kept (hinv : CountInv (cluster, lastSteps)) {id : Nat}
    {request : HttpRequest} {plan : DispatchPlan} {result : PipelineResult TensorTag}
    (hget : cluster.http.requests id = some request)
    (hphase : ∀ session, request.phase ≠ .generating session)
    (hrecord : recordStep setup cluster label lastSteps id = some (plan, result)) :
    lastSteps id = some (plan, result) := by
  rcases recordStep_some hrecord with hyield | hold
  · obtain ⟨session, step, input, _, _, hactive, _⟩ := yieldedStep_some hyield
    obtain ⟨running, hrunning, hgenerating⟩ := hinv.generating id session step input hactive
    obtain rfl := Option.some.inj (hrunning.symm.trans hget)
    exact absurd hgenerating (hphase session)
  · exact hold

/-- A plan that is in use after a step was in use before, or a poll has just found its
session in the table. -/
theorem CountInv.inUse_before (hinv : CountInv (cluster, lastSteps))
    (hstep : setup.step cluster label = some next) {id : Nat} {request : HttpRequest}
    {plan : DispatchPlan} (hget : next.http.requests id = some request)
    (huse : PlanInUse (recordStep setup cluster label lastSteps) id request plan) :
    (∃ before, cluster.http.requests id = some before ∧ before.manifest = request.manifest ∧
      PlanInUse lastSteps id before plan) ∨
    ∃ expired entry session, label = .request (.poll id expired) ∧
      cluster.http.modelStates.get? request.manifest.name = some entry ∧
      entry.session = some session ∧ plan = session.plan := by
  cases huse with
  | generating hphase =>
      rcases generating_before hstep hget hphase with
        hold | ⟨expired, entry, hlabel, hentry, _, hsession⟩
      · exact .inl ⟨request, hold, rfl, .generating hphase⟩
      · exact .inr ⟨expired, entry, _, hlabel, hentry, hsession, rfl⟩
  | summarizing hphase hlast =>
      obtain ⟨running, hrunning, hruns⟩ := hinv.runs_before hlast
      have hkept (hsame : cluster.http.requests id = some request) :
          PlanInUse lastSteps id request plan :=
        .summarizing hphase (hinv.last_kept hsame (by simp [hphase]) hlast)
      rcases (step_move hstep).http with heq | ⟨httpLabel, hhttp, _⟩
      · rw [heq] at hget
        exact .inl ⟨request, hget, rfl, hkept hget⟩
      · cases HttpState.step_requestStep hhttp id with
        | stays hsame =>
            have hbefore := hsame.symm.trans hget
            exact .inl ⟨request, hbefore, rfl, hkept hbefore⟩
        | arrives hfresh _ _ => cases hfresh.symm.trans hrunning
        | moves hbefore hnew hmove =>
            obtain rfl := Option.some.inj (hnew.symm.trans hget)
            obtain rfl := Option.some.inj (hrunning.symm.trans hbefore)
            obtain ⟨session, hgenerating⟩ := hmove.summarizing hphase
            rw [hgenerating] at hruns
            cases hruns with
            | generating hplan =>
                refine .inl ⟨running, hrunning, rfl, ?_⟩
                rw [hplan]
                exact .generating hgenerating

theorem CountInv.table_step (hinv : CountInv (cluster, lastSteps))
    (hok : CountsOfPlan (cluster, lastSteps) label)
    (hstep : setup.step cluster label = some next) {id : Nat} {request : HttpRequest}
    {plan found : DispatchPlan} {entry : ModelState}
    (hget : next.http.requests id = some request)
    (huse : PlanInUse (recordStep setup cluster label lastSteps) id request plan)
    (hentry : next.http.modelStates.get? request.manifest.name = some entry)
    (hfound : entry.plan = some found) :
    found.assignments.length = plan.assignments.length := by
  rcases hinv.inUse_before hstep hget huse with
    ⟨before, hbefore, hmanifest, hused⟩ | ⟨expired, polled, session, rfl, hpolled, hsession, rfl⟩
  · rw [← hmanifest] at hentry
    rcases plan_cases hstep hentry hfound with hold | hwrites
    · exact hinv.table id before plan entry found hbefore hused hold hfound
    · exact hok.table id before plan found hbefore hused hwrites
  · rcases plan_cases hstep hentry hfound with hold | hwrites
    · obtain rfl := Option.some.inj (hpolled.symm.trans hold)
      have hplan := hinv.session _ polled session hpolled hsession
      obtain rfl := Option.some.inj (hplan.symm.trans hfound)
      rfl
    · cases hwrites

/-- A result is there before the step, or it is the one of the summary. -/
theorem result_cases (hstep : setup.step cluster label = some next) {id numNodes : Nat}
    {request : HttpRequest} (hget : next.http.requests id = some request)
    (hphase : request.phase = .responded (.result numNodes)) :
    cluster.http.requests id = some request ∨
      ∃ before decoded entry found, label = .request (.summarize id decoded) ∧
        cluster.http.requests id = some before ∧ before.phase = .summarizing ∧
        cluster.http.modelStates.get? before.manifest.name = some entry ∧
        entry.plan = some found ∧ numNodes = found.assignments.length := by
  rcases (step_move hstep).http with heq | ⟨httpLabel, hhttp, hlabel⟩
  · rw [heq] at hget
    exact .inl hget
  · cases HttpState.step_requestStep hhttp id with
    | stays hsame => exact .inl (hsame.symm.trans hget)
    | arrives _ hnew harrived =>
        obtain rfl := Option.some.inj (hnew.symm.trans hget)
        rcases harrived with harrived | harrived <;> cases harrived.symm.trans hphase
    | @moves before phase hbefore hnew hmove =>
        obtain rfl := Option.some.inj (hnew.symm.trans hget)
        obtain ⟨decoded, entry, found, rfl, hsummarizing, hentry, hplan, hnumber⟩ :=
          hmove.result hphase
        exact .inr ⟨before, decoded, entry, found, hlabel _ rfl, hbefore, hsummarizing, hentry,
          hplan, hnumber⟩

theorem CountInv.counted_step (hinv : CountInv (cluster, lastSteps))
    (hstep : setup.step cluster label = some next) {id numNodes : Nat} {request : HttpRequest}
    {plan : DispatchPlan} {result : PipelineResult TensorTag}
    (hget : next.http.requests id = some request)
    (hphase : request.phase = .responded (.result numNodes))
    (hrecord : recordStep setup cluster label lastSteps id = some (plan, result)) :
    numNodes = plan.assignments.length := by
  rcases result_cases hstep hget hphase with
    hbefore | ⟨before, decoded, entry, found, rfl, hbefore, hsummarizing, hentry, hplan, rfl⟩
  · have hlast := hinv.last_kept hbefore (by simp [hphase]) hrecord
    exact hinv.counted id request numNodes plan result hbefore hphase hlast
  · have hlast := hinv.last_kept hbefore (by simp [hsummarizing]) hrecord
    exact hinv.table id before plan entry found hbefore (.summarizing hsummarizing hlast) hentry
      hplan

theorem countInv_of_reachable {state : Cluster × LastSteps}
    (hreach : (countedSystem setup).ReachableVia CountsOfPlan state) : CountInv state := by
  apply hreach.invariant
  · rintro ⟨cluster, lastSteps⟩ ⟨rfl, rfl⟩
    constructor
    · rintro id session step input ⟨⟩
    · rintro name entry session hget
      cases hget
    · rintro name entry plan hget
      cases hget
    · rintro id request session ⟨⟩
    · rintro id plan result ⟨⟩
    · rintro id plan result ⟨⟩
    · rintro id request plan entry found ⟨⟩
    · rintro id request numNodes plan result ⟨⟩
  · rintro ⟨cluster, lastSteps⟩ label ⟨next, _⟩ hbefore hinv hok hcounted
    obtain ⟨hstep, rfl⟩ := TransitionSystem.withHistory_some hcounted
    have hundisputed : setup.system.ReachableVia ShardsUndisputed cluster :=
      hbefore.forget fun _ _ hok => hok.undisputed
    constructor
    · intro id session step input hactive
      exact hinv.generating_step hstep hactive
    · intro name entry session hget hsession
      exact hinv.session_step hstep hget hsession
    · intro name entry plan hget hplan
      exact hinv.planned_step hundisputed.reachable hstep hget hplan
    · intro id request session hget hphase
      exact hinv.wired_step (heldInv_of_reachable hundisputed) hok hstep hget hphase
    · intro id plan result hrecord
      exact hinv.lists_step hrecord
    · intro id plan result hrecord
      exact hinv.runs_step hstep hrecord
    · intro id request plan entry found hget huse hentry hfound
      exact hinv.table_step hok hstep hget huse hentry hfound
    · intro id request numNodes plan result hget hphase hrecord
      exact hinv.counted_step hstep hget hphase hrecord

/-- In the runs in which the workers and the table keep to the plans in use, every result
counts the nodes of the plan that generated its tokens. -/
theorem node_counts (setup : ClusterSetup) (state : Cluster × LastSteps)
    (hreach : (countedSystem setup).ReachableVia CountsOfPlan state) :
    NodeCountsAgree state := by
  have hinv := countInv_of_reachable hreach
  intro id request numNodes plan result hget hphase hlast
  have hcount := hinv.counted id request numNodes plan result hget hphase hlast
  obtain ⟨hlatencies, hmemory⟩ := hinv.lists id plan result hlast
  exact ⟨hcount, hcount.trans hlatencies.symm, hcount.trans hmemory.symm⟩

/-- Enough for a step to keep to the plans in use: only request 1 comes to a session, and
no load ends and no plan is written when it is there. -/
def countsNow (state : Cluster × LastSteps) (label : ClusterLabel) : Bool :=
  undisputedNow state.1 label &&
    match label with
    | .request (.poll id _) => id = 1
    | .request (.record _ _) | .finishLoad _ | .finishJob _ _ =>
        (state.1.http.requests 1).isNone
    | _ => true

/-- The request whose plan is in use is the one that has polled. -/
theorem inUse_of_countsNow {state : Cluster × LastSteps}
    (hreach : (countedSystem setup).ReachableVia
      (fun state label => countsNow state label = true) state) {id : Nat}
    {request : HttpRequest} (hget : state.1.http.requests id = some request)
    (hphase : (∃ session, request.phase = .generating session) ∨
      request.phase = .summarizing) : id = 1 := by
  have hfirst : ∀ id request, state.1.http.requests id = some request →
      ((∃ session, request.phase = .generating session) ∨ request.phase = .summarizing) →
      id = 1 := by
    apply hreach.invariant
    · rintro ⟨cluster, lastSteps⟩ ⟨rfl, rfl⟩ id request hget
      cases hget
    · rintro ⟨cluster, lastSteps⟩ label ⟨next, _⟩ _ hinv hnow hcounted id request hget hphase
      obtain ⟨hstep, rfl⟩ := TransitionSystem.withHistory_some hcounted
      rcases (step_move hstep).http with heq | ⟨httpLabel, hhttp, hlabel⟩
      · rw [heq] at hget
        exact hinv id request hget hphase
      · cases HttpState.step_requestStep hhttp id with
        | stays hsame => exact hinv id request (hsame.symm.trans hget) hphase
        | arrives _ hnew harrived =>
            obtain rfl := Option.some.inj (hnew.symm.trans hget)
            rcases harrived with harrived | harrived <;> simp [harrived] at hphase
        | moves hbefore hnew hmove =>
            obtain rfl := Option.some.inj (hnew.symm.trans hget)
            rcases hphase with ⟨session, hphase⟩ | hphase
            · obtain ⟨expired, _, rfl, _⟩ := hmove.generating hphase
              obtain rfl := hlabel _ rfl
              exact of_decide_eq_true (Bool.and_eq_true_iff.mp hnow).2
            · exact hinv id _ hbefore (.inl (hmove.summarizing hphase))
  exact hfirst id request hget hphase

theorem countsOfPlan_of_now {state : Cluster × LastSteps}
    (hreach : (countedSystem setup).ReachableVia
      (fun state label => countsNow state label = true) state)
    (hnow : countsNow state label = true) : CountsOfPlan state label := by
  obtain ⟨hundisputed, hquiet⟩ := Bool.and_eq_true_iff.mp hnow
  refine ⟨shardsUndisputed_of_now hundisputed, ?_, ?_⟩
  · rintro id request session ticket built loaded assignment hget hphase rfl _ _ _
    obtain rfl := inUse_of_countsNow hreach hget (.inl ⟨session, hphase⟩)
    rw [hget] at hquiet
    cases hquiet
  · intro id request used plan hget huse hwrites
    have hid : id = 1 := by
      apply inUse_of_countsNow hreach hget
      cases huse with
      | generating hphase => exact .inl ⟨_, hphase⟩
      | summarizing hphase _ => exact .inr hphase
    subst hid
    cases hwrites with
    | recorded _ _ _ | loaded _ _ _ =>
        dsimp only at hquiet
        rw [hget] at hquiet
        cases hquiet

/-- A request for one token, of a model on two workers. -/
def twoNodeCounted : List ClusterLabel :=
  twoNodeReady ++
    [.request (.post 1 (.infer false 1) "m"), .request (.check 1), .request (.poll 1 false),
      .acquire 1, .generate 1 2 quietEnv, .generate 1 2 quietEnv,
      .request (.summarize 1 (.ok ()))]

def hasCounted (state : Cluster × LastSteps) : Bool :=
  (state.1.http.requests 1).any (fun request => request.phase = .responded (.result 2)) &&
    (state.2 1).isSome

theorem node_counts_two : ∃ state, hasCounted state = true ∧ NodeCountsAgree state := by
  have hinit : (countedSystem twoNodeCluster).init (twoNodeCluster.initial, fun _ => none) :=
    ⟨rfl, rfl⟩
  have hrun : ∃ state, (countedSystem twoNodeCluster).ReachableVia
      (fun state label => countsNow state label = true) state ∧ hasCounted state = true := by
    apply TransitionSystem.reachable_of_execGuarded twoNodeCounted (.init hinit)
      fun _ _ hnow => hnow
    decide +kernel
  obtain ⟨state, hreach, htest⟩ := hrun
  have hcounts : (countedSystem twoNodeCluster).ReachableVia CountsOfPlan state :=
    hreach.weaken fun _ _ hbefore hnow => countsOfPlan_of_now hbefore hnow
  exact ⟨state, htest, node_counts twoNodeCluster state hcounts⟩

/-- A second node joins while a generation has its token and has not ended, and a
redistribution records a plan of both nodes. -/
def recountedRun : List ClusterLabel :=
  .request (.register fiveLayerManifest) :: requestLoad 0 0 .load ++
    [.prepare 0 (.ok ()), .createSlot 0, .dispatch 0 (.handled [] "" none),
      .finishJob ⟨0, 0⟩ (.ok (⟨⟩, 100)), .report ⟨0, 0⟩ true, .startWait 0 0, .wake 0 0,
      .collect 0 0, .conclude 0 (.ok ()), .finishLoad 0,
      .request (.post 1 (.infer false 1) "m"), .request (.check 1), .request (.poll 1 false),
      .acquire 1, .generate 1 1 quietEnv,
      .request (.heartbeat 0 ⟨"b", "10.0.0.2", 4096, 8192, 4, "", "", "", 50051⟩),
      .request (.post 2 .redistribute "m"), .request (.redistribute 2), .unload 2 true,
      .request (.check 2), .request (.plan 2), .request (.record 2 1),
      .generate 1 1 quietEnv, .request (.summarize 1 (.ok ()))]

/-- Two nodes are counted for a token that one node has generated. -/
def miscounted (state : Cluster × LastSteps) : Bool :=
  (state.1.http.requests 1).any (fun request => request.phase = .responded (.result 2)) &&
    (state.2 1).any fun last => last.2.nodeLatenciesMs.length = 1

theorem node_counts_counterexample :
    ¬ ∀ state, (countedSystem oneNodeCluster).Reachable state → NodeCountsAgree state := by
  intro hclaim
  have hinit : (countedSystem oneNodeCluster).init (oneNodeCluster.initial, fun _ => none) :=
    ⟨rfl, rfl⟩
  have hrun : ∃ state, (countedSystem oneNodeCluster).Reachable state ∧
      miscounted state = true := by
    apply TransitionSystem.reachable_of_exec recountedRun hinit (fun _ _ _ => trivial)
    decide +kernel
  obtain ⟨state, hreach, htest⟩ := hrun
  obtain ⟨hresponded, hlast⟩ := Bool.and_eq_true_iff.mp htest
  obtain ⟨request, hget, hphase⟩ := (Option.any_eq_true _ _).mp hresponded
  obtain ⟨⟨plan, result⟩, hlast, hlength⟩ := (Option.any_eq_true _ _).mp hlast
  obtain ⟨_, hlatencies, _⟩ :=
    hclaim state hreach 1 request 2 plan result hget (of_decide_eq_true hphase) hlast
  rw [of_decide_eq_true hlength] at hlatencies
  cases hlatencies

end PiSSM.Pipeline
