import PiSSM.Pipeline.ForwardingChains
import PiSSM.Pipeline.SerializedGeneration
import PiSSM.Pipeline.WorkerTables

/-!
Whose cache a step of a generation runs on. The lock of a runner keeps its own
generations apart, but a redistribution or a reload gives the model a new runner
while a generation of the old one is suspended between two steps: the reload puts a
shard without a cache in the place of one that the generation has advanced, and a
generation of the new runner resets the caches of the workers they share.
-/

namespace PiSSM.Pipeline

open PiSSM.Lib PiSSM.Inference PiSSM.Orchestrator

/-- The inputs of the steps of a call before this one. -/
def earlierInputs (id step : Nat) : List TensorTag :=
  (List.range step).map fun earlier => ⟨id, earlier⟩

/-- The step makes the worker execute a `RunShard` with `reset_cache=False`, for this
step of a call of `generate_stream` and on this handle. -/
def CarriesOn (setup : ClusterSetup) (cluster : Cluster) (label : ClusterLabel) (id step : Nat)
    (worker : String) (handle : ModelHandle TracedShard (List TensorTag)) : Prop :=
  ∃ fuel env request session input first, label = .generate id fuel env ∧
    cluster.http.requests id = some request ∧
    cluster.generations id = .active session step input ∧ 0 < step ∧
    step < (Cluster.RequestKind.maxNewTokens request.kind).toNat ∧
    session.plan.assignments.head? = some first ∧
    Executes cluster.network env.hops first.address
      ((Cluster.runner setup session).runRequest env.requestId input (step = 0)) worker handle

/-- Every `RunShard` that carries a generation on is executed on the cache that the
first step of the call created and that its earlier inputs have advanced. -/
def OwnCaches (setup : ClusterSetup) (cluster : Cluster) : Prop :=
  ∀ label next id step worker handle, setup.step cluster label = some next →
    CarriesOn setup cluster label id step worker handle →
    handle.cache = some (earlierInputs id step)

/-- The runner of this loader thread has a generation past its first step whose chain
passes the worker. -/
def InGeneration (cluster : Cluster) (loader : Nat) (modelName worker : String) : Prop :=
  ∃ id session step input first, cluster.generations id = .active session step input ∧
    0 < step ∧ session.loader = loader ∧ session.plan.modelName = modelName ∧
    session.plan.assignments.head? = some first ∧
    Passes cluster.network modelName first.address worker

/-- No worker completes a load of a model that is in the middle of a generation there,
and no generation takes its first step over a worker that a generation of another
runner is in the middle of. -/
structure CachesApart (cluster : Cluster) (label : ClusterLabel) : Prop where
  load : ∀ ticket shard address request, label = .finishJob ticket (.ok shard) →
    cluster.jobs ticket = .loading address request →
    ∀ loader, ¬ InGeneration cluster loader request.modelName address
  start : ∀ id fuel env session input first worker handle, label = .generate id fuel env →
    cluster.generations id = .active session 0 input →
    session.plan.assignments.head? = some first →
    Passes cluster.network session.plan.modelName first.address worker →
    (cluster.network worker).models.get? session.plan.modelName = some handle →
    ∀ loader, loader ≠ session.loader →
      ¬ InGeneration cluster loader session.plan.modelName worker

open ClusterSetup

variable {setup : ClusterSetup} {cluster next : Cluster} {label : ClusterLabel}

theorem earlierInputs_succ (id step : Nat) :
    earlierInputs id (step + 1) = earlierInputs id step ++ [⟨id, step⟩] := by
  simp [earlierInputs, List.range_succ]

/-- Two calls that have taken steps have advanced their caches differently. -/
theorem earlierInputs_ne {id other step step' : Nat} (hne : other ≠ id) (hstep : 0 < step) :
    earlierInputs id step ≠ earlierInputs other step' := by
  intro heq
  have hmem : (⟨id, 0⟩ : TensorTag) ∈ earlierInputs id step :=
    List.mem_map.mpr ⟨0, List.mem_range.mpr hstep, rfl⟩
  rw [heq] at hmem
  obtain ⟨_, _, htag⟩ := List.mem_map.mp hmem
  cases htag
  exact hne rfl

section Step

variable {μ τ κ : Type*} [ShardModel μ τ κ] {runner : PipelineRunner} {fuel : Nat}
  {env : StepEnv κ} {input : τ} {resetCache : Bool} {backend after : Backend μ τ κ}
  {result : Except PyException (Option (PipelineResult τ))}

/-- The last result that is delivered to a slot that was empty. -/
theorem delivered_of_foldl {delivered : List (DeliverResultRequest τ)} {found : PipelineResult τ}
    (hfold : delivered.foldl (fun _ d => some (deliveredResult d)) none = some found) :
    ∃ d ∈ delivered, found = deliveredResult d := by
  rcases List.eq_nil_or_concat delivered with rfl | ⟨before, last, rfl⟩
  · cases hfold
  · rw [List.concat_eq_append, List.foldl_append] at hfold
    refine ⟨last, by simp, ?_⟩
    exact (Option.some.inj hfold).symm

/-- A step of a runner: without a worker it raises, and else it calls the first one;
what it returns has been delivered by that call. -/
theorem runShardStep_cases
    (hstep : runner.runShardStep fuel env input resetCache backend = some (after, result)) :
    (after.network = backend.network ∧ ∃ err, result = .error err) ∨
      ∃ first outcome, runner.plan.assignments.head? = some first ∧
        runShard fuel backend.network env.hops first.address
          (runner.runRequest env.requestId input resetCache) = some outcome ∧
        after.network = outcome.network ∧
        ∀ found, result = .ok (some found) →
          ∃ d ∈ outcome.delivered, found = deliveredResult d := by
  unfold PipelineRunner.runShardStep PipelineRunner.finishShardStep at hstep
  split at hstep
  · cases hstep
    exact .inl ⟨rfl, _, rfl⟩
  · next first hfirst =>
      right
      obtain ⟨outcome, hrun, hresult⟩ := Option.map_eq_some_iff.mp hstep
      refine ⟨first, outcome, hfirst, hrun, ?_⟩
      dsimp only at hresult
      split at hresult
      · cases hresult
        exact ⟨rfl, fun found heq => by cases heq⟩
      · cases hresult
        refine ⟨rfl, ?_⟩
        intro found hfound
        have hids (d : DeliverResultRequest τ) (hmem : d ∈ outcome.delivered) :
            d.requestId = env.requestId :=
          runShard_delivered_id (runner.runRequest_pipelineMode _ _ _) hrun hmem
        have hslot := slotHolds_deliverResult
          (backend.resultStore.createSlot_slotHolds env.requestId) hids
        have hwait := hslot.wait
        unfold PipelineRunner.reserveSlot at hfound
        dsimp only at hfound
        rw [hwait] at hfound
        apply delivered_of_foldl
        cases hfold : outcome.delivered.foldl (fun _ d => some (deliveredResult d)) none with
        | none =>
            rw [hfold] at hfound
            cases hfound
        | some result =>
            rw [hfold] at hfound
            cases hfound
            rfl

end Step

/-- Every active generation has the lock of its runner and is about to feed its own
next input; from its first step on, its chain is there to be resumed as far as it has
not been unloaded. -/
structure OwnInv (cluster : Cluster) : Prop where
  locked : ∀ id session step input, cluster.generations id = .active session step input →
    cluster.locks session.loader = some id
  input : ∀ id session step input, cluster.generations id = .active session step input →
    input = ⟨id, step⟩
  resumes : ∀ id session step input first,
    cluster.generations id = .active session step input → 0 < step →
    session.plan.assignments.head? = some first →
    Resumes cluster.network session.plan.modelName (earlierInputs id step) first.address

variable {id fuel step : Nat} {env : StepEnv (List TensorTag)} {session : InferenceSession}
  {input : TensorTag} {backend : Backend TracedShard TensorTag (List TensorTag)}
  {result : Except PyException (Option (PipelineResult TensorTag))}

/-- A step of a generation leaves the chains of the others alone. -/
theorem OwnInv.others (hinv : OwnInv cluster) (hok : CachesApart cluster (.generate id fuel env))
    (hactive : cluster.generations id = .active session step input)
    (hstep : (Cluster.runner setup session).runShardStep fuel env input (step = 0)
      ⟨cluster.network, cluster.resultStore⟩ = some (backend, result))
    {other step' : Nat} {session' : InferenceSession} {input' : TensorTag}
    {first' : ShardAssignment} (hne : other ≠ id)
    (hother : cluster.generations other = .active session' step' input') (hpos : 0 < step')
    (hfirst' : session'.plan.assignments.head? = some first') :
    Resumes backend.network session'.plan.modelName (earlierInputs other step')
      first'.address := by
  have hresumes := hinv.resumes other session' step' input' first' hother hpos hfirst'
  apply hresumes.frame
  intro worker handle hpasses hget
  rcases runShardStep_cases hstep with ⟨hsame, _⟩ | ⟨first, outcome, hfirst, hrun, hnetwork, _⟩
  · rwa [hsame] at hget
  · rw [hnetwork] at hget
    have hmode := (Cluster.runner setup session).runRequest_pipelineMode env.requestId input
      (step = 0)
    rwa [runShard_unpassed hmode hrun] at hget
    -- the two chains have no worker in common that holds the model
    intro hname hpassed
    have hsame := (runShard_sameWorkers hmode hrun).shape session'.plan.modelName
    obtain ⟨before, hbefore, _⟩ := hsame.symm.handle hget
    have hmodel : session'.plan.modelName = session.plan.modelName := hname
    rw [hmodel] at hbefore hpasses
    cases step with
    | zero =>
        have hloader : session'.loader ≠ session.loader := by
          intro heq
          have hlock := hinv.locked other session' step' input' hother
          rw [heq, hinv.locked id session 0 input hactive] at hlock
          exact hne (Option.some.inj hlock).symm
        exact hok.start id fuel env session input first worker before rfl hactive hfirst hpassed
          hbefore session'.loader hloader
          ⟨other, session', step', input', first', hother, hpos, rfl, hmodel, hfirst', hpasses⟩
    | succ step =>
        have hown := hinv.resumes id session (step + 1) input first hactive (Nat.succ_pos step)
          hfirst
        have hcache := hown.cached worker before hpassed hbefore
        rw [← hmodel] at hpasses hbefore
        rw [hresumes.cached worker before hpasses hbefore] at hcache
        exact earlierInputs_ne hne (Nat.succ_pos step) (Option.some.inj hcache).symm

/-- A step of a generation that yields a token has advanced its chain by its input,
and the token is the input of the next step. -/
theorem OwnInv.yields (hinv : OwnInv cluster)
    (hactive : cluster.generations id = .active session step input)
    (hstep : (Cluster.runner setup session).runShardStep fuel env input (step = 0)
      ⟨cluster.network, cluster.resultStore⟩ = some (backend, result))
    {yielded : GenerationStep TensorTag}
    (hyield : PipelineRunner.generationStep tracedOps result = .ok yielded) :
    yielded.tokenId = ⟨id, step + 1⟩ ∧ ∀ first, session.plan.assignments.head? = some first →
      Resumes backend.network session.plan.modelName (earlierInputs id (step + 1))
        first.address := by
  obtain rfl := hinv.input id session step input hactive
  obtain ⟨rfl, hargmax⟩ := PipelineRunner.generationStep_ok hyield
  have htoken := (Except.ok.inj hargmax).symm
  rcases runShardStep_cases hstep with ⟨_, err, heq⟩ |
    ⟨first, outcome, hfirst, hrun, hnetwork, hresult⟩
  · cases heq
  · obtain ⟨d, hmem, hfound⟩ := hresult yielded.stepResult rfl
    have hstart : StartsWith cluster.network ((Cluster.runner setup session).runRequest
        env.requestId ⟨id, step⟩ (step = 0)) (earlierInputs id step) first.address := by
      cases step with
      | zero => exact .inl ⟨rfl, rfl⟩
      | succ step =>
          exact .inr ⟨rfl, hinv.resumes id session _ _ first hactive (Nat.succ_pos step) hfirst⟩
    obtain ⟨hresumes, houtput⟩ := runShard_resumes
      ((Cluster.runner setup session).runRequest_pipelineMode _ _ _) hrun
      (List.ne_nil_of_mem hmem) hstart
    constructor
    · rw [htoken, hfound]
      have htensor : (deliveredResult d).outputTensor = ⟨id, step⟩ := houtput d hmem
      rw [htensor]
    · intro found hfound
      obtain rfl : first = found := Option.some.inj (hfirst.symm.trans hfound)
      rw [hnetwork, earlierInputs_succ]
      exact hresumes

theorem OwnInv.locked_step (hinv : OwnInv cluster) (hmove : Move setup cluster label next)
    (hactive : next.generations id = .active session step input) :
    next.locks session.loader = some id := by
  cases hmove with
  | request _ | unloadFailed _ | unloaded _ _ | finished _ _ | tokenizerFailed _
  | prepared _ _ | prepareFailed _ _ | slotCreated _ _ | dispatchFailed _ _
  | dispatched _ _ _ _ _ _ | waitStarted _ _ | woken _ _ | collected _ _ | shutDown _ _
  | concluded _ _ | jobFinished _ _ | reportDelivered _ | reportDropped _ =>
      exact hinv.locked id session step input hactive
  | @acquired entering _ session' _ _ _ hlock =>
      rcases update_cases hactive with ⟨rfl, heq⟩ | ⟨_, hold⟩
      · cases heq
        exact Function.update_self _ _ _
      · have hheld := hinv.locked id session step input hold
        have hne : session.loader ≠ session'.loader := by
          intro heq
          rw [heq, hlock] at hheld
          cases hheld
        exact (Function.update_of_ne hne _ _).trans hheld
  | generated hbefore _ _ =>
      rcases update_cases hactive with ⟨rfl, heq⟩ | ⟨_, hold⟩
      · cases heq
        exact hinv.locked id _ _ _ hbefore
      · exact hinv.locked id session step input hold
  | @generationFailed leaving _ _ _ session' _ _ _ _ _ hbefore _ _
  | @released _ _ leaving _ session' _ _ _ hbefore _ _ =>
      rcases update_cases hactive with ⟨_, heq⟩ | ⟨hne, hold⟩
      · cases heq
      · have hheld := hinv.locked id session step input hold
        have hloader : session.loader ≠ session'.loader := by
          intro heq
          rw [heq, hinv.locked leaving _ _ _ hbefore] at hheld
          exact hne (Option.some.inj hheld).symm
        exact (Function.update_of_ne hloader _ _).trans hheld

theorem OwnInv.input_step (hinv : OwnInv cluster) (hmove : Move setup cluster label next)
    (hactive : next.generations id = .active session step input) : input = ⟨id, step⟩ := by
  cases hmove with
  | request _ | unloadFailed _ | unloaded _ _ | finished _ _ | tokenizerFailed _
  | prepared _ _ | prepareFailed _ _ | slotCreated _ _ | dispatchFailed _ _
  | dispatched _ _ _ _ _ _ | waitStarted _ _ | woken _ _ | collected _ _ | shutDown _ _
  | concluded _ _ | jobFinished _ _ | reportDelivered _ | reportDropped _ =>
      exact hinv.input id session step input hactive
  | acquired _ _ _ _ =>
      rcases update_cases hactive with ⟨rfl, heq⟩ | ⟨_, hold⟩
      · cases heq
        rfl
      · exact hinv.input id session step input hold
  | generated hbefore hstep hyield =>
      rcases update_cases hactive with ⟨rfl, heq⟩ | ⟨_, hold⟩
      · cases heq
        exact (hinv.yields hbefore hstep hyield).1
      · exact hinv.input id session step input hold
  | generationFailed _ _ _ | released _ _ _ _ =>
      rcases update_cases hactive with ⟨_, heq⟩ | ⟨_, hold⟩
      · cases heq
      · exact hinv.input id session step input hold

/-- What a worker has of a model after one of the workers has been replaced. -/
theorem get?_of_update {network : Network TracedShard (List TensorTag)}
    {address worker name : String} {servicer : InferenceServicer TracedShard (List TensorTag)}
    {handle : ModelHandle TracedShard (List TensorTag)}
    (hget : (Function.update network address servicer worker).models.get? name = some handle)
    (hown : worker = address → servicer.models.get? name = some handle →
      (network worker).models.get? name = some handle) :
    (network worker).models.get? name = some handle := by
  by_cases hworker : worker = address
  · subst hworker
    rw [Function.update_self] at hget
    exact hown rfl hget
  · rwa [Function.update_of_ne hworker] at hget

theorem OwnInv.resumes_step (hinv : OwnInv cluster) (hok : CachesApart cluster label)
    (hmove : Move setup cluster label next) {first : ShardAssignment}
    (hactive : next.generations id = .active session step input) (hpos : 0 < step)
    (hfirst : session.plan.assignments.head? = some first) :
    Resumes next.network session.plan.modelName (earlierInputs id step) first.address := by
  cases hmove with
  | request _ | unloadFailed _ | finished _ _ | tokenizerFailed _ | prepared _ _
  | prepareFailed _ _ | slotCreated _ _ | dispatchFailed _ _ | waitStarted _ _ | woken _ _
  | collected _ _ | shutDown _ _ | concluded _ _ | reportDelivered _ | reportDropped _ =>
      exact hinv.resumes id session step input first hactive hpos hfirst
  | unloaded _ _ =>
      apply (hinv.resumes id session step input first hactive hpos hfirst).frame
      intro worker handle _ hget
      apply get?_of_update hget
      rintro rfl hfound
      rw [InferenceServicer.unloadShard_get?] at hfound
      split at hfound
      · cases hfound
      · exact hfound
  | dispatched _ _ _ hload _ _ =>
      apply (hinv.resumes id session step input first hactive hpos hfirst).frame
      intro worker handle _ hget
      apply get?_of_update hget
      rintro rfl hfound
      rwa [(InferenceServicer.loadShard_answer hload).models] at hfound
  | @jobFinished ticket built address request servicer report hjob hfinish =>
      apply (hinv.resumes id session step input first hactive hpos hfirst).frame
      intro worker handle hpasses hget
      apply get?_of_update hget
      rintro rfl hfound
      cases built with
      | error message =>
          obtain ⟨rfl, _⟩ := Prod.mk.inj hfinish
          exact hfound
      | ok shard =>
          have hapart := hok.load ticket shard worker request rfl hjob session.loader
          have hmodel : session.plan.modelName ≠ request.modelName := by
            intro heq
            rw [heq] at hpasses
            exact hapart ⟨id, session, step, input, first, hactive, hpos, rfl, heq, hfirst, hpasses⟩
          rcases InferenceServicer.finishLoad_models hfinish with ⟨_, _, _, hmodels⟩ | ⟨_, hmodels⟩
          · rwa [hmodels, Dict.get?_set_of_ne _ _ hmodel] at hfound
          · rwa [hmodels] at hfound
  | acquired _ _ _ _ =>
      rcases update_cases hactive with ⟨_, heq⟩ | ⟨_, hold⟩
      · cases heq
        exact absurd hpos (Nat.lt_irrefl 0)
      · exact hinv.resumes id session step input first hold hpos hfirst
  | generated hbefore hstep hyield =>
      rcases update_cases hactive with ⟨rfl, heq⟩ | ⟨hne, hold⟩
      · cases heq
        exact (hinv.yields hbefore hstep hyield).2 first hfirst
      · exact hinv.others hok hbefore hstep hne hold hpos hfirst
  | generationFailed hbefore hstep _ =>
      rcases update_cases hactive with ⟨_, heq⟩ | ⟨hne, hold⟩
      · cases heq
      · exact hinv.others hok hbefore hstep hne hold hpos hfirst
  | released _ _ _ _ =>
      rcases update_cases hactive with ⟨_, heq⟩ | ⟨_, hold⟩
      · cases heq
      · exact hinv.resumes id session step input first hold hpos hfirst

theorem ownInv_of_reachable (hreach : setup.system.ReachableVia CachesApart cluster) :
    OwnInv cluster := by
  apply hreach.invariant
  · rintro _ rfl
    constructor
    · intro id session step input hactive
      cases hactive
    · intro id session step input hactive
      cases hactive
    · intro id session step input first hactive
      cases hactive
  · intro s label t _ hinv hok hstep
    have hmove := step_move hstep
    constructor
    · intro id session step input hactive
      exact hinv.locked_step hmove hactive
    · intro id session step input hactive
      exact hinv.input_step hmove hactive
    · intro id session step input first hactive hpos hfirst
      exact hinv.resumes_step hok hmove hactive hpos hfirst

/-- In every run in which the caches are kept apart, every `RunShard` that carries a
generation on is executed on the generation's own cache. -/
theorem generations_own_caches (setup : ClusterSetup) {cluster : Cluster}
    (hreach : setup.system.ReachableVia CachesApart cluster) : OwnCaches setup cluster := by
  rintro label next id step worker handle _
    ⟨fuel, env, request, session, input, first, _, _, hactive, hpos, _, hfirst, hexecutes⟩
  have hresumes := (ownInv_of_reachable hreach).resumes id session step input first hactive hpos
    hfirst
  exact hresumes.executes hexecutes (PipelineRunner.runRequest_pipelineMode _ _ _ _)

/-- The only call of `generate_stream` is this one, and no load is completed while it
is active. -/
structure SingleGeneration (id : Nat) (cluster : Cluster) (label : ClusterLabel) : Prop where
  acquire : ∀ other, label = .acquire other → other = id
  load : ∀ ticket shard, label = .finishJob ticket (.ok shard) → cluster.generations id = .idle

theorem active_of_single (hreach : setup.system.ReachableVia (SingleGeneration id) cluster) :
    ∀ other session step input, cluster.generations other = .active session step input →
      other = id := by
  apply hreach.invariant
  · rintro _ rfl other session step input hactive
    cases hactive
  · intro s label t _ hsingle hok hstep other session step input hactive
    cases step_move hstep with
    | request _ | unloadFailed _ | unloaded _ _ | finished _ _ | tokenizerFailed _
    | prepared _ _ | prepareFailed _ _ | slotCreated _ _ | dispatchFailed _ _
    | dispatched _ _ _ _ _ _ | waitStarted _ _ | woken _ _ | collected _ _ | shutDown _ _
    | concluded _ _ | jobFinished _ _ | reportDelivered _ | reportDropped _ =>
        exact hsingle other session step input hactive
    | acquired _ _ _ _ =>
        rcases update_cases hactive with ⟨rfl, _⟩ | ⟨_, hold⟩
        · exact hok.acquire other rfl
        · exact hsingle other session step input hold
    | generated hbefore _ _ | generationFailed hbefore _ _ | released _ hbefore _ _ =>
        rcases update_cases hactive with ⟨rfl, _⟩ | ⟨_, hold⟩
        · exact hsingle other _ _ _ hbefore
        · exact hsingle other session step input hold

theorem cachesApart_of_single (hreach : setup.system.ReachableVia (SingleGeneration id) cluster) :
    setup.system.ReachableVia CachesApart cluster := by
  apply hreach.weaken
  intro s label hbefore hok
  have hsingle := active_of_single hbefore
  constructor
  · rintro ticket shard address request hlabel _ loader ⟨other, session, step, input, _, hactive, _⟩
    obtain rfl := hsingle other session step input hactive
    rw [hok.load ticket shard hlabel] at hactive
    cases hactive
  · rintro starting fuel env session input first worker handle _ hstarting _ _ _ loader _
      ⟨other, session', step, input', _, hactive, hpos, _⟩
    obtain rfl := hsingle other session' step input' hactive
    obtain rfl := hsingle starting session 0 input hstarting
    rw [hactive] at hstarting
    cases hstarting
    exact Nat.lt_irrefl 0 hpos

def singleGenerationNow (id : Nat) (cluster : Cluster) : ClusterLabel → Bool
  | .acquire other => other = id
  | .finishJob _ (.ok _) => cluster.generations id = .idle
  | _ => true

theorem singleGeneration_of_now (hnow : singleGenerationNow id cluster label = true) :
    SingleGeneration id cluster label := by
  constructor
  · rintro other rfl
    exact of_decide_eq_true hnow
  · rintro ticket shard rfl
    exact of_decide_eq_true hnow

/-- A step in which nothing fails. -/
def quietEnv : StepEnv (List TensorTag) := ⟨"request", fun _ => ⟨1, 1, none⟩⟩

/-- A model is loaded, and the first step of a generation is taken. -/
def suspendedRun : List ClusterLabel :=
  .request (.register fiveLayerManifest) :: requestLoad 0 0 .load ++
    [.prepare 0 (.ok ()), .createSlot 0, .dispatch 0 (.handled [] "" none),
      .finishJob ⟨0, 0⟩ (.ok (⟨⟩, 100)), .report ⟨0, 0⟩ true, .startWait 0 0, .wake 0 0,
      .collect 0 0, .conclude 0 (.ok ()), .finishLoad 0,
      .request (.post 1 (.infer true 2) "m"), .request (.check 1), .request (.poll 1 false),
      .acquire 1, .generate 1 1 quietEnv]

/-- The generation goes on to its second step. -/
def inSecondStep (cluster : Cluster) : Bool :=
  (oneNodeCluster.step cluster (.generate 1 1 quietEnv)).isSome &&
    match cluster.generations 1 with
    | .active _ step _ => step = 1
    | _ => false

theorem generations_own_caches_one :
    ∃ cluster, inSecondStep cluster = true ∧ OwnCaches oneNodeCluster cluster := by
  have hrun : ∃ cluster, oneNodeCluster.system.ReachableVia (SingleGeneration 1) cluster ∧
      inSecondStep cluster = true := by
    apply TransitionSystem.reachable_of_execGuarded suspendedRun (.init rfl)
      fun _ _ => singleGeneration_of_now
    decide
  obtain ⟨cluster, hreach, htest⟩ := hrun
  exact ⟨cluster, htest, generations_own_caches oneNodeCluster (cachesApart_of_single hreach)⟩

/-- While the generation is suspended, a redistribution unloads the model and loads it
again. -/
def reloadedRun : List ClusterLabel :=
  suspendedRun ++
    [.request (.post 2 .redistribute "m"), .request (.redistribute 2), .unload 2 true,
      .request (.check 2), .request (.plan 2), .request (.record 2 1), .prepare 1 (.ok ()),
      .createSlot 1, .dispatch 1 (.handled [] "" none), .finishJob ⟨1, 0⟩ (.ok (⟨⟩, 100))]

/-- The worker that the generation is about to go on with has no cache. -/
def withoutOwnCache (cluster : Cluster) : Bool :=
  (oneNodeCluster.step cluster (.generate 1 1 quietEnv)).isSome &&
    (cluster.http.requests 1).any (fun request => request.kind = .infer true 2) &&
    match cluster.generations 1 with
    | .active session step _ =>
        step = 1 && session.plan.assignments.head?.any fun first =>
          ((cluster.network first.address).models.get? session.plan.modelName).any
            fun handle => handle.cache.isNone
    | _ => false

theorem generations_own_caches_counterexample :
    ¬ ∀ cluster, oneNodeCluster.system.Reachable cluster → OwnCaches oneNodeCluster cluster := by
  intro hclaim
  have hrun : ∃ cluster, oneNodeCluster.system.Reachable cluster ∧
      withoutOwnCache cluster = true := by
    apply TransitionSystem.reachable_of_exec reloadedRun rfl (fun _ _ _ => trivial)
    decide
  obtain ⟨cluster, hreach, htest⟩ := hrun
  unfold withoutOwnCache at htest
  simp only [Bool.and_eq_true] at htest
  obtain ⟨⟨hstep, hrequest⟩, hgeneration⟩ := htest
  obtain ⟨next, hstep⟩ := Option.isSome_iff_exists.mp hstep
  obtain ⟨request, hrequest, hkind⟩ := (Option.any_eq_true _ _).mp hrequest
  split at hgeneration
  · next session step input hactive =>
      obtain ⟨hsecond, hfirst⟩ := Bool.and_eq_true_iff.mp hgeneration
      obtain rfl := of_decide_eq_true hsecond
      obtain ⟨first, hfirst, hhandle⟩ := (Option.any_eq_true _ _).mp hfirst
      obtain ⟨handle, hget, hcache⟩ := (Option.any_eq_true _ _).mp hhandle
      have hcompute : (computeShard handle ((Cluster.runner oneNodeCluster session).runRequest
          quietEnv.requestId input ((1 : Nat) = 0)) (quietEnv.hops 0).fault).2 = .ok input :=
        computeShard_quiet (PipelineRunner.runRequest_pipelineMode _ _ _ _)
      have hexecutes : Executes cluster.network quietEnv.hops first.address
          ((Cluster.runner oneNodeCluster session).runRequest quietEnv.requestId input
            ((1 : Nat) = 0)) first.address handle :=
        .here (fun _ _ _ heq => by cases heq) hget hcompute
      have hlt : 1 < (Cluster.RequestKind.maxNewTokens request.kind).toNat := by
        rw [of_decide_eq_true hkind]
        decide
      have hown := hclaim cluster hreach _ next 1 1 first.address handle hstep
        ⟨1, quietEnv, request, session, input, first, rfl, hrequest, hactive, Nat.one_pos, hlt,
          hfirst, hexecutes⟩
      rw [hown] at hcache
      cases hcache
  · cases hgeneration

end PiSSM.Pipeline
