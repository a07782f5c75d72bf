import PiSSM.Pipeline.CacheAgreement
import PiSSM.Pipeline.CachedDecoding
import PiSSM.Pipeline.Deployment
import PiSSM.Pipeline.ShardLoader

/-!
From a checkpoint to its text. The shards of a hosted checkpoint are deployed over the
workers of a plan; once `load` has returned, generation gives the greedy continuation of
the checkpoint's undivided model, whatever earlier calls have left in the caches and
whatever has gone wrong in them.
-/

namespace PiSSM.Pipeline

open PiSSM.Lib PiSSM.Inference PiSSM.Orchestrator

section Served

variable {μ τ κ : Type*}

/-- The same workers, at the same addresses. -/
structure SameCluster (left right : Network μ κ) : Prop extends SameWorkers left right where
  nodeId : ∀ address, (right address).nodeId = (left address).nodeId

theorem SameCluster.refl (network : Network μ κ) : SameCluster network network :=
  ⟨.refl network, fun _ => rfl⟩

theorem SameCluster.trans {left middle right : Network μ κ} (hfirst : SameCluster left middle)
    (hrest : SameCluster middle right) : SameCluster left right :=
  ⟨hfirst.toSameWorkers.trans hrest.toSameWorkers,
    fun address => (hrest.nodeId address).trans (hfirst.nodeId address)⟩

theorem setHandle_nodeId (network : Network μ κ) (address modelName : String)
    (handle : ModelHandle μ κ) (query : String) :
    (setHandle network address modelName handle query).nodeId = (network query).nodeId := by
  unfold setHandle
  by_cases hquery : query = address
  · rw [hquery, Function.update_self]
  · rw [Function.update_of_ne hquery]

variable [ShardModel μ τ κ]

theorem runShard_nodeId {fuel : Nat} {network : Network μ κ} {hops : Nat → Hop κ}
    {address : String} {request : RunShardRequest τ} (hmode : request.pipelineMode = true)
    {outcome : RunShardOutcome μ τ κ}
    (hrun : runShard fuel network hops address request = some outcome) (query : String) :
    (outcome.network query).nodeId = (network query).nodeId := by
  induction fuel generalizing network hops address request outcome with
  | zero => cases hrun
  | succ fuel ih =>
      cases (runShard_iff_hopRun hmode).mp hrun with
      | unreachable _ => rfl
      | notLoaded _ _ => rfl
      | failed _ _ _ =>
          rw [lostReply_network]
          exact setHandle_nodeId _ _ _ _ _
      | forwarded _ _ _ _ hinner =>
          rw [lostReply_network, forwardedReply_network]
          exact (ih (forwardRequest_pipelineMode hmode _ _) hinner).trans
            (setHandle_nodeId _ _ _ _ _)
      | delivered _ _ _ _ =>
          rw [lostReply_network, deliverResult_network]
          exact setHandle_nodeId _ _ _ _ _

/-- Whatever goes wrong, a call changes nothing of the workers but caches. -/
theorem runShard_sameCluster {fuel : Nat} {network : Network μ κ} {hops : Nat → Hop κ}
    {address : String} {request : RunShardRequest τ} (hmode : request.pipelineMode = true)
    {outcome : RunShardOutcome μ τ κ}
    (hrun : runShard fuel network hops address request = some outcome) :
    SameCluster network outcome.network :=
  ⟨runShard_sameWorkers hmode hrun, runShard_nodeId hmode hrun⟩

variable {runner : PipelineRunner} {fuel : Nat} {backend backend' : Backend μ τ κ}

theorem runShardStep_sameCluster {env : StepEnv κ} {input : τ} {resetCache : Bool}
    {result : Except PyException (Option (PipelineResult τ))}
    (hstep : runner.runShardStep fuel env input resetCache backend = some (backend', result)) :
    SameCluster backend.network backend'.network := by
  unfold PipelineRunner.runShardStep PipelineRunner.finishShardStep at hstep
  split at hstep
  · obtain ⟨rfl, _⟩ := Prod.mk.inj (Option.some.inj hstep)
    exact .refl _
  · obtain ⟨outcome, hrun, hresult⟩ := Option.map_eq_some_iff.mp hstep
    have hsame : SameCluster backend.network outcome.network := runShard_sameCluster
      (runner.runRequest_pipelineMode env.requestId input resetCache) hrun
    dsimp only at hresult
    split at hresult
    · obtain ⟨rfl, _⟩ := Prod.mk.inj hresult
      exact hsame
    · obtain ⟨rfl, _⟩ := Prod.mk.inj hresult
      exact hsame

theorem streamLoop_sameCluster {ops : TensorOps τ} {env : Nat → StepEnv κ}
    {remaining step : Nat} {input : τ} {steps : List (GenerationStep τ)}
    {err : Option PyException}
    (hloop : runner.streamLoop ops fuel env remaining step input backend =
      some (backend', steps, err)) : SameCluster backend.network backend'.network := by
  induction remaining generalizing step input backend steps err with
  | zero =>
      obtain ⟨rfl, _⟩ := Prod.mk.inj (Option.some.inj hloop)
      exact .refl _
  | succ remaining ih =>
      rw [PipelineRunner.streamLoop] at hloop
      split at hloop
      · cases hloop
      · next middle result hstep =>
          have hfirst := runShardStep_sameCluster hstep
          split at hloop
          · obtain ⟨rfl, _⟩ := Prod.mk.inj (Option.some.inj hloop)
            exact hfirst
          · obtain ⟨⟨final, rest, err'⟩, hrest, hresult⟩ := Option.map_eq_some_iff.mp hloop
            obtain ⟨rfl, _⟩ := Prod.mk.inj hresult
            exact hfirst.trans (ih hrest)

/-- What a resident model has been used for since a backend: generations and passes, each
with its own faults, that came to their end. -/
inductive Served (runner : PipelineRunner) (ops : TensorOps τ) (backend : Backend μ τ κ) :
    Backend μ τ κ → Prop where
  | refl : Served runner ops backend backend
  | generated {before after : Backend μ τ κ} {fuel : Nat} {env : Nat → StepEnv κ} {prompt : τ}
      {maxNewTokens : Int} {outcome : Except PyException (GenerationResult τ)}
      (hserved : Served runner ops backend before)
      (hcall : runner.generate ops fuel env prompt maxNewTokens before = some (after, outcome)) :
      Served runner ops backend after
  | passed {before after : Backend μ τ κ} {fuel : Nat} {env : StepEnv κ} {input : τ}
      {outcome : Except PyException (Option (PipelineResult τ))}
      (hserved : Served runner ops backend before)
      (hcall : runner.runForward fuel env input before = some (after, outcome)) :
      Served runner ops backend after

theorem Served.workers {ops : TensorOps τ} (hserved : Served runner ops backend backend') :
    SameWorkers backend.network backend'.network := by
  induction hserved with
  | refl => exact SameWorkers.refl _
  | generated _ hcall ih =>
      obtain ⟨⟨final, steps, err⟩, hstream, hresult⟩ := Option.map_eq_some_iff.mp hcall
      have hsame := ih.trans (streamLoop_sameCluster hstream).toSameWorkers
      cases err with
      | none =>
          obtain ⟨rfl, _⟩ := Prod.mk.inj hresult
          exact hsame
      | some err =>
          obtain ⟨rfl, _⟩ := Prod.mk.inj hresult
          exact hsame
  | passed _ hcall ih => exact ih.trans (runShardStep_sameCluster hcall).toSameWorkers

end Served

/-- A worker still holds its shard when only caches have changed. -/
theorem HoldsShard.of_sameWorkers {τ σ : Type*} {model : MambaForCausalLM τ σ} {total : Nat}
    {modelName : String} {network network' : Network (MambaShardModule τ σ) (Cache σ)}
    {shard : ShardAssignment} (hholds : HoldsShard model total modelName network shard)
    (hsame : SameWorkers network network') :
    HoldsShard model total modelName network' shard := by
  obtain ⟨handle, hget, hmodel, hnext⟩ := hholds
  obtain ⟨handle', hget', hshape⟩ := (hsame.shape modelName).handle hget
  refine ⟨handle', hget', ?_, ?_⟩
  · have hsame := congrArg ModelHandle.model hshape
    exact hsame.trans hmodel
  · rw [nextWorkerAddress_of_withoutCache hshape]
    exact hnext

section Hosted

variable {γ ω H S : Type}

/-- The parts of a model whose blocks are causal recurrences and whose embedding, norm and
head act on each position. -/
def recurrentParts (numHiddenLayers : Nat) (embedding : ω → H → H)
    (block : List (String × ω) → Recurrence H S) (norm head : ω → H → H) :
    MambaParts ω (List H) S where
  numHiddenLayers := numHiddenLayers
  embedding weight := List.map (embedding weight)
  block parameters := (block parameters).call
  norm weight := List.map (norm weight)
  head weight := List.map (head weight)

/-- A checkpoint that the hub hosts for the manifest of a deployment, read by the model
store that names its tensors and built by the workers. -/
structure HostedDeployment (γ ω H S : Type) where
  hub : ModelHub ω
  library : MambaLibrary γ ω (List H) S
  autoConfig : String → Except PyException String
  setup : DeploymentSetup (MambaShardModule (List H) S) (Cache S)
  config : γ
  checkpoint : StoredCheckpoint ω
  embedding : ω → H → H
  block : List (String × ω) → Recurrence H S
  norm : ω → H → H
  head : ω → H → H
  hosts : Hosts hub library setup.manifest config checkpoint
  parts : library.parts config = recurrentParts checkpoint.layers embedding block norm head
  configText : autoConfig setup.manifest.checkpoint = .ok (library.toJsonString config)
  stored : ModelStore.create.load hub autoConfig setup.manifest = (setup.modelStore, .ok ())
  build : setup.build = buildShard hub library

namespace HostedDeployment

variable (hosted : HostedDeployment γ ω H S)

/-- The model that `from_pretrained` would load. -/
def wholeModel (model : ModelParameters ω) : MambaForCausalLM (List H) S :=
  recurrentModel hosted.setup.plan.totalLayers (hosted.embedding model.embeddings)
    (hosted.norm model.normF) (hosted.head model.lmHead)
    (fun layerIdx => hosted.block (model.layers.getD layerIdx []))

theorem plan_of_manifest :
    hosted.setup.plan.arch = hosted.setup.manifest.arch ∧
      hosted.setup.plan.checkpoint = hosted.setup.manifest.checkpoint ∧
      hosted.setup.plan.totalLayers = hosted.setup.manifest.layers := by
  obtain ⟨ranges, _, hplan⟩ := planDispatch_ok hosted.setup.planned
  rw [hplan]
  exact ⟨rfl, rfl, rfl⟩

theorem modelOf_parts (model : ModelParameters ω) :
    modelOf (hosted.library.parts hosted.config) model = hosted.wholeModel model := by
  obtain ⟨_, _, hlayers⟩ := hosted.plan_of_manifest
  rw [hosted.parts, wholeModel, hlayers, ← hosted.hosts.layers]
  rfl

/-- The model store names the tensors in the checkpoint's weight map. -/
theorem modelStore_eq : hosted.setup.modelStore =
    ⟨some hosted.checkpoint.weightMap, some (hosted.library.toJsonString hosted.config)⟩ := by
  obtain ⟨weightMap, configJson, hmetadata, hconfig, hstore⟩ := ModelStore.load_ok hosted.stored
  obtain rfl := Except.ok.inj (hmetadata.symm.trans hosted.hosts.metadata)
  obtain rfl := Except.ok.inj (hconfig.symm.trans hosted.configText)
  exact hstore

/-- The worker of an assignment builds the range of the whole model that it is assigned. -/
theorem build_ok {model : ModelParameters ω}
    (hmodel : hosted.library.fromPretrained hosted.checkpoint = .ok model) {a : ShardAssignment}
    (ha : a ∈ hosted.setup.plan.assignments) {request : LoadShardRequest}
    (hrequest : hosted.setup.request a = .ok request) :
    request.nextWorkerAddress = a.nextWorkerAddress ∧
    ∃ memoryMb, hosted.setup.build request =
      .ok (.ofRange (hosted.wholeModel model) a.layerStart a.layerEnd (a.layerStart = 0)
        (a.layerEnd = hosted.setup.plan.totalLayers), memoryMb) := by
  obtain ⟨locations, configJson, hextract, rfl⟩ := DeploymentSetup.request_ok hrequest
  refine ⟨rfl, ?_⟩
  obtain ⟨harch, hcheckpoint, hlayers⟩ := hosted.plan_of_manifest
  have hpipeline := planDispatch_pipeline hosted.setup.planned
  obtain ⟨hfirst, hlast⟩ := hpipeline.flags ha
  have hsupported : hosted.setup.plan.arch ∈ archToShardClass := by
    rw [harch]
    exact hosted.hosts.arch
  rw [hosted.modelStore_eq, ModelStore.extractShard] at hextract
  simp only [if_pos hsupported, Option.getD_some] at hextract
  cases hnamed : tensorLocationsForRange hosted.checkpoint.weightMap a.layerStart a.layerEnd
      a.isFirst a.isLast with
  | error err =>
      rw [hnamed] at hextract
      cases hextract
  | ok named =>
      rw [hnamed] at hextract
      obtain ⟨rfl, rfl⟩ := Prod.mk.inj (Except.ok.inj hextract)
      rw [hfirst, hlast] at hnamed
      have hend : a.layerEnd ≤ hosted.setup.manifest.layers := by
        rw [← hlayers]
        exact hpipeline.layerEnd_le ha
      rw [hosted.build, ← hosted.modelOf_parts]
      exact buildShard_hosted hosted.hosts hmodel hcheckpoint harch rfl hend hnamed

/-- No build of a hosted checkpoint fails. -/
theorem not_buildFails {model : ModelParameters ω}
    (hmodel : hosted.library.fromPretrained hosted.checkpoint = .ok model) {a : ShardAssignment}
    (ha : a ∈ hosted.setup.plan.assignments) {message : String} :
    ¬ hosted.setup.BuildFails a message := by
  rintro ⟨request, hrequest, hfails⟩
  obtain ⟨_, memoryMb, hbuild⟩ := hosted.build_ok hmodel ha hrequest
  rw [hfails] at hbuild
  cases hbuild

/-- The load of a hosted checkpoint does not raise. -/
theorem not_raised {model : ModelParameters ω}
    (hmodel : hosted.library.fromPretrained hosted.checkpoint = .ok model)
    {state : Deployment (MambaShardModule (List H) S) (Cache S)}
    (hreach : hosted.setup.system.ReachableVia hosted.setup.Elsewhere state)
    (err : PyException) : state.run.phase ≠ .raised err := by
  intro hcase
  obtain ⟨a, ha, message, hfails, _⟩ := DeploymentSetup.buildFails_of_raised hreach hcase
  exact hosted.not_buildFails hmodel ha hfails

/-- A worker that has what its request asks for holds its shard of the whole model. -/
theorem holdsShard {model : ModelParameters ω}
    (hmodel : hosted.library.fromPretrained hosted.checkpoint = .ok model) {a : ShardAssignment}
    (ha : a ∈ hosted.setup.plan.assignments)
    {network : Network (MambaShardModule (List H) S) (Cache S)}
    (hdeployed : hosted.setup.Deployed network a) :
    HoldsShard (hosted.wholeModel model) hosted.setup.plan.totalLayers
      hosted.setup.plan.modelName network a := by
  obtain ⟨request, shard, memoryMb, hrequest, hbuild, hget⟩ := hdeployed
  obtain ⟨hnext, memoryMb', hbuild'⟩ := hosted.build_ok hmodel ha hrequest
  obtain ⟨rfl, rfl⟩ := Prod.mk.inj (Except.ok.inj (hbuild.symm.trans hbuild'))
  exact ⟨_, hget, rfl, hnext⟩

/-- Once the load has returned, its workers hold their shards of the whole model for as
long as only caches change. -/
theorem holdsPlan {model : ModelParameters ω}
    (hmodel : hosted.library.fromPretrained hosted.checkpoint = .ok model)
    {state : Deployment (MambaShardModule (List H) S) (Cache S)}
    (hreach : hosted.setup.system.ReachableVia hosted.setup.Elsewhere state)
    (hreturned : state.run.phase = .returned) {runner : PipelineRunner}
    (hplan : runner.plan = hosted.setup.plan)
    {backend : Backend (MambaShardModule (List H) S) (List H) (Cache S)}
    (hsame : SameWorkers state.network backend.network) :
    HoldsPlan (hosted.embedding model.embeddings) (hosted.norm model.normF)
      (hosted.head model.lmHead) (fun layerIdx => hosted.block (model.layers.getD layerIdx []))
      runner backend := by
  have hdeployed := DeploymentSetup.deployed_of_returned hreach hreturned
  intro s hs
  rw [hplan] at hs ⊢
  exact (hosted.holdsShard hmodel hs (hdeployed s hs)).of_sameWorkers hsame

/-- The runner's plan is a pipeline over different workers. -/
theorem pipeline_of_plan {runner : PipelineRunner} (hplan : runner.plan = hosted.setup.plan) :
    IsPipeline runner.plan.totalLayers 0 runner.plan.assignments ∧
      (runner.plan.assignments.map ShardAssignment.address).Nodup ∧
      hosted.setup.manifest.layers = runner.plan.totalLayers := by
  obtain ⟨_, _, hlayers⟩ := hosted.plan_of_manifest
  rw [hplan]
  exact ⟨planDispatch_pipeline hosted.setup.planned, hosted.setup.addresses, hlayers.symm⟩

end HostedDeployment

/-- The tokens of greedy steps are single tokens. -/
theorem GreedySteps.exists_tokens {whole : List H → List H} {argmax : H → H}
    {sequence : List H} {steps : List (GenerationStep (List H))}
    (hsteps : GreedySteps whole argmax sequence steps) :
    ∃ tokens : List H, steps.map GenerationStep.tokenId = tokens.map ([·]) := by
  induction steps generalizing sequence with
  | nil => exact ⟨[], rfl⟩
  | cons step rest ih =>
      obtain ⟨⟨logits, _, _, htoken⟩, hrest⟩ := hsteps
      obtain ⟨tokens, htokens⟩ := ih hrest
      refine ⟨argmax logits :: tokens, ?_⟩
      rw [List.map_cons, List.map_cons, htoken, htokens]

/-- These tokens continue the prompt greedily: each is the argmax of the logits that the
whole model gives at the last position of everything before it. -/
def GreedyTokens (whole : List H → List H) (argmax : H → H) (prompt tokens : List H) : Prop :=
  ∀ k < tokens.length, ∃ logits,
    (whole (prompt ++ tokens.take k)).getLast? = some logits ∧ tokens[k]? = some (argmax logits)

/-- The tokens of greedy steps continue the prompt greedily. -/
theorem GreedySteps.greedyTokens {model : MambaForCausalLM (List H) S} {total : Nat}
    {argmax : H → H} {prompt : List H} {steps : List (GenerationStep (List H))}
    {tokens : List H}
    (hsteps : GreedySteps (model.logits total (fun _ => none)) argmax prompt steps)
    (htokens : steps.map GenerationStep.tokenId = tokens.map ([·])) :
    GreedyTokens (model.wholeForward total) argmax prompt tokens := by
  have hlength : tokens.length = steps.length := by
    have hmaps := congrArg List.length htokens
    rwa [List.length_map, List.length_map, eq_comm] at hmaps
  intro k hk
  have hstep : steps[k]? = some (steps.get ⟨k, hlength ▸ hk⟩) := List.getElem?_eq_getElem _
  obtain ⟨logits, hwhole, _, htoken⟩ := hsteps.at htokens hstep
  rw [MambaForCausalLM.logits_eq_wholeForward] at hwhole
  exact ⟨logits, hwhole, htoken⟩

/-- The steps of a generation over workers that hold their shards. -/
theorem generateStream_tokens {numHiddenLayers : Nat} {embeddings normF lmHead : H → H}
    {layer : Nat → Recurrence H S} {runner : PipelineRunner} {fuel : Nat} (argmax : H → H)
    (hpipeline : IsPipeline runner.plan.totalLayers 0 runner.plan.assignments)
    (hdistinct : (runner.plan.assignments.map ShardAssignment.address).Nodup)
    (hfuel : runner.plan.assignments.length ≤ fuel) {env : Nat → StepEnv (Cache S)}
    (hfaults : ∀ step k, ((env step).hops k).fault = none) {prompt : List H}
    (hprompt : 1 ≤ prompt.length) (count : Nat)
    {backend : Backend (MambaShardModule (List H) S) (List H) (Cache S)}
    (hholds : HoldsPlan embeddings normF lmHead layer runner backend)
    (htotal : numHiddenLayers = runner.plan.totalLayers) :
    ∃ final steps tokens,
      runner.generateStream (sequenceOps argmax) fuel env prompt count backend =
        some (final, steps, none) ∧
      steps.map GenerationStep.tokenId = tokens.map ([·]) ∧ tokens.length = count ∧
      GreedyTokens ((recurrentModel numHiddenLayers embeddings normF lmHead layer).wholeForward
        numHiddenLayers) argmax prompt tokens := by
  subst htotal
  obtain ⟨final, steps, hstream, hgreedy, hcount⟩ :=
    generateStream_greedy embeddings normF lmHead layer argmax hpipeline hdistinct hfuel
      hfaults hprompt count hholds
  obtain ⟨tokens, htokens⟩ := hgreedy.exists_tokens
  have hlength : tokens.length = steps.length := by
    have hmaps := congrArg List.length htokens
    rwa [List.length_map, List.length_map, eq_comm] at hmaps
  exact ⟨final, steps, tokens, hstream, htokens, hlength.trans hcount,
    hgreedy.greedyTokens htokens⟩

/-- A generation over workers that hold their shards. -/
theorem generate_greedy {numHiddenLayers : Nat} {embeddings normF lmHead : H → H}
    {layer : Nat → Recurrence H S} {runner : PipelineRunner} {fuel : Nat} (argmax : H → H)
    (hpipeline : IsPipeline runner.plan.totalLayers 0 runner.plan.assignments)
    (hdistinct : (runner.plan.assignments.map ShardAssignment.address).Nodup)
    (hfuel : runner.plan.assignments.length ≤ fuel) {env : Nat → StepEnv (Cache S)}
    (hfaults : ∀ step k, ((env step).hops k).fault = none) {prompt : List H}
    (hprompt : 1 ≤ prompt.length) (count : Nat)
    {backend : Backend (MambaShardModule (List H) S) (List H) (Cache S)}
    (hholds : HoldsPlan embeddings normF lmHead layer runner backend)
    (htotal : numHiddenLayers = runner.plan.totalLayers) :
    ∃ final result tokens,
      runner.generate (sequenceOps argmax) fuel env prompt count backend =
        some (final, .ok result) ∧
      result.outputIds = prompt ++ tokens ∧ tokens.length = count ∧
      result.stepResults.length = count ∧
      GreedyTokens ((recurrentModel numHiddenLayers embeddings normF lmHead layer).wholeForward
        numHiddenLayers) argmax prompt tokens := by
  obtain ⟨final, steps, tokens, hstream, htokens, hcount, hgreedy⟩ :=
    generateStream_tokens argmax hpipeline hdistinct hfuel hfaults hprompt count hholds htotal
  let result : GenerationResult (List H) :=
    ⟨prompt ++ tokens, steps.map GenerationStep.stepResult⟩
  refine ⟨final, result, tokens, ?_, rfl, hcount, ?_, hgreedy⟩
  · rw [PipelineRunner.generate, hstream, Option.map_some]
    simp only [foldl_cat argmax prompt steps htokens, result]
  · have hmaps := congrArg List.length htokens
    rw [List.length_map, List.length_map] at hmaps
    rw [List.length_map, hmaps, hcount]

/-- From a hosted checkpoint to its text. However the load of a hosted checkpoint runs, it
does not raise and can be brought to its end, where it has returned. From then on, after
any number of calls and whatever has failed in them, a generation in which nothing fails
returns the prompt and as many tokens as asked for, each of them the greedy choice of the
checkpoint's undivided model. -/
theorem deployed_generates (hosted : HostedDeployment γ ω H S) :
    ∃ model, hosted.library.fromPretrained hosted.checkpoint = .ok model ∧
      ∀ state, hosted.setup.system.ReachableVia hosted.setup.Elsewhere state →
        (∀ err, state.run.phase ≠ .raised err) ∧
        (∃ final, hosted.setup.system.RunVia hosted.setup.Elsewhere state final ∧
          final.run.phase = .returned) ∧
        (state.run.phase = .returned →
          ∀ (runner : PipelineRunner) (argmax : H → H)
            (store : ResultStore (PipelineResult (List H)))
            (backend : Backend (MambaShardModule (List H) S) (List H) (Cache S)),
            runner.plan = hosted.setup.plan →
            Served runner (sequenceOps argmax) ⟨state.network, store⟩ backend →
            ∀ (fuel : Nat) (env : Nat → StepEnv (Cache S)) (prompt : List H) (count : Nat),
              hosted.setup.plan.assignments.length ≤ fuel →
              (∀ step k, ((env step).hops k).fault = none) → 1 ≤ prompt.length →
              ∃ final result tokens,
                runner.generate (sequenceOps argmax) fuel env prompt count backend =
                  some (final, .ok result) ∧
                result.outputIds = prompt ++ tokens ∧ tokens.length = count ∧
                result.stepResults.length = count ∧
                GreedyTokens ((hosted.wholeModel model).wholeForward
                  hosted.setup.manifest.layers) argmax prompt tokens) := by
  obtain ⟨model, hmodel, _⟩ := hosted.library.pretrained hosted.checkpoint
  refine ⟨model, hmodel, fun state hreach => ⟨hosted.not_raised hmodel hreach, ?_, ?_⟩⟩
  · obtain ⟨final, hrun, hreturned | ⟨err, herr⟩⟩ := DeploymentSetup.exists_ended hreach
    · exact ⟨final, hrun, hreturned⟩
    · exact absurd herr (hosted.not_raised hmodel (hrun.reachable hreach) err)
  · intro hreturned runner argmax store backend hplan hserved fuel env prompt count hfuel
      hfaults hprompt
    have hholds := hosted.holdsPlan hmodel hreach hreturned hplan hserved.workers
    obtain ⟨hpipeline, hdistinct, hlayers⟩ := hosted.pipeline_of_plan hplan
    have htotal : hosted.setup.plan.totalLayers = runner.plan.totalLayers := by rw [hplan]
    rw [← hplan] at hfuel
    rw [hlayers, ← htotal]
    exact generate_greedy argmax hpipeline hdistinct hfuel hfaults hprompt count hholds htotal

end Hosted

/-- The tensors of every range of a checkpoint are named. -/
theorem extractShard_named (checkpoint : MambaCheckpoint) {arch : String}
    (harch : arch ∈ archToShardClass) (configJson : Option String) (layerStart layerEnd : Nat)
    (isFirst isLast : Bool) :
    ∃ named, (⟨some checkpoint.weightMap, configJson⟩ : ModelStore).extractShard arch layerStart
      layerEnd isFirst isLast = .ok named := by
  obtain ⟨_, _, _, _, _, _, hlocations⟩ :=
    checkpoint.tensorLocationsForRange_ok layerStart layerEnd isFirst isLast
  simp only [ModelStore.extractShard, if_pos harch, hlocations]
  exact ⟨_, rfl⟩

def fiveLayerHub : ModelHub String where
  isDir _ := true
  localMetadata _ := .ok fiveLayerCheckpoint.weightMap
  repoMetadata repo := .error (.osError s!"{repo} is not a local folder")
  joinPath _ filename := filename
  hubDownload repo _ := .error (.osError s!"{repo} is not a local folder")
  safeOpen := fiveLayerFiles.fetchSourceFile

def fiveLayerLibrary : MambaLibrary Unit String (List Nat) Nat where
  toTensorLibrary := tensorLibrary
  toJsonString _ := "{}"
  fromJson _ := .ok ()
  blockParameters _ := ["norm.weight", "mixer.A_log"]
  fresh _ name := name
  parts _ := recurrentParts 5 (fun _ x => x + 1) (fun _ => countingRecurrence 0)
    (fun _ x => x + 2) (fun _ x => 3 * x)
  nbytes _ := 4

/-- Two idle workers. -/
def idleNetwork : Network (MambaShardModule (List Nat) Nat) (Cache Nat) := fun address =>
  InferenceServicer.create (if address = "10.0.0.1:50051" then "a" else "b")

def fiveLayerHosted : HostedDeployment Unit String Nat Nat where
  hub := fiveLayerHub
  library := fiveLayerLibrary
  autoConfig _ := .ok "{}"
  setup := {
    manifest := fiveLayerManifest
    registry := twoNodeRegistry
    plan := twoNodePlan
    modelStore := ⟨some fiveLayerCheckpoint.weightMap, some "{}"⟩
    callbackAddress := "host:50050"
    build := buildShard fiveLayerHub fiveLayerLibrary
    resultStore := ResultStore.create
    network := idleNetwork
    planned := twoNodePlan_planned
    addresses := twoWorkerDeployment.addresses
    named := fun _ _ => extractShard_named fiveLayerCheckpoint List.mem_cons_self _ _ _ _ _
    nodeId := fun a ha => by
      rcases List.mem_pair.mp ha with rfl | rfl <;> rfl
    fresh := fun _ _ => ⟨rfl, Finset.notMem_empty _⟩ }
  config := ()
  checkpoint := fiveLayerFiles
  embedding _ x := x + 1
  block _ := countingRecurrence 0
  norm _ x := x + 2
  head _ x := 3 * x
  hosts := ⟨rfl, rfl, rfl, rfl, rfl, rfl, List.mem_cons_self⟩
  parts := rfl
  configText := rfl
  stored := rfl
  build := rfl

theorem deployed_generates_five :
    ∃ model state final result tokens,
      fiveLayerLibrary.fromPretrained fiveLayerFiles = .ok model ∧
      fiveLayerHosted.setup.system.ReachableVia fiveLayerHosted.setup.Elsewhere state ∧
      state.run.phase = .returned ∧
      twoNodeRunner.generate (sequenceOps (· % 50)) 2
          (fun step => ⟨s!"step-{step}", fun k => ⟨k, k, none⟩⟩) [10, 20, 30] 3
          ⟨state.network, ResultStore.create⟩ = some (final, .ok result) ∧
      result.outputIds = [10, 20, 30] ++ tokens ∧ tokens.length = 3 ∧
      result.stepResults.length = 3 ∧
      GreedyTokens ((fiveLayerHosted.wholeModel model).wholeForward 5) (· % 50) [10, 20, 30]
        tokens := by
  obtain ⟨model, hmodel, hall⟩ := deployed_generates fiveLayerHosted
  obtain ⟨_, ⟨state, hrun, hreturned⟩, _⟩ := hall _ (.init rfl)
  have hreach := hrun.reachable (.init rfl)
  obtain ⟨_, _, hgenerate⟩ := hall state hreach
  obtain ⟨final, result, tokens, hresult⟩ := hgenerate hreturned twoNodeRunner (· % 50)
    ResultStore.create _ rfl .refl 2 (fun step => ⟨s!"step-{step}", fun k => ⟨k, k, none⟩⟩)
    [10, 20, 30] 3 (by decide) (fun _ _ => rfl) (by decide)
  exact ⟨model, state, final, result, tokens, hmodel, hreach, hreturned, hresult⟩

end PiSSM.Pipeline
