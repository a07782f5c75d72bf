import PiSSM.Inference.RunShard
import PiSSM.Orchestrator.Dispatch

/-!
A `RunShard` sent to the first worker of a planned pipeline, computed through
the nested calls. When every worker holds the shard of its own assignment and
no step fails, the last worker delivers what the undivided model computes, for
whatever the slots of the caches hold at the start, and every layer's state is
left in its slot.
-/

namespace PiSSM.Pipeline

open PiSSM.Lib PiSSM.Inference PiSSM.Orchestrator

variable {τ σ : Type*}

/-- The worker named by this assignment holds the shard of the assignment, and
a step with this reset flag starts there from the state `slots`. -/
def ReadyFor (model : MambaForCausalLM τ σ) (total : Nat) (modelName : String)
    (slots : Nat → Option σ) (resetCache : Bool)
    (network : Network (MambaShardModule τ σ) (Cache σ)) (shard : ShardAssignment) : Prop :=
  ∃ handle, (network shard.address).models.get? modelName = some handle ∧
    handle.model = MambaShardModule.ofRange model shard.layerStart shard.layerEnd
      (shard.layerStart = 0) (shard.layerEnd = total) ∧
    handle.nextWorkerAddress = shard.nextWorkerAddress ∧
    CacheHolds model slots shard.layerStart shard.layerEnd (startCache handle resetCache)

/-- The worker named by this assignment holds the shard of the assignment,
with whatever cache earlier requests left on it. -/
def HoldsShard (model : MambaForCausalLM τ σ) (total : Nat) (modelName : String)
    (network : Network (MambaShardModule τ σ) (Cache σ)) (shard : ShardAssignment) : Prop :=
  ∃ handle, (network shard.address).models.get? modelName = some handle ∧
    handle.model = MambaShardModule.ofRange model shard.layerStart shard.layerEnd
      (shard.layerStart = 0) (shard.layerEnd = total) ∧
    handle.nextWorkerAddress = shard.nextWorkerAddress

theorem ReadyFor.holdsShard {model : MambaForCausalLM τ σ} {total : Nat}
    {modelName : String} {slots : Nat → Option σ} {resetCache : Bool}
    {network : Network (MambaShardModule τ σ) (Cache σ)} {shard : ShardAssignment}
    (hready : ReadyFor model total modelName slots resetCache network shard) :
    HoldsShard model total modelName network shard := by
  obtain ⟨handle, hget, hmodel, hnext, _⟩ := hready
  exact ⟨handle, hget, hmodel, hnext⟩

theorem startCache_reset {μ κ τ : Type*} [ShardModel μ τ κ] (handle : ModelHandle μ κ) :
    startCache handle true = ShardModel.newCache handle.model := by
  cases hcache : handle.cache <;> simp [startCache, hcache]

/-- A resetting step starts without history, whatever the cache was. -/
theorem HoldsShard.readyFor_reset {model : MambaForCausalLM τ σ} {total : Nat}
    {modelName : String} {network : Network (MambaShardModule τ σ) (Cache σ)}
    {shard : ShardAssignment} (hholds : HoldsShard model total modelName network shard)
    (hslots : shard.layerEnd ≤ model.numHiddenLayers) :
    ReadyFor model total modelName (fun _ => none) true network shard := by
  obtain ⟨handle, hget, hmodel, hnext⟩ := hholds
  refine ⟨handle, hget, hmodel, hnext, ?_⟩
  rw [startCache_reset, hmodel]
  exact newCache_holds model _ _ hslots

/-- A pipeline step that computes without fault on a loaded worker. -/
theorem runShard_computed {μ τ κ : Type*} [ShardModel μ τ κ] (fuel : Nat)
    (network : Network μ κ) (hops : Nat → Hop κ) (address : String)
    (request : RunShardRequest τ) {handle : ModelHandle μ κ} {cache : κ} {output : τ}
    (hfault : (hops 0).fault = none)
    (hhandle : (network address).models.get? request.modelName = some handle)
    (hmode : request.pipelineMode = true)
    (hforward : ShardModel.forward handle.model request.inputTensor
      (startCache handle request.resetCache) = (cache, .ok output)) :
    runShard (fuel + 1) network hops address request =
      if handle.nextWorkerAddress ≠ "" then
        (runShard fuel
          (setHandle network address request.modelName (handle.setCache cache))
          (fun k => hops (k + 1)) handle.nextWorkerAddress
          (forwardRequest request output (hops 0))).map forwardedReply
      else
        some ⟨setHandle network address request.modelName (handle.setCache cache),
          [deliverRequest request output (hops 0)], .ok ⟨true, "", none, 0, 0⟩⟩ := by
  have hcomputed : computeShard handle request none =
      (handle.setCache cache, .ok output) := by
    simp [computeShard, hmode, hforward]
  have hlost : lostReply (μ := μ) (τ := τ) (none : Option (HopFault κ)) = id := rfl
  rw [runShard, hfault]
  simp only [hhandle, hcomputed, hmode, if_true, deliverResult, hfault, hlost, Option.map_id,
    id_eq]

theorem setHandle_get?_self {μ κ : Type*} (network : Network μ κ)
    (address modelName : String) (handle : ModelHandle μ κ) :
    (setHandle network address modelName handle address).models.get? modelName =
      some handle := by
  simp [setHandle]

theorem setHandle_of_ne {μ κ : Type*} (network : Network μ κ)
    {address other : String} (modelName : String) (handle : ModelHandle μ κ)
    (hne : other ≠ address) :
    setHandle network address modelName handle other = network other :=
  Function.update_of_ne hne _ _

theorem ReadyFor.congr {model : MambaForCausalLM τ σ} {total : Nat} {modelName : String}
    {slots : Nat → Option σ} {resetCache : Bool}
    {network network' : Network (MambaShardModule τ σ) (Cache σ)} {shard : ShardAssignment}
    (hready : ReadyFor model total modelName slots resetCache network shard)
    (hsame : network' shard.address = network shard.address) :
    ReadyFor model total modelName slots resetCache network' shard := by
  unfold ReadyFor
  rw [hsame]
  exact hready

/-- The measurements of the first `count` hops, in pipeline order. -/
def hopLatencies {κ : Type*} (hops : Nat → Hop κ) (count : Nat) : List ℚ :=
  (List.range count).map fun k => (hops k).elapsedMs

def hopPeakMemory {κ : Type*} (hops : Nat → Hop κ) (count : Nat) : List Nat :=
  (List.range count).map fun k => (hops k).peakMemoryMb

theorem hopLatencies_succ {κ : Type*} (hops : Nat → Hop κ) (count : Nat) :
    hopLatencies hops (count + 1) =
      (hops 0).elapsedMs :: hopLatencies (fun k => hops (k + 1)) count := by
  simp [hopLatencies, List.range_succ_eq_map, Function.comp_def]

theorem hopPeakMemory_succ {κ : Type*} (hops : Nat → Hop κ) (count : Nat) :
    hopPeakMemory hops (count + 1) =
      (hops 0).peakMemoryMb :: hopPeakMemory (fun k => hops (k + 1)) count := by
  simp [hopPeakMemory, List.range_succ_eq_map, Function.comp_def]

/-- What the orchestrator receives for a request that passes all workers. -/
def chainResult (model : MambaForCausalLM τ σ) (total : Nat) (slots : Nat → Option σ)
    (x : τ) (hops : Nat → Hop (Cache σ)) (count : Nat) (request : RunShardRequest τ) :
    DeliverResultRequest τ where
  requestId := request.requestId
  outputTensor := model.logits total slots x
  nodeLatenciesMs := request.nodeLatenciesMs ++ hopLatencies hops count
  nodePeakMemoryMb := request.nodePeakMemoryMb ++ hopPeakMemory hops count

section Chain

variable (model : MambaForCausalLM τ σ) {total : Nat} (modelName : String)
  (slots : Nat → Option σ) (x : τ)

/-- One worker's part of a chain: its output, the network it leaves and the
state it has stored. -/
theorem shard_step {start : Nat} {shard : ShardAssignment}
    {network : Network (MambaShardModule τ σ) (Cache σ)} {request : RunShardRequest τ}
    (hstart : shard.layerStart = start) (hle : start ≤ shard.layerEnd)
    (hname : request.modelName = modelName)
    (hinput : request.inputTensor = model.shardInput slots x start)
    (hready : ReadyFor model total modelName slots request.resetCache network shard) :
    ∃ handle cache,
      (network shard.address).models.get? request.modelName = some handle ∧
      handle.nextWorkerAddress = shard.nextWorkerAddress ∧
      ShardModel.forward handle.model request.inputTensor
          (startCache handle request.resetCache) =
        (cache, .ok (model.shardOutput total slots x shard.layerEnd)) ∧
      ReadyFor model total modelName (fun i => some (model.slotAt slots x i)) false
        (setHandle network shard.address request.modelName (handle.setCache cache))
        shard := by
  subst hstart hname
  obtain ⟨handle, hget, hmodel, hnext, hcache⟩ := hready
  obtain ⟨cache, hforward, hnew⟩ := forward_ofRange model slots x total hle hcache
  refine ⟨handle, cache, hget, hnext, ?_, handle.setCache cache,
    setHandle_get?_self _ _ _ _, hmodel, hnext, hnew⟩
  rw [hmodel, hinput]
  exact hforward

/-- The chain invariant, by induction over the pipeline: a call to the first
remaining worker passes all of them and delivers once. -/
theorem runShard_chain (shard : ShardAssignment) (rest : List ShardAssignment) {start : Nat}
    {network : Network (MambaShardModule τ σ) (Cache σ)} {hops : Nat → Hop (Cache σ)}
    {request : RunShardRequest τ} {fuel : Nat}
    (hpipeline : IsPipeline total start (shard :: rest))
    (hdistinct : ((shard :: rest).map ShardAssignment.address).Nodup)
    (hfuel : (shard :: rest).length ≤ fuel)
    (hfaults : ∀ k, (hops k).fault = none)
    (hmode : request.pipelineMode = true)
    (hname : request.modelName = modelName)
    (hinput : request.inputTensor = model.shardInput slots x start)
    (hready : ∀ s ∈ shard :: rest,
      ReadyFor model total modelName slots request.resetCache network s) :
    ∃ network',
      runShard fuel network hops shard.address request =
        some ⟨network',
          [chainResult model total slots x hops (rest.length + 1) request],
          .ok ⟨true, "", none, 0, 0⟩⟩ ∧
      (∀ address ∉ (shard :: rest).map ShardAssignment.address,
        network' address = network address) ∧
      ∀ s ∈ shard :: rest,
        ReadyFor model total modelName (fun i => some (model.slotAt slots x i)) false
          network' s := by
  induction rest generalizing shard start network hops request fuel with
  | nil =>
      obtain ⟨hstart, hlt, hend, _, _, hnext⟩ := hpipeline
      obtain ⟨fuel, rfl⟩ : ∃ n, fuel = n + 1 := ⟨fuel - 1, by simp at hfuel; omega⟩
      obtain ⟨handle, cache, hget, hlink, hforward, hafter⟩ :=
        shard_step model modelName slots x hstart (by omega) hname hinput
          (hready shard List.mem_cons_self)
      refine ⟨setHandle network shard.address request.modelName (handle.setCache cache),
        ?_, ?_, ?_⟩
      · rw [runShard_computed fuel network hops shard.address request (hfaults 0) hget
          hmode hforward, hlink, hnext, if_neg (by simp)]
        simp only [deliverRequest, chainResult, MambaForCausalLM.shardOutput, hend, if_true,
          List.length_nil, hopLatencies, hopPeakMemory, List.range_one, List.map_cons,
          List.map_nil, Nat.zero_add]
      · intro address hnot
        exact setHandle_of_ne _ _ _ (by simpa using hnot)
      · intro s hs
        obtain rfl : s = shard := by simpa using hs
        exact hafter
  | cons next rest ih =>
      obtain ⟨hstart, hlt, hend, _, _, hnext, hpipeline⟩ := hpipeline
      obtain ⟨fuel, rfl⟩ : ∃ n, fuel = n + 1 := ⟨fuel - 1, by simp at hfuel; omega⟩
      obtain ⟨handle, cache, hget, hlink, hforward, hafter⟩ :=
        shard_step model modelName slots x hstart (by omega) hname hinput
          (hready shard List.mem_cons_self)
      obtain ⟨hfresh, hdistinct⟩ := List.nodup_cons.mp hdistinct
      have hothers : ∀ s ∈ next :: rest, s.address ≠ shard.address := by
        intro s hs heq
        exact hfresh (heq ▸ List.mem_map_of_mem hs)
      have houtput : model.shardOutput total slots x shard.layerEnd =
          model.shardInput slots x shard.layerEnd := by
        rw [MambaForCausalLM.shardOutput, MambaForCausalLM.shardInput,
          if_neg (by omega), if_neg (by omega)]
      let network₁ := setHandle network shard.address request.modelName
        (handle.setCache cache)
      let request₁ := forwardRequest request
        (model.shardOutput total slots x shard.layerEnd) (hops 0)
      have hfuel₁ : (next :: rest).length ≤ fuel := by
        simp only [List.length_cons] at hfuel ⊢
        omega
      have hfaults₁ : ∀ k, (hops (k + 1)).fault = none := fun k => hfaults (k + 1)
      have hmode₁ : request₁.pipelineMode = true := hmode
      have hready₁ : ∀ s ∈ next :: rest,
          ReadyFor model total modelName slots request₁.resetCache network₁ s :=
        fun s hs => (hready s (List.mem_cons_of_mem _ hs)).congr
          (setHandle_of_ne _ _ _ (hothers s hs))
      obtain ⟨network', hrun, hframe, hdone⟩ :=
        ih next hpipeline hdistinct hfuel₁ hfaults₁ hmode₁ hname houtput hready₁
      refine ⟨network', ?_, ?_, ?_⟩
      · rw [runShard_computed fuel network hops shard.address request (hfaults 0) hget
          hmode hforward, hlink, hnext, if_pos (next.address_ne_empty), hrun]
        simp only [Option.map_some, forwardedReply, chainResult, request₁, forwardRequest,
          List.length_cons, hopLatencies_succ _ (rest.length + 1),
          hopPeakMemory_succ _ (rest.length + 1), List.append_assoc, List.singleton_append]
      · intro address hnot
        simp only [List.map_cons, List.mem_cons, not_or] at hnot
        rw [hframe address (by simpa using hnot.2)]
        exact setHandle_of_ne _ _ _ hnot.1
      · intro s hs
        rcases List.mem_cons.mp hs with rfl | hs
        · exact hafter.congr (hframe _ hfresh)
        · exact hdone s hs

/-- The chain over a whole plan, started with the raw input. -/
theorem runShard_plan {plan : DispatchPlan}
    {network : Network (MambaShardModule τ σ) (Cache σ)} {hops : Nat → Hop (Cache σ)}
    {request : RunShardRequest τ} {fuel : Nat}
    (hpipeline : IsPipeline plan.totalLayers 0 plan.assignments)
    (hdistinct : (plan.assignments.map ShardAssignment.address).Nodup)
    (hfuel : plan.assignments.length ≤ fuel)
    (hfaults : ∀ k, (hops k).fault = none)
    (hmode : request.pipelineMode = true)
    (hready : ∀ s ∈ plan.assignments,
      ReadyFor model plan.totalLayers request.modelName slots request.resetCache network s) :
    ∃ first network', plan.assignments.head? = some first ∧
      runShard fuel network hops first.address request =
        some ⟨network', [chainResult model plan.totalLayers slots request.inputTensor hops
          plan.assignments.length request], .ok ⟨true, "", none, 0, 0⟩⟩ ∧
      (∀ address ∉ plan.assignments.map ShardAssignment.address,
        network' address = network address) ∧
      ∀ s ∈ plan.assignments,
        ReadyFor model plan.totalLayers request.modelName
          (fun i => some (model.slotAt slots request.inputTensor i)) false network' s := by
  cases hshards : plan.assignments with
  | nil => exact absurd hshards hpipeline.ne_nil
  | cons first rest =>
      rw [hshards] at hpipeline hdistinct hfuel hready
      obtain ⟨network', hrun, hframe, hdone⟩ := runShard_chain model request.modelName slots
        request.inputTensor first rest hpipeline hdistinct hfuel hfaults hmode rfl
        (by rw [MambaForCausalLM.shardInput, if_pos rfl]) hready
      exact ⟨first, network', rfl, hrun, hframe, hdone⟩

end Chain

/-- One resetting request to the first worker of a plan, with every worker
holding its own shard and no step failing, comes back as exactly one delivered
result: the undivided model's output under the same request id, measured at
every worker in pipeline order. A layer beyond the caches would make its step
fail, hence the bound on the layer count. -/
theorem runShard_computes_whole_model {manifest : ModelManifest} {registry : NodeRegistry}
    {plan : DispatchPlan} (hplan : planDispatch manifest registry = .ok plan)
    (hdistinct : (plan.assignments.map ShardAssignment.address).Nodup)
    (model : MambaForCausalLM τ σ) (hslots : plan.totalLayers ≤ model.numHiddenLayers)
    (network : Network (MambaShardModule τ σ) (Cache σ))
    (hholds : ∀ s ∈ plan.assignments,
      HoldsShard model plan.totalLayers plan.modelName network s)
    (hops : Nat → Hop (Cache σ)) (hfaults : ∀ k, (hops k).fault = none)
    (x : τ) (maxNewTokens : Nat) (requestId callback : String) (hcallback : callback ≠ "") :
    ∃ first, plan.assignments.head? = some first ∧
      ∀ fuel ≥ plan.assignments.length, ∃ outcome,
        runShard fuel network hops first.address
            ⟨plan.modelName, x, maxNewTokens, false, requestId, callback, [], [], true⟩ =
          some outcome ∧
        outcome.delivered = [{
          requestId := requestId
          outputTensor := model.wholeForward plan.totalLayers x
          nodeLatenciesMs :=
            (List.range plan.assignments.length).map fun k => (hops k).elapsedMs
          nodePeakMemoryMb :=
            (List.range plan.assignments.length).map fun k => (hops k).peakMemoryMb }] := by
  have hpipeline := planDispatch_pipeline hplan
  have hmode : (⟨plan.modelName, x, maxNewTokens, false, requestId, callback, [], [], true⟩ :
      RunShardRequest τ).pipelineMode = true := by
    simp [RunShardRequest.pipelineMode, hcallback]
  have hready : ∀ s ∈ plan.assignments,
      ReadyFor model plan.totalLayers plan.modelName (fun _ => none) true network s :=
    fun s hs => (hholds s hs).readyFor_reset
      ((hpipeline.layerEnd_le hs).trans hslots)
  obtain ⟨first, _, hfirst, _⟩ := runShard_plan model (fun _ => none) hpipeline hdistinct
    le_rfl hfaults hmode hready
  refine ⟨first, hfirst, fun fuel hfuel => ?_⟩
  obtain ⟨first', network', hfirst', hrun, _⟩ := runShard_plan model (fun _ => none)
    hpipeline hdistinct hfuel hfaults hmode hready
  obtain rfl : first = first' := Option.some.inj (hfirst.symm.trans hfirst')
  refine ⟨_, hrun, ?_⟩
  simp only [chainResult, model.logits_eq_wholeForward, List.nil_append, hopLatencies,
    hopPeakMemory]

/-- The handle a worker holds right after loading its shard of a plan. -/
def assignedHandle (model : MambaForCausalLM τ σ) (plan : DispatchPlan)
    (shard : ShardAssignment) : ModelHandle (MambaShardModule τ σ) (Cache σ) where
  name := plan.modelName
  model := MambaShardModule.ofRange model shard.layerStart shard.layerEnd
    (shard.layerStart = 0) (shard.layerEnd = plan.totalLayers)
  memoryMb := 1
  layerStart := shard.layerStart
  layerEnd := shard.layerEnd
  isFirstShard := shard.layerStart = 0
  isLastShard := shard.layerEnd = plan.totalLayers
  nextWorkerAddress := shard.nextWorkerAddress
  cache := none

/-- The workers right after every shard of a plan has been loaded. -/
def loadedNetwork (model : MambaForCausalLM τ σ) (plan : DispatchPlan) :
    Network (MambaShardModule τ σ) (Cache σ) := fun address =>
  match plan.assignments.find? fun shard => shard.address = address with
  | none => InferenceServicer.create ""
  | some shard => {
      nodeId := shard.nodeId
      models := Dict.empty.set plan.modelName (assignedHandle model plan shard)
      loading := ∅ }

theorem loadedNetwork_holds (model : MambaForCausalLM τ σ) (plan : DispatchPlan)
    (hdistinct : (plan.assignments.map ShardAssignment.address).Nodup)
    {shard : ShardAssignment} (hmem : shard ∈ plan.assignments) :
    HoldsShard model plan.totalLayers plan.modelName (loadedNetwork model plan) shard := by
  have hfind : plan.assignments.find? (fun s => s.address = shard.address) = some shard := by
    cases hfound : plan.assignments.find? (fun s => s.address = shard.address) with
    | none => exact absurd (List.find?_eq_none.mp hfound shard hmem) (by simp)
    | some other =>
        have hsame : other.address = shard.address := by
          simpa using List.find?_some hfound
        exact congrArg some (List.inj_on_of_nodup_map hdistinct
          (List.mem_of_find?_eq_some hfound) hmem hsame)
  refine ⟨assignedHandle model plan shard, ?_, rfl, rfl⟩
  simp only [loadedNetwork, hfind, Dict.get?_set_self]

/-- A model on natural numbers whose layers do not commute. -/
def countingModel : MambaForCausalLM Nat Nat where
  numHiddenLayers := 5
  embeddings x := x + 1
  layer i _ x := (2 * x + i, x)
  normF x := x + 10
  lmHead x := 3 * x

theorem runShard_computes_whole_model_two :
    ∃ first, twoNodePlan.assignments.head? = some first ∧
      ∀ fuel ≥ 2, ∃ outcome,
        runShard fuel (loadedNetwork countingModel twoNodePlan) (fun k => ⟨k, k, none⟩)
            first.address ⟨"m", 3, 0, false, "request", "host:50050", [], [], true⟩ =
          some outcome ∧
        outcome.delivered = [⟨"request", 492, [0, 1], [0, 1]⟩] :=
  runShard_computes_whole_model twoNodePlan_planned (by decide) countingModel (by decide)
    (loadedNetwork countingModel twoNodePlan)
    (fun _ hs => loadedNetwork_holds countingModel twoNodePlan (by decide) hs)
    (fun k => ⟨k, k, none⟩) (fun _ => rfl) 3 0 "request" "host:50050" (by decide)

end PiSSM.Pipeline
