import PiSSM.Exceptions
import PiSSM.Lib.Tiling
import PiSSM.Inference.Manifest
import PiSSM.Orchestrator.NodeRegistry

/-!
The layer dispatch engine: `split_layers` partitions the layer stack over the
nodes, and `plan_dispatch` links the resulting shards into a pipeline.
`IsPipeline` is the abstract reading of a plan, an ordered chain of shards in
which each one starts where its predecessor stops and is forwarded to by it.
-/

namespace PiSSM.Orchestrator

open PiSSM.Lib PiSSM.Inference

structure ShardAssignment where
  nodeId : String
  ipAddress : String
  inferencePort : Nat
  layerStart : Nat
  layerEnd : Nat
  isFirst : Bool
  isLast : Bool
  nextWorkerAddress : String
  deriving DecidableEq

/-- The address every client of this worker dials. -/
def ShardAssignment.address (assignment : ShardAssignment) : String :=
  s!"{assignment.ipAddress}:{assignment.inferencePort}"

theorem ShardAssignment.address_ne_empty (assignment : ShardAssignment) :
    assignment.address ≠ "" := by
  intro hempty
  have hlength := congrArg String.length hempty
  unfold ShardAssignment.address at hlength
  simp at hlength

structure DispatchPlan where
  assignments : List ShardAssignment
  arch : String
  modelName : String
  checkpoint : String
  totalLayers : Nat
  deriving DecidableEq

/-- The loop of `split_layers`, from the iteration with `remaining` iterations
to go and with the running `start`. -/
def splitLoop (totalLayers base : Nat) : Nat → Nat → List (Nat × Nat)
  | 0, _ => []
  | remaining + 1, start =>
      let stop := if remaining = 0 then totalLayers else start + base
      (start, stop) :: splitLoop totalLayers base remaining stop

def splitLayers (totalLayers numNodes : Nat) : Except PyException (List (Nat × Nat)) :=
  if numNodes > totalLayers then
    .error (.dispatchError
      (s!"Cannot assign {numNodes} nodes to {totalLayers} layers: " ++
        "more nodes than layers."))
  else if numNodes = 0 then
    .error .zeroDivisionError
  else
    .ok (splitLoop totalLayers (totalLayers / numNodes) numNodes 0)

def nodeAddress (node : NodeInfo) : String :=
  s!"{node.ipAddress}:{node.inferencePort}"

/-- One iteration of the assignment loop of `plan_dispatch`. -/
def assignShard (nodes : List NodeInfo) (index : Nat) (node : NodeInfo)
    (range : Nat × Nat) : ShardAssignment where
  nodeId := node.nodeId
  ipAddress := node.ipAddress
  inferencePort := node.inferencePort
  layerStart := range.1
  layerEnd := range.2
  isFirst := index = 0
  isLast := index = nodes.length - 1
  nextWorkerAddress :=
    if index = nodes.length - 1 then ""
    else
      match nodes[index + 1]? with
      | some next => nodeAddress next
      | none => ""

def planDispatch (manifest : ModelManifest) (registry : NodeRegistry) :
    Except PyException DispatchPlan := do
  let nodes := registry.listNodes (some .available)
  if nodes.isEmpty then
    throw (.dispatchError "no available nodes in the registry")
  let ranges ← splitLayers manifest.layers nodes.length
  return {
    assignments := (nodes.zip ranges).zipIdx.map fun entry =>
      assignShard nodes entry.2 entry.1.1 entry.1.2
    arch := manifest.arch
    modelName := manifest.name
    checkpoint := manifest.checkpoint
    totalLayers := manifest.layers }

/-- A pipeline over `[start, totalLayers)`: the shards follow each other, each
is non-empty, the one at layer 0 is first, the one that reaches the end is
last, and every other one forwards to its successor. -/
def IsPipeline (totalLayers : Nat) : Nat → List ShardAssignment → Prop
  | _, [] => False
  | start, [shard] =>
      shard.layerStart = start ∧ start < totalLayers ∧
        shard.layerEnd = totalLayers ∧ shard.isFirst = decide (start = 0) ∧
        shard.isLast = true ∧ shard.nextWorkerAddress = ""
  | start, shard :: next :: rest =>
      shard.layerStart = start ∧ start < shard.layerEnd ∧
        shard.layerEnd < totalLayers ∧ shard.isFirst = decide (start = 0) ∧
        shard.isLast = false ∧ shard.nextWorkerAddress = next.address ∧
        IsPipeline totalLayers shard.layerEnd (next :: rest)

theorem splitLoop_length (totalLayers base remaining start : Nat) :
    (splitLoop totalLayers base remaining start).length = remaining := by
  induction remaining generalizing start with
  | zero => rfl
  | succ remaining ih => simp [splitLoop, ih]

/-- Every range but the last has the base size. -/
theorem splitLoop_getElem? {totalLayers base remaining start index : Nat}
    (hindex : index + 1 < remaining) :
    (splitLoop totalLayers base remaining start)[index]? =
      some (start + base * index, start + base * (index + 1)) := by
  induction remaining generalizing start index with
  | zero => omega
  | succ remaining ih =>
      have hmore : remaining ≠ 0 := by omega
      cases index with
      | zero => simp [splitLoop, hmore]
      | succ index =>
          have htail := @ih (start + base) index (by omega)
          simp only [splitLoop, if_neg hmore, List.getElem?_cons_succ, htail]
          congr 2 <;> ring

/-- With a positive base size and room for one layer per iteration still to
come, the loop tiles what is left of the layer stack. -/
theorem splitLoop_tiles {totalLayers base remaining start : Nat}
    (hbase : 0 < base) (hremaining : 0 < remaining)
    (hroom : start + base * remaining ≤ totalLayers) :
    Tiles start totalLayers (splitLoop totalLayers base remaining start) := by
  induction remaining generalizing start with
  | zero => omega
  | succ remaining ih =>
      rw [Nat.mul_succ] at hroom
      by_cases hlast : remaining = 0
      · subst hlast
        refine ⟨rfl, ?_, ?_⟩
        · simp only [if_pos]
          omega
        · rfl
      · have hroom' : start + base + base * remaining ≤ totalLayers := by omega
        have hrest := ih (by omega) hroom'
        refine ⟨rfl, ?_, ?_⟩
        · simp only [if_neg hlast]
          omega
        · simpa only [if_neg hlast] using hrest

theorem splitLayers_ok {totalLayers numNodes : Nat} {ranges : List (Nat × Nat)}
    (hsplit : splitLayers totalLayers numNodes = .ok ranges) :
    0 < numNodes ∧ numNodes ≤ totalLayers ∧
      ranges = splitLoop totalLayers (totalLayers / numNodes) numNodes 0 := by
  unfold splitLayers at hsplit
  split at hsplit
  · cases hsplit
  · next hle =>
      split at hsplit
      · cases hsplit
      · next hpos =>
          obtain rfl := Except.ok.inj hsplit
          exact ⟨Nat.pos_of_ne_zero hpos, Nat.not_lt.mp hle, rfl⟩

/-- Only an empty node list or one that is longer than the layer stack is
refused. -/
theorem splitLayers_of_le {totalLayers numNodes : Nat} (hpos : numNodes ≠ 0)
    (hle : numNodes ≤ totalLayers) :
    splitLayers totalLayers numNodes =
      .ok (splitLoop totalLayers (totalLayers / numNodes) numNodes 0) := by
  unfold splitLayers
  rw [if_neg (Nat.not_lt.mpr hle), if_neg hpos]

theorem splitLayers_tiles {totalLayers numNodes : Nat} {ranges : List (Nat × Nat)}
    (hsplit : splitLayers totalLayers numNodes = .ok ranges) :
    ranges.length = numNodes ∧ Tiles 0 totalLayers ranges := by
  obtain ⟨hpos, hle, rfl⟩ := splitLayers_ok hsplit
  refine ⟨splitLoop_length _ _ _ _, splitLoop_tiles ?_ hpos ?_⟩
  · exact Nat.div_pos hle hpos
  · rw [Nat.zero_add]
    exact Nat.div_mul_le_self totalLayers numNodes

/-- The successful runs of `plan_dispatch`. -/
theorem planDispatch_ok {manifest : ModelManifest} {registry : NodeRegistry}
    {plan : DispatchPlan} (hplan : planDispatch manifest registry = .ok plan) :
    ∃ ranges,
      splitLayers manifest.layers (registry.listNodes (some .available)).length =
        .ok ranges ∧
      plan = {
        assignments :=
          ((registry.listNodes (some .available)).zip ranges).zipIdx.map fun entry =>
            assignShard (registry.listNodes (some .available)) entry.2
              entry.1.1 entry.1.2
        arch := manifest.arch
        modelName := manifest.name
        checkpoint := manifest.checkpoint
        totalLayers := manifest.layers } := by
  unfold planDispatch at hplan
  simp only at hplan
  split at hplan
  · cases hplan
  · cases hsplit : splitLayers manifest.layers
        (registry.listNodes (some .available)).length with
    | error err =>
        rw [hsplit] at hplan
        cases hplan
    | ok ranges =>
        rw [hsplit] at hplan
        exact ⟨ranges, rfl, (Except.ok.inj hplan).symm⟩

/-- Linking the nodes from position `before.length` on to the ranges that tile
`[start, totalLayers)` gives a pipeline. -/
theorem assignShard_pipeline {totalLayers : Nat} (before after : List NodeInfo)
    {ranges : List (Nat × Nat)} {start : Nat}
    (hlength : after.length = ranges.length) (hnonempty : after ≠ [])
    (hstart : start = 0 ↔ before.length = 0)
    (htiles : Tiles start totalLayers ranges) :
    IsPipeline totalLayers start
      (((after.zip ranges).zipIdx before.length).map fun entry =>
        assignShard (before ++ after) entry.2 entry.1.1 entry.1.2) := by
  induction after generalizing before ranges start with
  | nil => exact absurd rfl hnonempty
  | cons node rest ih =>
      cases ranges with
      | nil => simp at hlength
      | cons range ranges =>
          obtain ⟨rfl, hnon, hrest⟩ := htiles
          cases rest with
          | nil =>
              cases ranges with
              | cons _ _ => simp at hlength
              | nil =>
                  have hend : range.2 = totalLayers := hrest
                  simp [IsPipeline, assignShard, hend, hstart]
                  omega
          | cons next rest =>
              have hsplit : before ++ node :: next :: rest =
                  (before ++ [node]) ++ next :: rest := by simp
              have hlength' : (next :: rest).length = ranges.length := by
                simpa using hlength
              have hstart' : range.2 = 0 ↔ (before ++ [node]).length = 0 := by
                simp only [List.length_append, List.length_singleton]
                omega
              have htail := ih (before ++ [node]) hlength' (by simp) hstart' hrest
              cases ranges with
              | nil => simp at hlength
              | cons second ranges =>
                  have hlt : range.2 < totalLayers := by
                    have hle := hrest.2.2.le
                    have hne := hrest.2.1
                    have heq := hrest.1
                    omega
                  simp only [List.length_append, List.length_cons, List.length_nil,
                    List.zip_cons_cons, List.zipIdx_cons, List.map_cons] at htail ⊢
                  rw [hsplit]
                  refine ⟨rfl, hnon, hlt, ?_, ?_, ?_, htail⟩
                  · simp [assignShard, hstart]
                  · simp [assignShard]
                  · simp [assignShard, ShardAssignment.address, nodeAddress]

/-- What an assignment copies from its node is read off the nodes in order. -/
theorem assignShard_map_node {β : Type*} (project : ShardAssignment → β)
    (read : NodeInfo → β) (nodes before after : List NodeInfo) {ranges : List (Nat × Nat)}
    (hlength : after.length = ranges.length)
    (hread : ∀ index node range, project (assignShard nodes index node range) = read node) :
    (((after.zip ranges).zipIdx before.length).map fun entry =>
        assignShard nodes entry.2 entry.1.1 entry.1.2).map project = after.map read := by
  rw [List.map_map]
  calc ((after.zip ranges).zipIdx before.length).map
        (project ∘ fun entry => assignShard nodes entry.2 entry.1.1 entry.1.2)
      = (((after.zip ranges).zipIdx before.length).map Prod.fst).map
          fun entry => read entry.1 := by
        rw [List.map_map]
        exact List.map_congr_left fun entry _ => hread entry.2 entry.1.1 entry.1.2
    _ = ((after.zip ranges).map Prod.fst).map read := by
        rw [List.zipIdx_map_fst, List.map_map]
        rfl
    _ = after.map read := by
        rw [List.map_fst_zip (Nat.le_of_eq hlength)]

theorem assignShard_ranges (nodes before after : List NodeInfo)
    {ranges : List (Nat × Nat)} (hlength : after.length = ranges.length) :
    (((after.zip ranges).zipIdx before.length).map fun entry =>
        assignShard nodes entry.2 entry.1.1 entry.1.2).map
          (fun shard => (shard.layerStart, shard.layerEnd)) = ranges := by
  rw [List.map_map]
  calc ((after.zip ranges).zipIdx before.length).map
        ((fun shard => (shard.layerStart, shard.layerEnd)) ∘ fun entry =>
          assignShard nodes entry.2 entry.1.1 entry.1.2)
      = (((after.zip ranges).zipIdx before.length).map Prod.fst).map Prod.snd := by
        rw [List.map_map]
        rfl
    _ = ranges := by
        rw [List.zipIdx_map_fst, List.map_snd_zip (Nat.le_of_eq hlength.symm)]

/-- A plan names every node once. -/
theorem planDispatch_nodup {manifest : ModelManifest} {registry : NodeRegistry}
    {plan : DispatchPlan} (hplan : planDispatch manifest registry = .ok plan) :
    (plan.assignments.map ShardAssignment.nodeId).Nodup := by
  obtain ⟨ranges, hsplit, rfl⟩ := planDispatch_ok hplan
  have hlength := (splitLayers_tiles hsplit).1.symm
  have hids := assignShard_map_node ShardAssignment.nodeId NodeInfo.nodeId
    (registry.listNodes (some .available)) [] (registry.listNodes (some .available)) hlength
    fun _ _ _ => rfl
  dsimp only
  rw [List.length_nil] at hids
  rw [hids]
  exact registry.listNodes_nodeId_nodup (some .available)

/-- Every plan `plan_dispatch` returns is a pipeline over the whole model. -/
theorem planDispatch_pipeline {manifest : ModelManifest} {registry : NodeRegistry}
    {plan : DispatchPlan} (hplan : planDispatch manifest registry = .ok plan) :
    IsPipeline plan.totalLayers 0 plan.assignments := by
  obtain ⟨ranges, hsplit, rfl⟩ := planDispatch_ok hplan
  obtain ⟨hlength, htiles⟩ := splitLayers_tiles hsplit
  obtain ⟨hpos, _, _⟩ := splitLayers_ok hsplit
  exact assignShard_pipeline [] _ hlength.symm (List.ne_nil_of_length_pos hpos)
    (by simp) htiles

theorem IsPipeline.ne_nil {totalLayers start : Nat} {shards : List ShardAssignment}
    (hpipeline : IsPipeline totalLayers start shards) : shards ≠ [] := by
  rintro rfl
  exact hpipeline

theorem IsPipeline.layerEnd_le {totalLayers start : Nat} {shards : List ShardAssignment}
    (hpipeline : IsPipeline totalLayers start shards) {shard : ShardAssignment}
    (hmem : shard ∈ shards) : shard.layerEnd ≤ totalLayers := by
  induction shards generalizing start with
  | nil => simp at hmem
  | cons first rest ih =>
      cases rest with
      | nil =>
          obtain rfl : shard = first := by simpa using hmem
          exact Nat.le_of_eq hpipeline.2.2.1
      | cons next rest =>
          obtain ⟨_, _, hend, _, _, _, hrest⟩ := hpipeline
          rcases List.mem_cons.mp hmem with rfl | hmem
          · exact Nat.le_of_lt hend
          · exact ih hrest hmem

/-- The shards of a pipeline tile the layers still to come. -/
theorem IsPipeline.tiles {totalLayers start : Nat} {shards : List ShardAssignment}
    (hpipeline : IsPipeline totalLayers start shards) :
    Tiles start totalLayers (shards.map fun shard => (shard.layerStart, shard.layerEnd)) := by
  induction shards generalizing start with
  | nil => exact hpipeline.elim
  | cons first rest ih =>
      cases rest with
      | nil =>
          obtain ⟨hstart, hlt, hend, _⟩ := hpipeline
          exact ⟨hstart, by simp only [hstart, hend, hlt], hend⟩
      | cons next rest =>
          obtain ⟨hstart, hlt, _, _, _, _, hrest⟩ := hpipeline
          exact ⟨hstart, by simp only [hstart, hlt], ih hrest⟩

/-- Every shard but the last forwards to the shard after it. -/
theorem IsPipeline.linked {totalLayers start : Nat} {shards : List ShardAssignment}
    (hpipeline : IsPipeline totalLayers start shards) {index : Nat}
    {shard next : ShardAssignment} (hget : shards[index]? = some shard)
    (hnext : shards[index + 1]? = some next) : shard.nextWorkerAddress = next.address := by
  induction shards generalizing start index with
  | nil => exact hpipeline.elim
  | cons first rest ih =>
      cases rest with
      | nil => simp at hnext
      | cons second rest =>
          obtain ⟨_, _, _, _, _, hlink, hrest⟩ := hpipeline
          cases index with
          | zero =>
              obtain rfl : first = shard := by simpa using hget
              obtain rfl : second = next := by simpa using hnext
              exact hlink
          | succ index => exact ih hrest hget hnext

/-- The last shard forwards to none. -/
theorem IsPipeline.closed {totalLayers start : Nat} {shards : List ShardAssignment}
    (hpipeline : IsPipeline totalLayers start shards) {shard : ShardAssignment}
    (hlast : shards.getLast? = some shard) : shard.nextWorkerAddress = "" := by
  induction shards generalizing start with
  | nil => exact hpipeline.elim
  | cons first rest ih =>
      cases rest with
      | nil =>
          obtain rfl : first = shard := by simpa using hlast
          exact hpipeline.2.2.2.2.2
      | cons second rest =>
          rw [List.getLast?_cons_cons] at hlast
          exact ih hpipeline.2.2.2.2.2.2 hlast

/-- The flags of every shard are determined by its layer range. -/
theorem IsPipeline.flags {totalLayers start : Nat} {shards : List ShardAssignment}
    (hpipeline : IsPipeline totalLayers start shards) {shard : ShardAssignment}
    (hmem : shard ∈ shards) :
    shard.isFirst = decide (shard.layerStart = 0) ∧
      shard.isLast = decide (shard.layerEnd = totalLayers) := by
  induction shards generalizing start with
  | nil => simp at hmem
  | cons first rest ih =>
      cases rest with
      | nil =>
          obtain rfl : shard = first := by simpa using hmem
          obtain ⟨hstart, _, hend, hfirst, hlast, _⟩ := hpipeline
          exact ⟨by rw [hfirst, hstart], by rw [hlast, hend, decide_eq_true rfl]⟩
      | cons next rest =>
          obtain ⟨hstart, _, hend, hfirst, hlast, _, hrest⟩ := hpipeline
          rcases List.mem_cons.mp hmem with rfl | hmem
          · exact ⟨by rw [hfirst, hstart],
              by rw [hlast, decide_eq_false (Nat.ne_of_lt hend)]⟩
          · exact ih hrest hmem

/-- A registry that has heard one heartbeat of each of these nodes. -/
def registryOf (nodes : List (String × String × Nat)) : NodeRegistry :=
  nodes.foldl
    (fun registry node => registry.updateNode 0
      ⟨node.1, node.2.1, 2048, 4096, 4, "aarch64", "Linux", "6.6", node.2.2⟩)
    (NodeRegistry.create .exact 2 3)

def fiveLayerManifest : ModelManifest :=
  ⟨"m", "mamba", "checkpoint", 5, 8, 16, "text", "tokenizer"⟩

def twoNodeRegistry : NodeRegistry :=
  registryOf [("a", "10.0.0.1", 50051), ("b", "10.0.0.2", 50051)]

def twoNodePlan : DispatchPlan where
  assignments := [
    ⟨"a", "10.0.0.1", 50051, 0, 2, true, false, "10.0.0.2:50051"⟩,
    ⟨"b", "10.0.0.2", 50051, 2, 5, false, true, ""⟩]
  arch := "mamba"
  modelName := "m"
  checkpoint := "checkpoint"
  totalLayers := 5

/-- The last node takes the remainder and closes the chain. -/
theorem twoNodePlan_planned :
    planDispatch fiveLayerManifest twoNodeRegistry = .ok twoNodePlan := by
  rfl

end PiSSM.Orchestrator
