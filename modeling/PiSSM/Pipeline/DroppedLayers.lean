import PiSSM.Pipeline.LoadedTensors

/-!
The layers a plan leaves out. The ranges of a plan end at the layer count of the
manifest, and a strict load compares the tensors sent for a range with the parameters of
that range only. A checkpoint with more layers than its manifest says passes on every
worker, and its other layers are loaded by none; so is a tensor whose name another one has
in the shard.
-/

namespace PiSSM.Pipeline

open PiSSM.Lib PiSSM.Inference PiSSM.Orchestrator

variable {τ : Type}

/-- Every worker of the plan loads its shard. -/
def LoadsShards (torch : StrictLoader τ) (fresh : String → τ) (blockParameters : List String)
    (fetchSourceFile : String → Except PyException (SafetensorsFile τ))
    (weightMap : Dict String String) (plan : DispatchPlan) : Prop :=
  ∀ shard ∈ plan.assignments, ∃ locations loaded fetched,
    shardLocations weightMap shard = .ok locations ∧
      fromTensorLocations torch fresh blockParameters shard.layerStart shard.layerEnd
        (shard.layerStart = 0) (shard.layerEnd = plan.totalLayers) fetchSourceFile locations =
      .ok (loaded, fetched)

/-- The shard that the worker loads for the assignment has the tensor of this name as one of
its parameters. -/
def loadsTensor (torch : StrictLoader (τ × Option String)) (fresh : String → τ)
    (blockParameters : List String)
    (fetchSourceFile : String → Except PyException (SafetensorsFile τ))
    (weightMap : Dict String String) (totalLayers : Nat) (sourceName : String)
    (shard : ShardAssignment) : Bool :=
  match shardLocations weightMap shard with
  | .error _ => false
  | .ok locations =>
      match loadTagged torch fresh blockParameters shard.layerStart shard.layerEnd
          (shard.layerStart = 0) (shard.layerEnd = totalLayers) fetchSourceFile locations with
      | .error _ => false
      | .ok (loaded, _) => loaded.stateDict.any fun parameter => parameter.2.2 = some sourceName

/-- Whatever the weight map, the locations between those of the ends are those of the
layers in the range, and the ends are no layer tensors and have other names. -/
theorem tensorLocationsForRange_layers {weightMap : Dict String String}
    {layerStart layerEnd : Nat} {isFirst isLast : Bool} {locations : List TensorLocationSpec}
    (hok : tensorLocationsForRange weightMap layerStart layerEnd isFirst isLast =
      .ok locations) :
    ∃ first last, locations =
        first ++ weightMap.items.filterMap (layerLocation layerStart layerEnd) ++ last ∧
      ∀ location ∈ first ++ last, matchLayerName location.sourceName = none ∧
        location.destName.toList.take 7 ≠ "layers.".toList := by
  have hhead : matchLayerName (if weightMap.contains lmHeadName then lmHeadName
      else embeddingName) = none := by
    split
    · exact matchLayerName_lmHeadName
    · exact matchLayerName_embeddingName
  unfold tensorLocationsForRange at hok
  cases isFirst <;> cases isLast <;>
    simp only [bind, Except.bind, pure, Except.pure, if_true, if_false, Bool.false_eq_true,
      List.nil_append] at hok
  case false.false =>
    obtain rfl := Except.ok.inj hok
    exact ⟨[], [], by simp, by simp⟩
  case false.true =>
    split at hok
    · cases hok
    · next normFile _ =>
        split at hok
        · cases hok
        · next headFile _ =>
            obtain rfl := Except.ok.inj hok
            refine ⟨[], [⟨"norm_f.weight", normName, normFile⟩,
              ⟨"lm_head.weight", if weightMap.contains lmHeadName then lmHeadName
                else embeddingName, headFile⟩], by simp, ?_⟩
            simp [matchLayerName_normName, hhead]
  case true.false =>
    split at hok
    · cases hok
    · next embeddingFile _ =>
        obtain rfl := Except.ok.inj hok
        refine ⟨[⟨"embeddings.weight", embeddingName, embeddingFile⟩], [], by simp, ?_⟩
        simp [matchLayerName_embeddingName]
  case true.true =>
    split at hok
    · cases hok
    · next embeddingFile _ =>
        split at hok
        · cases hok
        · next normFile _ =>
            split at hok
            · cases hok
            · next headFile _ =>
                obtain rfl := Except.ok.inj hok
                refine ⟨[⟨"embeddings.weight", embeddingName, embeddingFile⟩],
                  [⟨"norm_f.weight", normName, normFile⟩,
                    ⟨"lm_head.weight", if weightMap.contains lmHeadName then lmHeadName
                      else embeddingName, headFile⟩], by simp, ?_⟩
                simp [matchLayerName_embeddingName, matchLayerName_normName, hhead]

/-- The locations of layer tensors are those that the loop over the weight map makes. -/
theorem mem_locations_of_match {weightMap : Dict String String} {shard : ShardAssignment}
    {locations : List TensorLocationSpec} {suffix : String} {layerIdx : Nat}
    {location : TensorLocationSpec}
    (hok : shardLocations weightMap shard = .ok locations)
    (hmatch : matchLayerName location.sourceName = some (layerIdx, suffix)) :
    location ∈ locations ↔ (shard.layerStart ≤ layerIdx ∧ layerIdx < shard.layerEnd) ∧
      location.destName = layerDest (layerIdx - shard.layerStart) suffix ∧
      weightMap.get? location.sourceName = some location.sourceFile := by
  obtain ⟨first, last, rfl, hends⟩ := tensorLocationsForRange_layers hok
  have hlayer : location ∈ first ++ weightMap.items.filterMap
        (layerLocation shard.layerStart shard.layerEnd) ++ last ↔
      location ∈ weightMap.items.filterMap (layerLocation shard.layerStart shard.layerEnd) := by
    have hnot : location ∉ first ++ last := by
      intro hmem
      rw [(hends location hmem).1] at hmatch
      cases hmatch
    rw [List.mem_append, not_or] at hnot
    rw [List.mem_append, List.mem_append]
    simp [hnot.1, hnot.2]
  rw [hlayer, List.mem_filterMap]
  constructor
  · rintro ⟨⟨name, file⟩, hitem, hsome⟩
    unfold layerLocation at hsome
    split at hsome
    · cases hsome
    · next idx found hname =>
        split at hsome
        · next hrange =>
            obtain rfl := Option.some.inj hsome
            obtain ⟨rfl, rfl⟩ := Prod.mk.inj (Option.some.inj (hmatch.symm.trans hname))
            exact ⟨hrange, rfl, (weightMap.mem_items_iff name file).mp hitem⟩
        · cases hsome
  · rintro ⟨hrange, hdest, hfile⟩
    refine ⟨(location.sourceName, location.sourceFile),
      (weightMap.mem_items_iff _ _).mpr hfile, ?_⟩
    simp only [layerLocation, hmatch, if_pos hrange, ← hdest]

/-- Other tensors do not get the name of a layer's parameter. -/
theorem destName_of_no_match {weightMap : Dict String String} {shard : ShardAssignment}
    {locations : List TensorLocationSpec} {location : TensorLocationSpec}
    (hok : shardLocations weightMap shard = .ok locations) (hmem : location ∈ locations)
    (hnone : matchLayerName location.sourceName = none) (localIdx : Nat) (suffix : String) :
    location.destName ≠ layerDest localIdx suffix := by
  obtain ⟨first, last, rfl, hends⟩ := tensorLocationsForRange_layers hok
  rw [List.append_assoc, List.mem_append, List.mem_append] at hmem
  rcases hmem with hfirst | hlayer | hlast
  · exact (layerDest_ne _ _ (hends location (List.mem_append_left _ hfirst)).2).symm
  · obtain ⟨⟨name, file⟩, _, hsome⟩ := List.mem_filterMap.mp hlayer
    unfold layerLocation at hsome
    split at hsome
    · cases hsome
    · next hname =>
        split at hsome
        · obtain rfl := Option.some.inj hsome
          cases hnone.symm.trans hname
        · cases hsome
  · exact (layerDest_ne _ _ (hends location (List.mem_append_right _ hlast)).2).symm

/-- A layer tensor is sent to a shard exactly when its layer is in the range, whatever
else the weight map has. -/
theorem sendsTensor_of_match {weightMap : Dict String String} {shard : ShardAssignment}
    {locations : List TensorLocationSpec} {name suffix : String} {layerIdx : Nat}
    (hok : shardLocations weightMap shard = .ok locations)
    (hname : (weightMap.get? name).isSome)
    (hmatch : matchLayerName name = some (layerIdx, suffix)) :
    sendsTensor weightMap name shard =
      decide (shard.layerStart ≤ layerIdx ∧ layerIdx < shard.layerEnd) := by
  rw [sendsTensor, hok, Bool.eq_iff_iff]
  simp only [List.any_eq_true, decide_eq_true_eq]
  constructor
  · rintro ⟨location, hmem, rfl⟩
    exact ((mem_locations_of_match hok hmatch).mp hmem).1
  · intro hrange
    obtain ⟨file, hfile⟩ := Option.isSome_iff_exists.mp hname
    exact ⟨⟨layerDest (layerIdx - shard.layerStart) suffix, name, file⟩,
      (mem_locations_of_match hok hmatch).mpr ⟨hrange, rfl, hfile⟩, rfl⟩

section Loads

variable {torch : StrictLoader (τ × Option String)} {fresh : String → τ}
  {blockParameters : List String}
  {fetchSourceFile : String → Except PyException (SafetensorsFile τ)}
  {weightMap : Dict String String} {totalLayers : Nat} {shard : ShardAssignment}

/-- A tensor is loaded by a shard under the name that its location has. -/
theorem loadsTensor_iff {name : String} :
    loadsTensor torch fresh blockParameters fetchSourceFile weightMap totalLayers name shard =
        true ↔
      ∃ locations loaded fetched dest tensor,
        shardLocations weightMap shard = .ok locations ∧
        loadTagged torch fresh blockParameters shard.layerStart shard.layerEnd
          (shard.layerStart = 0) (shard.layerEnd = totalLayers) fetchSourceFile locations =
            .ok (loaded, fetched) ∧
        (dest, (tensor, some name)) ∈ loaded.stateDict := by
  unfold loadsTensor
  cases hlocations : shardLocations weightMap shard with
  | error err => simp
  | ok locations =>
      cases hload : loadTagged torch fresh blockParameters shard.layerStart shard.layerEnd
          (shard.layerStart = 0) (shard.layerEnd = totalLayers) fetchSourceFile locations with
      | error err => simp [hload]
      | ok load =>
          obtain ⟨loaded, fetched⟩ := load
          simp [hload]

/-- What is loaded for a name is from a location that was sent. -/
theorem location_of_loaded {locations : List TensorLocationSpec}
    {loaded : ShardParameters (τ × Option String)} {fetched : List String}
    (hload : loadTagged torch fresh blockParameters shard.layerStart shard.layerEnd
      (shard.layerStart = 0) (shard.layerEnd = totalLayers) fetchSourceFile locations =
        .ok (loaded, fetched)) {dest name : String} {tensor : τ}
    (hparameter : (dest, (tensor, some name)) ∈ loaded.stateDict) :
    ∃ location ∈ locations, location.destName = dest ∧ location.sourceName = name := by
  obtain ⟨value, hread, hsources, _⟩ := values_of_load hload
  obtain ⟨location, hlocation, hdest, hvalue⟩ := hsources _ _ hparameter
  obtain ⟨file, hfile, htensor⟩ := hread location hlocation
  have htag := taggedFiles_tag hfile htensor
  rw [hvalue] at htag
  exact ⟨location, hlocation, hdest, (Option.some.inj htag).symm⟩

theorem sendsTensor_of_loads {name : String}
    (hloads : loadsTensor torch fresh blockParameters fetchSourceFile weightMap totalLayers name
      shard = true) : sendsTensor weightMap name shard = true := by
  obtain ⟨locations, loaded, fetched, dest, tensor, hok, hload, hparameter⟩ :=
    loadsTensor_iff.mp hloads
  obtain ⟨location, hlocation, _, hname⟩ := location_of_loaded hload hparameter
  rw [sendsTensor, hok]
  exact List.any_eq_true.mpr ⟨location, hlocation, decide_eq_true hname⟩

/-- Two layer tensors with the same name in a shard are not both loaded by it. -/
theorem loadsTensor_unique {name name' suffix : String} {layerIdx : Nat}
    (hloads : loadsTensor torch fresh blockParameters fetchSourceFile weightMap totalLayers name
      shard = true)
    (hloads' : loadsTensor torch fresh blockParameters fetchSourceFile weightMap totalLayers name'
      shard = true)
    (hmatch : matchLayerName name = some (layerIdx, suffix))
    (hmatch' : matchLayerName name' = some (layerIdx, suffix)) : name = name' := by
  obtain ⟨locations, loaded, fetched, dest, tensor, hok, hload, hparameter⟩ :=
    loadsTensor_iff.mp hloads
  obtain ⟨locations', loaded', fetched', dest', tensor', hok', hload', hparameter'⟩ :=
    loadsTensor_iff.mp hloads'
  obtain rfl := Except.ok.inj (hok.symm.trans hok')
  obtain ⟨rfl, rfl⟩ := Prod.mk.inj (Except.ok.inj (hload.symm.trans hload'))
  obtain ⟨location, hlocation, rfl, rfl⟩ := location_of_loaded hload hparameter
  obtain ⟨location', hlocation', rfl, rfl⟩ := location_of_loaded hload' hparameter'
  have hdest := ((mem_locations_of_match hok hmatch).mp hlocation).2.1
  have hdest' := ((mem_locations_of_match hok hmatch').mp hlocation').2.1
  rw [hdest] at hparameter
  rw [hdest'] at hparameter'
  have htag := congrArg Prod.snd (stateDict_unique hload hparameter hparameter')
  exact Option.some.inj htag

/-- A layer tensor of the range is loaded when no other has its layer and suffix. -/
theorem loadsTensor_of_alone {locations : List TensorLocationSpec}
    {loaded : ShardParameters (τ × Option String)} {fetched : List String}
    {name suffix : String} {layerIdx : Nat}
    (hok : shardLocations weightMap shard = .ok locations)
    (hload : loadTagged torch fresh blockParameters shard.layerStart shard.layerEnd
      (shard.layerStart = 0) (shard.layerEnd = totalLayers) fetchSourceFile locations =
        .ok (loaded, fetched))
    (hname : (weightMap.get? name).isSome)
    (hmatch : matchLayerName name = some (layerIdx, suffix))
    (hrange : shard.layerStart ≤ layerIdx ∧ layerIdx < shard.layerEnd)
    (halone : ∀ other, (weightMap.get? other).isSome →
      matchLayerName other = some (layerIdx, suffix) → other = name) :
    loadsTensor torch fresh blockParameters fetchSourceFile weightMap totalLayers name shard =
      true := by
  obtain ⟨file, hfile⟩ := Option.isSome_iff_exists.mp hname
  obtain ⟨value, hread, _, hvalues⟩ := values_of_load hload
  let location : TensorLocationSpec :=
    ⟨layerDest (layerIdx - shard.layerStart) suffix, name, file⟩
  have hlocation : location ∈ locations :=
    (mem_locations_of_match hok hmatch).mpr ⟨hrange, rfl, hfile⟩
  have hown : ∀ other ∈ locations, other.destName = location.destName → other = location := by
    intro other hother hdest
    cases hmatchOther : matchLayerName other.sourceName with
    | none => exact absurd hdest (destName_of_no_match hok hother hmatchOther _ _)
    | some found =>
        obtain ⟨idx, otherSuffix⟩ := found
        obtain ⟨hotherRange, hotherDest, hotherFile⟩ :=
          (mem_locations_of_match hok hmatchOther).mp hother
        obtain ⟨hidx, rfl⟩ := layerDest_inj (hotherDest.symm.trans hdest)
        obtain rfl : idx = layerIdx := by omega
        have hsource : other.sourceName = name :=
          halone _ (Option.isSome_of_eq_some hotherFile) hmatchOther
        rw [hsource] at hotherFile
        have hsourceFile : other.sourceFile = file :=
          Option.some.inj (hotherFile.symm.trans hfile)
        obtain ⟨otherDest, otherName, otherSource⟩ := other
        subst hsource hsourceFile
        rw [TensorLocationSpec.mk.injEq]
        exact ⟨hdest, rfl, rfl⟩
  obtain ⟨contents, hcontents, htensor⟩ := hread location hlocation
  have htag := taggedFiles_tag hcontents htensor
  refine loadsTensor_iff.mpr ⟨locations, loaded, fetched, location.destName,
    (value location).1, hok, hload, ?_⟩
  have hparameter := hvalues location hlocation hown
  have hpair : value location = ((value location).1, some location.sourceName) :=
    Prod.ext rfl htag
  rw [hpair] at hparameter
  exact hparameter

end Loads

/-- A worker that loads its shard also does with tagged tensors. -/
theorem LoadsShards.tagged {plan : DispatchPlan} {torch : StrictLoader τ}
    (torch' : StrictLoader (τ × Option String)) {fresh : String → τ} {blockParameters : List String}
    {fetchSourceFile : String → Except PyException (SafetensorsFile τ)}
    {weightMap : Dict String String}
    (hloads : LoadsShards torch fresh blockParameters fetchSourceFile weightMap plan)
    {shard : ShardAssignment} (hshard : shard ∈ plan.assignments) :
    ∃ locations loaded fetched, shardLocations weightMap shard = .ok locations ∧
      loadTagged torch' fresh blockParameters shard.layerStart shard.layerEnd (shard.layerStart = 0)
        (shard.layerEnd = plan.totalLayers) fetchSourceFile locations =
          .ok (loaded, fetched) := by
  obtain ⟨locations, loaded, fetched, hok, hload⟩ := hloads shard hshard
  have htags := loadTagged_fst torch torch' fresh blockParameters shard.layerStart
    shard.layerEnd (shard.layerStart = 0) (shard.layerEnd = plan.totalLayers) fetchSourceFile
    locations
  rw [hload] at htags
  cases htagged : loadTagged torch' fresh blockParameters shard.layerStart shard.layerEnd
      (shard.layerStart = 0) (shard.layerEnd = plan.totalLayers) fetchSourceFile locations with
  | error err =>
      rw [htagged] at htags
      cases htags
  | ok load => exact ⟨locations, load.1, load.2, hok, htagged⟩

/-- When all workers have loaded their shards, every layer tensor of the weight map is in
exactly one of the loaded shards if and only if the manifest counts all of its layers and
no two names are of the same layer and suffix. -/
theorem layers_loaded {manifest : ModelManifest} {registry : NodeRegistry}
    {plan : DispatchPlan} (hplan : planDispatch manifest registry = .ok plan)
    {torch : ∀ τ : Type, StrictLoader τ} {fresh : String → τ} {blockParameters : List String}
    {fetchSourceFile : String → Except PyException (SafetensorsFile τ)}
    {weightMap : Dict String String}
    (hloads : LoadsShards (torch _) fresh blockParameters fetchSourceFile weightMap plan) :
    (∀ name layerIdx suffix, (weightMap.get? name).isSome →
      matchLayerName name = some (layerIdx, suffix) →
        plan.assignments.countP (loadsTensor (torch _) fresh blockParameters fetchSourceFile
          weightMap plan.totalLayers name) = 1) ↔
    ∀ name layerIdx suffix, (weightMap.get? name).isSome →
      matchLayerName name = some (layerIdx, suffix) → layerIdx < manifest.layers ∧
        ∀ other, (weightMap.get? other).isSome →
          matchLayerName other = some (layerIdx, suffix) → other = name := by
  have hpipeline := planDispatch_pipeline hplan
  have htotal : plan.totalLayers = manifest.layers := by
    obtain ⟨_, _, rfl⟩ := planDispatch_ok hplan
    rfl
  have hrange {name suffix : String} {layerIdx : Nat} {shard : ShardAssignment}
      (hshard : shard ∈ plan.assignments) (hname : (weightMap.get? name).isSome)
      (hmatch : matchLayerName name = some (layerIdx, suffix))
      (hholds : loadsTensor (torch _) fresh blockParameters fetchSourceFile weightMap
        plan.totalLayers name shard = true) :
      shard.layerStart ≤ layerIdx ∧ layerIdx < shard.layerEnd := by
    obtain ⟨locations, _, _, hok, _⟩ := hloads shard hshard
    have hsends := sendsTensor_of_loads hholds
    rw [sendsTensor_of_match hok hname hmatch] at hsends
    exact of_decide_eq_true hsends
  have hcovers {layerIdx : Nat} (hlayer : layerIdx < manifest.layers) :
      plan.assignments.countP (fun shard =>
        shard.layerStart ≤ layerIdx ∧ layerIdx < shard.layerEnd) = 1 := by
    have hcount := hpipeline.tiles.countP_eq_one (Nat.zero_le layerIdx) (htotal ▸ hlayer)
    rw [List.countP_map] at hcount
    exact hcount
  constructor
  · intro hall name layerIdx suffix hname hmatch
    have hone := hall name layerIdx suffix hname hmatch
    obtain ⟨shard, hshard, hholds⟩ :=
      List.countP_pos_iff.mp (Nat.lt_of_lt_of_eq Nat.zero_lt_one hone.symm)
    have hin := hrange hshard hname hmatch hholds
    have hlayer : layerIdx < manifest.layers :=
      htotal ▸ Nat.lt_of_lt_of_le hin.2 (hpipeline.layerEnd_le hshard)
    refine ⟨hlayer, ?_⟩
    intro other hother hmatchOther
    have honeOther := hall other layerIdx suffix hother hmatchOther
    obtain ⟨shard', hshard', hholds'⟩ :=
      List.countP_pos_iff.mp (Nat.lt_of_lt_of_eq Nat.zero_lt_one honeOther.symm)
    have hin' := hrange hshard' hother hmatchOther hholds'
    obtain rfl := eq_of_countP_eq_one (hcovers hlayer) hshard hshard' (decide_eq_true hin)
      (decide_eq_true hin')
    exact loadsTensor_unique hholds' hholds hmatchOther hmatch
  · intro hbound name layerIdx suffix hname hmatch
    obtain ⟨hlayer, halone⟩ := hbound name layerIdx suffix hname hmatch
    rw [← hcovers hlayer]
    apply List.countP_congr
    intro shard hshard
    obtain ⟨locations, loaded, fetched, hok, hload⟩ := hloads.tagged (torch _) hshard
    constructor
    · intro hholds
      exact decide_eq_true (hrange hshard hname hmatch hholds)
    · intro hin
      exact loadsTensor_of_alone hok hload hname hmatch (of_decide_eq_true hin) halone

/-- A manifest that counts no more layers than the checkpoint has lets every worker load
its shard. -/
theorem loadsShards_of_le (torch : StrictLoader τ) (checkpoint : StoredCheckpoint τ)
    (fresh : String → τ)
    {manifest : ModelManifest} {registry : NodeRegistry} {plan : DispatchPlan}
    (hplan : planDispatch manifest registry = .ok plan)
    (hle : plan.totalLayers ≤ checkpoint.layers) :
    LoadsShards torch fresh checkpoint.blockParameters checkpoint.fetchSourceFile
      checkpoint.weightMap plan := by
  have hpipeline := planDispatch_pipeline hplan
  obtain ⟨tensor, htensor⟩ := exists_tensors checkpoint
  intro shard hshard
  obtain ⟨hfirst, hlast⟩ := hpipeline.flags hshard
  have hend : shard.layerEnd ≤ checkpoint.layers := (hpipeline.layerEnd_le hshard).trans hle
  obtain ⟨locations, hok, _⟩ := tensorLocations_names checkpoint.toMambaCheckpoint
    shard.layerStart hend shard.isFirst shard.isLast
  have hload := fromTensorLocations_stored torch fresh htensor hend hok
  rw [hfirst, hlast] at hload
  exact ⟨locations, _, _, hok, hload⟩

/-- Two layers of a checkpoint of five. -/
def twoLayerManifest : ModelManifest := { fiveLayerManifest with layers := 2 }

/-- The layer tensors of a checkpoint of the architecture are named in canonical decimal, so
that no two of them are of one layer and suffix. -/
theorem layerName_of_match {checkpoint : MambaCheckpoint} {name suffix : String} {layerIdx : Nat}
    (hname : (checkpoint.weightMap.get? name).isSome)
    (hmatch : matchLayerName name = some (layerIdx, suffix)) :
    layerIdx < checkpoint.layers ∧ name = layerName layerIdx suffix := by
  rcases (checkpoint.names name).mp hname with rfl | rfl | ⟨_, rfl⟩ |
    ⟨index, hindex, parameter, hparameter, rfl⟩
  · rw [matchLayerName_embeddingName] at hmatch
    cases hmatch
  · rw [matchLayerName_normName] at hmatch
    cases hmatch
  · rw [matchLayerName_lmHeadName] at hmatch
    cases hmatch
  · rw [matchLayerName_layerName index
      (checkpoint.blockParameters_name parameter hparameter)] at hmatch
    obtain ⟨rfl, rfl⟩ := Prod.mk.inj (Option.some.inj hmatch)
    exact ⟨hindex, rfl⟩

/-- Five layers that the manifest counts, on two workers. -/
theorem layers_loaded_two :
    twoNodePlan.assignments.countP
      (loadsTensor strictLoader id fiveLayerCheckpoint.blockParameters
        fiveLayerFiles.fetchSourceFile fiveLayerCheckpoint.weightMap twoNodePlan.totalLayers
        (layerName 4 "norm.weight")) = 1 := by
  have hloads := loadsShards_of_le strictLoader fiveLayerFiles id twoNodePlan_planned
    (Nat.le_refl 5)
  have hname : (fiveLayerCheckpoint.weightMap.get? (layerName 4 "norm.weight")).isSome := by
    decide
  refine (layers_loaded twoNodePlan_planned hloads).mpr ?_ _ 4 "norm.weight" hname (by decide)
  intro name layerIdx suffix hname hmatch
  obtain ⟨hlayer, rfl⟩ := layerName_of_match hname hmatch
  refine ⟨hlayer, ?_⟩
  intro other hother hmatchOther
  exact (layerName_of_match hother hmatchOther).2

/-- A manifest of two layers for a checkpoint of five: both workers load their shards,
and the tensors of the last layer are loaded by none. -/
theorem layers_loaded_counterexample :
    ∃ plan, planDispatch twoLayerManifest twoNodeRegistry = .ok plan ∧
      LoadsShards strictLoader id fiveLayerCheckpoint.blockParameters fiveLayerFiles.fetchSourceFile
        fiveLayerCheckpoint.weightMap plan ∧
      (fiveLayerCheckpoint.weightMap.get? (layerName 4 "norm.weight")).isSome ∧
      matchLayerName (layerName 4 "norm.weight") = some (4, "norm.weight") ∧
      plan.assignments.countP
        (loadsTensor strictLoader id fiveLayerCheckpoint.blockParameters
          fiveLayerFiles.fetchSourceFile fiveLayerCheckpoint.weightMap plan.totalLayers
          (layerName 4 "norm.weight")) = 0 := by
  have hplan : planDispatch twoLayerManifest twoNodeRegistry = .ok _ := rfl
  refine ⟨_, hplan, loadsShards_of_le strictLoader fiveLayerFiles id hplan (by decide),
    by decide, by decide, ?_⟩
  rw [List.countP_eq_zero]
  intro shard hshard hholds
  have hsends := sendsTensor_of_loads hholds
  revert shard
  decide

end PiSSM.Pipeline
