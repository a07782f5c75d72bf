import PiSSM.Pipeline.ShardWeights

/-!
Where the parameters of a loaded shard come from. The loader moves tensors without looking
at them, so that it can be run on tensors that carry the names they are read by: a load of
these is the load itself with a name beside every parameter.
-/

namespace PiSSM.Pipeline

open PiSSM.Lib PiSSM.Inference PiSSM.Inference.ShardParameters

section Values

variable {τ : Type} {blockParameters : List String} {size : Nat} {isFirst isLast : Bool}

/-- A shard whose parameters have these values under their names. -/
def shardWith (blockParameters : List String) (size : Nat) (isFirst isLast : Bool)
    (value : String → τ) : ShardParameters τ :=
  shardOf blockParameters size isFirst isLast (value "embeddings.weight")
    (fun localIdx parameter => value (layerDest localIdx parameter)) (value "norm_f.weight")
    (value "lm_head.weight")

theorem stateDict_shardWith (value : String → τ) :
    (shardWith blockParameters size isFirst isLast value).stateDict =
      (parameterNames blockParameters 0 size isFirst isLast).map fun name =>
        (name, value name) := by
  rw [shardWith, stateDict_shardOf, parameterNames, List.map_append, List.map_append,
    List.map_flatMap]
  congr 1
  · congr 1
    · cases isFirst <;> rfl
    · simp only [List.map_map, Nat.sub_zero]
      rfl
  · cases isLast <;> rfl

theorem assign_shardWith (value : String → τ) (values : Dict String τ) :
    (shardWith blockParameters size isFirst isLast value).assign values =
      shardWith blockParameters size isFirst isLast fun name =>
        (values.get? name).getD (value name) := by
  unfold shardWith assign shardOf
  rw [zipIdx_map_range]
  cases isFirst <;> cases isLast <;> simp [Function.comp_def]

theorem stateDict_shardWith_names (value : String → τ) :
    (shardWith blockParameters size isFirst isLast value).stateDict.map Prod.fst =
      parameterNames blockParameters 0 size isFirst isLast := by
  rw [stateDict_shardWith, List.map_map]
  exact List.map_id _

/-- What a strict load gives, by the names of the parameters. -/
theorem loadStateDict_shardWith (torch : StrictLoader τ) (value : String → τ)
    (values : Dict String τ) :
    (torch.loadStateDict (shardWith blockParameters size isFirst isLast value)
        values).toOption =
      if strictMismatch (parameterNames blockParameters 0 size isFirst isLast) values.keys =
          ([], []) then
        some (shardWith blockParameters size isFirst isLast fun name =>
          (values.get? name).getD (value name))
      else none := by
  rw [← stateDict_shardWith_names value]
  split_ifs with hsame
  · rw [torch.loads _ _ hsame, assign_shardWith]
    rfl
  · obtain ⟨err, herror⟩ := torch.refuses _ _ hsame
    rw [herror]
    rfl

theorem strictMismatch_iff {parameters keys : List String} :
    strictMismatch parameters keys = ([], []) ↔ ∀ name, name ∈ keys ↔ name ∈ parameters := by
  constructor
  · intro hstrict name
    obtain ⟨hmissing, hunexpected⟩ := Prod.mk.inj hstrict
    rw [List.filter_eq_nil_iff] at hmissing hunexpected
    constructor
    · intro hkey
      simpa using hunexpected name hkey
    · intro hparameter
      simpa using hmissing name hparameter
  · exact strictMismatch_eq_nil

/-- The parameters after a strict load are what the dictionary has. -/
theorem mem_stateDict_shardWith {value : String → τ} {values : Dict String τ}
    (hsame : strictMismatch (parameterNames blockParameters 0 size isFirst isLast) values.keys =
      ([], [])) {name : String} {tensor : τ} :
    (name, tensor) ∈ (shardWith blockParameters size isFirst isLast fun name =>
        (values.get? name).getD (value name)).stateDict ↔ values.get? name = some tensor := by
  rw [strictMismatch_iff] at hsame
  rw [stateDict_shardWith, List.mem_map]
  constructor
  · rintro ⟨found, hparameter, heq⟩
    obtain ⟨rfl, rfl⟩ := Prod.mk.inj heq
    obtain ⟨tensor, htensor⟩ := Option.isSome_iff_exists.mp
      ((values.isSome_get?_iff found).mpr ((hsame found).mpr hparameter))
    rw [htensor, Option.getD_some]
  · intro htensor
    have hkey : name ∈ values.keys :=
      (values.isSome_get?_iff name).mp (Option.isSome_of_eq_some htensor)
    exact ⟨name, (hsame name).mp hkey, by rw [htensor, Option.getD_some]⟩

/-- The load of a shard in terms of the names of its parameters. -/
theorem fromTensorLocations_eq (torch : StrictLoader τ) (fresh : String → τ)
    (blockParameters : List String) (layerStart layerEnd : Nat) (isFirst isLast : Bool)
    (fetchSourceFile : String → Except PyException (SafetensorsFile τ))
    (locations : List TensorLocationSpec) :
    fromTensorLocations torch fresh blockParameters layerStart layerEnd isFirst isLast
        fetchSourceFile locations = (do
      let (values, fetched) ← readFiles fetchSourceFile (locationsByFile locations).items
      let loaded ← torch.loadStateDict
        (shardWith blockParameters (layerEnd - layerStart) isFirst isLast fresh) values
      return (loaded, fetched)) := by
  have hcreate := @create_shardOf τ blockParameters (layerEnd - layerStart) isFirst isLast
    (fresh "embeddings.weight") (fresh "norm_f.weight") (fresh "lm_head.weight")
    fun localIdx parameter => fresh (layerDest localIdx parameter)
  unfold fromTensorLocations
  simp only [hcreate]
  rfl

end Values

section Map

variable {ω τ : Type} (f : ω → τ)

/-- The shard with other tensors in place of its own. -/
def mapShard (shard : ShardParameters ω) : ShardParameters τ where
  embeddings := shard.embeddings.map f
  layers := shard.layers.map fun layer => layer.map fun parameter => (parameter.1, f parameter.2)
  normF := shard.normF.map f
  lmHead := shard.lmHead.map f
  isFirst := shard.isFirst
  isLast := shard.isLast

/-- The files with other tensors in them. -/
def mapFiles (fetchSourceFile : String → Except PyException (SafetensorsFile ω)) :
    String → Except PyException (SafetensorsFile τ) :=
  fun filename => (fetchSourceFile filename).map fun file name => (file name).map f

theorem mapShard_shardWith {blockParameters : List String} {size : Nat} {isFirst isLast : Bool}
    (value : String → ω) :
    mapShard f (shardWith blockParameters size isFirst isLast value) =
      shardWith blockParameters size isFirst isLast fun name => f (value name) := by
  unfold mapShard shardWith shardOf
  cases isFirst <;> cases isLast <;> simp [Function.comp_def]

theorem mapShard_loadStateDict (torch : StrictLoader ω) (torch' : StrictLoader τ)
    {blockParameters : List String} {size : Nat} {isFirst isLast : Bool} (value : String → ω)
    (values : Dict String ω) :
    (torch'.loadStateDict
        (shardWith blockParameters size isFirst isLast fun name => f (value name))
        (values.map f)).toOption =
      (torch.loadStateDict (shardWith blockParameters size isFirst isLast value)
        values).toOption.map (mapShard f) := by
  have hkeys : (values.map f).keys = values.keys := by
    rw [Dict.keys, Dict.keys, Dict.map, List.map_map]
    rfl
  simp only [loadStateDict_shardWith, hkeys, Dict.get?_map, Option.getD_map]
  split
  · simp only [Option.map_some, mapShard_shardWith]
  · rfl

theorem readLocations_map (file : SafetensorsFile ω) (values : Dict String ω)
    (locations : List TensorLocationSpec) :
    readLocations (fun name => (file name).map f) (values.map f) locations =
      (readLocations file values locations).map (Dict.map f) := by
  apply foldlM_map
  intro values location _
  cases hread : file location.sourceName with
  | error err =>
      simp only [hread]
      rfl
  | ok tensor =>
      simp only [hread]
      exact congrArg Except.ok (Dict.map_set f values _ tensor).symm

theorem readFiles_map (fetchSourceFile : String → Except PyException (SafetensorsFile ω))
    (groups : List (String × List TensorLocationSpec)) :
    readFiles (mapFiles f fetchSourceFile) groups =
      (readFiles fetchSourceFile groups).map fun read => (read.1.map f, read.2) := by
  refine @foldlM_map _ _ _ _ (fun read : Dict String ω × List String =>
    (read.1.map f, read.2)) _ _ groups (Dict.empty, []) ?_
  rintro ⟨values, fetched⟩ group _
  cases hfetch : fetchSourceFile group.1 with
  | error err =>
      simp only [mapFiles, hfetch]
      rfl
  | ok file =>
      simp only [mapFiles, hfetch]
      change (readLocations (fun name => (file name).map f) (values.map f) group.2 >>= _) = _
      rw [readLocations_map]
      change _ = Except.map _ (readLocations file values group.2 >>= _)
      cases readLocations file values group.2 <;> rfl

/-- What a load gives is the same whatever its tensors are. -/
theorem fromTensorLocations_map (torch : StrictLoader ω) (torch' : StrictLoader τ)
    (fresh : String → ω) (blockParameters : List String) (layerStart layerEnd : Nat)
    (isFirst isLast : Bool)
    (fetchSourceFile : String → Except PyException (SafetensorsFile ω))
    (locations : List TensorLocationSpec) :
    (fromTensorLocations torch' (fun name => f (fresh name)) blockParameters layerStart layerEnd
        isFirst isLast (mapFiles f fetchSourceFile) locations).toOption =
      (fromTensorLocations torch fresh blockParameters layerStart layerEnd isFirst isLast
        fetchSourceFile locations).toOption.map fun load => (mapShard f load.1, load.2) := by
  rw [fromTensorLocations_eq, fromTensorLocations_eq, readFiles_map]
  cases readFiles fetchSourceFile (locationsByFile locations).items with
  | error err => rfl
  | ok read =>
      have hload := @mapShard_loadStateDict _ _ f torch torch' blockParameters
        (layerEnd - layerStart) isFirst isLast fresh read.1
      change (torch'.loadStateDict (shardWith blockParameters (layerEnd - layerStart) isFirst
        isLast fun name => f (fresh name)) (read.1.map f) >>= _).toOption =
          (torch.loadStateDict (shardWith blockParameters (layerEnd - layerStart) isFirst isLast
            fresh) read.1 >>= _).toOption.map _
      cases hmapped : torch'.loadStateDict (shardWith blockParameters (layerEnd - layerStart)
          isFirst isLast fun name => f (fresh name)) (read.1.map f) with
      | error err =>
          rw [hmapped] at hload
          cases hshard : torch.loadStateDict (shardWith blockParameters (layerEnd - layerStart)
              isFirst isLast fresh) read.1 with
          | error err => rfl
          | ok shard =>
              rw [hshard] at hload
              cases hload
      | ok mapped =>
          rw [hmapped] at hload
          cases hshard : torch.loadStateDict (shardWith blockParameters (layerEnd - layerStart)
              isFirst isLast fresh) read.1 with
          | error err =>
              rw [hshard] at hload
              cases hload
          | ok shard =>
              rw [hshard] at hload
              obtain rfl := Option.some.inj hload
              rfl

end Map

section Loads

variable {τ : Type} {torch : StrictLoader τ} {fresh : String → τ}
  {blockParameters : List String} {layerStart layerEnd : Nat} {isFirst isLast : Bool}
  {fetchSourceFile : String → Except PyException (SafetensorsFile τ)}
  {locations : List TensorLocationSpec} {loaded : ShardParameters τ} {fetched : List String}

/-- After a strict load the parameters are what has been read. -/
theorem stateDict_of_load
    (hload : fromTensorLocations torch fresh blockParameters layerStart layerEnd isFirst
      isLast fetchSourceFile locations = .ok (loaded, fetched)) :
    ∃ values, readFiles fetchSourceFile (locationsByFile locations).items =
        .ok (values, fetched) ∧
      ∀ name tensor, (name, tensor) ∈ loaded.stateDict ↔ values.get? name = some tensor := by
  rw [fromTensorLocations_eq] at hload
  cases hread : readFiles fetchSourceFile (locationsByFile locations).items with
  | error err =>
      rw [hread] at hload
      cases hload
  | ok read =>
      obtain ⟨values, files⟩ := read
      rw [hread] at hload
      have hshard := @loadStateDict_shardWith _ blockParameters (layerEnd - layerStart) isFirst
        isLast torch fresh values
      change (torch.loadStateDict (shardWith blockParameters (layerEnd - layerStart) isFirst
        isLast fresh) values >>= fun shard => .ok (shard, files)) = _ at hload
      cases hstrict : torch.loadStateDict (shardWith blockParameters (layerEnd - layerStart)
          isFirst isLast fresh) values with
      | error err =>
          rw [hstrict] at hload
          cases hload
      | ok shard =>
          rw [hstrict] at hload hshard
          obtain ⟨rfl, rfl⟩ := Prod.mk.inj (Except.ok.inj hload)
          split at hshard
          · next hsame =>
              obtain rfl := Option.some.inj hshard
              exact ⟨values, rfl, fun name tensor => mem_stateDict_shardWith hsame⟩
          · cases hshard

/-- A load has read the tensor of every location. -/
theorem reads_of_readFiles {values : Dict String τ}
    (hread : readFiles fetchSourceFile (locationsByFile locations).items =
      .ok (values, fetched)) :
    ∀ location ∈ locations, ∃ file tensor, fetchSourceFile location.sourceFile = .ok file ∧
      file location.sourceName = .ok tensor := by
  intro location hlocation
  obtain ⟨group, hgroup, hmem⟩ : ∃ group ∈ (locationsByFile locations).items,
      location ∈ group.2 := by
    rw [← List.mem_flatMap]
    exact Dict.mem_flatMap_groupBy.mpr hlocation
  obtain ⟨state, next, hstep⟩ := foldlM_ok_mem hread hgroup
  cases hfetch : fetchSourceFile group.1 with
  | error err =>
      rw [hfetch] at hstep
      cases hstep
  | ok file =>
      cases hlocations : readLocations file state.1 group.2 with
      | error err =>
          simp only [hfetch, hlocations, bind, Except.bind] at hstep
          cases hstep
      | ok read =>
          obtain ⟨before, after, hone⟩ := foldlM_ok_mem hlocations hmem
          cases htensor : file location.sourceName with
          | error err =>
              rw [htensor] at hone
              cases hone
          | ok tensor =>
              obtain ⟨-, hgroupEq⟩ := Dict.mem_groupBy_items.mp hgroup
              rw [hgroupEq] at hmem
              have hfile : location.sourceFile = group.1 :=
                of_decide_eq_true (List.mem_filter.mp hmem).2
              exact ⟨file, tensor, hfile ▸ hfetch, htensor⟩

/-- The parameters of a loaded shard are tensors that the locations name: every one is from
a location with its name, and a location whose name no other has is where its parameter is
from. -/
theorem values_of_load
    (hload : fromTensorLocations torch fresh blockParameters layerStart layerEnd isFirst
      isLast fetchSourceFile locations = .ok (loaded, fetched)) :
    ∃ value : TensorLocationSpec → τ,
      (∀ location ∈ locations, ∃ file, fetchSourceFile location.sourceFile = .ok file ∧
        file location.sourceName = .ok (value location)) ∧
      (∀ name tensor, (name, tensor) ∈ loaded.stateDict →
        ∃ location ∈ locations, location.destName = name ∧ value location = tensor) ∧
      ∀ location ∈ locations, (∀ other ∈ locations,
          other.destName = location.destName → other = location) →
        (location.destName, value location) ∈ loaded.stateDict := by
  obtain ⟨values, hread, hparameters⟩ := stateDict_of_load hload
  have hreads (location : TensorLocationSpec) (hlocation : location ∈ locations) :
      ∃ tensor file, fetchSourceFile location.sourceFile = .ok file ∧
        file location.sourceName = .ok tensor := by
    obtain ⟨file, tensor, hfile, htensor⟩ := reads_of_readFiles hread location hlocation
    exact ⟨tensor, file, hfile, htensor⟩
  have : Nonempty τ := ⟨fresh ""⟩
  choose! value hvalue using hreads
  have hmem (location : TensorLocationSpec) :
      location ∈ (locationsByFile locations).items.flatMap Prod.snd ↔ location ∈ locations :=
    Dict.mem_flatMap_groupBy
  obtain ⟨rfl, rfl⟩ := Prod.mk.inj (Except.ok.inj (hread.symm.trans (readFiles_locations hvalue)))
  refine ⟨value, hvalue, ?_, ?_⟩
  · intro name tensor hparameter
    rw [hparameters] at hparameter
    rcases Dict.mem_of_get?_foldl_set _ _ _ _ hparameter with ⟨location, hlocation, hsame⟩ | hempty
    · exact ⟨location, (hmem location).mp hlocation, hsame⟩
    · cases hempty
  · intro location hlocation halone
    rw [hparameters]
    apply Dict.get?_foldl_set
    · intro other hother hsame
      rw [halone other ((hmem other).mp hother) hsame]
    · exact .inl (List.mem_map_of_mem ((hmem location).mpr hlocation))

/-- A parameter has one value. -/
theorem stateDict_unique
    (hload : fromTensorLocations torch fresh blockParameters layerStart layerEnd isFirst
      isLast fetchSourceFile locations = .ok (loaded, fetched)) {name : String} {left right : τ}
    (hleft : (name, left) ∈ loaded.stateDict) (hright : (name, right) ∈ loaded.stateDict) :
    left = right := by
  obtain ⟨values, _, hparameters⟩ := stateDict_of_load hload
  rw [hparameters] at hleft hright
  exact Option.some.inj (hleft.symm.trans hright)

end Loads

section Tagged

variable {τ : Type}

/-- The tensors of the files beside the names they are read by. -/
def taggedFiles (fetchSourceFile : String → Except PyException (SafetensorsFile τ)) :
    String → Except PyException (SafetensorsFile (τ × Option String)) :=
  fun filename => (fetchSourceFile filename).map fun file name =>
    (file name).map fun tensor => (tensor, some name)

/-- The load of a shard in which every parameter comes beside the name of the tensor it has
been loaded from. -/
def loadTagged (torch : StrictLoader (τ × Option String)) (fresh : String → τ)
    (blockParameters : List String) (layerStart layerEnd : Nat) (isFirst isLast : Bool)
    (fetchSourceFile : String → Except PyException (SafetensorsFile τ))
    (locations : List TensorLocationSpec) :
    Except PyException (ShardParameters (τ × Option String) × List String) :=
  fromTensorLocations torch (fun name => (fresh name, none)) blockParameters layerStart layerEnd
    isFirst isLast (taggedFiles fetchSourceFile) locations

/-- Without the names it is the load itself. -/
theorem loadTagged_fst (torch : StrictLoader τ) (torch' : StrictLoader (τ × Option String))
    (fresh : String → τ) (blockParameters : List String) (layerStart layerEnd : Nat)
    (isFirst isLast : Bool)
    (fetchSourceFile : String → Except PyException (SafetensorsFile τ))
    (locations : List TensorLocationSpec) :
    (fromTensorLocations torch fresh blockParameters layerStart layerEnd isFirst isLast
        fetchSourceFile locations).toOption =
      (loadTagged torch' fresh blockParameters layerStart layerEnd isFirst isLast
        fetchSourceFile locations).toOption.map
          fun load => (mapShard Prod.fst load.1, load.2) := by
  have hfiles : mapFiles Prod.fst (taggedFiles fetchSourceFile) = fetchSourceFile := by
    funext filename
    unfold mapFiles taggedFiles
    cases fetchSourceFile filename with
    | error err => rfl
    | ok file =>
        apply congrArg Except.ok
        funext name
        cases hread : file name <;> simp [hread, Except.map]
  have hmap := fromTensorLocations_map Prod.fst torch' torch (fun name => (fresh name, none))
    blockParameters layerStart layerEnd isFirst isLast (taggedFiles fetchSourceFile) locations
  rw [hfiles] at hmap
  exact hmap

/-- A tagged tensor is one that has been read by its tag. -/
theorem taggedFiles_tag {fetchSourceFile : String → Except PyException (SafetensorsFile τ)}
    {filename name : String} {file : SafetensorsFile (τ × Option String)}
    {tensor : τ × Option String} (hfile : taggedFiles fetchSourceFile filename = .ok file)
    (htensor : file name = .ok tensor) : tensor.2 = some name := by
  unfold taggedFiles at hfile
  cases hfetch : fetchSourceFile filename with
  | error err =>
      rw [hfetch] at hfile
      cases hfile
  | ok found =>
      rw [hfetch] at hfile
      obtain rfl := Except.ok.inj hfile
      cases hread : found name with
      | error err => simp [hread, Except.map] at htensor
      | ok value =>
          simp only [hread, Except.map, Except.ok.injEq] at htensor
          rw [← htensor]

end Tagged

end PiSSM.Pipeline
