import PiSSM.Orchestrator.PipelineLoad
import PiSSM.Pipeline.ManifestErrors

/-!
The keys under which the loads of shards are waited for. A key joins a model name and a
node id by a colon, which either of them may contain, so that two pairs have the same key
when a colon can be moved from one part to the other.
-/

namespace PiSSM.Pipeline

open PiSSM.Lib PiSSM.Inference PiSSM.Orchestrator

/-- `str` of a UUID: its 32 hexadecimal digits in five groups. -/
def uuidText (value : Nat) : String :=
  let hex := (hexDigits 32 value).toList
  String.ofList (hex.take 8 ++ '-' :: (hex.drop 8).take 4 ++ '-' :: (hex.drop 12).take 4 ++
    '-' :: (hex.drop 16).take 4 ++ '-' :: hex.drop 20)

/-- A colon of one model name is read as the separator by the other pair. -/
def Shifted (modelName nodeId modelName' nodeId' : String) : Prop :=
  ∃ middle, modelName' = modelName ++ ":" ++ middle ∧ nodeId = middle ++ ":" ++ nodeId'

/-- The pairs share a key only if they are equal, and a report of the one resolves no wait
for the other. -/
structure KeptApart (modelName nodeId modelName' nodeId' : String) : Prop where
  keys : shardReadyKey modelName nodeId = shardReadyKey modelName' nodeId' →
    modelName = modelName' ∧ nodeId = nodeId'
  waits : ∀ (store : ResultStore (MarkedReport Unit)) (request : ShardReadyRequest) event,
    request.modelName = modelName' → request.nodeId = nodeId' →
    store.slots.get? (shardReadyKey modelName nodeId) = some (event, none) →
    (modelName = modelName' ∧ nodeId = nodeId') ∨
      (reportShardReady store () request).slots.get? (shardReadyKey modelName nodeId) =
        some (event, none)

/-- A part of the first text that the other pair has before its separator. -/
theorem split_at_separator {α : Type*} {separator : α} {first second first' second' : List α} :
    (∃ more, first' = first ++ more ∧ separator :: second = more ++ separator :: second') ↔
      (first = first' ∧ second = second') ∨
      ∃ middle, first' = first ++ separator :: middle ∧
        second = middle ++ separator :: second' := by
  constructor
  · rintro ⟨more, rfl, hrest⟩
    cases more with
    | nil =>
        rw [List.nil_append, List.cons.injEq] at hrest
        exact .inl ⟨(List.append_nil first).symm, hrest.2⟩
    | cons c middle =>
        rw [List.cons_append, List.cons.injEq] at hrest
        obtain ⟨rfl, hsecond⟩ := hrest
        exact .inr ⟨middle, rfl, hsecond⟩
  · rintro (⟨rfl, rfl⟩ | ⟨middle, rfl, rfl⟩)
    · exact ⟨[], (List.append_nil first).symm, rfl⟩
    · exact ⟨separator :: middle, rfl, rfl⟩

/-- Two pairs joined by a separator. -/
theorem join_eq_join_iff {α : Type*} {separator : α} {first second first' second' : List α} :
    first ++ separator :: second = first' ++ separator :: second' ↔
      (first = first' ∧ second = second') ∨
      (∃ middle, first' = first ++ separator :: middle ∧
        second = middle ++ separator :: second') ∨
      ∃ middle, first = first' ++ separator :: middle ∧
        second' = middle ++ separator :: second := by
  rw [List.append_eq_append_iff, split_at_separator, split_at_separator]
  constructor
  · rintro ((heq | hleft) | (⟨rfl, rfl⟩ | hright))
    · exact .inl heq
    · exact .inr (.inl hleft)
    · exact .inl ⟨rfl, rfl⟩
    · exact .inr (.inr hright)
  · rintro (heq | hleft | hright)
    · exact .inl (.inl heq)
    · exact .inl (.inr hleft)
    · exact .inr (.inr hright)

theorem shardReadyKey_toList (modelName nodeId : String) :
    (shardReadyKey modelName nodeId).toList =
      "shard:".toList ++ (modelName.toList ++ ':' :: nodeId.toList) := by
  have hkey : shardReadyKey modelName nodeId = "shard:" ++ modelName ++ ":" ++ nodeId := rfl
  rw [hkey, String.toList_append, String.toList_append, String.toList_append,
    List.append_assoc, List.append_assoc]
  rfl

theorem shifted_iff {modelName nodeId modelName' nodeId' : String} :
    Shifted modelName nodeId modelName' nodeId' ↔
      ∃ middle, modelName'.toList = modelName.toList ++ ':' :: middle ∧
        nodeId.toList = middle ++ ':' :: nodeId'.toList := by
  have hjoin (left right : String) :
      (left ++ ":" ++ right).toList = left.toList ++ ':' :: right.toList := by
    rw [String.toList_append, String.toList_append, List.append_assoc]
    rfl
  constructor
  · rintro ⟨middle, rfl, rfl⟩
    exact ⟨middle.toList, hjoin _ _, hjoin _ _⟩
  · rintro ⟨middle, hmodel, hnode⟩
    refine ⟨String.ofList middle, String.toList_injective ?_, String.toList_injective ?_⟩
    · rw [hjoin, hmodel, String.toList_ofList]
    · rw [hjoin, hnode, String.toList_ofList]

/-- The pairs that share a key. -/
theorem shardReadyKey_eq_iff {modelName nodeId modelName' nodeId' : String} :
    shardReadyKey modelName nodeId = shardReadyKey modelName' nodeId' ↔
      (modelName = modelName' ∧ nodeId = nodeId') ∨
        Shifted modelName nodeId modelName' nodeId' ∨
        Shifted modelName' nodeId' modelName nodeId := by
  rw [← String.toList_inj, shardReadyKey_toList, shardReadyKey_toList,
    List.append_right_inj, join_eq_join_iff, String.toList_inj, String.toList_inj,
    shifted_iff, shifted_iff]

theorem Shifted.ne {modelName nodeId modelName' nodeId' : String}
    (hshifted : Shifted modelName nodeId modelName' nodeId') : modelName ≠ modelName' := by
  rintro rfl
  obtain ⟨middle, hmodel, _⟩ := shifted_iff.mp hshifted
  have hlength := congrArg List.length hmodel
  rw [List.length_append, List.length_cons] at hlength
  omega

/-- A UUID begins with a hexadecimal digit. -/
theorem uuidText_head (value : Nat) :
    (uuidText value).toList.head? = some (Nat.digitChar (value / 16 ^ 31 % 16)) := by
  unfold uuidText hexDigits
  rw [String.toList_ofList, String.toList_ofList]
  rfl

theorem shardReadyKey_ne_uuidText (modelName nodeId : String) (value : Nat) :
    shardReadyKey modelName nodeId ≠ uuidText value := by
  intro heq
  have hdigit : ∀ digit : Fin 16, Nat.digitChar digit ≠ 's' := by decide
  have hhead : (shardReadyKey modelName nodeId).toList.head? = some 's' := by
    rw [shardReadyKey_toList]
    rfl
  rw [heq, uuidText_head] at hhead
  exact hdigit ⟨_, Nat.mod_lt _ (by omega)⟩ (Option.some.inj hhead)

/-- A report is stored under its own key only. -/
theorem reportShardReady_get? {store : ResultStore (MarkedReport Unit)}
    {request : ShardReadyRequest} {key : String}
    (hne : key ≠ shardReadyKey request.modelName request.nodeId) :
    (reportShardReady store () request).slots.get? key = store.slots.get? key := by
  unfold reportShardReady
  rw [ResultStore.deliver_get?, if_neg hne]

/-- Two pairs are kept apart exactly when no colon of a name can be taken for the
separator, and no key is a request id. -/
theorem shard_ready_keys (modelName nodeId modelName' nodeId' : String) :
    (KeptApart modelName nodeId modelName' nodeId' ↔
      ¬ Shifted modelName nodeId modelName' nodeId' ∧
        ¬ Shifted modelName' nodeId' modelName nodeId) ∧
    ∀ value, shardReadyKey modelName nodeId ≠ uuidText value := by
  refine ⟨⟨?_, ?_⟩, shardReadyKey_ne_uuidText modelName nodeId⟩
  · intro hapart
    refine ⟨?_, ?_⟩
    · intro hshifted
      exact hshifted.ne (hapart.keys (shardReadyKey_eq_iff.mpr (.inr (.inl hshifted)))).1
    · intro hshifted
      exact hshifted.ne (hapart.keys (shardReadyKey_eq_iff.mpr (.inr (.inr hshifted)))).1.symm
  · rintro ⟨hleft, hright⟩
    have hkeys (heq : shardReadyKey modelName nodeId = shardReadyKey modelName' nodeId') :
        modelName = modelName' ∧ nodeId = nodeId' := by
      rcases shardReadyKey_eq_iff.mp heq with hpair | hshifted | hshifted
      · exact hpair
      · exact absurd hshifted hleft
      · exact absurd hshifted hright
    refine ⟨hkeys, ?_⟩
    intro store request event hmodel hnode hslot
    rw [or_iff_not_imp_left]
    intro hpair
    rw [reportShardReady_get?, hslot]
    rw [hmodel, hnode]
    exact fun heq => hpair (hkeys heq)

/-- Two models and two nodes with one key: a report for the second pair resolves the wait
for the first. Both names pass the validator. -/
theorem shard_ready_keys_counterexample :
    shardReadyKey "a:b" "c" = shardReadyKey "a" "b:c" ∧
      (∀ name ∈ ["a:b", "a"], ∃ loaded, manifestFromDict defaultRendering
        (.map (manifestEntries (.str name) (.str "checkpoint"))) = .ok loaded) ∧
      ((reportShardReady (ResultStore.create.createSlot (shardReadyKey "a:b" "c")) ()
          ⟨"a", "b:c", true, "", 64, 5⟩).slots.get? (shardReadyKey "a:b" "c")) =
        some (0, some ⟨(), ⟨true, "", 64, 5⟩⟩) ∧
      ¬ KeptApart "a:b" "c" "a" "b:c" := by
  have hkeys : shardReadyKey "a:b" "c" = shardReadyKey "a" "b:c" := by decide
  refine ⟨hkeys, ?_, ?_, ?_⟩
  · intro name hname
    simp only [List.mem_cons, List.not_mem_nil, or_false] at hname
    rcases hname with rfl | rfl
    · exact ⟨_, rfl⟩
    · exact ⟨_, rfl⟩
  · unfold reportShardReady
    rw [ResultStore.deliver_get?, if_pos hkeys, ← hkeys, ResultStore.createSlot_get?, if_pos rfl]
    rfl
  · intro hapart
    have hmodel := (hapart.keys hkeys).1
    cases (by decide : ("a:b" : String) ≠ "a") hmodel

end PiSSM.Pipeline
