import PiSSM.Lib.Dict

/-!
Loops that fill a dictionary or a list. A loop that assigns one value to each key leaves
that value under the key, in whatever order it comes by; a loop that appends every entry
to the list of its key leaves the entries of the key in their order; and a loop without
a failing iteration does not fail.
-/

namespace PiSSM.Lib

section Except

variable {α β ε : Type*}

/-- A loop whose iterations succeed is the loop without failures. -/
theorem foldlM_ok {step : β → α → Except ε β} {next : β → α → β} (entries : List α)
    (start : β) (hstep : ∀ state, ∀ entry ∈ entries, step state entry = .ok (next state entry)) :
    entries.foldlM step start = .ok (entries.foldl next start) := by
  induction entries generalizing start with
  | nil => rfl
  | cons entry rest ih =>
      rw [List.foldlM_cons, hstep start entry List.mem_cons_self]
      exact ih _ fun state later hlater => hstep state later (List.mem_cons_of_mem _ hlater)

/-- A loop that succeeds has gone through each of its iterations. -/
theorem foldlM_ok_mem {step : β → α → Except ε β} {entries : List α} {start last : β}
    (hok : entries.foldlM step start = .ok last) {entry : α} (hmem : entry ∈ entries) :
    ∃ state next, step state entry = .ok next := by
  induction entries generalizing start with
  | nil => cases hmem
  | cons first rest ih =>
      rw [List.foldlM_cons] at hok
      cases hstep : step start first with
      | error err =>
          rw [hstep] at hok
          cases hok
      | ok next =>
          rw [hstep] at hok
          rcases List.mem_cons.mp hmem with rfl | hmem
          · exact ⟨start, next, hstep⟩
          · exact ih hok hmem

/-- A loop over states that are mapped in each of its steps. -/
theorem foldlM_map {γ : Type*} {f : β → γ} {step : β → α → Except ε β}
    {step' : γ → α → Except ε γ} (entries : List α) (start : β)
    (hstep : ∀ state, ∀ entry ∈ entries, step' (f state) entry = (step state entry).map f) :
    entries.foldlM step' (f start) = (entries.foldlM step start).map f := by
  induction entries generalizing start with
  | nil => rfl
  | cons entry rest ih =>
      rw [List.foldlM_cons, List.foldlM_cons, hstep start entry List.mem_cons_self]
      cases step start entry with
      | error err => rfl
      | ok next =>
          apply ih next
          intro state later hlater
          exact hstep state later (List.mem_cons_of_mem _ hlater)

/-- A comprehension whose elements succeed gives the list of their results. -/
theorem mapM_ok {read : α → Except ε β} {value : α → β} (entries : List α)
    (hread : ∀ entry ∈ entries, read entry = .ok (value entry)) :
    entries.mapM read = .ok (entries.map value) := by
  induction entries with
  | nil => rfl
  | cons entry rest ih =>
      have hrest := ih fun later hlater => hread later (List.mem_cons_of_mem _ hlater)
      rw [List.mapM_cons, hread entry List.mem_cons_self, hrest]
      rfl

end Except

/-- A loop over groups that goes through the entries of each and notes its key. -/
theorem foldl_groups {α β γ : Type*} (step : β → α → β) (groups : List (γ × List α))
    (start : β × List γ) :
    groups.foldl (fun state group => (group.2.foldl step state.1, state.2 ++ [group.1])) start =
      ((groups.flatMap Prod.snd).foldl step start.1, start.2 ++ groups.map Prod.fst) := by
  induction groups generalizing start with
  | nil => simp
  | cons group rest ih =>
      rw [List.foldl_cons, ih, List.flatMap_cons, List.foldl_append, List.map_cons,
        List.append_assoc]
      rfl

namespace Dict

variable {α κ ν : Type*} [DecidableEq κ]

/-- The keys after a loop of assignments. -/
theorem isSome_foldl_set (key : α → κ) (value : α → ν) (entries : List α)
    (dict : Dict κ ν) (query : κ) :
    ((entries.foldl (fun dict entry => dict.set (key entry) (value entry)) dict).get?
        query).isSome ↔ query ∈ entries.map key ∨ (dict.get? query).isSome := by
  induction entries generalizing dict with
  | nil => simp
  | cons entry rest ih =>
      rw [List.foldl_cons, ih, get?_set, List.map_cons, List.mem_cons]
      split
      · next hquery => simp [hquery]
      · next hquery => simp [hquery]

/-- What is found under a key when the loop assigns it this value only. -/
theorem get?_foldl_set (key : α → κ) (value : α → ν) (entries : List α) (dict : Dict κ ν)
    {query : κ} {found : ν} (hvalue : ∀ entry ∈ entries, key entry = query → value entry = found)
    (hmem : query ∈ entries.map key ∨ dict.get? query = some found) :
    (entries.foldl (fun dict entry => dict.set (key entry) (value entry)) dict).get? query =
      some found := by
  induction entries generalizing dict with
  | nil => exact hmem.resolve_left (by simp)
  | cons entry rest ih =>
      have hrest : ∀ later ∈ rest, key later = query → value later = found :=
        fun later hlater => hvalue later (List.mem_cons_of_mem _ hlater)
      rw [List.foldl_cons]
      by_cases hquery : key entry = query
      · apply ih _ hrest (.inr _)
        rw [hquery, get?_set_self, hvalue entry List.mem_cons_self hquery]
      · apply ih _ hrest
        rw [List.map_cons, List.mem_cons] at hmem
        rcases hmem with (heq | hmem) | hfound
        · exact absurd heq.symm hquery
        · exact .inl hmem
        · exact .inr ((dict.get?_set_of_ne _ (Ne.symm hquery)).trans hfound)

/-- A loop of assignments leaves only values it assigns. -/
theorem mem_of_get?_foldl_set (key : α → κ) (value : α → ν) (entries : List α)
    (dict : Dict κ ν) {query : κ} {found : ν}
    (hfound : (entries.foldl (fun dict entry => dict.set (key entry) (value entry)) dict).get?
      query = some found) :
    (∃ entry ∈ entries, key entry = query ∧ value entry = found) ∨
      dict.get? query = some found := by
  induction entries generalizing dict with
  | nil => exact .inr hfound
  | cons entry rest ih =>
      rcases ih _ hfound with ⟨later, hlater, hsame⟩ | hset
      · exact .inl ⟨later, List.mem_cons_of_mem _ hlater, hsame⟩
      · rw [get?_set] at hset
        split at hset
        · next hquery => exact .inl ⟨entry, List.mem_cons_self, hquery.symm, Option.some.inj hset⟩
        · exact .inr hset

/-- `dict.setdefault(key, []).append(entry)`. -/
def append (dict : Dict κ (List α)) (key : κ) (entry : α) : Dict κ (List α) :=
  dict.set key ((dict.get? key).getD [] ++ [entry])

def groupBy (key : α → κ) (entries : List α) : Dict κ (List α) :=
  entries.foldl (fun groups entry => groups.append (key entry) entry) empty

theorem get?_foldl_append (key : α → κ) (entries : List α) (groups : Dict κ (List α))
    (query : κ) :
    (entries.foldl (fun groups entry => groups.append (key entry) entry) groups).get? query =
      if query ∈ entries.map key then
        some ((groups.get? query).getD [] ++ entries.filter fun entry => key entry = query)
      else groups.get? query := by
  induction entries generalizing groups with
  | nil => simp
  | cons entry rest ih =>
      rw [List.foldl_cons, ih]
      unfold append
      rw [get?_set]
      by_cases hquery : query = key entry
      · subst hquery
        simp only [if_pos, Option.getD_some, List.map_cons, List.mem_cons, true_or,
          List.filter_cons, decide_true]
        split
        · rw [List.append_assoc]
          rfl
        · next hnot =>
            have hnone : rest.filter (fun later => key later = key entry) = [] := by
              rw [List.filter_eq_nil_iff]
              intro later hlater heq
              exact hnot (List.mem_map.mpr ⟨later, hlater, of_decide_eq_true heq⟩)
            rw [hnone]
      · have hother : key entry ≠ query := Ne.symm hquery
        simp [hquery, hother]

/-- A group holds the entries of its key, in their order. -/
theorem mem_groupBy_items {key : α → κ} {entries : List α} {query : κ} {group : List α} :
    (query, group) ∈ (groupBy key entries).items ↔
      query ∈ entries.map key ∧ group = entries.filter fun entry => key entry = query := by
  rw [mem_items_iff, groupBy, get?_foldl_append]
  split
  · next hmem => simp [hmem, eq_comm]
  · next hmem => simp [hmem]

theorem mem_keys_groupBy {key : α → κ} {entries : List α} {query : κ} :
    query ∈ (groupBy key entries).keys ↔ query ∈ entries.map key := by
  rw [keys, List.mem_map]
  constructor
  · rintro ⟨⟨_, group⟩, hmem, rfl⟩
    exact (mem_groupBy_items.mp hmem).1
  · intro hmem
    exact ⟨(query, _), mem_groupBy_items.mpr ⟨hmem, rfl⟩, rfl⟩

/-- Going through the groups one comes by the same entries. -/
theorem mem_flatMap_groupBy {key : α → κ} {entries : List α} {entry : α} :
    entry ∈ (groupBy key entries).items.flatMap Prod.snd ↔ entry ∈ entries := by
  rw [List.mem_flatMap]
  constructor
  · rintro ⟨⟨query, group⟩, hgroup, hmem⟩
    obtain ⟨_, rfl⟩ := mem_groupBy_items.mp hgroup
    exact (List.mem_filter.mp hmem).1
  · intro hmem
    refine ⟨(key entry, _), mem_groupBy_items.mpr ⟨List.mem_map_of_mem hmem, rfl⟩, ?_⟩
    exact List.mem_filter.mpr ⟨hmem, decide_eq_true rfl⟩

end Dict

end PiSSM.Lib
