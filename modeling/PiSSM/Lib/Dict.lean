import Mathlib.Tactic

/-!
Insertion-ordered dictionaries. Iteration follows the order in which keys were
first inserted; assigning to a key that is present keeps its position. The
keys of a dictionary are distinct by construction, so a lookup and the items
list carry the same information.
-/

namespace PiSSM.Lib

variable {κ ν : Type*} [DecidableEq κ]

/-- Assignment into an items list: in place when the key is present, at the
end otherwise. -/
def setItem (key : κ) (value : ν) : List (κ × ν) → List (κ × ν)
  | [] => [(key, value)]
  | (k, v) :: rest =>
      if k = key then (key, value) :: rest else (k, v) :: setItem key value rest

theorem keys_setItem_of_mem (key : κ) (value : ν) (items : List (κ × ν))
    (hmem : key ∈ items.map Prod.fst) :
    (setItem key value items).map Prod.fst = items.map Prod.fst := by
  induction items with
  | nil => simp at hmem
  | cons entry rest ih =>
      obtain ⟨k, v⟩ := entry
      by_cases hk : k = key
      · simp [setItem, hk]
      · have hrest : key ∈ rest.map Prod.fst := by
          simpa [Ne.symm hk] using hmem
        simp only [setItem, if_neg hk, List.map_cons, ih hrest]

theorem keys_setItem_of_not_mem (key : κ) (value : ν) (items : List (κ × ν))
    (hmem : key ∉ items.map Prod.fst) :
    (setItem key value items).map Prod.fst = items.map Prod.fst ++ [key] := by
  induction items with
  | nil => rfl
  | cons entry rest ih =>
      obtain ⟨k, v⟩ := entry
      simp only [List.map_cons, List.mem_cons, not_or] at hmem
      simp only [setItem, if_neg (Ne.symm hmem.1), List.map_cons, ih hmem.2,
        List.cons_append]

theorem lookup_cons_eq_ite (query : κ) (entry : κ × ν) (rest : List (κ × ν)) :
    (entry :: rest).lookup query =
      if query = entry.1 then some entry.2 else rest.lookup query := by
  obtain ⟨k, v⟩ := entry
  by_cases hq : query = k
  · simp [hq]
  · simp only [List.lookup_cons, beq_false_of_ne hq, if_neg hq]

theorem lookup_setItem (key query : κ) (value : ν) (items : List (κ × ν)) :
    (setItem key value items).lookup query =
      if query = key then some value else items.lookup query := by
  induction items with
  | nil => simp [setItem, lookup_cons_eq_ite]
  | cons entry rest ih =>
      obtain ⟨k, v⟩ := entry
      by_cases hk : k = key
      · subst hk
        by_cases hq : query = k <;> simp [setItem, lookup_cons_eq_ite, hq]
      · by_cases hqk : query = k
        · simp [setItem, hk, lookup_cons_eq_ite, hqk]
        · simp [setItem, hk, lookup_cons_eq_ite, hqk, ih]

theorem lookup_filter_ne (key query : κ) (items : List (κ × ν)) :
    (items.filter fun entry => entry.1 ≠ key).lookup query =
      if query = key then none else items.lookup query := by
  induction items with
  | nil => simp
  | cons entry rest ih =>
      obtain ⟨k, v⟩ := entry
      by_cases hk : k = key
      · subst hk
        rw [List.filter_cons_of_neg (by simp), ih, lookup_cons_eq_ite]
        by_cases hq : query = k <;> simp [hq]
      · rw [List.filter_cons_of_pos (by simpa using hk), lookup_cons_eq_ite,
          lookup_cons_eq_ite, ih]
        by_cases hqk : query = k
        · simp [hqk, hk]
        · simp [hqk]

theorem lookup_mapValues {ν' : Type*} (f : ν → ν') (key : κ) (items : List (κ × ν)) :
    (items.map fun entry => (entry.1, f entry.2)).lookup key =
      (items.lookup key).map f := by
  induction items with
  | nil => rfl
  | cons entry rest ih =>
      rw [List.map_cons, lookup_cons_eq_ite, lookup_cons_eq_ite, ih]
      split <;> rfl

theorem mem_of_lookup (key : κ) (value : ν) (items : List (κ × ν))
    (hget : items.lookup key = some value) : (key, value) ∈ items := by
  induction items with
  | nil => simp at hget
  | cons entry rest ih =>
      obtain ⟨k, v⟩ := entry
      by_cases hk : key = k
      · subst hk
        obtain rfl : v = value := by simpa using hget
        exact List.mem_cons_self
      · rw [lookup_cons_eq_ite, if_neg hk] at hget
        exact List.mem_cons_of_mem _ (ih hget)

theorem lookup_of_mem (key : κ) (value : ν) (items : List (κ × ν))
    (hnodup : (items.map Prod.fst).Nodup) (hmem : (key, value) ∈ items) :
    items.lookup key = some value := by
  induction items with
  | nil => simp at hmem
  | cons entry rest ih =>
      obtain ⟨k, v⟩ := entry
      simp only [List.map_cons, List.nodup_cons] at hnodup
      rcases List.mem_cons.mp hmem with heq | hrest
      · obtain ⟨rfl, rfl⟩ := Prod.mk.inj heq
        simp
      · have hne : key ≠ k := by
          rintro rfl
          exact hnodup.1 (List.mem_map.mpr ⟨(key, value), hrest, rfl⟩)
        rw [lookup_cons_eq_ite, if_neg hne]
        exact ih hnodup.2 hrest

structure Dict (κ ν : Type*) [DecidableEq κ] where
  items : List (κ × ν)
  nodupKeys : (items.map Prod.fst).Nodup

namespace Dict

def empty : Dict κ ν := ⟨[], List.nodup_nil⟩

def get? (dict : Dict κ ν) (key : κ) : Option ν := dict.items.lookup key

def contains (dict : Dict κ ν) (key : κ) : Bool := (dict.get? key).isSome

def keys (dict : Dict κ ν) : List κ := dict.items.map Prod.fst

def values (dict : Dict κ ν) : List ν := dict.items.map Prod.snd

def set (dict : Dict κ ν) (key : κ) (value : ν) : Dict κ ν where
  items := setItem key value dict.items
  nodupKeys := by
    by_cases hmem : key ∈ dict.items.map Prod.fst
    · rw [keys_setItem_of_mem key value _ hmem]
      exact dict.nodupKeys
    · rw [keys_setItem_of_not_mem key value _ hmem]
      exact List.nodup_append.mpr ⟨dict.nodupKeys, List.nodup_singleton key, by
        intro a ha b hb hab
        rw [List.mem_singleton] at hb
        exact hmem (hb ▸ hab ▸ ha)⟩

/-- Removal of a key, a no-op when it is absent. -/
def erase (dict : Dict κ ν) (key : κ) : Dict κ ν where
  items := dict.items.filter fun entry => entry.1 ≠ key
  nodupKeys := dict.nodupKeys.sublist (List.filter_sublist.map Prod.fst)

@[simp] theorem get?_empty (key : κ) : (empty : Dict κ ν).get? key = none := rfl

theorem get?_set (dict : Dict κ ν) (key query : κ) (value : ν) :
    (dict.set key value).get? query =
      if query = key then some value else dict.get? query :=
  lookup_setItem key query value dict.items

@[simp] theorem get?_set_self (dict : Dict κ ν) (key : κ) (value : ν) :
    (dict.set key value).get? key = some value := by
  simp [get?_set]

theorem get?_set_of_ne (dict : Dict κ ν) {key query : κ} (value : ν)
    (hne : query ≠ key) : (dict.set key value).get? query = dict.get? query := by
  simp [get?_set, hne]

theorem get?_erase (dict : Dict κ ν) (key query : κ) :
    (dict.erase key).get? query = if query = key then none else dict.get? query :=
  lookup_filter_ne key query dict.items

@[simp] theorem get?_erase_self (dict : Dict κ ν) (key : κ) :
    (dict.erase key).get? key = none := by
  simp [get?_erase]

theorem get?_erase_of_ne (dict : Dict κ ν) {key query : κ} (hne : query ≠ key) :
    (dict.erase key).get? query = dict.get? query := by
  simp [get?_erase, hne]

theorem get?_foldl_erase {α : Type*} (key : α → κ) (entries : List α)
    (dict : Dict κ ν) (query : κ) :
    (entries.foldl (fun dict entry => dict.erase (key entry)) dict).get? query =
      if query ∈ entries.map key then none else dict.get? query := by
  induction entries generalizing dict with
  | nil => simp
  | cons entry rest ih =>
      rw [List.foldl_cons, ih, get?_erase]
      by_cases hquery : query = key entry
      · simp [hquery]
      · simp [hquery]

theorem mem_items_iff (dict : Dict κ ν) (key : κ) (value : ν) :
    (key, value) ∈ dict.items ↔ dict.get? key = some value :=
  ⟨lookup_of_mem key value _ dict.nodupKeys, mem_of_lookup key value _⟩

theorem isSome_get?_iff (dict : Dict κ ν) (key : κ) :
    (dict.get? key).isSome ↔ key ∈ dict.keys := by
  rw [Option.isSome_iff_exists, keys, List.mem_map]
  constructor
  · rintro ⟨value, hget⟩
    exact ⟨(key, value), (dict.mem_items_iff key value).mpr hget, rfl⟩
  · rintro ⟨⟨_, value⟩, hmem, rfl⟩
    exact ⟨value, (dict.mem_items_iff _ value).mp hmem⟩

/-- An assignment keeps the order of the keys and puts a new one last. -/
theorem keys_set (dict : Dict κ ν) (key : κ) (value : ν) :
    (dict.set key value).keys =
      if key ∈ dict.keys then dict.keys else dict.keys ++ [key] := by
  split
  · next hmem => exact keys_setItem_of_mem key value _ hmem
  · next hmem => exact keys_setItem_of_not_mem key value _ hmem

/-- The items in order, from the keys in order and the lookups. -/
theorem filterMap_keys {α : Type*} (f : κ → ν → α) (dict : Dict κ ν) :
    dict.keys.filterMap (fun key => (dict.get? key).map (f key)) =
      dict.items.map fun entry => f entry.1 entry.2 := by
  rw [keys, List.filterMap_map, List.filterMap_eq_map_iff_forall_eq_some]
  rintro ⟨key, value⟩ hmem
  rw [Function.comp_apply, (dict.mem_items_iff key value).mp hmem, Option.map_some]

section Map

variable {ν' : Type*} (f : ν → ν')

/-- Every value replaced, the keys in place. -/
def map (dict : Dict κ ν) : Dict κ ν' where
  items := dict.items.map fun entry => (entry.1, f entry.2)
  nodupKeys := by
    rw [List.map_map]
    exact dict.nodupKeys

theorem get?_map (dict : Dict κ ν) (key : κ) : (dict.map f).get? key = (dict.get? key).map f :=
  lookup_mapValues f key dict.items

theorem map_set (dict : Dict κ ν) (key : κ) (value : ν) :
    (dict.set key value).map f = (dict.map f).set key (f value) := by
  have hitems (items : List (κ × ν)) :
      (setItem key value items).map (fun entry => (entry.1, f entry.2)) =
        setItem key (f value) (items.map fun entry => (entry.1, f entry.2)) := by
    induction items with
    | nil => rfl
    | cons entry rest ih =>
        simp only [setItem, List.map_cons]
        split
        · rfl
        · rw [List.map_cons, ih]
  unfold map set
  simp only [hitems]

theorem map_erase (dict : Dict κ ν) (key : κ) :
    (dict.erase key).map f = (dict.map f).erase key := by
  unfold map erase
  simp only [List.filter_map]
  rfl

end Map

end Dict

end PiSSM.Lib
