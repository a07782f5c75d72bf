import Mathlib.Tactic

/-!
Strided views of a storage and their row-major enumeration. A view addresses
its storage by an offset and one stride for each axis, so a transposed, sliced
or expanded array is a view like any other. The row-major enumeration lists
its elements with the last axis varying fastest, and a view laid out over that
list holds the same element at every multi-index. Elements of a fixed size are
stored as records laid end to end.
-/

namespace PiSSM.Lib.RowMajor

variable {α : Type*}

/-- One index for each axis, below the extent of its axis. -/
def ValidIndex (shape index : List Nat) : Prop := List.Forall₂ (· < ·) index shape

instance (shape index : List Nat) : Decidable (ValidIndex shape index) :=
  inferInstanceAs (Decidable (List.Forall₂ _ _ _))

/-- The multi-indices of a shape, in row-major order. -/
def indices : List Nat → List (List Nat)
  | [] => [[]]
  | extent :: rest => (List.range extent).flatMap fun i => (indices rest).map (i :: ·)

/-- The place of a multi-index in row-major order. -/
def position : List Nat → List Nat → Nat
  | _ :: rest, i :: index => i * rest.prod + position rest index
  | _, _ => 0

theorem mem_indices {shape index : List Nat} :
    index ∈ indices shape ↔ ValidIndex shape index := by
  induction shape generalizing index with
  | nil => simp [indices, ValidIndex]
  | cons extent rest ih =>
      simp only [indices, List.mem_flatMap, List.mem_range, List.mem_map, ih]
      constructor
      · rintro ⟨i, hi, tail, htail, rfl⟩
        exact .cons hi htail
      · intro hvalid
        obtain ⟨i, tail, hi, htail, rfl⟩ := List.forall₂_cons_right_iff.mp hvalid
        exact ⟨i, hi, tail, htail, rfl⟩

theorem flatMap_range_offsets (count size : Nat) :
    ((List.range count).flatMap fun i => (List.range size).map (i * size + ·)) =
      List.range (count * size) := by
  induction count with
  | zero => simp
  | succ count ih =>
      rw [List.range_succ, List.flatMap_append, ih, Nat.succ_mul, List.range_add]
      simp

/-- Row-major order lists the positions in ascending order. -/
theorem map_position_indices (shape : List Nat) :
    (indices shape).map (position shape) = List.range shape.prod := by
  induction shape with
  | nil => rfl
  | cons extent rest ih =>
      calc
        (indices (extent :: rest)).map (position (extent :: rest)) =
            (List.range extent).flatMap fun i =>
              ((indices rest).map (position rest)).map (i * rest.prod + ·) := by
          simp [indices, List.map_flatMap, position, Function.comp_def]
        _ = List.range (extent * rest.prod) := by
          rw [ih, flatMap_range_offsets]
        _ = List.range (extent :: rest).prod := by
          rw [List.prod_cons]

theorem length_indices (shape : List Nat) : (indices shape).length = shape.prod := by
  have hlength := congrArg List.length (map_position_indices shape)
  rwa [List.length_map, List.length_range] at hlength

theorem position_getElem {shape : List Nat} {place : Nat}
    (hplace : place < (indices shape).length) :
    position shape (indices shape)[place] = place := by
  have hmap : ((indices shape).map (position shape))[place]? =
      (List.range shape.prod)[place]? := by rw [map_position_indices]
  rw [List.getElem?_map, List.getElem?_eq_getElem hplace, Option.map_some,
    List.getElem?_range (length_indices shape ▸ hplace)] at hmap
  exact Option.some.inj hmap

/-- A multi-index stands at its position. -/
theorem getElem?_position {shape index : List Nat} (hvalid : ValidIndex shape index) :
    (indices shape)[position shape index]? = some index := by
  obtain ⟨place, hplace, rfl⟩ := List.getElem_of_mem (mem_indices.mpr hvalid)
  rw [position_getElem hplace, List.getElem?_eq_getElem hplace]

theorem position_lt {shape index : List Nat} (hvalid : ValidIndex shape index) :
    position shape index < shape.prod := by
  rw [← length_indices]
  exact (List.getElem?_eq_some_iff.mp (getElem?_position hvalid)).1

/-- The storage index a multi-index is stored at. -/
def address (offset : Nat) (strides index : List Nat) : Nat :=
  offset + (List.zipWith (· * ·) index strides).sum

/-- The strides of a row-major layout without gaps. -/
def rowStrides : List Nat → List Nat
  | [] => []
  | _ :: rest => rest.prod :: rowStrides rest

theorem length_rowStrides (shape : List Nat) : (rowStrides shape).length = shape.length := by
  induction shape with
  | nil => rfl
  | cons extent rest ih => simp only [rowStrides, List.length_cons, ih]

theorem address_rowStrides {shape index : List Nat} (hvalid : ValidIndex shape index) :
    address 0 (rowStrides shape) index = position shape index := by
  simp only [address, Nat.zero_add]
  induction hvalid with
  | nil => rfl
  | cons hlt hvalid ih =>
      simp only [rowStrides, position, List.zipWith_cons_cons, List.sum_cons, ih]

/-- A strided view: every valid multi-index lies in its storage. -/
structure View (α : Type*) where
  storage : List α
  offset : Nat
  shape : List Nat
  strides : List Nat
  rank_eq : strides.length = shape.length
  inBounds : ∀ index, ValidIndex shape index →
    address offset strides index < storage.length

namespace View

variable (view : View α)

def read (index : List Nat) (hvalid : ValidIndex view.shape index) : α :=
  view.storage.get ⟨address view.offset view.strides index, view.inBounds index hvalid⟩

/-- The element at a multi-index, if it is a multi-index of the shape. -/
def at? (index : List Nat) : Option α :=
  if hvalid : ValidIndex view.shape index then some (view.read index hvalid) else none

/-- The elements in row-major order. -/
def elements : List α :=
  (indices view.shape).pmap view.read fun _ hmem => mem_indices.mp hmem

/-- The row-major layout of a list of elements. -/
def ofElements (shape : List Nat) (items : List α) (hlength : items.length = shape.prod) :
    View α where
  storage := items
  offset := 0
  shape := shape
  strides := rowStrides shape
  rank_eq := length_rowStrides shape
  inBounds index hvalid := by
    rw [address_rowStrides hvalid, hlength]
    exact position_lt hvalid

@[simp] theorem length_elements : view.elements.length = view.shape.prod := by
  rw [elements, List.length_pmap, length_indices]

/-- The row-major enumeration holds each element at the position of its
multi-index. -/
theorem at?_eq_elements {view : View α} {index : List Nat}
    (hvalid : ValidIndex view.shape index) :
    view.at? index = view.elements[position view.shape index]? := by
  rw [at?, dif_pos hvalid, elements, List.getElem?_pmap]
  simp only [getElem?_position hvalid, Option.pmap_some]

theorem at?_of_not_valid {view : View α} {index : List Nat}
    (hvalid : ¬ ValidIndex view.shape index) : view.at? index = none := dif_neg hvalid

/-- Views of one shape with the same row-major enumeration agree at every
multi-index. -/
theorem at?_congr {left right : View α} (hshape : left.shape = right.shape)
    (helements : left.elements = right.elements) (index : List Nat) :
    left.at? index = right.at? index := by
  by_cases hvalid : ValidIndex left.shape index
  · rw [at?_eq_elements hvalid, at?_eq_elements (hshape ▸ hvalid), hshape, helements]
  · rw [at?_of_not_valid hvalid, at?_of_not_valid (hshape ▸ hvalid)]

variable {shape : List Nat} {items : List α} {hlength : items.length = shape.prod}

@[simp] theorem ofElements_shape : (ofElements shape items hlength).shape = shape := rfl

@[simp] theorem ofElements_elements : (ofElements shape items hlength).elements = items := by
  apply List.ext_getElem
  · rw [length_elements, ofElements_shape, hlength]
  · intro place hplace hitem
    simp only [elements, List.getElem_pmap, read, ofElements, List.get_eq_getElem]
    have hvalid : place < (indices shape).length := by
      rw [length_indices, ← hlength]
      exact hitem
    congr 1
    rw [address_rowStrides (mem_indices.mp (List.getElem_mem hvalid)), position_getElem hvalid]

/-- A view laid out anew, in row-major order and without gaps. -/
def copy : View α := ofElements view.shape view.elements view.length_elements

@[simp] theorem copy_elements : view.copy.elements = view.elements := ofElements_elements

end View

/-- The records of `size` items each that a list is made of. -/
def records {size : Nat} : (count : Nat) → (items : List α) → items.length = count * size →
    List (Vector α size)
  | 0, _, _ => []
  | count + 1, items, hlength =>
      have hsize : size ≤ items.length := by
        rw [hlength]
        exact Nat.le_mul_of_pos_left size count.succ_pos
      ⟨(items.take size).toArray, by simpa using hsize⟩ ::
        records count (items.drop size) (by rw [List.length_drop, hlength, Nat.succ_mul]; omega)

variable {size count : Nat}

theorem flatMap_records {items : List α} (hlength : items.length = count * size) :
    (records count items hlength).flatMap Vector.toList = items := by
  induction count generalizing items with
  | zero =>
      rw [Nat.zero_mul] at hlength
      exact (List.length_eq_zero_iff.mp hlength).symm
  | succ count ih =>
      simp only [records, List.flatMap_cons, ih]
      exact List.take_append_drop size items

theorem length_flatMap_toList (rows : List (Vector α size)) :
    (rows.flatMap Vector.toList).length = rows.length * size := by
  simp

/-- The records are determined by the items they are made of. -/
theorem flatMap_toList_inj {left right : List (Vector α size)}
    (hlength : left.length = right.length)
    (heq : left.flatMap Vector.toList = right.flatMap Vector.toList) : left = right := by
  induction left generalizing right with
  | nil => exact (List.length_eq_zero_iff.mp hlength.symm).symm
  | cons row rows ih =>
      cases right with
      | nil => cases hlength
      | cons row' rows' =>
          simp only [List.flatMap_cons] at heq
          obtain ⟨hrow, hrows⟩ := List.append_inj heq (by simp)
          rw [Vector.toList_inj.mp hrow, ih (Nat.succ.inj hlength) hrows]

end PiSSM.Lib.RowMajor
