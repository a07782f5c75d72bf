import Mathlib.Tactic

/-!
Tilings of an interval of natural numbers by consecutive non-empty half-open
ranges, listed in ascending order.
-/

namespace PiSSM.Lib

/-- `Tiles start stop ranges`: the ranges follow each other without gap or
overlap from `start` to `stop`, and none of them is empty. -/
def Tiles : Nat → Nat → List (Nat × Nat) → Prop
  | start, stop, [] => start = stop
  | start, stop, range :: rest =>
      range.1 = start ∧ range.1 < range.2 ∧ Tiles range.2 stop rest

namespace Tiles

theorem le {start stop : Nat} {ranges : List (Nat × Nat)}
    (htiles : Tiles start stop ranges) : start ≤ stop := by
  induction ranges generalizing start with
  | nil => exact Nat.le_of_eq htiles
  | cons range rest ih =>
      obtain ⟨hstart, hnonempty, hrest⟩ := htiles
      have hle := ih hrest
      omega

theorem bounds_of_mem {start stop : Nat} {ranges : List (Nat × Nat)}
    (htiles : Tiles start stop ranges) {range : Nat × Nat} (hmem : range ∈ ranges) :
    start ≤ range.1 ∧ range.1 < range.2 ∧ range.2 ≤ stop := by
  induction ranges generalizing start with
  | nil => simp at hmem
  | cons first rest ih =>
      obtain ⟨hstart, hnonempty, hrest⟩ := htiles
      rcases List.mem_cons.mp hmem with heq | htail
      · subst heq
        exact ⟨Nat.le_of_eq hstart.symm, hnonempty, hrest.le⟩
      · have hbounds := ih hrest htail
        omega

/-- Every number of the interval lies in exactly one range. -/
theorem countP_eq_one {start stop index : Nat} {ranges : List (Nat × Nat)}
    (htiles : Tiles start stop ranges) (hlow : start ≤ index) (hhigh : index < stop) :
    ranges.countP (fun range => range.1 ≤ index ∧ index < range.2) = 1 := by
  induction ranges generalizing start with
  | nil =>
      have heq : start = stop := htiles
      omega
  | cons range rest ih =>
      obtain ⟨hstart, hnonempty, hrest⟩ := htiles
      by_cases hfirst : index < range.2
      · have hothers : rest.countP (fun r => r.1 ≤ index ∧ index < r.2) = 0 := by
          rw [List.countP_eq_zero]
          intro other hother
          have hbounds := hrest.bounds_of_mem hother
          simp only [decide_eq_true_eq]
          omega
        rw [List.countP_cons_of_pos (by simp only [decide_eq_true_eq]; omega), hothers]
      · rw [List.countP_cons_of_neg (by simp only [decide_eq_true_eq]; omega)]
        exact ih hrest (by omega)

end Tiles

/-- What only one entry of a list has, two entries that have it share by being the same. -/
theorem eq_of_countP_eq_one {α : Type*} {p : α → Bool} {entries : List α}
    (hone : entries.countP p = 1) {left right : α} (hleft : left ∈ entries)
    (hright : right ∈ entries) (hpleft : p left = true) (hpright : p right = true) :
    left = right := by
  rw [List.countP_eq_length_filter, List.length_eq_one_iff] at hone
  obtain ⟨entry, hentry⟩ := hone
  have hin (other : α) (hother : other ∈ entries) (hp : p other = true) : other = entry := by
    rw [← List.mem_singleton, ← hentry]
    exact List.mem_filter.mpr ⟨hother, hp⟩
  rw [hin left hleft hpleft, hin right hright hpright]

end PiSSM.Lib
