import Mathlib.Tactic

/-!
Traces of relations: a step takes a state to another one under a label, and a trace is the
list of the labels of a run. A specification that is a function of the labels is tracked by
a relation when every step keeps its state related to the specification's.
-/

namespace PiSSM.Lib

universe u v w

/-- The runs of a relation, by the labels of their steps in order. -/
inductive Trace {State : Type u} {Label : Type v} (step : State → Label → State → Prop)
    (start : State) : List Label → State → Prop where
  | nil : Trace step start [] start
  | snoc {labels : List Label} {label : Label} {state next : State}
      (htrace : Trace step start labels state) (hstep : step state label next) :
      Trace step start (labels ++ [label]) next

section Specification

variable {State : Type u} {Label : Type v} {Spec : Type w}
  {step : State → Label → State → Prop} {apply : Spec → Label → Spec}
  {allowed : Spec → Label → Prop} {related : State → Spec → Prop}

/-- Tracking rule: when every step from a related state has a label that the specification
allows and keeps the two related, every label of a trace is allowed where it stands, and the
end is related to what the labels make of the specification. -/
theorem Trace.tracks {start state : State} {specStart : Spec} {labels : List Label}
    (htrace : Trace step start labels state) (hstart : related start specStart)
    (hstep : ∀ state label next spec, related state spec → step state label next →
      allowed spec label ∧ related next (apply spec label)) :
    (∀ before label after, labels = before ++ label :: after →
      allowed (before.foldl apply specStart) label) ∧
    related state (labels.foldl apply specStart) := by
  induction htrace with
  | nil =>
      refine ⟨fun before label after hlabels => ?_, hstart⟩
      exact absurd hlabels (List.append_ne_nil_of_right_ne_nil _ (List.cons_ne_nil _ _)).symm
  | @snoc labels last state next _ hlast ih =>
      obtain ⟨hallowed, hrelated⟩ := ih
      obtain ⟨hnext, hrelated'⟩ := hstep _ _ _ _ hrelated hlast
      refine ⟨?_, ?_⟩
      · intro before label after hlabels
        rcases List.eq_nil_or_concat' after with rfl | ⟨rest, final, rfl⟩
        · obtain ⟨rfl, hlabel⟩ := List.append_inj' hlabels rfl
          obtain rfl := List.singleton_injective hlabel
          exact hnext
        · rw [← List.cons_append, ← List.append_assoc] at hlabels
          exact hallowed before label rest (List.append_inj' hlabels rfl).1
      · rw [List.foldl_append]
        exact hrelated'

end Specification

end PiSSM.Lib
