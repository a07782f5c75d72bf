import Mathlib.Tactic

/-!
Validators as sequences of checks. A check passes when nothing offends it, and otherwise
fails with an error; one that can show what offends it raises an error that counts as a
refusal, and one that cannot raises another. A computation settles when it refuses its
input or gives a result that is good.
-/

namespace PiSSM.Lib

variable {ε α : Type*} {refusal : ε → Prop} {shown : α → Prop}

def Settles {β : Type*} (refusal : ε → Prop) (good : β → Prop) : Except ε β → Prop
  | .ok result => good result
  | .error err => refusal err

structure Checks (refusal : ε → Prop) (shown : α → Prop) (check : Except ε Unit)
    (offending : Option α) : Prop where
  passes : offending = none → check = .ok ()
  fails : ∀ a ∈ offending, ∃ err, check = .error err ∧ (refusal err ↔ shown a)

namespace Checks

theorem guard {a : α} {passes : α → Bool} {err : ε} (hrefusal : refusal err) (hshown : shown a) :
    Checks refusal shown (unless passes a do throw err)
      ((some a).filter fun a => !passes a) := by
  cases hpasses : passes a with
  | true => exact ⟨fun _ => rfl, by simp [hpasses]⟩
  | false =>
      refine ⟨by simp [hpasses], ?_⟩
      intro found hfound
      rw [Option.mem_def, Option.filter_some, hpasses] at hfound
      cases hfound
      exact ⟨err, rfl, iff_of_true hrefusal hshown⟩

/-- The complaint has a part that is computed first. -/
theorem guard_bind {β : Type} {a : α} {passes : α → Bool} {part : Except ε β}
    {complaint : β → ε} (hrefusal : ∀ b, refusal (complaint b))
    (hshown : shown a ↔ ∀ err, part = .error err → refusal err) :
    Checks refusal shown (unless passes a do throw (complaint (← part)))
      ((some a).filter fun a => !passes a) := by
  cases hpart : part with
  | ok b =>
      refine guard (hrefusal b) (hshown.mpr ?_)
      rw [hpart]
      exact nofun
  | error err =>
      cases hpasses : passes a with
      | true => exact ⟨fun _ => rfl, by simp [hpasses]⟩
      | false =>
          refine ⟨by simp [hpasses], ?_⟩
          intro found hfound
          rw [Option.mem_def, Option.filter_some, hpasses] at hfound
          cases hfound
          refine ⟨err, rfl, ?_⟩
          rw [hshown, hpart]
          simp only [Except.error.injEq, forall_eq']

theorem append {first second : Except ε Unit} {offending offending' : Option α}
    (hfirst : Checks refusal shown first offending)
    (hsecond : Checks refusal shown second offending') :
    Checks refusal shown (first >>= fun _ => second) (offending.or offending') := by
  cases hoffending : offending with
  | none =>
      rw [hfirst.passes hoffending, Option.none_or]
      exact hsecond
  | some a =>
      obtain ⟨err, herr, hshown⟩ := hfirst.fails a hoffending
      rw [herr, Option.some_or]
      refine ⟨nofun, ?_⟩
      rintro found ⟨⟩
      exact ⟨err, rfl, hshown⟩

theorem forM {ι : Type*} {items : List ι} {check : ι → Except ε PUnit}
    {offending : ι → Option α}
    (hchecks : ∀ item ∈ items, Checks refusal shown (check item) (offending item)) :
    Checks refusal shown (items.forM check) (items.findSome? offending) := by
  induction items with
  | nil => exact ⟨fun _ => rfl, nofun⟩
  | cons item rest ih =>
      have hhead := hchecks item List.mem_cons_self
      have htail := ih fun later hmem => hchecks later (List.mem_cons_of_mem _ hmem)
      have hfind : (item :: rest).findSome? offending =
          (offending item).or (rest.findSome? offending) := by
        rw [List.findSome?_cons]
        cases offending item with
        | none => rfl
        | some a => rfl
      rw [hfind]
      exact hhead.append htail

/-- What follows a check is only reached when the check passes. -/
theorem settles_bind {β : Type} {good : β → Prop} {check : Except ε Unit} {offending : Option α}
    (hcheck : Checks refusal shown check offending) (next : Except ε β) :
    Settles refusal good (check >>= fun _ => next) ↔
      (offending = none → Settles refusal good next) ∧ ∀ a ∈ offending, shown a := by
  cases hoffending : offending with
  | none =>
      rw [hcheck.passes hoffending]
      simp only [forall_true_left, Option.not_mem_none, false_imp_iff, implies_true, and_true]
      rfl
  | some a =>
      obtain ⟨err, herr, hshown⟩ := hcheck.fails a hoffending
      rw [herr]
      simp only [reduceCtorEq, false_imp_iff, Option.mem_some_iff, forall_eq', true_and]
      exact hshown

end Checks

end PiSSM.Lib
