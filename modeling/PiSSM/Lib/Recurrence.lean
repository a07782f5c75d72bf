import Mathlib.Tactic

/-!
Causal recurrences over sequences and stacks of cached layers. A layer call
takes an optional slot holding the state left by earlier calls and returns its
output together with the state to store; calling without a slot starts from
the beginning. A causal layer may be fed a sequence in pieces, and so may a
stack of causal layers: feeding a continuation to the slots left by a prefix
gives the outputs at the continuation's positions of the whole sequence.
-/

namespace PiSSM.Lib

variable {H S T : Type*}

structure Recurrence (H S : Type*) where
  initial : S
  step : S → H → S × H

namespace Recurrence

/-- Feeds a sequence from a given state: the state reached and the outputs. -/
def run (r : Recurrence H S) : S → List H → S × List H
  | s, [] => (s, [])
  | s, x :: xs =>
      ((r.run (r.step s x).1 xs).1, (r.step s x).2 :: (r.run (r.step s x).1 xs).2)

theorem run_append (r : Recurrence H S) (s : S) (xs ys : List H) :
    r.run s (xs ++ ys) =
      ((r.run (r.run s xs).1 ys).1, (r.run s xs).2 ++ (r.run (r.run s xs).1 ys).2) := by
  induction xs generalizing s with
  | nil => rfl
  | cons x xs ih => simp only [List.cons_append, run, ih]

theorem run_length (r : Recurrence H S) (s : S) (xs : List H) :
    (r.run s xs).2.length = xs.length := by
  induction xs generalizing s with
  | nil => rfl
  | cons x xs ih => simp only [run, List.length_cons, ih]

/-- The recurrence as a layer call: it resumes from the slot when there is one
and from the initial state otherwise. -/
def call (r : Recurrence H S) (slot : Option S) (xs : List H) : List H × S :=
  ((r.run (slot.getD r.initial) xs).2, (r.run (slot.getD r.initial) xs).1)

end Recurrence

/-- Feeding a prefix and then resuming on the rest equals one call on the
whole, in outputs and in the state left behind, and keeps the length. -/
structure IsCausal (call : Option S → List H → List H × S) : Prop where
  append : ∀ xs ys, call none (xs ++ ys) =
    ((call none xs).1 ++ (call (some (call none xs).2) ys).1,
      (call (some (call none xs).2) ys).2)
  length : ∀ slot xs, (call slot xs).1.length = xs.length

theorem Recurrence.isCausal (r : Recurrence H S) : IsCausal r.call where
  append xs ys := by
    simp only [Recurrence.call, Option.getD_none, Option.getD_some, r.run_append]
  length slot xs := r.run_length _ xs

section Stack

variable (call : Nat → Option S → T → T × S) (slots : Nat → Option S) (x : T)

/-- What enters layer `i` of the stack when layer `j` is called with `slots j`. -/
def stackHidden : Nat → T
  | 0 => x
  | i + 1 => (call i (slots i) (stackHidden i)).1

/-- The state layer `i` leaves in its slot. -/
def slotAfter (i : Nat) : S :=
  (call i (slots i) (stackHidden call slots x i)).2

end Stack

section Causal

variable {call : Nat → Option S → List H → List H × S}

theorem stackHidden_length (hcausal : ∀ i, IsCausal (call i)) (slots : Nat → Option S)
    (xs : List H) (i : Nat) : (stackHidden call slots xs i).length = xs.length := by
  induction i with
  | zero => rfl
  | succ i ih => rw [stackHidden, (hcausal i).length, ih]

/-- Resuming a stack on the slots left by a prefix. -/
theorem stackHidden_append (hcausal : ∀ i, IsCausal (call i)) (xs ys : List H) (i : Nat) :
    stackHidden call (fun _ => none) (xs ++ ys) i =
      stackHidden call (fun _ => none) xs i ++
        stackHidden call (fun j => some (slotAfter call (fun _ => none) xs j)) ys i := by
  induction i with
  | zero => rfl
  | succ i ih => simp only [stackHidden, ih, (hcausal i).append, slotAfter]

theorem slotAfter_append (hcausal : ∀ i, IsCausal (call i)) (xs ys : List H) (i : Nat) :
    slotAfter call (fun _ => none) (xs ++ ys) i =
      slotAfter call (fun j => some (slotAfter call (fun _ => none) xs j)) ys i := by
  rw [slotAfter, stackHidden_append hcausal, (hcausal i).append]
  rfl

end Causal

end PiSSM.Lib
