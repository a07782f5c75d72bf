import Mathlib.Data.List.Chain
import Mathlib.Logic.Relation

/-!
Chains along a relation that come to an end. Such a chain does not come back to a
place it has left, and it goes on ending, through no other places, when links along
it are taken away.
-/

namespace PiSSM.Lib

open Relation

variable {α : Type*} {r r' : α → α → Prop} {a b c : α}

/-- Whatever chain one follows from `a`, it comes to an end. -/
def ChainEnds (r : α → α → Prop) (a : α) : Prop := Acc (flip r) a

theorem ChainEnds.intro (hnext : ∀ b, r a b → ChainEnds r b) : ChainEnds r a :=
  Acc.intro a hnext

theorem ChainEnds.next (hends : ChainEnds r a) (hlink : r a b) : ChainEnds r b :=
  Acc.inv hends hlink

theorem ChainEnds.not_return (hends : ChainEnds r a) (hlink : r a b) :
    ¬ ReflTransGen r b a := by
  induction hends generalizing b with
  | intro a _ ih =>
      intro hback
      rcases ReflTransGen.cases_head hback with rfl | ⟨c, hbc, hca⟩
      · exact ih b hlink hlink .refl
      · exact ih b hlink hbc (hca.tail hlink)

/-- The places passed when there are no new links along the chain. -/
theorem passes_of_fewer (hfewer : ∀ x y, ReflTransGen r a x → r' x y → r x y)
    (hpass : ReflTransGen r' a b) : ReflTransGen r a b := by
  induction hpass with
  | refl => exact .refl
  | tail _ hlink ih => exact ih.tail (hfewer _ _ ih hlink)

theorem ChainEnds.of_fewer (hends : ChainEnds r a)
    (hfewer : ∀ x y, ReflTransGen r a x → r' x y → r x y) : ChainEnds r' a := by
  induction hends with
  | intro a _ ih =>
      apply ChainEnds.intro
      intro b hlink
      have hold := hfewer a b .refl hlink
      apply ih b hold
      intro x y hpass
      exact hfewer x y (.head hold hpass)

section Follow

variable (next : α → Option α)

/-- The places one comes by from `a` in at most `fuel` links. -/
def follow : Nat → α → List α
  | 0, a => [a]
  | fuel + 1, a =>
      a :: match next a with
        | none => []
        | some b => follow fuel b

variable {next}

/-- A list of places, each linked to the one after it and the last one to none, is
what one follows from its head. -/
theorem follow_eq {first : α} {rest : List α} {fuel : Nat} (hfuel : rest.length ≤ fuel)
    (hlinked : List.IsChain (fun a b => next a = some b) (first :: rest))
    (hclosed : next ((first :: rest).getLast (List.cons_ne_nil _ _)) = none) :
    follow next fuel first = first :: rest := by
  induction rest generalizing first fuel with
  | nil =>
      rw [List.getLast_singleton] at hclosed
      cases fuel with
      | zero => rfl
      | succ fuel => simp only [follow, hclosed]
  | cons second rest ih =>
      obtain ⟨hlink, hrest⟩ := List.isChain_cons_cons.mp hlinked
      rw [List.getLast_cons_cons] at hclosed
      cases fuel with
      | zero => simp at hfuel
      | succ fuel =>
          have hrest' := ih (Nat.le_of_succ_le_succ hfuel) hrest hclosed
          simp only [follow, hlink, hrest']

end Follow

section Length

variable {link : α → Option (Option α)}

variable (link) in
/-- How many places one comes by from `a`, if the chain ends within this fuel. From some
places one cannot go on, and the chain does not end there either. -/
def chainLength : Nat → α → Option Nat
  | 0, _ => none
  | fuel + 1, a =>
      match link a with
      | none => none
      | some none => some 1
      | some (some b) => (chainLength fuel b).map (· + 1)

/-- The length of a chain that goes along a list of places, as far as one can go on. -/
theorem chainLength_eq {first : α} {rest : List α} {fuel count : Nat}
    (hlinked : List.IsChain (fun a b => ∀ next, link a = some next → next = some b)
      (first :: rest))
    (hclosed : ∀ next, link ((first :: rest).getLast (List.cons_ne_nil _ _)) = some next →
      next = none)
    (hlength : chainLength link fuel first = some count) : count = (first :: rest).length := by
  induction rest generalizing first fuel count with
  | nil =>
      rw [List.getLast_singleton] at hclosed
      cases fuel with
      | zero => cases hlength
      | succ fuel =>
          cases hlink : link first with
          | none =>
              simp only [chainLength, hlink] at hlength
              cases hlength
          | some next =>
              obtain rfl := hclosed next hlink
              simp only [chainLength, hlink] at hlength
              exact (Option.some.inj hlength).symm
  | cons second rest ih =>
      obtain ⟨hfirst, hrest⟩ := List.isChain_cons_cons.mp hlinked
      rw [List.getLast_cons_cons] at hclosed
      cases fuel with
      | zero => cases hlength
      | succ fuel =>
          cases hlink : link first with
          | none =>
              simp only [chainLength, hlink] at hlength
              cases hlength
          | some next =>
              obtain rfl := hfirst next hlink
              simp only [chainLength, hlink] at hlength
              obtain ⟨remaining, hremaining, rfl⟩ := Option.map_eq_some_iff.mp hlength
              rw [ih hrest hclosed hremaining]
              rfl

end Length

end PiSSM.Lib
