import Mathlib.Tactic

/-!
Transition systems whose step function decides which labels are enabled. A
run may be restricted by a predicate on the state a step starts from and its
label, so that "every run" and "every run whose steps all meet a condition"
share one induction rule. Finite label lists are executed by `exec`, which is
how concrete runs are exhibited.
-/

namespace PiSSM.Lib

universe u v

structure TransitionSystem (State : Type u) (Label : Type v) where
  init : State → Prop
  step : State → Label → Option State

namespace TransitionSystem

variable {State : Type u} {Label : Type v} (S : TransitionSystem State Label)

/-- States reached from an initial one by enabled steps, each of which meets
`ok` in the state it is taken from. -/
inductive ReachableVia (ok : State → Label → Prop) : State → Prop where
  | init {s : State} (hinit : S.init s) : ReachableVia ok s
  | step {s t : State} {label : Label} (hreach : ReachableVia ok s)
      (hok : ok s label) (hstep : S.step s label = some t) : ReachableVia ok t

/-- Reachability by unrestricted runs. -/
def Reachable (s : State) : Prop :=
  S.ReachableVia (fun _ _ => True) s

variable {S} {ok : State → Label → Prop}

/-- A condition may be replaced by one that it implies of every step of the runs. -/
theorem ReachableVia.weaken_steps {ok' : State → Label → Prop} {s : State}
    (hreach : S.ReachableVia ok s)
    (himp : ∀ s label t, S.ReachableVia ok s → ok s label → S.step s label = some t →
      ok' s label) : S.ReachableVia ok' s := by
  induction hreach with
  | init hinit => exact .init hinit
  | step hprev hok hstep ih => exact .step ih (himp _ _ _ hprev hok hstep) hstep

/-- A condition may be replaced by one that it implies in every state reached. -/
theorem ReachableVia.weaken {ok' : State → Label → Prop} {s : State}
    (hreach : S.ReachableVia ok s)
    (himp : ∀ s label, S.ReachableVia ok s → ok s label → ok' s label) :
    S.ReachableVia ok' s :=
  hreach.weaken_steps fun s label _ hprev hok _ => himp s label hprev hok

theorem ReachableVia.reachable {s : State} (hreach : S.ReachableVia ok s) :
    S.Reachable s :=
  hreach.weaken fun _ _ _ _ => trivial

/-- Invariant rule: what holds initially and is kept by every allowed step
holds in every state reached. The step case may use that the source state was
itself reached. -/
theorem ReachableVia.invariant {inv : State → Prop} {s : State}
    (hreach : S.ReachableVia ok s) (hinit : ∀ s, S.init s → inv s)
    (hstep : ∀ s label t, S.ReachableVia ok s → inv s → ok s label →
      S.step s label = some t → inv t) : inv s := by
  induction hreach with
  | init h => exact hinit _ h
  | step hprev hok hst ih => exact hstep _ _ _ hprev ih hok hst

variable (S) (ok) in
/-- The states a run that goes on from `s` comes to. -/
inductive RunVia (s : State) : State → Prop where
  | refl : RunVia s s
  | step {t u : State} {label : Label} (hrun : RunVia s t) (hok : ok t label)
      (hstep : S.step t label = some u) : RunVia s u

theorem RunVia.weaken {ok' : State → Label → Prop} {s t : State} (hrun : S.RunVia ok s t)
    (himp : ∀ s label, ok s label → ok' s label) : S.RunVia ok' s t := by
  induction hrun with
  | refl => exact .refl
  | step _ hok hstep ih => exact .step ih (himp _ _ hok) hstep

theorem RunVia.trans {s t u : State} (hfirst : S.RunVia ok s t) (hrest : S.RunVia ok t u) :
    S.RunVia ok s u := by
  induction hrest with
  | refl => exact hfirst
  | step _ hok hstep ih => exact .step ih hok hstep

theorem RunVia.reachable {s t : State} (hreach : S.ReachableVia ok s)
    (hrun : S.RunVia ok s t) : S.ReachableVia ok t := by
  induction hrun with
  | refl => exact hreach
  | step _ hok hstep ih => exact .step ih hok hstep

/-- What holds where a run goes on from and is kept by its steps holds in every
state the run comes to. -/
theorem RunVia.invariant {inv : State → Prop} {s t : State} (hrun : S.RunVia ok s t)
    (hreach : S.ReachableVia ok s) (hinv : inv s)
    (hstep : ∀ s label t, S.ReachableVia ok s → inv s → ok s label →
      S.step s label = some t → inv t) : inv t := by
  induction hrun with
  | refl => exact hinv
  | step hprev hok hst ih => exact hstep _ _ _ (hprev.reachable hreach) ih hok hst

/-- Simulation rule: a map of states that turns every allowed step of `S` into
an allowed step of `T`, or into none at all, turns the runs of `S` into runs of
`T`. -/
theorem ReachableVia.simulates {State' : Type u} {Label' : Type v}
    {T : TransitionSystem State' Label'} {ok' : State' → Label' → Prop}
    {s : State} (hreach : S.ReachableVia ok s) (abs : State → State')
    (hinit : ∀ s, S.init s → T.init (abs s))
    (hstep : ∀ s label t, S.ReachableVia ok s → ok s label → S.step s label = some t →
      abs t = abs s ∨
        ∃ label', ok' (abs s) label' ∧ T.step (abs s) label' = some (abs t)) :
    T.ReachableVia ok' (abs s) := by
  induction hreach with
  | init h => exact .init (hinit _ h)
  | step hprev hok hst ih =>
      obtain heq | ⟨label', hok', hst'⟩ := hstep _ _ _ hprev hok hst
      · rw [heq]
        exact ih
      · exact .step ih hok' hst'

section History

variable {History : Type u} (start : History) (record : State → Label → History → History)

variable (S) in
/-- The system with a history variable: every step writes it and none reads it. -/
def withHistory : TransitionSystem (State × History) Label where
  init s := S.init s.1 ∧ s.2 = start
  step s label := (S.step s.1 label).map fun next => (next, record s.1 label s.2)

variable {start record}

theorem withHistory_some {s t : State × History} {label : Label}
    (hstep : (S.withHistory start record).step s label = some t) :
    S.step s.1 label = some t.1 ∧ t.2 = record s.1 label s.2 := by
  obtain ⟨next, hnext, rfl⟩ := Option.map_eq_some_iff.mp hstep
  exact ⟨hnext, rfl⟩

/-- Leaving the history out. -/
theorem ReachableVia.forget {ok' : State × History → Label → Prop} {s : State × History}
    (hreach : (S.withHistory start record).ReachableVia ok' s)
    (himp : ∀ s label, ok' s label → ok s.1 label) : S.ReachableVia ok s.1 := by
  induction hreach with
  | init hinit => exact .init hinit.1
  | step _ hok hstep ih => exact .step ih (himp _ _ hok) (withHistory_some hstep).1

/-- Every run has a history. -/
theorem ReachableVia.exists_history {s : State} (hreach : S.ReachableVia ok s) :
    ∃ history, (S.withHistory start record).ReachableVia (fun t label => ok t.1 label)
      (s, history) := by
  induction hreach with
  | init hinit => exact ⟨start, .init ⟨hinit, rfl⟩⟩
  | @step s t label _ hok hstep ih =>
      obtain ⟨history, hrun⟩ := ih
      refine ⟨record s label history, .step hrun hok ?_⟩
      simp only [withHistory, hstep, Option.map_some]

end History

/-- Executes the labels in order and stops at the first disabled one. -/
def exec (S : TransitionSystem State Label) : State → List Label → Option State
  | s, [] => some s
  | s, label :: rest => (S.step s label).bind fun t => S.exec t rest

theorem exec_append (s : State) (before after : List Label) :
    S.exec s (before ++ after) = (S.exec s before).bind fun t => S.exec t after := by
  induction before generalizing s with
  | nil => rfl
  | cons label rest ih =>
      simp only [List.cons_append, exec]
      rw [Option.bind_assoc]
      exact Option.bind_congr fun t _ => ih t

theorem ReachableVia.exec {labels : List Label} {s t : State}
    (hreach : S.ReachableVia ok s) (hok : ∀ label ∈ labels, ∀ s, ok s label)
    (hexec : S.exec s labels = some t) : S.ReachableVia ok t := by
  induction labels generalizing s with
  | nil =>
      obtain rfl : s = t := Option.some.inj hexec
      exact hreach
  | cons label rest ih =>
      obtain ⟨next, hnext, hrest⟩ := Option.bind_eq_some_iff.mp hexec
      have hhead : ok s label := hok label List.mem_cons_self s
      have htail : ∀ later ∈ rest, ∀ s, ok s later := fun later hmem =>
        hok later (List.mem_cons_of_mem _ hmem)
      exact ih (.step hreach hhead hnext) htail hrest

/-- A concrete run that ends in a state passing a Boolean test exhibits a
reachable state that passes it. -/
theorem reachable_of_exec (labels : List Label) {s : State} (hinit : S.init s)
    {test : State → Bool} (hok : ∀ label ∈ labels, ∀ s, ok s label)
    (htest : (S.exec s labels).any test = true) :
    ∃ t, S.ReachableVia ok t ∧ test t = true := by
  cases hexec : S.exec s labels with
  | none => simp [hexec] at htest
  | some t =>
      refine ⟨t, ReachableVia.exec (.init hinit) hok hexec, ?_⟩
      simpa [hexec] using htest

/-- Executes the labels in order and stops at the first one that is disabled or
does not pass the guard. -/
def execGuarded (S : TransitionSystem State Label) (guard : State → Label → Bool) :
    State → List Label → Option State
  | s, [] => some s
  | s, label :: rest =>
      if guard s label then (S.step s label).bind fun t => S.execGuarded guard t rest else none

/-- A concrete run whose steps all pass a guard that is enough for the
condition. -/
theorem reachable_of_execGuarded (labels : List Label) {guard : State → Label → Bool} {s : State}
    (hreach : S.ReachableVia ok s) {test : State → Bool}
    (hguard : ∀ s label, guard s label = true → ok s label)
    (htest : (S.execGuarded guard s labels).any test = true) :
    ∃ t, S.ReachableVia ok t ∧ test t = true := by
  induction labels generalizing s with
  | nil => exact ⟨s, hreach, htest⟩
  | cons label rest ih =>
      unfold execGuarded at htest
      split at htest
      · next hpass =>
          cases hstep : S.step s label with
          | none => simp [hstep] at htest
          | some t =>
              rw [hstep] at htest
              exact ih (.step hreach (hguard s label hpass) hstep) htest
      · cases htest

end TransitionSystem

/-- A table of a state after one of its entries has been written. -/
theorem update_cases {κ ν : Type*} [DecidableEq κ] {table : κ → ν} {key query : κ}
    {value found : ν} (hget : Function.update table key value query = found) :
    (query = key ∧ found = value) ∨ (query ≠ key ∧ table query = found) := by
  rw [Function.update_apply] at hget
  split at hget
  · next hquery => exact .inl ⟨hquery, hget.symm⟩
  · next hquery => exact .inr ⟨hquery, hget⟩

/-- An entry that is not the one written now was there before. -/
theorem update_kept {κ ν : Type*} [DecidableEq κ] {table : κ → ν} {key query : κ}
    {value found : ν} (hget : Function.update table key value query = found)
    (hother : value ≠ found) : table query = found := by
  rcases update_cases hget with ⟨_, heq⟩ | ⟨_, hkept⟩
  · exact absurd heq.symm hother
  · exact hkept

end PiSSM.Lib
