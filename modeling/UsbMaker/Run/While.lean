import Mathlib.Logic.Function.Iterate

/-!
# While loops with a condition that is computed

The condition of a loop may itself be a computation that does not end. A computation that ends in a
number of turns is an `Option`: `none` says that the turns were not enough. A loop ends where its
condition is false for the first time, and more turns do not change how it ends.

## Main definitions

* `While.run`: a loop in a number of turns.

## Main results

* `While.run_eq_of_first`: where a loop ends.
* `While.run_invariant`: what holds before every turn holds at the end.
* `While.run_of_measure`: a loop whose turns make a number smaller ends.
* `While.run_mono`: more turns.
-/

namespace UsbMaker.While

variable {α : Type} {guard guard' : α → Option Bool} {body : α → α}

/-- `while (guard) body`, in a number of turns. -/
def run (guard : α → Option Bool) (body : α → α) : Nat → α → Option α
  | 0, _ => none
  | turns + 1, a => do
    if ← guard a then run guard body turns (body a)
    else return a

theorem run_of_true {turns : Nat} {a : α} (h : guard a = some true) :
    run guard body (turns + 1) a = run guard body turns (body a) := by
  rw [run, h]
  rfl

theorem run_of_false {turns : Nat} {a : α} (h : guard a = some false) :
    run guard body (turns + 1) a = some a := by
  rw [run, h]
  rfl

section Tests

variable {test : α → Bool}

theorem run_some_of_true {turns : Nat} {a : α} (h : test a = true) :
    run (fun a => some (test a)) body (turns + 1) a =
      run (fun a => some (test a)) body turns (body a) :=
  run_of_true (congrArg some h)

theorem run_some_of_false {turns : Nat} {a : α} (h : test a = false) :
    run (fun a => some (test a)) body (turns + 1) a = some a :=
  run_of_false (congrArg some h)

end Tests

/-- A loop ends where its condition is false for the first time. -/
theorem run_eq_of_first {k turns : Nat} {a : α}
    (hgoes : ∀ j < k, guard (body^[j] a) = some true)
    (hstops : guard (body^[k] a) = some false) (hturns : k < turns) :
    run guard body turns a = some (body^[k] a) := by
  induction k generalizing a turns with
  | zero =>
    cases turns with
    | zero => omega
    | succ turns => exact run_of_false hstops
  | succ k ih =>
    cases turns with
    | zero => omega
    | succ turns =>
      have hfirst : guard a = some true := hgoes 0 (Nat.succ_pos k)
      rw [run_of_true hfirst, Function.iterate_succ_apply]
      refine ih (fun j hj => ?_) ?_ (Nat.lt_of_succ_lt_succ hturns)
      · rw [← Function.iterate_succ_apply]
        exact hgoes (j + 1) (Nat.succ_lt_succ hj)
      · rwa [← Function.iterate_succ_apply]

/-- A loop that ends goes on to end so in more turns, also when its condition is computed in more
turns. -/
theorem run_mono (hguard : ∀ a b, guard a = some b → guard' a = some b) {turns turns' : Nat}
    (hturns : turns ≤ turns') {a b : α} (h : run guard body turns a = some b) :
    run guard' body turns' a = some b := by
  induction turns generalizing a turns' with
  | zero => cases h
  | succ turns ih =>
    obtain ⟨turns', rfl⟩ := Nat.exists_eq_succ_of_ne_zero (Nat.ne_zero_of_lt hturns)
    cases hcond : guard a with
    | none =>
      rw [run, hcond] at h
      cases h
    | some cond =>
      cases cond with
      | false =>
        rw [run_of_false hcond] at h
        rw [run_of_false (hguard a _ hcond), h]
      | true =>
        rw [run_of_true hcond] at h
        rw [run_of_true (hguard a _ hcond)]
        exact ih (Nat.le_of_succ_le_succ hturns) h

/-- What the turns keep holds at the end, where the condition is false. -/
theorem run_invariant {P : α → Prop} (hkeep : ∀ a, P a → guard a = some true → P (body a))
    {turns : Nat} {a b : α} (ha : P a) (h : run guard body turns a = some b) :
    P b ∧ guard b = some false := by
  induction turns generalizing a with
  | zero => cases h
  | succ turns ih =>
    cases hcond : guard a with
    | none =>
      rw [run, hcond] at h
      cases h
    | some cond =>
      cases cond with
      | false =>
        rw [run_of_false hcond] at h
        cases h
        exact ⟨ha, hcond⟩
      | true =>
        rw [run_of_true hcond] at h
        exact ih (hkeep a ha hcond) h

/-- A loop ends whose turns keep an invariant and make a number smaller, in more turns than the
number says. -/
theorem run_of_measure {P : α → Prop} (measure : α → Nat)
    (hcond : ∀ a, P a → (guard a).isSome = true)
    (hkeep : ∀ a, P a → guard a = some true → P (body a) ∧ measure (body a) < measure a)
    {turns : Nat} {a : α} (ha : P a) (hturns : measure a < turns) :
    ∃ b, run guard body turns a = some b ∧ P b ∧ guard b = some false := by
  induction turns generalizing a with
  | zero => exact absurd hturns (Nat.not_lt_zero _)
  | succ turns ih =>
    obtain ⟨cond, hguard⟩ := Option.isSome_iff_exists.mp (hcond a ha)
    cases cond with
    | false => exact ⟨a, run_of_false hguard, ha, hguard⟩
    | true =>
      obtain ⟨hbody, hlt⟩ := hkeep a ha hguard
      rw [run_of_true hguard]
      exact ih hbody (by omega)

/-- A loop whose condition was true every time has not ended yet. -/
theorem run_eq_none_of_true {turns : Nat} {a : α}
    (hgoes : ∀ j < turns, guard (body^[j] a) = some true) : run guard body turns a = none := by
  induction turns generalizing a with
  | zero => rfl
  | succ turns ih =>
    have hfirst : guard a = some true := hgoes 0 (Nat.succ_pos turns)
    rw [run_of_true hfirst]
    refine ih fun j hj => ?_
    rw [← Function.iterate_succ_apply]
    exact hgoes (j + 1) (Nat.succ_lt_succ hj)

end UsbMaker.While
