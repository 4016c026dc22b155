import Mathlib.Order.Defs.Unbundled

/-!
# Stateful programs

A program that returns an `α` and works on states `σ` is a `StateM σ α`. This file has two ways to
speak of one: `Keeps R x`, where `x` leads to states that stand in the relation `R` to the state
before, and `Ensures P x Q`, a precondition and a postcondition. Both come with the rules for
sequences, and `Ensures` with those for a loop whose body says whether it goes on. Two runs of one
program are compared with `Respects R x`: from states that stand in the relation `R`, `x` returns
the same result and leads to such states again.

## Main definitions

* `Program.Keeps`, `Program.Ensures`, `Program.Respects`.
* `Program.loop`: a loop that may use a number of turns; `Program.Turn`: what a turn leaves.
* `Program.Heads`: the variables and states at the heads of the turns of a loop.

## Main results

* `Program.Keeps.bind`, `Program.Ensures.bind`, `Program.Respects.bind`.
* `Program.Ensures.loop`: the loop rule, with an invariant and a variant; `Program.Keeps.loop`.
* `Program.Ensures.loop_any`, `Program.loop_eq_none`: loops that may not return.
* `Program.loop_congr`: loops that do not depend on a part of their variables.
* `Program.Heads.invariant`: an invariant holds at the head of every turn.
* `Program.exists_head_of_loop`: a loop that returns does so in a turn.
-/

namespace UsbMaker.Program

variable {σ α β ρ : Type} {R : σ → σ → Prop}

theorem bind_apply (x : StateM σ α) (f : α → StateM σ β) (s : σ) :
    (x >>= f) s = f (x s).1 (x s).2 := rfl

theorem pure_apply (a : α) (s : σ) : (pure a : StateM σ α) s = (a, s) := rfl

/-- Every run of `x` leads to a state that stands in the relation `R` to the one before. -/
def Keeps (R : σ → σ → Prop) (x : StateM σ α) : Prop := ∀ s, R s (x s).2

theorem Keeps.pure [Std.Refl R] (a : α) : Keeps R (Pure.pure a : StateM σ α) := fun s =>
  refl_of R s

theorem Keeps.bind [IsTrans σ R] {x : StateM σ α} {f : α → StateM σ β} (hx : Keeps R x)
    (hf : ∀ a, Keeps R (f a)) : Keeps R (x >>= f) := fun s =>
  trans_of R (hx s) (hf (x s).1 (x s).2)

/-- From a state that meets `P`, the result of `x` and the state after it meet `Q`. -/
def Ensures (P : σ → Prop) (x : StateM σ α) (Q : α → σ → Prop) : Prop :=
  ∀ s, P s → Q (x s).1 (x s).2

theorem Ensures.pure {P : σ → Prop} {Q : α → σ → Prop} {a : α} (h : ∀ s, P s → Q a s) :
    Ensures P (Pure.pure a : StateM σ α) Q := h

theorem Ensures.bind {P : σ → Prop} {Q : α → σ → Prop} {T : β → σ → Prop} {x : StateM σ α}
    {f : α → StateM σ β} (hx : Ensures P x Q) (hf : ∀ a, Ensures (Q a) (f a) T) :
    Ensures P (x >>= f) T := fun s hs =>
  hf (x s).1 (x s).2 (hx s hs)

/-- From states that stand in the relation `R`, the results of `x` are the same, and the states
after it stand in the relation `R`. -/
def Respects (R : σ → σ → Prop) (x : StateM σ α) : Prop :=
  ∀ s s', R s s' → (x s).1 = (x s').1 ∧ R (x s).2 (x s').2

theorem Respects.pure (a : α) : Respects R (Pure.pure a : StateM σ α) := fun _ _ h => ⟨rfl, h⟩

theorem Respects.bind {x : StateM σ α} {f : α → StateM σ β} (hx : Respects R x)
    (hf : ∀ a, Respects R (f a)) : Respects R (x >>= f) := by
  intro s s' h
  obtain ⟨hresult, hstate⟩ := hx s s' h
  rw [bind_apply, bind_apply, ← hresult]
  exact hf (x s).1 _ _ hstate

/-- The loop that runs `body` until it returns a result, for at most `fuel` turns. -/
def loop (body : β → StateM σ (β ⊕ ρ)) : Nat → β → StateM σ (Option ρ)
  | 0, _ => pure none
  | fuel + 1, b => do
    match ← body b with
    | .inl b => loop body fuel b
    | .inr r => pure (some r)

theorem loop_succ (body : β → StateM σ (β ⊕ ρ)) (fuel : Nat) (b : β) (s : σ) :
    loop body (fuel + 1) b s =
      match (body b s).1 with
      | .inl b' => loop body fuel b' (body b s).2
      | .inr r => (some r, (body b s).2) := by
  rw [loop, bind_apply]
  cases (body b s).1 <;> rfl

/-- What holds after a turn of a loop that goes on or returns. -/
def Turn (I : β → σ → Prop) (Q : ρ → σ → Prop) : β ⊕ ρ → σ → Prop
  | .inl b => I b
  | .inr r => Q r

variable {body : β → StateM σ (β ⊕ ρ)} {I : β → σ → Prop} {Q : ρ → σ → Prop}

/-- A loop returns a result that meets `Q` if every turn either keeps the invariant and lowers a
measure of the variables and the state, or returns such a result. -/
theorem exists_loop (μ : β → σ → Nat)
    (h : ∀ b s, I b s →
      Turn (fun b' s' => I b' s' ∧ μ b' s' < μ b s) Q (body b s).1 (body b s).2)
    (fuel : Nat) (b : β) (s : σ) (hs : I b s) (hfuel : μ b s < fuel) :
    ∃ a, (Program.loop body fuel b s).1 = some a ∧ Q a (Program.loop body fuel b s).2 := by
  induction fuel generalizing b s with
  | zero => omega
  | succ fuel ih =>
    have hturn := h b s hs
    rw [loop_succ]
    cases hr : (body b s).1 with
    | inl b' =>
      rw [hr] at hturn
      exact ih b' _ hturn.1 (by have := hturn.2; omega)
    | inr a =>
      rw [hr] at hturn
      exact ⟨a, rfl, hturn⟩

/-- **Loop rule.** If every turn either keeps the invariant and lowers a measure, or returns a
result that meets `Q`, the loop returns a result that meets `Q`. -/
theorem Ensures.loop (μ : β → Nat)
    (h : ∀ b, Ensures (I b) (body b) (Turn (fun b' s => I b' s ∧ μ b' < μ b) Q))
    (fuel : Nat) (b : β) (hfuel : μ b < fuel) :
    Ensures (I b) (Program.loop body fuel b) fun r s => ∃ a, r = some a ∧ Q a s := fun s hs =>
  exists_loop (fun b _ => μ b) h fuel b s hs hfuel

/-- What every turn leaves holds after a loop, whether it has returned or not. -/
theorem Ensures.loop_any {P : σ → Prop} (hI : ∀ b s, I b s → P s)
    (h : ∀ b, Ensures (I b) (body b) (Turn I fun _ => P)) (fuel : Nat) (b : β) :
    Ensures (I b) (Program.loop body fuel b) fun _ => P := by
  induction fuel generalizing b with
  | zero => exact .pure (hI b)
  | succ fuel ih =>
    refine .bind (h b) fun r => ?_
    cases r with
    | inl b' => exact ih b'
    | inr a => exact .pure fun _ hs => hs

/-- A loop whose turns always go on does not return. -/
theorem loop_eq_none
    (h : ∀ b s, I b s → ∃ b', (body b s).1 = .inl b' ∧ I b' (body b s).2)
    (fuel : Nat) (b : β) (s : σ) (hs : I b s) : (Program.loop body fuel b s).1 = none := by
  induction fuel generalizing b s with
  | zero => rfl
  | succ fuel ih =>
    obtain ⟨b', hb', hs'⟩ := h b s hs
    rw [loop_succ, hb']
    exact ih b' _ hs'

theorem Keeps.loop [Std.Refl R] [IsTrans σ R] (h : ∀ b, Keeps R (body b)) (fuel : Nat) (b : β) :
    Keeps R (Program.loop body fuel b) := by
  induction fuel generalizing b with
  | zero => exact .pure _
  | succ fuel ih =>
    refine .bind (h b) fun r => ?_
    cases r with
    | inl b' => exact ih b'
    | inr a => exact .pure _

theorem Respects.loop (h : ∀ b, Respects R (body b)) (fuel : Nat) (b : β) :
    Respects R (Program.loop body fuel b) := by
  induction fuel generalizing b with
  | zero => exact .pure _
  | succ fuel ih =>
    refine .bind (h b) fun r => ?_
    cases r with
    | inl b' => exact ih b'
    | inr a => exact .pure _

/-- Two turns that end in the same state both go on, with variables that stand in a relation, or
both return the same. -/
def Matching (S : β → β → σ → Prop) (s : σ) : β ⊕ ρ → β ⊕ ρ → Prop
  | .inl b, .inl b' => S b b' s
  | .inr r, .inr r' => r = r'
  | _, _ => False

theorem Matching.mono {S T : β → β → σ → Prop} {s : σ} {r r' : β ⊕ ρ} (h : Matching S s r r')
    (hle : ∀ b b', S b b' s → T b b' s) : Matching T s r r' := by
  cases r <;> cases r'
  · exact hle _ _ h
  · exact h
  · exact h
  · exact h

theorem Matching.turn {S : β → β → σ → Prop} {s : σ} {r r' : β ⊕ ρ} (h : Matching S s r r')
    (ht : Turn I Q r s) : Matching (fun b b' s => S b b' s ∧ I b s) s r r' := by
  cases r <;> cases r'
  · exact ⟨h, ht⟩
  · exact h
  · exact h
  · exact h

/-- A turn that does not depend on a part of the variables, and the turns after it. -/
theorem loop_succ_congr {S : β → β → σ → Prop} {fuel : Nat} {b b' : β} {s : σ}
    (hstate : (body b s).2 = (body b' s).2)
    (hmatch : Matching S (body b s).2 (body b s).1 (body b' s).1)
    (hrest : ∀ c c', S c c' (body b s).2 →
      Program.loop body fuel c (body b s).2 = Program.loop body fuel c' (body b s).2) :
    Program.loop body (fuel + 1) b s = Program.loop body (fuel + 1) b' s := by
  rw [loop_succ, loop_succ, ← hstate]
  cases hb : (body b s).1 <;> cases hb' : (body b' s).1 <;> rw [hb, hb'] at hmatch
  · exact hrest _ _ hmatch
  · exact hmatch.elim
  · exact hmatch.elim
  · rw [show _ = _ from hmatch]

/-- A loop does not depend on a part of its variables if its turns do not. -/
theorem loop_congr {S : β → β → σ → Prop}
    (h : ∀ b b' s, S b b' s → (body b s).2 = (body b' s).2 ∧
      Matching S (body b s).2 (body b s).1 (body b' s).1)
    (fuel : Nat) (b b' : β) (s : σ) (hs : S b b' s) :
    Program.loop body fuel b s = Program.loop body fuel b' s := by
  induction fuel generalizing b b' s with
  | zero => rfl
  | succ fuel ih =>
    obtain ⟨hstate, hmatch⟩ := h b b' s hs
    exact loop_succ_congr hstate hmatch fun c c' hc => ih c c' _ hc

/-- The variables and the states at the heads of the turns of a loop that begins with `b` in the
state `s`. -/
inductive Heads (body : β → StateM σ (β ⊕ ρ)) (b : β) (s : σ) : β → σ → Prop
  | start : Heads body b s b s
  | turn {b₁ s₁ b₂} (h : Heads body b s b₁ s₁) (ht : (body b₁ s₁).1 = .inl b₂) :
      Heads body b s b₂ (body b₁ s₁).2

theorem Heads.invariant {Q : β → ρ → σ → Prop} {b b₁ : β} {s s₁ : σ}
    (h : Heads body b s b₁ s₁) (h0 : I b s)
    (hturn : ∀ b, Ensures (I b) (body b) (Turn I (Q b))) : I b₁ s₁ := by
  induction h with
  | start => exact h0
  | @turn b₁ s₁ b₂ _ ht ih =>
    have hI := hturn b₁ s₁ ih
    rw [ht] at hI
    exact hI

/-- A turn that goes on is followed by the heads of the rest of the loop. -/
theorem Heads.head {b b₁ b₂ : β} {s s₂ : σ} (ht : (body b s).1 = .inl b₁)
    (h : Heads body b₁ (body b s).2 b₂ s₂) : Heads body b s b₂ s₂ := by
  induction h with
  | start => exact .turn .start ht
  | turn _ ht' ih => exact .turn ih ht'

/-- A loop that returns does so in a turn, and leaves the state that this turn leaves. -/
theorem exists_head_of_loop {fuel : Nat} {b : β} {s : σ} {r : ρ}
    (h : (Program.loop body fuel b s).1 = some r) :
    ∃ b₁ s₁, Heads body b s b₁ s₁ ∧ (body b₁ s₁).1 = .inr r ∧
      (Program.loop body fuel b s).2 = (body b₁ s₁).2 := by
  induction fuel generalizing b s with
  | zero => cases h
  | succ fuel ih =>
    rw [loop_succ] at h ⊢
    cases hb : (body b s).1 with
    | inl b' =>
      rw [hb] at h
      obtain ⟨b₁, s₁, hheads, hr, hs⟩ := ih h
      exact ⟨b₁, s₁, hheads.head hb, hr, hs⟩
    | inr r' =>
      rw [hb] at h
      obtain rfl : r' = r := Option.some.inj h
      exact ⟨b, s, .start, hb, rfl⟩

end UsbMaker.Program
