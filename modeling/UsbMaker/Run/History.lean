import Mathlib.Data.List.Basic

/-!
# Histories

A program that keeps a list of what it has done, newest entry first, can be asked whether every
entry was right when it was made. `Recorded P log` says that each entry stands in the relation `P`
to the entries before it. As a state grows its history one entry at a time, this is an invariant
that is kept entry by entry (`recorded_cons`), and it is read back for any entry of the history
(`recorded_iff`). `Occurred P log` says that some entry does.

## Main definitions

* `Recorded`, `Occurred`.

## Main results

* `recorded_iff`.
-/

namespace UsbMaker

variable {α : Type*} {P : α → List α → Prop}

/-- Every entry of a history, newest first, stands in the relation `P` to the entries before it. -/
def Recorded (P : α → List α → Prop) : List α → Prop
  | [] => True
  | entry :: log => P entry log ∧ Recorded P log

@[simp] theorem recorded_nil : Recorded P [] := trivial

@[simp] theorem recorded_cons {entry : α} {log : List α} :
    Recorded P (entry :: log) ↔ P entry log ∧ Recorded P log := Iff.rfl

theorem recorded_iff {log : List α} :
    Recorded P log ↔ ∀ after entry before, log = after ++ entry :: before → P entry before := by
  induction log with
  | nil => simp
  | cons newest log ih =>
    rw [recorded_cons, ih]
    constructor
    · rintro ⟨hnewest, hlog⟩ after entry before h
      cases after with
      | nil =>
        obtain ⟨rfl, rfl⟩ := List.cons.inj h
        exact hnewest
      | cons first after => exact hlog after entry before (List.cons.inj h).2
    · intro h
      refine ⟨h [] newest log rfl, fun after entry before hlog => ?_⟩
      exact h (newest :: after) entry before (by rw [hlog, List.cons_append])

/-- Some entry of a history, newest first, stands in the relation `P` to the entries before it. -/
def Occurred (P : α → List α → Prop) : List α → Prop
  | [] => False
  | entry :: log => P entry log ∨ Occurred P log

@[simp] theorem occurred_nil : ¬ Occurred P [] := id

@[simp] theorem occurred_cons {entry : α} {log : List α} :
    Occurred P (entry :: log) ↔ P entry log ∨ Occurred P log := Iff.rfl

theorem Occurred.of_suffix {log log' : List α} (h : Occurred P log) (hlog : log <:+ log') :
    Occurred P log' := by
  induction log' with
  | nil => rwa [List.suffix_nil.1 hlog] at h
  | cons entry log' ih =>
    rcases List.suffix_cons_iff.1 hlog with rfl | hlog
    · exact h
    · exact Or.inr (ih hlog)

section Decidable

variable [hP : ∀ entry log, Decidable (P entry log)]

instance decidableRecorded : DecidablePred (Recorded P)
  | [] => isTrue trivial
  | entry :: log =>
    have := decidableRecorded log
    inferInstanceAs (Decidable (P entry log ∧ Recorded P log))

instance decidableOccurred : DecidablePred (Occurred P)
  | [] => isFalse id
  | entry :: log =>
    have := decidableOccurred log
    inferInstanceAs (Decidable (P entry log ∨ Occurred P log))

end Decidable

end UsbMaker
