import Mathlib.Data.List.Basic
import UsbMaker.Run.Program

/-!
# Buffers of texts

A `Buffer` is a block of memory whose contents are not known until something is stored there. It
keeps account of the places where something has been stored and of all that have been touched, so
that a program on buffers can be shown to read only what was stored and to stay within a size.

Several texts are kept in a buffer one after the other, each with a zero behind it, and a further
zero behind the last one.

## Main definitions

* `Buffer`, `Buffer.read`, `Buffer.store`, `Buffer.strlen`.
* `Buffer.Reads`: a program has read some places only; `Buffer.Grows`: it has touched more.
* `Buffer.Text`, `Buffer.joined`: texts that are not empty, and their bytes.
* `Buffer.Holds`: a buffer begins with some texts.

## Main results

* `Buffer.joined_end`: how the last text ends.
* `Buffer.strlen_eq`: the length of a text that is in the buffer.
-/

namespace UsbMaker

open Program

/-- A block of memory: its bytes, the places where something has been stored, and the places that
were touched. -/
structure Buffer where
  bytes : Nat → UInt8
  written : Nat → Bool
  touched : Nat → Bool

namespace Buffer

/-- A block of memory that nothing has been done with. -/
def fresh (garbage : Nat → UInt8) : Buffer := ⟨garbage, fun _ => false, fun _ => false⟩

/-- The byte at a place. -/
def read (k : Nat) : StateM Buffer UInt8 := fun b =>
  (b.bytes k, { b with touched := fun j => b.touched j || j == k })

/-- Bytes from a place on. -/
def store (start : Nat) (data : List UInt8) : StateM Buffer Unit := fun b =>
  ((), { bytes := fun j => if start ≤ j ∧ j < start + data.length then data[j - start]?.getD 0
            else b.bytes j
         written := fun j => b.written j || decide (start ≤ j ∧ j < start + data.length)
         touched := fun j => b.touched j || decide (start ≤ j ∧ j < start + data.length) })

/-- The length of the text at a place; `none` means that there is no zero among the first bytes. -/
def strlen (turns p : Nat) : StateM Buffer (Option Nat) :=
  loop (fun k => do
    if (← read (p + k)) = 0 then return .inr k
    else return .inl (k + 1)) turns 0

/-! ### What is read -/

/-- Only places with a property were read, and nothing was stored. -/
structure Reads (P : Nat → Prop) (b b' : Buffer) : Prop where
  bytes : b'.bytes = b.bytes
  written : b'.written = b.written
  touched : ∀ k, b'.touched k = true → b.touched k = true ∨ P k

variable {P : Nat → Prop}

instance : Std.Refl (Reads P) := ⟨fun _ => ⟨rfl, rfl, fun _ => Or.inl⟩⟩

instance : IsTrans Buffer (Reads P) where
  trans a b c h h' := by
    refine ⟨h'.bytes.trans h.bytes, h'.written.trans h.written, fun k hk => ?_⟩
    rcases h'.touched k hk with hk | hk
    · exact h.touched k hk
    · exact Or.inr hk

theorem Reads.mono {Q : Nat → Prop} {b b' : Buffer} (h : Reads P b b') (hle : ∀ k, P k → Q k) :
    Reads Q b b' :=
  ⟨h.bytes, h.written, fun k hk => (h.touched k hk).imp_right (hle k)⟩

theorem reads_read {k : Nat} (hk : P k) : Keeps (Reads P) (read k) := by
  intro b
  refine ⟨rfl, rfl, fun j hj => ?_⟩
  rcases Bool.or_eq_true _ _ ▸ hj with hj | hj
  · exact Or.inl hj
  · exact Or.inr (beq_iff_eq.1 hj ▸ hk)

/-- What has been touched stays so. -/
def Grows (b b' : Buffer) : Prop := ∀ k, b.touched k = true → b'.touched k = true

instance : Std.Refl Grows := ⟨fun _ _ => id⟩

instance : IsTrans Buffer Grows := ⟨fun _ _ _ h h' k hk => h' k (h k hk)⟩

theorem grows_read (k : Nat) : Keeps Grows (read k) := by
  intro b j hj
  change (b.touched j || _) = true
  rw [hj, Bool.true_or]

theorem grows_store (start : Nat) (data : List UInt8) : Keeps Grows (store start data) := by
  intro b j hj
  change (b.touched j || _) = true
  rw [hj, Bool.true_or]

theorem touched_read (k : Nat) (b : Buffer) : (read k b).2.touched k = true := by
  change (b.touched k || k == k) = true
  rw [beq_self_eq_true, Bool.or_true]

theorem touched_store {start k : Nat} {data : List UInt8} (b : Buffer) (hle : start ≤ k)
    (hlt : k < start + data.length) : (store start data b).2.touched k = true := by
  change (b.touched k || decide (start ≤ k ∧ k < start + data.length)) = true
  rw [decide_eq_true ⟨hle, hlt⟩, Bool.or_true]

theorem grows_strlen (turns p : Nat) : Keeps Grows (strlen turns p) := by
  refine Keeps.loop (fun k => .bind (grows_read _) fun c => ?_) _ _
  split
  · exact .pure _
  · exact .pure _

/-! ### Texts -/

/-- A text of `char`s. -/
structure Text where
  chars : List UInt8
  ne_nil : chars ≠ []
  ne_zero : ∀ c ∈ chars, c ≠ 0
  deriving DecidableEq

/-- The bytes of some texts, each with a zero behind it. -/
def joined (texts : List Text) : List UInt8 := texts.flatMap fun text => text.chars ++ [0]

@[simp] theorem joined_nil : joined [] = [] := rfl

@[simp] theorem joined_cons (text : Text) (texts : List Text) :
    joined (text :: texts) = text.chars ++ 0 :: joined texts := by
  simp [joined]

@[simp] theorem joined_append (texts texts' : List Text) :
    joined (texts ++ texts') = joined texts ++ joined texts' := List.flatMap_append

/-- Some texts end with the last `char` of the last one and a zero. -/
theorem joined_eq {texts : List Text} (h : texts ≠ []) :
    ∃ init c, c ≠ 0 ∧ joined texts = init ++ [c, 0] := by
  have hchars := (texts.getLast h).ne_nil
  refine ⟨joined texts.dropLast ++ (texts.getLast h).chars.dropLast,
    (texts.getLast h).chars.getLast hchars, ?_, ?_⟩
  · exact (texts.getLast h).ne_zero _ (List.getLast_mem hchars)
  · conv_lhs => rw [← List.dropLast_append_getLast h]
    conv_lhs => rw [joined_append, joined_cons, ← List.dropLast_append_getLast hchars]
    simp

theorem joined_end {texts : List Text} (h : texts ≠ []) :
    2 ≤ (joined texts).length ∧ (joined texts)[(joined texts).length - 1]?.getD 0 = 0 ∧
      (joined texts)[(joined texts).length - 2]?.getD 0 ≠ 0 := by
  obtain ⟨init, c, hc, heq⟩ := joined_eq h
  rw [heq]
  refine ⟨by simp, by simp, ?_⟩
  simpa using hc

/-- The buffer begins with some texts and has zeros behind them, up to a size. -/
structure Holds (texts : List Text) (size : Nat) (b : Buffer) : Prop where
  bytes : ∀ k < size, b.bytes k = (joined texts)[k]?.getD 0
  written : ∀ k < size, b.written k = true

/-- Zeros behind the texts. -/
theorem Holds.zero {texts : List Text} {size k : Nat} {b : Buffer} (h : Holds texts size b)
    (hle : (joined texts).length ≤ k) (hlt : k < size) : b.bytes k = 0 := by
  rw [h.bytes k hlt, List.getElem?_eq_none hle, Option.getD_none]

theorem Holds.mono {texts : List Text} {size size' : Nat} {b : Buffer} (h : Holds texts size b)
    (hle : size' ≤ size) : Holds texts size' b :=
  ⟨fun k hk => h.bytes k (Nat.lt_of_lt_of_le hk hle),
    fun k hk => h.written k (Nat.lt_of_lt_of_le hk hle)⟩

theorem Holds.reads {texts : List Text} {size : Nat} {b b' : Buffer} (h : Holds texts size b)
    (hb : Reads P b b') : Holds texts size b' :=
  ⟨fun k hk => by rw [hb.bytes, h.bytes k hk], fun k hk => by rw [hb.written, h.written k hk]⟩

/-- A byte that is stored. -/
theorem bytes_store {start k : Nat} {data : List UInt8} (b : Buffer) (hle : start ≤ k)
    (hlt : k < start + data.length) : (store start data b).2.bytes k = data[k - start]?.getD 0 :=
  if_pos ⟨hle, hlt⟩

/-- A byte that is not stored. -/
theorem bytes_store_of_not {start k : Nat} {data : List UInt8} (b : Buffer)
    (h : ¬ (start ≤ k ∧ k < start + data.length)) : (store start data b).2.bytes k = b.bytes k :=
  if_neg h

theorem written_store {start k : Nat} {data : List UInt8} (b : Buffer)
    (h : b.written k = true ∨ start ≤ k ∧ k < start + data.length) :
    (store start data b).2.written k = true := by
  change (b.written k || decide (start ≤ k ∧ k < start + data.length)) = true
  rwa [Bool.or_eq_true, decide_eq_true_iff]

/-- Texts that are stored behind others, on the zero that ends them. The zeros that were behind it
stay, where they are not overwritten. -/
theorem Holds.store {texts texts' : List Text} {size : Nat} {b : Buffer} (h : Holds texts size b)
    (hle : (joined texts).length ≤ size) (n : Nat) :
    Holds (texts ++ texts') (max size ((joined texts).length + ((joined texts').length + n)))
      (store (joined texts).length (joined texts' ++ List.replicate n 0) b).2 := by
  have hlength : (joined texts' ++ List.replicate n (0 : UInt8)).length =
      (joined texts').length + n := by
    rw [List.length_append, List.length_replicate]
  refine ⟨fun k hk => ?_, fun k hk => written_store b ?_⟩
  · rw [joined_append]
    rcases Nat.lt_or_ge k (joined texts).length with hold | hnew
    · rw [bytes_store_of_not b (by omega), List.getElem?_append_left hold, h.bytes k (by omega)]
    rw [List.getElem?_append_right hnew]
    by_cases hin : k < (joined texts).length + ((joined texts').length + n)
    · rw [bytes_store b hnew (by omega)]
      rcases Nat.lt_or_ge (k - (joined texts).length) (joined texts').length with htext | hzero
      · rw [List.getElem?_append_left htext]
      · rw [List.getElem?_append_right hzero, List.getElem?_replicate, if_pos (by omega),
          List.getElem?_eq_none hzero, Option.getD_some, Option.getD_none]
    · rw [bytes_store_of_not b (by omega), h.zero hnew (by omega), List.getElem?_eq_none (by omega),
        Option.getD_none]
  · rw [hlength]
    rcases Nat.lt_or_ge k (joined texts).length with hold | hnew
    · exact Or.inl (h.written k (by omega))
    · by_cases hin : k < (joined texts).length + ((joined texts').length + n)
      · exact Or.inr ⟨hnew, hin⟩
      · exact Or.inl (h.written k (by omega))

/-- A store behind the zero that ends the texts leaves them. -/
theorem Holds.store_behind {texts : List Text} {start : Nat} {data : List UInt8} {b : Buffer}
    (h : Holds texts ((joined texts).length + 1) b) (hlt : (joined texts).length < start) :
    Holds texts ((joined texts).length + 1) (Buffer.store start data b).2 :=
  ⟨fun k hk => by rw [bytes_store_of_not b (by omega), h.bytes k hk],
    fun k hk => written_store b (Or.inl (h.written k hk))⟩

/-- Zeros that are stored behind the texts leave them. -/
theorem Holds.store_zeros {texts : List Text} {start : Nat} {b : Buffer}
    (h : Holds texts ((joined texts).length + 1) b) (hle : (joined texts).length ≤ start)
    (n : Nat) :
    Holds texts ((joined texts).length + 1) (Buffer.store start (List.replicate n 0) b).2 := by
  refine ⟨fun k hk => ?_, fun k hk => written_store b (Or.inl (h.written k hk))⟩
  by_cases hin : start ≤ k ∧ k < start + (List.replicate n (0 : UInt8)).length
  · rw [bytes_store b hin.1 hin.2, List.getElem?_eq_none (l := joined texts) (by omega),
      List.getElem?_replicate]
    split_ifs <;> rfl
  · rw [bytes_store_of_not b hin, h.bytes k hk]

/-- How the last of the texts ends in the buffer. -/
theorem Holds.ended {texts : List Text} {size : Nat} {b : Buffer} (h : Holds texts size b)
    (hlt : (joined texts).length < size) (hne : texts ≠ []) :
    2 ≤ (joined texts).length ∧ b.bytes ((joined texts).length - 2) ≠ 0 ∧
      b.bytes ((joined texts).length - 1) = 0 ∧ b.bytes (joined texts).length = 0 := by
  obtain ⟨htwo, hzero, hlast⟩ := joined_end hne
  refine ⟨htwo, ?_, ?_, h.zero (Nat.le_refl _) hlt⟩
  · rw [h.bytes _ (by omega)]
    exact hlast
  · rw [h.bytes _ (by omega)]
    exact hzero

/-- A text in the buffer, behind others. -/
theorem Holds.text {before after : List Text} {text : Text} {size : Nat} {b : Buffer}
    (h : Holds (before ++ text :: after) size b)
    (hsize : (joined (before ++ text :: after)).length ≤ size) :
    (∀ k c, text.chars[k]? = some c → b.bytes ((joined before).length + k) = c) ∧
      b.bytes ((joined before).length + text.chars.length) = 0 := by
  have hlength : (joined (before ++ text :: after)).length =
      (joined before).length + (text.chars.length + ((joined after).length + 1)) := by simp
  have hat (k : Nat) : (joined (before ++ text :: after))[(joined before).length + k]? =
      (text.chars ++ 0 :: joined after)[k]? := by
    rw [joined_append, joined_cons, List.getElem?_append_right (Nat.le_add_right _ _),
      Nat.add_sub_cancel_left]
  refine ⟨fun k c hc => ?_, ?_⟩
  · have hk : k < text.chars.length := (List.getElem?_eq_some_iff.1 hc).1
    rw [h.bytes _ (by omega), hat, List.getElem?_append_left hk, hc, Option.getD_some]
  · rw [h.bytes _ (by omega), hat, List.getElem?_append_right (Nat.le_refl _), Nat.sub_self]
    rfl

/-- The length of a text that is in the buffer. -/
theorem strlen_eq {text : List UInt8} {p turns : Nat} {b : Buffer}
    (htext : ∀ k < text.length, b.bytes (p + k) ≠ 0) (hend : b.bytes (p + text.length) = 0)
    (hturns : text.length < turns) :
    (strlen turns p b).1 = some text.length ∧
      Reads (fun k => k ≤ p + text.length) b (strlen turns p b).2 := by
  have hloop : ∃ n, (strlen turns p b).1 = some n ∧
      n = text.length ∧ Reads (fun k => k ≤ p + text.length) b (strlen turns p b).2 := by
    refine exists_loop (I := fun k c => k ≤ text.length ∧ Reads (fun k => k ≤ p + text.length) b c)
      (Q := fun n c => n = text.length ∧ Reads (fun k => k ≤ p + text.length) b c)
      (fun k _ => text.length - k) ?_ turns 0 b ⟨Nat.zero_le _, refl_of _ b⟩ (by omega)
    rintro k c ⟨hk, hc⟩
    have hread : Reads (fun k => k ≤ p + text.length) b (read (p + k) c).2 :=
      trans_of _ hc (reads_read (P := fun k => k ≤ p + text.length) (by omega) c)
    rw [bind_apply]
    by_cases hzero : (read (p + k) c).1 = 0
    · rw [if_pos hzero]
      refine ⟨?_, hread⟩
      by_contra hne
      have hbyte : (read (p + k) c).1 = b.bytes (p + k) := congrFun hc.bytes _
      rw [hbyte] at hzero
      exact htext k (by omega) hzero
    · rw [if_neg hzero]
      have hne : k ≠ text.length := by
        rintro rfl
        have hbyte : (read (p + text.length) c).1 = b.bytes (p + text.length) :=
          congrFun hc.bytes _
        exact hzero (hbyte.trans hend)
      exact ⟨⟨by omega, hread⟩, by omega⟩
  obtain ⟨n, hn, rfl, hreads⟩ := hloop
  exact ⟨hn, hreads⟩

/-- A text that is not shorter than the number of turns is not read to its end. -/
theorem strlen_eq_none {text : List UInt8} {p turns : Nat} {b : Buffer}
    (htext : ∀ k < text.length, b.bytes (p + k) ≠ 0) (hturns : turns ≤ text.length) :
    (strlen turns p b).1 = none := by
  have hfrom (turns k : Nat) (c : Buffer) (hc : c.bytes = b.bytes)
      (hle : k + turns ≤ text.length) :
      (loop (fun k => do
        if (← read (p + k)) = 0 then return .inr k
        else return .inl (k + 1)) turns k c).1 = none := by
    induction turns generalizing k c with
    | zero => rfl
    | succ turns ih =>
      have hne : (read (p + k) c).1 ≠ 0 := by
        have hbyte : (read (p + k) c).1 = b.bytes (p + k) := congrFun hc _
        rw [hbyte]
        exact htext k (by omega)
      rw [loop_succ, bind_apply, if_neg hne]
      exact ih (k + 1) _ hc (by omega)
  exact hfrom turns 0 b rfl (by omega)

end Buffer

end UsbMaker
