import Mathlib.Logic.Function.Iterate
import UsbMaker.Run.Layout

/-!
# Cyclic redundancy checks

A register of `w` bits takes a stream of bits, one in each turn: the bit is added to the lowest one
of the register, which is then moved down, and the polynomial is added where a one fell out. The
turn is linear over the field of two elements, and it loses nothing when the highest bit of the
polynomial is set. So what two streams leave in the register depends on where they differ, and two
streams that differ within `w` successive bits leave different registers.

## Main definitions

* `Crc.step`: the register in one turn, without a new bit.
* `Crc.run`: the register after a stream of bits.
* `Crc.byteStep`: the register after a byte, read off a table.

## Main results

* `Crc.run_bitsOf`: a table of the bytes does the same as the bits one after another.
* `Crc.run_ne_of_burst`: two streams that differ within `w` successive bits.
-/

namespace UsbMaker.Crc

variable {w : Nat} (poly : BitVec w)

/-! ### The register -/

/-- The register in one turn: the polynomial is added when a one falls out. -/
def step (c : BitVec w) : BitVec w :=
  if c.getLsbD 0 then c >>> 1 ^^^ poly else c >>> 1

theorem xor_xor_cancel (a b p : BitVec w) : a ^^^ p ^^^ (b ^^^ p) = a ^^^ b := by
  rw [BitVec.xor_assoc, BitVec.xor_comm b p, ← BitVec.xor_assoc p p b, BitVec.xor_self,
    BitVec.zero_xor]

theorem step_xor (a b : BitVec w) : step poly (a ^^^ b) = step poly a ^^^ step poly b := by
  rw [step, step, step, BitVec.getLsbD_xor, BitVec.ushiftRight_xor_distrib]
  cases a.getLsbD 0 with
  | false =>
    cases b.getLsbD 0 with
    | false => rfl
    | true => exact BitVec.xor_assoc _ _ _
  | true =>
    cases b.getLsbD 0 with
    | false =>
      change a >>> 1 ^^^ b >>> 1 ^^^ poly = a >>> 1 ^^^ poly ^^^ b >>> 1
      rw [BitVec.xor_assoc, BitVec.xor_comm (b >>> 1), ← BitVec.xor_assoc]
    | true => exact (xor_xor_cancel _ _ _).symm

theorem iterate_step_xor (n : Nat) (a b : BitVec w) :
    (step poly)^[n] (a ^^^ b) = (step poly)^[n] a ^^^ (step poly)^[n] b := by
  induction n generalizing a b with
  | zero => rfl
  | succ n ih => simp only [Function.iterate_succ_apply, step_xor, ih]

/-- As long as only zeros fall out, the register moves down. -/
theorem iterate_step_of_clear (x : BitVec w) (n : Nat) (h : ∀ i < n, x.getLsbD i = false) :
    (step poly)^[n] x = x >>> n := by
  induction n with
  | zero => simp
  | succ n ih =>
    have hlow : (x >>> n).getLsbD 0 = false := by
      simpa using h n (Nat.lt_succ_self n)
    rw [Function.iterate_succ_apply', ih fun i hi => h i (Nat.lt_succ_of_lt hi), step, hlow,
      BitVec.shiftRight_add]
    rfl

section Injective

variable {poly} (hpoly : poly.getLsbD (w - 1) = true)

include hpoly

/-- Only the zero becomes zero, since the highest bit shows that the polynomial was added. -/
theorem step_eq_zero {d : BitVec w} (h : step poly d = 0#w) : d = 0#w := by
  rw [step] at h
  cases hlow : d.getLsbD 0 with
  | true =>
    have hbit := congrArg (fun x : BitVec w => x.getLsbD (w - 1)) h
    have hw : w ≤ 1 + (w - 1) := by omega
    simp only [hlow, if_true, BitVec.getLsbD_xor, BitVec.getLsbD_ushiftRight, hpoly,
      BitVec.getLsbD_of_ge d _ hw, BitVec.getLsbD_zero] at hbit
    cases hbit
  | false =>
    simp only [hlow, Bool.false_eq_true, if_false] at h
    refine BitVec.eq_of_getLsbD_eq fun i hi => ?_
    cases i with
    | zero => rw [hlow, BitVec.getLsbD_zero]
    | succ i =>
      have hbit := congrArg (fun x : BitVec w => x.getLsbD i) h
      simpa [Nat.add_comm] using hbit

theorem step_injective : Function.Injective (step poly) := by
  intro a b h
  have hzero : step poly (a ^^^ b) = 0#w := by
    rw [step_xor, h, BitVec.xor_self]
  exact BitVec.xor_eq_zero_iff.mp (step_eq_zero hpoly hzero)

end Injective

/-! ### Streams of bits -/

/-- A bit in the lowest place. -/
def lowest (w : Nat) (b : Bool) : BitVec w := if b then 1#w else 0#w

/-- A bit enters the register. -/
def feed (c : BitVec w) (b : Bool) : BitVec w := step poly (c ^^^ lowest w b)

/-- The register after a stream of bits. -/
def run (c : BitVec w) (bits : List Bool) : BitVec w := bits.foldl (feed poly) c

/-- The bits of a stream side by side, the first one in the lowest place. -/
def pack (w : Nat) (bits : List Bool) : BitVec w := (BitVec.ofBoolListLE bits).setWidth w

theorem getLsbD_pack (bits : List Bool) (i : Nat) :
    (pack w bits).getLsbD i = (decide (i < w) && bits.getD i false) := by
  rw [pack, BitVec.getLsbD_setWidth, BitVec.getLsbD_ofBoolListLE]

theorem run_append (c : BitVec w) (xs ys : List Bool) :
    run poly c (xs ++ ys) = run poly (run poly c xs) ys := List.foldl_append

theorem lowest_xor_shiftLeft_pack (b : Bool) (bits : List Bool) :
    pack w (b :: bits) = lowest w b ^^^ pack w bits <<< 1 := by
  refine BitVec.eq_of_getLsbD_eq fun i hi => ?_
  rw [BitVec.getLsbD_xor, BitVec.getLsbD_shiftLeft, getLsbD_pack, getLsbD_pack, lowest]
  cases i with
  | zero => cases b <;> simp [hi]
  | succ i =>
    have hlow : (if b then 1#w else 0#w).getLsbD (i + 1) = false := by
      cases b <;> simp
    simp only [hlow, hi, Nat.lt_of_succ_lt hi, List.getD_cons_succ, Nat.add_sub_cancel,
      decide_true, Bool.true_and, Bool.false_xor]
    simp

/-- A stream of no more than `w` bits may enter the register before its turns. -/
theorem run_eq_iterate (c : BitVec w) (bits : List Bool) (h : bits.length ≤ w) :
    run poly c bits = (step poly)^[bits.length] (c ^^^ pack w bits) := by
  induction bits generalizing c with
  | nil =>
    have hnone : pack w [] = 0#w := BitVec.eq_of_getLsbD_eq fun i _ => by simp [getLsbD_pack]
    rw [hnone, BitVec.xor_zero]
    rfl
  | cons b bits ih =>
    rw [List.length_cons] at h
    have hmoved : step poly (pack w bits <<< 1) = pack w bits := by
      have hclear : ∀ i < 1, (pack w bits <<< 1).getLsbD i = false := by
        intro i hi
        simp [hi]
      refine (iterate_step_of_clear poly _ 1 hclear).trans ?_
      refine BitVec.eq_of_getLsbD_eq fun i hi => ?_
      rw [BitVec.getLsbD_ushiftRight, BitVec.getLsbD_shiftLeft, Nat.add_sub_cancel_left,
        getLsbD_pack]
      by_cases hlast : 1 + i < w
      · simp [hlast]
      · have hout : bits.length ≤ i := by omega
        rw [List.getD_eq_default _ _ hout]
        simp [hlast]
    calc run poly c (b :: bits)
        = run poly (feed poly c b) bits := rfl
      _ = (step poly)^[bits.length] (step poly (c ^^^ lowest w b) ^^^ pack w bits) :=
          ih _ (by omega)
      _ = (step poly)^[bits.length] (step poly (c ^^^ pack w (b :: bits))) := by
          rw [lowest_xor_shiftLeft_pack, ← BitVec.xor_assoc, step_xor poly (c ^^^ _), hmoved]
      _ = (step poly)^[(b :: bits).length] (c ^^^ pack w (b :: bits)) :=
          (Function.iterate_succ_apply _ _ _).symm

theorem pack_injective {xs ys : List Bool} (hlength : xs.length = ys.length)
    (hw : xs.length ≤ w) (h : pack w xs = pack w ys) : xs = ys := by
  refine List.ext_getElem hlength fun i hx hy => ?_
  have hbit := congrArg (fun x : BitVec w => x.getLsbD i) h
  simpa only [getLsbD_pack, Nat.lt_of_lt_of_le hx hw, decide_true, Bool.true_and,
    List.getD_eq_getElem _ _ hx, List.getD_eq_getElem _ _ hy] using hbit

section Burst

variable {poly} (hpoly : poly.getLsbD (w - 1) = true)

include hpoly

theorem feed_injective (b : Bool) : Function.Injective fun c => feed poly c b := by
  intro c c' h
  exact (BitVec.xor_left_inj _).mp (step_injective hpoly h)

theorem run_injective (bits : List Bool) : Function.Injective fun c => run poly c bits := by
  induction bits with
  | nil => exact Function.injective_id
  | cons b bits ih => exact ih.comp (feed_injective hpoly b)

/-- **Bursts**: two streams that differ within `w` successive bits leave different registers. -/
theorem run_ne_of_burst (c : BitVec w) {before mid mid' after : List Bool}
    (hlength : mid.length = mid'.length) (hw : mid.length ≤ w) (hne : mid ≠ mid') :
    run poly c (before ++ mid ++ after) ≠ run poly c (before ++ mid' ++ after) := by
  intro h
  rw [run_append, run_append, run_append, run_append] at h
  have hmid := run_injective hpoly after h
  rw [run_eq_iterate poly _ mid hw, run_eq_iterate poly _ mid' (hlength ▸ hw), ← hlength] at hmid
  have hpacked := (step_injective hpoly).iterate mid.length hmid
  exact hne (pack_injective hlength hw ((BitVec.xor_right_inj _).mp hpacked))

end Burst

/-! ### Bytes and their table -/

/-- What the table of the bytes has for a byte. -/
def tableEntry (byte : Byte) : BitVec w := (step poly)^[8] (byte.setWidth w)

/-- The register after a byte, with the table. -/
def byteStep (c : BitVec w) (byte : Byte) : BitVec w :=
  c >>> 8 ^^^ tableEntry poly (c.setWidth 8 ^^^ byte)

theorem pack_byteBits (byte : Byte) :
    pack w (byteBits byte) = byte.setWidth w := by
  refine BitVec.eq_of_getLsbD_eq fun i hi => ?_
  rw [getLsbD_pack, BitVec.getLsbD_setWidth, getD_byteBits]

/-- A register is its lowest byte and what is above it. -/
theorem low_xor_high (x : BitVec w) : (x.setWidth 8).setWidth w ^^^ (x >>> 8) <<< 8 = x := by
  refine BitVec.eq_of_getLsbD_eq fun i hi => ?_
  rw [BitVec.getLsbD_xor, BitVec.getLsbD_shiftLeft, BitVec.getLsbD_setWidth,
    BitVec.getLsbD_setWidth, BitVec.getLsbD_ushiftRight]
  by_cases h : i < 8
  · simp [h, hi]
  · have hback : 8 + (i - 8) = i := by omega
    simp [h, hi, hback]

theorem iterate_step_eight (x : BitVec w) :
    (step poly)^[8] x = x >>> 8 ^^^ tableEntry poly (x.setWidth 8) := by
  have hclear : ∀ i < 8, ((x >>> 8) <<< 8).getLsbD i = false := by
    intro i hi
    simp [hi]
  have hback : (x >>> 8) <<< 8 >>> 8 = x >>> 8 := by
    refine BitVec.eq_of_getLsbD_eq fun i hi => ?_
    rw [BitVec.getLsbD_ushiftRight, BitVec.getLsbD_shiftLeft, Nat.add_sub_cancel_left,
      BitVec.getLsbD_ushiftRight]
    by_cases h : 8 + i < w
    · simp [h]
    · simp [BitVec.getLsbD_of_ge x (8 + i) (by omega)]
  conv_lhs => rw [← low_xor_high x]
  rw [iterate_step_xor, iterate_step_of_clear poly _ 8 hclear, hback, BitVec.xor_comm]
  rfl

/-- The table does the same as eight turns. -/
theorem byteStep_eq_run (hw : 8 ≤ w) (c : BitVec w) (byte : Byte) :
    byteStep poly c byte = run poly c (byteBits byte) := by
  have hhigh : byte.setWidth w >>> 8 = 0#w := by
    refine BitVec.eq_of_getLsbD_eq fun i _ => ?_
    rw [BitVec.getLsbD_ushiftRight, BitVec.getLsbD_setWidth,
      BitVec.getLsbD_of_ge byte (8 + i) (by omega), Bool.and_false, BitVec.getLsbD_zero]
  have hlow : (c ^^^ byte.setWidth w).setWidth 8 = c.setWidth 8 ^^^ byte := by
    refine BitVec.eq_of_getLsbD_eq fun i hi => ?_
    have hiw : i < w := by omega
    simp [hi, hiw]
  rw [run_eq_iterate poly c _ (by simpa using hw), length_byteBits, pack_byteBits,
    iterate_step_eight, BitVec.ushiftRight_xor_distrib, hhigh, BitVec.xor_zero, hlow]
  rfl

/-- **The table**: a list of bytes goes through the table as its bits go through the register. -/
theorem run_bitsOf (hw : 8 ≤ w) (c : BitVec w) (bytes : List Byte) :
    run poly c (bitsOf bytes) = bytes.foldl (byteStep poly) c := by
  induction bytes generalizing c with
  | nil => rfl
  | cons byte bytes ih =>
    rw [bitsOf_cons, run_append, ← byteStep_eq_run poly hw, ih]
    rfl

end UsbMaker.Crc
