import Mathlib.Data.BitVec
import Mathlib.Data.List.GetD
import Mathlib.Data.List.OfFn
import Mathlib.Logic.Equiv.Defs

/-!
# Packed structures

A packed structure lies over its bytes: every string of bytes of the right length is a value of it,
and every value is one such string. `Layout` is such a correspondence. The layout of a structure is
that of its fields one after another; a number has its lowest byte first.

## Main definitions

* `Layout`: the values of a type as the strings of bytes of a given length.
* `Layout.word`, `Layout.prod`, `Layout.congr`, `Layout.permute`, `Layout.array`: the layouts of
  packed structures.
* `Layout.encodeAll`, `Layout.decodeAll`: an array whose length is not known before.
* `byteBits`, `bitsOf`: the bits of a byte and of a string of bytes.

## Main results

* `Layout.decodeAll_encodeAll`, `Layout.encodeAll_decodeAll`.
-/

namespace UsbMaker

/-- A byte. -/
abbrev Byte := BitVec 8

/-! ### The bits of bytes -/

/-- The bits of a byte, the lowest one first. -/
def byteBits (byte : Byte) : List Bool := List.ofFn fun i : Fin 8 => byte.getLsbD i

/-- The bits of a string of bytes. -/
def bitsOf (bytes : List Byte) : List Bool := bytes.flatMap byteBits

@[simp] theorem length_byteBits (byte : Byte) : (byteBits byte).length = 8 := List.length_ofFn

theorem getD_byteBits (byte : Byte) (i : Nat) : (byteBits byte).getD i false = byte.getLsbD i := by
  by_cases h : i < 8
  · rw [List.getD_eq_getElem _ _ (by simpa using h)]
    exact List.getElem_ofFn _
  · rw [List.getD_eq_default _ _ (by simpa using h), BitVec.getLsbD_of_ge byte i (by omega)]

theorem bitsOf_cons (byte : Byte) (bytes : List Byte) :
    bitsOf (byte :: bytes) = byteBits byte ++ bitsOf bytes := List.flatMap_cons

theorem bitsOf_append (xs ys : List Byte) : bitsOf (xs ++ ys) = bitsOf xs ++ bitsOf ys :=
  List.flatMap_append

theorem getD_bitsOf (bytes : List Byte) (i : Nat) :
    (bitsOf bytes).getD i false = (bytes.getD (i / 8) 0).getLsbD (i % 8) := by
  induction bytes generalizing i with
  | nil => simp [bitsOf]
  | cons byte bytes ih =>
    rw [bitsOf_cons]
    by_cases h : i < 8
    · rw [List.getD_append _ _ _ _ (by simpa using h), getD_byteBits, Nat.div_eq_of_lt h,
        Nat.mod_eq_of_lt h, List.getD_cons_zero]
    · obtain ⟨k, rfl⟩ := Nat.exists_eq_add_of_le (Nat.not_lt.mp h)
      rw [List.getD_append_right _ _ _ _ (by simp), length_byteBits, Nat.add_sub_cancel_left, ih,
        Nat.add_div_left k (by decide), Nat.add_mod_left, List.getD_cons_succ]

/-! ### Layouts -/

/-- The values of a type as the strings of `size` bytes. -/
structure Layout (α : Type) where
  size : Nat
  encode : α → List Byte
  decode : List Byte → α
  length_encode : ∀ a, (encode a).length = size
  decode_encode : ∀ a, decode (encode a) = a
  encode_decode : ∀ bytes, bytes.length = size → encode (decode bytes) = bytes

namespace Layout

variable {α β : Type}

/-! #### Numbers -/

/-- The bytes of a number, the lowest one first. -/
def wordBytes (n : Nat) (x : BitVec (8 * n)) : List Byte :=
  List.ofFn fun i : Fin n => x.extractLsb' (8 * i) 8

/-- The number with these bytes. -/
def ofBytes (n : Nat) (bytes : List Byte) : BitVec (8 * n) :=
  (BitVec.ofBoolListLE (bitsOf bytes)).setWidth (8 * n)

theorem getLsbD_ofBytes (n : Nat) (bytes : List Byte) (i : Nat) (h : i < 8 * n) :
    (ofBytes n bytes).getLsbD i = (bytes.getD (i / 8) 0).getLsbD (i % 8) := by
  rw [ofBytes, BitVec.getLsbD_setWidth, BitVec.getLsbD_ofBoolListLE, getD_bitsOf, decide_eq_true h,
    Bool.true_and]

theorem getD_wordBytes (n : Nat) (x : BitVec (8 * n)) (i : Nat) (h : i < n) :
    (wordBytes n x).getD i 0 = x.extractLsb' (8 * i) 8 := by
  have hlength : i < (wordBytes n x).length := by simpa [wordBytes] using h
  rw [List.getD_eq_getElem _ _ hlength]
  exact List.getElem_ofFn _

theorem ofBytes_wordBytes (n : Nat) (x : BitVec (8 * n)) : ofBytes n (wordBytes n x) = x := by
  refine BitVec.eq_of_getLsbD_eq fun i hi => ?_
  have hback : 8 * (i / 8) + i % 8 = i := Nat.div_add_mod i 8
  have hmod : i % 8 < 8 := Nat.mod_lt i (by decide)
  rw [getLsbD_ofBytes n _ i hi, getD_wordBytes n x _ (by omega), BitVec.getLsbD_extractLsb',
    hback, decide_eq_true hmod, Bool.true_and]

theorem wordBytes_ofBytes (n : Nat) (bytes : List Byte) (h : bytes.length = n) :
    wordBytes n (ofBytes n bytes) = bytes := by
  refine List.ext_getElem (by simp [wordBytes, h]) fun i hi hi' => ?_
  have hin : i < n := h ▸ hi'
  refine BitVec.eq_of_getLsbD_eq fun j hj => ?_
  have hdiv : (8 * i + j) / 8 = i := by omega
  have hmod : (8 * i + j) % 8 = j := by omega
  simp only [wordBytes, List.getElem_ofFn]
  rw [BitVec.getLsbD_extractLsb', getLsbD_ofBytes n bytes _ (by omega), hdiv, hmod,
    List.getD_eq_getElem _ _ hi', decide_eq_true hj, Bool.true_and]

/-- A number of `n` bytes. -/
def word (n : Nat) : Layout (BitVec (8 * n)) where
  size := n
  encode := wordBytes n
  decode := ofBytes n
  length_encode _ := List.length_ofFn
  decode_encode := ofBytes_wordBytes n
  encode_decode := wordBytes_ofBytes n

/-- `uint8_t`. -/
abbrev u8 : Layout (BitVec 8) := word 1

/-- `uint16_t`. -/
abbrev u16 : Layout (BitVec 16) := word 2

/-- `uint32_t`. -/
abbrev u32 : Layout (BitVec 32) := word 4

/-- `uint64_t`. -/
abbrev u64 : Layout (BitVec 64) := word 8

/-! #### Structures -/

/-- Two values one after the other. -/
def prod (c : Layout α) (d : Layout β) : Layout (α × β) where
  size := c.size + d.size
  encode p := c.encode p.1 ++ d.encode p.2
  decode bytes := (c.decode (bytes.take c.size), d.decode (bytes.drop c.size))
  length_encode p := by rw [List.length_append, c.length_encode, d.length_encode]
  decode_encode p := by
    have hlength := c.length_encode p.1
    rw [List.take_left' hlength, List.drop_left' hlength, c.decode_encode, d.decode_encode]
  encode_decode bytes h := by
    have htake : (bytes.take c.size).length = c.size := by
      rw [List.length_take, h, Nat.min_eq_left (Nat.le_add_right _ _)]
    have hdrop : (bytes.drop c.size).length = d.size := by
      rw [List.length_drop, h, Nat.add_sub_cancel_left]
    rw [c.encode_decode _ htake, d.encode_decode _ hdrop, List.take_append_drop]

/-- Other names for the same values. -/
def congr (c : Layout α) (e : α ≃ β) : Layout β where
  size := c.size
  encode b := c.encode (e.symm b)
  decode bytes := e (c.decode bytes)
  length_encode b := c.length_encode _
  decode_encode b := by rw [c.decode_encode, e.apply_symm_apply]
  encode_decode bytes h := by rw [e.symm_apply_apply, c.encode_decode bytes h]

/-- The same bytes in another order. -/
def permute (c : Layout α) (σ : Equiv.Perm (Fin c.size)) : Layout α where
  size := c.size
  encode a := List.ofFn fun i => (c.encode a).getD (σ i) 0
  decode bytes := c.decode (List.ofFn fun i => bytes.getD (σ.symm i) 0)
  length_encode _ := List.length_ofFn
  decode_encode a := by
    have hback : (List.ofFn fun i => (List.ofFn fun j => (c.encode a).getD (σ j) 0).getD
        (σ.symm i) 0) = c.encode a := by
      refine List.ext_getElem (by simp [c.length_encode]) fun i hi hi' => ?_
      have hin : i < c.size := by simpa using hi
      rw [List.getElem_ofFn, List.getD_eq_getElem _ _ (by simp), List.getElem_ofFn,
        Fin.eta, σ.apply_symm_apply, List.getD_eq_getElem _ _ hi']
    rw [hback, c.decode_encode]
  encode_decode bytes h := by
    rw [c.encode_decode _ List.length_ofFn]
    refine List.ext_getElem (by simp [h]) fun i hi hi' => ?_
    have hin : i < c.size := h ▸ hi'
    rw [List.getElem_ofFn, List.getD_eq_getElem _ _ (by simp), List.getElem_ofFn, Fin.eta,
      σ.symm_apply_apply, List.getD_eq_getElem _ _ hi']

/-! #### Arrays -/

/-- The bytes of an array. -/
def encodeAll (c : Layout α) (as : List α) : List Byte := as.flatMap c.encode

/-- The array of `n` values at the beginning of a string of bytes. -/
def decodeAll (c : Layout α) : Nat → List Byte → List α
  | 0, _ => []
  | n + 1, bytes => c.decode (bytes.take c.size) :: decodeAll c n (bytes.drop c.size)

@[simp] theorem length_decodeAll (c : Layout α) (n : Nat) (bytes : List Byte) :
    (c.decodeAll n bytes).length = n := by
  induction n generalizing bytes with
  | zero => rfl
  | succ n ih => rw [decodeAll, List.length_cons, ih]

theorem encodeAll_cons (c : Layout α) (a : α) (as : List α) :
    c.encodeAll (a :: as) = c.encode a ++ c.encodeAll as := List.flatMap_cons

theorem length_encodeAll (c : Layout α) (as : List α) :
    (c.encodeAll as).length = as.length * c.size := by
  induction as with
  | nil => rw [List.length_nil, Nat.zero_mul]; rfl
  | cons a as ih =>
    rw [encodeAll_cons, List.length_append, c.length_encode, ih, List.length_cons, Nat.succ_mul,
      Nat.add_comm]

theorem encodeAll_append (c : Layout α) (as bs : List α) :
    c.encodeAll (as ++ bs) = c.encodeAll as ++ c.encodeAll bs := List.flatMap_append

theorem encodeAll_take (c : Layout α) (as : List α) (k : Nat) :
    c.encodeAll (as.take k) = (c.encodeAll as).take (k * c.size) := by
  rcases Nat.le_total k as.length with h | h
  · have hlength : (c.encodeAll (as.take k)).length = k * c.size := by
      rw [length_encodeAll, List.length_take, Nat.min_eq_left h]
    conv_rhs => rw [← List.take_append_drop k as, encodeAll_append]
    rw [List.take_left' hlength]
  · rw [List.take_of_length_le h, List.take_of_length_le]
    rw [length_encodeAll]
    exact Nat.mul_le_mul_right _ h

theorem encodeAll_drop (c : Layout α) (as : List α) (k : Nat) :
    c.encodeAll (as.drop k) = (c.encodeAll as).drop (k * c.size) := by
  have hall := congrArg c.encodeAll (List.take_append_drop k as)
  rw [encodeAll_append, encodeAll_take] at hall
  exact List.append_cancel_left (hall.trans (List.take_append_drop _ _).symm)

/-- What follows an array does not matter. -/
theorem decodeAll_encodeAll (c : Layout α) (as : List α) (rest : List Byte) :
    c.decodeAll as.length (c.encodeAll as ++ rest) = as := by
  induction as with
  | nil => rfl
  | cons a as ih =>
    have hlength := c.length_encode a
    rw [List.length_cons, decodeAll, encodeAll_cons, List.append_assoc, List.take_left' hlength,
      List.drop_left' hlength, c.decode_encode, ih]

theorem encodeAll_decodeAll (c : Layout α) (n : Nat) (bytes : List Byte)
    (h : bytes.length = n * c.size) : c.encodeAll (c.decodeAll n bytes) = bytes := by
  induction n generalizing bytes with
  | zero =>
    rw [Nat.zero_mul] at h
    rw [List.length_eq_zero_iff.mp h]
    rfl
  | succ n ih =>
    rw [Nat.succ_mul] at h
    have htake : (bytes.take c.size).length = c.size := by
      rw [List.length_take, h, Nat.min_eq_left (Nat.le_add_left _ _)]
    have hdrop : (bytes.drop c.size).length = n * c.size := by
      rw [List.length_drop, h, Nat.add_sub_cancel]
    rw [decodeAll, encodeAll_cons, c.encode_decode _ htake, ih _ hdrop, List.take_append_drop]

/-- An array of `n` values. -/
def array (c : Layout α) (n : Nat) : Layout (Vector α n) where
  size := n * c.size
  encode v := c.encodeAll v.toList
  decode bytes := ⟨(c.decodeAll n bytes).toArray, by simp⟩
  length_encode v := by rw [length_encodeAll, Vector.length_toList]
  decode_encode v := by
    have h := c.decodeAll_encodeAll v.toList []
    rw [List.append_nil, Vector.length_toList] at h
    exact Vector.toArray_inj.mp (by simp only [h]; rfl)
  encode_decode bytes h := c.encodeAll_decodeAll n bytes h

end Layout

end UsbMaker
