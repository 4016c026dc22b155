import Mathlib.Data.List.TakeDrop
import UsbMaker.Run.Layout

/-!
# Reading and writing a medium

A medium has a byte at every address. A string of bytes is read from and written to the addresses
that follow one another. Where a device writes block by block, a series of writes can stop after any
number of blocks (`Medium.writeBlocks`), so that one write of the series is left in part, those
before it are done and those after it are not.

## Main definitions

* `Medium`, `Medium.read`, `Medium.write`.
* `Medium.writeAll`: a series of writes.
* `Medium.writeBlocks`: a series of writes that stops after a number of blocks.

## Main results

* `Medium.read_write_self`, `Medium.read_write_of_disjoint`, `Medium.read_write_take`.
-/

namespace UsbMaker

/-- A byte at every address. -/
abbrev Medium := Nat → Byte

namespace Medium

variable (m : Medium)

/-- The `n` bytes from an address on. -/
def read (start n : Nat) : List Byte := (List.range n).map fun i => m (start + i)

/-- The bytes from an address on are replaced. -/
def write (start : Nat) (bytes : List Byte) : Medium := fun i =>
  if start ≤ i ∧ i < start + bytes.length then bytes.getD (i - start) 0 else m i

@[simp] theorem length_read (start n : Nat) : (m.read start n).length = n := by simp [read]

theorem getElem_read (start n i : Nat) (h : i < (m.read start n).length) :
    (m.read start n)[i] = m (start + i) := by
  simp [read]

theorem read_congr {m m' : Medium} {start n : Nat}
    (h : ∀ i, start ≤ i → i < start + n → m i = m' i) : m.read start n = m'.read start n := by
  refine List.map_congr_left fun i hi => ?_
  rw [List.mem_range] at hi
  exact h _ (Nat.le_add_right _ _) (Nat.add_lt_add_left hi start)

theorem write_of_lt {start i : Nat} {bytes : List Byte} (h : i < start) :
    m.write start bytes i = m i := if_neg fun hin => by omega

theorem write_of_ge {start i : Nat} {bytes : List Byte} (h : start + bytes.length ≤ i) :
    m.write start bytes i = m i := if_neg fun hin => by omega

@[simp] theorem write_nil (start : Nat) : m.write start [] = m := by
  funext i
  exact if_neg fun hin => by simp only [List.length_nil] at hin; omega

theorem read_write_self (start : Nat) (bytes : List Byte) :
    (m.write start bytes).read start bytes.length = bytes := by
  refine List.ext_getElem (by simp) fun i hi hi' => ?_
  have hin : start ≤ start + i ∧ start + i < start + bytes.length := by omega
  rw [getElem_read, write, if_pos hin, Nat.add_sub_cancel_left, List.getD_eq_getElem _ _ hi']

/-- A write elsewhere is not read. -/
theorem read_write_of_disjoint {start n start' : Nat} {bytes : List Byte}
    (h : start + n ≤ start' ∨ start' + bytes.length ≤ start) :
    (m.write start' bytes).read start n = m.read start n := by
  refine read_congr fun i hle hlt => ?_
  rcases h with h | h
  · exact write_of_lt m (by omega)
  · exact write_of_ge m (by omega)

theorem read_add (start k n : Nat) :
    m.read start (k + n) = m.read start k ++ m.read (start + k) n := by
  rw [read, read, read, List.range_add, List.map_append, List.map_map]
  congr 1
  refine List.map_congr_left fun i _ => ?_
  rw [Function.comp_apply, Nat.add_assoc]

theorem take_read {start n k : Nat} (h : k ≤ n) : (m.read start n).take k = m.read start k := by
  obtain ⟨d, rfl⟩ := Nat.exists_eq_add_of_le h
  rw [read_add, List.take_left' (length_read m start k)]

theorem drop_read {start n k : Nat} (h : k ≤ n) :
    (m.read start n).drop k = m.read (start + k) (n - k) := by
  obtain ⟨d, rfl⟩ := Nat.exists_eq_add_of_le h
  rw [read_add, List.drop_left' (length_read m start k), Nat.add_sub_cancel_left]

/-- The beginning of a string that is written over another one. -/
theorem read_write_take {start n k : Nat} {bytes : List Byte} (hlength : bytes.length = n)
    (h : k ≤ n) :
    (m.write start (bytes.take k)).read start n = bytes.take k ++ (m.read start n).drop k := by
  have htake : (bytes.take k).length = k := by rw [List.length_take, hlength, Nat.min_eq_left h]
  obtain ⟨d, rfl⟩ := Nat.exists_eq_add_of_le h
  have hhead := read_write_self m start (bytes.take k)
  rw [htake] at hhead
  rw [read_add, hhead, drop_read m h, Nat.add_sub_cancel_left,
    read_write_of_disjoint m (.inr (by rw [htake]))]

/-! ### Series of writes -/

/-- A series of writes. -/
def writeAll (writes : List (Nat × List Byte)) : Medium :=
  writes.foldl (fun m w => m.write w.1 w.2) m

/-- A series of writes that stops after `count` blocks of `block` bytes. -/
def writeBlocks (block : Nat) (count : Nat) : List (Nat × List Byte) → Medium → Medium
  | [], m => m
  | (start, bytes) :: writes, m =>
    if count * block < bytes.length then m.write start (bytes.take (count * block))
    else writeBlocks block (count - bytes.length / block) writes (m.write start bytes)

@[simp] theorem writeAll_nil : m.writeAll [] = m := rfl

@[simp] theorem writeAll_cons (start : Nat) (bytes : List Byte) (writes : List (Nat × List Byte)) :
    m.writeAll ((start, bytes) :: writes) = (m.write start bytes).writeAll writes := rfl

end Medium

end UsbMaker
