import Mathlib.Order.Interval.Finset.Nat
import UsbMaker.Devices.Hubs
import UsbMaker.Run.While

/-!
# The search of a hash table

`htab_hash` searches a table by double hashing. Its places are counted from one, and when their
number is a prime the search comes to every place once. As long as there is memory every entry has
the hash of its string in `used`, and the search is that of a table with probing: it ends at the
entry of the string if there is one, else at a free place, and where it began when there is none.

The loop counts in 32 bits and has no bound of its own. It comes back to where it began in as many
turns as there are places, so that it ends.

## Main definitions

* `HtabHash.IsSize`: the numbers of places for which this holds.
* `HtabHash.probes`: the places that a search comes to, and `Devices.keys`: what is there.
* `HtabHash.searchIn`: the search in 32 bits, in a number of turns.

## Main results

* `HtabHash.search_eq_place`: the search as that of a table with probing.
* `HtabHash.searchIn_eq`: the search ends.
-/

namespace UsbMaker

open Devices Probing

/-- The string of each entry that is used. -/
def Devices.keys (table : Nat → Entry) (i : Nat) : Option (List UInt8) :=
  if (table i).used = 0 then none else (table i).str

namespace HtabHash

/-- A prime of 32 bits, other than two, for which there are no two hashes. -/
structure IsSize (size : Nat) : Prop where
  prime : size.Prime
  three_le : 3 ≤ size
  lt : size < 2 ^ 32

variable {size : Nat}

/-- The width of the steps of a search, `hval2`. -/
def width (size : Nat) (str : List UInt8) : Nat := 1 + tableHash size str % (size - 2)

/-- The places that a search comes to. -/
def probes (size : Nat) (str : List UInt8) : List Nat :=
  List.iterate (back size (width size str)) (tableHash size str) size

section Probes

variable (h : IsSize size)

include h

theorem tableHash_bounds (str : List UInt8) :
    0 < tableHash size str ∧ tableHash size str ≤ size := by
  have hthree := h.three_le
  have hlt := Nat.mod_lt (if sdbm str 0 = 0 then sdbm str 0 + 1 else sdbm str 0).toNat h.prime.pos
  rw [tableHash]
  split_ifs at hlt ⊢ <;> omega

theorem width_bounds (str : List UInt8) : 0 < width size str ∧ width size str < size := by
  have hthree := h.three_le
  have hlt := Nat.mod_lt (tableHash size str) (show 0 < size - 2 by omega)
  rw [width]
  omega

theorem nodup_probes (str : List UInt8) : (probes size str).Nodup := by
  obtain ⟨hpos, hlt⟩ := width_bounds h str
  obtain ⟨hhash, hle⟩ := tableHash_bounds h str
  exact nodup_iterate_back hpos hlt h.prime hhash hle

omit h in
theorem length_probes (str : List UInt8) : (probes size str).length = size :=
  List.length_iterate _ _ _

theorem mem_probes {str : List UInt8} {i : Nat} (hi : i ∈ probes size str) : 0 < i ∧ i ≤ size := by
  rw [probes, ← List.range_map_iterate] at hi
  obtain ⟨n, -, rfl⟩ := List.mem_map.1 hi
  obtain ⟨hpos, hlt⟩ := width_bounds h str
  obtain ⟨hhash, hle⟩ := tableHash_bounds h str
  obtain ⟨hi, hile, -⟩ := iterate_back hpos hlt hhash hle n
  exact ⟨hi, hile⟩

/-- A search that does not end comes to every place. -/
theorem mem_probes_iff {str : List UInt8} {i : Nat} :
    i ∈ probes size str ↔ 0 < i ∧ i ≤ size := by
  refine ⟨mem_probes h, fun hi => ?_⟩
  have hall : (probes size str).toFinset = Finset.Icc 1 size := by
    refine Finset.eq_of_subset_of_card_le (fun j hj => ?_) ?_
    · exact Finset.mem_Icc.2 (mem_probes h (List.mem_toFinset.1 hj))
    · rw [List.toFinset_card_of_nodup (nodup_probes h str), length_probes, Nat.card_Icc,
        Nat.add_sub_cancel]
  rw [← List.mem_toFinset, hall]
  exact Finset.mem_Icc.2 hi

end Probes

/-! ### The search -/

section Search

variable {table : Nat → Entry} {str : List UInt8}

/-- The places at which a search ends. -/
def ends (size : Nat) (table : Nat → Entry) (str : List UInt8) (i : Nat) : Bool :=
  (table i).used == 0 || (table i).holds (tableHash size str) str

/-- How a search ends at a place, or at none. -/
def endOf (size : Nat) (table : Nat → Entry) (str : List UInt8) : Option Nat → Search
  | none => .stopped (tableHash size str)
  | some i => if (table i).holds (tableHash size str) str then .found i else .stopped i

theorem ends_iff (i : Nat) :
    ends size table str i = true ↔
      (table i).used = 0 ∨ (table i).holds (tableHash size str) str = true := by
  rw [ends, Bool.or_eq_true, beq_iff_eq]

/-- The string is not at a place that is free. -/
theorem used_of_holds (h : IsSize size) {i : Nat}
    (hholds : (table i).holds (tableHash size str) str = true) : (table i).used ≠ 0 := by
  rw [Entry.holds, Bool.and_eq_true, beq_iff_eq] at hholds
  rw [hholds.1]
  exact (tableHash_bounds h str).1.ne'

theorem probe_eq (n idx : Nat)
    (hne : ∀ i ∈ List.iterate (back size (width size str)) (back size (width size str) idx) n,
      i ≠ tableHash size str)
    (hlast : (back size (width size str))^[n + 1] idx = tableHash size str) :
    probe table size (tableHash size str) (width size str) str (n + 1) idx =
      endOf size table str ((List.iterate (back size (width size str))
        (back size (width size str) idx) n).find? (ends size table str)) := by
  induction n generalizing idx with
  | zero =>
    rw [Function.iterate_one] at hlast
    rw [probe, ← back, hlast, if_pos rfl]
    rfl
  | succ n ih =>
    rw [Function.iterate_succ_apply] at hlast
    rw [List.iterate] at hne ⊢
    rw [probe, ← back, List.find?_cons]
    generalize back size (width size str) idx = next at hne hlast ⊢
    rw [if_neg (hne next List.mem_cons_self)]
    by_cases hends : ends size table str next = true
    · rw [hends]
      dsimp only
      rw [endOf]
      split_ifs with hholds hused
      · rfl
      · exact absurd ((ends_iff next).1 hends) (not_or.2 ⟨hused, hholds⟩)
      · rfl
    · have hother := hends
      rw [ends_iff, not_or] at hother
      rw [Bool.not_eq_true] at hends
      rw [hends, if_neg hother.2, if_pos hother.1]
      exact ih next (fun i hi => hne i (List.mem_cons_of_mem _ hi)) hlast

/-- **The search of `htab_hash`** ends at the first of its places that is free or has the string. If
there is none, it ends where it began. -/
theorem search_eq (h : IsSize size) :
    search table size str =
      endOf size table str ((probes size str).find? (ends size table str)) := by
  obtain ⟨hpos, hlt⟩ := width_bounds h str
  obtain ⟨hhash, hle⟩ := tableHash_bounds h str
  obtain ⟨n, rfl⟩ : ∃ n, size = n + 1 := ⟨size - 1, by have := h.three_le; omega⟩
  have hprobes : probes (n + 1) str = tableHash (n + 1) str ::
      List.iterate (back (n + 1) (width (n + 1) str))
        (back (n + 1) (width (n + 1) str) (tableHash (n + 1) str)) n := rfl
  have hnodup := nodup_probes h str
  rw [hprobes, List.nodup_cons] at hnodup
  have hprobe : probe table (n + 1) _ _ str (n + 1) _ = _ :=
    probe_eq n (tableHash (n + 1) str)
      (fun i hi heq => hnodup.1 (heq ▸ hi)) (iterate_back_size hpos hlt hhash hle)
  rw [search, hprobes, List.find?_cons]
  by_cases hends : ends (n + 1) table str (tableHash (n + 1) str) = true
  · rw [hends]
    dsimp only
    rw [endOf]
    split_ifs with hused hholds hholds
    · rfl
    · exact absurd ((ends_iff _).1 hends) (not_or.2 ⟨hused, hholds⟩)
    · exact absurd (used_of_holds h hholds) hused
    · rfl
  · have hother := hends
    rw [ends_iff, not_or] at hother
    rw [Bool.not_eq_true] at hends
    rw [hends, if_pos hother.1, if_neg hother.2]
    exact hprobe

end Search

/-- Every entry has its string, and the hash of the string. -/
def Hashed (size : Nat) (table : Nat → Entry) : Prop :=
  ∀ i, (table i).used ≠ 0 → ∃ str, (table i).str = some str ∧ (table i).used = tableHash size str

section Hashed

variable {table : Nat → Entry} {str : List UInt8} (hhashed : Hashed size table)

include hhashed

theorem holds_iff (h : IsSize size) (i : Nat) :
    (table i).holds (tableHash size str) str = true ↔ keys table i = some str := by
  rw [Entry.holds, Bool.and_eq_true, beq_iff_eq, beq_iff_eq, keys]
  have hpos := (tableHash_bounds h str).1
  split_ifs with hused
  · refine ⟨fun hboth => ?_, fun hnone => by cases hnone⟩
    omega
  · obtain ⟨str', hstr, hhash⟩ := hhashed i hused
    rw [hstr, hhash, Option.getD_some, Option.some.injEq]
    exact ⟨fun hboth => hboth.2.symm, fun heq => by rw [heq]; exact ⟨rfl, rfl⟩⟩

theorem keys_eq_none_iff (i : Nat) : keys table i = none ↔ (table i).used = 0 := by
  rw [keys]
  split_ifs with hused
  · exact ⟨fun _ => hused, fun _ => rfl⟩
  · obtain ⟨str', hstr, -⟩ := hhashed i hused
    rw [hstr]
    exact ⟨fun hnone => (by cases hnone), fun hzero => absurd hzero hused⟩

/-- When there is memory the search is that of a table with probing. -/
theorem search_eq_place (h : IsSize size) :
    search table size str = endOf size table str (place (probes size) (keys table) str) := by
  have hends : ends size table str = accepts (keys table) str := by
    funext i
    rw [Bool.eq_iff_iff, ends_iff, accepts_iff, holds_iff hhashed h, keys_eq_none_iff hhashed]
  rw [search_eq h, hends]
  rfl

end Hashed

/-! ### The loop in 32 bits -/

/-- The table hash, `hval`. -/
def hash (size : UInt32) (str : List UInt8) : UInt32 :=
  let r := sdbm str 0
  let r := if r = 0 then r + 1 else r
  let hval := r % size
  if hval = 0 then hval + 1 else hval

/-- The step of the loop. -/
def step (size hval2 idx : UInt32) : UInt32 :=
  if idx ≤ hval2 then size + idx - hval2 else idx - hval2

/-- The loop goes on when it is not back where it began, has not found the string, and the place is
not free. -/
def goesOn (table : Nat → Entry) (str : List UInt8) (hval idx : UInt32) : Bool :=
  idx ≠ hval && !(table idx.toNat).holds hval.toNat str && (table idx.toNat).used ≠ 0

/-- How a loop has ended. -/
def outcome (table : Nat → Entry) (str : List UInt8) (hval idx : UInt32) : Search :=
  if idx ≠ hval ∧ (table idx.toNat).holds hval.toNat str then .found idx.toNat
  else .stopped idx.toNat

/-- The search of `htab_hash`, in a number of turns of its loop. -/
def searchIn (turns : Nat) (table : Nat → Entry) (size : UInt32) (str : List UInt8) :
    Option Search :=
  let hval := hash size str
  if (table hval.toNat).used ≠ 0 then
    if (table hval.toNat).holds hval.toNat str then some (.found hval.toNat)
    else
      let hval2 := 1 + hval % (size - 2)
      (While.run (fun idx => some (goesOn table str hval idx)) (step size hval2) turns
        (step size hval2 hval)).map (outcome table str hval)
  else some (.stopped hval.toNat)

section Loop

variable {table : Nat → Entry} {str : List UInt8}

theorem toNat_hash (size : UInt32) (str : List UInt8) :
    (hash size str).toNat = tableHash size.toNat str := by
  rw [hash, tableHash]
  generalize (if sdbm str 0 = 0 then sdbm str 0 + 1 else sdbm str 0) = r
  have hzero : r % size = 0 ↔ r.toNat % size.toNat = 0 := by
    rw [← UInt32.toNat_inj, UInt32.toNat_mod]
    rfl
  by_cases h : r % size = 0
  · rw [if_pos h, if_pos (hzero.1 h), h, hzero.1 h]
    rfl
  · rw [if_neg h, if_neg (mt hzero.2 h), UInt32.toNat_mod]

theorem toNat_step {size hval2 idx : UInt32} (hlt : hval2.toNat < size.toNat)
    (hle : idx.toNat ≤ size.toNat) :
    (step size hval2 idx).toNat = back size.toNat hval2.toNat idx.toNat := by
  have hsize := size.toNat_lt
  rw [step, back]
  by_cases h : idx ≤ hval2
  · rw [if_pos h, if_pos (UInt32.le_iff_toNat_le.1 h), UInt32.toNat_sub, UInt32.toNat_add]
    rw [UInt32.le_iff_toNat_le] at h
    omega
  · rw [if_neg h, if_neg (mt UInt32.le_iff_toNat_le.2 h), UInt32.toNat_sub]
    rw [UInt32.le_iff_toNat_le] at h
    omega

/-- A loop that is back where it began after some steps ends, in no more turns. -/
theorem loop_eq (size hval hval2 idx : UInt32) {n m : Nat} (hpos : 0 < hval2.toNat)
    (hlt : hval2.toNat < size.toNat) (hidx : 0 < idx.toNat) (hle : idx.toNat ≤ size.toNat)
    (hback : (back size.toNat hval2.toNat)^[m + 1] idx.toNat = hval.toNat) (hm : m < n) :
    (While.run (fun idx => some (goesOn table str hval idx)) (step size hval2) n
      (step size hval2 idx)).map (outcome table str hval) =
        some (probe table size.toNat hval.toNat hval2.toNat str n idx.toNat) := by
  induction n generalizing idx m with
  | zero => omega
  | succ n ih =>
    have hnext := toNat_step hlt hle
    obtain ⟨hidx', hle', -⟩ := back_spec hpos hlt hidx hle
    rw [← hnext] at hidx' hle'
    rw [Function.iterate_succ_apply, ← hnext] at hback
    rw [probe, ← back, ← hnext]
    generalize step size hval2 idx = next at hidx' hle' hback ⊢
    have hsame : next = hval ↔ next.toNat = hval.toNat := UInt32.toNat_inj.symm
    by_cases hgoes : goesOn table str hval next = true
    · rw [While.run_some_of_true hgoes]
      rw [goesOn, Bool.and_eq_true, Bool.and_eq_true, decide_eq_true_eq, Bool.not_eq_true',
        decide_eq_true_eq] at hgoes
      obtain ⟨⟨hne, hother⟩, hused⟩ := hgoes
      rw [if_neg (mt hsame.2 hne), hother, if_neg Bool.false_ne_true, if_pos hused]
      cases m with
      | zero => exact absurd (hsame.2 hback) hne
      | succ m => exact ih next hidx' hle' hback (Nat.lt_of_succ_lt_succ hm)
    · rw [Bool.not_eq_true] at hgoes
      rw [While.run_some_of_false hgoes, Option.map_some, outcome]
      rw [goesOn, Bool.and_eq_false_iff, Bool.and_eq_false_iff, decide_eq_false_iff_not,
        Bool.not_eq_false', decide_eq_false_iff_not, not_not, not_not] at hgoes
      by_cases heq : next = hval
      · rw [if_neg fun hboth => hboth.1 heq, if_pos (hsame.1 heq)]
      · rw [if_neg (mt hsame.2 heq)]
        by_cases hholds : (table next.toNat).holds hval.toNat str = true
        · rw [if_pos ⟨heq, hholds⟩, if_pos hholds]
        · have hfree := hgoes.resolve_left (not_or.2 ⟨heq, hholds⟩)
          rw [if_neg fun hboth => hholds hboth.2, if_neg hholds, if_neg (not_not.2 hfree)]

theorem toNat_width {size : UInt32} (h : IsSize size.toNat) (str : List UInt8) :
    (1 + hash size str % (size - 2)).toNat = width size.toNat str := by
  have htwo : (2 : UInt32).toNat = 2 := rfl
  have hone : (1 : UInt32).toNat = 1 := rfl
  have hle : 2 ≤ size := UInt32.le_iff_toNat_le.2 h.prime.two_le
  have hlt := (width_bounds h str).2.trans h.lt
  rw [width] at hlt ⊢
  rw [UInt32.toNat_add, UInt32.toNat_mod, UInt32.toNat_sub_of_le _ _ hle, toNat_hash, htwo, hone]
  exact Nat.mod_eq_of_lt hlt

/-- **The search ends**, in no more turns than there are places, and it is `search`. -/
theorem searchIn_eq {size : UInt32} (h : IsSize size.toNat) :
    searchIn size.toNat table size str = some (search table size.toNat str) := by
  obtain ⟨hhash, hle⟩ := tableHash_bounds h str
  obtain ⟨hpos, hlt⟩ := width_bounds h str
  have hback : (back size.toNat (width size.toNat str))^[size.toNat - 1 + 1]
      (tableHash size.toNat str) = tableHash size.toNat str := by
    rw [Nat.sub_add_cancel h.prime.one_le]
    exact iterate_back_size hpos hlt hhash hle
  have hwidth : 1 + tableHash size.toNat str % (size.toNat - 2) =
      (1 + hash size str % (size - 2)).toNat := (toNat_width h str).symm
  rw [← toNat_width h] at hpos hlt hback
  rw [searchIn, search, hwidth]
  rw [← toNat_hash] at hhash hle hback ⊢
  split_ifs
  · rfl
  · exact loop_eq size _ _ _ hpos hlt hhash hle hback (Nat.sub_one_lt h.prime.ne_zero)
  · rfl

end Loop

end HtabHash

end UsbMaker
