import Mathlib.Data.List.GetD
import UsbMaker.Disk.OnePartition
import UsbMaker.Run.Intervals

/-!
# Free space between partitions

The searches of `GPTData` for free sectors are those of `UsbMaker.Run.Intervals`.
`FindFirstAvailable` looks at the partitions in use, and `FindLastInFree` and `IsFree` look at all
entries of the table, which may have sectors and not be in use.

`FindLastInFree` passes a partition of one sector that lies directly before another partition or at
the last usable sector. It then returns the sector of this partition, and `CreatePartition` accepts
it as the end of a new one, so that the two overlap.

`FindFirstInLargest` takes its segments from both searches, which agree when the entries that are
not used begin at sector zero. It ends when no sum of sectors overflows.

## Main definitions

* `Gpt.used`, `Gpt.freeSectors`.
* `Gpt.Orderly`: a table whose partitions are within the usable sectors and do not overlap.
* `Gpt.Searchable`: a table that `FindFirstInLargest` searches in order.

## Main results

* `Gpt.isGreatest_findLastInFree_iff`: when `FindLastInFree` finds the end of a segment.
* `Gpt.Searchable.findFirstAvailable_spec`: the first free sector.
* `Gpt.findFirstInLargest_spec`: the first sector of a largest segment.
* `Gpt.orderly_createPartition_iff`: when `CreatePartition` keeps the table orderly.
-/

namespace UsbMaker.Gpt

/-- The partitions in use. -/
def used (gpt : Data) : List Part := (parts gpt).filter Part.isUsed

theorem mem_used {gpt : Data} {part : Part} :
    part ∈ used gpt ↔ part ∈ parts gpt ∧ part.isUsed = true := List.mem_filter

/-- The sectors of the partitions in use. -/
abbrev takenSectors (gpt : Data) : Set Nat :=
  Intervals.covered Part.firstLBA Part.lastLBA (used gpt)

/-- The usable sectors of no partition. -/
def freeSectors (gpt : Data) : Set Nat :=
  Set.Icc gpt.mainHeader.firstUsableLBA gpt.mainHeader.lastUsableLBA \ takenSectors gpt

/-- A table whose partitions are within the usable sectors. -/
structure Bounded (gpt : Data) : Prop where
  last_lt : gpt.mainHeader.lastUsableLBA < 2 ^ 64
  inside : ∀ part ∈ parts gpt, part.isUsed = true →
    gpt.mainHeader.firstUsableLBA ≤ part.firstLBA ∧ part.firstLBA ≤ part.lastLBA ∧
      part.lastLBA ≤ gpt.mainHeader.lastUsableLBA

/-- A bounded table whose partitions do not overlap. -/
structure Orderly (gpt : Data) : Prop where
  bounded : Bounded gpt
  length_eq : (parts gpt).length = gpt.numParts
  disjoint : ∀ (i j : Nat) (p q : Part), i ≠ j →
    (parts gpt)[i]? = some p → (parts gpt)[j]? = some q → p.isUsed = true → q.isUsed = true →
      p.lastLBA < q.firstLBA ∨ q.lastLBA < p.firstLBA

/-- A table that `FindFirstInLargest` searches in order: no sector of it is zero or the last one of
64 bits, every partition has two sectors, and the other entries begin at sector zero. -/
structure Searchable (gpt : Data) : Prop where
  orderly : Orderly gpt
  first_pos : 0 < gpt.mainHeader.firstUsableLBA
  last_lt : gpt.mainHeader.lastUsableLBA < 2 ^ 64 - 1
  unused : ∀ part ∈ parts gpt, part.isUsed = false → part.firstLBA = 0
  long : ∀ part ∈ used gpt, part.firstLBA < part.lastLBA

/-- A table with two partitions, of which the second ends at the last usable sector. -/
def smallTable (first : Nat) : Data where
  mainHeader := ⟨1, 99, 34, 66, 2, 4⟩
  secondHeader := ⟨99, 1, 34, 66, 67, 4⟩
  partitions := some [⟨basicData, 40, 44⟩, {}, ⟨basicData, first, 66⟩, {}]
  numParts := 4
  blockSize := 512
  diskSize := 100
  sectorAlignment := 1
  justLooking := false

theorem used_smallTable (first : Nat) :
    used (smallTable first) = [⟨basicData, 40, 44⟩, ⟨basicData, first, 66⟩] := rfl

theorem mem_parts_smallTable {first : Nat} {part : Part} (h : part ∈ parts (smallTable first)) :
    part = {} ∨ part = ⟨basicData, 40, 44⟩ ∨ part = ⟨basicData, first, 66⟩ := by
  change part ∈ [⟨basicData, 40, 44⟩, {}, ⟨basicData, first, 66⟩, {}] at h
  simp only [List.mem_cons, List.not_mem_nil, or_false] at h
  rcases h with rfl | rfl | rfl | rfl <;> simp

theorem orderly_smallTable {first : Nat} (hfirst : 50 ≤ first) (hlast : first ≤ 66) :
    Orderly (smallTable first) := by
  have hget (i : Nat) (p : Part) (hp : (parts (smallTable first))[i]? = some p)
      (hused : p.isUsed = true) :
      (i = 0 ∧ p = ⟨basicData, 40, 44⟩) ∨ (i = 2 ∧ p = ⟨basicData, first, 66⟩) := by
    match i with
    | 0 => exact .inl ⟨rfl, (Option.some.inj hp).symm⟩
    | 2 => exact .inr ⟨rfl, (Option.some.inj hp).symm⟩
    | 1 | 3 =>
      obtain rfl := Option.some.inj hp
      exact Bool.noConfusion hused
  refine ⟨⟨(by decide : 66 < 2 ^ 64), fun p hp hused => ?_⟩, rfl,
    fun i j p q hij hp hq hpused hqused => ?_⟩
  · obtain ⟨i, hi⟩ := List.mem_iff_getElem?.mp hp
    rcases hget i p hi hused with ⟨-, rfl⟩ | ⟨-, rfl⟩ <;> simp only [smallTable] <;> omega
  · rcases hget i p hp hpused with ⟨rfl, rfl⟩ | ⟨rfl, rfl⟩ <;>
      rcases hget j q hq hqused with ⟨rfl, rfl⟩ | ⟨rfl, rfl⟩
    · exact absurd rfl hij
    · exact .inl (by dsimp only; omega)
    · exact .inr (by dsimp only; omega)
    · exact absurd rfl hij

theorem searchable_smallTable {first : Nat} (hfirst : 50 ≤ first) (hlast : first < 66) :
    Searchable (smallTable first) := by
  refine ⟨orderly_smallTable hfirst hlast.le, (by decide : 0 < 34), (by decide : 66 < 2 ^ 64 - 1),
    fun part hpart hunused => ?_, fun part hpart => ?_⟩
  · rcases mem_parts_smallTable hpart with rfl | rfl | rfl
    · rfl
    · exact Bool.noConfusion hunused
    · exact Bool.noConfusion hunused
  · rw [used_smallTable] at hpart
    simp only [List.mem_cons, List.not_mem_nil, or_false] at hpart
    rcases hpart with rfl | rfl <;> dsimp only <;> omega

/-! ### The end of a segment -/

section Last

variable {gpt : Data}

/-- `IsFree` looks at all entries of the table, in use or not. -/
theorem isFree_iff (sector : Nat) : isFree gpt sector = true ↔
    sector ∈ Set.Icc gpt.mainHeader.firstUsableLBA gpt.mainHeader.lastUsableLBA \
      Intervals.covered Part.firstLBA Part.lastLBA (parts gpt) := by
  rw [isFree, Bool.and_eq_true, Bool.not_eq_true', Bool.not_eq_true', Bool.or_eq_false_iff,
    decide_eq_false_iff_not, decide_eq_false_iff_not, Nat.not_lt, Nat.not_lt, List.any_eq_false,
    Set.mem_sdiff, Set.mem_Icc, and_comm, Intervals.notMem_covered]
  simp only [Bool.and_eq_true, decide_eq_true_iff, not_and, Nat.not_le]

theorem isFree_smallTable {first sector : Nat} (hlow : 45 ≤ sector) (hhigh : sector < first)
    (hfirst : first ≤ 66) : isFree (smallTable first) sector = true := by
  rw [isFree_iff, Set.mem_sdiff, Intervals.notMem_covered]
  refine ⟨Set.mem_Icc.mpr (by simp only [smallTable]; omega), fun part hpart => ?_⟩
  rcases mem_parts_smallTable hpart with rfl | rfl | rfl <;> dsimp only <;> omega

variable (hlast : gpt.mainHeader.lastUsableLBA < 2 ^ 64)

include hlast

theorem findLastInFree_eq (start : Nat) :
    findLastInFree gpt start =
      Intervals.lastBefore Part.firstLBA (parts gpt) gpt.mainHeader.lastUsableLBA start := by
  have hfold (rest : List Part) (found : Nat) (hfound : found < 2 ^ 64) :
      rest.foldl (fun nearestStart part =>
        if part.firstLBA < nearestStart ∧ start < part.firstLBA then sub64 part.firstLBA 1
        else nearestStart) found = rest.foldl (Intervals.before Part.firstLBA start) found := by
    induction rest generalizing found with
    | nil => rfl
    | cons part rest ih =>
      rw [List.foldl_cons, List.foldl_cons, Intervals.before]
      split_ifs with hbefore
      · rw [sub64_eq (by omega) (by omega)]
        exact ih _ (by omega)
      · exact ih _ hfound
  exact hfold _ _ hlast

theorem found_findLastInFree {start : Nat} (hstart : isFree gpt start = true) :
    Intervals.Found Part.firstLBA (parts gpt) gpt.mainHeader.lastUsableLBA start (parts gpt)
      (findLastInFree gpt start) := by
  rw [findLastInFree_eq hlast]
  exact Intervals.found_lastBefore _ _ (Set.mem_Icc.mp ((isFree_iff start).mp hstart).1).2

/-- **`FindLastInFree`** finds the end of the segment if and only if no entry of the table begins
where it says. -/
theorem isGreatest_findLastInFree_iff (hvalid : ∀ part ∈ parts gpt, part.firstLBA ≤ part.lastLBA)
    {start : Nat} (hstart : isFree gpt start = true) :
    IsGreatest {n | start ≤ n ∧ ∀ sector ∈ Set.Icc start n, isFree gpt sector = true}
        (findLastInFree gpt start) ↔
      ∀ part ∈ parts gpt, part.firstLBA ≠ findLastInFree gpt start := by
  have hfree : {n | start ≤ n ∧ ∀ sector ∈ Set.Icc start n, isFree gpt sector = true} =
      {n | start ≤ n ∧ Set.Icc start n ⊆
        Set.Icc gpt.mainHeader.firstUsableLBA gpt.mainHeader.lastUsableLBA \
          Intervals.covered Part.firstLBA Part.lastLBA (parts gpt)} := by
    simp only [isFree_iff]
    rfl
  rw [hfree, findLastInFree_eq hlast]
  exact Intervals.isGreatest_lastBefore_iff _ _ _ ((isFree_iff start).mp hstart) hvalid

end Last

/-- A last partition of two sectors ends the segment before it, and one of one sector does not. -/
theorem isGreatest_findLastInFree_smallTable :
    IsGreatest {n | 45 ≤ n ∧ ∀ sector ∈ Set.Icc 45 n, isFree (smallTable 65) sector = true} 64 ∧
      ¬ IsGreatest {n | 45 ≤ n ∧ ∀ sector ∈ Set.Icc 45 n, isFree (smallTable 66) sector = true}
        66 := by
  have hvalid (first : Nat) (hfirst : first ≤ 66) :
      ∀ part ∈ parts (smallTable first), part.firstLBA ≤ part.lastLBA := by
    intro part hpart
    rcases mem_parts_smallTable hpart with rfl | rfl | rfl
    · exact le_rfl
    · exact (by decide : 40 ≤ 44)
    · exact hfirst
  exact ⟨(isGreatest_findLastInFree_iff (by decide) (hvalid 65 (by decide))
      (isFree_smallTable le_rfl (by decide) (by decide))).mpr (by decide),
    fun hgreatest => absurd ((isGreatest_findLastInFree_iff (by decide) (hvalid 66 le_rfl)
      (isFree_smallTable le_rfl (by decide) le_rfl)).mp hgreatest) (by decide)⟩

/-! ### Orderly tables -/

section Orderly

variable {gpt : Data} (h : Orderly gpt)

include h

theorem Orderly.disjoint_of_ne {p q : Part} (hp : p ∈ used gpt) (hq : q ∈ used gpt) (hne : p ≠ q) :
    p.lastLBA < q.firstLBA ∨ q.lastLBA < p.firstLBA := by
  obtain ⟨hp, hpused⟩ := mem_used.mp hp
  obtain ⟨hq, hqused⟩ := mem_used.mp hq
  obtain ⟨i, hi⟩ := List.mem_iff_getElem?.mp hp
  obtain ⟨j, hj⟩ := List.mem_iff_getElem?.mp hq
  refine h.disjoint i j p q (fun hij => hne ?_) hi hj hpused hqused
  rw [hij, hj] at hi
  exact (Option.some.inj hi).symm

theorem Orderly.le_of_mem_used {part : Part} (hpart : part ∈ used gpt) :
    part.firstLBA ≤ part.lastLBA :=
  (h.bounded.inside part (mem_used.mp hpart).1 (mem_used.mp hpart).2).2.1

end Orderly

/-! ### The first free sector -/

section Searches

variable {gpt : Data} (h : Searchable gpt)

include h

theorem Searchable.firstPass_eq (first : Nat) :
    firstPass gpt first = Intervals.pass Part.firstLBA Part.lastLBA (used gpt) first := by
  have hlast := h.last_lt
  rw [firstPass, Intervals.pass, used, List.foldl_filter]
  refine List.foldl_ext _ _ _ fun found part hpart => ?_
  cases hused : part.isUsed with
  | false => rw [if_neg fun hall => Bool.false_ne_true hall.1, if_neg Bool.false_ne_true]
  | true =>
    have hend := (h.orderly.bounded.inside part hpart hused).2.2
    have hnext : add64 part.lastLBA 1 = part.lastLBA + 1 := add64_eq (by omega)
    rw [if_pos rfl, Intervals.past, hnext]
    exact if_congr (and_iff_right rfl) rfl rfl

omit h in
theorem length_used_le : (used gpt).length ≤ gpt.numParts :=
  (List.length_filter_le _ _).trans (List.length_take_le _ _)

/-- **`FindFirstAvailable`** finds the first free sector from `start` on, and 0 if there is none. -/
theorem Searchable.findFirstAvailable_spec {turns : Nat} (hturns : gpt.numParts + 2 ≤ turns)
    (start : Nat) :
    ∃ firstBlock, findFirstAvailable gpt turns start = some firstBlock ∧
      ((firstBlock = 0 ∧ ∀ n ∈ freeSectors gpt, n < start) ∨
        (firstBlock ≠ 0 ∧ IsLeast {n | start ≤ n ∧ n ∈ freeSectors gpt} firstBlock)) := by
  have hpos := h.first_pos
  generalize hfrom : (if start < gpt.mainHeader.firstUsableLBA then gpt.mainHeader.firstUsableLBA
    else start) = first
  have hfirst : start ≤ first ∧ gpt.mainHeader.firstUsableLBA ≤ first ∧
      (first = start ∨ first = gpt.mainHeader.firstUsableLBA) := by
    split_ifs at hfrom <;> omega
  have hahead : Intervals.ahead Part.lastLBA (used gpt) first + 1 < turns :=
    (Nat.succ_le_succ ((Intervals.ahead_le _ _ _).trans length_used_le)).trans_lt hturns
  obtain ⟨⟨found, moved⟩, hskip, ⟨hle, hfree⟩, hleast⟩ :=
    Intervals.isLeast_skip Part.firstLBA Part.lastLBA (used gpt) hahead
  have hpass : (fun pass : Nat × Bool => firstPass gpt pass.1) =
      fun pass => Intervals.pass Part.firstLBA Part.lastLBA (used gpt) pass.1 :=
    funext fun pass => h.firstPass_eq pass.1
  rw [Intervals.skip] at hskip
  rw [findFirstAvailable, hfrom, hpass, hskip]
  dsimp only at hle hfree hleast
  have hbelow (n : Nat) (hn : n ∈ freeSectors gpt) (hstart : start ≤ n) : found ≤ n := by
    have hin := Set.mem_Icc.mp hn.1
    exact hleast ⟨by omega, hn.2⟩
  refine ⟨_, rfl, ?_⟩
  dsimp only
  split_ifs with hout
  · refine .inl ⟨rfl, fun n hn => ?_⟩
    by_contra hstart
    have hlow := hbelow n hn (Nat.not_lt.mp hstart)
    have hhigh := (Set.mem_Icc.mp hn.1).2
    omega
  · refine .inr ⟨by omega, ⟨by omega, Set.mem_Icc.mpr ⟨by omega, Nat.not_lt.mp hout⟩, hfree⟩,
      fun n hn => hbelow n hn.2 hn.1⟩

/-! ### The largest segment -/

/-- Entries that begin at sector zero do not stop `FindLastInFree`. -/
theorem Searchable.findLastInFree_eq (start : Nat) : findLastInFree gpt start =
    Intervals.lastBefore Part.firstLBA (used gpt) gpt.mainHeader.lastUsableLBA start := by
  rw [Gpt.findLastInFree_eq h.orderly.bounded.last_lt, Intervals.lastBefore, Intervals.lastBefore,
    used, List.foldl_filter]
  refine List.foldl_ext _ _ _ fun found part hpart => ?_
  cases hused : part.isUsed with
  | false =>
    have hzero := h.unused part hpart hused
    rw [if_neg Bool.false_ne_true, Intervals.before, if_neg (by omega)]
  | true => rw [if_pos rfl]

theorem Searchable.found_findLastInFree {start : Nat} (hstart : start ∈ freeSectors gpt) :
    Intervals.Found Part.firstLBA (used gpt) gpt.mainHeader.lastUsableLBA start (used gpt)
      (findLastInFree gpt start) := by
  rw [h.findLastInFree_eq]
  exact Intervals.found_lastBefore _ _ (Set.mem_Icc.mp hstart.1).2

/-- With partitions of two sectors at least, none begins at the end of a segment. -/
theorem Searchable.ne_findLastInFree {start : Nat} (hstart : start ∈ freeSectors gpt) :
    ∀ part ∈ used gpt, part.firstLBA ≠ findLastInFree gpt start := by
  intro part hpart heq
  have hend := h.long part hpart
  have hin := h.orderly.bounded.inside part (mem_used.mp hpart).1 (mem_used.mp hpart).2
  rcases (h.found_findLastInFree hstart).next with hlast | ⟨other, hother, hafter, hnext⟩
  · omega
  · have hne : part ≠ other := by
      rintro rfl
      omega
    have hdisjoint := h.orderly.disjoint_of_ne hpart hother hne
    have hvalid := h.orderly.le_of_mem_used hother
    omega

theorem Searchable.isGreatest_findLastInFree {start : Nat} (hstart : start ∈ freeSectors gpt) :
    IsGreatest {n | start ≤ n ∧ Set.Icc start n ⊆ freeSectors gpt} (findLastInFree gpt start) := by
  have hnone := h.ne_findLastInFree hstart
  rw [h.findLastInFree_eq] at hnone ⊢
  exact (Intervals.isGreatest_lastBefore_iff _ _ _ hstart
    fun _ hpart => h.orderly.le_of_mem_used hpart).mpr hnone

/-- What the loop of `FindFirstInLargest` keeps: it has come to a sector that is not free, and the
segment that it has selected is as long as every one before this sector. -/
structure Selected (gpt : Data) (s : Segments) : Prop where
  start_notMem : s.start ∉ freeSectors gpt
  none_before : s.selectedSize = 0 →
    s.selectedSegment = 0 ∧ ∀ n ∈ freeSectors gpt, s.start ≤ n
  selected : s.selectedSize ≠ 0 → s.selectedSegment ∈ freeSectors gpt ∧
    findLastInFree gpt s.selectedSegment + 1 = s.selectedSegment + s.selectedSize
  largest : ∀ a b, a ≤ b → b < s.start → Set.Icc a b ⊆ freeSectors gpt →
    b + 1 ≤ a + s.selectedSize

theorem Searchable.select_eq (s : Segments) {first : Nat} (hfree : first ∈ freeSectors gpt) :
    Segments.select gpt s first =
      { start := findLastInFree gpt first + 1
        selectedSize := max s.selectedSize (findLastInFree gpt first - first + 1)
        selectedSegment :=
          if s.selectedSize < findLastInFree gpt first - first + 1 then first
          else s.selectedSegment } := by
  have hfound := h.found_findLastInFree hfree
  have hlow := hfound.le_found
  have hhigh := hfound.found_le
  have hlast := h.last_lt
  have hpos := (Set.mem_Icc.mp hfree.1).1
  have hfirst := h.first_pos
  have hsegment : add64 (sub64 (findLastInFree gpt first) first) 1 =
      findLastInFree gpt first - first + 1 := by
    rw [sub64_eq (by omega) hlow, add64_eq (by omega)]
  have hafter : add64 (findLastInFree gpt first) 1 = findLastInFree gpt first + 1 :=
    add64_eq (by omega)
  rw [Segments.select, hsegment, hafter]
  split_ifs with hlt
  · rw [max_eq_right hlt.le]
  · rw [max_eq_left (Nat.not_lt.mp hlt)]

/-- A turn that has found a segment. -/
theorem Searchable.selected_select {s : Segments} {first : Nat} (hselected : Selected gpt s)
    (hfirst : IsLeast {n | s.start ≤ n ∧ n ∈ freeSectors gpt} first) :
    Selected gpt (Segments.select gpt s first) := by
  obtain ⟨⟨hstart, hfree⟩, hleast⟩ := hfirst
  obtain ⟨⟨hlow, hall⟩, hgreatest⟩ := h.isGreatest_findLastInFree hfree
  have hlargest (a b : Nat) (hab : a ≤ b) (hb : b < findLastInFree gpt first + 1)
      (hin : Set.Icc a b ⊆ freeSectors gpt) :
      b + 1 ≤ a + s.selectedSize ∨ b + 1 ≤ a + (findLastInFree gpt first - first + 1) := by
    rcases Nat.lt_or_ge b s.start with hbefore | hafter
    · exact .inl (hselected.largest a b hab hbefore hin)
    · have hlater : s.start ≤ a := by
        by_contra hearly
        exact hselected.start_notMem (hin (Set.mem_Icc.mpr ⟨by omega, hafter⟩))
      have hbegin := hleast ⟨hlater, hin (Set.mem_Icc.mpr ⟨le_rfl, hab⟩)⟩
      exact .inr (by omega)
  rw [h.select_eq s hfree]
  refine ⟨fun hnext => ?_, fun hzero => ?_, fun _ => ?_, fun a b hab hb hin => ?_⟩
  · have hmore : findLastInFree gpt first + 1 ∈
        {n | first ≤ n ∧ Set.Icc first n ⊆ freeSectors gpt} := by
      refine ⟨by omega, fun n hn => ?_⟩
      rcases Nat.lt_or_eq_of_le (Set.mem_Icc.mp hn).2 with hlt | rfl
      · exact hall (Set.mem_Icc.mpr ⟨(Set.mem_Icc.mp hn).1, Nat.le_of_lt_succ hlt⟩)
      · exact hnext
    exact absurd (hgreatest hmore) (Nat.not_succ_le_self _)
  · dsimp only at hzero
    omega
  · dsimp only
    split_ifs with hlt
    · exact ⟨hfree, by omega⟩
    · have hold := hselected.selected (by omega)
      exact ⟨hold.1, by omega⟩
  · have hcases := hlargest a b hab hb hin
    dsimp only
    omega

/-! ### The loop over the segments -/

/-- The number of partitions that begin at a sector or later. -/
def beginning (gpt : Data) (start : Nat) : Nat :=
  (used gpt).countP fun part => start ≤ part.firstLBA

omit h in
theorem beginning_le {start next : Nat} (hle : start ≤ next) :
    beginning gpt next ≤ beginning gpt start :=
  Intervals.ahead_anti Part.firstLBA (used gpt) hle

omit h in
theorem beginning_lt {start next : Nat} (hle : start ≤ next)
    (hpart : ∃ part ∈ used gpt, start ≤ part.firstLBA ∧ part.firstLBA < next) :
    beginning gpt next < beginning gpt start :=
  Intervals.ahead_lt Part.firstLBA (used gpt) hle hpart

/-- The sector is behind a segment: a partition begins there, or no usable sector follows. -/
def Behind (gpt : Data) (start : Nat) : Prop :=
  (∃ part ∈ used gpt, part.firstLBA = start) ∨ gpt.mainHeader.lastUsableLBA < start

instance (gpt : Data) (start : Nat) : Decidable (Behind gpt start) :=
  inferInstanceAs (Decidable (_ ∨ _))

/-- The turns that are left: one for every partition that begins later, and one more for a segment
before the first of them. -/
def turnsLeft (gpt : Data) (start : Nat) : Nat :=
  beginning gpt start + if Behind gpt start then 0 else 1

theorem Searchable.turnsLeft_select_lt {s : Segments} {first : Nat} (hselected : Selected gpt s)
    (hfirst : IsLeast {n | s.start ≤ n ∧ n ∈ freeSectors gpt} first) :
    turnsLeft gpt (Segments.select gpt s first).start < turnsLeft gpt s.start := by
  obtain ⟨⟨hstart, hfree⟩, -⟩ := hfirst
  have hgt : s.start < first := lt_of_le_of_ne hstart fun heq =>
    hselected.start_notMem (heq ▸ hfree)
  have hfound := h.found_findLastInFree hfree
  have hlow := hfound.le_found
  have hbehind : Behind gpt (findLastInFree gpt first + 1) := by
    rcases hfound.next with hend | ⟨part, hpart, -, heq⟩
    · exact .inr (by omega)
    · exact .inl ⟨part, hpart, heq.symm⟩
  have hle : beginning gpt (findLastInFree gpt first + 1) ≤ beginning gpt s.start :=
    beginning_le (by omega)
  have hnext : (Segments.select gpt s first).start = findLastInFree gpt first + 1 :=
    congrArg Segments.start (h.select_eq s hfree)
  rw [hnext, turnsLeft, turnsLeft, if_pos hbehind]
  by_cases hbefore : Behind gpt s.start
  · rw [if_pos hbefore]
    rcases hbefore with ⟨part, hpart, heq⟩ | hout
    · exact beginning_lt (by omega) ⟨part, hpart, heq.ge, by omega⟩
    · have hin := (Set.mem_Icc.mp hfree.1).2
      omega
  · rw [if_neg hbefore]
    omega

/-- **`FindFirstInLargest`** ends, and finds the first sector of a segment that is as long as every
other one, and 0 if no sector is free. -/
theorem findFirstInLargest_spec {turns : Nat} (hturns : gpt.numParts + 2 ≤ turns) :
    ∃ first, findFirstInLargest gpt turns = some first ∧
      ((first = 0 ∧ freeSectors gpt = ∅) ∨
        (first ∈ freeSectors gpt ∧ ∀ a b, a ≤ b → Set.Icc a b ⊆ freeSectors gpt →
          b - a ≤ findLastInFree gpt first - first)) := by
  have hpos := h.first_pos
  have hzero : (0 : Nat) ∉ freeSectors gpt := fun hmem => by
    have hin := (Set.mem_Icc.mp hmem.1).1
    omega
  have hfirst : Selected gpt {} :=
    ⟨hzero, fun _ => ⟨rfl, fun _ _ => Nat.zero_le _⟩, fun hne => absurd rfl hne,
      fun _ _ _ hlt => absurd hlt (Nat.not_lt_zero _)⟩
  have hleft : turnsLeft gpt ({} : Segments).start < turns := by
    have hcount : beginning gpt 0 ≤ gpt.numParts := (Intervals.ahead_le Part.firstLBA _ _).trans length_used_le
    change turnsLeft gpt 0 < turns
    rw [turnsLeft]
    split_ifs <;> omega
  have hcond (s : Segments) (_ : Selected gpt s) : ((findFirstAvailable gpt turns s.start).map
      fun firstBlock => firstBlock != 0).isSome = true := by
    obtain ⟨firstBlock, hfind, -⟩ := h.findFirstAvailable_spec hturns s.start
    rw [hfind]
    rfl
  have hkeep (s : Segments) (hselected : Selected gpt s)
      (hgoes : ((findFirstAvailable gpt turns s.start).map fun firstBlock => firstBlock != 0) =
        some true) :
      Selected gpt (((findFirstAvailable gpt turns s.start).map (Segments.select gpt s)).getD s) ∧
        turnsLeft gpt
          (((findFirstAvailable gpt turns s.start).map (Segments.select gpt s)).getD s).start <
          turnsLeft gpt s.start := by
    obtain ⟨firstBlock, hfind, hcases⟩ := h.findFirstAvailable_spec hturns s.start
    rw [hfind] at hgoes ⊢
    have hne := bne_iff_ne.mp (Option.some.inj hgoes)
    obtain ⟨-, hleast⟩ := hcases.resolve_left fun hnone => hne hnone.1
    exact ⟨h.selected_select hselected hleast, h.turnsLeft_select_lt hselected hleast⟩
  obtain ⟨s, hrun, hselected, hstop⟩ := While.run_of_measure (fun s => turnsLeft gpt s.start)
    hcond hkeep hfirst hleft
  have hbefore : ∀ n ∈ freeSectors gpt, n < s.start := by
    obtain ⟨firstBlock, hfind, hcases⟩ := h.findFirstAvailable_spec hturns s.start
    rw [hfind] at hstop
    have hnone := bne_eq_false_iff_eq.mp (Option.some.inj hstop)
    exact (hcases.resolve_right fun hsome => hsome.1 hnone).2
  refine ⟨s.selectedSegment, by rw [findFirstInLargest, hrun]; rfl, ?_⟩
  by_cases hsize : s.selectedSize = 0
  · obtain ⟨hsegment, hnone⟩ := hselected.none_before hsize
    exact .inl ⟨hsegment, Set.eq_empty_iff_forall_notMem.mpr fun n hn =>
      Nat.not_lt.mpr (hnone n hn) (hbefore n hn)⟩
  · obtain ⟨hfree, hlength⟩ := hselected.selected hsize
    refine .inr ⟨hfree, fun a b hab hin => ?_⟩
    have hle := hselected.largest a b hab (hbefore b (hin (Set.mem_Icc.mpr ⟨hab, le_rfl⟩))) hin
    omega

end Searches

/-- The largest segment of the table is between its partitions. -/
theorem findFirstInLargest_smallTable :
    45 ∈ freeSectors (smallTable 60) ∧
      ∀ a b, a ≤ b → Set.Icc a b ⊆ freeSectors (smallTable 60) → b - a ≤ 14 := by
  obtain ⟨first, hfind, hlargest⟩ :=
    findFirstInLargest_spec (searchable_smallTable (by decide) (by decide))
      (le_rfl : (smallTable 60).numParts + 2 ≤ 6)
  have hfirst : findFirstInLargest (smallTable 60) 6 = some 45 := by decide
  obtain rfl := Option.some.inj (hfirst.symm.trans hfind)
  exact hlargest.resolve_left fun hnone => absurd hnone.1 (by decide)

/-! ### Alignment -/

/-- `Align` stays within the usable sectors. -/
theorem align_mem {gpt : Data} {sector : Nat} (hpos : 0 < gpt.sectorAlignment)
    (hlarge : gpt.mainHeader.lastUsableLBA + gpt.sectorAlignment < 2 ^ 64)
    (hsector : sector ∈ Set.Icc gpt.mainHeader.firstUsableLBA gpt.mainHeader.lastUsableLBA) :
    (align gpt sector).2 ∈
      Set.Icc gpt.mainHeader.firstUsableLBA gpt.mainHeader.lastUsableLBA := by
  obtain ⟨hlow, hhigh⟩ := Set.mem_Icc.mp hsector
  have hearlier : sector / gpt.sectorAlignment * gpt.sectorAlignment ≤ sector :=
    Nat.div_mul_le_self _ _
  have hlater : sector < sector / gpt.sectorAlignment * gpt.sectorAlignment + gpt.sectorAlignment :=
    Nat.lt_div_mul_add hpos
  have hnext := add64_eq (a := sector / gpt.sectorAlignment * gpt.sectorAlignment)
    (b := gpt.sectorAlignment) (by omega)
  by_cases hmod : sector % gpt.sectorAlignment ≠ 0
  · rw [align, if_pos hmod]
    dsimp only
    rw [hnext]
    split_ifs with hbefore hafter
    · exact Set.mem_Icc.mpr ⟨hbefore.1, hearlier.trans hhigh⟩
    · exact Set.mem_Icc.mpr ⟨hlow.trans hlater.le, hafter.1⟩
    · exact hsector
  · rw [align, if_neg hmod]
    exact hsector

/-! ### Changing entries -/

theorem getElem?_parts_setPart (gpt : Data) (partNum : Nat) (part : Part) (i : Nat) :
    (parts (setPart gpt partNum part))[i]? =
      if partNum = i then (parts gpt)[i]?.map fun _ => part else (parts gpt)[i]? := by
  have hparts : parts (setPart gpt partNum part) = (parts gpt).modify partNum fun _ => part := by
    cases hparts : gpt.partitions with
    | none => simp [parts, setPart, hparts]
    | some all =>
      simp only [parts, setPart, hparts, Option.map_some, Option.getD_some]
      exact List.take_modify _ _ _ _
  rw [hparts, List.getElem?_modify]
  split_ifs with hi
  · rfl
  · exact id_map _

theorem length_parts_setPart (gpt : Data) (partNum : Nat) (part : Part) :
    (parts (setPart gpt partNum part)).length = (parts gpt).length := by
  cases hparts : gpt.partitions with
  | none => simp [parts, setPart, hparts]
  | some all => simp [parts, setPart, hparts]

/-- A used entry of the table that is in none of the other ones. -/
structure Fits (gpt : Data) (partNum : Nat) (part : Part) : Prop where
  inside : gpt.mainHeader.firstUsableLBA ≤ part.firstLBA ∧ part.firstLBA ≤ part.lastLBA ∧
    part.lastLBA ≤ gpt.mainHeader.lastUsableLBA
  disjoint : ∀ (j : Nat) (other : Part), partNum ≠ j → (parts gpt)[j]? = some other →
    other.isUsed = true → part.lastLBA < other.firstLBA ∨ other.lastLBA < part.firstLBA

section Change

variable {gpt : Data} (h : Orderly gpt)

include h

/-- An entry that is not used or fits. -/
theorem Orderly.setPart {partNum : Nat} {part : Part}
    (hfits : part.isUsed = true → Fits gpt partNum part) : Orderly (setPart gpt partNum part) := by
  have hget := getElem?_parts_setPart gpt partNum part
  have hmem (other : Part) (hother : other ∈ parts (Gpt.setPart gpt partNum part)) :
      other = part ∨ other ∈ parts gpt := by
    obtain ⟨i, hi⟩ := List.mem_iff_getElem?.mp hother
    rw [hget] at hi
    split_ifs at hi with heq
    · obtain ⟨-, -, hpart⟩ := Option.map_eq_some_iff.mp hi
      exact .inl hpart.symm
    · exact .inr (List.mem_of_getElem? hi)
  refine ⟨⟨h.bounded.last_lt, fun other hother hused => ?_⟩, ?_,
    fun i j p q hij hp hq hpused hqused => ?_⟩
  · rcases hmem other hother with rfl | hold
    · exact (hfits hused).inside
    · exact h.bounded.inside other hold hused
  · rw [length_parts_setPart]
    exact h.length_eq
  · rw [hget] at hp hq
    by_cases hi : partNum = i
    · have hj : partNum ≠ j := fun heq => hij (hi.symm.trans heq)
      rw [if_pos hi] at hp
      rw [if_neg hj] at hq
      obtain ⟨-, -, rfl⟩ := Option.map_eq_some_iff.mp hp
      exact (hfits hpused).disjoint j q hj hq hqused
    · rw [if_neg hi] at hp
      by_cases hj : partNum = j
      · rw [if_pos hj] at hq
        obtain ⟨-, -, rfl⟩ := Option.map_eq_some_iff.mp hq
        exact ((hfits hqused).disjoint i p hi hp hpused).symm
      · rw [if_neg hj] at hq
        exact h.disjoint i j p q hij hp hq hpused hqused

theorem Orderly.isFreePartNum_iff (partNum : Nat) : isFreePartNum gpt partNum = true ↔
    ∃ part, (parts gpt)[partNum]? = some part ∧ part.isUsed = false := by
  have hlength := h.length_eq
  rw [isFreePartNum, Bool.and_eq_true, decide_eq_true_iff]
  cases hall : gpt.partitions with
  | none =>
    have hnone : parts gpt = [] := by simp [parts, hall]
    simp [hnone]
  | some all =>
    have hparts : parts gpt = all.take gpt.numParts := by simp [parts, hall]
    rw [hparts, List.length_take] at hlength
    have hle : gpt.numParts ≤ all.length := by omega
    rw [hparts, List.getElem?_take]
    by_cases hlt : partNum < gpt.numParts
    · have hin : partNum < all.length := by omega
      have hentry : all.getD partNum {} = all[partNum] := List.getD_eq_getElem _ _ hin
      rw [if_pos hlt, List.getElem?_eq_getElem hin]
      dsimp only
      rw [hentry]
      simp [hlt]
    · rw [if_neg hlt]
      simp [hlt]

/-! ### `CreatePartition` -/

/-- What a call of `CreatePartition` that returns 1 has done. -/
structure Created (gpt : Data) (partNum start endSector : Nat) : Prop where
  unused : ∃ part, (parts gpt)[partNum]? = some part ∧ part.isUsed = false
  start_free : isFree gpt start = true
  start_le : start ≤ endSector
  end_le : endSector ≤ findLastInFree gpt start

theorem createPartition_cases (partNum startSector endSector : Nat) :
    createPartition gpt partNum startSector endSector = (false, gpt) ∨
      ∃ start, Created gpt partNum start endSector ∧
        createPartition gpt partNum startSector endSector =
          (true, Gpt.setPart gpt partNum ⟨defaultGptType, start, endSector⟩) := by
  rw [createPartition]
  dsimp only
  split_ifs with hnum hfree hend
  · exact .inr ⟨_, ⟨(h.isFreePartNum_iff partNum).mp hnum, hfree.1, hfree.2, hend⟩, rfl⟩
  · exact .inl rfl
  · exact .inl rfl
  · exact .inl rfl

theorem Created.fits {partNum start endSector : Nat}
    (hcreated : Created gpt partNum start endSector)
    (hnone : ∀ part ∈ used gpt, part.firstLBA ≠ endSector) :
    Fits gpt partNum ⟨defaultGptType, start, endSector⟩ := by
  obtain ⟨-, hstart, hle, hend⟩ := hcreated
  have hfound := found_findLastInFree h.bounded.last_lt hstart
  rw [isFree_iff] at hstart
  have hlow := (Set.mem_Icc.mp hstart.1).1
  have hhigh := hfound.found_le
  have hfree := (Intervals.notMem_covered _ _ _).mp hstart.2
  refine ⟨⟨hlow, hle, hend.trans hhigh⟩, fun j other _ hother hused => ?_⟩
  have hin : other ∈ parts gpt := List.mem_of_getElem? hother
  have hne := hnone other (mem_used.mpr ⟨hin, hused⟩)
  rcases Nat.lt_or_ge start other.firstLBA with hlater | hearlier
  · have hbefore := hfound.found_le_lo other hin hlater
    exact .inl (by dsimp only; omega)
  · exact .inr (hfree other hin hearlier)

/-- **`CreatePartition`** keeps the table orderly if and only if no partition begins at the end that
was asked for. -/
theorem orderly_createPartition_iff {partNum startSector endSector : Nat}
    (hok : (createPartition gpt partNum startSector endSector).1 = true) :
    Orderly (createPartition gpt partNum startSector endSector).2 ↔
      ∀ part ∈ used gpt, part.firstLBA ≠ endSector := by
  rcases createPartition_cases h partNum startSector endSector with hno | ⟨start, hcreated, hyes⟩
  · rw [hno] at hok
    exact absurd hok Bool.false_ne_true
  · rw [hyes]
    refine ⟨fun horderly part hpart heq => ?_, fun hnone =>
      h.setPart fun _ => hcreated.fits h hnone⟩
    obtain ⟨hpart, hused⟩ := mem_used.mp hpart
    obtain ⟨j, hj⟩ := List.mem_iff_getElem?.mp hpart
    obtain ⟨entry, hentry, hunused⟩ := hcreated.unused
    have hne : partNum ≠ j := by
      rintro rfl
      rw [hj] at hentry
      obtain rfl := Option.some.inj hentry
      exact Bool.false_ne_true (hunused.symm.trans hused)
    have hget := getElem?_parts_setPart gpt partNum ⟨defaultGptType, start, endSector⟩
    have hnew := hget partNum
    have hold := hget j
    rw [if_pos rfl, hentry] at hnew
    rw [if_neg hne, hj] at hold
    have hdisjoint := horderly.disjoint partNum j _ _ hne hnew hold rfl hused
    have hvalid := (h.bounded.inside part hpart hused).2.1
    have hle := hcreated.start_le
    dsimp only at hdisjoint
    omega

end Change

/-- A new partition before the one of one sector, and one that overlaps it. -/
theorem orderly_createPartition_smallTable :
    Orderly (createPartition (smallTable 66) 1 45 65).2 ∧
      ¬ Orderly (createPartition (smallTable 66) 1 45 66).2 :=
  ⟨(orderly_createPartition_iff (orderly_smallTable (by decide) le_rfl) (by decide)).mpr
      (by decide),
    fun horderly => absurd ((orderly_createPartition_iff (orderly_smallTable (by decide) le_rfl)
      (by decide)).mp horderly) (by decide)⟩

/-! ### The checks of the table -/

/-- Partitions that begin later than sector zero and do not end before they begin. -/
theorem doTheyOverlap_eq_false_iff {part other : Part} (hpart : 0 < part.firstLBA)
    (hother : 0 < other.firstLBA) (hvalid : part.firstLBA ≤ part.lastLBA)
    (hvalid' : other.firstLBA ≤ other.lastLBA) :
    part.doTheyOverlap other = false ↔
      part.lastLBA < other.firstLBA ∨ other.lastLBA < part.firstLBA := by
  have hne : decide (part.firstLBA ≠ 0) = true := decide_eq_true hpart.ne'
  have hne' : decide (other.firstLBA ≠ 0) = true := decide_eq_true hother.ne'
  rw [Part.doTheyOverlap, hne, hne', Bool.true_and, Bool.true_and, bne_eq_false_iff_eq,
    decide_eq_decide]
  omega

section Checks

variable {gpt : Data}

theorem foldl_add_eq_zero_iff {α : Type} (f : α → Int) (hf : ∀ a, 0 ≤ f a) (l : List α)
    (problems : Int) (hproblems : 0 ≤ problems) :
    l.foldl (fun problems a => problems + f a) problems = 0 ↔
      problems = 0 ∧ ∀ a ∈ l, f a = 0 := by
  induction l generalizing problems with
  | nil => simp
  | cons a l ih =>
    have hnonneg := hf a
    rw [List.foldl_cons, ih _ (by omega), List.forall_mem_cons, ← and_assoc]
    refine and_congr_left fun _ => ?_
    omega

theorem findOverlaps_eq_zero_iff : findOverlaps gpt = 0 ↔
    ∀ (i j : Nat) (p q : Part), j < i → (parts gpt)[i]? = some p → (parts gpt)[j]? = some q →
      p.isUsed = true → q.isUsed = true → p.doTheyOverlap q = false := by
  rw [findOverlaps, foldl_add_eq_zero_iff _ (fun _ => Int.natCast_nonneg _) _ 0 le_rfl]
  simp only [true_and, Int.natCast_eq_zero, List.countP_eq_zero, Bool.and_eq_true, not_and,
    Bool.not_eq_true]
  constructor
  · intro hall i j p q hij hp hq hpused hqused
    have hentry : (p, i) ∈ (parts gpt).zipIdx := List.mk_mem_zipIdx_iff_getElem?.mpr hp
    have hother : q ∈ (parts gpt).take i := by
      refine List.mem_of_getElem? (i := j) ?_
      rwa [List.getElem?_take, if_pos hij]
    exact hall (p, i) hentry q hother ⟨hpused, hqused⟩
  · rintro hall ⟨p, i⟩ hentry q hother ⟨hpused, hqused⟩
    have hp := List.mk_mem_zipIdx_iff_getElem?.mp hentry
    obtain ⟨j, hj⟩ := List.mem_iff_getElem?.mp hother
    rw [List.getElem?_take] at hj
    split_ifs at hj with hij
    exact hall i j p q hij hp hj hpused hqused

theorem findInsanePartitions_eq_zero_iff : findInsanePartitions gpt = 0 ↔
    ∀ part ∈ used gpt, part.firstLBA ≤ part.lastLBA ∧ part.lastLBA < gpt.diskSize := by
  have hfold : findInsanePartitions gpt = (used gpt).foldl (fun problems part => problems +
      ((if part.lastLBA < part.firstLBA then (1 : Int) else 0) +
        if gpt.diskSize ≤ part.lastLBA then 1 else 0)) 0 := by
    rw [findInsanePartitions, used]
    exact List.foldl_ext _ _ _ fun problems part _ => Int.add_assoc _ _ _
  rw [hfold, foldl_add_eq_zero_iff _ (fun part => by split_ifs <;> decide) _ 0 le_rfl]
  simp only [true_and]
  refine forall₂_congr fun part _ => ?_
  split_ifs with hend hsize hsize
  · simp; omega
  · simp; omega
  · simp; omega
  · simp; omega

theorem le_foldl_min_iff (l : List Part) (bound init : Nat) :
    bound ≤ l.foldl (fun first part => min first part.firstLBA) init ↔
      bound ≤ init ∧ ∀ part ∈ l, bound ≤ part.firstLBA := by
  induction l generalizing init with
  | nil => simp
  | cons part l ih =>
    rw [List.foldl_cons, ih, List.forall_mem_cons, Nat.le_min, and_assoc]

theorem foldl_max_le_iff (l : List Part) (bound init : Nat) :
    l.foldl (fun last part => max last part.lastLBA) init ≤ bound ↔
      init ≤ bound ∧ ∀ part ∈ l, part.lastLBA ≤ bound := by
  induction l generalizing init with
  | nil => simp
  | cons part l ih =>
    rw [List.foldl_cons, ih, List.forall_mem_cons, Nat.max_le, and_assoc]

theorem checkGPTSize_eq_zero_iff (hsize : gpt.diskSize ≠ 0)
    (hfirst : gpt.mainHeader.firstUsableLBA < 2 ^ 64) : checkGPTSize gpt = 0 ↔
      ∀ part ∈ used gpt, gpt.mainHeader.firstUsableLBA ≤ part.firstLBA ∧
        part.lastLBA ≤ gpt.mainHeader.lastUsableLBA := by
  have hlow := le_foldl_min_iff (used gpt) gpt.mainHeader.firstUsableLBA (2 ^ 64 - 1)
  have hhigh := foldl_max_le_iff (used gpt) gpt.mainHeader.lastUsableLBA 0
  rw [and_iff_right (by omega)] at hlow
  rw [and_iff_right (Nat.zero_le _)] at hhigh
  rw [checkGPTSize, ← used, if_pos hsize, forall₂_and, ← hlow, ← hhigh]
  generalize (used gpt).foldl (fun first part => min first part.firstLBA) (2 ^ 64 - 1) = firstUsed
  generalize (used gpt).foldl (fun last part => max last part.lastLBA) 0 = lastUsed
  split_ifs with hbefore hafter hafter
  · simp; omega
  · simp; omega
  · simp; omega
  · simp; omega

/-- **The checks** of `SaveGPTData` find no problem if and only if the partitions are within the
usable sectors and do not overlap. -/
theorem checks_eq_zero_iff (hsize : gpt.diskSize ≠ 0)
    (hfirst : 0 < gpt.mainHeader.firstUsableLBA ∧ gpt.mainHeader.firstUsableLBA < 2 ^ 64) :
    (checkGPTSize gpt = 0 ∧ findOverlaps gpt = 0 ∧ findInsanePartitions gpt = 0) ↔
      (∀ part ∈ used gpt, gpt.mainHeader.firstUsableLBA ≤ part.firstLBA ∧
        part.firstLBA ≤ part.lastLBA ∧ part.lastLBA ≤ gpt.mainHeader.lastUsableLBA ∧
          part.lastLBA < gpt.diskSize) ∧
      ∀ (i j : Nat) (p q : Part), i ≠ j → (parts gpt)[i]? = some p → (parts gpt)[j]? = some q →
        p.isUsed = true → q.isUsed = true → p.lastLBA < q.firstLBA ∨ q.lastLBA < p.firstLBA := by
  have hused {i : Nat} {p : Part} (hp : (parts gpt)[i]? = some p) (hpused : p.isUsed = true) :
      p ∈ used gpt := mem_used.mpr ⟨List.mem_of_getElem? hp, hpused⟩
  rw [checkGPTSize_eq_zero_iff hsize hfirst.2, findOverlaps_eq_zero_iff,
    findInsanePartitions_eq_zero_iff]
  constructor
  · rintro ⟨hinside, hoverlaps, hvalid⟩
    have hall (part : Part) (hpart : part ∈ used gpt) := hinside part hpart
    refine ⟨fun part hpart => ⟨(hall part hpart).1, (hvalid part hpart).1, (hall part hpart).2,
      (hvalid part hpart).2⟩, fun i j p q hij hp hq hpused hqused => ?_⟩
    have hpmem := hused hp hpused
    have hqmem := hused hq hqused
    have hppos := hfirst.1.trans_le (hall p hpmem).1
    have hqpos := hfirst.1.trans_le (hall q hqmem).1
    rcases Nat.lt_or_gt_of_ne hij with hlt | hgt
    · have hno := hoverlaps j i q p hlt hq hp hqused hpused
      exact ((doTheyOverlap_eq_false_iff hqpos hppos (hvalid q hqmem).1 (hvalid p hpmem).1).mp
        hno).symm
    · have hno := hoverlaps i j p q hgt hp hq hpused hqused
      exact (doTheyOverlap_eq_false_iff hppos hqpos (hvalid p hpmem).1 (hvalid q hqmem).1).mp hno
  · rintro ⟨hall, hdisjoint⟩
    refine ⟨fun part hpart => ⟨(hall part hpart).1, (hall part hpart).2.2.1⟩,
      fun i j p q hij hp hq hpused hqused => ?_,
      fun part hpart => ⟨(hall part hpart).2.1, (hall part hpart).2.2.2⟩⟩
    have hpmem := hall p (hused hp hpused)
    have hqmem := hall q (hused hq hqused)
    exact (doTheyOverlap_eq_false_iff (hfirst.1.trans_le hpmem.1) (hfirst.1.trans_le hqmem.1)
      hpmem.2.1 hqmem.2.1).mpr (hdisjoint i j p q (Nat.ne_of_gt hij) hp hq hpused hqused)

/-- The checks of a table whose only partition is the first one. -/
theorem checks_one {part : Part} (hsize : gpt.diskSize ≠ 0)
    (hfirst : 0 < gpt.mainHeader.firstUsableLBA ∧ gpt.mainHeader.firstUsableLBA < 2 ^ 64)
    (hzero : (parts gpt)[0]? = some part) (hpart : part.isUsed = true)
    (hother : ∀ i other, i ≠ 0 → (parts gpt)[i]? = some other → other.isUsed = false) :
    (checkGPTSize gpt = 0 ∧ findOverlaps gpt = 0 ∧ findInsanePartitions gpt = 0) ↔
      gpt.mainHeader.firstUsableLBA ≤ part.firstLBA ∧ part.firstLBA ≤ part.lastLBA ∧
        part.lastLBA ≤ gpt.mainHeader.lastUsableLBA ∧ part.lastLBA < gpt.diskSize := by
  have honly {i : Nat} {p : Part} (hp : (parts gpt)[i]? = some p) (hused : p.isUsed = true) :
      i = 0 := by
    by_contra hne
    exact Bool.false_ne_true ((hother i p hne hp).symm.trans hused)
  rw [checks_eq_zero_iff hsize hfirst]
  constructor
  · rintro ⟨hinside, -⟩
    exact hinside part (mem_used.mpr ⟨List.mem_of_getElem? hzero, hpart⟩)
  · intro hinside
    refine ⟨fun p hp => ?_, fun i j p q hij hp hq hpused hqused =>
      absurd ((honly hp hpused).trans (honly hq hqused).symm) hij⟩
    obtain ⟨hp, hused⟩ := mem_used.mp hp
    obtain ⟨i, hi⟩ := List.mem_iff_getElem?.mp hp
    obtain rfl := honly hi hused
    rw [hzero] at hi
    obtain rfl := Option.some.inj hi
    exact hinside

end Checks

end UsbMaker.Gpt
