import Mathlib.Data.List.Basic
import Mathlib.Order.Bounds.Basic
import Mathlib.Order.Interval.Set.Basic
import Mathlib.Tactic.IntervalCases
import UsbMaker.Disk.PartitionTable

/-!
# One partition on the whole disk

`LoadPartitions` of `PalData` leaves a fresh table, whatever the disk had before: all partitions are
blank, and the headers and both copies of the table lie at the ends of the disk. In a fresh table
each of the searches of `PalData::ClearDisk` can be said in a word. The first free sector of the
largest segment is the first usable one, `Align` goes on to the alignment, which is not before it,
and the last free sector is the last usable one. So the one partition begins at the least multiple
of the alignment and ends at the last usable sector.

## Main definitions

* `Gpt.Fresh`: a fresh table.
* `Gpt.WholeDisk`: a table whose only partition is the first, with the ends above.

## Main results

* `Gpt.findFirstInLargest_of_blank`: the largest segment of a table without partitions.
* `Gpt.fresh_loadPartitions`.
* `Gpt.wholeDisk_onePartition`: the table that `PalData::ClearDisk` makes.
* `Gpt.clearDisk_wholeDisk`: the table that it leaves.
-/

namespace UsbMaker.Gpt

/-! ### Arithmetic of 64 bits -/

theorem add64_eq {a b : Nat} (h : a + b < 2 ^ 64) : add64 a b = a + b := by
  rw [add64]
  exact Nat.mod_eq_of_lt h

theorem sub64_eq {a b : Nat} (ha : a < 2 ^ 64) (h : b ≤ a) : sub64 a b = a - b := by
  rw [sub64]
  omega

/-! ### A table without partitions -/

section Blank

variable {gpt : Data} (hblank : ∀ part ∈ parts gpt, part = {}) {turns : Nat} (hturns : 2 ≤ turns)

section Passes

include hblank

/-- No partition is in the way. -/
theorem firstPass_of_blank (first : Nat) : firstPass gpt first = (first, false) := by
  refine (List.foldl_ext _ (fun pass _ => pass) _ fun pass part hpart => ?_).trans
    (List.foldl_fixed _)
  rw [hblank part hpart]
  rfl

theorem findLastInFree_of_blank (start : Nat) :
    findLastInFree gpt start = gpt.mainHeader.lastUsableLBA := by
  refine (List.foldl_ext _ (fun nearestStart _ => nearestStart) _ fun nearestStart part hpart =>
    ?_).trans (List.foldl_fixed _)
  rw [hblank part hpart]
  exact if_neg fun hboth => Nat.not_lt_zero _ hboth.2

theorem start_select_of_blank (s : Segments) (firstBlock : Nat) :
    (Segments.select gpt s firstBlock).start = add64 gpt.mainHeader.lastUsableLBA 1 := by
  rw [Segments.select, findLastInFree_of_blank hblank]

end Passes

/-- The first usable sector from a sector on, 0 if there is none. -/
def firstFrom (gpt : Data) (start : Nat) : Nat :=
  if gpt.mainHeader.lastUsableLBA < max start gpt.mainHeader.firstUsableLBA then 0
  else max start gpt.mainHeader.firstUsableLBA

/-- Behind the last usable sector there is none. -/
theorem firstFrom_add64 (hlast : gpt.mainHeader.lastUsableLBA < 2 ^ 64 - 1) :
    firstFrom gpt (add64 gpt.mainHeader.lastUsableLBA 1) = 0 := by
  rw [add64_eq (by omega), firstFrom, if_pos (by omega)]

include hblank

theorem selectedSegment_of_blank (hlast : gpt.mainHeader.lastUsableLBA < 2 ^ 64 - 1)
    (hfirst : firstFrom gpt 0 ≠ 0) :
    (Segments.select gpt {} (firstFrom gpt 0)).selectedSegment = firstFrom gpt 0 := by
  obtain ⟨heq, hle⟩ : firstFrom gpt 0 = gpt.mainHeader.firstUsableLBA ∧
      gpt.mainHeader.firstUsableLBA ≤ gpt.mainHeader.lastUsableLBA := by
    rw [firstFrom] at hfirst ⊢
    split_ifs at hfirst ⊢ <;> omega
  have hsize : add64 (sub64 gpt.mainHeader.lastUsableLBA gpt.mainHeader.firstUsableLBA) 1 =
      gpt.mainHeader.lastUsableLBA - gpt.mainHeader.firstUsableLBA + 1 := by
    rw [sub64_eq (by omega) hle, add64_eq (by omega)]
  rw [Segments.select, findLastInFree_of_blank hblank, heq, hsize]
  dsimp only
  rw [if_pos (Nat.succ_pos _)]

include hturns

theorem findFirstAvailable_of_blank (start : Nat) :
    findFirstAvailable gpt turns start = some (firstFrom gpt start) := by
  obtain ⟨turns, rfl⟩ := Nat.exists_eq_add_of_le' hturns
  have hmax : (if start < gpt.mainHeader.firstUsableLBA then gpt.mainHeader.firstUsableLBA
      else start) = max start gpt.mainHeader.firstUsableLBA := by
    split_ifs <;> omega
  rw [findFirstAvailable, hmax, While.run_some_of_true rfl, firstPass_of_blank hblank,
    While.run_some_of_false rfl]
  rfl

theorem findFirstInLargest_eq_run :
    findFirstInLargest gpt turns =
      (While.run (fun s => some (firstFrom gpt s.start != 0))
        (fun s => Segments.select gpt s (firstFrom gpt s.start)) turns {}).map
          Segments.selectedSegment := by
  rw [findFirstInLargest]
  simp only [findFirstAvailable_of_blank hblank hturns, Option.map_some, Option.getD_some]

/-- **The largest segment of a table without partitions** is the whole of the usable sectors. The
search does not end when they go on to the last sector of 64 bits. -/
theorem findFirstInLargest_of_blank (hlast : gpt.mainHeader.lastUsableLBA < 2 ^ 64) :
    findFirstInLargest gpt turns =
      if gpt.mainHeader.lastUsableLBA = 2 ^ 64 - 1 ∧ firstFrom gpt 0 ≠ 0 then none
      else some (firstFrom gpt 0) := by
  rw [findFirstInLargest_eq_run hblank hturns]
  split_ifs with hendless
  · obtain ⟨hend, hne⟩ := hendless
    -- Every turn comes back to sector zero.
    have hzero (j : Nat) : ((fun s => Segments.select gpt s (firstFrom gpt s.start))^[j] {}).start =
        0 := by
      cases j with
      | zero => rfl
      | succ j =>
        rw [Function.iterate_succ_apply', start_select_of_blank hblank, hend]
        rfl
    rw [While.run_eq_none_of_true fun j _ => ?_]
    · rfl
    · rw [hzero]
      exact congrArg some (bne_iff_ne.mpr hne)
  · obtain ⟨turns, rfl⟩ := Nat.exists_eq_add_of_le' hturns
    by_cases hne : firstFrom gpt 0 = 0
    · rw [While.run_some_of_false (by rw [hne]; rfl), hne]
      rfl
    · have hbelow : gpt.mainHeader.lastUsableLBA < 2 ^ 64 - 1 := by omega
      have hrun : While.run (fun s => some (firstFrom gpt s.start != 0))
          (fun s => Segments.select gpt s (firstFrom gpt s.start)) (turns + 2) {} =
            some (Segments.select gpt {} (firstFrom gpt 0)) := by
        refine While.run_eq_of_first (k := 1) (fun j hj => ?_) ?_ (by omega)
        · obtain rfl := Nat.lt_one_iff.mp hj
          exact congrArg some (bne_iff_ne.mpr hne)
        · rw [Function.iterate_one, start_select_of_blank hblank, firstFrom_add64 hbelow]
          rfl
      rw [hrun, Option.map_some, selectedSegment_of_blank hblank hbelow hne]

end Blank

/-! ### A fresh table -/

/-- A table without partitions, whose headers fit on the disk. The alignment is neither before the
first usable sector nor after the last one. -/
structure Fresh (gpt : Data) : Prop where
  partitions_eq : gpt.partitions = some (List.replicate gpt.numParts {})
  numParts_pos : 0 < gpt.numParts
  main_eq : gpt.mainHeader =
    { currentLBA := 1
      backupLBA := gpt.diskSize - 1
      firstUsableLBA := getTableSizeInSectors gpt + 2
      lastUsableLBA := gpt.diskSize - (getTableSizeInSectors gpt + 2)
      partitionEntriesLBA := 2
      numParts := gpt.numParts }
  entries_eq : gpt.secondHeader.partitionEntriesLBA =
    gpt.diskSize - (getTableSizeInSectors gpt + 2) + 1
  diskSize_lt : gpt.diskSize < 2 ^ 64
  le_alignment : getTableSizeInSectors gpt + 2 ≤ gpt.sectorAlignment
  alignment_le : gpt.sectorAlignment + (getTableSizeInSectors gpt + 2) ≤ gpt.diskSize

section Searches

variable {gpt : Data} (h : Fresh gpt)

include h

theorem Fresh.first_eq : gpt.mainHeader.firstUsableLBA = getTableSizeInSectors gpt + 2 := by
  rw [h.main_eq]

theorem Fresh.last_eq :
    gpt.mainHeader.lastUsableLBA = gpt.diskSize - (getTableSizeInSectors gpt + 2) := by
  rw [h.main_eq]

theorem Fresh.parts_eq : parts gpt = List.replicate gpt.numParts {} := by
  rw [parts, h.partitions_eq, Option.getD_some, List.take_replicate, Nat.min_self]

theorem Fresh.eq_of_mem {part : Part} (hpart : part ∈ parts gpt) : part = {} := by
  rw [h.parts_eq] at hpart
  exact List.eq_of_mem_replicate hpart

theorem Fresh.first_pos : 0 < gpt.mainHeader.firstUsableLBA := by
  rw [h.first_eq]
  exact Nat.succ_pos _

theorem Fresh.first_le : gpt.mainHeader.firstUsableLBA ≤ gpt.sectorAlignment := by
  rw [h.first_eq]
  exact h.le_alignment

theorem Fresh.le_last : gpt.sectorAlignment ≤ gpt.mainHeader.lastUsableLBA := by
  have hle := h.alignment_le
  rw [h.last_eq]
  omega

theorem Fresh.last_lt : gpt.mainHeader.lastUsableLBA < gpt.diskSize := by
  have hle := h.alignment_le
  rw [h.last_eq]
  omega

theorem Fresh.findLastInFree_eq (start : Nat) :
    findLastInFree gpt start = gpt.mainHeader.lastUsableLBA :=
  findLastInFree_of_blank (fun _ hpart => h.eq_of_mem hpart) start

theorem Fresh.findFirstInLargest_eq {turns : Nat} (hturns : 2 ≤ turns) :
    findFirstInLargest gpt turns = some gpt.mainHeader.firstUsableLBA := by
  have hle := h.first_le.trans h.le_last
  have hlt := h.last_lt
  have hdisk := h.diskSize_lt
  have hfirst : firstFrom gpt 0 = gpt.mainHeader.firstUsableLBA := by
    rw [firstFrom, Nat.zero_max, if_neg (Nat.not_lt.mpr hle)]
  rw [findFirstInLargest_of_blank (fun _ hpart => h.eq_of_mem hpart) hturns (hlt.trans hdisk),
    if_neg (by omega), hfirst]

theorem Fresh.isFree_eq (sector : Nat) :
    isFree gpt sector = true ↔
      gpt.mainHeader.firstUsableLBA ≤ sector ∧ sector ≤ gpt.mainHeader.lastUsableLBA := by
  have hpos := h.first_pos
  have hany : 0 < sector →
      (parts gpt).any (fun part => part.firstLBA ≤ sector && sector ≤ part.lastLBA) = false := by
    intro hsector
    rw [List.any_eq_false]
    intro part hpart hboth
    rw [h.eq_of_mem hpart, Bool.and_eq_true, decide_eq_true_iff, decide_eq_true_iff] at hboth
    exact absurd hboth.2 (Nat.not_le.2 hsector)
  rw [isFree, Bool.and_eq_true, Bool.not_eq_true', Bool.not_eq_true', Bool.or_eq_false_iff,
    decide_eq_false_iff_not, decide_eq_false_iff_not, Nat.not_lt, Nat.not_lt]
  exact ⟨fun hfree => hfree.2, fun hboth => ⟨hany (hpos.trans_le hboth.1), hboth⟩⟩

/-- All sectors down to the first usable one are free. -/
theorem Fresh.clearDownTo_eq {sector : Nat} (hsector : gpt.mainHeader.firstUsableLBA ≤ sector)
    (turns : Nat) (testSector : Nat) (hlt : sector < testSector)
    (hle : testSector ≤ gpt.mainHeader.lastUsableLBA) :
    clearDownTo gpt sector turns testSector = true := by
  have hlast := h.last_lt
  have hdisk := h.diskSize_lt
  induction turns generalizing testSector with
  | zero => rfl
  | succ turns ih =>
    have hfree := (h.isFree_eq testSector).2 ⟨by omega, hle⟩
    have hprev : sub64 testSector 1 = testSector - 1 := sub64_eq (by omega) (by omega)
    rw [clearDownTo, hfree, hprev, Bool.true_and]
    split_ifs with hnext
    · exact ih (testSector - 1) hnext (by omega)
    · rfl

/-- `Align` goes on from the first usable sector to the alignment. -/
theorem Fresh.align_first : (align gpt gpt.mainHeader.firstUsableLBA).2 = gpt.sectorAlignment := by
  have hpos := h.first_pos
  have hfirst := h.first_le
  have hlast := h.le_last
  have hlt := h.last_lt
  have hdisk := h.diskSize_lt
  by_cases hmod : gpt.mainHeader.firstUsableLBA % gpt.sectorAlignment = 0
  · rw [align, if_neg (not_not.2 hmod)]
    exact hfirst.antisymm (Nat.le_of_dvd hpos (Nat.dvd_of_mod_eq_zero hmod))
  · have hbefore : gpt.mainHeader.firstUsableLBA < gpt.sectorAlignment := by
      refine lt_of_le_of_ne hfirst fun heq => hmod ?_
      rw [heq, Nat.mod_self]
    have hlater : add64 0 gpt.sectorAlignment = gpt.sectorAlignment := by
      rw [add64_eq (by omega), Nat.zero_add]
    have hclear := h.clearDownTo_eq le_rfl gpt.sectorAlignment gpt.sectorAlignment hbefore hlast
    rw [align, if_pos hmod, Nat.div_eq_of_lt hbefore, Nat.zero_mul]
    dsimp only
    rw [hlater, if_neg fun hboth => Nat.not_le.2 hpos hboth.1, if_pos ⟨hlast, hclear⟩]

/-- **The sectors between which `PalData::ClearDisk` puts the partition.** -/
theorem Fresh.isLeast_alignment :
    IsLeast {n | gpt.mainHeader.firstUsableLBA ≤ n ∧ gpt.sectorAlignment ∣ n}
      gpt.sectorAlignment :=
  ⟨⟨h.first_le, dvd_rfl⟩, fun _ hn => Nat.le_of_dvd (h.first_pos.trans_le hn.1) hn.2⟩

omit h in
theorem align_alignment : align gpt gpt.sectorAlignment = (false, gpt.sectorAlignment) := by
  rw [align, Nat.mod_self]
  rfl

/-- `CreatePartition` for the first partition. -/
theorem Fresh.createPartition_eq :
    createPartition gpt 0 gpt.sectorAlignment gpt.mainHeader.lastUsableLBA =
      (true, setPart gpt 0
        ⟨defaultGptType, gpt.sectorAlignment, gpt.mainHeader.lastUsableLBA⟩) := by
  have hfree : isFreePartNum gpt 0 = true := by
    obtain ⟨n, hn⟩ := Nat.exists_eq_succ_of_ne_zero h.numParts_pos.ne'
    rw [isFreePartNum, h.partitions_eq, hn]
    rfl
  rw [createPartition, if_pos hfree, align_alignment]
  dsimp only
  rw [if_pos ⟨(h.isFree_eq _).2 ⟨h.first_le, h.le_last⟩, h.le_last⟩,
    if_pos (h.findLastInFree_eq _).ge]

end Searches

/-! ### The table with one partition -/

/-- The sectors that `SaveGPTData` writes a header or a copy of the table to. -/
def placeSectors (gpt : Data) : Gdisk.Place → Set Nat
  | .backupTable => Set.Ico gpt.secondHeader.partitionEntriesLBA
      (gpt.secondHeader.partitionEntriesLBA + getTableSizeInSectors gpt)
  | .backupHeader => {gpt.mainHeader.backupLBA}
  | .mainTable => Set.Ico gpt.mainHeader.partitionEntriesLBA
      (gpt.mainHeader.partitionEntriesLBA + getTableSizeInSectors gpt)
  | .mainHeader => {1}

/-- The only partition in the table is the first one, and takes the usable sectors from the first
one that is aligned. -/
structure WholeDisk (gpt : Data) (part : Part) : Prop where
  entry : (parts gpt)[0]? = some part
  used : part.isUsed = true
  unused : ∀ i other, i ≠ 0 → (parts gpt)[i]? = some other → other.isUsed = false
  first : IsLeast {n | gpt.mainHeader.firstUsableLBA ≤ n ∧ gpt.sectorAlignment ∣ n} part.firstLBA
  last : part.lastLBA = gpt.mainHeader.lastUsableLBA
  nonempty : part.firstLBA ≤ part.lastLBA
  outside : ∀ place, ∀ sector ∈ Set.Icc part.firstLBA part.lastLBA, sector ∉ placeSectors gpt place

/-- The partition that takes the disk. -/
def wholePart (gpt : Data) : Part :=
  ⟨fat32Type, gpt.sectorAlignment, gpt.mainHeader.lastUsableLBA⟩

section OnePartition

variable {gpt : Data} (h : Fresh gpt) (verify : Data → Int) {turns : Nat}

include h

theorem onePartition_eq (hturns : 2 ≤ turns) :
    Gdisk.onePartition (gptData verify turns) gpt = some
      { gpt with partitions := some (wholePart gpt :: List.replicate (gpt.numParts - 1) {}) } := by
  obtain ⟨n, hn⟩ := Nat.exists_eq_succ_of_ne_zero h.numParts_pos.ne'
  have hrun : Gdisk.onePartition (gptData verify turns) gpt =
      (findFirstInLargest gpt turns).map fun first =>
        let low := (align gpt first).2
        let high := findLastInFree gpt low
        setPart (createPartition gpt 0 low high).2 0 ⟨fat32Type, low, high⟩ := rfl
  rw [hrun, h.findFirstInLargest_eq hturns, Option.map_some, h.align_first]
  dsimp only
  rw [h.findLastInFree_eq, h.createPartition_eq]
  dsimp only
  rw [setPart, setPart, h.partitions_eq, hn]
  rfl

/-- `SaveGPTData` has nothing to correct. -/
theorem checkTable_eq (partitions : Option (List Part)) :
    (Gdisk.checkTable (gptData verify turns) { gpt with partitions := partitions }).2 =
      { gpt with partitions := partitions } := by
  have hdisk := h.diskSize_lt
  have hle := h.alignment_le
  have hfirst := h.le_alignment
  have hbackup : gpt.mainHeader.backupLBA = gpt.diskSize - 1 := by rw [h.main_eq]
  have hlast := h.last_eq
  refine Gdisk.checkTable_of_fits (gptData verify turns) _ ?_ ?_ ?_
  all_goals dsimp only
  · omega
  · omega
  · omega

/-- No usable sector belongs to a header or to a copy of the table. -/
theorem Fresh.notMem_placeSectors (place : Gdisk.Place) {n : Nat}
    (hlow : gpt.mainHeader.firstUsableLBA ≤ n) (hhigh : n ≤ gpt.mainHeader.lastUsableLBA) :
    n ∉ placeSectors gpt place := by
  intro hn
  have hpos := h.first_pos
  have hsize : gpt.mainHeader.firstUsableLBA = getTableSizeInSectors gpt + 2 := h.first_eq
  have hend : gpt.mainHeader.lastUsableLBA = gpt.diskSize - (getTableSizeInSectors gpt + 2) :=
    h.last_eq
  cases place with
  | backupTable =>
    have hfrom : gpt.secondHeader.partitionEntriesLBA ≤ n := hn.1
    rw [h.entries_eq] at hfrom
    omega
  | backupHeader =>
    have hat : n = gpt.mainHeader.backupLBA := hn
    rw [h.main_eq] at hat
    dsimp only at hat
    omega
  | mainTable =>
    have hbelow : n < gpt.mainHeader.partitionEntriesLBA + getTableSizeInSectors gpt := hn.2
    rw [h.main_eq] at hbelow
    dsimp only at hbelow
    omega
  | mainHeader =>
    have hat : n = 1 := hn
    omega

/-- **The table that `PalData::ClearDisk` makes.** -/
theorem wholeDisk_onePartition (partitions : Option (List Part))
    (hpartitions : partitions = some (wholePart gpt :: List.replicate (gpt.numParts - 1) {})) :
    WholeDisk { gpt with partitions := partitions } (wholePart gpt) := by
  have hparts : parts { gpt with partitions := partitions } =
      wholePart gpt :: List.replicate (gpt.numParts - 1) {} := by
    rw [parts, hpartitions, Option.getD_some]
    refine List.take_of_length_le ?_
    have hcount := h.numParts_pos
    rw [List.length_cons, List.length_replicate]
    dsimp only
    omega
  refine ⟨?_, rfl, fun i other hi hother => ?_, h.isLeast_alignment, rfl, h.le_last,
    fun place n hn => ?_⟩
  · rw [hparts]
    rfl
  · obtain ⟨i, rfl⟩ := Nat.exists_eq_succ_of_ne_zero hi
    rw [hparts, List.getElem?_cons_succ, List.getElem?_replicate] at hother
    split_ifs at hother
    rw [← Option.some.inj hother]
    rfl
  · have hplaces : placeSectors { gpt with partitions := partitions } place =
        placeSectors gpt place := by
      cases place <;> rfl
    rw [hplaces]
    exact h.notMem_placeSectors place (h.first_le.trans hn.1) hn.2

/-- **The table that `PalData::ClearDisk` leaves** when the table is fresh. -/
theorem wholeDisk_clearDisk (hturns : 2 ≤ turns) (io : Gdisk.Answers (gptData verify turns)) :
    ∃ table, (Gdisk.clearDisk (gptData verify turns) io gpt).map Gdisk.Save.table = some table ∧
      WholeDisk table (wholePart gpt) := by
  refine ⟨_, ?_, wholeDisk_onePartition h _ rfl⟩
  rw [Gdisk.clearDisk_table, onePartition_eq h verify hturns, Option.map_some,
    checkTable_eq h verify]

end OnePartition

/-! ### The fresh table -/

/-- `SetGPTSize` with the number of partitions that the table has. -/
theorem setGPTSize_same {gpt : Data} (hsome : gpt.partitions ≠ none) :
    (setGPTSize gpt gpt.numParts false).2 =
      { gpt with
        mainHeader := { gpt.mainHeader with numParts := gpt.numParts }
        secondHeader := { gpt.secondHeader with numParts := gpt.numParts } } := by
  have hsame : ¬ ((gpt.numParts ≠ gpt.numParts ∨ gpt.partitions = none) ∧ 0 < gpt.numParts) :=
    fun hchange => hchange.1.elim (fun hne => hne rfl) hsome
  rw [setGPTSize, if_neg Bool.false_ne_true]
  dsimp only
  rw [if_neg hsame]

/-- `RebuildSecondHeader`, when the headers have the size of the table. -/
theorem rebuildSecondHeader_eq {gpt : Data} (hsome : gpt.partitions ≠ none)
    (hnum : gpt.mainHeader.numParts = gpt.numParts) :
    rebuildSecondHeader gpt =
      { gpt with secondHeader :=
        { currentLBA := gpt.mainHeader.backupLBA
          backupLBA := gpt.mainHeader.currentLBA
          firstUsableLBA := gpt.mainHeader.firstUsableLBA
          lastUsableLBA := gpt.mainHeader.lastUsableLBA
          partitionEntriesLBA := add64 gpt.mainHeader.lastUsableLBA 1
          numParts := gpt.numParts } } := by
  obtain ⟨main, second, partitions, numParts, _, _, _, _⟩ := gpt
  dsimp only at hsome hnum
  subst hnum
  exact setGPTSize_same hsome

/-- The number of entries of a new table. -/
def newEntries (blockSize : Nat) : Nat := fillSectors blockSize numGptEntries

/-- What `SetGPTSize` leaves when there is no table. -/
structure Resized (old gpt : Data) : Prop where
  partitions_eq : gpt.partitions = some (List.replicate gpt.numParts {})
  numParts_eq : gpt.numParts = newEntries old.blockSize
  header_eq : gpt.mainHeader.numParts = gpt.numParts
  blockSize_eq : gpt.blockSize = old.blockSize
  diskSize_eq : gpt.diskSize = old.diskSize

theorem moveSecondHeaderToEnd_frame (gpt : Data) :
    (moveSecondHeaderToEnd gpt).partitions = gpt.partitions ∧
      (moveSecondHeaderToEnd gpt).numParts = gpt.numParts ∧
      (moveSecondHeaderToEnd gpt).blockSize = gpt.blockSize ∧
      (moveSecondHeaderToEnd gpt).diskSize = gpt.diskSize :=
  ⟨rfl, rfl, rfl, rfl⟩

theorem resized_resize {old : Data} (hnone : old.partitions = none) (numEntries : Nat) :
    (resize old numEntries).2.partitions = some (List.replicate numEntries {}) ∧
      (resize old numEntries).2.numParts = numEntries ∧
      (resize old numEntries).2.blockSize = old.blockSize ∧
      (resize old numEntries).2.diskSize = old.diskSize := by
  rw [resize, hnone]
  exact moveSecondHeaderToEnd_frame _

theorem resized_setGPTSize {old : Data} (hnone : old.partitions = none)
    (hpos : 0 < newEntries old.blockSize) :
    Resized old (setGPTSize old numGptEntries true).2 := by
  have hentries : fillSectors old.blockSize numGptEntries = newEntries old.blockSize := rfl
  rw [setGPTSize, if_pos rfl, hentries]
  dsimp only
  rw [if_pos ⟨Or.inr hnone, hpos⟩]
  obtain ⟨hpartitions, hnum, hblock, hdisk⟩ := resized_resize hnone (newEntries old.blockSize)
  exact ⟨hnum ▸ hpartitions, hnum, rfl, hblock, hdisk⟩

/-- What `ClearGPTData` leaves. -/
structure Cleared (old gpt : Data) : Prop where
  partitions_eq : gpt.partitions = some (List.replicate gpt.numParts {})
  numParts_eq : gpt.numParts = newEntries old.blockSize
  main_eq : gpt.mainHeader =
    { currentLBA := 1
      backupLBA := sub64 old.diskSize 1
      firstUsableLBA := add64 (getTableSizeInSectors gpt) 2
      lastUsableLBA := sub64 old.diskSize (add64 (getTableSizeInSectors gpt) 2)
      partitionEntriesLBA := 2
      numParts := gpt.numParts }
  entries_eq : gpt.secondHeader.partitionEntriesLBA = add64 gpt.mainHeader.lastUsableLBA 1
  blockSize_eq : gpt.blockSize = old.blockSize
  diskSize_eq : gpt.diskSize = old.diskSize
  alignment_eq : gpt.sectorAlignment = alignmentOf old.blockSize

theorem cleared_clearGPTData {old : Data} (hpos : 0 < newEntries old.blockSize) :
    Cleared old (clearGPTData old) := by
  have hresized : Resized { old with partitions := none } _ := resized_setGPTSize rfl hpos
  have hblank : (List.replicate ((List.replicate (newEntries old.blockSize) ({} : Part)).take
      (newEntries old.blockSize)).length ({} : Part)) ++
      (List.replicate (newEntries old.blockSize) ({} : Part)).drop (newEntries old.blockSize) =
      List.replicate (newEntries old.blockSize) {} := by
    rw [List.take_replicate, Nat.min_self, List.length_replicate, List.drop_replicate,
      Nat.sub_self]
    exact List.append_nil _
  rw [clearGPTData]
  generalize (setGPTSize { old with partitions := none } numGptEntries true).2 = gpt at hresized ⊢
  obtain ⟨hpartitions, hnum, hheader, hblock, hdisk⟩ := hresized
  dsimp only at hpartitions hnum hheader hblock hdisk ⊢
  have hsize (gpt' : Data) (hnum' : gpt'.numParts = newEntries old.blockSize)
      (hblock' : gpt'.blockSize = old.blockSize) :
      getTableSizeInSectors gpt' = getTableSizeInSectors gpt := by
    rw [getTableSizeInSectors, getTableSizeInSectors, hnum', hblock', hnum, hblock]
  rw [rebuildSecondHeader_eq]
  · rw [blankPartitions, hpartitions, hnum, hdisk, hblock]
    dsimp only
    rw [Option.map_some, hblank]
    refine ⟨rfl, rfl, ?_, rfl, rfl, rfl, rfl⟩
    rw [hheader.trans hnum]
    exact congrArg (fun size => Header.mk 1 (sub64 old.diskSize 1) (add64 size 2)
      (sub64 old.diskSize (add64 size 2)) 2 (newEntries old.blockSize))
      (hsize _ (by rfl) (by rfl)).symm
  · rw [hpartitions]
    exact Option.some_ne_none _
  · exact hheader

/-- A power of two that is the size of a block. -/
def BlockSize (blockSize : Nat) : Prop := ∃ k, 9 ≤ k ∧ k ≤ 16 ∧ blockSize = 2 ^ k

/-- The sizes that belong to the size of a block. -/
theorem sizes_of_blockSize {gpt : Data} (h : BlockSize gpt.blockSize)
    (hnum : gpt.numParts = newEntries gpt.blockSize) :
    0 < gpt.numParts ∧ getTableSizeInSectors gpt + 2 ≤ alignmentOf gpt.blockSize ∧
      alignmentOf gpt.blockSize * gpt.blockSize = 2 ^ 20 := by
  obtain ⟨k, hlow, hhigh, hk⟩ := h
  rw [getTableSizeInSectors, hnum, hk]
  interval_cases k
  all_goals decide

theorem newEntries_pos {blockSize : Nat} (h : BlockSize blockSize) : 0 < newEntries blockSize := by
  obtain ⟨k, hlow, hhigh, rfl⟩ := h
  interval_cases k
  all_goals decide

theorem blockSize_bounds {blockSize : Nat} (h : BlockSize blockSize) :
    blockSize ≠ 0 ∧ blockSize ≤ 2 ^ 16 := by
  obtain ⟨k, -, hhigh, rfl⟩ := h
  exact ⟨(Nat.two_pow_pos k).ne', Nat.pow_le_pow_right (by decide) hhigh⟩

theorem computeAlignment_eq {old gpt : Data} (h : Cleared old gpt)
    (hle : minAfAlignment ≤ alignmentOf old.blockSize) : computeAlignment gpt = gpt := by
  have hparts : parts gpt = List.replicate gpt.numParts {} := by
    rw [parts, h.partitions_eq, Option.getD_some, List.take_replicate, Nat.min_self]
  have hfound : (parts gpt).foldl (fun found part =>
      if part.isUsed then
        (2 ^ exponentFor part.firstLBA found.2, exponentFor part.firstLBA found.2)
      else found) (alignmentOf gpt.blockSize, Nat.log2 (alignmentOf gpt.blockSize)) =
      (alignmentOf gpt.blockSize, Nat.log2 (alignmentOf gpt.blockSize)) := by
    refine (List.foldl_ext _ (fun found _ => found) _ fun found part hpart => ?_).trans
      (List.foldl_fixed _)
    rw [hparts] at hpart
    rw [List.eq_of_mem_replicate hpart]
    rfl
  have halignment := h.alignment_eq
  rw [← h.blockSize_eq] at hle halignment
  rw [computeAlignment, hfound, if_neg fun hboth => Nat.not_lt.2 hle hboth.1, ← halignment]

/-- **A new table is fresh**, whatever was on the disk. -/
theorem fresh_loadPartitions {old : Data} (hblock : BlockSize old.blockSize)
    (hdisk : old.diskSize < 2 ^ 64) (hsize : 6 * 2 ^ 30 ≤ old.diskSize * old.blockSize) :
    Fresh (loadPartitions old) := by
  have hpos : 0 < newEntries old.blockSize := newEntries_pos hblock
  have hcleared := cleared_clearGPTData hpos
  rw [loadPartitions]
  generalize clearGPTData old = gpt at hcleared ⊢
  have hsame := hcleared.blockSize_eq
  have hdiskSize := hcleared.diskSize_eq
  have halignment := hcleared.alignment_eq
  obtain ⟨hnum, hfits, hproduct⟩ := sizes_of_blockSize (hsame ▸ hblock)
    (hsame ▸ hcleared.numParts_eq)
  rw [hsame] at hfits hproduct
  have hblockSize := blockSize_bounds hblock
  have hlow : minAfAlignment ≤ alignmentOf old.blockSize := by
    rw [minAfAlignment]
    by_contra hlt
    have hmul := Nat.mul_le_mul (Nat.le_of_lt_succ (Nat.not_le.1 hlt)) hblockSize.2
    omega
  have hlarge : alignmentOf old.blockSize * 2 ≤ old.diskSize := by
    refine Nat.le_of_mul_le_mul_right ?_ (Nat.pos_of_ne_zero hblockSize.1)
    rw [Nat.mul_right_comm, hproduct]
    omega
  rw [computeAlignment_eq hcleared hlow]
  have hfirst : add64 (getTableSizeInSectors gpt) 2 = getTableSizeInSectors gpt + 2 :=
    add64_eq (by omega)
  have hlast : sub64 old.diskSize (getTableSizeInSectors gpt + 2) =
      old.diskSize - (getTableSizeInSectors gpt + 2) := sub64_eq hdisk (by omega)
  refine ⟨hcleared.partitions_eq, hnum, ?_, ?_, ?_, ?_, ?_⟩
  · rw [hcleared.main_eq, hfirst, hlast, sub64_eq hdisk (by omega), hdiskSize]
  · rw [hcleared.entries_eq, hcleared.main_eq]
    dsimp only
    rw [hfirst, hlast, add64_eq (by omega), hdiskSize]
  · rwa [hdiskSize]
  · rwa [halignment]
  · rw [halignment, hdiskSize]
    omega

/-- **One partition on the whole disk.** When `LoadPartitions` returns 1 for a disk of at least
6 GiB, whatever the disk had before, `PalData::ClearDisk` returns and leaves a table with one
partition, from the first aligned sector to the last usable one. -/
theorem clearDisk_wholeDisk {verify : Data → Int} {turns : Nat} (hturns : 2 ≤ turns)
    {io : Gdisk.Answers (gptData verify turns)} {old : Data}
    (hload : io.loadPartitions = loadPartitions old) (hblock : BlockSize old.blockSize)
    (hdisk : old.diskSize < 2 ^ 64) (hsize : 6 * 2 ^ 30 ≤ old.diskSize * old.blockSize) :
    ∃ table part, (Gdisk.clearDisk (gptData verify turns) io io.loadPartitions).map
        Gdisk.Save.table = some table ∧ WholeDisk table part := by
  rw [hload]
  obtain ⟨table, htable, hwhole⟩ :=
    wholeDisk_clearDisk (fresh_loadPartitions hblock hdisk hsize) verify hturns io
  exact ⟨table, _, htable, hwhole⟩

/-- A disk of 8 GiB with a partition in a table for one entry. -/
def usedDisk : Data where
  mainHeader := ⟨1, 40, 3, 39, 2, 1⟩
  secondHeader := ⟨40, 1, 3, 39, 40, 1⟩
  partitions := some [⟨basicData, 0, 2 ^ 64 - 1⟩]
  numParts := 1
  blockSize := 512
  diskSize := 2 ^ 24
  sectorAlignment := 1
  justLooking := false

/-- Every call for the disk succeeds. -/
def usedDiskAnswers : Gdisk.Answers (gptData (fun _ => 0) 2) where
  loadPartitions := loadPartitions usedDisk
  openForWrite := true
  seek _ := true
  write _ := true
  writeMBRData := true

theorem clearDisk_usedDisk :
    ∃ table part, (Gdisk.clearDisk (gptData (fun _ => 0) 2) usedDiskAnswers
        usedDiskAnswers.loadPartitions).map Gdisk.Save.table = some table ∧
      WholeDisk table part := by
  have hblock : BlockSize usedDisk.blockSize := ⟨9, le_rfl, by decide, rfl⟩
  refine clearDisk_wholeDisk le_rfl rfl hblock ?_ ?_
  · change 2 ^ 24 < 2 ^ 64
    norm_num
  · change 6 * 2 ^ 30 ≤ 2 ^ 24 * 512
    norm_num

end UsbMaker.Gpt
