import UsbMaker.Disk.FreeSpace
import UsbMaker.Disk.GptObject

/-!
# Verification

`Verify` counts the problems of a table in memory: the checksums that were wrong, the headers that
do not agree with each other or with the disk, the partitions that overlap, are not within the
usable sectors or have no counterpart in a hybrid MBR, and a protective MBR that does not fit on the
disk. It corrects the sector of the main header. The warnings that it prints do not count.

## Main definitions

* `GptDisk.verify`, with `GptDisk.findHybridMismatches`.
* `GptDisk.Agree`: headers that agree with each other and with the disk.

## Main results

* `GptDisk.verify_eq_zero_iff`: when there are no problems.
-/

namespace UsbMaker.GptDisk

section Verify

variable (d : Data)

/-- The entries that a loop over the table comes to. -/
def parts : List Part := (d.partitions.getD []).take d.numParts.toNat

/-- A partition of the MBR of a type of its own, and no partition in use with the same ends. -/
def isMismatch (mbrPart : Mbr.MBRPart) : Bool :=
  let mbrFirst := mbrPart.getStartLBA
  let mbrLast := mbrFirst + mbrPart.getLengthLBA - 1
  (mbrPart.partitionType ≠ 0xEE && mbrPart.partitionType ≠ 0) &&
    !(parts d).any fun part => part.firstLBA = mbrFirst && part.lastLBA = mbrLast &&
      part.toPart.isUsed

/-- `FindHybridMismatches`. -/
def findHybridMismatches : Int := (Mbr.primaries d.protectiveMBR).countP (isMismatch d)

/-- The problems of the checksums. -/
def crcProblems : List Bool :=
  [!d.mainCrcOk, !d.mainPartsCrcOk, !d.secondCrcOk, !d.secondPartsCrcOk]

/-- The problems of the headers, after the sector of the main header has been corrected. -/
def headerProblems : List Bool :=
  let main := d.mainHeader
  let second := d.secondHeader
  let size := getTableSizeInSectors d
  [second.currentLBA ≠ d.diskSize - 1, main.currentLBA ≠ second.backupLBA,
    main.backupLBA ≠ second.currentLBA, main.firstUsableLBA ≠ second.firstUsableLBA,
    main.lastUsableLBA ≠ second.lastUsableLBA, main.diskGUID ≠ second.diskGUID,
    main.numParts ≠ second.numParts, main.sizeOfPartitionEntries ≠ second.sizeOfPartitionEntries,
    d.diskSize ≤ main.backupLBA, main.firstUsableLBA < main.partitionEntriesLBA + size,
    main.partitionEntriesLBA < 2, second.currentLBA < second.partitionEntriesLBA + size,
    d.diskSize ≤ main.lastUsableLBA ∨ main.backupLBA < main.lastUsableLBA]

/-- The sector of the main header is corrected. -/
def corrected : Data := { d with mainHeader := { d.mainHeader with currentLBA := 1 } }

/-- `Verify`: the number of problems, and the table. -/
def verify : Int × Data :=
  let moved : Bool := d.mainHeader.currentLBA ≠ 1
  let d := corrected d
  let problems := (crcProblems d ++ moved :: headerProblems d).count true
  let problems := problems + Gpt.findOverlaps d.toData + Gpt.findInsanePartitions d.toData
  let problems := problems + findHybridMismatches d + Mbr.findOverlaps d.protectiveMBR
  let problems := problems + Gpt.checkGPTSize d.toData
  (if Mbr.doTheyFit d.protectiveMBR then problems else problems + 1, d)

end Verify

/-! ### No problems -/

/-- Headers that agree with each other and with the disk. -/
structure Agree (d : Data) : Prop where
  main_current : d.mainHeader.currentLBA = 1
  second_current : d.secondHeader.currentLBA = d.diskSize - 1
  second_backup : d.secondHeader.backupLBA = 1
  main_backup : d.mainHeader.backupLBA = d.diskSize - 1
  first_eq : d.mainHeader.firstUsableLBA = d.secondHeader.firstUsableLBA
  last_eq : d.mainHeader.lastUsableLBA = d.secondHeader.lastUsableLBA
  guid_eq : d.mainHeader.diskGUID = d.secondHeader.diskGUID
  num_eq : d.mainHeader.numParts = d.secondHeader.numParts
  size_eq : d.mainHeader.sizeOfPartitionEntries = d.secondHeader.sizeOfPartitionEntries
  backup_lt : d.mainHeader.backupLBA < d.diskSize
  first_le : d.mainHeader.partitionEntriesLBA + getTableSizeInSectors d ≤
    d.mainHeader.firstUsableLBA
  entries_le : 2 ≤ d.mainHeader.partitionEntriesLBA
  second_le : d.secondHeader.partitionEntriesLBA + getTableSizeInSectors d ≤
    d.secondHeader.currentLBA
  last_lt : d.mainHeader.lastUsableLBA < d.diskSize
  last_le : d.mainHeader.lastUsableLBA ≤ d.mainHeader.backupLBA

/-- All four checksums were right. -/
structure CrcsOk (d : Data) : Prop where
  main : d.mainCrcOk = true
  mainParts : d.mainPartsCrcOk = true
  second : d.secondCrcOk = true
  secondParts : d.secondPartsCrcOk = true

section Verify

variable {d : Data}

theorem count_crcProblems_eq_zero_iff : (crcProblems d).count true = 0 ↔ CrcsOk d := by
  rw [List.count_eq_zero]
  simp only [crcProblems, List.mem_cons, List.not_mem_nil, or_false, not_or, eq_comm (a := true),
    Bool.not_eq_true', Bool.not_eq_false]
  exact ⟨fun ⟨h₁, h₂, h₃, h₄⟩ => ⟨h₁, h₂, h₃, h₄⟩, fun ⟨h₁, h₂, h₃, h₄⟩ => ⟨h₁, h₂, h₃, h₄⟩⟩

theorem count_headerProblems_eq_zero_iff (hmain : d.mainHeader.currentLBA = 1) :
    (headerProblems d).count true = 0 ↔ Agree d := by
  rw [List.count_eq_zero]
  simp only [headerProblems, List.mem_cons, List.not_mem_nil, or_false, not_or,
    eq_comm (a := true), decide_eq_true_iff, not_not, BitVec.not_le, BitVec.not_lt]
  constructor
  · rintro ⟨h₁, h₂, h₃, h₄, h₅, h₆, h₇, h₈, h₉, h₁₀, h₁₁, h₁₂, h₁₃, h₁₄⟩
    exact ⟨hmain, h₁, h₂.symm.trans hmain, h₃.trans h₁, h₄, h₅, h₆, h₇, h₈, h₉, h₁₀, h₁₁, h₁₂, h₁₃,
      h₁₄⟩
  · rintro ⟨-, h₁, h₂, h₃, h₄, h₅, h₆, h₇, h₈, h₉, h₁₀, h₁₁, h₁₂, h₁₃, h₁₄⟩
    exact ⟨h₁, hmain.trans h₂.symm, h₃.trans h₁.symm, h₄, h₅, h₆, h₇, h₈, h₉, h₁₀, h₁₁, h₁₂, h₁₃,
      h₁₄⟩

theorem foldl_add_nonneg {α : Type} (f : α → Int) (hf : ∀ a, 0 ≤ f a) (l : List α) (problems : Int)
    (hproblems : 0 ≤ problems) : 0 ≤ l.foldl (fun problems a => problems + f a) problems := by
  induction l generalizing problems with
  | nil => exact hproblems
  | cons a l ih => exact ih _ (Int.add_nonneg hproblems (hf a))

theorem findOverlaps_nonneg (gpt : Gpt.Data) : 0 ≤ Gpt.findOverlaps gpt :=
  foldl_add_nonneg _ (fun _ => Int.natCast_nonneg _) _ 0 le_rfl

theorem findInsanePartitions_nonneg (gpt : Gpt.Data) : 0 ≤ Gpt.findInsanePartitions gpt := by
  refine List.foldlRecOn _ _ le_rfl fun problems hproblems part _ => ?_
  split_ifs <;> omega

theorem checkGPTSize_nonneg (gpt : Gpt.Data) : 0 ≤ Gpt.checkGPTSize gpt := by
  rw [Gpt.checkGPTSize]
  split_ifs <;> decide

theorem mbr_findOverlaps_nonneg (mbr : Mbr.Data) : 0 ≤ Mbr.findOverlaps mbr :=
  foldl_add_nonneg _ (fun _ => Int.natCast_nonneg _) _ 0 le_rfl

/-- A table without problems. -/
structure Verified (d : Data) : Prop where
  crcs : CrcsOk d
  agree : Agree d
  size : Gpt.checkGPTSize d.toData = 0
  overlaps : Gpt.findOverlaps d.toData = 0
  insane : Gpt.findInsanePartitions d.toData = 0
  hybrid : findHybridMismatches d = 0
  mbr : Mbr.findOverlaps d.protectiveMBR = 0
  fits : Mbr.doTheyFit d.protectiveMBR = true

theorem corrected_eq (h : d.mainHeader.currentLBA = 1) : corrected d = d := by
  rw [corrected, ← h]

/-- What `Verify` counts. -/
theorem verify_fst : (verify d).1 =
    let problems := (((crcProblems d).count true + ((headerProblems (corrected d)).count true +
        if d.mainHeader.currentLBA = 1 then 0 else 1) : Nat) : Int) +
      Gpt.findOverlaps d.toData + Gpt.findInsanePartitions d.toData +
        (findHybridMismatches d + Mbr.findOverlaps d.protectiveMBR) + Gpt.checkGPTSize d.toData
    if Mbr.doTheyFit d.protectiveMBR then problems else problems + 1 := by
  have hmoved : (if (decide (d.mainHeader.currentLBA ≠ 1) == true) = true then 1 else 0) =
      if d.mainHeader.currentLBA = 1 then 0 else 1 := by
    split_ifs with h₁ h₂ h₂ <;> simp_all
  rw [← hmoved, ← List.count_cons, ← List.count_append, ← Int.add_assoc]
  rfl

section Counts

variable (d)

theorem counts_nonneg : 0 ≤ Gpt.findOverlaps d.toData ∧ 0 ≤ Gpt.findInsanePartitions d.toData ∧
    0 ≤ findHybridMismatches d ∧ 0 ≤ Mbr.findOverlaps d.protectiveMBR ∧
      0 ≤ Gpt.checkGPTSize d.toData :=
  ⟨findOverlaps_nonneg _, findInsanePartitions_nonneg _, Int.natCast_nonneg _,
    mbr_findOverlaps_nonneg _, checkGPTSize_nonneg _⟩

theorem verify_nonneg : 0 ≤ (verify d).1 := by
  have hcounts := counts_nonneg d
  rw [verify_fst]
  dsimp only
  split_ifs <;> omega

end Counts

/-- **No problems.** -/
theorem verify_eq_zero_iff : (verify d).1 = 0 ↔ Verified d := by
  have hcounts := counts_nonneg d
  have hcrcs := count_crcProblems_eq_zero_iff (d := d)
  rw [verify_fst]
  dsimp only
  constructor
  · intro hzero
    have hfits : Mbr.doTheyFit d.protectiveMBR = true := by
      by_contra hnot
      rw [if_neg hnot] at hzero
      omega
    rw [if_pos hfits] at hzero
    have hmain : d.mainHeader.currentLBA = 1 := by
      by_contra hnot
      rw [if_neg hnot] at hzero
      omega
    rw [if_pos hmain, corrected_eq hmain] at hzero
    exact ⟨hcrcs.mp (by omega), (count_headerProblems_eq_zero_iff hmain).mp (by omega), by omega,
      by omega, by omega, by omega, by omega, hfits⟩
  · rintro ⟨hcrcsOk, hagree, h₁, h₂, h₃, h₄, h₅, hfits⟩
    have hmain := hagree.main_current
    have hheaders := (count_headerProblems_eq_zero_iff hmain).mpr hagree
    rw [if_pos hfits, if_pos hmain, corrected_eq hmain, hcrcs.mpr hcrcsOk, hheaders, h₁, h₂, h₃, h₄,
      h₅]
    rfl

/-- The result of a function that returns false when there are problems. -/
theorem verified_iff : (!decide (0 < (verify d).1)) = true ↔ Verified d := by
  have hnonneg := verify_nonneg d
  rw [← verify_eq_zero_iff, Bool.not_eq_true', decide_eq_false_iff_not]
  omega

end Verify

end UsbMaker.GptDisk
