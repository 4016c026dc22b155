import UsbMaker.Run.Layout

/-!
# The master boot record

The class `MBRData` of gdisk, as `GPTData` uses it for the protective MBR. It has 128 partitions, of
which the first four are those of the record on the disk; the other ones are logical partitions. A
partition has its ends as numbers of sectors and, for old systems, as a cylinder, a head and a
sector, with the 255 heads and 63 sectors to a track that are assumed on Windows.

## Main definitions

* `Mbr.MBRPart`, `Mbr.MBRRecord`, `Mbr.TempMBR`: a partition, its record, and a sector of records.
* `Mbr.Data`: the members of the class.
* `Mbr.lbaToChs`, `Mbr.MBRPart.setLocation`.
* `Mbr.makeProtectiveMBR`, `Mbr.optimizeEESize`, `Mbr.findOverlaps`, `Mbr.doTheyFit`.

## Main results

* `Mbr.lba_lbaToChs`: the cylinder, head and sector of a sector number.
* `Mbr.makeProtectiveMBR_eq`: the protective MBR does not depend on the partitions before it.
-/

namespace UsbMaker.Mbr

/-! ### Partitions -/

/-- `MBR_SIGNATURE`. -/
def mbrSignature : BitVec 16 := 0xAA55#16

/-- `MAX_MBR_PARTS`. -/
abbrev maxMbrParts : Nat := 128

/-- `GetNumHeads` on Windows. -/
def numHeads : Nat := 255

/-- `GetNumSecsPerTrack` on Windows. -/
def numSecspTrack : Nat := 63

/-- `MAX_CYLINDERS`. -/
def maxCylinders : Nat := 1024

/-- `UINT32_MAX`, as a number of 64 bits. -/
def uint32Max : BitVec 64 := 0xFFFFFFFF#64

/-- `NONE`, `PRIMARY`, `LOGICAL`, `EBR` and `INVALID`. -/
inductive Use
  | none
  | primary
  | logical
  | ebr
  | invalid
  deriving DecidableEq, Repr

/-- A cylinder, a head and a sector in three bytes. -/
structure Chs where
  byte0 : Byte := 0
  byte1 : Byte := 0
  byte2 : Byte := 0
  deriving DecidableEq, Repr

/-- `MBRPart`; the default one is empty. -/
structure MBRPart where
  status : Byte := 0
  firstSector : Chs := {}
  partitionType : Byte := 0
  lastSector : Chs := {}
  firstLBA : BitVec 32 := 0
  lengthLBA : BitVec 32 := 0
  includeAs : Use := .none
  deriving DecidableEq, Repr

/-- A record of a partition on the disk. -/
structure MBRRecord where
  status : Byte
  firstSector : Chs
  partitionType : Byte
  lastSector : Chs
  firstLBA : BitVec 32
  lengthLBA : BitVec 32
  deriving DecidableEq, Repr

/-- `LBAtoCHS`: whether the number can be expressed, and the bytes. -/
def lbaToChs (lba : BitVec 32) (chs : Chs) : Bool × Chs :=
  if lba = 0 then (true, {})
  else if numHeads * numSecspTrack * maxCylinders ≤ lba.toNat then (false, ⟨254, 255, 255⟩)
  else
    let cylinder := lba.toNat / (numHeads * numSecspTrack)
    let remainder := lba.toNat - cylinder * numHeads * numSecspTrack
    let head := remainder / numSecspTrack
    let sector := remainder - head * numSecspTrack
    let expressed : Bool × Chs :=
      if head < numHeads then (true, { chs with byte0 := BitVec.ofNat 8 head }) else (false, chs)
    if sector < numSecspTrack then
      (expressed.1, { expressed.2 with
        byte1 := BitVec.ofNat 8 (sector + 1 + cylinder / 256 * 64)
        byte2 := BitVec.ofNat 8 (cylinder % 256) })
    else (false, expressed.2)

section Part

variable (part other : MBRPart)

/-- `GetStartLBA`. -/
def MBRPart.getStartLBA : BitVec 64 := part.firstLBA.setWidth 64

/-- `GetLengthLBA`. -/
def MBRPart.getLengthLBA : BitVec 64 := part.lengthLBA.setWidth 64

/-- `GetLastLBA`. -/
def MBRPart.getLastLBA : BitVec 64 :=
  if 0 < part.lengthLBA then part.getStartLBA + part.getLengthLBA - 1 else 0

/-- `DoTheyOverlap`. -/
def MBRPart.doTheyOverlap : Bool :=
  part.lengthLBA ≠ 0 && other.lengthLBA ≠ 0 &&
    (decide (part.getStartLBA ≤ other.getLastLBA) != decide (part.getLastLBA < other.getStartLBA))

/-- `RecomputeCHS`: whether both ends can be expressed, and the partition. -/
def MBRPart.recomputeCHS : Bool × MBRPart :=
  if 0 < part.lengthLBA then
    let first := lbaToChs part.firstLBA part.firstSector
    let last := lbaToChs (part.firstLBA + part.lengthLBA - 1) part.lastSector
    (first.1 && last.1, { part with firstSector := first.2, lastSector := last.2 })
  else (true, part)

/-- `SetStartLBA`. -/
def MBRPart.setStartLBA (start : BitVec 64) : MBRPart :=
  { part with firstLBA := start.setWidth 32 }.recomputeCHS.2

/-- `SetLengthLBA`. -/
def MBRPart.setLengthLBA (length : BitVec 64) : MBRPart :=
  { part with lengthLBA := length.setWidth 32 }.recomputeCHS.2

/-- `SetLocation`, with the size of the disk that all partitions share. -/
def MBRPart.setLocation (diskSize start length : BitVec 64) : MBRPart :=
  let part := { part with firstLBA := start.setWidth 32, lengthLBA := length.setWidth 32 }
  let validCHS := part.recomputeCHS.1
  let part := part.recomputeCHS.2
  if part.partitionType = 0xEE ∧ validCHS = false ∧ part.firstLBA = 1 ∧
      (part.getLengthLBA = diskSize - 1 ∨ part.getLengthLBA = uint32Max) then
    { part with lastSector := ⟨0xFF, 0xFF, 0xFF⟩ }
  else part

/-- `operator=` for a record. -/
def MBRRecord.toPart (record : MBRRecord) : MBRPart where
  status := record.status
  firstSector := record.firstSector
  partitionType := record.partitionType
  lastSector := record.lastSector
  firstLBA := record.firstLBA
  lengthLBA := record.lengthLBA
  includeAs := if 0 < record.lengthLBA then .primary else .none

/-- `StoreInStruct`. -/
def MBRPart.storeInStruct : MBRRecord where
  status := part.status
  firstSector := part.firstSector
  partitionType := part.partitionType
  lastSector := part.lastSector
  firstLBA := part.firstLBA
  lengthLBA := part.lengthLBA

end Part

/-! ### The record as a whole -/

/-- `MBRValidity`. -/
inductive Validity
  | invalid
  | gpt
  | hybrid
  | mbr
  deriving DecidableEq, Repr

/-- The members of `BasicMBRData`. -/
structure Data where
  code : Vector Byte 440
  diskSignature : BitVec 32
  nulls : BitVec 16
  partitions : Vector MBRPart maxMbrParts
  signature : BitVec 16
  /-- The size of the disk, in blocks. -/
  diskSize : BitVec 64
  /-- `MBRPart::diskSize`, which all partitions share. -/
  geometrySize : BitVec 64
  state : Validity
  deriving DecidableEq, Repr

section Data

variable (mbr : Data)

/-- `EmptyMBR`. -/
def emptyMBR (clearBootloader : Bool) : Data :=
  let mbr :=
    if clearBootloader then { mbr with code := Vector.replicate 440 0, nulls := 0 } else mbr
  { mbr with
    partitions := Vector.replicate maxMbrParts {}
    signature := mbrSignature
    state := .mbr }

/-- The default constructor. -/
def default : Data :=
  emptyMBR
    { code := Vector.replicate 440 0
      diskSignature := 0
      nulls := 0
      partitions := Vector.replicate maxMbrParts {}
      signature := 0
      diskSize := 0
      geometrySize := 0
      state := .invalid } true

/-- The length of the protective partition. -/
def protectiveLength (diskSize : BitVec 64) : BitVec 64 :=
  if diskSize < uint32Max then (diskSize.setWidth 32 - 1).setWidth 64 else uint32Max

/-- The protective partition. -/
def protectivePart : MBRPart :=
  { ({ partitionType := 0xEE : MBRPart }.setLocation mbr.geometrySize 1
      (protectiveLength mbr.diskSize)) with includeAs := .primary }

/-- `MakeProtectiveMBR`. -/
def makeProtectiveMBR (clearBoot : Bool) : Data :=
  let mbr := emptyMBR mbr clearBoot
  { mbr with
    nulls := 0
    signature := mbrSignature
    diskSignature := 0
    partitions := mbr.partitions.set 0 (protectivePart mbr)
    state := .gpt }

/-- The four partitions of the record on the disk. -/
def primaries : List MBRPart := mbr.partitions.toList.take 4

/-- The loop of `SectorUsedAs`. -/
def usedAs (sector : BitVec 64) : List MBRPart → Use → Use
  | [], used => used
  | part :: parts, used =>
    let used :=
      if part.getStartLBA ≤ sector ∧ sector ≤ part.getLastLBA then part.includeAs else used
    let used :=
      if part.getStartLBA = sector + 1 ∧ part.includeAs = .logical then .ebr else used
    let used := if sector = 0 then .ebr else used
    let used := if mbr.diskSize ≤ sector then .invalid else used
    if used = .none ∨ used = .ebr then usedAs sector parts used else used

/-- `SectorUsedAs`, for the first four partitions. -/
def sectorUsedAs (sector : BitVec 64) : Use := usedAs mbr sector (primaries mbr) .none

/-- `FindFirstInFree`. -/
def findFirstInFree (start : BitVec 64) : BitVec 64 :=
  (primaries mbr).foldl (fun best part =>
    if best < part.getLastLBA ∧ part.getLastLBA < start then part.getLastLBA + 1 else best) 1

/-- `FindLastInFree`. -/
def findLastInFree (start : BitVec 64) : BitVec 64 :=
  (primaries mbr).foldl (fun nearestStart part =>
    if part.getStartLBA < nearestStart ∧ start < part.getStartLBA then part.getStartLBA - 1
    else nearestStart)
    (if mbr.diskSize ≤ uint32Max ∧ 0 < mbr.diskSize then mbr.diskSize - 1 else uint32Max - 1)

/-- A partition with new contents. -/
def setPart (i : Fin maxMbrParts) (part : MBRPart) : Data :=
  { mbr with partitions := mbr.partitions.set i part }

/-- `RecomputeCHS`. -/
def recomputeCHS (i : Fin maxMbrParts) : Data :=
  setPart mbr i mbr.partitions[i].recomputeCHS.2

/-- `OptimizeEESize` for one partition of type 0xEE. -/
def optimizePart (i : Fin maxMbrParts) : Data :=
  let part := mbr.partitions[i]
  let mbr :=
    if sectorUsedAs mbr (part.getStartLBA - 1) = .none then
      setPart mbr i (part.setStartLBA (findFirstInFree mbr (part.getStartLBA - 1)))
    else mbr
  let part := mbr.partitions[i]
  let after := part.getStartLBA + part.getLengthLBA
  let mbr :=
    if sectorUsedAs mbr after = .none then
      setPart mbr i (part.setLengthLBA (findLastInFree mbr after - part.getStartLBA + 1))
    else mbr
  let part := mbr.partitions[i]
  let mbr :=
    if mbr.diskSize < after then
      setPart mbr i (part.setLengthLBA
        (if mbr.diskSize < uint32Max then
          (mbr.diskSize.setWidth 32).setWidth 64 - part.getStartLBA
        else uint32Max - part.getStartLBA))
    else mbr
  recomputeCHS mbr i

/-- `OptimizeEESize`. -/
def optimizeEESize : Data :=
  let typed := (primaries mbr).any fun part => part.partitionType ≠ 0xEE && part.partitionType ≠ 0
  let optimized := [(0 : Fin maxMbrParts), 1, 2, 3].foldl (fun mbr i =>
    if mbr.partitions[i].partitionType = 0xEE then optimizePart mbr i else mbr) mbr
  if typed then optimized else makeProtectiveMBR optimized false

/-- `FindOverlaps`. -/
def findOverlaps : Int :=
  mbr.partitions.toList.zipIdx.foldl (fun problems entry =>
    problems + (mbr.partitions.toList.drop (entry.2 + 1)).countP fun other =>
      entry.1.includeAs ≠ .none && other.includeAs ≠ .none && entry.1.doTheyOverlap other) 0

/-- `DoTheyFit`. -/
def doTheyFit : Bool :=
  mbr.partitions.toList.all fun part =>
    !(mbr.diskSize < part.getStartLBA || mbr.diskSize < part.getLastLBA)

end Data

/-! ### Cylinders, heads and sectors -/

/-- The sector number that a cylinder, a head and a sector stand for. -/
def Chs.lba (chs : Chs) : Nat :=
  ((chs.byte2.toNat + chs.byte1.toNat / 64 * 256) * numHeads + chs.byte0.toNat) * numSecspTrack +
    chs.byte1.toNat % 64 - 1

/-- The bytes of a sector number that can be expressed. -/
theorem lbaToChs_of_lt (lba : BitVec 32) (chs : Chs) (hpos : 0 < lba.toNat)
    (h : lba.toNat < numHeads * numSecspTrack * maxCylinders) :
    lbaToChs lba chs = (true,
      { byte0 := BitVec.ofNat 8 (lba.toNat % 16065 / 63)
        byte1 := BitVec.ofNat 8 (lba.toNat % 63 + 1 + lba.toNat / 16065 / 256 * 64)
        byte2 := BitVec.ofNat 8 (lba.toNat / 16065 % 256) }) := by
  have hzero : lba ≠ 0 := fun hzero => by simp [hzero] at hpos
  rw [lbaToChs, if_neg hzero, if_neg (Nat.not_le.mpr h)]
  simp only [numHeads, numSecspTrack]
  generalize lba.toNat = n
  have hrest : n - n / (255 * 63) * 255 * 63 = n % 16065 := by omega
  have hhead : n % 16065 / 63 < 255 := by omega
  have hsector : n % 16065 - n % 16065 / 63 * 63 = n % 63 := by omega
  have hlow : n % 63 < 63 := Nat.mod_lt n (by decide)
  simp only [hrest, hsector, if_pos hhead, if_pos hlow]

/-- The sector numbers that can be expressed. -/
theorem lbaToChs_fst (lba : BitVec 32) (chs : Chs) :
    (lbaToChs lba chs).1 = decide (lba.toNat < numHeads * numSecspTrack * maxCylinders) := by
  by_cases hlt : lba.toNat < numHeads * numSecspTrack * maxCylinders
  · rw [decide_eq_true hlt]
    by_cases hzero : lba = 0
    · rw [lbaToChs, if_pos hzero]
    · have hpos : 0 < lba.toNat := Nat.pos_of_ne_zero fun h => hzero (BitVec.eq_of_toNat_eq h)
      rw [lbaToChs_of_lt lba chs hpos hlt]
  · have hzero : lba ≠ 0 := by
      rintro rfl
      exact hlt (by decide)
    rw [decide_eq_false hlt, lbaToChs, if_neg hzero, if_pos (Nat.not_lt.mp hlt)]

/-- **Cylinder, head and sector**: the bytes of a sector number that can be expressed stand for
it. -/
theorem lba_lbaToChs (lba : BitVec 32) (chs : Chs) (hpos : 0 < lba.toNat)
    (h : lba.toNat < numHeads * numSecspTrack * maxCylinders) :
    (lbaToChs lba chs).2.lba = lba.toNat := by
  rw [lbaToChs_of_lt lba chs hpos h, Chs.lba]
  simp only [numHeads, numSecspTrack, maxCylinders, BitVec.toNat_ofNat] at h ⊢
  generalize lba.toNat = n at *
  have hcylinder : n / 16065 < 1024 := by omega
  have hbyte0 : n % 16065 / 63 % 2 ^ 8 = n % 16065 / 63 := Nat.mod_eq_of_lt (by omega)
  have hbyte1 : (n % 63 + 1 + n / 16065 / 256 * 64) % 2 ^ 8 = n % 63 + 1 + n / 16065 / 256 * 64 :=
    Nat.mod_eq_of_lt (by omega)
  have hbyte2 : n / 16065 % 256 % 2 ^ 8 = n / 16065 % 256 := Nat.mod_eq_of_lt (by omega)
  have hhigh : (n % 63 + 1 + n / 16065 / 256 * 64) / 64 = n / 16065 / 256 := by omega
  have hsector : (n % 63 + 1 + n / 16065 / 256 * 64) % 64 = n % 63 + 1 := by omega
  have hback : n / 16065 % 256 + n / 16065 / 256 * 256 = n / 16065 := by omega
  rw [hbyte0, hbyte1, hbyte2, hhigh, hsector, hback]
  omega

/-! ### The protective MBR -/

/-- A protective MBR, whatever was there before: it keeps the code for booting, unless this is
cleared, and the size of the disk. -/
theorem makeProtectiveMBR_eq (mbr : Data) (clearBoot : Bool) :
    makeProtectiveMBR mbr clearBoot =
      { code := if clearBoot then Vector.replicate 440 0 else mbr.code
        diskSignature := 0
        nulls := 0
        partitions := (Vector.replicate maxMbrParts {}).set 0 (protectivePart mbr)
        signature := mbrSignature
        diskSize := mbr.diskSize
        geometrySize := mbr.geometrySize
        state := .gpt } := by
  cases clearBoot <;> rfl

section Protective

variable (mbr : Data) (clearBoot : Bool)

theorem MBRPart.recomputeCHS_snd (part : MBRPart) :
    part.recomputeCHS.2 = { part with
      firstSector := part.recomputeCHS.2.firstSector
      lastSector := part.recomputeCHS.2.lastSector } := by
  rw [MBRPart.recomputeCHS]
  split_ifs <;> rfl

/-- `SetLocation` sets the ends, and leaves what says how the partition is used. -/
theorem MBRPart.setLocation_eq (part : MBRPart) (diskSize start length : BitVec 64) :
    part.setLocation diskSize start length =
      { part with
        firstLBA := start.setWidth 32
        lengthLBA := length.setWidth 32
        firstSector := (part.setLocation diskSize start length).firstSector
        lastSector := (part.setLocation diskSize start length).lastSector } := by
  rw [MBRPart.setLocation, MBRPart.recomputeCHS_snd]
  split_ifs <;> rfl

theorem protectivePart_eq :
    protectivePart mbr =
      { partitionType := 0xEE
        firstLBA := 1
        lengthLBA := (protectiveLength mbr.diskSize).setWidth 32
        includeAs := .primary
        firstSector := (protectivePart mbr).firstSector
        lastSector := (protectivePart mbr).lastSector } := by
  rw [protectivePart, MBRPart.setLocation_eq]
  rfl

theorem MBRPart.toNat_getLastLBA (part : MBRPart) :
    part.getLastLBA.toNat =
      if part.lengthLBA.toNat = 0 then 0 else part.firstLBA.toNat + part.lengthLBA.toNat - 1 := by
  have hfirst := part.firstLBA.isLt
  have hlength := part.lengthLBA.isLt
  have hone : (1 : BitVec 64).toNat = 1 := rfl
  have hzero : (0 : BitVec 32).toNat = 0 := rfl
  rw [MBRPart.getLastLBA, MBRPart.getStartLBA, MBRPart.getLengthLBA]
  by_cases h : part.lengthLBA.toNat = 0
  · rw [if_neg (by rw [BitVec.lt_def]; omega), if_pos h]
    rfl
  · rw [if_pos (by rw [BitVec.lt_def]; omega), if_neg h, BitVec.toNat_sub, BitVec.toNat_add,
      BitVec.toNat_setWidth, BitVec.toNat_setWidth, hone]
    omega

theorem toNat_lengthLBA_protectivePart :
    (protectivePart mbr).lengthLBA.toNat =
      if mbr.diskSize.toNat < 2 ^ 32 - 1 then (mbr.diskSize.toNat + (2 ^ 32 - 1)) % 2 ^ 32
      else 2 ^ 32 - 1 := by
  have hmax : mbr.diskSize < uint32Max ↔ mbr.diskSize.toNat < 2 ^ 32 - 1 := BitVec.lt_def
  have hone : (1 : BitVec 32).toNat = 1 := rfl
  rw [protectivePart_eq]
  change ((protectiveLength mbr.diskSize).setWidth 32).toNat = _
  rw [protectiveLength]
  split_ifs with hsmall hlt hlt
  · rw [BitVec.setWidth_setWidth_of_le _ (by decide), BitVec.setWidth_eq, BitVec.toNat_sub,
      BitVec.toNat_setWidth, hone]
    omega
  · exact absurd (hmax.mp hsmall) hlt
  · exact absurd (hmax.mpr hlt) hsmall
  · rfl

/-- The protective partition ends at the last sector of a disk with fewer than `2 ^ 32 - 1`
sectors. -/
theorem toNat_getLastLBA_protectivePart (hpos : 0 < mbr.diskSize.toNat) :
    (protectivePart mbr).getLastLBA.toNat =
      if mbr.diskSize.toNat < 2 ^ 32 - 1 then mbr.diskSize.toNat - 1 else 2 ^ 32 - 1 := by
  have hfirst : (protectivePart mbr).firstLBA.toNat = 1 := by
    rw [protectivePart_eq]
    rfl
  rw [MBRPart.toNat_getLastLBA, toNat_lengthLBA_protectivePart, hfirst]
  split_ifs <;> omega

theorem toList_makeProtectiveMBR :
    (makeProtectiveMBR mbr clearBoot).partitions.toList =
      protectivePart mbr :: List.replicate 127 {} := by
  rw [makeProtectiveMBR_eq]
  rfl

theorem findOverlaps_makeProtectiveMBR : findOverlaps (makeProtectiveMBR mbr clearBoot) = 0 := by
  have hempty (part : MBRPart) : (({} : MBRPart).includeAs ≠ .none && part.includeAs ≠ .none &&
      ({} : MBRPart).doTheyOverlap part) = false := rfl
  rw [findOverlaps, toList_makeProtectiveMBR, List.zipIdx_cons, List.foldl_cons]
  have hfirst : ((protectivePart mbr :: List.replicate 127 ({} : MBRPart)).drop (0 + 1)).countP
      (fun other => (protectivePart mbr).includeAs ≠ .none && other.includeAs ≠ .none &&
        (protectivePart mbr).doTheyOverlap other) = 0 := by
    rw [List.countP_eq_zero]
    intro part hpart
    rw [List.eq_of_mem_replicate hpart]
    simp
  refine (List.foldl_ext _ (fun problems _ => problems) _ fun problems entry hentry => ?_).trans
    ((List.foldl_fixed _).trans ?_)
  · have hpart : entry.1 = {} := List.eq_of_mem_replicate (List.fst_mem_of_mem_zipIdx hentry)
    rw [hpart]
    simp
  · rw [hfirst]
    rfl

/-- The protective MBR fits on every disk that has a sector. -/
theorem doTheyFit_makeProtectiveMBR :
    doTheyFit (makeProtectiveMBR mbr clearBoot) = decide (0 < mbr.diskSize.toNat) := by
  have hstart : (protectivePart mbr).getStartLBA.toNat = 1 := by
    rw [protectivePart_eq]
    rfl
  have hsize : (makeProtectiveMBR mbr clearBoot).diskSize = mbr.diskSize := by
    rw [makeProtectiveMBR_eq]
  have hempty : (List.replicate 127 ({} : MBRPart)).all (fun part =>
      !(mbr.diskSize < part.getStartLBA || mbr.diskSize < part.getLastLBA)) = true := by
    rw [List.all_eq_true]
    intro part hpart
    rw [List.eq_of_mem_replicate hpart]
    simp [MBRPart.getStartLBA, MBRPart.getLastLBA]
  rw [doTheyFit, toList_makeProtectiveMBR, List.all_cons, hsize, hempty, Bool.and_true]
  by_cases hpos : 0 < mbr.diskSize.toNat
  · have hlast := toNat_getLastLBA_protectivePart mbr hpos
    have hle : (protectivePart mbr).getLastLBA.toNat ≤ mbr.diskSize.toNat := by
      rw [hlast]
      split_ifs <;> omega
    simp only [BitVec.lt_def, hstart, decide_eq_true hpos]
    simp only [Nat.not_lt.mpr hpos, Nat.not_lt.mpr hle, decide_false]
    rfl
  · have hzero : mbr.diskSize.toNat = 0 := Nat.eq_zero_of_not_pos hpos
    simp [BitVec.lt_def, hstart, hzero]

end Protective

end UsbMaker.Mbr
