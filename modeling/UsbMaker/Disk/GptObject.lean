import UsbMaker.Disk.PartName
import UsbMaker.Disk.MbrRead

/-!
# The class with all its members

`GPTData` with the members that `UsbMaker.Disk.PartitionTable` leaves out: what else the headers and
the entries have, the checksums and whether they were right, the state, and the protective MBR. The
numbers have the widths of the source. `Data.toData` forgets these members again, and every function
of the class does to the rest what its namesake there does.

## Main definitions

* `GptDisk.Data`, `GptDisk.Data.toData`.
* `GptDisk.setGPTSize`, `GptDisk.clearGPTData`, `GptDisk.rebuildMainHeader`,
  `GptDisk.rebuildSecondHeader`, `GptDisk.recomputeCRCs`, `GptDisk.createPartition`.

## Main results

* `GptDisk.toData_moveSecondHeaderToEnd`, `GptDisk.toData_setGPTSize`,
  `GptDisk.toData_rebuildSecondHeader`, `GptDisk.toData_clearGPTData`,
  `GptDisk.toData_createPartition`.
-/

namespace UsbMaker.GptDisk

open Gpt (Guid)

/-- `GPTValidity`. -/
inductive Validity
  | valid
  | corrupt
  | invalid
  deriving DecidableEq, Repr

/-- The members of `GPTData`. -/
structure Data where
  mainHeader : Header
  secondHeader : Header
  /-- The array of partitions, `none` for a null pointer. -/
  partitions : Option (List Part)
  /-- The number of partitions that the table can hold. -/
  numParts : BitVec 32
  protectiveMBR : Mbr.Data
  /-- The size of a logical block. -/
  blockSize : Nat
  /-- The size of the device, in logical blocks. -/
  diskSize : BitVec 64
  sectorAlignment : Nat
  state : Validity
  justLooking : Bool
  mainCrcOk : Bool
  secondCrcOk : Bool
  mainPartsCrcOk : Bool
  secondPartsCrcOk : Bool
  deriving DecidableEq, Repr

/-! ### Forgetting members -/

/-- An entry as the table in memory has it. -/
def Part.toPart (part : Part) : Gpt.Part where
  partitionType := part.partitionType
  firstLBA := part.firstLBA.toNat
  lastLBA := part.lastLBA.toNat

/-- A header as the table in memory has it. -/
def Header.toHeader (h : Header) : Gpt.Header where
  currentLBA := h.currentLBA.toNat
  backupLBA := h.backupLBA.toNat
  firstUsableLBA := h.firstUsableLBA.toNat
  lastUsableLBA := h.lastUsableLBA.toNat
  partitionEntriesLBA := h.partitionEntriesLBA.toNat
  numParts := h.numParts.toNat

/-- The table in memory. -/
def Data.toData (d : Data) : Gpt.Data where
  mainHeader := d.mainHeader.toHeader
  secondHeader := d.secondHeader.toHeader
  partitions := d.partitions.map (List.map Part.toPart)
  numParts := d.numParts.toNat
  blockSize := d.blockSize
  diskSize := d.diskSize.toNat
  sectorAlignment := d.sectorAlignment
  justLooking := d.justLooking

/-! ### The functions of the class -/

section Functions

variable (d : Data)

/-- `GetTableSizeInSectors`. -/
def getTableSizeInSectors : BitVec 64 := BitVec.ofNat 64 (Gpt.getTableSizeInSectors d.toData)

/-- `RecomputeCHS` of `GPTData`. -/
def recomputeCHS (mbr : Mbr.Data) : Mbr.Data :=
  (List.finRange 4).foldl (fun mbr i => Mbr.recomputeCHS mbr (i.castLE (by decide))) mbr

/-- The protective MBR after `MoveSecondHeaderToEnd`. -/
def movedMBR : Mbr.Data :=
  if d.mainHeader.lastUsableLBA ≠ d.diskSize - d.mainHeader.firstUsableLBA then
    let mbr :=
      if d.protectiveMBR.state = .hybrid then
        recomputeCHS (Mbr.optimizeEESize d.protectiveMBR)
      else d.protectiveMBR
    if mbr.state = .gpt then Mbr.makeProtectiveMBR mbr false else mbr
  else d.protectiveMBR

/-- `MoveSecondHeaderToEnd`. -/
def moveSecondHeaderToEnd : Data :=
  let last := d.diskSize - d.mainHeader.firstUsableLBA
  { d with
    protectiveMBR := movedMBR d
    mainHeader := { d.mainHeader with backupLBA := d.diskSize - 1, lastUsableLBA := last }
    secondHeader := { d.secondHeader with
      currentLBA := d.diskSize - 1, lastUsableLBA := last, partitionEntriesLBA := last + 1 } }

/-- The part of `SetGPTSize` for a number of partitions that changes. -/
def resize (numEntries : BitVec 32) : Bool × Data :=
  let resized : Bool × List Part :=
    match d.partitions with
    | none => (true, List.replicate numEntries.toNat {})
    | some old =>
      if numEntries.toNat < Gpt.highPart d.toData + 1 then (false, old)
      else
        let copied := old.take (min numEntries.toNat d.numParts.toNat)
        (true, copied ++ List.replicate (numEntries.toNat - copied.length) {})
  let d := { d with partitions := some resized.2, numParts := numEntries }
  let first := getTableSizeInSectors d + d.mainHeader.partitionEntriesLBA
  let d := { d with
    mainHeader := { d.mainHeader with firstUsableLBA := first }
    secondHeader := { d.secondHeader with firstUsableLBA := first } }
  (resized.1, moveSecondHeaderToEnd d)

/-- `SetGPTSize`; its call of `CheckGPTSize` only prints warnings. -/
def setGPTSize (numEntries : BitVec 32) (fillGPTSectors : Bool) : Bool × Data :=
  let numEntries :=
    if fillGPTSectors then BitVec.ofNat 32 (Gpt.fillSectors d.blockSize numEntries.toNat)
    else numEntries
  let result :=
    if (numEntries ≠ d.numParts ∨ d.partitions = none) ∧ 0 < numEntries.toNat then
      resize d numEntries
    else (true, d)
  let d := result.2
  (result.1, { d with
    mainHeader := { d.mainHeader with numParts := d.numParts }
    secondHeader := { d.secondHeader with numParts := d.numParts } })

/-- The main header that `RebuildMainHeader` makes of the second one. -/
def Header.toMain (second : Header) (tableSize : BitVec 64) : Header where
  signature := gptSignature
  revision := second.revision
  headerSize := second.headerSize
  headerCRC := 0
  reserved := second.reserved
  currentLBA := second.backupLBA
  backupLBA := second.currentLBA
  firstUsableLBA := second.firstUsableLBA
  lastUsableLBA := second.lastUsableLBA
  diskGUID := second.diskGUID
  numParts := second.numParts
  partitionEntriesLBA := second.firstUsableLBA - tableSize
  sizeOfPartitionEntries := second.sizeOfPartitionEntries
  partitionEntriesCRC := second.partitionEntriesCRC
  reserved2 := second.reserved2

/-- The second header that `RebuildSecondHeader` makes of the main one. -/
def Header.toSecond (main : Header) : Header where
  signature := gptSignature
  revision := main.revision
  headerSize := main.headerSize
  headerCRC := 0
  reserved := main.reserved
  currentLBA := main.backupLBA
  backupLBA := main.currentLBA
  firstUsableLBA := main.firstUsableLBA
  lastUsableLBA := main.lastUsableLBA
  diskGUID := main.diskGUID
  partitionEntriesLBA := main.lastUsableLBA + 1
  numParts := main.numParts
  sizeOfPartitionEntries := main.sizeOfPartitionEntries
  partitionEntriesCRC := main.partitionEntriesCRC
  reserved2 := main.reserved2

/-- `RebuildMainHeader`. -/
def rebuildMainHeader : Data :=
  let d := { d with
    mainHeader := d.secondHeader.toMain (getTableSizeInSectors d)
    mainCrcOk := d.secondCrcOk }
  (setGPTSize d d.mainHeader.numParts false).2

/-- `RebuildSecondHeader`. -/
def rebuildSecondHeader : Data :=
  let d := { d with
    secondHeader := d.mainHeader.toSecond
    secondCrcOk := d.mainCrcOk }
  (setGPTSize d d.secondHeader.numParts false).2

/-- `BlankPartitions`. -/
def blankPartitions : Data :=
  { d with partitions := d.partitions.map fun all =>
      List.replicate (all.take d.numParts.toNat).length {} ++ all.drop d.numParts.toNat }

/-- The main header that `ClearGPTData` makes, with the random GUID of the disk. -/
def initHeader (diskGUID : Guid) : Data :=
  let first := getTableSizeInSectors d + 2
  { d with
    mainHeader := { d.mainHeader with
      signature := gptSignature
      revision := gptRevision
      headerSize := 92
      reserved := 0
      currentLBA := 1
      partitionEntriesLBA := 2
      sizeOfPartitionEntries := 128
      firstUsableLBA := first
      reserved2 := Vector.replicate 420 0
      backupLBA := d.diskSize - 1
      lastUsableLBA := d.diskSize - first
      diskGUID := diskGUID }
    sectorAlignment := Gpt.alignmentOf d.blockSize }

/-- All four checksums count as right. -/
def withCrcOk : Data :=
  { d with
    mainCrcOk := true, secondCrcOk := true, mainPartsCrcOk := true, secondPartsCrcOk := true }

/-- `ClearGPTData`. -/
def clearGPTData (diskGUID : Guid) : Data :=
  let d := (setGPTSize { d with partitions := none } 128 true).2
  withCrcOk (blankPartitions (rebuildSecondHeader (initHeader d diskGUID)))

/-- `ComputeAlignment`. -/
def computeAlignment : Data :=
  { d with sectorAlignment := (Gpt.computeAlignment d.toData).sectorAlignment }

/-- The bytes of the table, as far as `numParts * GPT_SIZE` goes. -/
def tableBytes : List Byte :=
  (partLayout.encodeAll (d.partitions.getD [])).take (d.numParts.toNat * 128 % 2 ^ 32)

/-- `RecomputeCRCs`. -/
def recomputeCRCs : Data :=
  let size : BitVec 32 :=
    if 512 < d.mainHeader.headerSize.toNat then 92 else d.mainHeader.headerSize
  let crc := chksumCrc32 (tableBytes d)
  { d with
    mainHeader := withCrc size.toNat
      { d.mainHeader with headerSize := size, partitionEntriesCRC := crc }
    secondHeader := withCrc size.toNat
      { d.secondHeader with headerSize := size, partitionEntriesCRC := crc } }

section Types

variable (typeName : Guid → List Byte)

/-- A partition with new ends, a new type and a random GUID. -/
def setPart (partNum : Nat) (partitionType uniqueGUID : Guid) (first last : BitVec 64) : Data :=
  { d with partitions := d.partitions.map fun all => all.modify partNum fun part =>
      { setType typeName { part with firstLBA := first, lastLBA := last } partitionType with
        uniqueGUID := uniqueGUID } }

/-- `CreatePartition`, with the random GUID of the partition. -/
def createPartition (uniqueGUID : Guid) (partNum startSector endSector : Nat) : Bool × Data :=
  if Gpt.isFreePartNum d.toData partNum then
    let startSector := (Gpt.align d.toData startSector).2
    if Gpt.isFree d.toData startSector ∧ startSector ≤ endSector then
      if endSector ≤ Gpt.findLastInFree d.toData startSector then
        (true, setPart d typeName partNum Gpt.defaultGptType uniqueGUID
          (BitVec.ofNat 64 startSector) (BitVec.ofNat 64 endSector))
      else (false, d)
    else (false, d)
  else (false, d)

end Types

end Functions

/-! ### The same functions of the table in memory -/

section Refinement

variable (d : Data)

theorem toNat_sub (a b : BitVec 64) : (a - b).toNat = Gpt.sub64 a.toNat b.toNat :=
  BitVec.toNat_sub a b

theorem toNat_add (a b : BitVec 64) : (a + b).toNat = Gpt.add64 a.toNat b.toNat :=
  BitVec.toNat_add a b

theorem toNat_ofNat_add (n : Nat) (b : BitVec 64) :
    (BitVec.ofNat 64 n + b).toNat = Gpt.add64 n b.toNat := by
  rw [BitVec.toNat_add, BitVec.toNat_ofNat, Gpt.add64, Nat.mod_add_mod]

theorem toData_moveSecondHeaderToEnd :
    (moveSecondHeaderToEnd d).toData = Gpt.moveSecondHeaderToEnd d.toData := by
  have hone : (1 : BitVec 64).toNat = 1 := rfl
  simp only [moveSecondHeaderToEnd, Data.toData, Header.toHeader, Gpt.moveSecondHeaderToEnd,
    toNat_sub, toNat_add, hone]

theorem toData_resize (numEntries : BitVec 32) :
    ((resize d numEntries).1, (resize d numEntries).2.toData) =
      Gpt.resize d.toData numEntries.toNat := by
  have hblank : Part.toPart {} = {} := rfl
  cases hparts : d.partitions with
  | none =>
    simp only [resize, Gpt.resize, hparts, toData_moveSecondHeaderToEnd]
    simp only [Data.toData, hparts, Option.map_none, Option.map_some, List.map_replicate, hblank,
      Header.toHeader, getTableSizeInSectors, toNat_ofNat_add]
  | some old =>
    have hsome : d.toData.partitions = some (old.map Part.toPart) := by
      rw [Data.toData, hparts]
      rfl
    simp only [resize, Gpt.resize, hparts, hsome, toData_moveSecondHeaderToEnd]
    by_cases hhigh : numEntries.toNat < Gpt.highPart d.toData + 1
    · simp only [if_pos hhigh]
      simp only [Data.toData, hparts, Option.map_some, Header.toHeader, getTableSizeInSectors,
        toNat_ofNat_add]
    · simp only [if_neg hhigh]
      simp only [Data.toData, hparts, Option.map_some, List.map_append, List.map_replicate, hblank,
        List.map_take, Header.toHeader, getTableSizeInSectors, toNat_ofNat_add, List.length_take,
        List.length_map]

theorem toData_setGPTSize (numEntries : BitVec 32) (fillGPTSectors : Bool) :
    ((setGPTSize d numEntries fillGPTSectors).1,
      (setGPTSize d numEntries fillGPTSectors).2.toData) =
      Gpt.setGPTSize d.toData numEntries.toNat fillGPTSectors := by
  have hentries : (if fillGPTSectors then
        BitVec.ofNat 32 (Gpt.fillSectors d.blockSize numEntries.toNat) else numEntries).toNat =
      if fillGPTSectors then Gpt.fillSectors d.toData.blockSize numEntries.toNat
      else numEntries.toNat := by
    cases fillGPTSectors with
    | false => rfl
    | true =>
      have hlt : Gpt.fillSectors d.blockSize numEntries.toNat < 2 ^ 32 := by
        simp only [Gpt.fillSectors]
        split_ifs
        · exact Nat.mod_lt _ (by decide)
        · exact numEntries.isLt
      exact Nat.mod_eq_of_lt hlt
  rw [setGPTSize, Gpt.setGPTSize, ← hentries]
  generalize (if fillGPTSectors then
    BitVec.ofNat 32 (Gpt.fillSectors d.blockSize numEntries.toNat) else numEntries) = entries
  have hnum : entries.toNat ≠ d.toData.numParts ↔ entries ≠ d.numParts := by
    rw [Ne, Ne, not_iff_not]
    exact BitVec.toNat_inj
  have hnone : d.toData.partitions = none ↔ d.partitions = none := Option.map_eq_none_iff
  by_cases hchange : (entries ≠ d.numParts ∨ d.partitions = none) ∧ 0 < entries.toNat
  · have hchange' : (entries.toNat ≠ d.toData.numParts ∨ d.toData.partitions = none) ∧
        0 < entries.toNat := by rwa [hnum, hnone]
    dsimp only
    rw [if_pos hchange, if_pos hchange', ← toData_resize]
    rfl
  · have hchange' : ¬ ((entries.toNat ≠ d.toData.numParts ∨ d.toData.partitions = none) ∧
        0 < entries.toNat) := by rwa [hnum, hnone]
    dsimp only
    rw [if_neg hchange, if_neg hchange']
    rfl

theorem toData_rebuildSecondHeader :
    (rebuildSecondHeader d).toData = Gpt.rebuildSecondHeader d.toData :=
  congrArg Prod.snd (toData_setGPTSize _ _ false)

theorem toData_blankPartitions : (blankPartitions d).toData = Gpt.blankPartitions d.toData := by
  have hblank : Part.toPart {} = {} := rfl
  cases hparts : d.partitions with
  | none => simp only [blankPartitions, Gpt.blankPartitions, Data.toData, hparts, Option.map_none]
  | some all =>
    simp only [blankPartitions, Gpt.blankPartitions, Data.toData, hparts, Option.map_some,
      List.map_append, List.map_replicate, hblank, List.length_take, List.length_map, List.map_drop]

theorem toData_initHeader (diskGUID : Guid) :
    (initHeader d diskGUID).toData =
      let first := Gpt.add64 (Gpt.getTableSizeInSectors d.toData) 2
      { d.toData with
        mainHeader := { d.toData.mainHeader with
          currentLBA := 1
          partitionEntriesLBA := 2
          firstUsableLBA := first
          backupLBA := Gpt.sub64 d.toData.diskSize 1
          lastUsableLBA := Gpt.sub64 d.toData.diskSize first }
        sectorAlignment := Gpt.alignmentOf d.toData.blockSize } := by
  have hfirst : (getTableSizeInSectors d + 2).toNat =
      Gpt.add64 (Gpt.getTableSizeInSectors d.toData) 2 := toNat_ofNat_add _ _
  have hlast : (d.diskSize - (getTableSizeInSectors d + 2)).toNat =
      Gpt.sub64 d.toData.diskSize (Gpt.add64 (Gpt.getTableSizeInSectors d.toData) 2) := by
    rw [toNat_sub, hfirst]
    rfl
  dsimp only
  rw [← hlast, ← hfirst]
  rfl

theorem toData_clearGPTData (diskGUID : Guid) :
    (clearGPTData d diskGUID).toData = Gpt.clearGPTData d.toData := by
  have hsize : (setGPTSize { d with partitions := none } 128 true).2.toData =
      (Gpt.setGPTSize { d.toData with partitions := none } Gpt.numGptEntries true).2 :=
    congrArg Prod.snd (toData_setGPTSize { d with partitions := none } 128 true)
  have hcrc (d : Data) : (withCrcOk d).toData = d.toData := rfl
  rw [Gpt.clearGPTData, ← hsize, clearGPTData, hcrc, toData_blankPartitions,
    toData_rebuildSecondHeader, toData_initHeader]

theorem toData_setPart (typeName : Guid → List Byte) (partNum : Nat)
    (partitionType uniqueGUID : Guid) (first last : BitVec 64) :
    (setPart d typeName partNum partitionType uniqueGUID first last).toData =
      Gpt.setPart d.toData partNum ⟨partitionType, first.toNat, last.toNat⟩ := by
  have hmap (all : List Part) : List.map Part.toPart (all.modify partNum fun part =>
      { setType typeName { part with firstLBA := first, lastLBA := last } partitionType with
        uniqueGUID := uniqueGUID }) =
      (all.map Part.toPart).modify partNum fun _ => ⟨partitionType, first.toNat, last.toNat⟩ := by
    refine List.ext_getElem ?_ fun i hi hi' => ?_
    · rw [List.length_map, List.length_modify, List.length_modify, List.length_map]
    · rw [List.getElem_map, List.getElem_modify, List.getElem_modify, List.getElem_map]
      split_ifs <;> rfl
  cases hparts : d.partitions with
  | none => simp only [setPart, Gpt.setPart, Data.toData, hparts, Option.map_none]
  | some all => simp only [setPart, Gpt.setPart, Data.toData, hparts, Option.map_some, hmap]

theorem findLastInFree_lt (start : Nat) : Gpt.findLastInFree d.toData start < 2 ^ 64 := by
  have hfold (l : List Gpt.Part) (nearestStart : Nat) (hnearest : nearestStart < 2 ^ 64) :
      l.foldl (fun nearestStart part =>
        if part.firstLBA < nearestStart ∧ start < part.firstLBA then Gpt.sub64 part.firstLBA 1
        else nearestStart) nearestStart < 2 ^ 64 := by
    induction l generalizing nearestStart with
    | nil => exact hnearest
    | cons part l ih =>
      refine ih _ ?_
      dsimp only
      split_ifs
      · exact Nat.mod_lt _ (by decide)
      · exact hnearest
  exact hfold _ _ d.mainHeader.lastUsableLBA.isLt

theorem toData_createPartition (typeName : Guid → List Byte) (uniqueGUID : Guid)
    (partNum startSector endSector : Nat) :
    ((createPartition d typeName uniqueGUID partNum startSector endSector).1,
      (createPartition d typeName uniqueGUID partNum startSector endSector).2.toData) =
      Gpt.createPartition d.toData partNum startSector endSector := by
  rw [createPartition, Gpt.createPartition]
  dsimp only
  split_ifs with hnum hfree hend
  · have hlast := findLastInFree_lt d (Gpt.align d.toData startSector).2
    have hstart : (BitVec.ofNat 64 (Gpt.align d.toData startSector).2).toNat =
        (Gpt.align d.toData startSector).2 := Nat.mod_eq_of_lt (by omega)
    have hstop : (BitVec.ofNat 64 endSector).toNat = endSector := Nat.mod_eq_of_lt (by omega)
    rw [toData_setPart, hstart, hstop]
  · rfl
  · rfl
  · rfl

end Refinement

end UsbMaker.GptDisk
