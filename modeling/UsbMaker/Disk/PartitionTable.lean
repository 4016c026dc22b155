import UsbMaker.Disk.Gdisk
import UsbMaker.Run.While

/-!
# The partition table in memory

The members of `GPTData` that `PalData::ClearDisk` and `LoadPartitions` come to, as functions of the
table in memory. The table is an array of partitions, of which the blank ones have the type zero and
begin and end at sector zero, and two headers. All numbers of sectors have 64 bits; `add64` and
`sub64` are the sums and differences of these.

The loops that look for a free sector have a number of turns here, and give nothing when these do
not suffice: there are tables for which they do not end. The protective MBR, the GUIDs that are
random, the attributes and names of the partitions and the checksums are left out, which none of
these functions reads.

## Main definitions

* `Gpt.Data`: the table in memory, with `Gpt.Part` and `Gpt.Header`.
* `Gpt.clearGPTData`, `Gpt.computeAlignment`, `Gpt.loadPartitions`.
* `Gpt.findFirstInLargest`, `Gpt.align`, `Gpt.findLastInFree`, `Gpt.createPartition`.
* `Gpt.gptData`: the class as it is used in `gpt_pal.cc`.
-/

namespace UsbMaker.Gpt

/-- A GUID, in the order in which it is written. -/
abbrev Guid := BitVec 128

/-- `EBD0A0A2-B9E5-4433-87C0-68B6B72699C7`, Microsoft basic data. -/
def basicData : Guid := 0xEBD0A0A2B9E5443387C068B6B72699C7#128

/-- `DEFAULT_GPT_TYPE`, which is 0x0700 on Windows. -/
def defaultGptType : Guid := basicData

/-- The type 0x0b00. -/
def fat32Type : Guid := basicData

/-- A partition; the default one is blank. -/
structure Part where
  partitionType : Guid := 0
  firstLBA : Nat := 0
  lastLBA : Nat := 0
  deriving DecidableEq, Repr

/-- `IsUsed`. -/
def Part.isUsed (part : Part) : Bool := part.partitionType ≠ 0

structure Header where
  currentLBA : Nat
  backupLBA : Nat
  firstUsableLBA : Nat
  lastUsableLBA : Nat
  partitionEntriesLBA : Nat
  numParts : Nat
  deriving DecidableEq, Repr

/-- The members of `GPTData`. -/
structure Data where
  mainHeader : Header
  secondHeader : Header
  /-- The array of partitions, `none` for a null pointer. -/
  partitions : Option (List Part)
  /-- The number of partitions that the table can hold. -/
  numParts : Nat
  /-- The size of a logical block. -/
  blockSize : Nat
  /-- The size of the device, in logical blocks. -/
  diskSize : Nat
  sectorAlignment : Nat
  justLooking : Bool
  deriving DecidableEq, Repr

/-- A sum of 64 bits. -/
def add64 (a b : Nat) : Nat := (a + b) % 2 ^ 64

/-- A difference of 64 bits. -/
def sub64 (a b : Nat) : Nat := (2 ^ 64 - b + a) % 2 ^ 64

/-! ### The size of the table -/

/-- `GPT_SIZE`. -/
def gptSize : Nat := 128

/-- `NUM_GPT_ENTRIES`. -/
def numGptEntries : Nat := 128

/-- `DEFAULT_ALIGNMENT`. -/
def defaultAlignment : Nat := 2048

/-- `SECTOR_SIZE`. -/
def sectorSize : Nat := 512

/-- `MIN_AF_ALIGNMENT`. -/
def minAfAlignment : Nat := 8

/-- `SMALLEST_ADVANCED_FORMAT`. -/
def smallestAdvancedFormat : Nat := 585937500

section Table

variable (gpt : Data)

/-- The partitions that a loop over the table comes to. -/
def parts : List Part := (gpt.partitions.getD []).take gpt.numParts

/-- `GetTableSizeInSectors`. -/
def getTableSizeInSectors : Nat :=
  let bytes := gpt.numParts * gptSize % 2 ^ 32
  bytes / gpt.blockSize + if bytes % gpt.blockSize ≠ 0 then 1 else 0

/-- The high partition number of `GetPartRange`. -/
def highPart : Nat :=
  (parts gpt).zipIdx.foldl (fun high entry => if entry.1.isUsed then entry.2 else high) 0

/-- `MoveSecondHeaderToEnd`. -/
def moveSecondHeaderToEnd : Data :=
  let last := sub64 gpt.diskSize gpt.mainHeader.firstUsableLBA
  { gpt with
    mainHeader := { gpt.mainHeader with
      backupLBA := sub64 gpt.diskSize 1, lastUsableLBA := last }
    secondHeader := { gpt.secondHeader with
      currentLBA := sub64 gpt.diskSize 1
      lastUsableLBA := last
      partitionEntriesLBA := add64 last 1 } }

/-- The part of `SetGPTSize` for a number of partitions that changes. -/
def resize (numEntries : Nat) : Bool × Data :=
  let resized : Bool × List Part :=
    match gpt.partitions with
    | none => (true, List.replicate numEntries {})
    | some old =>
      if numEntries < highPart gpt + 1 then (false, old)
      else
        let copied := old.take (min numEntries gpt.numParts)
        (true, copied ++ List.replicate (numEntries - copied.length) {})
  let gpt := { gpt with partitions := some resized.2, numParts := numEntries }
  let first := add64 (getTableSizeInSectors gpt) gpt.mainHeader.partitionEntriesLBA
  let gpt := { gpt with
    mainHeader := { gpt.mainHeader with firstUsableLBA := first }
    secondHeader := { gpt.secondHeader with firstUsableLBA := first } }
  (resized.1, moveSecondHeaderToEnd gpt)

/-- The number of partitions, adjusted upward to fill the allocated sectors. -/
def fillSectors (blockSize numEntries : Nat) : Nat :=
  let entriesPerSector := blockSize / gptSize
  if numEntries % entriesPerSector ≠ 0 then
    (numEntries / entriesPerSector + 1) * entriesPerSector % 2 ^ 32
  else numEntries

/-- `SetGPTSize`; its call of `CheckGPTSize` only prints warnings. -/
def setGPTSize (numEntries : Nat) (fillGPTSectors : Bool) : Bool × Data :=
  let numEntries := if fillGPTSectors then fillSectors gpt.blockSize numEntries else numEntries
  let result :=
    if (numEntries ≠ gpt.numParts ∨ gpt.partitions = none) ∧ 0 < numEntries then
      resize gpt numEntries
    else (true, gpt)
  let gpt := result.2
  (result.1, { gpt with
    mainHeader := { gpt.mainHeader with numParts := gpt.numParts }
    secondHeader := { gpt.secondHeader with numParts := gpt.numParts } })

/-- `RebuildSecondHeader`. -/
def rebuildSecondHeader : Data :=
  let main := gpt.mainHeader
  let gpt := { gpt with secondHeader :=
    { currentLBA := main.backupLBA
      backupLBA := main.currentLBA
      firstUsableLBA := main.firstUsableLBA
      lastUsableLBA := main.lastUsableLBA
      partitionEntriesLBA := add64 main.lastUsableLBA 1
      numParts := main.numParts } }
  (setGPTSize gpt gpt.secondHeader.numParts false).2

/-- `BlankPartitions`. -/
def blankPartitions : Data :=
  { gpt with partitions := gpt.partitions.map fun all =>
      List.replicate (all.take gpt.numParts).length {} ++ all.drop gpt.numParts }

/-- The alignment that does not depend on the partitions. -/
def alignmentOf (blockSize : Nat) : Nat :=
  if 0 < blockSize then defaultAlignment * sectorSize / blockSize else defaultAlignment

/-- `ClearGPTData`. -/
def clearGPTData : Data :=
  let gpt := (setGPTSize { gpt with partitions := none } numGptEntries true).2
  let first := add64 (getTableSizeInSectors gpt) 2
  let gpt := { gpt with
    mainHeader := { gpt.mainHeader with
      currentLBA := 1
      partitionEntriesLBA := 2
      firstUsableLBA := first
      backupLBA := sub64 gpt.diskSize 1
      lastUsableLBA := sub64 gpt.diskSize first }
    sectorAlignment := alignmentOf gpt.blockSize }
  blankPartitions (rebuildSecondHeader gpt)

/-- The exponent that `ComputeAlignment` goes down to for a partition. -/
def exponentFor (first : Nat) : Nat → Nat
  | 0 => 0
  | exponent + 1 =>
    if first % 2 ^ (exponent + 1) = 0 then exponent + 1 else exponentFor first exponent

/-- `ComputeAlignment`. -/
def computeAlignment : Data :=
  let start := alignmentOf gpt.blockSize
  let found := (parts gpt).foldl (fun found part =>
    if part.isUsed then
      (2 ^ exponentFor part.firstLBA found.2, exponentFor part.firstLBA found.2)
    else found) (start, Nat.log2 start)
  { gpt with sectorAlignment :=
      if found.1 < minAfAlignment ∧ smallestAdvancedFormat ≤ gpt.diskSize then minAfAlignment
      else found.1 }

/-- What a call of `LoadPartitions` that returns 1 leaves. `PartitionScan` has left any contents of
the disk in the table, and `UseWhichPartitions` of `PalData` asks for a new one. -/
def loadPartitions : Data := computeAlignment (clearGPTData gpt)

end Table

/-! ### Free space -/

section Free

variable (gpt : Data)

/-- `IsFree`. -/
def isFree (sector : Nat) : Bool :=
  !(parts gpt).any (fun part => part.firstLBA ≤ sector && sector ≤ part.lastLBA) &&
    !(sector < gpt.mainHeader.firstUsableLBA || gpt.mainHeader.lastUsableLBA < sector)

/-- `IsFreePartNum`. -/
def isFreePartNum (partNum : Nat) : Bool :=
  partNum < gpt.numParts && match gpt.partitions with
    | none => false
    | some all => !(all.getD partNum {}).isUsed

/-- One turn of `FindFirstAvailable`: the sector, and whether it was moved. -/
def firstPass (first : Nat) : Nat × Bool :=
  (parts gpt).foldl (fun pass part =>
    if part.isUsed ∧ part.firstLBA ≤ pass.1 ∧ pass.1 ≤ part.lastLBA then
      (add64 part.lastLBA 1, true)
    else pass) (first, false)

/-- `FindFirstAvailable`, with its loop for a number of turns. Where a partition ends at the last
sector of 64 bits, the search may begin again at sector zero and not end. -/
def findFirstAvailable (turns start : Nat) : Option Nat :=
  let first :=
    if start < gpt.mainHeader.firstUsableLBA then gpt.mainHeader.firstUsableLBA else start
  (While.run (fun pass => some pass.2) (fun pass => firstPass gpt pass.1) turns (first, true)).map
    fun pass => if gpt.mainHeader.lastUsableLBA < pass.1 then 0 else pass.1

/-- `FindLastInFree`. -/
def findLastInFree (start : Nat) : Nat :=
  (parts gpt).foldl (fun nearestStart part =>
    if part.firstLBA < nearestStart ∧ start < part.firstLBA then sub64 part.firstLBA 1
    else nearestStart) gpt.mainHeader.lastUsableLBA

/-- The variables of `FindFirstInLargest`. -/
structure Segments where
  start : Nat := 0
  selectedSize : Nat := 0
  selectedSegment : Nat := 0

/-- What a turn of `FindFirstInLargest` does with the free sector that it has found. -/
def Segments.select (s : Segments) (firstBlock : Nat) : Segments :=
  let lastBlock := findLastInFree gpt firstBlock
  let segmentSize := add64 (sub64 lastBlock firstBlock) 1
  let s := if s.selectedSize < segmentSize then
      { s with selectedSize := segmentSize, selectedSegment := firstBlock }
    else s
  { s with start := add64 lastBlock 1 }

/-- `FindFirstInLargest`, with its loop and the one of `FindFirstAvailable` for a number of turns.
When the last usable sector is the last one of 64 bits and is free, the loop begins again at sector
zero and does not end. -/
def findFirstInLargest (turns : Nat) : Option Nat :=
  (While.run (fun s => (findFirstAvailable gpt turns s.start).map fun firstBlock => firstBlock != 0)
    (fun s => ((findFirstAvailable gpt turns s.start).map (Segments.select gpt s)).getD s)
    turns {}).map Segments.selectedSegment

/-- The loop of `Align` from an earlier sector, which is not as far away as the alignment. -/
def clearUpTo (sector : Nat) : Nat → Nat → Bool
  | 0, _ => true
  | turns + 1, testSector =>
    isFree gpt testSector &&
      if add64 testSector 1 < sector then clearUpTo sector turns (add64 testSector 1) else true

/-- The loop of `Align` from a later sector, which is not farther away than the alignment. -/
def clearDownTo (sector : Nat) : Nat → Nat → Bool
  | 0, _ => true
  | turns + 1, testSector =>
    isFree gpt testSector &&
      if sector < sub64 testSector 1 then clearDownTo sector turns (sub64 testSector 1) else true

/-- `Align`: whether the sector was altered, and the new one. -/
def align (sector : Nat) : Bool × Nat :=
  if sector % gpt.sectorAlignment ≠ 0 then
    let earlier := sector / gpt.sectorAlignment * gpt.sectorAlignment
    let later := add64 earlier gpt.sectorAlignment
    if gpt.mainHeader.firstUsableLBA ≤ earlier ∧
        clearUpTo gpt sector gpt.sectorAlignment earlier = true then (true, earlier)
    else if later ≤ gpt.mainHeader.lastUsableLBA ∧
        clearDownTo gpt sector gpt.sectorAlignment later = true then (true, later)
    else (false, sector)
  else (false, sector)

/-- A partition with new ends and a new type. -/
def setPart (partNum : Nat) (part : Part) : Data :=
  { gpt with partitions := gpt.partitions.map fun all => all.modify partNum fun _ => part }

/-- `CreatePartition`. -/
def createPartition (partNum startSector endSector : Nat) : Bool × Data :=
  if isFreePartNum gpt partNum then
    let startSector := (align gpt startSector).2
    if isFree gpt startSector ∧ startSector ≤ endSector then
      if endSector ≤ findLastInFree gpt startSector then
        (true, setPart gpt partNum ⟨defaultGptType, startSector, endSector⟩)
      else (false, gpt)
    else (false, gpt)
  else (false, gpt)

end Free

/-! ### The checks of `SaveGPTData` -/

section Checks

variable (gpt : Data)

/-- `CheckGPTSize`. -/
def checkGPTSize : Int :=
  let used := (parts gpt).filter Part.isUsed
  let firstUsedBlock := used.foldl (fun first part => min first part.firstLBA) (2 ^ 64 - 1)
  let lastUsedBlock := used.foldl (fun last part => max last part.lastLBA) 0
  if gpt.diskSize ≠ 0 then
    (if firstUsedBlock < gpt.mainHeader.firstUsableLBA then 1 else 0) +
      if gpt.mainHeader.lastUsableLBA < lastUsedBlock then 1 else 0
  else 0

/-- `DoTheyOverlap`. -/
def Part.doTheyOverlap (part other : Part) : Bool :=
  part.firstLBA ≠ 0 && other.firstLBA ≠ 0 &&
    (decide (part.firstLBA ≤ other.lastLBA) != decide (part.lastLBA < other.firstLBA))

/-- `FindOverlaps`. -/
def findOverlaps : Int :=
  (parts gpt).zipIdx.foldl (fun problems entry =>
    problems + ((parts gpt).take entry.2).countP fun other =>
      entry.1.isUsed && other.isUsed && entry.1.doTheyOverlap other) 0

/-- `FindInsanePartitions`. -/
def findInsanePartitions : Int :=
  ((parts gpt).filter Part.isUsed).foldl (fun problems part =>
    problems + (if part.lastLBA < part.firstLBA then 1 else 0) +
      if gpt.diskSize ≤ part.lastLBA then 1 else 0) 0

end Checks

/-- The class `GPTData`, for what `Verify` counts, with the loops of `FindFirstInLargest` for a
number of turns. There are no checksums to compute. -/
@[reducible] def gptData (verify : Data → Int) (turns : Nat) : Gdisk.GptData where
  Table := Data
  justLooking := Data.justLooking
  diskSize := Data.diskSize
  backupLBA gpt := gpt.mainHeader.backupLBA
  lastUsableLBA gpt := gpt.mainHeader.lastUsableLBA
  moveSecondHeaderToEnd := moveSecondHeaderToEnd
  recomputeCRCs := id
  clearGPTData := clearGPTData
  checkGPTSize := checkGPTSize
  findOverlaps := findOverlaps
  findInsanePartitions := findInsanePartitions
  verify := verify
  findFirstInLargest gpt := findFirstInLargest gpt turns
  align gpt sector := (align gpt sector).2
  findLastInFree := findLastInFree
  createPartition gpt partNum startSector endSector :=
    (createPartition gpt partNum startSector endSector).2
  setPartition gpt startSector endSector := setPart gpt 0 ⟨fat32Type, startSector, endSector⟩

end UsbMaker.Gpt
