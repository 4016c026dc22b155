import UsbMaker.Disk.GptObject
import UsbMaker.Disk.MbrRead
import UsbMaker.Run.Medium

/-!
# The disk of a partition table

`DiskIO` reads and writes whole blocks of a disk that is open, at the position that `Seek` has set.
`SaveGPTData` writes the table with it, and `ForceLoadGPTData` reads it: the two headers first, and
then the copy of the table that seems to be the better one.

The table is read into the array of partitions, and the number of bytes is that of the header. When
the array has fewer, the read goes beyond the array, and the functions here give `none`. So they do
for a write that would read beyond it.

## Main definitions

* `GptDisk.Device`, with `Device.seek`, `Device.read` and `Device.write`.
* `GptDisk.writeTables`: the writes of `SaveGPTData`.
* `GptDisk.forceLoadGPTData`, with `GptDisk.loadHeader`, `GptDisk.loadPartitionTable` and
  `GptDisk.checkTable`.
-/

namespace UsbMaker.GptDisk

/-! ### The device -/

/-- A disk that is open. What the medium has after the end of the disk stands for what a buffer had
before it was read. -/
structure Device where
  blockSize : Nat
  /-- The number of blocks. -/
  blocks : Nat
  medium : Medium
  /-- Where the next read or write begins. -/
  position : Nat

namespace Device

variable (dev : Device)

/-- `Seek`. The file pointer is a signed number of 64 bits. -/
def seek (sector : BitVec 64) : Bool × Device :=
  let seekTo := sector.toNat * dev.blockSize % 2 ^ 64
  if seekTo < 2 ^ 63 then (true, { dev with position := seekTo }) else (false, dev)

/-- The number of bytes of the blocks that `numBytes` bytes take. -/
def blockBytes (numBytes : Int) : Nat :=
  if numBytes ≤ dev.blockSize then dev.blockSize
  else
    let numBlocks := numBytes.toNat / dev.blockSize
    (numBlocks + if numBytes.toNat % dev.blockSize ≠ 0 then 1 else 0) * dev.blockSize

/-- The number of bytes from the position on that are transferred. -/
def transferred (numBytes : Int) : Nat :=
  min (dev.blockBytes numBytes) (dev.blocks * dev.blockSize - dev.position)

/-- The result of `Read` and `Write`. -/
def retval (numBytes : Int) : Int :=
  if (dev.blockBytes numBytes : Int) ≠ numBytes ∧ 0 < dev.transferred numBytes then numBytes
  else dev.transferred numBytes

/-- The device after a transfer. -/
def advance (numBytes : Int) : Device :=
  { dev with position := dev.position + dev.transferred numBytes }

/-- The bytes that `Read` copies to its buffer. -/
def read (numBytes : Int) : List Byte := dev.medium.read dev.position numBytes.toNat

/-- `Write`, which fills the last block up with zeros. -/
def write (bytes : List Byte) : Device :=
  let padded := bytes ++ List.replicate (dev.blockBytes bytes.length - bytes.length) 0
  { dev.advance bytes.length with
    medium := dev.medium.write dev.position (padded.take (dev.transferred bytes.length)) }

end Device

/-! ### Saving -/

/-- `SaveHeader`. `Write` does not return -1. -/
def saveHeader (dev : Device) (header : Header) (sector : BitVec 64) : Bool × Device :=
  let sought := dev.seek sector
  if sought.1 then (true, sought.2.write (headerLayout.encode header)) else sought

/-- The bytes of the array of partitions. -/
def Data.memory (d : Data) : List Byte := partLayout.encodeAll (d.partitions.getD [])

/-- `SavePartitionTable`. -/
def savePartitionTable (d : Data) (dev : Device) (sector : BitVec 64) : Option (Bool × Device) :=
  let sought := dev.seek sector
  if sought.1 then
    let numBytes := (d.mainHeader.sizeOfPartitionEntries * d.numParts).toNat
    if d.memory.length < numBytes then none
    else some (true, sought.2.write (d.memory.take numBytes))
  else some sought

/-- `WriteMBRData` without logical partitions, for an MBR that `CreateExtended` and `IsLegal` have
nothing to say against. -/
def writeMBRData (mbr : Mbr.Data) (dev : Device) : Bool × Device :=
  let sought := dev.seek 0
  if sought.1 then
    (sought.2.retval 512 = 512, sought.2.write (Mbr.bootLayout.encode (Mbr.storeBoot mbr)))
  else sought

/-- The writes of `SaveGPTData`, on a disk that can be opened. -/
def writeTables (d : Data) (dev : Device) : Option (Bool × Device) := do
  let (allOK, dev) ← savePartitionTable d dev d.secondHeader.partitionEntriesLBA
  let (allOK, dev) := if allOK then saveHeader dev d.secondHeader d.mainHeader.backupLBA
    else (allOK, dev)
  let (allOK, dev) ← if allOK then savePartitionTable d dev d.mainHeader.partitionEntriesLBA
    else some (allOK, dev)
  let (allOK, dev) := if allOK then saveHeader dev d.mainHeader 1 else (allOK, dev)
  return if allOK then writeMBRData d.protectiveMBR dev else (allOK, dev)

/-! ### Loading -/

/-- The table in memory, and the device it is loaded from. -/
structure Loading where
  data : Data
  device : Device

/-- A header that was loaded. -/
structure Loaded where
  allOK : Bool
  header : Header
  crcOk : Bool
  after : Loading

/-- `LoadHeader`, up to where it stores the header. -/
def loadHeader (sector : BitVec 64) (s : Loading) : Loaded :=
  let device := (s.device.seek sector).2
  let tempHeader := headerLayout.decode (device.read 512)
  let allOK : Bool := device.retval 512 = 512
  let crcOk := checkHeaderCRC s.data.blockSize tempHeader
  let sized : Bool × Data :=
    if allOK ∧ s.data.numParts ≠ tempHeader.numParts ∧ crcOk then
      setGPTSize s.data tempHeader.numParts false
    else (allOK, s.data)
  ⟨sized.1, tempHeader, crcOk, ⟨sized.2, device.advance 512⟩⟩

/-- A new main header. -/
def Data.setMain (d : Data) (header : Header) (crcOk : Bool) : Data :=
  { d with mainHeader := header, mainCrcOk := crcOk }

/-- A new second header. -/
def Data.setSecond (d : Data) (header : Header) (crcOk : Bool) : Data :=
  { d with secondHeader := header, secondCrcOk := crcOk }

/-- `LoadHeader` for the main header. -/
def loadMainHeader (sector : BitVec 64) (s : Loading) : Bool × Loading :=
  let loaded := loadHeader sector s
  (loaded.allOK, { loaded.after with
    data := loaded.after.data.setMain loaded.header loaded.crcOk })

/-- `LoadHeader` for the second header. -/
def loadSecondHeader (sector : BitVec 64) (s : Loading) : Bool × Loading :=
  let loaded := loadHeader sector s
  (loaded.allOK, { loaded.after with
    data := loaded.after.data.setSecond loaded.header loaded.crcOk })

/-- The checks of `CheckHeaderValidity` for one header. -/
def headerValid (blockSize : Nat) (h : Header) : Bool :=
  if h.signature ≠ gptSignature ∨ checkHeaderCRC blockSize h = false then false
  else decide (h.revision = gptRevision)

/-- `CheckHeaderValidity`. -/
def checkHeaderValidity (d : Data) : Nat :=
  (if headerValid d.blockSize d.mainHeader then 1 else 0) +
    if headerValid d.blockSize d.secondHeader then 2 else 0

/-- Bytes that are read over the beginning of others. -/
def overlay (memory bytes : List Byte) : List Byte := bytes ++ memory.drop bytes.length

/-- The array of partitions after its bytes have changed. -/
def setMemory (d : Data) (memory : List Byte) : Data :=
  { d with partitions := d.partitions.map fun all => partLayout.decodeAll all.length memory }

/-- `LoadPartitionTable`, for the main header or the second one. -/
def loadPartitionTable (header : Data → Header) (s : Loading) : Option (Bool × Loading) :=
  let sought := s.device.seek (header s.data).partitionEntriesLBA
  let sized : Bool × Data :=
    if sought.1 then setGPTSize s.data (header s.data).numParts false else (false, s.data)
  if sized.1 then
    let h := header sized.2
    let sizeOfParts := h.numParts * h.sizeOfPartitionEntries
    if sized.2.memory.length < sizeOfParts.toNat then none
    else
      let memory := overlay sized.2.memory (sought.2.read sizeOfParts.toInt)
      let crcOk : Bool :=
        chksumCrc32 (memory.take sizeOfParts.toNat) = h.partitionEntriesCRC
      some (sought.2.retval sizeOfParts.toInt = sizeOfParts.toInt,
        ⟨{ setMemory sized.2 memory with mainPartsCrcOk := crcOk, secondPartsCrcOk := crcOk },
          sought.2.advance sizeOfParts.toInt⟩)
  else some (false, ⟨sized.2, sought.2⟩)

/-- `CheckTable` for a header, with the other one. -/
def checkTable (header otherHeader : Header) (dev : Device) : Option (Bool × Device) :=
  let sought := dev.seek header.partitionEntriesLBA
  if sought.1 then
    let memory := partLayout.encodeAll (List.replicate header.numParts.toNat {})
    let sizeOfParts := header.numParts * header.sizeOfPartitionEntries
    if memory.length < sizeOfParts.toNat then none
    else
      let memory := overlay memory (sought.2.read sizeOfParts.toInt)
      let newCRC := chksumCrc32 (memory.take sizeOfParts.toNat)
      some (sought.2.retval sizeOfParts.toInt = sizeOfParts.toInt ∧
          newCRC = header.partitionEntriesCRC ∧ newCRC = otherHeader.partitionEntriesCRC,
        sought.2.advance sizeOfParts.toInt)
  else some (false, sought.2)

/-- Another state of the table. -/
def Data.withState (d : Data) (state : Validity) : Data := { d with state := state }

/-- `ForceLoadGPTData`, up to its call of `CheckHeaderValidity`. -/
def loadHeaders (s : Loading) : Bool × Loading :=
  let main := loadMainHeader 1 s
  let d := main.2.data
  let second :=
    if d.mainCrcOk ∧ d.mainHeader.backupLBA < d.diskSize then
      loadSecondHeader d.mainHeader.backupLBA main.2
    else loadSecondHeader (d.diskSize - 1) main.2
  let allOK := second.1 && main.1
  (allOK, if allOK then second.2 else
    { second.2 with data := second.2.data.withState .invalid })

/-- The part of `ForceLoadGPTData` that makes a bad header from the good one. -/
def regenerate (validHeaders : Nat) (d : Data) : Data :=
  let d := d.withState .valid
  if validHeaders = 1 then
    let d := rebuildSecondHeader d
    { d with state := .corrupt, secondCrcOk := d.mainCrcOk }
  else if validHeaders = 2 then
    let d := rebuildMainHeader d
    { d with state := .corrupt, mainCrcOk := d.secondCrcOk }
  else d

/-- The part of `ForceLoadGPTData` that chooses a table: whether all is well, and which of the two
was loaded. -/
def chooseTable (validHeaders : Nat) (allOK : Bool) (s : Loading) :
    Option ((Bool × Nat) × Loading) :=
  if validHeaders ≠ 2 then do
    let (loaded, s) ← loadPartitionTable Data.mainHeader s
    return ((loaded && allOK, 1), s)
  else do
    let (loaded, s) ← loadPartitionTable Data.secondHeader
      { s with data := s.data.withState .corrupt }
    if loaded then return ((allOK, 2), s)
    else
      let (loaded, s) ← loadPartitionTable Data.mainHeader s
      return if loaded then ((allOK, 1), s) else ((false, 0), s)

/-- The part of `ForceLoadGPTData` that checks the other table. -/
def checkOther (loadedTable : Nat) (s : Loading) : Option Loading :=
  if loadedTable = 1 then do
    let (ok, device) ← checkTable s.data.secondHeader s.data.mainHeader s.device
    return ⟨{ s.data with secondPartsCrcOk := ok }, device⟩
  else if loadedTable = 2 then do
    let (ok, device) ← checkTable s.data.mainHeader s.data.secondHeader s.device
    return ⟨{ s.data with mainPartsCrcOk := ok }, device⟩
  else
    some { s with data := { s.data with mainPartsCrcOk := false, secondPartsCrcOk := false } }

/-- The part of `ForceLoadGPTData` that loads the backup table instead. -/
def loadBackup (allOK : Bool) (s : Loading) : Option (Bool × Loading) :=
  if s.data.secondPartsCrcOk ∧ s.data.secondCrcOk ∧ s.data.mainPartsCrcOk = false then do
    let s := { s with data := s.data.withState .corrupt }
    let (allOK, s) ← if allOK then loadPartitionTable Data.secondHeader s else some (false, s)
    return (allOK, { s with data := { s.data with mainPartsCrcOk := false } })
  else some (allOK, s)

/-- `ForceLoadGPTData`, from its choice of a table on. -/
def loadTables (validHeaders : Nat) (allOK : Bool) (s : Loading) : Option (Bool × Loading) := do
  let ((allOK, loadedTable), s) ← chooseTable validHeaders allOK s
  let s ← checkOther loadedTable s
  let (allOK, s) ← loadBackup allOK s
  let bad := validHeaders ≠ 3 ∨ s.data.mainPartsCrcOk = false ∨ s.data.secondPartsCrcOk = false
  return (allOK, if bad then { s with data := s.data.withState .corrupt } else s)

/-- `ForceLoadGPTData`. -/
def forceLoadGPTData (s : Loading) : Option (Bool × Loading) :=
  let headers := loadHeaders s
  let s := headers.2
  let validHeaders := checkHeaderValidity s.data
  if 0 < validHeaders then
    loadTables validHeaders headers.1 { s with data := regenerate validHeaders s.data }
  else some (headers.1, { s with data := s.data.withState .invalid })

end UsbMaker.GptDisk
