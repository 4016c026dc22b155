import UsbMaker.Disk.GptCrash
import UsbMaker.Disk.GptVerify

/-!
# Clearing a disk

`clearMbrGpt` and `makeEmptyPartition` with the class as it is: an object of `PalData` is made,
`LoadPartitions` reads what the disk has, and the table is cleared. What the disk has, what the
memory had before the object was made, and the random GUIDs are arbitrary.

What is read comes to nothing. The functions return what `Verify` says of a table that was made in
memory, and this depends on the size of the disk only, and on whether the disk could be opened and
its first sector read. `makeEmptyPartition` looks for the largest segment of this table first, and
does not return when the last usable sector is the last one of 64 bits.

## Main definitions

* `GptDisk.Drive`, `GptDisk.loadPartitions`.
* `GptDisk.gptData`: the class as it is used in `gpt_pal.cc`.
* `GptDisk.Endless`: the drives for which `makeEmptyPartition` does not return.

## Main results

* `GptDisk.clearMbrGpt_eq_true_iff`, `GptDisk.makeEmptyPartition_eq_true_iff`.
-/

namespace UsbMaker.GptDisk

open Gpt (Guid BlockSize)

/-! ### Loading -/

/-- A drive as `LoadPartitions` finds it. -/
structure Drive where
  /-- The first call of `OpenForRead`, and the second one. -/
  opens : Bool
  opensAgain : Bool
  /-- The position is where the file pointer is after the MBR and the BSD label have been read. -/
  device : Device
  /-- The first sector, `none` if it cannot be read. -/
  boot : Option Mbr.TempMBR
  readEbr : BitVec 64 → Option Mbr.TempMBR
  /-- The random GUID of the disk. -/
  diskGUID : Guid

/-- The members before the default constructor calls `SetGPTSize`. The headers have what the memory
had. -/
def unset (main second : Header) : Data where
  mainHeader := { main with numParts := 0 }
  secondHeader := second
  partitions := none
  numParts := 0
  protectiveMBR := Mbr.default
  blockSize := 512
  diskSize := 0
  sectorAlignment := 8
  state := .valid
  justLooking := false
  mainCrcOk := false
  secondCrcOk := false
  mainPartsCrcOk := false
  secondPartsCrcOk := false

/-- The default constructor. -/
def default (main second : Header) : Data := (setGPTSize (unset main second) 128 true).2

/-- Another MBR. -/
def Data.withMBR (d : Data) (mbr : Mbr.Data) : Data := { d with protectiveMBR := mbr }

/-- The part of `PartitionScan` that repairs a protective partition that is too large. -/
def repairMBR (d : Data) : Data :=
  if d.state = .valid ∧ Mbr.doTheyFit d.protectiveMBR = false ∧ d.protectiveMBR.state = .gpt then
    d.withMBR (Mbr.makeProtectiveMBR d.protectiveMBR false)
  else d

/-- `PartitionScan`, with its loop over extended boot records for a number of turns. The label that
BSD has is read into an object of its own. -/
def partitionScan (fuel : Nat) (drive : Drive) (d : Data) : Option (Option Data) :=
  (Mbr.readMBRData drive.readEbr fuel drive.boot d.diskSize d.protectiveMBR).map fun read => do
    let (_, mbr) ← read
    let (_, s) ← forceLoadGPTData ⟨d.withMBR mbr, drive.device⟩
    return repairMBR s.data

/-- The table that `UseWhichPartitions` of `PalData` asks for. -/
def useNew (diskGUID : Guid) (d : Data) : Data :=
  let d := clearGPTData d diskGUID
  computeAlignment (d.withMBR (Mbr.makeProtectiveMBR d.protectiveMBR false))

/-- The size of the disk, and of its blocks. -/
def Data.withDevice (d : Data) (device : Device) : Data :=
  { d with diskSize := BitVec.ofNat 64 device.blocks, blockSize := device.blockSize }

/-- `LoadPartitions` of `PalData`: its result, and the table. It is `none` when the turns do not
suffice, and `some none` when it writes outside of an array. -/
def loadPartitions (fuel : Nat) (drive : Drive) (d : Data) : Option (Option (Bool × Data)) :=
  if drive.opens && drive.opensAgain then
    (partitionScan fuel drive (d.withDevice drive.device)).map fun scanned =>
      scanned.map fun d => (true, useNew drive.diskGUID d)
  else some (some (false, d))

/-- The class `GPTData`, with the random GUIDs of the disk and of the two times that a partition is
made, and with the loops of `FindFirstInLargest` for a number of turns. -/
@[reducible] def gptData (typeName : Guid → List Byte) (diskGUID uniqueGUID fatGUID : Guid)
    (turns : Nat) : Gdisk.GptData where
  Table := Data
  justLooking := Data.justLooking
  diskSize d := d.diskSize.toNat
  backupLBA d := d.mainHeader.backupLBA.toNat
  lastUsableLBA d := d.mainHeader.lastUsableLBA.toNat
  moveSecondHeaderToEnd := moveSecondHeaderToEnd
  recomputeCRCs := recomputeCRCs
  clearGPTData d := clearGPTData d diskGUID
  checkGPTSize d := Gpt.checkGPTSize d.toData
  findOverlaps d := Gpt.findOverlaps d.toData
  findInsanePartitions d := Gpt.findInsanePartitions d.toData
  verify d := (verify d).1
  findFirstInLargest d := Gpt.findFirstInLargest d.toData turns
  align d sector := (Gpt.align d.toData sector).2
  findLastInFree d start := Gpt.findLastInFree d.toData start
  createPartition d partNum startSector endSector :=
    (createPartition d typeName uniqueGUID partNum startSector endSector).2
  setPartition d startSector endSector :=
    setPart d typeName 0 Gpt.fat32Type fatGUID (BitVec.ofNat 64 startSector)
      (BitVec.ofNat 64 endSector)

/-! ### What loading keeps -/

/-- Two tables in memory of the same disk, with MBRs for the same disk. -/
structure SameSizes (d d' : Data) : Prop where
  disk : SameDisk d d'
  mbr_eq : d'.protectiveMBR.diskSize = d.protectiveMBR.diskSize

namespace SameSizes

theorem of_eq {d d' : Data} (hblock : d'.blockSize = d.blockSize) (hdisk : d'.diskSize = d.diskSize)
    (hmbr : d'.protectiveMBR.diskSize = d.protectiveMBR.diskSize) : SameSizes d d' :=
  ⟨⟨hblock, hdisk⟩, hmbr⟩

theorem refl (d : Data) : SameSizes d d := ⟨⟨rfl, rfl⟩, rfl⟩

theorem trans {d d' d'' : Data} (h : SameSizes d d') (h' : SameSizes d' d'') : SameSizes d d'' :=
  ⟨⟨h'.disk.blockSize_eq.trans h.disk.blockSize_eq, h'.disk.diskSize_eq.trans h.disk.diskSize_eq⟩,
    h'.mbr_eq.trans h.mbr_eq⟩

end SameSizes

section Kept

variable (d : Data)

theorem diskSize_optimizePart (mbr : Mbr.Data) (i : Fin Mbr.maxMbrParts) :
    (Mbr.optimizePart mbr i).diskSize = mbr.diskSize := by
  have hset (c : Prop) [Decidable c] (mbr : Mbr.Data) (part : Mbr.MBRPart) :
      (if c then Mbr.setPart mbr i part else mbr).diskSize = mbr.diskSize := by
    split_ifs <;> rfl
  exact (hset _ _ _).trans ((hset _ _ _).trans (hset _ _ _))

theorem diskSize_optimizeEESize (mbr : Mbr.Data) :
    (Mbr.optimizeEESize mbr).diskSize = mbr.diskSize := by
  have hprotective (mbr' : Mbr.Data) : (Mbr.makeProtectiveMBR mbr' false).diskSize =
      mbr'.diskSize := by
    rw [Mbr.makeProtectiveMBR_eq]
  have hturn (mbr' : Mbr.Data) (i : Fin Mbr.maxMbrParts) (h : mbr'.diskSize = mbr.diskSize) :
      (if mbr'.partitions[i].partitionType = 0xEE then Mbr.optimizePart mbr' i
        else mbr').diskSize = mbr.diskSize := by
    split_ifs
    · rw [diskSize_optimizePart, h]
    · exact h
  rw [Mbr.optimizeEESize]
  generalize hopt : List.foldl _ mbr _ = optimized
  have hsize : optimized.diskSize = mbr.diskSize := by
    rw [← hopt]
    exact List.foldlRecOn (motive := fun mbr' : Mbr.Data => mbr'.diskSize = mbr.diskSize) _ _ rfl
      fun mbr' h i _ => hturn mbr' i h
  split_ifs
  · exact hsize
  · rw [hprotective, hsize]

theorem diskSize_recomputeCHS (mbr : Mbr.Data) : (recomputeCHS mbr).diskSize = mbr.diskSize :=
  List.foldlRecOn (motive := fun mbr' : Mbr.Data => mbr'.diskSize = mbr.diskSize) _ _ rfl
    fun _ hmbr _ _ => hmbr

theorem diskSize_movedMBR : (movedMBR d).diskSize = d.protectiveMBR.diskSize := by
  rw [movedMBR]
  dsimp only
  split_ifs
  · rw [Mbr.makeProtectiveMBR_eq]
    exact (diskSize_recomputeCHS _).trans (diskSize_optimizeEESize _)
  · exact (diskSize_recomputeCHS _).trans (diskSize_optimizeEESize _)
  · rw [Mbr.makeProtectiveMBR_eq]
  · rfl
  · rfl

theorem sameSizes_setGPTSize (numEntries : BitVec 32) (fillGPTSectors : Bool) :
    SameSizes d (setGPTSize d numEntries fillGPTSectors).2 := by
  have hresize (n : BitVec 32) : SameSizes d (resize d n).2 :=
    ⟨⟨rfl, rfl⟩, diskSize_movedMBR _⟩
  rw [setGPTSize]
  dsimp only
  generalize (if fillGPTSectors then BitVec.ofNat 32 (Gpt.fillSectors d.blockSize numEntries.toNat)
    else numEntries) = entries
  split_ifs
  · have hsizes := hresize entries
    exact .of_eq hsizes.disk.blockSize_eq hsizes.disk.diskSize_eq hsizes.mbr_eq
  · exact .of_eq rfl rfl rfl

theorem sameSizes_rebuildMainHeader : SameSizes d (rebuildMainHeader d) := by
  have hset := sameSizes_setGPTSize { d with
    mainHeader := d.secondHeader.toMain (getTableSizeInSectors d)
    mainCrcOk := d.secondCrcOk } d.secondHeader.numParts false
  exact .of_eq hset.disk.blockSize_eq hset.disk.diskSize_eq hset.mbr_eq

theorem sameSizes_rebuildSecondHeader : SameSizes d (rebuildSecondHeader d) := by
  have hset := sameSizes_setGPTSize { d with
    secondHeader := d.mainHeader.toSecond
    secondCrcOk := d.mainCrcOk } d.mainHeader.numParts false
  exact .of_eq hset.disk.blockSize_eq hset.disk.diskSize_eq hset.mbr_eq

theorem sameSizes_regenerate (validHeaders : Nat) : SameSizes d (regenerate validHeaders d) := by
  have hmain := sameSizes_rebuildMainHeader (d.withState .valid)
  have hsecond := sameSizes_rebuildSecondHeader (d.withState .valid)
  rw [regenerate]
  dsimp only
  split_ifs
  · exact .of_eq hsecond.disk.blockSize_eq hsecond.disk.diskSize_eq hsecond.mbr_eq
  · exact .of_eq hmain.disk.blockSize_eq hmain.disk.diskSize_eq hmain.mbr_eq
  · exact .of_eq rfl rfl rfl

theorem sameSizes_withState (state : Validity) : SameSizes d (d.withState state) :=
  .of_eq rfl rfl rfl

theorem sameSizes_setMain (header : Header) (crcOk : Bool) : SameSizes d (d.setMain header crcOk) :=
  .of_eq rfl rfl rfl

theorem sameSizes_setSecond (header : Header) (crcOk : Bool) :
    SameSizes d (d.setSecond header crcOk) :=
  .of_eq rfl rfl rfl

variable (s : Loading)

theorem sameSizes_loadHeader (sector : BitVec 64) :
    SameSizes s.data (loadHeader sector s).after.data := by
  have hsized (c : Prop) [Decidable c] (allOK : Bool) (numEntries : BitVec 32) :
      SameSizes s.data
        (if c then setGPTSize s.data numEntries false else (allOK, s.data)).2 := by
    split_ifs
    · exact sameSizes_setGPTSize _ _ _
    · exact SameSizes.refl _
  rw [loadHeader]
  dsimp only
  generalize (s.device.seek sector).2 = device
  generalize headerLayout.decode (device.read 512) = tempHeader
  generalize checkHeaderCRC s.data.blockSize tempHeader = crcOk
  generalize decide (device.retval 512 = 512) = allOK
  exact hsized _ _ _

theorem sameSizes_loadHeaders : SameSizes s.data (loadHeaders s).2.data := by
  have hmain (sector : BitVec 64) (s : Loading) :
      SameSizes s.data (loadMainHeader sector s).2.data := by
    rw [loadMainHeader]
    exact (sameSizes_loadHeader s sector).trans (sameSizes_setMain _ _ _)
  have hsecond (sector : BitVec 64) (s : Loading) :
      SameSizes s.data (loadSecondHeader sector s).2.data := by
    rw [loadSecondHeader]
    exact (sameSizes_loadHeader s sector).trans (sameSizes_setSecond _ _ _)
  rw [loadHeaders]
  dsimp only
  generalize hsector : (if (loadMainHeader 1 s).2.data.mainCrcOk = true ∧
      (loadMainHeader 1 s).2.data.mainHeader.backupLBA < (loadMainHeader 1 s).2.data.diskSize then
    loadSecondHeader (loadMainHeader 1 s).2.data.mainHeader.backupLBA (loadMainHeader 1 s).2
    else loadSecondHeader ((loadMainHeader 1 s).2.data.diskSize - 1) (loadMainHeader 1 s).2) =
      second
  have hboth : SameSizes s.data second.2.data := by
    subst hsector
    split_ifs
    · exact (hmain 1 s).trans (hsecond _ _)
    · exact (hmain 1 s).trans (hsecond _ _)
  split_ifs
  · exact hboth
  · exact .of_eq hboth.disk.blockSize_eq hboth.disk.diskSize_eq hboth.mbr_eq

end Kept

section Kept

variable {s s' : Loading} {allOK : Bool}

theorem sameSizes_loadPartitionTable {header : Data → Header}
    (h : loadPartitionTable header s = some (allOK, s')) : SameSizes s.data s'.data := by
  rw [loadPartitionTable] at h
  dsimp only at h
  generalize s.device.seek (header s.data).partitionEntriesLBA = sought at h
  generalize hsize : (if sought.1 = true then setGPTSize s.data (header s.data).numParts false
    else (false, s.data)) = sized at h
  have hsized : SameSizes s.data sized.2 := by
    rw [← hsize]
    split_ifs
    · exact sameSizes_setGPTSize _ _ _
    · exact SameSizes.refl _
  split_ifs at h
  · obtain ⟨-, rfl⟩ := Prod.mk.inj (Option.some.inj h)
    exact .of_eq hsized.disk.blockSize_eq hsized.disk.diskSize_eq hsized.mbr_eq
  · obtain ⟨-, rfl⟩ := Prod.mk.inj (Option.some.inj h)
    exact hsized

theorem sameSizes_chooseTable {validHeaders loadedTable : Nat} {allOK' : Bool}
    (h : chooseTable validHeaders allOK s = some ((allOK', loadedTable), s')) :
    SameSizes s.data s'.data := by
  rw [chooseTable] at h
  split_ifs at h
  · obtain ⟨⟨loaded, s₁⟩, hload, hrest⟩ := Option.bind_eq_some_iff.mp h
    obtain ⟨-, rfl⟩ := Prod.mk.inj (Option.some.inj hrest)
    exact sameSizes_loadPartitionTable hload
  · obtain ⟨⟨loaded, s₁⟩, hload, hrest⟩ := Option.bind_eq_some_iff.mp h
    have hsecond := sameSizes_loadPartitionTable hload
    have hfirst : SameSizes s.data s₁.data := (sameSizes_withState _ _).trans hsecond
    dsimp only at hrest
    split_ifs at hrest
    · obtain ⟨-, rfl⟩ := Prod.mk.inj (Option.some.inj hrest)
      exact hfirst
    · obtain ⟨⟨loaded', s₂⟩, hload', hrest'⟩ := Option.bind_eq_some_iff.mp hrest
      have hlast : s' = s₂ := by
        dsimp only at hrest'
        split_ifs at hrest'
        · exact (Prod.mk.inj (Option.some.inj hrest')).2.symm
        · exact (Prod.mk.inj (Option.some.inj hrest')).2.symm
      rw [hlast]
      exact hfirst.trans (sameSizes_loadPartitionTable hload')

theorem sameSizes_checkOther {loadedTable : Nat} (h : checkOther loadedTable s = some s') :
    SameSizes s.data s'.data := by
  rw [checkOther] at h
  split_ifs at h
  · obtain ⟨⟨ok, device⟩, -, hrest⟩ := Option.bind_eq_some_iff.mp h
    obtain rfl := Option.some.inj hrest
    exact .of_eq rfl rfl rfl
  · obtain ⟨⟨ok, device⟩, -, hrest⟩ := Option.bind_eq_some_iff.mp h
    obtain rfl := Option.some.inj hrest
    exact .of_eq rfl rfl rfl
  · obtain rfl := Option.some.inj h
    exact .of_eq rfl rfl rfl

theorem sameSizes_loadBackup {allOK' : Bool} (h : loadBackup allOK s = some (allOK', s')) :
    SameSizes s.data s'.data := by
  rw [loadBackup] at h
  split_ifs at h
  · obtain ⟨⟨ok, s₁⟩, hload, hrest⟩ := Option.bind_eq_some_iff.mp h
    have hsecond := sameSizes_loadPartitionTable hload
    have hfirst : SameSizes s.data s₁.data := (sameSizes_withState _ _).trans hsecond
    obtain ⟨-, rfl⟩ := Prod.mk.inj (Option.some.inj hrest)
    exact .of_eq hfirst.disk.blockSize_eq hfirst.disk.diskSize_eq hfirst.mbr_eq
  · obtain ⟨-, rfl⟩ := Prod.mk.inj (Option.some.inj h)
    exact .of_eq rfl rfl rfl
  · obtain ⟨-, rfl⟩ := Prod.mk.inj (Option.some.inj h)
    exact SameSizes.refl _

theorem sameSizes_loadTables {validHeaders : Nat} {allOK' : Bool}
    (h : loadTables validHeaders allOK s = some (allOK', s')) : SameSizes s.data s'.data := by
  rw [loadTables] at h
  obtain ⟨⟨⟨ok, loadedTable⟩, s₁⟩, hchoose, h⟩ := Option.bind_eq_some_iff.mp h
  obtain ⟨s₂, hcheck, h⟩ := Option.bind_eq_some_iff.mp h
  obtain ⟨⟨ok', s₃⟩, hbackup, h⟩ := Option.bind_eq_some_iff.mp h
  have hall := ((sameSizes_chooseTable hchoose).trans (sameSizes_checkOther hcheck)).trans
    (sameSizes_loadBackup hbackup)
  obtain ⟨-, rfl⟩ := Prod.mk.inj (Option.some.inj h)
  split_ifs
  · exact .of_eq hall.disk.blockSize_eq hall.disk.diskSize_eq hall.mbr_eq
  · exact hall

/-- **Loading keeps the sizes**, whatever is on the disk. -/
theorem sameSizes_forceLoadGPTData (h : forceLoadGPTData s = some (allOK, s')) :
    SameSizes s.data s'.data := by
  have hheaders := sameSizes_loadHeaders s
  rw [forceLoadGPTData] at h
  generalize loadHeaders s = headers at h hheaders
  split_ifs at h
  · exact (hheaders.trans (sameSizes_regenerate _ _)).trans (sameSizes_loadTables h)
  · obtain ⟨-, rfl⟩ := Prod.mk.inj (Option.some.inj h)
    exact .of_eq hheaders.disk.blockSize_eq hheaders.disk.diskSize_eq hheaders.mbr_eq

theorem sameSizes_repairMBR (d : Data) : SameSizes d (repairMBR d) := by
  rw [repairMBR]
  split_ifs
  · exact .of_eq rfl rfl (by rw [Data.withMBR, Mbr.makeProtectiveMBR_eq])
  · exact SameSizes.refl d

/-- The MBR has the size of the disk once the first sector has been read. -/
theorem diskSize_readMBRData {readEbr : BitVec 64 → Option Mbr.TempMBR} {fuel : Nat}
    {boot : Option Mbr.TempMBR} {diskSize : BitVec 64} {mbr mbr' : Mbr.Data}
    (h : Mbr.readMBRData readEbr fuel boot diskSize mbr = some (some (allOK, mbr'))) :
    mbr'.diskSize = if boot.isSome then diskSize else mbr.diskSize := by
  cases boot with
  | none =>
    obtain ⟨-, rfl⟩ := Prod.mk.inj (Option.some.inj (Option.some.inj h))
    rfl
  | some boot =>
    rw [Mbr.readMBRData] at h
    split_ifs at h
    · obtain ⟨-, rfl⟩ := Prod.mk.inj (Option.some.inj (Option.some.inj h))
      rfl
    · obtain ⟨read, -, hread⟩ := Option.map_eq_some_iff.mp h
      obtain ⟨partitions, -, hdata⟩ := Option.map_eq_some_iff.mp hread
      obtain ⟨-, rfl⟩ := Prod.mk.inj hdata
      rfl

theorem partitionScan_eq {fuel : Nat} {drive : Drive} {d : Data} {mbr : Mbr.Data} {allOK' : Bool}
    (hread : Mbr.readMBRData drive.readEbr fuel drive.boot d.diskSize d.protectiveMBR =
      some (some (allOK, mbr)))
    (hload : forceLoadGPTData ⟨d.withMBR mbr, drive.device⟩ = some (allOK', s)) :
    partitionScan fuel drive d = some (some (repairMBR s.data)) := by
  rw [partitionScan, hread, Option.map_some]
  simp only [Option.bind_eq_bind, Option.bind_some, hload, Option.pure_def]

/-- What a call of `LoadPartitions` has done. -/
theorem loadPartitions_cases {fuel : Nat} {drive : Drive} {d d' : Data}
    (h : loadPartitions fuel drive d = some (some (allOK, d'))) :
    ((drive.opens && drive.opensAgain) = false ∧ d' = d) ∨
      ((drive.opens && drive.opensAgain) = true ∧ ∃ scanned, d' = useNew drive.diskGUID scanned ∧
        SameDisk (d.withDevice drive.device) scanned ∧
        scanned.protectiveMBR.diskSize =
          if drive.boot.isSome then BitVec.ofNat 64 drive.device.blocks
          else d.protectiveMBR.diskSize) := by
  rw [loadPartitions] at h
  split_ifs at h with hopen
  · obtain ⟨scan, hscan, hall⟩ := Option.map_eq_some_iff.mp h
    obtain ⟨scanned, rfl, hdata⟩ := Option.map_eq_some_iff.mp hall
    obtain ⟨-, rfl⟩ := Prod.mk.inj hdata
    rw [partitionScan] at hscan
    obtain ⟨read, hread, hrest⟩ := Option.map_eq_some_iff.mp hscan
    obtain ⟨⟨ok, mbr⟩, rfl, hrest'⟩ := Option.bind_eq_some_iff.mp hrest
    obtain ⟨⟨ok', s⟩, hload, hrepair⟩ := Option.bind_eq_some_iff.mp hrest'
    obtain rfl := Option.some.inj hrepair
    have hsizes := (sameSizes_forceLoadGPTData hload).trans (sameSizes_repairMBR s.data)
    refine .inr ⟨hopen, _, rfl, ⟨hsizes.disk.blockSize_eq, hsizes.disk.diskSize_eq⟩, ?_⟩
    have hmbr := diskSize_readMBRData hread
    exact hsizes.mbr_eq.trans hmbr
  · obtain ⟨-, rfl⟩ := Prod.mk.inj (Option.some.inj (Option.some.inj h))
    exact .inl ⟨Bool.eq_false_of_not_eq_true hopen, rfl⟩

end Kept

/-! ### Protective MBRs -/

/-- A protective MBR for a disk. -/
def Protective (size : BitVec 64) (mbr : Mbr.Data) : Prop :=
  ∃ mbr₀ clearBoot, mbr = Mbr.makeProtectiveMBR mbr₀ clearBoot ∧ mbr₀.diskSize = size

theorem protective_movedMBR {size : BitVec 64} {d : Data} (h : Protective size d.protectiveMBR) :
    Protective size (movedMBR d) := by
  obtain ⟨mbr₀, clearBoot, hmbr, hsize⟩ := h
  have hstate : d.protectiveMBR.state = .gpt := by rw [hmbr, Mbr.makeProtectiveMBR_eq]
  have hdisk : d.protectiveMBR.diskSize = size := by rw [hmbr, Mbr.makeProtectiveMBR_eq, hsize]
  have hmoved : movedMBR d = if d.mainHeader.lastUsableLBA ≠
      d.diskSize - d.mainHeader.firstUsableLBA then Mbr.makeProtectiveMBR d.protectiveMBR false
      else d.protectiveMBR := by
    simp [movedMBR, hstate]
  rw [hmoved]
  split_ifs
  · exact ⟨d.protectiveMBR, false, rfl, hdisk⟩
  · exact ⟨mbr₀, clearBoot, hmbr, hsize⟩

/-- A protective MBR has no problems on a disk that has a sector. -/
theorem findHybridMismatches_protective {size : BitVec 64} {d : Data}
    (h : Protective size d.protectiveMBR) : findHybridMismatches d = 0 := by
  obtain ⟨mbr₀, clearBoot, hmbr, -⟩ := h
  have hprimaries : Mbr.primaries d.protectiveMBR =
      Mbr.protectivePart mbr₀ :: List.replicate 3 {} := by
    rw [Mbr.primaries, hmbr, Mbr.toList_makeProtectiveMBR]
    rfl
  have htype : (Mbr.protectivePart mbr₀).partitionType = 0xEE := by
    rw [Mbr.protectivePart_eq]
  rw [findHybridMismatches, hprimaries, Int.natCast_eq_zero, List.countP_eq_zero]
  intro mbrPart hpart
  rcases List.mem_cons.mp hpart with rfl | hempty
  · simp [isMismatch, htype]
  · rw [List.eq_of_mem_replicate hempty]
    simp [isMismatch]

theorem findOverlaps_protective {size : BitVec 64} {mbr : Mbr.Data} (h : Protective size mbr) :
    Mbr.findOverlaps mbr = 0 := by
  obtain ⟨mbr₀, clearBoot, rfl, -⟩ := h
  exact Mbr.findOverlaps_makeProtectiveMBR mbr₀ clearBoot

theorem doTheyFit_protective {size : BitVec 64} {mbr : Mbr.Data} (h : Protective size mbr) :
    Mbr.doTheyFit mbr = decide (0 < size.toNat) := by
  obtain ⟨mbr₀, clearBoot, rfl, rfl⟩ := h
  exact Mbr.doTheyFit_makeProtectiveMBR mbr₀ clearBoot

/-! ### Cleared tables -/

/-- What `SetGPTSize` leaves when there is no table. -/
structure Resized (old d : Data) : Prop where
  blank : Blank d
  numParts_eq : d.numParts.toNat = Gpt.newEntries old.blockSize
  header_eq : d.mainHeader.numParts = d.numParts
  sizes : SameSizes old d
  protective : ∀ size, Protective size old.protectiveMBR → Protective size d.protectiveMBR
  first_eq : d.mainHeader.firstUsableLBA =
    getTableSizeInSectors d + old.mainHeader.partitionEntriesLBA
  last_eq : d.mainHeader.lastUsableLBA = d.diskSize - d.mainHeader.firstUsableLBA

theorem resized_setGPTSize {old : Data} (hnone : old.partitions = none)
    (hblock : BlockSize old.blockSize) : Resized old (setGPTSize old 128 true).2 := by
  have hlt : Gpt.newEntries old.blockSize < 2 ^ 32 := by
    rw [Gpt.newEntries, Gpt.fillSectors]
    split_ifs
    · exact Nat.mod_lt _ (by decide)
    · decide
  have hnum : (BitVec.ofNat 32 (Gpt.fillSectors old.blockSize (128 : BitVec 32).toNat)).toNat =
      Gpt.newEntries old.blockSize := Nat.mod_eq_of_lt hlt
  have hpos := Gpt.newEntries_pos hblock
  have hresize (entries : BitVec 32) (hnum : entries.toNat = Gpt.newEntries old.blockSize) :
      Blank (resize old entries).2 ∧ (resize old entries).2.numParts = entries ∧
        SameSizes old (resize old entries).2 ∧
        (∀ size, Protective size old.protectiveMBR →
          Protective size (resize old entries).2.protectiveMBR) ∧
        (resize old entries).2.mainHeader.firstUsableLBA =
          getTableSizeInSectors (resize old entries).2 + old.mainHeader.partitionEntriesLBA ∧
        (resize old entries).2.mainHeader.lastUsableLBA = (resize old entries).2.diskSize -
          (resize old entries).2.mainHeader.firstUsableLBA := by
    rw [resize, hnone]
    exact ⟨rfl, rfl, .of_eq rfl rfl (diskSize_movedMBR _), fun size h => protective_movedMBR h,
      rfl, rfl⟩
  rw [setGPTSize, if_pos rfl]
  generalize BitVec.ofNat 32 (Gpt.fillSectors old.blockSize (128 : BitVec 32).toNat) = entries at *
  dsimp only
  rw [if_pos ⟨.inr hnone, hnum ▸ hpos⟩]
  obtain ⟨hblank, hentries, hsizes, hprotective, hfirst, hlast⟩ := hresize entries hnum
  generalize resize old entries = sized at *
  exact ⟨hblank, hentries ▸ hnum, rfl,
    .of_eq hsizes.disk.blockSize_eq hsizes.disk.diskSize_eq hsizes.mbr_eq, hprotective, hfirst,
    hlast⟩

/-- What `ClearGPTData` leaves. -/
structure Cleared (old d : Data) : Prop where
  blank : Blank d
  numParts_eq : d.numParts.toNat = Gpt.newEntries old.blockSize
  sizes : SameSizes old d
  protective : ∀ size, Protective size old.protectiveMBR → Protective size d.protectiveMBR
  crcs : CrcsOk d
  signature_eq : d.mainHeader.signature = gptSignature
  revision_eq : d.mainHeader.revision = gptRevision
  headerSize_eq : d.mainHeader.headerSize = 92
  current_eq : d.mainHeader.currentLBA = 1
  entries_eq : d.mainHeader.partitionEntriesLBA = 2
  size_eq : d.mainHeader.sizeOfPartitionEntries = 128
  first_eq : d.mainHeader.firstUsableLBA = getTableSizeInSectors d + 2
  last_eq : d.mainHeader.lastUsableLBA = d.diskSize - d.mainHeader.firstUsableLBA
  backup_eq : d.mainHeader.backupLBA = d.diskSize - 1
  num_eq : d.mainHeader.numParts = d.numParts
  second_eq : d.secondHeader = d.mainHeader.toSecond

theorem ready_of_blank {d : Data} (hblank : Blank d) (hmain : d.mainHeader.numParts = d.numParts)
    (hsecond : d.secondHeader.numParts = d.numParts) : Ready d :=
  ⟨hmain, hsecond, _, hblank, List.length_replicate⟩

theorem blankPartitions_blank {d : Data} (h : Blank d) : blankPartitions d = d := by
  have hlist : List.replicate ((List.replicate d.numParts.toNat ({} : Part)).take
      d.numParts.toNat).length ({} : Part) ++
        (List.replicate d.numParts.toNat ({} : Part)).drop d.numParts.toNat =
      List.replicate d.numParts.toNat {} := by
    rw [List.take_replicate, Nat.min_self, List.length_replicate, List.drop_replicate, Nat.sub_self]
    exact List.append_nil _
  have hmap : d.partitions.map (fun all =>
      List.replicate (all.take d.numParts.toNat).length ({} : Part) ++
        all.drop d.numParts.toNat) = d.partitions := by
    rw [h, Option.map_some, hlist]
  rw [blankPartitions, hmap]

theorem cleared_clearGPTData {old : Data} (hblock : BlockSize old.blockSize) (diskGUID : Guid) :
    Cleared old (clearGPTData old diskGUID) := by
  obtain ⟨hblank, hnum, hheader, hsizes, hprotective⟩ :
      Resized { old with partitions := none }
        (setGPTSize { old with partitions := none } 128 true).2 :=
    resized_setGPTSize rfl hblock
  rw [clearGPTData]
  generalize (setGPTSize { old with partitions := none } 128 true).2 = d at *
  have hrebuild : rebuildSecondHeader (initHeader d diskGUID) =
      { initHeader d diskGUID with
        secondHeader := (initHeader d diskGUID).mainHeader.toSecond
        secondCrcOk := (initHeader d diskGUID).mainCrcOk } := by
    rw [rebuildSecondHeader]
    exact congrArg Prod.snd
      (hheader ▸ setGPTSize_same (ready_of_blank (d := { initHeader d diskGUID with
        secondHeader := (initHeader d diskGUID).mainHeader.toSecond
        secondCrcOk := (initHeader d diskGUID).mainCrcOk }) hblank hheader hheader))
  have hblank' : Blank (rebuildSecondHeader (initHeader d diskGUID)) := by
    rw [hrebuild]
    exact hblank
  rw [blankPartitions_blank hblank', hrebuild]
  exact ⟨hblank, hnum, .of_eq hsizes.disk.blockSize_eq hsizes.disk.diskSize_eq hsizes.mbr_eq,
    hprotective, ⟨rfl, rfl, rfl, rfl⟩, rfl, rfl, rfl, rfl, rfl, rfl, rfl, rfl, rfl, hheader, rfl⟩

/-- Headers at the two ends of the disk. -/
structure AtEnd (d : Data) : Prop where
  backup_eq : d.mainHeader.backupLBA = d.diskSize - 1
  last_eq : d.mainHeader.lastUsableLBA = d.diskSize - d.mainHeader.firstUsableLBA
  current_eq : d.secondHeader.currentLBA = d.diskSize - 1
  second_last : d.secondHeader.lastUsableLBA = d.mainHeader.lastUsableLBA
  second_entries : d.secondHeader.partitionEntriesLBA = d.mainHeader.lastUsableLBA + 1

section Cleared

variable {old d : Data}

theorem Cleared.atEnd (h : Cleared old d) : AtEnd d := by
  refine ⟨h.backup_eq, h.last_eq, ?_, ?_, ?_⟩
  · rw [h.second_eq]
    exact h.backup_eq
  · rw [h.second_eq]
    rfl
  · rw [h.second_eq]
    rfl

theorem moveSecondHeaderToEnd_eq (h : AtEnd d) : moveSecondHeaderToEnd d = d := by
  have hmbr : movedMBR d = d.protectiveMBR := if_neg (not_not.mpr h.last_eq)
  have hmain : { d.mainHeader with
      backupLBA := d.diskSize - 1
      lastUsableLBA := d.diskSize - d.mainHeader.firstUsableLBA } = d.mainHeader := by
    rw [← h.backup_eq, ← h.last_eq]
  have hsecond : { d.secondHeader with
      currentLBA := d.diskSize - 1
      lastUsableLBA := d.diskSize - d.mainHeader.firstUsableLBA
      partitionEntriesLBA := d.diskSize - d.mainHeader.firstUsableLBA + 1 } = d.secondHeader := by
    rw [← h.current_eq, ← h.last_eq, ← h.second_entries, ← h.second_last]
  rw [moveSecondHeaderToEnd, hmbr]
  dsimp only
  rw [hmain, hsecond]

/-- `SaveGPTData` has nothing to correct. -/
theorem checkTable_atEnd (typeName : Guid → List Byte) (diskGUID uniqueGUID fatGUID : Guid)
    (turns : Nat) (h : AtEnd d) :
    (Gdisk.checkTable (gptData typeName diskGUID uniqueGUID fatGUID turns) d).2 =
      recomputeCRCs d := by
  rw [Gdisk.checkTable]
  simp only [moveSecondHeaderToEnd_eq h, ite_self]

theorem verified_recomputeCRCs : Verified (recomputeCRCs d) ↔ Verified d := by
  rw [← verify_eq_zero_iff, ← verify_eq_zero_iff]
  -- `Verify` reads none of the checksums that are computed.
  rfl

/-- The headers agree if and only if one copy of the table fits on the disk. On a small disk the two
copies overlap. -/
theorem Cleared.agree_iff (h : Cleared old d)
    (hsmall : (getTableSizeInSectors d).toNat + 2 < 2 ^ 64) :
    Agree d ↔ (getTableSizeInSectors d).toNat + 2 ≤ d.diskSize.toNat := by
  have hfirst := h.first_eq
  have hlast := h.last_eq
  have hbackup := h.backup_eq
  have hentries := h.entries_eq
  have hcurrent := h.atEnd.current_eq
  have hsecondEntries := h.atEnd.second_entries
  constructor
  · intro hagree
    have hlt := hagree.last_lt
    rw [hlast, hfirst] at hlt
    bv_omega
  · intro hle
    refine ⟨h.current_eq, hcurrent, ?_, hbackup, ?_, h.atEnd.second_last.symm, ?_, ?_, ?_, ?_, ?_,
      ?_, ?_, ?_, ?_⟩
    · rw [h.second_eq]
      exact h.current_eq
    · rw [h.second_eq]
      rfl
    · rw [h.second_eq]
      rfl
    · rw [h.second_eq]
      rfl
    · rw [h.second_eq]
      rfl
    · bv_omega
    · bv_omega
    · bv_omega
    · bv_omega
    · bv_omega
    · bv_omega

theorem eq_of_mem_blank (h : Blank d) : ∀ part ∈ Gpt.parts d.toData, part = {} := by
  rw [parts_blank h]
  exact fun _ hpart => List.eq_of_mem_replicate hpart

theorem used_blank (h : Blank d) : Gpt.used d.toData = [] := by
  rw [Gpt.used, parts_blank h, List.filter_replicate]
  rfl

/-- A table without problems, when the MBR is protective. -/
theorem verified_iff_of_protective {size : BitVec 64} (hmbr : Protective size d.protectiveMBR) :
    Verified d ↔ CrcsOk d ∧ Agree d ∧ (Gpt.checkGPTSize d.toData = 0 ∧
      Gpt.findOverlaps d.toData = 0 ∧ Gpt.findInsanePartitions d.toData = 0) ∧ 0 < size.toNat := by
  have hfits := doTheyFit_protective hmbr
  constructor
  · intro h
    exact ⟨h.crcs, h.agree, ⟨h.size, h.overlaps, h.insane⟩,
      of_decide_eq_true (hfits.symm.trans h.fits)⟩
  · rintro ⟨hcrcs, hagree, ⟨hsize, hoverlaps, hinsane⟩, hpos⟩
    exact ⟨hcrcs, hagree, hsize, hoverlaps, hinsane, findHybridMismatches_protective hmbr,
      findOverlaps_protective hmbr, hfits.trans (decide_eq_true hpos)⟩

theorem Cleared.verified_iff (h : Cleared old d)
    (hsmall : (getTableSizeInSectors d).toNat + 2 < 2 ^ 64) {size : BitVec 64}
    (hmbr : Protective size d.protectiveMBR) :
    Verified d ↔ (getTableSizeInSectors d).toNat + 2 ≤ d.diskSize.toNat ∧ 0 < size.toNat := by
  have hused := used_blank h.blank
  have hno {i : Nat} {part : Gpt.Part} (hpart : (Gpt.parts d.toData)[i]? = some part) :
      part.isUsed ≠ true := fun hyes => by
    have hmem := Gpt.mem_used.mpr ⟨List.mem_of_getElem? hpart, hyes⟩
    rw [hused] at hmem
    cases hmem
  rw [verified_iff_of_protective hmbr, h.agree_iff hsmall]
  constructor
  · rintro ⟨-, hle, -, hpos⟩
    exact ⟨hle, hpos⟩
  · rintro ⟨hle, hpos⟩
    have hdisk : d.toData.diskSize ≠ 0 := by
      change d.diskSize.toNat ≠ 0
      omega
    have hfirst : 0 < d.toData.mainHeader.firstUsableLBA ∧
        d.toData.mainHeader.firstUsableLBA < 2 ^ 64 := by
      have heq := h.first_eq
      change 0 < d.mainHeader.firstUsableLBA.toNat ∧ d.mainHeader.firstUsableLBA.toNat < 2 ^ 64
      bv_omega
    refine ⟨h.crcs, hle, (Gpt.checks_eq_zero_iff hdisk hfirst).mpr ⟨fun part hpart => ?_,
      fun i j p q _ hp _ hused _ => absurd hused (hno hp)⟩, hpos⟩
    rw [hused] at hpart
    cases hpart

end Cleared

/-! ### One partition -/

theorem verified_withPartitions {size : BitVec 64} {d : Data} (partitions : Option (List Part))
    (hcrcs : CrcsOk d) (hmbr : Protective size d.protectiveMBR) :
    Verified { d with partitions := partitions } ↔ Agree d ∧
      (Gpt.checkGPTSize { d with partitions := partitions }.toData = 0 ∧
        Gpt.findOverlaps { d with partitions := partitions }.toData = 0 ∧
          Gpt.findInsanePartitions { d with partitions := partitions }.toData = 0) ∧
      0 < size.toNat := by
  obtain ⟨h₁, h₂, h₃, h₄⟩ := hcrcs
  have hcrcs' : CrcsOk { d with partitions := partitions } := ⟨h₁, h₂, h₃, h₄⟩
  have hagree : Agree { d with partitions := partitions } ↔ Agree d :=
    ⟨fun ⟨g₁, g₂, g₃, g₄, g₅, g₆, g₇, g₈, g₉, g₁₀, g₁₁, g₁₂, g₁₃, g₁₄, g₁₅⟩ =>
        ⟨g₁, g₂, g₃, g₄, g₅, g₆, g₇, g₈, g₉, g₁₀, g₁₁, g₁₂, g₁₃, g₁₄, g₁₅⟩,
      fun ⟨g₁, g₂, g₃, g₄, g₅, g₆, g₇, g₈, g₉, g₁₀, g₁₁, g₁₂, g₁₃, g₁₄, g₁₅⟩ =>
        ⟨g₁, g₂, g₃, g₄, g₅, g₆, g₇, g₈, g₉, g₁₀, g₁₁, g₁₂, g₁₃, g₁₄, g₁₅⟩⟩
  rw [verified_iff_of_protective (d := { d with partitions := partitions }) hmbr, hagree,
    and_iff_right hcrcs']

section OnePartition

variable (typeName : Guid → List Byte) (diskGUID uniqueGUID fatGUID : Guid) (d : Data) {turns : Nat}

/-- `PalData::ClearDisk` changes the first entry of the table, when it returns. -/
theorem onePartition_eq {first low high : Nat}
    (hfirst : Gpt.findFirstInLargest d.toData turns = some first)
    (hlow : low = (Gpt.align d.toData first).2) (hhigh : high = Gpt.findLastInFree d.toData low) :
    ∃ partitions, Gdisk.onePartition (gptData typeName diskGUID uniqueGUID fatGUID turns) d =
        some { d with partitions := partitions } ∧
      ∀ i, (Gpt.parts { d with partitions := partitions }.toData)[i]? =
        if 0 = i then (Gpt.parts d.toData)[i]?.map fun _ => ⟨Gpt.fat32Type, low % 2 ^ 64, high⟩
        else (Gpt.parts d.toData)[i]? := by
  have hlast : high < 2 ^ 64 := by
    rw [hhigh]
    exact findLastInFree_lt d low
  have hnat : (BitVec.ofNat 64 high).toNat = high := Nat.mod_eq_of_lt hlast
  have hone : Gdisk.onePartition (gptData typeName diskGUID uniqueGUID fatGUID turns) d =
      some (setPart (createPartition d typeName uniqueGUID 0 low high).2 typeName 0 Gpt.fat32Type
        fatGUID (BitVec.ofNat 64 low) (BitVec.ofNat 64 high)) := by
    have hfound : (gptData typeName diskGUID uniqueGUID fatGUID turns).findFirstInLargest d =
        some first := hfirst
    rw [Gdisk.onePartition, hfound, hhigh, hlow]
    rfl
  have hparts (d' : Data) (partitionType guid : Guid) (first : BitVec 64) (i : Nat) :
      (Gpt.parts (setPart d' typeName 0 partitionType guid first
        (BitVec.ofNat 64 high)).toData)[i]? =
      if 0 = i then (Gpt.parts d'.toData)[i]?.map fun _ => ⟨partitionType, first.toNat, high⟩
      else (Gpt.parts d'.toData)[i]? := by
    rw [toData_setPart, Gpt.getElem?_parts_setPart, hnat]
  have hcreate : (createPartition d typeName uniqueGUID 0 low high).2 = d ∨
      ∃ start, (createPartition d typeName uniqueGUID 0 low high).2 = setPart d typeName 0
        Gpt.defaultGptType uniqueGUID (BitVec.ofNat 64 start) (BitVec.ofNat 64 high) := by
    rw [createPartition]
    dsimp only
    split_ifs
    · exact .inr ⟨_, rfl⟩
    · exact .inl rfl
    · exact .inl rfl
    · exact .inl rfl
  rw [hone]
  rcases hcreate with hno | ⟨start, hyes⟩
  · rw [hno]
    refine ⟨_, rfl, fun i => ?_⟩
    exact hparts d Gpt.fat32Type fatGUID (BitVec.ofNat 64 low) i
  · rw [hyes]
    refine ⟨_, rfl, fun i => ?_⟩
    refine (hparts (setPart d typeName 0 Gpt.defaultGptType uniqueGUID (BitVec.ofNat 64 start)
      (BitVec.ofNat 64 high)) Gpt.fat32Type fatGUID (BitVec.ofNat 64 low) i).trans ?_
    rw [hparts]
    split_ifs
    · rw [Option.map_map]
      rfl
    · rfl

end OnePartition

/-- The checks of the table with one partition. When no sector is usable, the partition begins at
sector zero. -/
theorem Cleared.checks_onePartition {old d : Data} (h : Cleared old d)
    (hnum : 0 < d.numParts.toNat)
    (hbound : (getTableSizeInSectors d).toNat + 2 ≤ 2 ^ 20)
    (hle : (getTableSizeInSectors d).toNat + 2 ≤ d.diskSize.toNat) (hlt : d.diskSize.toNat < 2 ^ 63)
    (halignment : 0 < d.sectorAlignment ∧ d.sectorAlignment ≤ 2 ^ 20) {low : Nat}
    (hlow : low = (Gpt.align d.toData (Gpt.firstFrom d.toData 0)).2)
    {partitions : Option (List Part)}
    (hparts : ∀ i, (Gpt.parts { d with partitions := partitions }.toData)[i]? =
      if 0 = i then (Gpt.parts d.toData)[i]?.map fun _ =>
        ⟨Gpt.fat32Type, low % 2 ^ 64, Gpt.findLastInFree d.toData low⟩
      else (Gpt.parts d.toData)[i]?) :
    (Gpt.checkGPTSize { d with partitions := partitions }.toData = 0 ∧
      Gpt.findOverlaps { d with partitions := partitions }.toData = 0 ∧
        Gpt.findInsanePartitions { d with partitions := partitions }.toData = 0) ↔
      2 * ((getTableSizeInSectors d).toNat + 2) ≤ d.diskSize.toNat := by
  have hblank := eq_of_mem_blank h.blank
  have hfirst : d.toData.mainHeader.firstUsableLBA = (getTableSizeInSectors d).toNat + 2 := by
    have heq := h.first_eq
    change d.mainHeader.firstUsableLBA.toNat = _
    bv_omega
  have hlast : d.toData.mainHeader.lastUsableLBA =
      d.diskSize.toNat - ((getTableSizeInSectors d).toNat + 2) := by
    have heq := h.first_eq
    have heq' := h.last_eq
    change d.mainHeader.lastUsableLBA.toNat = _
    bv_omega
  have hentry : (Gpt.parts d.toData)[0]? = some ({} : Gpt.Part) := by
    rw [parts_blank h.blank, List.getElem?_replicate, if_pos hnum]
  have hone : (Gpt.parts { d with partitions := partitions }.toData)[0]? =
      some ⟨Gpt.fat32Type, low % 2 ^ 64, d.toData.mainHeader.lastUsableLBA⟩ := by
    rw [hparts, if_pos rfl, hentry, Gpt.findLastInFree_of_blank hblank]
    rfl
  have hother (i : Nat) (other : Gpt.Part) (hi : i ≠ 0)
      (hpart : (Gpt.parts { d with partitions := partitions }.toData)[i]? = some other) :
      other.isUsed = false := by
    rw [hparts, if_neg hi.symm, parts_blank h.blank] at hpart
    rw [List.eq_of_mem_replicate (List.mem_of_getElem? hpart)]
    rfl
  have hdisk : ({ d with partitions := partitions } : Data).toData.diskSize =
      d.diskSize.toNat := rfl
  have hheader : ({ d with partitions := partitions } : Data).toData.mainHeader =
      d.toData.mainHeader := rfl
  rw [Gpt.checks_one (by omega) (by rw [hheader]; omega) hone rfl hother, hheader, hdisk]
  dsimp only
  by_cases hfits : d.toData.mainHeader.firstUsableLBA ≤ d.toData.mainHeader.lastUsableLBA
  · rw [Gpt.firstFrom, Nat.zero_max, if_neg (Nat.not_lt.mpr hfits)] at hlow
    have hpos : 0 < d.toData.sectorAlignment := halignment.1
    have hlarge : d.toData.mainHeader.lastUsableLBA + d.sectorAlignment < 2 ^ 64 := by omega
    have hmem := Gpt.align_mem hpos hlarge (Set.left_mem_Icc.mpr hfits)
    rw [← hlow, Set.mem_Icc] at hmem
    omega
  · rw [Gpt.firstFrom, Nat.zero_max, if_pos (Nat.lt_of_not_le hfits)] at hlow
    have hzero : low = 0 := by
      rw [hlow, Gpt.align, Nat.zero_mod]
      rfl
    omega

/-! ### The whole functions -/

/-- The sizes of a new table. -/
theorem newEntries_bounds {blockSize : Nat} (h : BlockSize blockSize) :
    Gpt.newEntries blockSize * 128 < 2 ^ 31 ∧
      tableBlocks blockSize (Gpt.newEntries blockSize) + 2 ≤ 2 ^ 20 / blockSize := by
  obtain ⟨k, hlow, hhigh, rfl⟩ := h
  interval_cases k
  all_goals decide

theorem getTableSizeInSectors_new {d : Data} (hblock : BlockSize d.blockSize)
    (hnum : d.numParts.toNat = Gpt.newEntries d.blockSize) :
    (getTableSizeInSectors d).toNat = tableBlocks d.blockSize (Gpt.newEntries d.blockSize) ∧
      (getTableSizeInSectors d).toNat + 2 ≤ 2 ^ 20 / d.blockSize := by
  obtain ⟨hentries, hblocks⟩ := newEntries_bounds hblock
  have hdiv := Nat.div_le_self (2 ^ 20) d.blockSize
  have hsize : (getTableSizeInSectors d).toNat =
      tableBlocks d.blockSize (Gpt.newEntries d.blockSize) := by
    rw [getTableSizeInSectors_eq rfl (hnum ▸ hentries), BitVec.toNat_ofNat, hnum]
    exact Nat.mod_eq_of_lt (by omega)
  exact ⟨hsize, hsize ▸ hblocks⟩

theorem alignmentOf_bounds {blockSize : Nat} (h : BlockSize blockSize) :
    Gpt.minAfAlignment ≤ Gpt.alignmentOf blockSize ∧ 0 < Gpt.alignmentOf blockSize ∧
      Gpt.alignmentOf blockSize ≤ 2 ^ 20 := by
  obtain ⟨k, hlow, hhigh, rfl⟩ := h
  interval_cases k
  all_goals decide

theorem resized_default (main second : Header) :
    Resized (unset main second) (default main second) :=
  resized_setGPTSize rfl ⟨9, by decide, by decide, rfl⟩

/-- A cleared table with another MBR for the same disk, and another alignment. -/
theorem Cleared.withMembers {old d : Data} (h : Cleared old d) {mbr : Mbr.Data} (alignment : Nat)
    (hmbr : mbr.diskSize = old.protectiveMBR.diskSize)
    (hprotective : ∀ size, Protective size old.protectiveMBR → Protective size mbr) :
    Cleared old { d with protectiveMBR := mbr, sectorAlignment := alignment } := by
  obtain ⟨hblank, hnum, hsizes, -, ⟨h₁, h₂, h₃, h₄⟩, g₁, g₂, g₃, g₄, g₅, g₆, g₇, g₈, g₉, g₁₀,
    g₁₁⟩ := h
  exact ⟨hblank, hnum, .of_eq hsizes.disk.blockSize_eq hsizes.disk.diskSize_eq hmbr, hprotective,
    ⟨h₁, h₂, h₃, h₄⟩, g₁, g₂, g₃, g₄, g₅, g₆, g₇, g₈, g₉, g₁₀, g₁₁⟩

/-- A cleared table with a new MBR. -/
theorem Cleared.withMBR {old d : Data} (h : Cleared old d) :
    Cleared old (d.withMBR (Mbr.makeProtectiveMBR d.protectiveMBR false)) ∧
      Protective old.protectiveMBR.diskSize (Mbr.makeProtectiveMBR d.protectiveMBR false) := by
  have hmade : Protective old.protectiveMBR.diskSize
      (Mbr.makeProtectiveMBR d.protectiveMBR false) := ⟨_, _, rfl, h.sizes.mbr_eq⟩
  refine ⟨h.withMembers d.sectorAlignment ?_ fun size hold => ?_, hmade⟩
  · rw [Mbr.makeProtectiveMBR_eq]
    exact h.sizes.mbr_eq
  · obtain ⟨mbr₀, clearBoot, hold, hsize⟩ := hold
    rw [hold, Mbr.makeProtectiveMBR_eq] at hmade
    exact hsize ▸ hmade

/-- A cleared table with another alignment. -/
theorem Cleared.computeAlignment {old d : Data} (h : Cleared old d) :
    Cleared old (computeAlignment d) :=
  h.withMembers _ h.sizes.mbr_eq h.protective

/-- What `LoadPartitions` leaves of a disk that has been scanned. -/
theorem cleared_useNew {scanned : Data} (hblock : BlockSize scanned.blockSize) (diskGUID : Guid) :
    Cleared scanned (useNew diskGUID scanned) ∧
      Protective scanned.protectiveMBR.diskSize (useNew diskGUID scanned).protectiveMBR := by
  have hcleared := cleared_clearGPTData hblock diskGUID
  rw [useNew]
  generalize clearGPTData scanned diskGUID = d at *
  exact ⟨hcleared.withMBR.1.computeAlignment, hcleared.withMBR.2⟩

theorem sectorAlignment_useNew {scanned : Data} (hblock : BlockSize scanned.blockSize)
    (diskGUID : Guid) :
    (useNew diskGUID scanned).sectorAlignment = Gpt.alignmentOf scanned.blockSize := by
  have hpos : 0 < Gpt.newEntries scanned.toData.blockSize := Gpt.newEntries_pos hblock
  have hcleared := Gpt.cleared_clearGPTData hpos
  have hsame := Gpt.computeAlignment_eq hcleared (alignmentOf_bounds hblock).1
  have halignment := hcleared.alignment_eq
  rw [← toData_clearGPTData scanned diskGUID] at hsame halignment
  rw [useNew]
  generalize clearGPTData scanned diskGUID = d at *
  exact (congrArg Gpt.Data.sectorAlignment hsame).trans halignment

/-- A new table of a drive that could be opened. -/
structure NewTable (drive : Drive) (d : Data) : Prop where
  cleared : ∃ old, Cleared old d
  blockSize_eq : d.blockSize = drive.device.blockSize
  diskSize_eq : d.diskSize.toNat = drive.device.blocks
  protective : ∃ size, Protective size d.protectiveMBR ∧
    (0 < size.toNat ↔ drive.boot.isSome = true ∧ 0 < drive.device.blocks)

section Whole

variable {fuel : Nat} {drive : Drive} {main second : Header} {allOK : Bool} {d : Data}

theorem newTable_loadPartitions
    (hload : loadPartitions fuel drive (default main second) = some (some (allOK, d)))
    (hblock : BlockSize drive.device.blockSize) (hblocks : drive.device.blocks < 2 ^ 64) :
    (¬ (drive.opens = true ∧ drive.opensAgain = true) ∧ d = default main second ∧
        d.blockSize = 512 ∧ d.diskSize = 0) ∨
      ((drive.opens = true ∧ drive.opensAgain = true) ∧ NewTable drive d ∧
        d.sectorAlignment = Gpt.alignmentOf drive.device.blockSize) := by
  have hsizes := (resized_default main second).sizes
  have hsize : (default main second).blockSize = 512 := hsizes.disk.blockSize_eq
  have hzero : (default main second).diskSize = 0 := hsizes.disk.diskSize_eq
  have hmbrZero : (default main second).protectiveMBR.diskSize = 0 := hsizes.mbr_eq
  rw [← Bool.and_eq_true]
  rcases loadPartitions_cases hload with ⟨hopen, rfl⟩ | ⟨hopen, scanned, rfl, hdisk, hmbr⟩
  · exact .inl ⟨by rw [hopen]; exact Bool.false_ne_true, rfl, hsize, hzero⟩
  · have hscanned : BlockSize scanned.blockSize := hdisk.blockSize_eq.symm ▸ hblock
    obtain ⟨hcleared, hprotective⟩ := cleared_useNew hscanned drive.diskGUID
    have hmod : (BitVec.ofNat 64 drive.device.blocks).toNat = drive.device.blocks :=
      Nat.mod_eq_of_lt hblocks
    refine .inr ⟨hopen, ⟨⟨scanned, hcleared⟩, ?_, ?_, _, hprotective, ?_⟩, ?_⟩
    · exact hcleared.sizes.disk.blockSize_eq.trans hdisk.blockSize_eq
    · rw [hcleared.sizes.disk.diskSize_eq, hdisk.diskSize_eq]
      exact hmod
    · rw [hmbr, hmbrZero]
      cases drive.boot with
      | none => simp
      | some boot => simp [hmod]
    · exact (sectorAlignment_useNew hscanned _).trans (congrArg _ hdisk.blockSize_eq)

section NewTable

variable (h : NewTable drive d) (hblock : BlockSize drive.device.blockSize)

include h hblock

theorem NewTable.tableSize : (getTableSizeInSectors d).toNat =
      tableBlocks drive.device.blockSize (Gpt.newEntries drive.device.blockSize) ∧
    (getTableSizeInSectors d).toNat + 2 ≤ 2 ^ 20 := by
  obtain ⟨old, hcleared⟩ := h.cleared
  have hnum := hcleared.numParts_eq
  rw [← hcleared.sizes.disk.blockSize_eq] at hnum
  obtain ⟨hsize, hbound⟩ := getTableSizeInSectors_new (h.blockSize_eq.symm ▸ hblock) hnum
  rw [hsize, h.blockSize_eq] at *
  exact ⟨rfl, hbound.trans (Nat.div_le_self _ _)⟩

theorem NewTable.clearGPTData (diskGUID : Guid) : NewTable drive (clearGPTData d diskGUID) := by
  have hcleared := cleared_clearGPTData (h.blockSize_eq.symm ▸ hblock) diskGUID
  obtain ⟨size, hprotective, hpos⟩ := h.protective
  refine ⟨⟨d, hcleared⟩, hcleared.sizes.disk.blockSize_eq.trans h.blockSize_eq, ?_, size,
    hcleared.protective size hprotective, hpos⟩
  rw [hcleared.sizes.disk.diskSize_eq, h.diskSize_eq]

/-- A new table has no problems if and only if the first sector could be read and one copy of the
table fits on the disk. -/
theorem NewTable.verified_iff : Verified d ↔ drive.boot.isSome = true ∧
    tableBlocks drive.device.blockSize (Gpt.newEntries drive.device.blockSize) + 2 ≤
      drive.device.blocks := by
  obtain ⟨old, hcleared⟩ := h.cleared
  obtain ⟨size, hprotective, hpos⟩ := h.protective
  obtain ⟨hsize, hbound⟩ := h.tableSize hblock
  rw [hcleared.verified_iff (by omega) hprotective, hpos, hsize, h.diskSize_eq, and_left_comm]
  exact and_congr_right fun _ => and_iff_left_of_imp fun hle => by omega

/-- With one partition it has no problems if and only if the first sector could be read and a sector
is usable. -/
theorem NewTable.verified_onePartition_iff (hblocks : drive.device.blocks < 2 ^ 63)
    (halignment : d.sectorAlignment = Gpt.alignmentOf drive.device.blockSize)
    {partitions : Option (List Part)}
    (hparts : ∀ i, (Gpt.parts { d with partitions := partitions }.toData)[i]? =
      if 0 = i then (Gpt.parts d.toData)[i]?.map fun _ =>
        ⟨Gpt.fat32Type, (Gpt.align d.toData (Gpt.firstFrom d.toData 0)).2 % 2 ^ 64,
          Gpt.findLastInFree d.toData (Gpt.align d.toData (Gpt.firstFrom d.toData 0)).2⟩
      else (Gpt.parts d.toData)[i]?) :
    Verified { d with partitions := partitions } ↔ drive.boot.isSome = true ∧
      2 * (tableBlocks drive.device.blockSize (Gpt.newEntries drive.device.blockSize) + 2) ≤
        drive.device.blocks := by
  obtain ⟨old, hcleared⟩ := h.cleared
  obtain ⟨size, hprotective, hpos⟩ := h.protective
  obtain ⟨hsize, hbound⟩ := h.tableSize hblock
  have hdisk := h.diskSize_eq
  have hold : BlockSize old.blockSize := by
    rw [← hcleared.sizes.disk.blockSize_eq, h.blockSize_eq]
    exact hblock
  rw [verified_withPartitions partitions hcleared.crcs hprotective, hcleared.agree_iff (by omega),
    hpos, ← hsize, ← hdisk]
  by_cases hle : (getTableSizeInSectors d).toNat + 2 ≤ d.diskSize.toNat
  · have hchecks : (Gpt.checkGPTSize { d with partitions := partitions }.toData = 0 ∧
        Gpt.findOverlaps { d with partitions := partitions }.toData = 0 ∧
          Gpt.findInsanePartitions { d with partitions := partitions }.toData = 0) ↔
        2 * ((getTableSizeInSectors d).toNat + 2) ≤ d.diskSize.toNat :=
      hcleared.checks_onePartition (hcleared.numParts_eq ▸ Gpt.newEntries_pos hold) hbound hle
        (by omega) (halignment.symm ▸ (alignmentOf_bounds hblock).2) rfl hparts
    rw [hchecks]
    constructor
    · rintro ⟨-, hfits, hboot, -⟩
      exact ⟨hboot, hfits⟩
    · rintro ⟨hboot, hfits⟩
      exact ⟨hle, hfits, hboot, by omega⟩
  · exact ⟨fun hall => absurd hall.1 hle, fun hall => absurd hall.2 (by omega)⟩

end NewTable

variable (typeName : Guid → List Byte) (diskGUID uniqueGUID fatGUID : Guid) {turns : Nat}

/-- **`clearMbrGpt`** returns true if and only if the disk could be opened twice, its first sector
could be read, and it has two sectors more than a copy of the table. What the disk has does not
matter, nor whether anything could be written. -/
theorem clearMbrGpt_eq_true_iff
    (hload : loadPartitions fuel drive (default main second) = some (some (allOK, d)))
    (hblock : BlockSize drive.device.blockSize) (hblocks : drive.device.blocks < 2 ^ 64)
    (io : Gdisk.Answers (gptData typeName diskGUID uniqueGUID fatGUID turns))
    (hio : io.loadPartitions = d)
    (saves : List (Gdisk.Save (gptData typeName diskGUID uniqueGUID fatGUID turns))) :
    (Gdisk.clearMbrGpt (gptData typeName diskGUID uniqueGUID fatGUID turns) io saves).1 = true ↔
      (drive.opens = true ∧ drive.opensAgain = true) ∧ drive.boot.isSome = true ∧
        tableBlocks drive.device.blockSize (Gpt.newEntries drive.device.blockSize) + 2 ≤
          drive.device.blocks := by
  have hresult (hblock : BlockSize d.blockSize) :
      (Gdisk.clearMbrGpt (gptData typeName diskGUID uniqueGUID fatGUID turns) io saves).1 = true ↔
        Verified (clearGPTData d diskGUID) := by
    have htable : Gdisk.clearedTable (gptData typeName diskGUID uniqueGUID fatGUID turns) io =
        recomputeCRCs (clearGPTData d diskGUID) := by
      rw [Gdisk.clearedTable, hio]
      exact checkTable_atEnd _ _ _ _ _ (cleared_clearGPTData hblock diskGUID).atEnd
    rw [Gdisk.clearMbrGpt_eq, htable, ← verified_recomputeCRCs]
    exact verified_iff
  rcases newTable_loadPartitions hload hblock hblocks with
    ⟨hclosed, -, hsize, hzero⟩ | ⟨hopen, hnew, -⟩
  · have hblock' : BlockSize d.blockSize := ⟨9, by decide, by decide, hsize⟩
    have hcleared := cleared_clearGPTData hblock' diskGUID
    rw [hresult hblock']
    refine ⟨fun hverified => ?_, fun hall => absurd hall.1 hclosed⟩
    have hlt := hverified.agree.backup_lt
    rw [hcleared.sizes.disk.diskSize_eq, hzero] at hlt
    exact absurd hlt BitVec.not_lt_zero
  · rw [hresult (hnew.blockSize_eq.symm ▸ hblock), and_iff_right hopen]
    exact (hnew.clearGPTData hblock diskGUID).verified_iff hblock

theorem diskSize_recomputeCRCs (d : Data) : (recomputeCRCs d).diskSize = d.diskSize := rfl

theorem diskSize_checkTable (d : Data) :
    (Gdisk.checkTable (gptData typeName diskGUID uniqueGUID fatGUID turns) d).2.diskSize =
      d.diskSize := by
  rw [Gdisk.checkTable]
  dsimp only
  rw [diskSize_recomputeCRCs]
  split_ifs <;> rfl

/-! ### `makeEmptyPartition` -/

/-- The search for the largest segment does not end when the usable sectors go on to the last one of
64 bits. -/
theorem findFirstInLargest_eq (hturns : 2 ≤ turns) (hblank : Blank d) :
    Gpt.findFirstInLargest d.toData turns =
      if d.mainHeader.lastUsableLBA = -1 ∧ d.mainHeader.firstUsableLBA ≠ 0 then none
      else some (Gpt.firstFrom d.toData 0) := by
  rw [Gpt.findFirstInLargest_of_blank (eq_of_mem_blank hblank) hturns
    d.mainHeader.lastUsableLBA.isLt]
  refine if_congr ?_ rfl rfl
  have hlast : d.toData.mainHeader.lastUsableLBA = d.mainHeader.lastUsableLBA.toNat := rfl
  have hfirst : d.toData.mainHeader.firstUsableLBA = d.mainHeader.firstUsableLBA.toNat := rfl
  rw [Gpt.firstFrom, Nat.zero_max, hlast, hfirst]
  split_ifs with hout
  · bv_omega
  · bv_omega

/-- The drives for which `FindFirstInLargest` does not end: an opened one that has one sector less
than a copy of the table and two more, and one that is not opened when the memory had -31 in the
place of a member of the header. -/
def Endless (drive : Drive) (main : Header) : Prop :=
  if drive.opens = true ∧ drive.opensAgain = true then
    drive.device.blocks + 1 =
      tableBlocks drive.device.blockSize (Gpt.newEntries drive.device.blockSize) + 2
  else main.partitionEntriesLBA = -31

theorem lastUsable_iff_endless
    (hload : loadPartitions fuel drive (default main second) = some (some (allOK, d)))
    (hblock : BlockSize drive.device.blockSize) (hblocks : drive.device.blocks < 2 ^ 64) :
    Blank d ∧ (d.mainHeader.lastUsableLBA = -1 ∧ d.mainHeader.firstUsableLBA ≠ 0 ↔
      Endless drive main) := by
  rcases newTable_loadPartitions hload hblock hblocks with
    ⟨hclosed, rfl, hsize, hzero⟩ | ⟨hopen, hnew, -⟩
  · have hresized := resized_default main second
    have hnum : (default main second).numParts.toNat =
        Gpt.newEntries (default main second).blockSize := by
      rw [hsize]
      exact hresized.numParts_eq
    have hblock' : BlockSize (default main second).blockSize := ⟨9, by decide, by decide, hsize⟩
    have htable := (getTableSizeInSectors_new hblock' hnum).1
    have hentries : tableBlocks 512 (Gpt.newEntries 512) = 32 := by decide
    rw [hsize, hentries] at htable
    have hfirst : (default main second).mainHeader.firstUsableLBA =
        getTableSizeInSectors (default main second) + main.partitionEntriesLBA := hresized.first_eq
    have hlast := hresized.last_eq
    rw [hzero] at hlast
    refine ⟨hresized.blank, ?_⟩
    rw [Endless, if_neg hclosed, hlast, hfirst]
    bv_omega
  · obtain ⟨old, hcleared⟩ := hnew.cleared
    obtain ⟨htable, hbound⟩ := hnew.tableSize hblock
    have hfirst := hcleared.first_eq
    have hlast := hcleared.last_eq
    have hdisk := hnew.diskSize_eq
    refine ⟨hcleared.blank, ?_⟩
    rw [Endless, if_pos hopen, ← htable, ← hdisk, hlast, hfirst]
    bv_omega

theorem diskSize_onePartition {d d' : Data}
    (h : Gdisk.onePartition (gptData typeName diskGUID uniqueGUID fatGUID turns) d = some d') :
    d'.diskSize = d.diskSize := by
  obtain ⟨first, -, rfl⟩ := Option.map_eq_some_iff.mp h
  change (createPartition d typeName uniqueGUID 0 _ _).2.diskSize = d.diskSize
  rw [createPartition]
  dsimp only
  split_ifs <;> rfl

/-- **`makeEmptyPartition`** does not return if and only if the search for the largest segment does
not end, and returns true if and only if the disk could be opened twice, its first sector could be
read, and a sector is usable. -/
theorem makeEmptyPartition_eq_true_iff
    (hload : loadPartitions fuel drive (default main second) = some (some (allOK, d)))
    (hblock : BlockSize drive.device.blockSize) (hblocks : drive.device.blocks < 2 ^ 63)
    (hturns : 2 ≤ turns)
    (io : Gdisk.Answers (gptData typeName diskGUID uniqueGUID fatGUID turns))
    (hio : io.loadPartitions = d)
    (saves : List (Gdisk.Save (gptData typeName diskGUID uniqueGUID fatGUID turns))) :
    ((Gdisk.makeEmptyPartition (gptData typeName diskGUID uniqueGUID fatGUID turns) io saves).1 =
        none ↔ Endless drive main) ∧
      ((Gdisk.makeEmptyPartition (gptData typeName diskGUID uniqueGUID fatGUID turns) io saves).1 =
          some true ↔
        (drive.opens = true ∧ drive.opensAgain = true) ∧ drive.boot.isSome = true ∧
          2 * (tableBlocks drive.device.blockSize (Gpt.newEntries drive.device.blockSize) + 2) ≤
            drive.device.blocks) := by
  obtain ⟨hblank, hendless⟩ := lastUsable_iff_endless hload hblock (by omega)
  have hsearch : (gptData typeName diskGUID uniqueGUID fatGUID turns).findFirstInLargest d = _ :=
    findFirstInLargest_eq hturns hblank
  rw [Gdisk.makeEmptyPartition_eq, Gdisk.newTable, hio]
  by_cases hnever : Endless drive main
  · rw [if_pos (hendless.mpr hnever)] at hsearch
    rw [Gdisk.onePartition, hsearch]
    refine ⟨⟨fun _ => hnever, fun _ => rfl⟩,
      ⟨fun htrue => absurd htrue.symm (Option.some_ne_none _), ?_⟩⟩
    rintro ⟨hopen, -, hfits⟩
    rw [Endless, if_pos hopen] at hnever
    omega
  · rw [if_neg fun hend => hnever (hendless.mp hend)] at hsearch
    obtain ⟨partitions, htable, hparts⟩ :=
      onePartition_eq typeName diskGUID uniqueGUID fatGUID d hsearch rfl rfl
    have hsize := diskSize_onePartition typeName diskGUID uniqueGUID fatGUID htable
    rw [htable, Option.map_some, Option.map_some]
    refine ⟨⟨fun hnone => absurd hnone (Option.some_ne_none _), fun hend => absurd hend hnever⟩, ?_⟩
    have hresult (table : Data) :
        (!decide (0 < (gptData typeName diskGUID uniqueGUID fatGUID turns).verify table)) = true ↔
          Verified table := verified_iff
    rw [Option.some.injEq, hresult]
    rcases newTable_loadPartitions hload hblock (by omega) with
      ⟨hclosed, -, -, hzero⟩ | ⟨hopen, hnew, halignment⟩
    · refine ⟨fun hverified => ?_, fun hall => absurd hall.1 hclosed⟩
      have hlt := hverified.agree.backup_lt
      rw [diskSize_checkTable] at hlt
      exact absurd (hlt.trans_eq (hsize.trans hzero)) BitVec.not_lt_zero
    · obtain ⟨old, hcleared⟩ := hnew.cleared
      have hatEnd : AtEnd { d with partitions := partitions } := by
        obtain ⟨g₁, g₂, g₃, g₄, g₅⟩ := hcleared.atEnd
        exact ⟨g₁, g₂, g₃, g₄, g₅⟩
      rw [and_iff_right hopen, checkTable_atEnd typeName diskGUID uniqueGUID fatGUID turns hatEnd,
        verified_recomputeCRCs]
      exact hnew.verified_onePartition_iff hblock hblocks halignment hparts

end Whole

/-! ### A drive with a table -/

/-- A drive of 64 KiB on which a table for 32 KiB was saved. Its first sector has no signature. -/
def smallDrive : Drive where
  opens := true
  opensAgain := true
  device := ⟨512, 128, Medium.writeAll (fun _ => 0) (writes (smallDisk 0)), 0⟩
  boot := some { Mbr.smallBoot 0 0 0 with signature := 0 }
  readEbr _ := none
  diskGUID := 0

theorem loadPartitions_smallDrive (main second : Header) :
    ∃ d, loadPartitions 0 smallDrive (default main second) = some (some (true, d)) := by
  have hsound := sound_smallDisk 0
  obtain ⟨mbr, hmbr⟩ : ∃ mbr, Mbr.readMBRData smallDrive.readEbr 0 smallDrive.boot
      ((default main second).withDevice smallDrive.device).diskSize
      ((default main second).withDevice smallDrive.device).protectiveMBR =
        some (some (false, mbr)) := ⟨_, rfl⟩
  have hblank : Blank (((default main second).withDevice smallDrive.device).withMBR mbr) :=
    (resized_default main second).blank
  have hlaid : Laid (((default main second).withDevice smallDrive.device).withMBR mbr)
      (smallDisk 0).mainHeader (smallDisk 0).secondHeader := by
    obtain ⟨-, -, h₁, h₂, h₃, h₄, h₅, h₆, h₇, h₈, -⟩ := hsound.laid
    exact ⟨le_rfl, (by decide : (128 : BitVec 64).toNat * 512 < 2 ^ 63), h₁, h₂, h₃, h₄, h₅, h₆, h₇,
      h₈, (by decide : (63 : BitVec 64).toNat < (128 : BitVec 64).toNat)⟩
  obtain ⟨hread, hread', -, -⟩ := look_eq_iff.mp (look_writes hsound fun _ => 0)
  obtain ⟨d', position', hload, -⟩ := forceLoadGPTData_valid _ 0 hblank hlaid hread hread'
    hsound.main_valid hsound.second_valid
  have hload' : forceLoadGPTData
      ⟨((default main second).withDevice smallDrive.device).withMBR mbr, smallDrive.device⟩ =
        some (true, ⟨d', _⟩) := hload
  refine ⟨useNew smallDrive.diskGUID (repairMBR d'), ?_⟩
  have hopen : (smallDrive.opens && smallDrive.opensAgain) = true := rfl
  rw [loadPartitions, if_pos hopen, partitionScan_eq hmbr hload']
  rfl

/-- Whatever `SaveGPTData` answers. -/
theorem clearMbrGpt_smallDrive :
    ∃ d, loadPartitions 0 smallDrive (default (smallDisk 0).mainHeader (smallDisk 0).mainHeader) =
        some (some (true, d)) ∧
      ∀ io : Gdisk.Answers (gptData (fun _ => []) 0 0 0 2), io.loadPartitions = d →
        (Gdisk.clearMbrGpt (gptData (fun _ => []) 0 0 0 2) io []).1 = true := by
  obtain ⟨d, hload⟩ := loadPartitions_smallDrive (smallDisk 0).mainHeader (smallDisk 0).mainHeader
  refine ⟨d, hload, fun io hio => (clearMbrGpt_eq_true_iff (fun _ => []) 0 0 0 hload
    ⟨9, by decide, by decide, rfl⟩ (by decide) io hio []).mpr ⟨⟨rfl, rfl⟩, rfl, ?_⟩⟩
  change tableBlocks 512 (Gpt.newEntries 512) + 2 ≤ 128
  decide

/-- Whatever `SaveGPTData` answers. -/
theorem makeEmptyPartition_smallDrive :
    ∃ d, loadPartitions 0 smallDrive (default (smallDisk 0).mainHeader (smallDisk 0).mainHeader) =
        some (some (true, d)) ∧
      ∀ io : Gdisk.Answers (gptData (fun _ => []) 0 0 0 2), io.loadPartitions = d →
        (Gdisk.makeEmptyPartition (gptData (fun _ => []) 0 0 0 2) io []).1 = some true := by
  obtain ⟨d, hload⟩ := loadPartitions_smallDrive (smallDisk 0).mainHeader (smallDisk 0).mainHeader
  refine ⟨d, hload, fun io hio => (makeEmptyPartition_eq_true_iff (fun _ => []) 0 0 0 hload
    ⟨9, by decide, by decide, rfl⟩ (by decide) le_rfl io hio []).2.mpr ⟨⟨rfl, rfl⟩, rfl, ?_⟩⟩
  change 2 * (tableBlocks 512 (Gpt.newEntries 512) + 2) ≤ 128
  decide

end UsbMaker.GptDisk
