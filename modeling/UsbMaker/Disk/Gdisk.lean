import UsbMaker.Disk.Handles

/-!
# Saving a partition table

`gpt_pal.cc` clears a disk and gives it one partition with the class `GPTData` of gdisk, which is
taken as it is: `GptData` has the partition table in memory and the functions that are called on it.
What is on the disk, and which of the calls of the disk fail, is arbitrary (`Answers`).
`SaveGPTData` is translated: it checks the table, and writes the backup table, the backup header,
the main table, the main header and the protective MBR, each one only when those before it have
been written.

`clearMbrGpt` and `makeEmptyPartition` drop the result of `SaveGPTData` and return what `Verify`
says of the table in memory.

## Main definitions

* `Gdisk.GptData`, `Gdisk.Answers`, `Gdisk.Save`.
* `Gdisk.saveGPTData`, `Gdisk.clearMbrGpt`, `Gdisk.makeEmptyPartition`.
* `Gdisk.Saves`: the table is sound and every call that saves it succeeds.

## Main results

* `Gdisk.saved_eq_true_iff`: when `SaveGPTData` returns 1.
* `Gdisk.clearMbrGpt_eq_disk`: `clearMbrGpt` as `Install` sees it.
-/

namespace UsbMaker.Gdisk

/-- The class `GPTData` of gdisk, with the members of it that are used. -/
structure GptData where
  /-- The partition table in memory. -/
  Table : Type
  justLooking : Table → Bool
  diskSize : Table → Nat
  /-- `mainHeader.backupLBA`. -/
  backupLBA : Table → Nat
  /-- `mainHeader.lastUsableLBA`. -/
  lastUsableLBA : Table → Nat
  moveSecondHeaderToEnd : Table → Table
  recomputeCRCs : Table → Table
  clearGPTData : Table → Table
  checkGPTSize : Table → Int
  findOverlaps : Table → Int
  findInsanePartitions : Table → Int
  verify : Table → Int
  /-- `none` when its loop does not end. -/
  findFirstInLargest : Table → Option Nat
  /-- `Align`, with the new value of the sector. -/
  align : Table → Nat → Nat
  findLastInFree : Table → Nat → Nat
  createPartition : Table → Nat → Nat → Nat → Table
  /-- The first partition with new ends, made a FAT32 partition with a new GUID. -/
  setPartition : Table → Nat → Nat → Table

/-- The two headers and the two copies of the partition table on a disk. -/
inductive Place
  | backupTable
  | backupHeader
  | mainTable
  | mainHeader
  deriving DecidableEq, Repr

/-- The answers of the disk to one object of the class. -/
structure Answers (G : GptData) where
  /-- The table in memory after `LoadPartitions`, whose result is dropped. -/
  loadPartitions : G.Table
  openForWrite : Bool
  seek : Place → Bool
  /-- `Write`, false when it returns -1. -/
  write : Place → Bool
  writeMBRData : Bool

/-- A call of `SaveGPTData`: the table in memory after it, and its result. -/
structure Save (G : GptData) where
  table : G.Table
  ok : Bool

section GptData

variable (G : GptData) (io : Answers G)

/-- What `SaveHeader` and `SavePartitionTable` have in common. -/
def seekAndWrite (place : Place) : Bool := if io.seek place then io.write place else false

/-- `SaveHeader`. -/
def saveHeader (place : Place) : Bool := seekAndWrite G io place

/-- `SavePartitionTable`. -/
def savePartitionTable (place : Place) : Bool := seekAndWrite G io place

/-- The part of `SaveGPTData` before its writes, with `quiet` set: `allOK`, and the table that has
been corrected. -/
def checkTable (table : G.Table) : Bool × G.Table :=
  let allOK := !G.justLooking table
  let table :=
    if G.diskSize table ≤ G.backupLBA table then G.moveSecondHeaderToEnd table else table
  let allOK := allOK && !decide (0 < G.checkGPTSize table)
  let table :=
    if G.backupLBA table < (G.diskSize table + 2 ^ 64 - 1) % 2 ^ 64 then
      G.moveSecondHeaderToEnd table
    else table
  let table :=
    if G.diskSize table ≤ G.lastUsableLBA table ∨ G.backupLBA table < G.lastUsableLBA table then
      G.moveSecondHeaderToEnd table
    else table
  let allOK := allOK &&
    !(decide (0 < G.findOverlaps table) || decide (0 < G.findInsanePartitions table))
  (allOK, G.recomputeCRCs table)

/-- The writes of `SaveGPTData`. -/
def writeTables : Bool :=
  if io.openForWrite then
    let allOK := savePartitionTable G io .backupTable
    let allOK := allOK && saveHeader G io .backupHeader
    let allOK := allOK && savePartitionTable G io .mainTable
    let allOK := allOK && saveHeader G io .mainHeader
    allOK && io.writeMBRData
  else false

/-- `SaveGPTData`. -/
def saveGPTData (table : G.Table) : Save G :=
  ⟨(checkTable G table).2, (checkTable G table).1 && writeTables G io⟩

/-- `clearMbrGpt`, which keeps a list of the calls of `SaveGPTData`. The results of
`WriteProtectiveMBR` and of `SaveGPTData` are dropped. -/
def clearMbrGpt : StateM (List (Save G)) Bool := do
  let gptdata := G.clearGPTData io.loadPartitions
  let save := saveGPTData G io gptdata
  modify (save :: ·)
  return !decide (0 < G.verify save.table)

/-- The table with one partition that `PalData::ClearDisk` makes, `none` when it does not return. -/
def onePartition (table : G.Table) : Option G.Table :=
  (G.findFirstInLargest table).map fun first =>
    let low := G.align table first
    let high := G.findLastInFree table low
    G.setPartition (G.createPartition table 0 low high) low high

/-- `PalData::ClearDisk`, with the call of `SaveGPTData` it ends in. -/
def clearDisk (table : G.Table) : Option (Save G) := (onePartition G table).map (saveGPTData G io)

/-- `makeEmptyPartition`, `none` when it does not return. -/
def makeEmptyPartition : StateM (List (Save G)) (Option Bool) := do
  match clearDisk G io io.loadPartitions with
  | none => return none
  | some save =>
    modify (save :: ·)
    return some (!decide (0 < G.verify save.table))

/-! ### What is saved -/

/-- The cleared table, as `SaveGPTData` corrects it. -/
def clearedTable : G.Table := (checkTable G (G.clearGPTData io.loadPartitions)).2

/-- The table with one partition, as `SaveGPTData` corrects it. -/
def newTable : Option G.Table :=
  (onePartition G io.loadPartitions).map fun table => (checkTable G table).2

/-- The table passes the checks of `SaveGPTData`, and every call that saves it succeeds. -/
def Saves (table : G.Table) : Prop :=
  (checkTable G table).1 = true ∧ io.openForWrite = true ∧
    (∀ place, io.seek place = true ∧ io.write place = true) ∧ io.writeMBRData = true

theorem seekAndWrite_eq_true_iff (place : Place) :
    seekAndWrite G io place = true ↔ io.seek place = true ∧ io.write place = true := by
  cases hseek : io.seek place <;> simp [seekAndWrite, hseek]

/-- `SaveGPTData` returns 1 if and only if nothing fails. -/
theorem saved_eq_true_iff (table : G.Table) :
    (saveGPTData G io table).ok = true ↔ Saves G io table := by
  have hplaces : (∀ place, io.seek place = true ∧ io.write place = true) ↔
      (((io.seek .backupTable = true ∧ io.write .backupTable = true) ∧
        io.seek .backupHeader = true ∧ io.write .backupHeader = true) ∧
        io.seek .mainTable = true ∧ io.write .mainTable = true) ∧
        io.seek .mainHeader = true ∧ io.write .mainHeader = true := by
    constructor
    · intro h
      exact ⟨⟨⟨h .backupTable, h .backupHeader⟩, h .mainTable⟩, h .mainHeader⟩
    · rintro ⟨⟨⟨h₁, h₂⟩, h₃⟩, h₄⟩ place
      cases place with
      | backupTable => exact h₁
      | backupHeader => exact h₂
      | mainTable => exact h₃
      | mainHeader => exact h₄
  rw [Saves, hplaces]
  cases hopen : io.openForWrite with
  | false => simp [saveGPTData, writeTables, hopen]
  | true =>
    simp only [saveGPTData, writeTables, hopen, if_true, Bool.and_eq_true, saveHeader,
      savePartitionTable, seekAndWrite_eq_true_iff, true_and]

/-- A table whose backup header is at the end of the disk is not corrected. -/
theorem checkTable_of_fits (table : G.Table) (hend : G.backupLBA table < G.diskSize table)
    (hlate : (G.diskSize table + 2 ^ 64 - 1) % 2 ^ 64 ≤ G.backupLBA table)
    (hlast : G.lastUsableLBA table ≤ G.backupLBA table) :
    (checkTable G table).2 = G.recomputeCRCs table := by
  have hright : ¬ (G.diskSize table ≤ G.lastUsableLBA table ∨
      G.backupLBA table < G.lastUsableLBA table) := by omega
  rw [checkTable]
  dsimp only
  rw [if_neg (Nat.not_le.2 hend), if_neg (Nat.not_lt.2 hlate), if_neg hright]

theorem clearDisk_table (table : G.Table) :
    (clearDisk G io table).map Save.table =
      (onePartition G table).map fun table => (checkTable G table).2 := by
  rw [clearDisk, Option.map_map]
  rfl

theorem makeEmptyPartition_of_none (h : clearDisk G io io.loadPartitions = none)
    (saves : List (Save G)) : makeEmptyPartition G io saves = (none, saves) := by
  rw [makeEmptyPartition, h]
  rfl

theorem makeEmptyPartition_of_some {save : Save G}
    (h : clearDisk G io io.loadPartitions = some save) (saves : List (Save G)) :
    makeEmptyPartition G io saves =
      (some (!decide (0 < G.verify save.table)), save :: saves) := by
  rw [makeEmptyPartition, h]
  rfl

/-- `makeEmptyPartition` returns what `Verify` says of the new table. -/
theorem makeEmptyPartition_eq (saves : List (Save G)) :
    (makeEmptyPartition G io saves).1 =
      (newTable G io).map fun table => !decide (0 < G.verify table) := by
  rw [newTable, ← clearDisk_table G io]
  cases hclear : clearDisk G io io.loadPartitions with
  | none => rw [makeEmptyPartition_of_none G io hclear]; rfl
  | some save => rw [makeEmptyPartition_of_some G io hclear]; rfl

theorem clearMbrGpt_eq (saves : List (Save G)) :
    clearMbrGpt G io saves =
      (!decide (0 < G.verify (clearedTable G io)),
        saveGPTData G io (G.clearGPTData io.loadPartitions) :: saves) := rfl

/-- `Install` knows of `clearMbrGpt` only how many problems `Verify` counts. -/
theorem clearMbrGpt_eq_disk (os : Disk.Os) (path : String) (s : Disk.System)
    (saves : List (Save G)) (h : os.verify s.calls.length = G.verify (clearedTable G io)) :
    (Disk.clearMbrGpt os path s).1 = (clearMbrGpt G io saves).1 := by
  rw [clearMbrGpt_eq, Disk.clearMbrGpt, h]
  simp only [← decide_not, Int.not_lt]

end GptData

end UsbMaker.Gdisk
