import UsbMaker.Disk.Gdisk
import UsbMaker.Disk.Volumes
import UsbMaker.Wizard.Pages

/-!
# Formatting a disk

`Format` of `gondar.cc` clears the partition table of a disk, makes one partition, looks for a
volume of the disk and calls `FormatEx` on it. It returns what `makeEmptyPartition` returns, which
is what `Verify` says of a table in memory, if it returns at all. Whether the two tables were saved
is not asked, nor whether a volume was found: `FormatEx` is then called with a null path.

That `Format` returns true means that both tables were saved and that `FormatEx` was called on a
volume of the disk if and only if none of these steps fails while `Verify` finds nothing
(`formatted_iff`). A disk that can be read and not be written is reported as formatted
(`success_on_read_only_disk`).

## Main definitions

* `Disk.makeFilesystem`, `Disk.format`, `Disk.formatDrive`.
* `Disk.Formatted`: what it means that a disk was formatted.

## Main results

* `Disk.format_eq_some_true_iff`: when `Format` returns true.
* `Disk.formatted_iff`.
-/

namespace UsbMaker.Disk

open Gdisk (GptData Answers Save Saves clearedTable newTable)
open Program Wizard

/-- The library `fmifs.dll`. -/
structure Fmifs where
  /-- `LoadLibraryA` finds it. -/
  loads : Bool
  /-- `GetProcAddress` finds `FormatEx` in it. -/
  hasFormatEx : Bool
  deriving DecidableEq, Repr

/-- The state that `Format` works on. -/
structure FormatRun (G : GptData) where
  disk : System := {}
  /-- The calls of `SaveGPTData`, newest first. -/
  saves : List (Save G) := []
  /-- The paths with which `FormatEx` was called, newest first; `none` is a null path. -/
  formatted : List (Option String) := []

section Format

variable (G : GptData)

/-- A part of `Format` that saves a partition table. -/
def onSaves {α : Type} (x : StateM (List (Save G)) α) : StateM (FormatRun G) α := fun s =>
  ((x s.saves).1, { s with saves := (x s.saves).2 })

/-- A part of `Format` that calls Windows. -/
def onDisk {α : Type} (x : StateM System α) : StateM (FormatRun G) α := fun s =>
  ((x s.disk).1, { s with disk := (x s.disk).2 })

/-- `utf8_to_wchar`, which returns null for a null or an empty string. -/
def utf8ToWchar (str : Option String) : Option String := str.filter fun str => str ≠ ""

/-- `makeFilesystem`. `none` means that the call does not return: it goes through a null pointer
when `FormatEx` has not been found. -/
def makeFilesystem (fmifs : Fmifs) (logicalPath : Option String) :
    StateM (FormatRun G) (Option Unit) := do
  let pfFormatEx := fmifs.loads && fmifs.hasFormatEx
  if pfFormatEx then
    modify fun s => { s with formatted := utf8ToWchar logicalPath :: s.formatted }
    return some ()
  else return none

variable (os : Os) (clear create : Answers G) (fmifs : Fmifs) (targetDevice : DeviceGuy)

/-- `Format`, with the answers of the disk to `clearMbrGpt` and to `makeEmptyPartition`. `none`
means that the call does not return; a null path ends the program in the constructor of a
string. -/
def format : StateM (FormatRun G) (Option Bool) := do
  let deviceNum := targetDevice.deviceNum
  match getPhysicalName deviceNum with
  | none => return none
  | some _ =>
    let ret ← onSaves G (Gdisk.clearMbrGpt G clear)
    if !ret then return some ret
    else
      match ← onSaves G (Gdisk.makeEmptyPartition G create) with
      | none => return none
      | some ret =>
        let logicalPath ← onDisk G (getLogicalName os deviceNum false)
        match ← makeFilesystem G fmifs logicalPath with
        | none => return none
        | some () => return some ret

/-- `DiskWriteThread::formatDrive`: the state of the thread after it. -/
def formatDrive : StateM (FormatRun G) DiskState := do
  match ← format G os clear create fmifs targetDevice with
  | none => return .running
  | some false => return .installFailed
  | some true => return .success

theorem formatDrive_eq_success_iff (s : FormatRun G) :
    (formatDrive G os clear create fmifs targetDevice s).1 = .success ↔
      (format G os clear create fmifs targetDevice s).1 = some true := by
  rw [formatDrive, bind_apply]
  rcases (format G os clear create fmifs targetDevice s).1 with _ | _ | _ <;>
    simp [pure_apply]

/-! ### The volume that is formatted -/

theorem mem_of_mem_openAnswers {os : Os} {calls : Nat} {volumes : List Volume} {volume : Volume}
    (h : (volume, true) ∈ openAnswers os calls volumes) :
    volume ∈ volumes ∧ volume.isCandidate = true := by
  induction volumes generalizing calls with
  | nil => cases h
  | cons first volumes ih =>
    have hrest : ∀ {calls}, (volume, true) ∈ openAnswers os calls volumes →
        volume ∈ first :: volumes ∧ volume.isCandidate = true := fun h =>
      ⟨List.mem_cons_of_mem _ (ih h).1, (ih h).2⟩
    rw [openAnswers] at h
    split at h
    · rename_i hcand
      split at h
      · rcases List.mem_cons.mp h with heq | hmem
        · obtain ⟨rfl, -⟩ := Prod.mk.inj heq
          exact ⟨List.mem_cons_self, hcand⟩
        · exact hrest hmem
      · rcases List.mem_cons.mp h with heq | hmem
        · cases (Prod.mk.inj heq).2
        · exact hrest hmem
    · rcases List.mem_cons.mp h with heq | hmem
      · cases (Prod.mk.inj heq).2
      · exact hrest hmem

/-- The volume that `GetLogicalName` selects is one of the enumeration that passes its tests. -/
theorem mem_of_selected {os : Os} {deviceNum : Nat} {s : System} {volume : Volume}
    (h : selected os deviceNum s = some volume) :
    volume ∈ os.volumes s.calls.length ∧ volume.isCandidate = true := by
  obtain ⟨driveIndex, -, hfirst⟩ := Option.bind_eq_some_iff.mp h
  obtain ⟨⟨volume', opened⟩, hfind, rfl⟩ := Option.map_eq_some_iff.mp hfirst
  obtain ⟨rfl, -⟩ : opened = true ∧ volume'.beginsOn driveIndex = true := by
    have hfound := List.find?_some hfind
    simpa only [Bool.and_eq_true] using hfound
  exact mem_of_mem_openAnswers (List.mem_of_find?_eq_some hfind)

/-- The name of a volume that passes the tests has more than the backslash at its end. -/
theorem path_ne_empty {volume : Volume} (h : volume.isCandidate = true) : volume.path ≠ "" := by
  intro hpath
  have hstart : startsWithIgnoringCase volume.name "\\\\?\\" = true := by
    simp only [Volume.isCandidate, Bool.and_eq_true] at h
    exact h.1.1.1.2
  have hlen : 4 ≤ volume.name.toList.length := by
    have hinit := List.isPrefixOf_iff_prefix.mp hstart
    simpa using hinit.length_le
  have hdrop : volume.name.toList.dropLast.length = 0 := by
    rw [Volume.path] at hpath
    have := congrArg (fun str => str.toList.length) hpath
    simpa using this
  rw [List.length_dropLast] at hdrop
  omega

theorem utf8ToWchar_getLogicalName (deviceNum : Nat) (s : System) :
    utf8ToWchar (getLogicalName os deviceNum false s).1 =
      (selected os deviceNum s).map Volume.path := by
  rw [(getLogicalName_eq os deviceNum false s).1]
  cases hsel : selected os deviceNum s with
  | none => rfl
  | some volume =>
    have hne := path_ne_empty (mem_of_selected hsel).2
    simp [utf8ToWchar, hne]

/-! ### What it means that `Format` returns true -/

/-- `Format` after it has found the path of the disk. -/
theorem format_eq {path : String} (hpath : getPhysicalName targetDevice.deviceNum = some path)
    (s : FormatRun G) :
    format G os clear create fmifs targetDevice s =
      if 0 < G.verify (clearedTable G clear) then
        (some false, { s with
          saves := Gdisk.saveGPTData G clear (G.clearGPTData clear.loadPartitions) :: s.saves })
      else
        match Gdisk.clearDisk G create create.loadPartitions with
        | none => (none, { s with
            saves := Gdisk.saveGPTData G clear (G.clearGPTData clear.loadPartitions) :: s.saves })
        | some save =>
          let t : FormatRun G := { s with
            disk := (getLogicalName os targetDevice.deviceNum false s.disk).2
            saves := save ::
              Gdisk.saveGPTData G clear (G.clearGPTData clear.loadPartitions) :: s.saves }
          if fmifs.loads = true ∧ fmifs.hasFormatEx = true then
            (some (!decide (0 < G.verify save.table)), { t with
              formatted := (selected os targetDevice.deviceNum s.disk).map Volume.path ::
                s.formatted })
          else (none, t) := by
  have hret : (onSaves G (Gdisk.clearMbrGpt G clear) s).1 =
      !decide (0 < G.verify (clearedTable G clear)) := rfl
  have hmake : ∀ logicalPath t, makeFilesystem G fmifs logicalPath t =
      if fmifs.loads = true ∧ fmifs.hasFormatEx = true then
        (some (), { t with formatted := utf8ToWchar logicalPath :: t.formatted })
      else (none, t) := by
    intro logicalPath t
    rw [makeFilesystem]
    cases fmifs.loads <;> cases fmifs.hasFormatEx <;> rfl
  rw [← utf8ToWchar_getLogicalName, format]
  simp only [hpath, bind_apply]
  by_cases hverify : 0 < G.verify (clearedTable G clear)
  · rw [if_pos (by simpa [hret] using hverify), if_pos hverify, hret, decide_eq_true hverify]
    rfl
  · rw [if_neg (by simpa [hret] using hverify), if_neg hverify]
    simp only [bind_apply, onSaves]
    cases hclear : Gdisk.clearDisk G create create.loadPartitions with
    | none =>
      rw [Gdisk.makeEmptyPartition_of_none G create hclear]
      rfl
    | some save =>
      rw [Gdisk.makeEmptyPartition_of_some G create hclear]
      simp only [bind_apply, hmake]
      split <;> rfl

/-- `Format` returns true when the path of the disk and `FormatEx` are found, a segment is found for
the partition and `Verify` finds no problem in the tables in memory. -/
theorem format_eq_some_true_iff (s : FormatRun G) :
    (format G os clear create fmifs targetDevice s).1 = some true ↔
      (getPhysicalName targetDevice.deviceNum).isSome = true ∧ fmifs.loads = true ∧
        fmifs.hasFormatEx = true ∧ G.verify (clearedTable G clear) ≤ 0 ∧
        ∃ table, newTable G create = some table ∧ G.verify table ≤ 0 := by
  cases hpath : getPhysicalName targetDevice.deviceNum with
  | none => simp [format, hpath, pure_apply]
  | some path =>
    rw [format_eq G os clear create fmifs targetDevice hpath, newTable, ← Gdisk.clearDisk_table]
    by_cases hverify : 0 < G.verify (clearedTable G clear)
    · simp [hverify, Int.not_le.mpr hverify]
    · rw [if_neg hverify]
      cases hclear : Gdisk.clearDisk G create create.loadPartitions with
      | none => simp
      | some save =>
        by_cases hfound : fmifs.loads = true ∧ fmifs.hasFormatEx = true
        · simp [hfound, Int.not_lt.mp hverify]
        · simp only [if_neg hfound, reduceCtorEq, false_iff]
          exact fun h => hfound ⟨h.2.1, h.2.2.1⟩

/-- In the step from `s` to `t` the disk was formatted: the cleared table and the table with one
partition were saved, and `FormatEx` was called on a volume of the enumeration that begins on the
disk. -/
structure Formatted (s t : FormatRun G) : Prop where
  saved : ∃ table, newTable G create = some table ∧
    t.saves = ⟨table, true⟩ :: ⟨clearedTable G clear, true⟩ :: s.saves
  volume : ∃ volume ∈ os.volumes s.disk.calls.length, ∃ driveIndex,
    checkDriveIndex targetDevice.deviceNum = some driveIndex ∧
      volume.beginsOn driveIndex = true ∧ t.formatted = some volume.path :: s.formatted

/-- **The condition under which a disk that is reported as formatted was formatted.** For every
device and all answers of the disk, of Windows and of `fmifs.dll`, it is that the disk was formatted
whenever `Format` returns true if and only if, where the path of the disk and `FormatEx` are found,
a segment is found for the partition and `Verify` finds no problem in the two tables in memory, the
tables pass the checks of `SaveGPTData`, every call that saves them succeeds, and a volume of the
disk is found. -/
theorem formatted_iff (s : FormatRun G) :
    ((format G os clear create fmifs targetDevice s).1 = some true →
        Formatted G os clear create targetDevice s
          (format G os clear create fmifs targetDevice s).2) ↔
      ((getPhysicalName targetDevice.deviceNum).isSome = true ∧ fmifs.loads = true ∧
          fmifs.hasFormatEx = true ∧ G.verify (clearedTable G clear) ≤ 0 ∧
          (∃ table, newTable G create = some table ∧ G.verify table ≤ 0) →
        Saves G clear (G.clearGPTData clear.loadPartitions) ∧
          (∃ table, Gdisk.onePartition G create.loadPartitions = some table ∧
            Saves G create table) ∧
          (selected os targetDevice.deviceNum s.disk).isSome = true) := by
  rw [format_eq_some_true_iff]
  refine imp_congr_right fun htrue => ?_
  obtain ⟨hpath, hloads, hhas, hcleared, new, hnewTable, -⟩ := htrue
  obtain ⟨path, hpath⟩ := Option.isSome_iff_exists.mp hpath
  obtain ⟨table, hone, rfl⟩ := Option.map_eq_some_iff.mp hnewTable
  have hclear : Gdisk.clearDisk G create create.loadPartitions =
      some (Gdisk.saveGPTData G create table) := by
    rw [Gdisk.clearDisk, hone]
    rfl
  rw [format_eq G os clear create fmifs targetDevice hpath, if_neg (Int.not_lt.mpr hcleared),
    hclear]
  simp only [hloads, hhas, and_self, if_true]
  rw [← Gdisk.saved_eq_true_iff]
  constructor
  · rintro ⟨⟨_, hnew, hsaved⟩, volume, -, driveIndex, -, -, hformatted⟩
    obtain ⟨hcreated, hrest⟩ := List.cons.inj hsaved
    obtain ⟨hclearSaved, -⟩ := List.cons.inj hrest
    obtain ⟨hvolume, -⟩ := List.cons.inj hformatted
    obtain ⟨volume', hsel, -⟩ := Option.map_eq_some_iff.mp hvolume
    exact ⟨congrArg Save.ok hclearSaved, ⟨table, hone,
      (Gdisk.saved_eq_true_iff G create table).mp (congrArg Save.ok hcreated)⟩, by rw [hsel]; rfl⟩
  · rintro ⟨hclearSaved, ⟨table', hone', hsaves⟩, hsel⟩
    obtain rfl := Option.some.inj (hone.symm.trans hone')
    have hcreated := (Gdisk.saved_eq_true_iff G create table).mpr hsaves
    obtain ⟨volume, hsel⟩ := Option.isSome_iff_exists.mp hsel
    obtain ⟨⟨driveIndex, hindex, hbegins⟩, -⟩ :=
      (getLogicalName_eq os targetDevice.deviceNum false s.disk).2 volume hsel
    refine ⟨⟨_, hnewTable, congrArg₂ List.cons ?_ (congrArg₂ List.cons ?_ rfl)⟩,
      volume, (mem_of_selected hsel).1, driveIndex, hindex, hbegins, by rw [hsel]; rfl⟩
    · exact congrArg (Save.mk _) hcreated
    · exact congrArg (Save.mk (clearedTable G clear)) hclearSaved

end Format

/-! ### A disk that cannot be written -/

/-- A partition table of 128 entries in sectors of 512 bytes, with at most one partition. -/
structure OneEntry where
  diskSize : Nat
  backupLBA : Nat
  lastUsableLBA : Nat
  /-- The first and the last sector of the partition. -/
  partition : Option (Nat × Nat)
  deriving DecidableEq, Repr

namespace OneEntry

def moveSecondHeaderToEnd (table : OneEntry) : OneEntry :=
  { table with backupLBA := table.diskSize - 1, lastUsableLBA := table.diskSize - 34 }

def checkGPTSize (table : OneEntry) : Nat :=
  match table.partition with
  | none => 0
  | some (first, last) =>
    (if first < 34 then 1 else 0) + if table.lastUsableLBA < last then 1 else 0

def findInsanePartitions (table : OneEntry) : Nat :=
  match table.partition with
  | none => 0
  | some (first, last) =>
    (if last < first then 1 else 0) + if table.diskSize ≤ last then 1 else 0

def verify (table : OneEntry) : Nat :=
  (if table.backupLBA ≠ table.diskSize - 1 then 1 else 0) +
    (if table.diskSize ≤ table.backupLBA then 1 else 0) +
    (if table.backupLBA < table.lastUsableLBA + 33 then 1 else 0) +
    (if table.diskSize ≤ table.lastUsableLBA ∨ table.backupLBA < table.lastUsableLBA then 1
      else 0) + table.findInsanePartitions + table.checkGPTSize

/-- `Align`, on a disk without partitions. -/
def align (table : OneEntry) (sector : Nat) : Nat :=
  if sector % 2048 = 0 then sector
  else if 34 ≤ sector / 2048 * 2048 then sector / 2048 * 2048
  else if sector / 2048 * 2048 + 2048 ≤ table.lastUsableLBA then sector / 2048 * 2048 + 2048
  else sector

end OneEntry

/-- `GPTData` on these tables; a partition is only made on a disk that has none. -/
def oneEntry : GptData where
  Table := OneEntry
  justLooking _ := false
  diskSize := OneEntry.diskSize
  backupLBA := OneEntry.backupLBA
  lastUsableLBA := OneEntry.lastUsableLBA
  moveSecondHeaderToEnd := OneEntry.moveSecondHeaderToEnd
  recomputeCRCs table := table
  clearGPTData table := { table.moveSecondHeaderToEnd with partition := none }
  checkGPTSize table := table.checkGPTSize
  findOverlaps _ := 0
  findInsanePartitions table := table.findInsanePartitions
  verify table := table.verify
  findFirstInLargest table := some (if 34 ≤ table.lastUsableLBA then 34 else 0)
  align := OneEntry.align
  findLastInFree table _ := table.lastUsableLBA
  createPartition table _ first last := { table with partition := some (first, last) }
  setPartition table first last := { table with partition := some (first, last) }

/-- A disk of 65536 sectors that can be read and not be written. -/
def readOnly : Answers oneEntry where
  loadPartitions := ⟨65536, 65535, 65502, none⟩
  openForWrite := false
  seek _ := false
  write _ := false
  writeMBRData := false

/-- A disk that cannot be written is reported as formatted. -/
theorem success_on_read_only_disk :
    (formatDrive oneEntry (oneVolume [1]) readOnly readOnly ⟨true, true⟩
        ⟨0x81, "stick", 33554432⟩ {}).1 = .success ∧
      ¬ ((format oneEntry (oneVolume [1]) readOnly readOnly ⟨true, true⟩
          ⟨0x81, "stick", 33554432⟩ {}).1 = some true →
        Formatted oneEntry (oneVolume [1]) readOnly readOnly ⟨0x81, "stick", 33554432⟩ {}
          (format oneEntry (oneVolume [1]) readOnly readOnly ⟨true, true⟩
            ⟨0x81, "stick", 33554432⟩ {}).2) := by
  have hreturns : (format oneEntry (oneVolume [1]) readOnly readOnly ⟨true, true⟩
      ⟨0x81, "stick", 33554432⟩ {}).1 = some true := by
    decide +kernel
  have hsaves : (format oneEntry (oneVolume [1]) readOnly readOnly ⟨true, true⟩
      ⟨0x81, "stick", 33554432⟩ {}).2.saves.map Save.ok = [false, false] := by
    decide +kernel
  refine ⟨(formatDrive_eq_success_iff ..).mpr hreturns, fun hformatted => ?_⟩
  obtain ⟨table, -, htable⟩ := (hformatted hreturns).saved
  have hsaved := congrArg (List.map Save.ok) htable
  rw [hsaves] at hsaved
  exact Bool.false_ne_true (List.cons.inj hsaved).1

end UsbMaker.Disk
