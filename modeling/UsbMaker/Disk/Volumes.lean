import UsbMaker.Disk.Handles
import UsbMaker.Devices.Enumerate

/-!
# The volume of a disk

Two functions of `gondar.cc` decide which disk a volume belongs to. `GetLogicalName` takes the disk
of the first extent of the volume and does not look at the others; `GetDriveNumber` gives up on a
volume of two extents or more. `Format` passes the volume that `GetLogicalName` selects to
`FormatEx`, also when the rest of it lies on another disk.

`GetLogicalName` returns the first volume of the enumeration that passes its tests, can be opened
and begins on the disk (`getLogicalName_eq`). For that volume, with the answers that
`GetLogicalName` has received, `GetDriveNumber` returns the disk if and only if the volume has one
extent (`oneOwner_iff`).

## Main definitions

* `Disk.openAnswers`, `Disk.firstOn`: the enumeration as `GetLogicalName` sees it.
* `Disk.lastExtents`, `Disk.OneOwner`.

## Main results

* `Disk.getLogicalName_eq`: what `GetLogicalName` returns.
* `Disk.oneOwner_iff`.
-/

namespace UsbMaker.Disk

open Devices (DriveNumber getDriveNumber)
open Program

/-- The volume begins on the disk of the index. -/
def Volume.beginsOn (volume : Volume) (driveIndex : Nat) : Bool :=
  volume.extents.bind List.head? == some driveIndex

/-- The name of a volume without its trailing backslash. -/
def Volume.path (volume : Volume) : String := String.ofList volume.name.toList.dropLast

/-- The volumes of an enumeration, each with whether `GetLogicalName` opens it, when the given
number of calls has been made. An opened volume is asked for its extents and closed. -/
def openAnswers (os : Os) : Nat → List Volume → List (Volume × Bool)
  | _, [] => []
  | calls, volume :: volumes =>
    if volume.isCandidate then
      match os.createFile calls with
      | none => (volume, true) :: openAnswers os (calls + 3) volumes
      | some _ => (volume, false) :: openAnswers os (calls + 1) volumes
    else (volume, false) :: openAnswers os calls volumes

/-- The first volume that is opened and begins on the disk of the index. -/
def firstOn (os : Os) (driveIndex calls : Nat) (volumes : List Volume) : Option Volume :=
  ((openAnswers os calls volumes).find? fun answer =>
    answer.2 && answer.1.beginsOn driveIndex).map Prod.fst

/-! ### What `GetLogicalName` returns -/

section SelectVolume

variable (os : Os) (driveIndex : Nat) (keepTrailingBackslash : Bool) (volume : Volume)
  (volumes : List Volume) (s : System)

theorem selectVolume_skip (h : volume.isCandidate = false) :
    selectVolume os driveIndex keepTrailingBackslash (volume :: volumes) =
      selectVolume os driveIndex keepTrailingBackslash volumes := by
  rw [selectVolume, h]
  rfl

theorem selectVolume_error (h : volume.isCandidate = true) {error : OpenError}
    (hopen : os.createFile s.calls.length = some error) :
    selectVolume os driveIndex keepTrailingBackslash (volume :: volumes) s =
      selectVolume os driveIndex keepTrailingBackslash volumes
        (s.record (.createFile volume.path false true .invalid)) := by
  rw [selectVolume, h]
  simp only [↓reduceIte, bind_apply, createFile, Volume.path]
  rw [hopen]

/-- The state after a volume has been opened, asked for its extents and closed. -/
def System.examine (s : System) (volume : Volume) : System :=
  { s with
    position := Function.update s.position (.file s.calls.length) 0
    calls := .closeHandle (.file s.calls.length) ::
      .volumeDiskExtents (.file s.calls.length) volume.extents ::
      .createFile volume.path false true (.file s.calls.length) :: s.calls }

theorem selectVolume_ok (h : volume.isCandidate = true)
    (hopen : os.createFile s.calls.length = none) :
    selectVolume os driveIndex keepTrailingBackslash (volume :: volumes) s =
      if volume.beginsOn driveIndex then
        (some (if keepTrailingBackslash then volume.name else volume.path), s.examine volume)
      else selectVolume os driveIndex keepTrailingBackslash volumes (s.examine volume) := by
  rw [selectVolume, h]
  simp only [↓reduceIte, bind_apply, createFile]
  rw [hopen]
  simp only [volumeDiskExtents, safeClosehandle, closeHandle, bind_apply]
  by_cases hb : volume.extents.bind List.head? = some driveIndex
  · have hb' : volume.beginsOn driveIndex = true := by simpa [Volume.beginsOn] using hb
    simp only [hb, hb', ↓reduceIte]
    rfl
  · have hb' : volume.beginsOn driveIndex = false := by simpa [Volume.beginsOn] using hb
    simp only [hb, hb', Bool.false_eq_true, ↓reduceIte]
    rfl

end SelectVolume

/-- What the loop of `GetLogicalName` returns, and the last calls it has made. -/
theorem selectVolume_eq (os : Os) (driveIndex : Nat) (keepTrailingBackslash : Bool)
    (volumes : List Volume) (s : System) :
    (selectVolume os driveIndex keepTrailingBackslash volumes s).1 =
        (firstOn os driveIndex s.calls.length volumes).map (fun volume =>
          if keepTrailingBackslash then volume.name else volume.path) ∧
      ∀ volume, firstOn os driveIndex s.calls.length volumes = some volume →
        volume.beginsOn driveIndex = true ∧
          ∃ s₁, (selectVolume os driveIndex keepTrailingBackslash volumes s).2 =
            System.examine s₁ volume := by
  induction volumes generalizing s with
  | nil => exact ⟨rfl, fun volume h => by cases h⟩
  | cons volume volumes ih =>
    cases hcand : volume.isCandidate with
    | false =>
      have hfirst : firstOn os driveIndex s.calls.length (volume :: volumes) =
          firstOn os driveIndex s.calls.length volumes := by
        simp [firstOn, openAnswers, hcand]
      rw [selectVolume_skip os driveIndex keepTrailingBackslash volume volumes hcand, hfirst]
      exact ih s
    | true =>
      cases hopen : os.createFile s.calls.length with
      | some error =>
        have hfirst : firstOn os driveIndex s.calls.length (volume :: volumes) =
            firstOn os driveIndex (s.calls.length + 1) volumes := by
          simp [firstOn, openAnswers, hcand, hopen]
        rw [selectVolume_error os driveIndex keepTrailingBackslash volume volumes s hcand hopen,
          hfirst]
        exact ih _
      | none =>
        rw [selectVolume_ok os driveIndex keepTrailingBackslash volume volumes s hcand hopen]
        cases hb : volume.beginsOn driveIndex with
        | true =>
          have hfirst : firstOn os driveIndex s.calls.length (volume :: volumes) = some volume := by
            simp [firstOn, openAnswers, hcand, hopen, hb]
          rw [hfirst]
          refine ⟨rfl, fun other hother => ?_⟩
          obtain rfl := Option.some.inj hother
          exact ⟨hb, s, rfl⟩
        | false =>
          have hfirst : firstOn os driveIndex s.calls.length (volume :: volumes) =
              firstOn os driveIndex (s.calls.length + 3) volumes := by
            simp [firstOn, openAnswers, hcand, hopen, hb]
          rw [hfirst]
          exact ih (s.examine volume)

/-- The volume that `GetLogicalName` selects when it is called in a state. -/
def selected (os : Os) (deviceNum : Nat) (s : System) : Option Volume :=
  (checkDriveIndex deviceNum).bind fun driveIndex =>
    firstOn os driveIndex (s.calls.length + 1) (os.volumes s.calls.length)

/-- `GetLogicalName` returns the name of the volume it selects, which begins on the disk; the last
thing it has done is to ask this volume for its extents and to close it. -/
theorem getLogicalName_eq (os : Os) (deviceNum : Nat) (keepTrailingBackslash : Bool) (s : System) :
    (getLogicalName os deviceNum keepTrailingBackslash s).1 =
        (selected os deviceNum s).map (fun volume =>
          if keepTrailingBackslash then volume.name else volume.path) ∧
      ∀ volume, selected os deviceNum s = some volume →
        (∃ driveIndex, checkDriveIndex deviceNum = some driveIndex ∧
          volume.beginsOn driveIndex = true) ∧
        ∃ s₁, (getLogicalName os deviceNum keepTrailingBackslash s).2 =
          System.examine s₁ volume := by
  cases hcheck : checkDriveIndex deviceNum with
  | none => simp [getLogicalName, selected, hcheck, pure_apply]
  | some driveIndex =>
    have hname : getLogicalName os deviceNum keepTrailingBackslash s =
        selectVolume os driveIndex keepTrailingBackslash (os.volumes s.calls.length)
          (s.record (.volumes (os.volumes s.calls.length))) := by
      rw [getLogicalName, hcheck]
      rfl
    have hsel : selected os deviceNum s =
        firstOn os driveIndex (s.record (.volumes (os.volumes s.calls.length))).calls.length
          (os.volumes s.calls.length) := by
      rw [selected, hcheck]
      rfl
    obtain ⟨hresult, hlast⟩ := selectVolume_eq os driveIndex keepTrailingBackslash
      (os.volumes s.calls.length) (s.record (.volumes (os.volumes s.calls.length)))
    rw [hname, hsel]
    refine ⟨hresult, fun volume hvolume => ?_⟩
    obtain ⟨hbegins, hend⟩ := hlast volume hvolume
    exact ⟨⟨driveIndex, rfl, hbegins⟩, hend⟩

/-! ### Two answers to the same question -/

/-- The last answer to a query for the extents of a volume. -/
def lastExtents (calls : List Call) : Option (List Nat) :=
  (calls.findSome? fun call =>
    match call with
    | .volumeDiskExtents _ result => some result
    | _ => none).join

/-- What `GetDriveNumber` is told about a volume of the given extents. -/
def driveNumberAnswers (extents : Option (List Nat)) (deviceNumber : Option UInt32) : DriveNumber :=
  ⟨extents.map fun disks => disks.map UInt32.ofNat, deviceNumber⟩

/-- If `GetLogicalName` returns a volume, then `GetDriveNumber`, given the extents of the volume as
`GetLogicalName` was and whatever else it is told, returns the number of the disk, and the volume
lies on this disk only. -/
def OneOwner (os : Os) (deviceNum : Nat) (keepTrailingBackslash : Bool) (s : System) : Prop :=
  ∀ name, (getLogicalName os deviceNum keepTrailingBackslash s).1 = some name →
    (∀ deviceNumber, getDriveNumber (driveNumberAnswers
        (lastExtents (getLogicalName os deviceNum keepTrailingBackslash s).2.calls) deviceNumber) =
      (deviceNum : Int) - driveIndexMin) ∧
    lastExtents (getLogicalName os deviceNum keepTrailingBackslash s).2.calls =
      some [deviceNum - driveIndexMin]

theorem lastExtents_examine (s : System) (volume : Volume) :
    lastExtents (s.examine volume).calls = volume.extents := by
  simp [lastExtents, System.examine]

/-- `GetDriveNumber` for a volume that begins on a disk in the range of the indices. -/
theorem getDriveNumber_eq_iff {driveIndex : Nat} (hlt : driveIndex < driveIndexMax - driveIndexMin)
    {extents : List Nat} (hbegins : extents.head? = some driveIndex)
    (deviceNumber : Option UInt32) :
    getDriveNumber (driveNumberAnswers (some extents) deviceNumber) = driveIndex ↔
      extents.length = 1 := by
  obtain ⟨rest, rfl⟩ : ∃ rest, extents = driveIndex :: rest := by
    cases extents with
    | nil => cases hbegins
    | cons disk rest => exact ⟨rest, by rw [Option.some.inj hbegins]⟩
  have hmax : driveIndexMax - driveIndexMin = 64 := rfl
  rw [hmax] at hlt
  cases rest with
  | nil =>
    have hint : (driveIndex : Int).bmod Int32.size = driveIndex := by
      rw [Int.bmod_def, Int32.size]
      omega
    have hnumber : (UInt32.ofNat driveIndex).toInt32.toInt = driveIndex := by simpa using hint
    have hsmall : ¬ ((driveIndexMax - driveIndexMin : Nat) : Int) ≤ driveIndex := by omega
    simp only [driveNumberAnswers, Option.map_some, List.map_cons, List.map_nil, getDriveNumber,
      hnumber, if_neg hsmall, List.length_singleton]
  | cons disk rest =>
    simp only [driveNumberAnswers, Option.map_some, List.map_cons, getDriveNumber, List.length_cons]
    omega

/-- **The condition under which a selected volume has one owner.** For every index of a drive and
every enumeration of volumes, `GetDriveNumber` says of the volume that `GetLogicalName` returns that
it is on the drive, and the volume lies on the drive only, if and only if the first volume of the
enumeration that passes the tests, can be opened and begins on the drive has one extent. -/
theorem oneOwner_iff (os : Os) (deviceNum : Nat) (keepTrailingBackslash : Bool) (s : System)
    (hmin : driveIndexMin ≤ deviceNum) (hmax : deviceNum < driveIndexMax) :
    OneOwner os deviceNum keepTrailingBackslash s ↔
      ∀ volume, firstOn os (deviceNum - driveIndexMin) (s.calls.length + 1)
          (os.volumes s.calls.length) = some volume →
        (volume.extents.getD []).length = 1 := by
  have hcheck : checkDriveIndex deviceNum = some (deviceNum - driveIndexMin) := by
    have hmod : deviceNum % 2 ^ 32 = deviceNum := by
      rw [driveIndexMax] at hmax
      omega
    rw [checkDriveIndex, hmod]
    exact if_neg (by omega)
  have hsel : selected os deviceNum s =
      firstOn os (deviceNum - driveIndexMin) (s.calls.length + 1) (os.volumes s.calls.length) := by
    rw [selected, hcheck]
    rfl
  obtain ⟨hname, hlast⟩ := getLogicalName_eq os deviceNum keepTrailingBackslash s
  rw [← hsel]
  cases hvolume : selected os deviceNum s with
  | none =>
    rw [hvolume] at hname
    constructor
    · intro _ volume h
      cases h
    · intro _ name h
      rw [hname] at h
      cases h
  | some volume =>
    obtain ⟨⟨driveIndex, hindex, hbegins⟩, s₁, hs₁⟩ := hlast volume hvolume
    obtain rfl : deviceNum - driveIndexMin = driveIndex :=
      Option.some.inj (hcheck.symm.trans hindex)
    obtain ⟨extents, hextents, hhead⟩ : ∃ extents, volume.extents = some extents ∧
        extents.head? = some (deviceNum - driveIndexMin) := by
      rw [Volume.beginsOn, beq_iff_eq] at hbegins
      exact Option.bind_eq_some_iff.mp hbegins
    have hlt : deviceNum - driveIndexMin < driveIndexMax - driveIndexMin := by omega
    have hiff := getDriveNumber_eq_iff hlt hhead
    have hcast : ((deviceNum - driveIndexMin : Nat) : Int) = (deviceNum : Int) - driveIndexMin := by
      omega
    rw [hcast] at hiff
    have hone : extents.length = 1 → extents = [deviceNum - driveIndexMin] := by
      intro hlen
      obtain ⟨disk, rfl⟩ := List.length_eq_one_iff.mp hlen
      rw [Option.some.inj hhead]
    simp only [OneOwner, hname, hvolume, hs₁, lastExtents_examine, hextents, Option.map_some,
      hiff, Option.some.injEq, forall_const, forall_eq', Option.getD_some]
    exact ⟨fun h => h.1, fun h => ⟨h, hone h⟩⟩

/-- A machine with one volume of the given extents. -/
def oneVolume (extents : List Nat) : Os where
  createFile _ := none
  deviceIoControl _ := true
  geometry _ := none
  volumes _ := [⟨"\\\\?\\Volume\\", .removable, some "\\Device\\HarddiskVolume1", some extents⟩]
  verify _ := 0
  mmMalloc _ := none
  setFilePointerEx _ := true
  readFile _ := true
  writeFile _ := none

theorem oneOwner_iff_one_extent :
    (getLogicalName (oneVolume [1]) 0x81 false {}).1 = some "\\\\?\\Volume" ∧
      OneOwner (oneVolume [1]) 0x81 false {} := by
  refine ⟨by decide +kernel, ?_⟩
  refine (oneOwner_iff (oneVolume [1]) 0x81 false {} (by decide) (by decide)).mpr ?_
  decide +kernel

/-- A volume that begins on the disk and goes on on another one is selected. -/
theorem spanned_volume_is_selected :
    (getLogicalName (oneVolume [1, 2]) 0x81 false {}).1 = some "\\\\?\\Volume" ∧
      getDriveNumber (driveNumberAnswers (some [1, 2]) none) = -1 ∧
      ¬ OneOwner (oneVolume [1, 2]) 0x81 false {} := by
  have hname : (getLogicalName (oneVolume [1, 2]) 0x81 false {}).1 = some "\\\\?\\Volume" := by
    decide +kernel
  have hextents : lastExtents (getLogicalName (oneVolume [1, 2]) 0x81 false {}).2.calls =
      some [1, 2] := by
    decide +kernel
  refine ⟨hname, by decide, fun howner => ?_⟩
  have hone := (howner _ hname).2
  rw [hextents] at hone
  exact absurd hone (by decide)

end UsbMaker.Disk
