import UsbMaker.Disk.System

/-!
# Handles of drives and volumes

The functions of `gondar.cc` that open a drive or a volume, and those that ask the drive for its
geometry. `GetHandle` and `OldGetHandle` are one function but for the test of `FormatStatus` with
which `OldGetHandle` gives up a lock.

None of these functions moves the file pointer of a file that is already open or writes to a file
(`Quiet`), and what they open is at its beginning (`Fresh`).

## Main definitions

* `Disk.getHandle`, `Disk.oldGetHandle`, `Disk.getLogicalName`, `Disk.getLogicalHandle`.
* `Disk.getDriveSize`, `Disk.getSectorSize`, `Disk.formatShared`.
* `Disk.Opening`: a relation that all of these functions keep.
* `Disk.Quiet`, `Disk.Fresh`.

## Main results

* `Disk.Opening.getLogicalHandle` and the like.
* `Disk.opening_quiet`, `Disk.fresh_openDrive`.
-/

namespace UsbMaker.Disk

open Program

/-- `DRIVE_ACCESS_RETRIES`. -/
def driveAccessRetries : Nat := 150

/-- `DRIVE_ACCESS_TIMEOUT`. -/
def driveAccessTimeout : Nat := 15000

/-- `DRIVE_INDEX_MIN`. -/
def driveIndexMin : Nat := 0x80

/-- `DRIVE_INDEX_MAX`. -/
def driveIndexMax : Nat := 0xC0

/-- The macro `CheckDriveIndex`, on a `DWORD`: the index that is left, `none` for a bad value. -/
def checkDriveIndex (deviceNum : Nat) : Option Nat :=
  let driveIndex := deviceNum % 2 ^ 32
  if driveIndex < driveIndexMin ∨ driveIndexMax < driveIndex then none
  else some (driveIndex - driveIndexMin)

/-- `GetPhysicalName`. -/
def getPhysicalName (deviceNum : Nat) : Option String :=
  (checkDriveIndex deviceNum).map fun driveIndex => "\\\\.\\PHYSICALDRIVE" ++ toString driveIndex

/-- `IS_ERROR`. -/
def isError (status : Nat) : Bool := status / 2 ^ 31 % 2 = 1

/-- The test of a path with which `GetHandle` begins. -/
def isDevicePath (path : String) : Bool :=
  match path.toList with
  | '\\' :: '\\' :: _ :: '\\' :: _ :: _ => true
  | _ => false

/-- The loop of `GetHandle` that opens the drive, with the tries that are left. -/
def openTries (os : Os) (path : String) (writeAccess : Bool) :
    Nat → Bool → StateM System (Option Handle)
  | 0, _ => return none
  | n + 1, writeShare => do
    match ← createFile os path writeAccess (writeAccess && writeShare) with
    | .ok handle => return some handle
    | .error .other => return none
    | .error _ =>
      let i := driveAccessRetries - (n + 1)
      sleep (driveAccessTimeout / driveAccessRetries)
      openTries os path writeAccess n
        (writeShare || decide (i ≠ 0 ∧ writeAccess ∧ driveAccessRetries / 3 < i))

/-- The loop of `GetHandle` that locks the drive, with the tries that are left. With
`checkStatus` it ends when `FormatStatus` is an error. -/
def lockTries (checkStatus : Bool) (os : Os) (handle : Handle) : Nat → StateM System Bool
  | 0 => return false
  | n + 1 => do
    if ← deviceIoControl os handle .lockVolume then return true
    else if checkStatus && isError (← get).formatStatus then return false
    else
      sleep (driveAccessTimeout / driveAccessRetries)
      lockTries checkStatus os handle n

/-- What `GetHandle` and `OldGetHandle` have in common. -/
def openDrive (checkStatus : Bool) (os : Os) (path : Option String)
    (lockDrive writeAccess writeShare : Bool) : StateM System Handle := do
  match path.filter isDevicePath with
  | none => return .invalid
  | some path =>
    match ← openTries os path writeAccess driveAccessRetries writeShare with
    | none => return .invalid
    | some handle =>
      if lockDrive then
        let _ ← deviceIoControl os handle .allowExtendedDasdIo
        if ← lockTries checkStatus os handle driveAccessRetries then return handle
        else safeClosehandle handle
      else return handle

/-- `GetHandle`. -/
def getHandle : Os → Option String → Bool → Bool → Bool → StateM System Handle := openDrive false

/-- `OldGetHandle`. -/
def oldGetHandle : Os → Option String → Bool → Bool → Bool → StateM System Handle :=
  openDrive true

/-- `GetPhysicalHandle`. -/
def getPhysicalHandle (os : Os) (deviceNum : Nat) (lockDrive writeAccess : Bool) :
    StateM System Handle :=
  getHandle os (getPhysicalName deviceNum) lockDrive writeAccess false

/-- What `GetDriveSize` and `GetSectorSize` have in common: the geometry of the drive, `none` when
it cannot be had. -/
def getGeometry (os : Os) (deviceNum : Nat) : StateM System (Option Geometry) := do
  let hPhysical ← getPhysicalHandle os deviceNum false false
  if hPhysical = .invalid then return none
  else
    let result ← geometry os hPhysical
    let _ ← safeClosehandle hPhysical
    return result

/-- `GetDriveSize`. -/
def getDriveSize (os : Os) (deviceNum : Nat) : StateM System Nat := do
  match ← getGeometry os deviceNum with
  | none => return 0
  | some geometry => return geometry.diskSize.toNat

/-- `GetSectorSize`. -/
def getSectorSize (os : Os) (deviceNum : Nat) : StateM System Nat := do
  match ← getGeometry os deviceNum with
  | none => return 0
  | some geometry => return geometry.bytesPerSector.toNat

/-- Whether `_strnicmp` finds `start` at the beginning of `str`. -/
def startsWithIgnoringCase (str start : String) : Bool :=
  (start.toList.map Char.toLower).isPrefixOf (str.toList.map Char.toLower)

/-- `ignore_device`. -/
def ignoreDevice : List String := ["\\Device\\CdRom", "\\Device\\Floppy"]

/-- The tests of `GetLogicalName` before it opens a volume. -/
def Volume.isCandidate (volume : Volume) : Bool :=
  1 < volume.name.length && startsWithIgnoringCase volume.name "\\\\?\\" &&
    volume.name.toList.getLast? == some '\\' &&
    (volume.driveType == .removable || volume.driveType == .fixed) &&
    volume.dosDevice.any fun path =>
      !ignoreDevice.any (startsWithIgnoringCase path)

/-- The loop of `GetLogicalName`. -/
def selectVolume (os : Os) (driveIndex : Nat) (keepTrailingBackslash : Bool) :
    List Volume → StateM System (Option String)
  | [] => return none
  | volume :: volumes => do
    if volume.isCandidate then
      let name := String.ofList volume.name.toList.dropLast
      match ← createFile os name false true with
      | .error _ => selectVolume os driveIndex keepTrailingBackslash volumes
      | .ok hDrive =>
        let extents ← volumeDiskExtents volume hDrive
        let _ ← safeClosehandle hDrive
        if extents.bind List.head? = some driveIndex then
          return some (if keepTrailingBackslash then volume.name else name)
        else selectVolume os driveIndex keepTrailingBackslash volumes
    else selectVolume os driveIndex keepTrailingBackslash volumes

/-- `GetLogicalName`. -/
def getLogicalName (os : Os) (deviceNum : Nat) (keepTrailingBackslash : Bool) :
    StateM System (Option String) := do
  match checkDriveIndex deviceNum with
  | none => return none
  | some driveIndex => selectVolume os driveIndex keepTrailingBackslash (← findVolumes os)

/-- `GetLogicalHandle`. -/
def getLogicalHandle (os : Os) (deviceNum : Nat) (lockDrive writeAccess writeShare : Bool) :
    StateM System Handle := do
  match ← getLogicalName os deviceNum false with
  | none => return .null
  | some path => oldGetHandle os (some path) lockDrive writeAccess writeShare

/-- `UnmountVolume`. -/
def unmountVolume (os : Os) (hDrive : Handle) : StateM System Bool :=
  deviceIoControl os hDrive .dismountVolume

/-- `RefreshDriveLayout`. -/
def refreshDriveLayout (os : Os) (hDrive : Handle) : StateM System Bool :=
  deviceIoControl os hDrive .updateProperties

/-- `clearMbrGpt`. -/
def clearMbrGpt (os : Os) (path : String) : StateM System Bool := fun s =>
  let ok := decide (os.verify s.calls.length ≤ 0)
  (ok, s.record (.clearMbrGpt path ok))

/-- `formatShared`; a null path ends the program in the constructor of a string. -/
def formatShared (os : Os) (path : Option String) : StateM System (Option Bool) := do
  match path with
  | none => return none
  | some path => return some (← clearMbrGpt os path)

/-! ### What opening leaves alone -/

/-- The calls with which drives and volumes are asked and closed. -/
def Call.asks : Call → Bool
  | .closeHandle _ | .geometry .. | .volumes _ | .volumeDiskExtents .. | .sleep _ => true
  | .deviceIoControl _ code _ => code != .dismountVolume
  | _ => false

/-- A relation that `CreateFile` and the calls that ask or close keep. All that opens a drive or a
volume keeps it. -/
structure Opening (os : Os) (R : System → System → Prop) : Prop where
  createFile : ∀ path write share, Keeps R (createFile os path write share)
  asks : ∀ s call, call.asks = true → R s (s.record call)

section Opening

variable {os : Os} {R : System → System → Prop} [Std.Refl R] [IsTrans System R]

theorem keeps_safeClosehandle {handle : Handle} (h : ∀ s, R s (s.record (.closeHandle handle))) :
    Keeps R (safeClosehandle handle) := by
  unfold Disk.safeClosehandle
  cases handle with
  | file n => exact .bind h fun _ => .pure _
  | _ => exact .pure _

variable (h : Opening os R)

include h

theorem Opening.safeClosehandle (handle : Handle) : Keeps R (safeClosehandle handle) :=
  keeps_safeClosehandle fun s => h.asks s _ rfl

omit [Std.Refl R] [IsTrans System R] in
theorem Opening.deviceIoControl (handle : Handle) {code : IoControl}
    (hcode : code ≠ .dismountVolume) : Keeps R (deviceIoControl os handle code) := fun s =>
  h.asks s _ (by simpa [Call.asks] using hcode)

theorem Opening.openTries (path : String) (writeAccess : Bool) (n : Nat) (writeShare : Bool) :
    Keeps R (openTries os path writeAccess n writeShare) := by
  induction n generalizing writeShare with
  | zero => exact .pure _
  | succ n ih =>
    refine .bind (h.createFile _ _ _) fun r => ?_
    split
    · exact .pure _
    · exact .pure _
    · exact .bind (fun s => h.asks s _ rfl) fun _ => ih _

theorem Opening.lockTries (checkStatus : Bool) (handle : Handle) (n : Nat) :
    Keeps R (lockTries checkStatus os handle n) := by
  induction n with
  | zero => exact .pure _
  | succ n ih =>
    refine .bind (h.deviceIoControl _ (by decide)) fun ok => ?_
    split
    · exact .pure _
    · refine .bind (fun s => refl_of R s) fun s₁ => ?_
      split
      · exact .pure _
      · exact .bind (fun s => h.asks s _ rfl) fun _ => ih

theorem Opening.openDrive (checkStatus : Bool) (path : Option String)
    (lockDrive writeAccess writeShare : Bool) :
    Keeps R (openDrive checkStatus os path lockDrive writeAccess writeShare) := by
  rw [Disk.openDrive]
  split
  · exact .pure _
  · refine .bind (h.openTries _ _ _ _) fun r => ?_
    split
    · exact .pure _
    · split
      · refine .bind (h.deviceIoControl _ (by decide)) fun _ => ?_
        refine .bind (h.lockTries _ _ _) fun locked => ?_
        split
        · exact .pure _
        · exact h.safeClosehandle _
      · exact .pure _

theorem Opening.getGeometry (deviceNum : Nat) : Keeps R (getGeometry os deviceNum) := by
  refine .bind (h.openDrive _ _ _ _ _) fun hPhysical => ?_
  split
  · exact .pure _
  · refine .bind (fun s => h.asks s _ rfl) fun _ => ?_
    exact .bind (h.safeClosehandle _) fun _ => .pure _

theorem Opening.getDriveSize (deviceNum : Nat) : Keeps R (getDriveSize os deviceNum) := by
  refine .bind (h.getGeometry _) fun r => ?_
  cases r <;> exact .pure _

theorem Opening.getSectorSize (deviceNum : Nat) : Keeps R (getSectorSize os deviceNum) := by
  refine .bind (h.getGeometry _) fun r => ?_
  cases r <;> exact .pure _

theorem Opening.selectVolume (driveIndex : Nat) (keepTrailingBackslash : Bool)
    (volumes : List Volume) :
    Keeps R (selectVolume os driveIndex keepTrailingBackslash volumes) := by
  induction volumes with
  | nil => exact .pure _
  | cons volume volumes ih =>
    rw [Disk.selectVolume]
    split
    · refine .bind (h.createFile _ _ _) fun r => ?_
      split
      · exact ih
      · refine .bind (fun s => h.asks s _ rfl) fun _ => ?_
        refine .bind (h.safeClosehandle _) fun _ => ?_
        split
        · exact .pure _
        · exact ih
    · exact ih

theorem Opening.getLogicalName (deviceNum : Nat) (keepTrailingBackslash : Bool) :
    Keeps R (getLogicalName os deviceNum keepTrailingBackslash) := by
  rw [Disk.getLogicalName]
  split
  · exact .pure _
  · exact .bind (fun s => h.asks s _ rfl) fun _ => h.selectVolume _ _ _

theorem Opening.getLogicalHandle (deviceNum : Nat) (lockDrive writeAccess writeShare : Bool) :
    Keeps R (getLogicalHandle os deviceNum lockDrive writeAccess writeShare) := by
  refine .bind (h.getLogicalName _ _) fun path => ?_
  split
  · exact .pure _
  · exact h.openDrive _ _ _ _ _

end Opening

/-- The program only makes calls that write nothing, and files opened before keep their file
pointers. -/
structure Quiet (s s' : System) : Prop where
  calls : s.calls <:+ s'.calls
  writes : ∀ handle offset data written, .writeFile handle offset data written ∈ s'.calls →
    .writeFile handle offset data written ∈ s.calls
  position : ∀ n < s.calls.length, s'.position (.file n) = s.position (.file n)

instance : Std.Refl Quiet := ⟨fun _ => ⟨List.suffix_rfl, fun _ _ _ _ h => h, fun _ _ => rfl⟩⟩

instance : IsTrans System Quiet :=
  ⟨fun _ _ _ h h' => ⟨h.calls.trans h'.calls,
    fun _ _ _ _ hmem => h.writes _ _ _ _ (h'.writes _ _ _ _ hmem),
    fun n hn => (h'.position n (hn.trans_le h.calls.length_le)).trans (h.position n hn)⟩⟩

/-- The handle is at the beginning of its file, if it is one of a file. -/
def Fresh (handle : Handle) (s : System) : Prop :=
  ∀ n, handle = .file n → n < s.calls.length ∧ s.position handle = 0

variable {os : Os} {s s' : System} {handle : Handle}

theorem Fresh.quiet (h : Fresh handle s) (hs : Quiet s s') : Fresh handle s' := by
  rintro n rfl
  obtain ⟨hn, hpos⟩ := h n rfl
  exact ⟨hn.trans_le hs.calls.length_le, (hs.position n hn).trans hpos⟩

theorem fresh_invalid : Fresh .invalid s := fun _ h => by cases h

theorem quiet_record {call : Call}
    (h : ∀ handle offset data written, call ≠ .writeFile handle offset data written) :
    Quiet s (s.record call) where
  calls := List.suffix_cons _ _
  writes handle offset data written hmem :=
    (List.mem_cons.mp hmem).resolve_left (h handle offset data written).symm
  position _ _ := rfl

theorem quiet_createFile (path : String) (write share : Bool) :
    Keeps Quiet (createFile os path write share) := by
  intro s
  rw [createFile]
  split
  · exact quiet_record (by simp)
  · refine { quiet_record (by simp) with position := fun n hn => ?_ }
    exact Function.update_of_ne (by simp; omega) _ _

theorem fresh_createFile (path : String) (write share : Bool) :
    Ensures (fun _ => True) (createFile os path write share)
      fun r s => ∀ handle, r = .ok handle → Fresh handle s := by
  intro s _ handle hr
  rw [createFile] at hr ⊢
  split at hr
  · cases hr
  · obtain rfl := Except.ok.inj hr
    intro n hn
    obtain rfl := Handle.file.inj hn
    simp [System.record]

theorem quiet_deviceIoControl (handle : Handle) (code : IoControl) :
    Keeps Quiet (deviceIoControl os handle code) := fun _ => quiet_record (by simp)

theorem quiet_safeClosehandle (handle : Handle) : Keeps Quiet (safeClosehandle handle) :=
  keeps_safeClosehandle fun _ => quiet_record (by simp)

/-- What opens a drive or a volume is quiet. -/
theorem opening_quiet : Opening os Quiet where
  createFile := quiet_createFile
  asks _ call hcall := quiet_record fun _ _ _ _ hwrite => by rw [hwrite] at hcall; cases hcall

theorem fresh_openTries (path : String) (writeAccess : Bool) (n : Nat) (writeShare : Bool) :
    Ensures (fun _ => True) (openTries os path writeAccess n writeShare)
      fun r s => ∀ handle, r = some handle → Fresh handle s := by
  induction n generalizing writeShare with
  | zero =>
    refine .pure fun s _ handle hr => ?_
    cases hr
  | succ n ih =>
    refine .bind (fresh_createFile _ _ _) fun r => ?_
    split
    · refine .pure fun s hs handle hr => ?_
      obtain rfl := Option.some.inj hr
      exact hs _ rfl
    · refine .pure fun s _ handle hr => ?_
      cases hr
    · exact .bind (fun _ _ => trivial) fun _ => ih _

/-- A handle that is returned is at the beginning of its file. -/
theorem fresh_openDrive (checkStatus : Bool) (path : Option String)
    (lockDrive writeAccess writeShare : Bool) :
    Ensures (fun _ => True) (openDrive checkStatus os path lockDrive writeAccess writeShare)
      Fresh := by
  rw [openDrive]
  split
  · exact .pure fun _ _ => fresh_invalid
  · refine .bind (fresh_openTries _ _ _ _) fun r => ?_
    split
    · exact .pure fun _ _ => fresh_invalid
    · rename_i handle
      split
      · refine .bind (Q := fun _ => Fresh handle)
          (fun s hs => (hs handle rfl).quiet (quiet_deviceIoControl _ _ s)) fun _ => ?_
        refine .bind (Q := fun _ => Fresh handle)
          (fun s hs => hs.quiet (opening_quiet.lockTries _ _ _ s)) fun locked => ?_
        split
        · exact .pure fun _ hs => hs
        · cases handle with
          | file n =>
            refine .bind (Q := fun _ _ => True) (fun _ _ => trivial) fun _ => ?_
            exact .pure fun _ _ => fresh_invalid
          | _ => exact .pure fun _ hs => hs
      · exact .pure fun _ hs => hs handle rfl

theorem quiet_formatShared (path : Option String) : Keeps Quiet (formatShared os path) := by
  unfold formatShared
  split
  · exact .pure _
  · exact .bind (fun s => quiet_record (by simp)) fun _ => .pure _

end UsbMaker.Disk
