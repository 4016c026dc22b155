import UsbMaker.Disk.Locks

/-!
# Calling `Install` again

`Install` closes its handles so that it may be called again within the same run. What an earlier
call leaves behind is `FormatStatus`: `WriteDrive` sets it when it fails, nothing sets it back, and
`OldGetHandle` takes an error in it for a user who has given up when the volume cannot be locked in
the first try. This file compares each `Install` of a run with an `Install` in which `FormatStatus`
has its initial value, and proves that they are the same exactly when this is not so.

## Main definitions

* `Disk.Request`, `Disk.installs`: a run of calls of `Install`.
* `Disk.Independent`: a call returns the same and makes the same calls as one in a new process.
* `Disk.GivesUp`: the state in which it does not.

## Main results

* `Disk.respects_writeDrive` and the like: only the lock of the volume depends on `FormatStatus`.
* `Disk.independent_iff`, `Disk.installs_independent_iff`.
-/

namespace UsbMaker.Disk

open Program

/-- The arguments of `Install`, with the bytes of the file at the path. -/
structure Request where
  targetDevice : DeviceGuy
  imagePath : String
  image : List UInt8
  imageSize : Int
  deriving DecidableEq, Repr

/-- `Install` with the arguments of a request. -/
def Request.install (os : Os) (request : Request) : StateM System (Option Bool) :=
  Disk.install os request.targetDevice request.imagePath request.image request.imageSize

/-- A run of calls of `Install`: each with the state in which it is made. A call that does not
return ends the run. -/
def installs (os : Os) : List Request → System → List (Request × System)
  | [], _ => []
  | request :: requests, s =>
    (request, s) ::
      match request.install os s with
      | (none, _) => []
      | (some _, s') => installs os requests s'

/-- The handle is not one that was opened in the first calls. -/
def Handle.since (calls : Nat) : Handle → Prop
  | .file n => calls ≤ n
  | _ => True

/-- The operating system answers as in the other state: as many calls were made, and what is opened
from now on is at the same place. -/
structure SameAnswers (s s' : System) : Prop where
  length : s'.calls.length = s.calls.length
  position : ∀ handle : Handle, handle.since s.calls.length →
    s'.position handle = s.position handle

/-- The call returns the same and makes the same calls as in a process in which `FormatStatus` has
its initial value, however the calls before have ended. -/
def Independent (os : Os) (request : Request) (s : System) : Prop :=
  ∀ s', SameAnswers s s' → s'.formatStatus = 0 →
    (request.install os s).1 = (request.install os s').1 ∧
      ∃ new, (request.install os s).2.calls = new ++ s.calls ∧
        (request.install os s').2.calls = new ++ s'.calls

/-! ### What does not depend on `FormatStatus` -/

/-- Two states after the same new calls, with the same file pointers for what was opened in
them. -/
structure Alike (base base' : List Call) (s s' : System) : Prop where
  length : base'.length = base.length
  calls : ∃ new, s.calls = new ++ base ∧ s'.calls = new ++ base'
  position : ∀ handle : Handle, handle.since base.length →
    s'.position handle = s.position handle

section Alike

variable {os : Os} {base base' : List Call} {s s' : System}

theorem SameAnswers.alike (h : SameAnswers s s') : Alike s.calls s'.calls s s' :=
  ⟨h.length, ⟨[], rfl, rfl⟩, h.position⟩

theorem Alike.length_calls (h : Alike base base' s s') : s'.calls.length = s.calls.length := by
  obtain ⟨new, hs, hs'⟩ := h.calls
  rw [hs, hs', List.length_append, List.length_append, h.length]

theorem Alike.record (h : Alike base base' s s') (call : Call) :
    Alike base base' (s.record call) (s'.record call) := by
  obtain ⟨new, hs, hs'⟩ := h.calls
  refine ⟨h.length, ⟨call :: new, ?_, ?_⟩, h.position⟩
  · rw [System.record, hs, List.cons_append]
  · rw [System.record, hs', List.cons_append]

theorem Alike.move (h : Alike base base' s s') (call : Call) (handle : Handle) (offset : Nat) :
    Alike base base' { s.record call with position := Function.update s.position handle offset }
      { s'.record call with position := Function.update s'.position handle offset } := by
  refine ⟨h.length, (h.record call).calls, fun other hother => ?_⟩
  change Function.update s'.position handle offset other =
    Function.update s.position handle offset other
  by_cases heq : other = handle
  · rw [heq, Function.update_self, Function.update_self]
  · rw [Function.update_of_ne heq, Function.update_of_ne heq]
    exact h.position other hother

variable (os)

theorem respects_createFile (path : String) (write share : Bool) :
    Respects (Alike base base') (createFile os path write share) := by
  intro s s' h
  unfold createFile
  rw [h.length_calls]
  cases os.createFile s.calls.length with
  | some error => exact ⟨rfl, h.record _⟩
  | none => exact ⟨rfl, h.move _ _ _⟩

theorem respects_closeHandle (handle : Handle) :
    Respects (Alike base base') (closeHandle handle) := fun _ _ h => ⟨rfl, h.record _⟩

theorem respects_safeClosehandle (handle : Handle) :
    Respects (Alike base base') (safeClosehandle handle) := by
  cases handle with
  | file n => exact .bind (respects_closeHandle _) fun _ => .pure _
  | _ => exact .pure _

theorem respects_deviceIoControl (handle : Handle) (code : IoControl) :
    Respects (Alike base base') (deviceIoControl os handle code) := by
  intro s s' h
  unfold deviceIoControl
  rw [h.length_calls]
  exact ⟨rfl, h.record _⟩

theorem respects_geometry (handle : Handle) :
    Respects (Alike base base') (geometry os handle) := by
  intro s s' h
  unfold geometry
  rw [h.length_calls]
  exact ⟨rfl, h.record _⟩

theorem respects_findVolumes : Respects (Alike base base') (findVolumes os) := by
  intro s s' h
  unfold findVolumes
  rw [h.length_calls]
  exact ⟨rfl, h.record _⟩

theorem respects_volumeDiskExtents (volume : Volume) (handle : Handle) :
    Respects (Alike base base') (volumeDiskExtents volume handle) := fun _ _ h =>
  ⟨rfl, h.record _⟩

theorem respects_sleep (ms : Nat) : Respects (Alike base base') (sleep ms) := fun _ _ h =>
  ⟨rfl, h.record _⟩

theorem respects_mmMalloc (size alignment : Nat) :
    Respects (Alike base base') (mmMalloc os size alignment) := by
  intro s s' h
  unfold mmMalloc
  rw [h.length_calls]
  exact ⟨rfl, h.record _⟩

theorem respects_setFormatStatus (status : Nat) :
    Respects (Alike base base') (setFormatStatus status) := fun _ _ h =>
  ⟨rfl, h.length, h.calls, h.position⟩

theorem respects_setFilePointerEx (handle : Handle) (offset : Nat) :
    Respects (Alike base base') (setFilePointerEx os handle offset) := by
  intro s s' h
  unfold setFilePointerEx
  rw [h.length_calls]
  cases handle with
  | file n =>
    cases os.setFilePointerEx s.calls.length with
    | true => exact ⟨rfl, h.move _ _ _⟩
    | false => exact ⟨rfl, h.record _⟩
  | _ => exact ⟨rfl, h.record _⟩

theorem respects_readFile (contents : List UInt8) {handle : Handle}
    (hsince : handle.since base.length) (size : Nat) :
    Respects (Alike base base') (readFile os contents handle size) := by
  intro s s' h
  unfold readFile
  rw [h.length_calls, h.position handle hsince]
  cases handle with
  | file n =>
    cases os.readFile s.calls.length with
    | true => exact ⟨rfl, h.move _ _ _⟩
    | false => exact ⟨rfl, h.record _⟩
  | _ => exact ⟨rfl, h.record _⟩

theorem respects_writeFile {handle : Handle} (hsince : handle.since base.length)
    (data : List UInt8) : Respects (Alike base base') (writeFile os handle data) := by
  intro s s' h
  unfold writeFile
  rw [h.length_calls, h.position handle hsince]
  cases handle with
  | file n =>
    cases os.writeFile s.calls.length with
    | some written => exact ⟨rfl, h.move _ _ _⟩
    | none => exact ⟨rfl, h.record _⟩
  | _ => exact ⟨rfl, h.record _⟩

theorem respects_openTries (path : String) (writeAccess : Bool) (n : Nat) (writeShare : Bool) :
    Respects (Alike base base') (openTries os path writeAccess n writeShare) := by
  induction n generalizing writeShare with
  | zero => exact .pure _
  | succ n ih =>
    refine .bind (respects_createFile os _ _ _) fun r => ?_
    split
    · exact .pure _
    · exact .pure _
    · exact .bind (respects_sleep _) fun _ => ih _

/-- The lock of `GetHandle`, which does not look at `FormatStatus`. -/
theorem respects_lockTries (handle : Handle) (n : Nat) :
    Respects (Alike base base') (lockTries false os handle n) := by
  induction n with
  | zero => exact .pure _
  | succ n ih =>
    intro s s' h
    obtain ⟨hlock, hstate⟩ := respects_deviceIoControl os handle .lockVolume s s' h
    simp only [lockTries, bind_apply, ← hlock]
    cases (deviceIoControl os handle .lockVolume s).1 with
    | true => exact ⟨rfl, hstate⟩
    | false => exact Respects.bind (respects_sleep _) (fun _ => ih) _ _ hstate

theorem respects_openDrive (path : Option String) (lockDrive writeAccess writeShare : Bool) :
    Respects (Alike base base') (openDrive false os path lockDrive writeAccess writeShare) := by
  rw [Disk.openDrive]
  split
  · exact .pure _
  · refine .bind (respects_openTries os _ _ _ _) fun r => ?_
    split
    · exact .pure _
    · split
      · refine .bind (respects_deviceIoControl os _ _) fun _ => ?_
        refine .bind (respects_lockTries os _ _) fun locked => ?_
        split
        · exact .pure _
        · exact respects_safeClosehandle _
      · exact .pure _

theorem respects_getGeometry (deviceNum : Nat) :
    Respects (Alike base base') (getGeometry os deviceNum) := by
  refine .bind (respects_openDrive os _ _ _ _) fun hPhysical => ?_
  split
  · exact .pure _
  · refine .bind (respects_geometry os _) fun _ => ?_
    exact .bind (respects_safeClosehandle _) fun _ => .pure _

theorem respects_getDriveSize (deviceNum : Nat) :
    Respects (Alike base base') (getDriveSize os deviceNum) := by
  refine .bind (respects_getGeometry os _) fun r => ?_
  cases r <;> exact .pure _

theorem respects_getSectorSize (deviceNum : Nat) :
    Respects (Alike base base') (getSectorSize os deviceNum) := by
  refine .bind (respects_getGeometry os _) fun r => ?_
  cases r <;> exact .pure _

theorem respects_selectVolume (driveIndex : Nat) (keepTrailingBackslash : Bool)
    (volumes : List Volume) :
    Respects (Alike base base') (selectVolume os driveIndex keepTrailingBackslash volumes) := by
  induction volumes with
  | nil => exact .pure _
  | cons volume volumes ih =>
    rw [Disk.selectVolume]
    split
    · refine .bind (respects_createFile os _ _ _) fun r => ?_
      split
      · exact ih
      · refine .bind (respects_volumeDiskExtents _ _) fun _ => ?_
        refine .bind (respects_safeClosehandle _) fun _ => ?_
        split
        · exact .pure _
        · exact ih
    · exact ih

theorem respects_getLogicalName (deviceNum : Nat) (keepTrailingBackslash : Bool) :
    Respects (Alike base base') (getLogicalName os deviceNum keepTrailingBackslash) := by
  rw [Disk.getLogicalName]
  split
  · exact .pure _
  · exact .bind (respects_findVolumes os) fun _ => respects_selectVolume os _ _ _

theorem respects_openImage (path : String) :
    Respects (Alike base base') (openImage os path) := by
  refine .bind (respects_createFile os _ _ _) fun r => ?_
  cases r <;> exact .pure _

theorem respects_closeAll (drive volume source : Handle) (r : Option Bool) :
    Respects (Alike base base') (closeAll drive volume source r) := by
  cases r with
  | none => exact .pure _
  | some ret =>
    refine .bind (respects_safeClosehandle _) fun _ => ?_
    refine .bind (respects_safeClosehandle _) fun _ => ?_
    exact .bind (respects_safeClosehandle _) fun _ => .pure _

theorem respects_writeTries {drive : Handle} (hdrive : drive.since base.length) (wb : Nat)
    (data : List UInt8) (n : Nat) :
    Respects (Alike base base') (writeTries os drive wb data n) := by
  induction n with
  | zero => exact .pure _
  | succ n ih =>
    refine .bind (respects_writeFile os hdrive _) fun written => ?_
    split
    · exact .pure _
    · split
      · exact .bind (respects_setFormatStatus _) fun _ => .pure _
      · refine .bind (respects_setFilePointerEx os _ _) fun ok => ?_
        split
        · exact .bind (respects_sleep _) fun _ => ih
        · exact .pure _

theorem respects_readNext (image : List UInt8) {source : Handle}
    (hsource : source.since base.length) (size : Nat) (c : Copy) :
    Respects (Alike base base') (readNext os image source size c) := by
  rw [readNext]
  split
  · exact .pure _
  · refine .bind (respects_readFile os _ hsource _) fun data => ?_
    split
    · exact .bind (respects_setFormatStatus _) fun _ => .pure _
    · split <;> exact .pure _

theorem respects_copyStep (image : List UInt8) {drive source : Handle}
    (hdrive : drive.since base.length) (hsource : source.since base.length)
    (sectorSize driveSize targetSize : Nat) (c : Copy) :
    Respects (Alike base base')
      (copyStep os image drive source sectorSize driveSize targetSize c) := by
  rw [copyStep]
  split
  · refine .bind (respects_readNext os _ hsource _ _) fun r => ?_
    split
    · exact .pure _
    · refine .bind (respects_writeTries os hdrive _ _ _) fun wSize => ?_
      split <;> exact .pure _
  · exact .pure _

/-- `WriteDrive` sets `FormatStatus` and does not look at it. -/
theorem respects_writeDrive (image : List UInt8) {drive source : Handle}
    (hdrive : drive.since base.length) (hsource : source.since base.length)
    (sectorSize driveSize : Nat) (imageSize : Int) (turns : Nat) :
    Respects (Alike base base')
      (writeDrive os image drive source sectorSize driveSize imageSize turns) := by
  refine .bind (respects_setFilePointerEx os _ _) fun _ => ?_
  refine .bind (respects_mmMalloc os _ _) fun block => ?_
  split
  · exact .bind (respects_setFormatStatus _) fun _ => .pure _
  · split
    · exact .bind (respects_setFormatStatus _) fun _ => .pure _
    · refine .bind (.loop (respects_copyStep os _ hdrive hsource _ _ _) _ _) fun ret => ?_
      split
      · exact .pure _
      · exact .pure _
      · exact .bind (respects_deviceIoControl os _ _) fun _ => .pure _

end Alike

/-! ### The lock of the volume -/

section Lock

variable {os : Os} {path : String} {k n : Nat} {t : System}

/-- `OldGetHandle` finds an error in `FormatStatus` in the first try for the lock, when `calls`
calls have been made before it opens the volume at a path. -/
def BusyAt (os : Os) (path : String) (calls : Nat) : Prop :=
  isDevicePath path = true ∧ ∃ i, OpensAt os driveAccessRetries calls i ∧
    os.deviceIoControl (calls + 2 * i + 2) = false

theorem isError_zero : isError 0 = false := by decide

/-- Without an error in `FormatStatus`, `OldGetHandle` locks like `GetHandle`. -/
theorem lockTries_of_not_error (n : Nat) (h : isError t.formatStatus = false) :
    lockTries true os (.file k) n t = lockTries false os (.file k) n t := by
  induction n generalizing t with
  | zero => rfl
  | succ n ih =>
    rw [lockTries_succ, lockTries_succ, h, Bool.and_false, Bool.false_and, ih]
    exact h

theorem lockTries_of_lock (h : os.deviceIoControl t.calls.length = true) :
    lockTries true os (.file k) (n + 1) t = lockTries false os (.file k) (n + 1) t := by
  rw [lockTries_succ, lockTries_succ, if_pos h, if_pos h]

/-- `GetHandle` and `OldGetHandle` after the volume has been opened. -/
def lockVolume (checkStatus : Bool) (os : Os) (k : Nat) : StateM System Handle := do
  let _ ← deviceIoControl os (.file k) .allowExtendedDasdIo
  if ← lockTries checkStatus os (.file k) driveAccessRetries then return .file k
  else safeClosehandle (.file k)

theorem openDrive_eq_lockVolume (checkStatus writeAccess writeShare : Bool)
    (hpath : isDevicePath path = true)
    (hfile : (openTries os path writeAccess driveAccessRetries writeShare t).1 = some (.file k)) :
    openDrive checkStatus os (some path) true writeAccess writeShare t =
      lockVolume checkStatus os k
        (openTries os path writeAccess driveAccessRetries writeShare t).2 := by
  simp only [openDrive, Option.filter, hpath, ↓reduceIte, bind_apply, hfile]
  rfl

/-- `OldGetHandle` opens a volume like `GetHandle`, if `FormatStatus` is not an error or the first
try for the lock does not fail. -/
theorem openDrive_steady (h : isError t.formatStatus = true → ¬ BusyAt os path t.calls.length) :
    openDrive true os (some path) true false false t =
      openDrive false os (some path) true false false t := by
  cases hpath : isDevicePath path with
  | false => simp only [openDrive, Option.filter, hpath, Bool.false_eq_true, ↓reduceIte]
  | true =>
    obtain ⟨hsome, hnone⟩ := openTries_eq os path false driveAccessRetries false t
    by_cases hopens : ∃ i, OpensAt os driveAccessRetries t.calls.length i
    · obtain ⟨i, hi⟩ := hopens
      obtain ⟨hfile, hlen⟩ := hsome i hi
      rw [openDrive_eq_lockVolume _ _ _ hpath hfile, openDrive_eq_lockVolume _ _ _ hpath hfile]
      simp only [lockVolume, bind_apply]
      have hstatus : SameStatus t (openTries os path false driveAccessRetries false t).2 :=
        (opening_sameStatus os).openTries path false driveAccessRetries false t
      cases herror : isError t.formatStatus with
      | false =>
        rw [lockTries_of_not_error]
        exact (congrArg isError hstatus).trans herror
      | true =>
        have hlock : os.deviceIoControl (t.calls.length + 2 * i + 2) = true := by
          by_contra hlock
          exact h herror ⟨hpath, i, hi, Bool.eq_false_iff.2 hlock⟩
        rw [driveAccessRetries, lockTries_of_lock]
        rw [← hlock]
        exact congrArg os.deviceIoControl (congrArg (· + 1) hlen)
    · simp only [openDrive, Option.filter, hpath, ↓reduceIte, bind_apply,
        hnone fun i hi => hopens ⟨i, hi⟩]

/-- The first try for the lock fails and `FormatStatus` is an error. -/
theorem lockTries_gives_up (hlock : os.deviceIoControl t.calls.length = false)
    (herror : isError t.formatStatus = true) :
    lockTries true os (.file k) (n + 1) t =
      (false, t.record (.deviceIoControl (.file k) .lockVolume false)) := by
  rw [lockTries_succ, if_neg (by simp [hlock]), if_pos (by simp [herror])]

/-- The first try for the lock fails and `FormatStatus` is not an error. -/
theorem lockTries_waits (hlock : os.deviceIoControl t.calls.length = false)
    (herror : isError t.formatStatus = false) :
    .sleep (driveAccessTimeout / driveAccessRetries) ::
        .deviceIoControl (.file k) .lockVolume false :: t.calls <:+
      (lockTries true os (.file k) (n + 1) t).2.calls := by
  rw [lockTries_succ, if_neg (by simp [hlock]), if_neg (by simp [herror])]
  have hopening : Opening os (Adds Call.opens) := opening_adds
  have hadds : Adds Call.opens _ _ := hopening.lockTries true (.file k) n
    ((t.record (.deviceIoControl (.file k) .lockVolume false)).record
      (.sleep (driveAccessTimeout / driveAccessRetries)))
  exact hadds.suffix

/-- A volume that is busy is closed after the first try if `FormatStatus` is an error, and is tried
again if it is not. -/
theorem openDrive_of_busyAt {base base' : List Call} {t t' : System} (ht : Alike base base' t t')
    (hbusy : BusyAt os path t.calls.length) (herror : isError t.formatStatus = true)
    (hstatus : isError t'.formatStatus = false) :
    ∃ handle new ms,
      (openDrive true os (some path) true false false t).2.calls =
        .closeHandle handle :: (new ++ base) ∧
      .sleep ms :: (new ++ base') <:+
        (openDrive true os (some path) true false false t').2.calls := by
  obtain ⟨hpath, i, hi, hlock⟩ := hbusy
  obtain ⟨hfile, hlen⟩ := (openTries_eq os path false driveAccessRetries false t).1 i hi
  obtain ⟨hresult, hopened⟩ := respects_openTries os path false driveAccessRetries false
    t t' ht
  have hopening := opening_sameStatus os
  have hsame : SameStatus t _ := hopening.openTries path false driveAccessRetries false t
  have hsame' : SameStatus t' _ := hopening.openTries path false driveAccessRetries false t'
  rw [openDrive_eq_lockVolume _ _ _ hpath hfile,
    openDrive_eq_lockVolume _ _ _ hpath (hresult ▸ hfile)]
  -- the states in which the lock is tried
  generalize (openTries os path false driveAccessRetries false t).2 = u at hlen hopened hsame
  generalize (openTries os path false driveAccessRetries false t').2 = u' at hopened hsame'
  obtain ⟨-, hallowed⟩ := respects_deviceIoControl os (.file (t.calls.length + 2 * i))
    .allowExtendedDasdIo u u' hopened
  have herror_u : isError (deviceIoControl os (.file (t.calls.length + 2 * i))
      .allowExtendedDasdIo u).2.formatStatus = true := (congrArg isError hsame).trans herror
  have hstatus_u' : isError (deviceIoControl os (.file (t.calls.length + 2 * i))
      .allowExtendedDasdIo u').2.formatStatus = false := (congrArg isError hsame').trans hstatus
  have hlen_u : (deviceIoControl os (.file (t.calls.length + 2 * i))
      .allowExtendedDasdIo u).2.calls.length = t.calls.length + 2 * i + 2 :=
    congrArg (· + 1) hlen
  have hlen_u' := hallowed.length_calls.trans hlen_u
  obtain ⟨new, hcalls, hcalls'⟩ := hallowed.calls
  refine ⟨.file (t.calls.length + 2 * i),
    .deviceIoControl (.file (t.calls.length + 2 * i)) .lockVolume false :: new,
    driveAccessTimeout / driveAccessRetries, ?_, ?_⟩
  · rw [lockVolume, bind_apply, bind_apply, driveAccessRetries,
      lockTries_gives_up (hlen_u ▸ hlock) herror_u, List.cons_append, ← hcalls]
    rfl
  · rw [lockVolume, bind_apply, bind_apply, List.cons_append, ← hcalls']
    refine (lockTries_waits (n := 149) (hlen_u' ▸ hlock) hstatus_u').trans
      (Adds.suffix (P := Call.opens) ?_)
    split
    · exact refl_of _ _
    · exact (opening_adds : Opening os _).safeClosehandle _ _

end Lock

/-! ### One call -/

section Install

variable {os : Os} {request : Request} {s s' : System}

/-- The state in which a call gives the volume up for what an earlier one has left: `FormatStatus`
is an error, the drive is cleared, and the volume that `GetLogicalName` selects is opened and not
locked in the first try. -/
structure GivesUp (os : Os) (request : Request) (s : System) : Prop where
  status : isError s.formatStatus = true
  cleared : (getPhysicalName request.targetDevice.deviceNum).isSome ∧
    os.verify (atFormat os request.targetDevice.deviceNum s).calls.length ≤ 0
  busy : ∃ volume,
    selected os request.targetDevice.deviceNum
        (imageOpened os request.targetDevice.deviceNum request.imagePath s).2 = some volume ∧
      BusyAt os volume.path (getLogicalName os request.targetDevice.deviceNum false
        (imageOpened os request.targetDevice.deviceNum request.imagePath s).2).2.calls.length

theorem since_openTries {path : String} {writeAccess writeShare : Bool} {handle : Handle}
    (h : (openTries os path writeAccess driveAccessRetries writeShare s).1 = some handle) :
    handle.since s.calls.length := by
  obtain ⟨hsome, hnone⟩ := openTries_eq os path writeAccess driveAccessRetries writeShare s
  by_cases hopens : ∃ i, OpensAt os driveAccessRetries s.calls.length i
  · obtain ⟨i, hi⟩ := hopens
    obtain rfl := Option.some.inj ((hsome i hi).1.symm.trans h)
    exact Nat.le_add_right _ _
  · rw [hnone fun i hi => hopens ⟨i, hi⟩] at h
    cases h

/-- A handle that is returned is a new one. -/
theorem since_openDrive (checkStatus : Bool) (path : Option String)
    (lockDrive writeAccess writeShare : Bool) (s : System) :
    (openDrive checkStatus os path lockDrive writeAccess writeShare s).1.since
      s.calls.length := by
  rw [openDrive]
  cases path.filter isDevicePath with
  | none => trivial
  | some path =>
    dsimp only
    rw [bind_apply]
    cases hr : (openTries os path writeAccess driveAccessRetries writeShare s).1 with
    | none => trivial
    | some handle =>
      have hsince := since_openTries hr
      dsimp only
      split
      · rw [bind_apply, bind_apply]
        split
        · exact hsince
        · cases handle <;> trivial
      · exact hsince

theorem since_openImage (path : String) (s : System) :
    (openImage os path s).1.since s.calls.length := by
  rw [openImage, bind_apply, createFile]
  cases os.createFile s.calls.length with
  | none => exact Nat.le_refl _
  | some error => trivial

theorem Handle.since.mono {handle : Handle} {n m : Nat} (h : handle.since m) (hle : n ≤ m) :
    handle.since n := by
  cases handle with
  | file k => exact hle.trans h
  | _ => trivial

variable (os) (h : SameAnswers s s')

include h

theorem alike_atFormat (deviceNum : Nat) :
    Alike s.calls s'.calls (atFormat os deviceNum s) (atFormat os deviceNum s') :=
  (respects_getDriveSize os deviceNum _ _ (respects_getSectorSize os deviceNum _ _ h.alike).2).2

theorem alike_driveOpened (deviceNum : Nat) :
    (driveOpened os deviceNum s).1 = (driveOpened os deviceNum s').1 ∧
      Alike s.calls s'.calls (driveOpened os deviceNum s).2 (driveOpened os deviceNum s').2 :=
  respects_openDrive os _ _ _ _ _ _ ((alike_atFormat os h deviceNum).record _)

theorem alike_imageOpened (deviceNum : Nat) (imagePath : String) :
    (imageOpened os deviceNum imagePath s).1 = (imageOpened os deviceNum imagePath s').1 ∧
      Alike s.calls s'.calls (imageOpened os deviceNum imagePath s).2
        (imageOpened os deviceNum imagePath s').2 :=
  respects_openImage os _ _ _ (alike_driveOpened os h deviceNum).2

theorem alike_getLogicalName (deviceNum : Nat) (imagePath : String) :
    (getLogicalName os deviceNum false (imageOpened os deviceNum imagePath s).2).1 =
        (getLogicalName os deviceNum false (imageOpened os deviceNum imagePath s').2).1 ∧
      Alike s.calls s'.calls
        (getLogicalName os deviceNum false (imageOpened os deviceNum imagePath s).2).2
        (getLogicalName os deviceNum false (imageOpened os deviceNum imagePath s').2).2 :=
  respects_getLogicalName os _ _ _ _ (alike_imageOpened os h deviceNum imagePath).2

/-- The volume is opened in the same way, unless it is given up. -/
theorem alike_volumeOpened (deviceNum : Nat) (imagePath : String) (hstatus : s'.formatStatus = 0)
    (hsteady : isError s.formatStatus = true → ∀ name,
      (getLogicalName os deviceNum false (imageOpened os deviceNum imagePath s).2).1 = some name →
        ¬ BusyAt os name (getLogicalName os deviceNum false
          (imageOpened os deviceNum imagePath s).2).2.calls.length) :
    (volumeOpened os deviceNum imagePath s).1 = (volumeOpened os deviceNum imagePath s').1 ∧
      Alike s.calls s'.calls (volumeOpened os deviceNum imagePath s).2
        (volumeOpened os deviceNum imagePath s').2 := by
  obtain ⟨hname', halike⟩ := alike_getLogicalName os h deviceNum imagePath
  cases hname : (getLogicalName os deviceNum false (imageOpened os deviceNum imagePath s).2).1 with
  | none =>
    rw [volumeOpened, volumeOpened, getLogicalHandle, bind_apply, bind_apply, ← hname', hname]
    exact ⟨rfl, halike⟩
  | some name =>
    rw [volumeOpened_eq hname, volumeOpened_eq (hname'.symm.trans hname), oldGetHandle]
    rw [openDrive_steady, openDrive_steady]
    · exact respects_openDrive os _ _ _ _ _ _ halike
    · rw [formatStatus_getLogicalName, hstatus, isError_zero]
      exact fun h => absurd h Bool.false_ne_true
    · rw [formatStatus_getLogicalName]
      exact fun herror => hsteady herror name hname

end Install

/-- What is on the way to `WriteDrive` is the same for two states that are alike. -/
theorem alike_install {os : Os} {request : Request} {s s' : System} {path : String}
    (h : SameAnswers s s') (hpath : getPhysicalName request.targetDevice.deviceNum = some path)
    (hverify : os.verify (atFormat os request.targetDevice.deviceNum s).calls.length ≤ 0)
    (hvolume :
      (volumeOpened os request.targetDevice.deviceNum request.imagePath s).1 =
          (volumeOpened os request.targetDevice.deviceNum request.imagePath s').1 ∧
        Alike s.calls s'.calls
          (volumeOpened os request.targetDevice.deviceNum request.imagePath s).2
          (volumeOpened os request.targetDevice.deviceNum request.imagePath s').2) :
    (request.install os s).1 = (request.install os s').1 ∧
      Alike s.calls s'.calls (request.install os s).2 (request.install os s').2 := by
  have hverify' := hverify
  rw [← (alike_atFormat os h request.targetDevice.deviceNum).length_calls] at hverify'
  obtain ⟨hsector, hsectorState⟩ := respects_getSectorSize os 
    request.targetDevice.deviceNum _ _ h.alike
  obtain ⟨hsize, -⟩ := respects_getDriveSize os request.targetDevice.deviceNum _ _
    hsectorState
  obtain ⟨hdrive, -⟩ := alike_driveOpened os h request.targetDevice.deviceNum
  obtain ⟨himage, -⟩ := alike_imageOpened os h request.targetDevice.deviceNum
    request.imagePath
  have hdriveSince : (driveOpened os request.targetDevice.deviceNum s).1.since s.calls.length := by
    refine (since_openDrive _ _ _ _ _ _).mono ?_
    exact (adds_atFormat.suffix.trans (List.suffix_cons _ _)).length_le
  have himageSince : (imageOpened os request.targetDevice.deviceNum request.imagePath s).1.since
      s.calls.length := by
    refine (since_openImage _ _).mono ?_
    have hopened := (adds_volumeOpened os request.targetDevice.deviceNum request.imagePath s).1
    exact ((adds_atFormat.suffix.trans (List.suffix_cons _ _)).trans hopened.suffix).length_le
  rw [Request.install, install_eq_installImage hpath hverify ⟨rfl, rfl⟩,
    install_eq_installImage hpath hverify' ⟨hsector.symm, hsize.symm⟩,
    installImage_eq, installImage_eq, ← hdrive, ← himage, ← hvolume.1]
  refine Respects.bind (respects_writeDrive os _ hdriveSince himageSince _ _ _ _)
    (fun _ => respects_closeAll _ _ _ _) _ _ ?_
  rw [atWrite, atWrite, ← hvolume.1]
  exact (respects_deviceIoControl os _ _ _ _ hvolume.2).2

/-- A call that does not give up is independent of the calls before. -/
theorem independent_of_not_givesUp {os : Os} {request : Request} {s : System}
    (hnot : ¬ GivesUp os request s) : Independent os request s := by
  intro s' h hstatus
  suffices hinstall : (request.install os s).1 = (request.install os s').1 ∧
      Alike s.calls s'.calls (request.install os s).2 (request.install os s').2 from
    ⟨hinstall.1, hinstall.2.calls⟩
  have hformat := alike_atFormat os h request.targetDevice.deviceNum
  cases hpath : getPhysicalName request.targetDevice.deviceNum with
  | none =>
    rw [Request.install, install_of_no_path hpath, install_of_no_path hpath]
    exact ⟨rfl, hformat⟩
  | some path =>
    by_cases hverify : os.verify (atFormat os request.targetDevice.deviceNum s).calls.length ≤ 0
    · refine alike_install h hpath hverify (alike_volumeOpened os h _ _ hstatus ?_)
      intro herror name hname hbusy
      rw [(getLogicalName_eq _ _ _ _).1, Option.map_eq_some_iff] at hname
      obtain ⟨volume, hselected, rfl⟩ := hname
      exact hnot ⟨herror, ⟨by rw [hpath]; rfl, hverify⟩, volume, hselected, hbusy⟩
    · have hverify' := hverify
      rw [← hformat.length_calls] at hverify'
      rw [Request.install, install_of_not_cleared hpath hverify,
        install_of_not_cleared hpath hverify']
      exact ⟨rfl, hformat.record _⟩

/-- The calls up to the opening of the volume stay. -/
theorem suffix_install (os : Os) {request : Request} {s : System} {path : String}
    (hpath : getPhysicalName request.targetDevice.deviceNum = some path)
    (hverify : os.verify (atFormat os request.targetDevice.deviceNum s).calls.length ≤ 0) :
    (volumeOpened os request.targetDevice.deviceNum request.imagePath s).2.calls <:+
      (request.install os s).2.calls := by
  rw [Request.install, install_eq_installImage hpath hverify ⟨rfl, rfl⟩, installImage_eq,
    bind_apply]
  have hunmount : (volumeOpened os request.targetDevice.deviceNum request.imagePath s).2.calls <:+
      (atWrite os request.targetDevice.deviceNum request.imagePath s).calls := List.suffix_cons _ _
  exact (hunmount.trans (adds_writeDrive _ _ _ _ _).suffix).trans (adds_closeAll _ _ _ _ _).suffix

/-- A call that gives up makes other calls than one in a new process: it closes the volume where the
other one waits. -/
theorem not_independent_of_givesUp {os : Os} {request : Request} {s : System}
    (hgives : GivesUp os request s) : ¬ Independent os request s := by
  intro hindependent
  obtain ⟨herror, ⟨hsome, hverify⟩, volume, hselected, hbusy⟩ := hgives
  obtain ⟨path, hpath⟩ := Option.isSome_iff_exists.1 hsome
  have hsame : SameAnswers s { s with formatStatus := 0 } := ⟨rfl, fun _ _ => rfl⟩
  have hverify' := hverify
  rw [← (alike_atFormat os hsame request.targetDevice.deviceNum).length_calls] at hverify'
  have hname : (getLogicalName os request.targetDevice.deviceNum false
      (imageOpened os request.targetDevice.deviceNum request.imagePath s).2).1 =
      some volume.path := by
    rw [(getLogicalName_eq _ _ _ _).1, hselected]
    rfl
  obtain ⟨hname', halike⟩ := alike_getLogicalName os hsame
    request.targetDevice.deviceNum request.imagePath
  obtain ⟨handle, new₁, ms, hclosed, hwaits⟩ := openDrive_of_busyAt halike hbusy
    (by rw [formatStatus_getLogicalName, herror])
    (by rw [formatStatus_getLogicalName]; exact isError_zero)
  have hcalls : (request.install os s).2.calls =
      (request.install os { s with formatStatus := 0 }).2.calls := by
    obtain ⟨-, new, hnew, hnew'⟩ := hindependent _ hsame rfl
    rw [hnew, hnew']
  have hdirty := suffix_install os hpath hverify
  have hfresh := suffix_install os hpath hverify'
  rw [volumeOpened_eq hname, oldGetHandle, hclosed, hcalls] at hdirty
  rw [volumeOpened_eq (hname'.symm.trans hname), oldGetHandle] at hfresh
  have heq := List.suffix_of_suffix_length_le hdirty (hwaits.trans hfresh) (Nat.le_refl _)
  cases List.IsSuffix.eq_of_length heq rfl

/-- A call of `Install` returns the same and makes the same calls as in a new process, if and only
if it does not give the volume up for what an earlier call has left in `FormatStatus`. -/
theorem independent_iff {os : Os} {request : Request} {s : System} :
    Independent os request s ↔ ¬ GivesUp os request s :=
  ⟨fun h hgives => not_independent_of_givesUp hgives h, independent_of_not_givesUp⟩

/-- **Runs of `Install`.** All the calls of a run return the same and make the same calls as in a
new process, if and only if none of them finds an error in `FormatStatus` when its volume cannot be
locked in the first try. -/
theorem installs_independent_iff (os : Os) (requests : List Request) (s : System) :
    (∀ call ∈ installs os requests s, Independent os call.1 call.2) ↔
      ∀ call ∈ installs os requests s, ¬ GivesUp os call.1 call.2 :=
  forall₂_congr fun _ _ => independent_iff

/-! ### Two calls -/

/-- A drive with one volume. The image cannot be read in the first call of `Install`, and the volume
is in use when the second one tries to lock it for the first time. -/
def failsOnce : Os :=
  { alwaysAnswers 512 1024 with
    volumes := fun _ =>
      [⟨"\\\\?\\Volume\\", .removable, some "\\Device\\HarddiskVolume1", some [0]⟩]
    readFile := fun calls => decide (25 ≤ calls)
    deviceIoControl := fun calls => decide (calls ≠ 42) }

/-- An image of one byte for this drive. -/
def smallRequest : Request := ⟨sample, "image.bin", [7], 1⟩

/-- A second call that makes more or fewer calls than in a new process. -/
theorem second_depends_of_length {os : Os} {request : Request} {s : System} {ret : Bool}
    (hret : (request.install os s).1 = some ret)
    (hlength : (request.install os (request.install os s).2).2.calls.length ≠
      (request.install os { (request.install os s).2 with formatStatus := 0 }).2.calls.length) :
    ¬ ∀ call ∈ installs os [request, request] s, Independent os call.1 call.2 := by
  intro h
  have hmem : (request, (request.install os s).2) ∈ installs os [request, request] s := by
    rw [installs]
    refine List.mem_cons_of_mem _ ?_
    generalize request.install os s = r at hret ⊢
    obtain ⟨_, t⟩ := r
    obtain rfl := hret
    exact List.mem_cons_self
  have hsame : SameAnswers (request.install os s).2
      { (request.install os s).2 with formatStatus := 0 } := ⟨rfl, fun _ _ => rfl⟩
  obtain ⟨-, new, hnew, hnew'⟩ := h _ hmem _ hsame rfl
  exact hlength (congrArg List.length (hnew.trans hnew'.symm))

/-- The first call fails, and the second one is not what it would be in a new process. -/
theorem second_install_depends :
    (smallRequest.install failsOnce {}).1 = some false ∧
      ¬ ∀ call ∈ installs failsOnce [smallRequest, smallRequest] {},
        Independent failsOnce call.1 call.2 := by
  have hret : (smallRequest.install failsOnce {}).1 = some false := by decide +kernel
  exact ⟨hret, second_depends_of_length hret (by decide +kernel)⟩

end UsbMaker.Disk
