import UsbMaker.Disk.Tries
import UsbMaker.Disk.Writes
import UsbMaker.Disk.Volumes
import UsbMaker.Run.History

/-!
# Locks

`Install` opens and locks the drive and its first volume, and dismounts the volume, before it
writes. It prints a line when this fails, and goes on. This file proves when every `WriteFile` of
`Install` comes while both are locked: exactly when no `WriteFile` is reached, or the drive and the
volume are opened and locked in the tries that `GetHandle` and `OldGetHandle` have, and the volume
is dismounted.

## Main definitions

* `Disk.Held`, `Disk.Protected`: the property.
* `Disk.InstallWrites`, `Disk.Secured`: the condition.

## Main results

* `Disk.held_atWrite_iff`: what `Install` holds when it calls `WriteDrive`.
* `Disk.protected_iff`.
-/

namespace UsbMaker.Disk

open Program

/-! ### The steps of `Install` -/

section Install

variable (os : Os) (deviceNum : Nat) (imagePath : String) (s : System)

/-- The state in which `Install` clears the drive. -/
def atFormat : System := (getDriveSize os deviceNum (getSectorSize os deviceNum s).2).2

/-- The state in which `Install` opens the drive, after `clearMbrGpt` has returned true. -/
def atOpen : System :=
  (atFormat os deviceNum s).record (.clearMbrGpt ((getPhysicalName deviceNum).getD "") true)

/-- `phys_handle`, and the state in which the image is opened. -/
def driveOpened : Handle × System :=
  getHandle os (getPhysicalName deviceNum) true true false (atOpen os deviceNum s)

/-- `source_img`, and the state in which the volume is opened. -/
def imageOpened : Handle × System := openImage os imagePath (driveOpened os deviceNum s).2

/-- `hLogicalVolume`, and the state in which it is dismounted. -/
def volumeOpened : Handle × System :=
  getLogicalHandle os deviceNum true false false (imageOpened os deviceNum imagePath s).2

/-- The state in which `WriteDrive` is called. -/
def atWrite : System :=
  (unmountVolume os (volumeOpened os deviceNum imagePath s).1
    (volumeOpened os deviceNum imagePath s).2).2

/-- The handle is one of an open file that is locked. -/
def Locked (handle : Handle) (calls : List Call) : Prop :=
  (∃ n, handle = .file n) ∧ .deviceIoControl handle .lockVolume true ∈ calls ∧
    .closeHandle handle ∉ calls

/-- The drive has been cleared, the handle is one of the drive and it is locked, and the volume that
`GetLogicalName` finds is open, locked and dismounted. -/
structure Held (handle : Handle) (calls : List Call) : Prop where
  drive : ∃ path share, getPhysicalName deviceNum = some path ∧ .clearMbrGpt path true ∈ calls ∧
    .createFile path true share handle ∈ calls
  locked : Locked handle calls
  volume : ∀ name,
    (getLogicalName os deviceNum false (imageOpened os deviceNum imagePath s).2).1 = some name →
      ∃ volume write share, .createFile name write share volume ∈ calls ∧ Locked volume calls ∧
        .deviceIoControl volume .dismountVolume true ∈ calls

/-- A write comes while the drive and its volume are held. -/
def Guarded : Call → List Call → Prop
  | .writeFile handle _ _ _, before => Held os deviceNum imagePath s handle before
  | _, _ => True

end Install

section Guarded

variable {os : Os} {deviceNum : Nat} {imagePath : String} {s : System} {drive : Handle}
  {new calls : List Call}

/-- What is held is told by the calls that `WriteDrive` does not make. -/
theorem Held.congr {calls' : List Call} {handle : Handle}
    (h : Held os deviceNum imagePath s handle calls)
    (hcalls : ∀ call, call.copies drive = false → (call ∈ calls ↔ call ∈ calls')) :
    Held os deviceNum imagePath s handle calls' := by
  have hcreate {path : String} {write share : Bool} {handle : Handle}
      (hmem : .createFile path write share handle ∈ calls) :
      .createFile path write share handle ∈ calls' := (hcalls _ rfl).mp hmem
  have hlocked {handle : Handle} (hlocked : Locked handle calls) : Locked handle calls' :=
    ⟨hlocked.1, (hcalls _ rfl).mp hlocked.2.1, fun hmem => hlocked.2.2 ((hcalls _ rfl).mpr hmem)⟩
  obtain ⟨path, share, hpath, hclear, hopened⟩ := h.drive
  refine ⟨⟨path, share, hpath, (hcalls _ rfl).mp hclear, hcreate hopened⟩, hlocked h.locked,
    fun name hname => ?_⟩
  obtain ⟨volume, write, share, hvolume, hvlocked, hdismount⟩ := h.volume name hname
  exact ⟨volume, write, share, hcreate hvolume, hlocked hvlocked, (hcalls _ rfl).mp hdismount⟩

/-- `WriteDrive` does not give up what is held. -/
theorem held_append_iff (hnew : ∀ call ∈ new, call.copies drive = true) (handle : Handle) :
    Held os deviceNum imagePath s handle (new ++ calls) ↔
      Held os deviceNum imagePath s handle calls := by
  have hmem (call : Call) (hcall : call.copies drive = false) :
      call ∈ new ++ calls ↔ call ∈ calls := by
    rw [List.mem_append, or_iff_right]
    intro hmem
    rw [hnew call hmem] at hcall
    cases hcall
  exact ⟨fun h => h.congr hmem, fun h => h.congr fun call hcall => (hmem call hcall).symm⟩

/-- The writes of `WriteDrive` are guarded if and only if there are none, or the drive is held when
it is called. -/
theorem recorded_append_iff (hnew : ∀ call ∈ new, call.copies drive = true) :
    Recorded (Guarded os deviceNum imagePath s) (new ++ calls) ↔
      Recorded (Guarded os deviceNum imagePath s) calls ∧
        ((∃ call ∈ new, call.isWrite = true) → Held os deviceNum imagePath s drive calls) := by
  induction new with
  | nil => simp
  | cons call new ih =>
    have hnew' : ∀ call ∈ new, call.copies drive = true := fun call hcall =>
      hnew call (List.mem_cons_of_mem _ hcall)
    have hcall := hnew call List.mem_cons_self
    rw [List.cons_append, recorded_cons, ih hnew']
    cases call with
    | writeFile handle offset data written =>
      obtain rfl : handle = drive := by simpa [Call.copies] using hcall
      rw [Guarded, held_append_iff hnew' handle]
      constructor
      · exact fun h => ⟨h.2.1, fun _ => h.1⟩
      · intro h
        have hheld := h.2 ⟨_, List.mem_cons_self, rfl⟩
        exact ⟨hheld, h.1, fun _ => hheld⟩
    | _ => simp [Guarded, Call.isWrite]

/-- Calls that write nothing are guarded. -/
theorem recorded_adds_iff {P : Call → Bool} {t t' : System} (h : Adds P t t')
    (hP : ∀ call, P call = true → call.isWrite = false) :
    Recorded (Guarded os deviceNum imagePath s) t'.calls ↔
      Recorded (Guarded os deviceNum imagePath s) t.calls := by
  obtain ⟨new, hnew, hcalls⟩ := h
  rw [hnew]
  clear hnew
  induction new with
  | nil => rfl
  | cons call new ih =>
    have hcall := hP call (hcalls call List.mem_cons_self)
    have hrest := ih fun call hmem => hcalls call (List.mem_cons_of_mem _ hmem)
    rw [List.cons_append, recorded_cons, hrest]
    cases call with
    | writeFile => cases hcall
    | _ => exact and_iff_right trivial

end Guarded

/-! ### What `Install` holds when it writes -/

section AtWrite

variable {os : Os} {deviceNum : Nat} {imagePath : String} {s : System} {path : String}

/-- The calls that open, ask and close. -/
def Call.opens : Call → Bool
  | .createFile .. => true
  | call => call.asks

theorem opening_adds : Opening os (Adds Call.opens) where
  createFile path write share s := by
    unfold createFile
    split <;> exact adds_of_calls rfl rfl
  asks s call hcall := adds_of_calls (rfl : (s.record call).calls = _) (by
    cases call <;> first | rfl | exact hcall)

theorem Call.not_isWrite_of_opens {call : Call} (h : call.opens = true) : call.isWrite = false := by
  cases call <;> first | rfl | cases h

theorem adds_openImage (imagePath : String) : Keeps (Adds Call.opens) (openImage os imagePath) := by
  refine .bind (opening_adds.createFile _ _ _) fun r => ?_
  cases r <;> exact .pure _

theorem adds_atFormat : Adds Call.opens s (atFormat os deviceNum s) :=
  trans_of _ (opening_adds.getSectorSize deviceNum s) (opening_adds.getDriveSize deviceNum _)

variable (os deviceNum imagePath s) in
/-- From the clearing of the drive to the dismounting of the volume. -/
theorem adds_volumeOpened :
    Adds Call.opens (atOpen os deviceNum s) (driveOpened os deviceNum s).2 ∧
      Adds Call.opens (driveOpened os deviceNum s).2 (imageOpened os deviceNum imagePath s).2 ∧
      Adds Call.opens (imageOpened os deviceNum imagePath s).2
        (volumeOpened os deviceNum imagePath s).2 :=
  ⟨opening_adds.openDrive _ _ _ _ _ _, adds_openImage _ _,
    opening_adds.getLogicalHandle _ _ _ _ _⟩

/-- Every path of a drive is a path that `GetHandle` opens. -/
theorem isDevicePath_of_getPhysicalName (h : getPhysicalName deviceNum = some path) :
    isDevicePath path = true := by
  rw [getPhysicalName, Option.map_eq_some_iff] at h
  obtain ⟨driveIndex, -, rfl⟩ := h
  rw [isDevicePath, String.toList_append]
  rfl

/-- When `WriteDrive` is called, the handles of `Install` are accounted for. -/
theorem accounted_atWrite (h : Accounted [] s) :
    Accounted [(volumeOpened os deviceNum imagePath s).1,
      (imageOpened os deviceNum imagePath s).1, (driveOpened os deviceNum s).1]
      (atWrite os deviceNum imagePath s) := by
  have hformat : Accounted [] (atFormat os deviceNum s) :=
    accounted_getDriveSize deviceNum _ (accounted_getSectorSize deviceNum s h)
  have hopen : Accounted [] (atOpen os deviceNum s) := hformat.of_calls rfl rfl
  have hdrive : Accounted [(driveOpened os deviceNum s).1] (driveOpened os deviceNum s).2 :=
    accounted_openDrive _ _ _ _ _ _ hopen
  have himage : Accounted [(imageOpened os deviceNum imagePath s).1, (driveOpened os deviceNum s).1]
      (imageOpened os deviceNum imagePath s).2 := accounted_openImage _ _ hdrive
  exact accounted_deviceIoControl _ _ _ (accounted_getLogicalHandle _ _ _ _ _ himage)

/-- The one call that dismounts. -/
theorem dismounted_iff (hs : s.calls = []) (volume : Handle) :
    .deviceIoControl volume .dismountVolume true ∈ (atWrite os deviceNum imagePath s).calls ↔
      volume = (volumeOpened os deviceNum imagePath s).1 ∧ (∃ n, volume = .file n) ∧
        os.deviceIoControl (volumeOpened os deviceNum imagePath s).2.calls.length = true := by
  obtain ⟨hdrive, himage, hvolume⟩ := adds_volumeOpened os deviceNum imagePath s
  have hbefore : .deviceIoControl volume .dismountVolume true ∉
      (volumeOpened os deviceNum imagePath s).2.calls := by
    rw [hvolume.mem_iff rfl, himage.mem_iff rfl, hdrive.mem_iff rfl, atOpen, System.record,
      List.mem_cons, or_iff_right (by simp), adds_atFormat.mem_iff rfl, hs]
    exact List.not_mem_nil
  simp only [atWrite, unmountVolume, deviceIoControl, System.record, List.mem_cons,
    or_iff_left hbefore, Call.deviceIoControl.injEq, true_and]
  constructor
  · rintro ⟨rfl, hok⟩
    refine ⟨rfl, ?_⟩
    cases hhandle : (volumeOpened os deviceNum imagePath s).1 with
    | null | invalid =>
      rw [hhandle] at hok
      cases hok
    | file n =>
      rw [hhandle] at hok
      exact ⟨⟨n, rfl⟩, hok.symm⟩
  · rintro ⟨rfl, ⟨n, hn⟩, hok⟩
    rw [hn]
    exact ⟨rfl, hok.symm⟩

/-- The answers with which `Install` holds the drive and its volume. -/
structure Secured (os : Os) (deviceNum : Nat) (imagePath : String) (s : System) : Prop where
  /-- The drive is opened and locked. -/
  drive : Secures os driveAccessRetries (atOpen os deviceNum s).calls.length
  /-- The volume that `GetLogicalName` selects, if any, is opened, locked and dismounted. -/
  volume : ∀ volume, selected os deviceNum (imageOpened os deviceNum imagePath s).2 = some volume →
    isDevicePath volume.path = true ∧
      Secures os (lockRetries true s.formatStatus)
        (getLogicalName os deviceNum false
          (imageOpened os deviceNum imagePath s).2).2.calls.length ∧
      os.deviceIoControl (volumeOpened os deviceNum imagePath s).2.calls.length = true

theorem driveOpened_ne_invalid_iff (hpath : getPhysicalName deviceNum = some path) :
    (driveOpened os deviceNum s).1 ≠ .invalid ↔
      Secures os driveAccessRetries (atOpen os deviceNum s).calls.length := by
  rw [driveOpened, hpath]
  exact openDrive_ne_invalid_iff os true (isDevicePath_of_getPhysicalName hpath) false false _

theorem volumeOpened_eq {name : String}
    (hname : (getLogicalName os deviceNum false (imageOpened os deviceNum imagePath s).2).1 =
      some name) :
    volumeOpened os deviceNum imagePath s =
      oldGetHandle os (some name) true false false
        (getLogicalName os deviceNum false (imageOpened os deviceNum imagePath s).2).2 := by
  rw [volumeOpened, getLogicalHandle, bind_apply, hname]

/-- `FormatStatus` is as before when the volume is opened. -/
theorem formatStatus_getLogicalName :
    (getLogicalName os deviceNum false (imageOpened os deviceNum imagePath s).2).2.formatStatus =
      s.formatStatus := by
  have hopening := opening_sameStatus os
  have hformat : SameStatus s (atFormat os deviceNum s) :=
    trans_of _ (hopening.getSectorSize deviceNum s) (hopening.getDriveSize deviceNum _)
  have hdrive : SameStatus (atOpen os deviceNum s) (driveOpened os deviceNum s).2 :=
    hopening.openDrive _ _ _ _ _ _
  have himage : SameStatus (driveOpened os deviceNum s).2
      (imageOpened os deviceNum imagePath s).2 := by
    refine Keeps.bind (hopening.createFile _ _ _) (fun r => ?_) _
    cases r <;> exact .pure _
  exact (hopening.getLogicalName deviceNum false _).trans
    (himage.trans (hdrive.trans hformat))

theorem volumeOpened_ne_invalid_iff {name : String}
    (hname : (getLogicalName os deviceNum false (imageOpened os deviceNum imagePath s).2).1 =
      some name) :
    (volumeOpened os deviceNum imagePath s).1 ≠ .invalid ↔
      isDevicePath name = true ∧ Secures os (lockRetries true s.formatStatus)
        (getLogicalName os deviceNum false
          (imageOpened os deviceNum imagePath s).2).2.calls.length := by
  rw [volumeOpened_eq hname, oldGetHandle]
  cases hdevice : isDevicePath name with
  | true =>
    rw [openDrive_ne_invalid_iff os false hdevice, formatStatus_getLogicalName]
    simp
  | false =>
    have hinvalid (t : System) :
        (openDrive true os (some name) true false false t).1 = .invalid := by
      simp only [openDrive, Option.filter, hdevice, Bool.false_eq_true, ↓reduceIte]
      rfl
    simp [hinvalid]

/-- A handle that is held and was locked is locked. -/
theorem Accounted.locked {held : List Handle} {t : System} {handle : Handle} {write share : Bool}
    (h : Accounted held t) (hheld : handle ∈ held) (hfile : ∃ n, handle = .file n)
    (hcreated : .createFile path write share handle ∈ t.calls)
    (hlock : .deviceIoControl handle .lockVolume true ∈ t.calls) : Locked handle t.calls := by
  obtain ⟨n, rfl⟩ := hfile
  exact ⟨⟨n, rfl⟩, hlock, h.not_closed hheld ⟨path, write, share, hcreated⟩⟩

theorem locked_driveOpened (hpath : getPhysicalName deviceNum = some path)
    (hne : (driveOpened os deviceNum s).1 ≠ .invalid) :
    (∃ n, (driveOpened os deviceNum s).1 = .file n) ∧
      (∃ share, .createFile path true share (driveOpened os deviceNum s).1 ∈
        (driveOpened os deviceNum s).2.calls) ∧
      .deviceIoControl (driveOpened os deviceNum s).1 .lockVolume true ∈
        (driveOpened os deviceNum s).2.calls := by
  rw [driveOpened, hpath] at hne ⊢
  exact (locked_openDrive false path false _ trivial).resolve_left hne

theorem locked_volumeOpened {name : String}
    (hname : (getLogicalName os deviceNum false (imageOpened os deviceNum imagePath s).2).1 =
      some name) (hne : (volumeOpened os deviceNum imagePath s).1 ≠ .invalid) :
    (∃ n, (volumeOpened os deviceNum imagePath s).1 = .file n) ∧
      (∃ share, .createFile name false share (volumeOpened os deviceNum imagePath s).1 ∈
        (volumeOpened os deviceNum imagePath s).2.calls) ∧
      .deviceIoControl (volumeOpened os deviceNum imagePath s).1 .lockVolume true ∈
        (volumeOpened os deviceNum imagePath s).2.calls := by
  rw [volumeOpened_eq hname] at hne ⊢
  exact (locked_openDrive true name false _ trivial).resolve_left hne

/-- What is held was opened, locked and dismounted. -/
theorem Held.secured (hpath : getPhysicalName deviceNum = some path) (hs : s.calls = [])
    (hheld : Held os deviceNum imagePath s (driveOpened os deviceNum s).1
      (atWrite os deviceNum imagePath s).calls) : Secured os deviceNum imagePath s := by
  obtain ⟨hname, -⟩ := getLogicalName_eq os deviceNum false (imageOpened os deviceNum imagePath s).2
  refine ⟨(driveOpened_ne_invalid_iff hpath).mp ?_, fun volume hsel => ?_⟩
  · obtain ⟨⟨n, hn⟩, -⟩ := hheld.locked
    simp [hn]
  · rw [hsel] at hname
    obtain ⟨handle, write, share, -, -, hdismount⟩ := hheld.volume _ hname
    obtain ⟨rfl, ⟨n, hn⟩, hok⟩ := (dismounted_iff hs handle).mp hdismount
    obtain ⟨hdevice, hsecures⟩ := (volumeOpened_ne_invalid_iff hname).mp (by simp [hn])
    exact ⟨hdevice, hsecures, hok⟩

/-- With these answers the drive and its volume are held: no handle is closed before the write. -/
theorem Secured.held (hpath : getPhysicalName deviceNum = some path) (hs : s.calls = [])
    (hsecured : Secured os deviceNum imagePath s) :
    Held os deviceNum imagePath s (driveOpened os deviceNum s).1
      (atWrite os deviceNum imagePath s).calls := by
  obtain ⟨hname, -⟩ := getLogicalName_eq os deviceNum false (imageOpened os deviceNum imagePath s).2
  have hnothing : Accounted [] s := by
    constructor <;> simp [hs, Created]
  have hacc : Accounted
      [(volumeOpened os deviceNum imagePath s).1, _, (driveOpened os deviceNum s).1]
      (atWrite os deviceNum imagePath s) := accounted_atWrite hnothing
  obtain ⟨hdrive, himage, hvolume⟩ := adds_volumeOpened os deviceNum imagePath s
  have hlater : (volumeOpened os deviceNum imagePath s).2.calls ⊆
      (atWrite os deviceNum imagePath s).calls := List.subset_cons_self _ _
  have hsince {call : Call} (hmem : call ∈ (driveOpened os deviceNum s).2.calls) :
      call ∈ (atWrite os deviceNum imagePath s).calls :=
    hlater (hvolume.mem (himage.mem hmem))
  have hclear : .clearMbrGpt path true ∈ (atWrite os deviceNum imagePath s).calls := by
    refine hsince (hdrive.mem ?_)
    rw [atOpen, hpath]
    exact List.mem_cons_self
  obtain ⟨hfile, ⟨share, hcreated⟩, hlock⟩ :=
    locked_driveOpened hpath ((driveOpened_ne_invalid_iff hpath).mpr hsecured.drive)
  refine ⟨⟨path, share, hpath, hclear, hsince hcreated⟩,
    hacc.locked (by simp) hfile (hsince hcreated) (hsince hlock), fun name hfound => ?_⟩
  rw [hname, Option.map_eq_some_iff] at hfound
  obtain ⟨volume, hsel, rfl⟩ := hfound
  rw [hsel] at hname
  obtain ⟨hdevice, hsecures, hok⟩ := hsecured.volume volume hsel
  obtain ⟨hvfile, ⟨vshare, hvcreated⟩, hvlock⟩ := locked_volumeOpened hname
    ((volumeOpened_ne_invalid_iff hname).mpr ⟨hdevice, hsecures⟩)
  exact ⟨(volumeOpened os deviceNum imagePath s).1, false, vshare, hlater hvcreated,
    hacc.locked (by simp) hvfile (hlater hvcreated) (hlater hvlock),
    (dismounted_iff hs _).mpr ⟨rfl, hvfile, hok⟩⟩

/-- `Install` holds the drive and its volume when it calls `WriteDrive` if and only if the answers
are those of `Secured`. -/
theorem held_atWrite_iff (hpath : getPhysicalName deviceNum = some path) (hs : s.calls = []) :
    Held os deviceNum imagePath s (driveOpened os deviceNum s).1
        (atWrite os deviceNum imagePath s).calls ↔
      Secured os deviceNum imagePath s :=
  ⟨Held.secured hpath hs, Secured.held hpath hs⟩

end AtWrite

/-- The property. `Install` writes only while it holds the drive and its volume, it returns when
there is a path to the drive, and when it returns it has closed each handle once. -/
structure Protected (os : Os) (targetDevice : DeviceGuy) (imagePath : String) (image : List UInt8)
    (imageSize : Int) (status : Nat) : Prop where
  writes : Recorded (Guarded os targetDevice.deviceNum imagePath { formatStatus := status })
    (install os targetDevice imagePath image imageSize { formatStatus := status }).2.calls
  returns : ∀ path, getPhysicalName targetDevice.deviceNum = some path →
    ∃ ret,
      (install os targetDevice imagePath image imageSize { formatStatus := status }).1 = some ret
  closes : ∀ ret,
    (install os targetDevice imagePath image imageSize { formatStatus := status }).1 = some ret →
      ∀ n, Created n
          (install os targetDevice imagePath image imageSize { formatStatus := status }).2.calls →
        (install os targetDevice imagePath image imageSize { formatStatus := status }).2.calls.count
          (.closeHandle (.file n)) = 1

/-- `Install` comes to a `WriteFile`: the drive is cleared, the image is opened, and `WriteDrive`
comes to a `WriteFile` with the sizes that the drive has reported. -/
def InstallWrites (os : Os) (deviceNum : Nat) (imagePath : String) (image : List UInt8)
    (s : System) : Prop :=
  (getPhysicalName deviceNum).isSome ∧ os.verify (atFormat os deviceNum s).calls.length ≤ 0 ∧
    os.createFile (driveOpened os deviceNum s).2.calls.length = none ∧
    ∃ sectorSize driveSize, Reports os deviceNum s sectorSize driveSize ∧
      WriteReached os image sectorSize driveSize (atWrite os deviceNum imagePath s)

section Protected

variable {os : Os} {targetDevice : DeviceGuy} {imagePath : String} {image : List UInt8}
  {imageSize : Int} {s : System} {path : String}

theorem install_of_not_cleared (hpath : getPhysicalName targetDevice.deviceNum = some path)
    (hverify : ¬ os.verify (atFormat os targetDevice.deviceNum s).calls.length ≤ 0) :
    install os targetDevice imagePath image imageSize s =
      (some false, (atFormat os targetDevice.deviceNum s).record (.clearMbrGpt path false)) := by
  rw [atFormat] at hverify ⊢
  simp only [install, bind_apply, hpath, formatShared, clearMbrGpt, hverify, decide_false]
  rfl

theorem opened_atWrite (deviceNum : Nat) :
    Opened (driveOpened os deviceNum s).1 (imageOpened os deviceNum imagePath s).1
      (atWrite os deviceNum imagePath s) := by
  have hfresh : Fresh (driveOpened os deviceNum s).1 (driveOpened os deviceNum s).2 :=
    fresh_openDrive _ _ _ _ _ _ trivial
  have himage : Opened (driveOpened os deviceNum s).1 (imageOpened os deviceNum imagePath s).1
      (imageOpened os deviceNum imagePath s).2 := opened_openImage _ _ hfresh
  exact (himage.quiet (opening_quiet.getLogicalHandle _ _ _ _ _)).quiet
    (quiet_deviceIoControl _ _ _)

theorem imageOpened_ne_invalid_iff (deviceNum : Nat) :
    (imageOpened os deviceNum imagePath s).1 ≠ .invalid ↔
      os.createFile (driveOpened os deviceNum s).2.calls.length = none := by
  cases hcreate : os.createFile (driveOpened os deviceNum s).2.calls.length <;>
    simp [imageOpened, openImage, bind_apply, createFile, hcreate, pure_apply]

theorem install_eq_installImage (hpath : getPhysicalName targetDevice.deviceNum = some path)
    (hverify : os.verify (atFormat os targetDevice.deviceNum s).calls.length ≤ 0)
    {sectorSize driveSize : Nat}
    (hreports : Reports os targetDevice.deviceNum s sectorSize driveSize) :
    install os targetDevice imagePath image imageSize s =
      installImage os targetDevice.deviceNum imagePath image imageSize sectorSize driveSize
        (atOpen os targetDevice.deviceNum s) := by
  have hformat : formatShared os (getPhysicalName targetDevice.deviceNum)
      (atFormat os targetDevice.deviceNum s) = (some true, atOpen os targetDevice.deviceNum s) := by
    rw [hpath, atOpen, hpath]
    simp only [formatShared, bind_apply, clearMbrGpt, hverify, decide_true]
    rfl
  rw [atFormat] at hformat
  rw [install_of_reports hreports, bind_apply, hformat]

/-- `Install` after `WriteDrive`: the handles are closed. -/
def closeAll (drive volume source : Handle) : Option Bool → StateM System (Option Bool)
  | none => pure none
  | some ret => do
    let _ ← safeClosehandle drive
    let _ ← safeClosehandle volume
    let _ ← safeClosehandle source
    return some ret

theorem closeAll_fst (drive volume source : Handle) (r : Option Bool) (s : System) :
    (closeAll drive volume source r s).1 = r := by
  cases r <;> rfl

theorem adds_closeAll (drive volume source : Handle) (r : Option Bool) :
    Keeps (Adds Call.opens) (closeAll drive volume source r) := by
  cases r with
  | none => exact .pure _
  | some ret =>
    have hclose (handle : Handle) : Keeps (Adds Call.opens) (safeClosehandle handle) :=
      keeps_safeClosehandle fun _ => adds_of_calls rfl rfl
    refine .bind (hclose drive) fun _ => ?_
    refine .bind (hclose volume) fun _ => ?_
    exact .bind (hclose source) fun _ => .pure _

theorem installImage_eq (deviceNum sectorSize driveSize : Nat) :
    installImage os deviceNum imagePath image imageSize sectorSize driveSize
        (atOpen os deviceNum s) =
      (writeDrive os image (driveOpened os deviceNum s).1 (imageOpened os deviceNum imagePath s).1
          sectorSize driveSize imageSize (image.length + 1) >>=
        closeAll (driveOpened os deviceNum s).1 (volumeOpened os deviceNum imagePath s).1
          (imageOpened os deviceNum imagePath s).1) (atWrite os deviceNum imagePath s) := by
  have hclose : closeAll (driveOpened os deviceNum s).1 (volumeOpened os deviceNum imagePath s).1
      (imageOpened os deviceNum imagePath s).1 = fun r => match r with
        | none => pure none
        | some ret => do
          let _ ← safeClosehandle (driveOpened os deviceNum s).1
          let _ ← safeClosehandle (volumeOpened os deviceNum imagePath s).1
          let _ ← safeClosehandle (imageOpened os deviceNum imagePath s).1
          return some ret := by
    funext r
    cases r <;> rfl
  rw [hclose]
  rfl

theorem not_hasWritten_atWrite (hs : s.calls = []) (deviceNum : Nat) :
    ¬ HasWritten (atWrite os deviceNum imagePath s) := by
  obtain ⟨hdrive, himage, hvolume⟩ := adds_volumeOpened os deviceNum imagePath s
  have hopens {t t' : System} (h : Adds Call.opens t t') (hwritten : HasWritten t') :
      HasWritten t :=
    hwritten.of_adds h fun _ => Call.not_isWrite_of_opens
  rintro ⟨call, hmem, hwrite⟩
  rcases List.mem_cons.mp hmem with rfl | hmem
  · cases hwrite
  obtain ⟨call, hmem, hwrite⟩ := hopens hdrive (hopens himage (hopens hvolume ⟨call, hmem, hwrite⟩))
  rcases List.mem_cons.mp hmem with rfl | hmem
  · cases hwrite
  obtain ⟨call, hmem, -⟩ := hopens adds_atFormat ⟨call, hmem, hwrite⟩
  rw [hs] at hmem
  cases hmem

theorem recorded_of_not_hasWritten {deviceNum : Nat} {t : System} (h : ¬ HasWritten t) :
    Recorded (Guarded os deviceNum imagePath s) t.calls := by
  rw [recorded_iff]
  intro after call before heq
  cases call with
  | writeFile handle offset data written =>
    exact absurd ⟨_, heq ▸ List.mem_append_right _ List.mem_cons_self, rfl⟩ h
  | _ => trivial

theorem getSectorSize_lt (deviceNum : Nat) : (getSectorSize os deviceNum s).1 < 2 ^ 32 := by
  rw [getSectorSize, bind_apply]
  cases (getGeometry os deviceNum s).1 with
  | none => exact Nat.two_pow_pos 32
  | some geometry => exact geometry.bytesPerSector.toNat_lt

theorem recorded_writeDrive_iff {deviceNum sectorSize driveSize : Nat} {drive source : Handle}
    {t : System} (hclean : ¬ HasWritten t) (hopened : Opened drive source t)
    (hsector : sectorSize < 2 ^ 32) (turns : Nat) :
    Recorded (Guarded os deviceNum imagePath s)
        (writeDrive os image drive source sectorSize driveSize imageSize (turns + 1) t).2.calls ↔
      (source ≠ .invalid ∧ WriteReached os image sectorSize driveSize t →
        Held os deviceNum imagePath s drive t.calls) := by
  obtain ⟨new, hnew, hcopies⟩ : Adds (Call.copies drive) t
      (writeDrive os image drive source sectorSize driveSize imageSize (turns + 1) t).2 :=
    adds_writeDrive _ _ _ _ t
  have hwrites : HasWritten
      (writeDrive os image drive source sectorSize driveSize imageSize (turns + 1) t).2 ↔
        ∃ call ∈ new, call.isWrite = true := by
    rw [HasWritten, hnew]
    constructor
    · rintro ⟨call, hmem, hwrite⟩
      exact ⟨call, (List.mem_append.mp hmem).resolve_right fun hmem => hclean ⟨call, hmem, hwrite⟩,
        hwrite⟩
    · rintro ⟨call, hmem, hwrite⟩
      exact ⟨call, List.mem_append_left _ hmem, hwrite⟩
  rw [hasWritten_writeDrive_iff hclean hopened.ne_null hopened.ne hopened.freshSource hsector]
    at hwrites
  rw [hwrites, hnew, recorded_append_iff hcopies,
    and_iff_right (recorded_of_not_hasWritten hclean)]

/-- The writes of `Install` are guarded if and only if there are none, or it holds the drive and its
volume when it calls `WriteDrive`. -/
theorem recorded_install_iff (hpath : getPhysicalName targetDevice.deviceNum = some path)
    (hverify : os.verify (atFormat os targetDevice.deviceNum s).calls.length ≤ 0)
    (hs : s.calls = []) :
    Recorded (Guarded os targetDevice.deviceNum imagePath s)
        (install os targetDevice imagePath image imageSize s).2.calls ↔
      (InstallWrites os targetDevice.deviceNum imagePath image s →
        Held os targetDevice.deviceNum imagePath s (driveOpened os targetDevice.deviceNum s).1
          (atWrite os targetDevice.deviceNum imagePath s).calls) := by
  rw [install_eq_installImage hpath hverify ⟨rfl, rfl⟩, installImage_eq, bind_apply,
    recorded_adds_iff (adds_closeAll _ _ _ _ _) fun _ => Call.not_isWrite_of_opens,
    recorded_writeDrive_iff (not_hasWritten_atWrite hs _) (opened_atWrite _) (getSectorSize_lt _),
    imageOpened_ne_invalid_iff]
  refine imp_congr_left ⟨fun h => ?_, fun h => ?_⟩
  · exact ⟨by rw [hpath]; rfl, hverify, h.1, _, _, ⟨rfl, rfl⟩, h.2⟩
  · obtain ⟨-, -, hcreate, sectorSize, driveSize, ⟨rfl, rfl⟩, hreached⟩ := h
    exact ⟨hcreate, hreached⟩

theorem install_of_no_path (hpath : getPhysicalName targetDevice.deviceNum = none) :
    install os targetDevice imagePath image imageSize s =
      (none, atFormat os targetDevice.deviceNum s) := by
  simp only [install, bind_apply, hpath, formatShared]
  rfl

theorem not_hasWritten_atFormat (hs : s.calls = []) (deviceNum : Nat) :
    ¬ HasWritten (atFormat os deviceNum s) := by
  intro h
  obtain ⟨call, hmem, -⟩ := h.of_adds adds_atFormat fun _ => Call.not_isWrite_of_opens
  rw [hs] at hmem
  cases hmem

theorem install_returns (hpath : getPhysicalName targetDevice.deviceNum = some path) :
    ∃ ret, (install os targetDevice imagePath image imageSize s).1 = some ret := by
  by_cases hverify : os.verify (atFormat os targetDevice.deviceNum s).calls.length ≤ 0
  · rw [install_eq_installImage hpath hverify ⟨rfl, rfl⟩, installImage_eq, bind_apply, closeAll_fst]
    have hopened : Opened (driveOpened os targetDevice.deviceNum s).1 _
        (atWrite os targetDevice.deviceNum imagePath s) := opened_atWrite _
    exact writeDrive_returns hopened.ne_null hopened.ne imageSize
  · exact ⟨false, congrArg Prod.fst (install_of_not_cleared hpath hverify)⟩

/-- Returning and closing never fail. -/
theorem protected_iff_writes {status : Nat} :
    Protected os targetDevice imagePath image imageSize status ↔
      Recorded (Guarded os targetDevice.deviceNum imagePath { formatStatus := status })
        (install os targetDevice imagePath image imageSize { formatStatus := status }).2.calls := by
  refine ⟨Protected.writes, fun hwrites => ⟨hwrites, fun path hpath => install_returns hpath, ?_⟩⟩
  intro ret hret n hn
  have hnothing : Accounted [] { formatStatus := status } := by
    constructor <;> simp [Created]
  have hacc := accounted_install targetDevice imagePath image imageSize _ hnothing ret hret
  have honce := hacc.once n hn
  simpa using honce

theorem Protected.held {status : Nat}
    (h : Protected os targetDevice imagePath image imageSize status)
    (hpath : getPhysicalName targetDevice.deviceNum = some path)
    (hverify : os.verify
      (atFormat os targetDevice.deviceNum { formatStatus := status }).calls.length ≤ 0)
    (hwrites : InstallWrites os targetDevice.deviceNum imagePath image { formatStatus := status }) :
    Held os targetDevice.deviceNum imagePath { formatStatus := status }
      (driveOpened os targetDevice.deviceNum { formatStatus := status }).1
      (atWrite os targetDevice.deviceNum imagePath { formatStatus := status }).calls :=
  (recorded_install_iff hpath hverify rfl).mp h.writes hwrites

/-- **When `Install` writes under lock and key.** For every device, image and outcome of the calls,
each `WriteFile` of `Install` comes after `clearMbrGpt` has returned true, and while the drive is
open and locked and the volume that `GetLogicalName` finds is open, locked and dismounted, if and
only if no `WriteFile` is reached or the drive and the volume are opened and locked within the tries
that there are and the volume is dismounted. In any case `Install` returns when there is a path to
the drive, and has closed each handle once. -/
theorem protected_iff (os : Os) (targetDevice : DeviceGuy) (imagePath : String)
    (image : List UInt8) (imageSize : Int) (status : Nat) :
    Protected os targetDevice imagePath image imageSize status ↔
      (InstallWrites os targetDevice.deviceNum imagePath image { formatStatus := status } →
        Secured os targetDevice.deviceNum imagePath { formatStatus := status }) := by
  rw [protected_iff_writes]
  cases hpath : getPhysicalName targetDevice.deviceNum with
  | none =>
    rw [install_of_no_path hpath]
    refine ⟨fun _ hwrites => ?_, fun _ => ?_⟩
    · rw [InstallWrites, hpath] at hwrites
      cases hwrites.1
    · exact recorded_of_not_hasWritten (not_hasWritten_atFormat rfl _)
  | some path =>
    by_cases hverify : os.verify
        (atFormat os targetDevice.deviceNum { formatStatus := status }).calls.length ≤ 0
    · rw [recorded_install_iff hpath hverify rfl, held_atWrite_iff hpath rfl]
    · rw [install_of_not_cleared hpath hverify]
      refine ⟨fun _ hwrites => absurd hwrites.2.1 hverify, fun _ => ?_⟩
      rw [recorded_adds_iff (P := fun call => !call.isWrite) (adds_of_calls rfl rfl) (by simp)]
      exact recorded_of_not_hasWritten (not_hasWritten_atFormat rfl _)

end Protected

/-- A drive with one volume, on which no control code succeeds once the drive has been locked. -/
def volumeInUse : Os :=
  { alwaysAnswers 512 1024 with
    volumes := fun _ =>
      [⟨"\\\\?\\Volume\\", .removable, some "\\Device\\HarddiskVolume1", some [0]⟩]
    deviceIoControl := fun calls => decide (calls < 17) }

/-- The volume is found and cannot be locked or dismounted, and the drive is written all the
same. -/
theorem written_with_volume_in_use :
    (getLogicalName volumeInUse sample.deviceNum false
        (imageOpened volumeInUse sample.deviceNum "image.bin" {}).2).1 = some "\\\\?\\Volume" ∧
      (volumeOpened volumeInUse sample.deviceNum "image.bin" {}).1 = .invalid ∧
      (install volumeInUse sample "image.bin" [7] 1 {}).1 = some true ∧
      ((install volumeInUse sample "image.bin" [7] 1 {}).2.calls.any Call.isWrite) = true ∧
      ¬ Protected volumeInUse sample "image.bin" [7] 1 0 := by
  have hname : (getLogicalName volumeInUse sample.deviceNum false
      (imageOpened volumeInUse sample.deviceNum "image.bin" {}).2).1 = some "\\\\?\\Volume" := by
    decide +kernel
  have hvolume : (volumeOpened volumeInUse sample.deviceNum "image.bin" {}).1 = .invalid := by
    decide +kernel
  have hret : (install volumeInUse sample "image.bin" [7] 1 {}).1 = some true := by decide +kernel
  have hany :
      (install volumeInUse sample "image.bin" [7] 1 {}).2.calls.any Call.isWrite = true := by
    decide +kernel
  refine ⟨hname, hvolume, hret, hany, fun h => ?_⟩
  have hverify (calls : Nat) : volumeInUse.verify calls ≤ 0 := Int.le_refl 0
  have hcreate (calls : Nat) : volumeInUse.createFile calls = none := rfl
  have hread (calls : Nat) : volumeInUse.readFile calls = true := rfl
  have hblock (calls : Nat) : ∃ block, volumeInUse.mmMalloc calls = some block ∧
      block.address % effectiveSectorSize 512 = 0 := ⟨⟨512, fun _ => 0⟩, rfl, by decide⟩
  have hreports : Reports volumeInUse sample.deviceNum {} 512 1024 :=
    ⟨by decide +kernel, by decide +kernel⟩
  have hwrites : InstallWrites volumeInUse sample.deviceNum "image.bin" [7] {} :=
    ⟨by decide, hverify _, hcreate _, 512, 1024, hreports, ⟨9, rfl⟩, hblock _, by decide, hread _,
      by decide⟩
  have hheld := h.held sample_path.1 (hverify _) hwrites
  obtain ⟨handle, -, -, -, -, hdismount⟩ := hheld.volume _ hname
  obtain ⟨hhandle, ⟨n, hn⟩, -⟩ := (dismounted_iff rfl handle).mp hdismount
  rw [hhandle, hvolume] at hn
  cases hn

end UsbMaker.Disk
