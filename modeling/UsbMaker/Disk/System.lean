import Mathlib.Algebra.Group.Nat.Defs
import Mathlib.Algebra.Ring.Int.Defs
import Mathlib.Order.Basic
import UsbMaker.Run.Program

/-!
# The calls of the operating system

The part of `gondar.cc` that writes to a drive calls Windows. An `Os` is one way for these calls to
end: it has an answer for each call, which may depend on how many calls were made before, so that
every sequence of outcomes belongs to some `Os`. The calls themselves work on a `System`, which has
the file pointers of the open files, the global `FormatStatus`, and the calls made so far.

What is documented of the calls is built in: `ReadFile` on an open file fails or reads up to the
end of the file, `WriteFile` writes at most what it is given, a call on a handle that is not open
fails, and `_mm_malloc` has no memory for an alignment that is not a power of two.

## Main definitions

* `Disk.Handle`, `Disk.Os`, `Disk.Call`, `Disk.System`.
* `Disk.createFile`, `Disk.deviceIoControl`, `Disk.readFile`, `Disk.writeFile` and so on.
-/

namespace UsbMaker.Disk

/-- A `HANDLE`. A file is known by how many calls were made before it was opened. -/
inductive Handle
  | null
  /-- `INVALID_HANDLE_VALUE`. -/
  | invalid
  | file (n : Nat)
  deriving DecidableEq, Repr

/-- The values of `GetLastError` that are told apart. -/
inductive OpenError
  | sharingViolation
  | accessDenied
  | other
  deriving DecidableEq, Repr

/-- The control codes that return nothing but success. -/
inductive IoControl
  | allowExtendedDasdIo
  | lockVolume
  | dismountVolume
  | updateProperties
  deriving DecidableEq, Repr

/-- The members of `DISK_GEOMETRY_EX` that are read; `DiskSize` as the unsigned number it is
converted to. -/
structure Geometry where
  bytesPerSector : UInt32
  diskSize : UInt64
  deriving DecidableEq, Repr

/-- The results of `GetDriveType`. -/
inductive DriveType
  | unknown
  | noRootDir
  | removable
  | fixed
  | remote
  | cdrom
  | ramdisk
  deriving DecidableEq, Repr

/-- A volume that `FindFirstVolume` and `FindNextVolume` report, with the answers about it. -/
structure Volume where
  name : String
  driveType : DriveType
  /-- `QueryDosDevice`, `none` when it fails. -/
  dosDevice : Option String
  /-- The disk numbers of `VOLUME_DISK_EXTENTS`, `none` when the query fails. -/
  extents : Option (List Nat)
  deriving DecidableEq, Repr

/-- A block of memory. -/
structure Block where
  address : Nat
  contents : Nat → UInt8

/-- The answers to the calls, by how many calls were made before. -/
structure Os where
  /-- `CreateFile`, `none` when the file is opened. -/
  createFile : Nat → Option OpenError
  deviceIoControl : Nat → Bool
  /-- `IOCTL_DISK_GET_DRIVE_GEOMETRY_EX`, `none` when it fails or returns nothing. -/
  geometry : Nat → Option Geometry
  volumes : Nat → List Volume
  /-- The problems that `GPTData::Verify` counts. -/
  verify : Nat → Int
  mmMalloc : Nat → Option Block
  setFilePointerEx : Nat → Bool
  readFile : Nat → Bool
  /-- `WriteFile`: how much it writes, `none` when it fails. -/
  writeFile : Nat → Option Nat

/-- The calls, with their arguments and results. -/
inductive Call
  | createFile (path : String) (write share : Bool) (handle : Handle)
  | closeHandle (handle : Handle)
  | deviceIoControl (handle : Handle) (code : IoControl) (ok : Bool)
  | geometry (handle : Handle) (result : Option Geometry)
  | volumes (result : List Volume)
  | volumeDiskExtents (handle : Handle) (result : Option (List Nat))
  | clearMbrGpt (path : String) (ok : Bool)
  | sleep (ms : Nat)
  | mmMalloc (size alignment : Nat) (ok : Bool)
  | setFilePointerEx (handle : Handle) (offset : Nat) (ok : Bool)
  | readFile (handle : Handle) (size : Nat) (data : Option (List UInt8))
  /-- `WriteFile` at an offset, and how much it has written. -/
  | writeFile (handle : Handle) (offset : Nat) (data : List UInt8) (written : Option Nat)
  deriving DecidableEq, Repr

/-- The state that the calls work on. -/
structure System where
  /-- The global `FormatStatus`. -/
  formatStatus : Nat := 0
  /-- The file pointers. -/
  position : Handle → Nat := fun _ => 0
  /-- The calls made so far, newest first. -/
  calls : List Call := []

/-- The state with a call added to those made. -/
def System.record (s : System) (call : Call) : System := { s with calls := call :: s.calls }

/-- `CreateFile` for an existing file. -/
def createFile (os : Os) (path : String) (write share : Bool) :
    StateM System (Except OpenError Handle) := fun s =>
  match os.createFile s.calls.length with
  | some error => (.error error, s.record (.createFile path write share .invalid))
  | none =>
    (.ok (.file s.calls.length),
      { s.record (.createFile path write share (.file s.calls.length)) with
        position := Function.update s.position (.file s.calls.length) 0 })

def closeHandle (handle : Handle) : StateM System Unit := fun s =>
  ((), s.record (.closeHandle handle))

/-- The macro `safe_closehandle`, with the new value of the variable. -/
def safeClosehandle (handle : Handle) : StateM System Handle := do
  match handle with
  | .null | .invalid => return handle
  | .file _ =>
    closeHandle handle
    return .invalid

/-- `DeviceIoControl` with a control code that returns nothing. -/
def deviceIoControl (os : Os) (handle : Handle) (code : IoControl) : StateM System Bool := fun s =>
  let ok :=
    match handle with
    | .null | .invalid => false
    | .file _ => os.deviceIoControl s.calls.length
  (ok, s.record (.deviceIoControl handle code ok))

/-- `DeviceIoControl` with `IOCTL_DISK_GET_DRIVE_GEOMETRY_EX`. -/
def geometry (os : Os) (handle : Handle) : StateM System (Option Geometry) := fun s =>
  let result :=
    match handle with
    | .null | .invalid => none
    | .file _ => os.geometry s.calls.length
  (result, s.record (.geometry handle result))

/-- The volumes that `FindFirstVolume` and `FindNextVolume` enumerate. -/
def findVolumes (os : Os) : StateM System (List Volume) := fun s =>
  (os.volumes s.calls.length, s.record (.volumes (os.volumes s.calls.length)))

/-- `DeviceIoControl` with `IOCTL_VOLUME_GET_VOLUME_DISK_EXTENTS`. -/
def volumeDiskExtents (volume : Volume) (handle : Handle) : StateM System (Option (List Nat)) :=
  fun s => (volume.extents, s.record (.volumeDiskExtents handle volume.extents))

def sleep (ms : Nat) : StateM System Unit := fun s => ((), s.record (.sleep ms))

/-- `_mm_malloc`. -/
def mmMalloc (os : Os) (size alignment : Nat) : StateM System (Option Block) := fun s =>
  let block := if alignment.isPowerOfTwo then os.mmMalloc s.calls.length else none
  (block, s.record (.mmMalloc size alignment block.isSome))

def setFormatStatus (status : Nat) : StateM System Unit := fun s =>
  ((), { s with formatStatus := status })

/-- `SetFilePointerEx` from the beginning of the file. -/
def setFilePointerEx (os : Os) (handle : Handle) (offset : Nat) : StateM System Bool := fun s =>
  match handle with
  | .null | .invalid => (false, s.record (.setFilePointerEx handle offset false))
  | .file _ =>
    if os.setFilePointerEx s.calls.length then
      (true, { s.record (.setFilePointerEx handle offset true) with
        position := Function.update s.position handle offset })
    else (false, s.record (.setFilePointerEx handle offset false))

/-- `ReadFile` on a handle for the file `contents`. -/
def readFile (os : Os) (contents : List UInt8) (handle : Handle) (size : Nat) :
    StateM System (Option (List UInt8)) := fun s =>
  match handle with
  | .null | .invalid => (none, s.record (.readFile handle size none))
  | .file _ =>
    if os.readFile s.calls.length then
      let data := (contents.drop (s.position handle)).take size
      (some data, { s.record (.readFile handle size (some data)) with
        position := Function.update s.position handle (s.position handle + data.length) })
    else (none, s.record (.readFile handle size none))

/-- `WriteFile`. Where a call that fails leaves the file pointer is never asked. -/
def writeFile (os : Os) (handle : Handle) (data : List UInt8) : StateM System (Option Nat) :=
  fun s =>
    match handle with
    | .null | .invalid => (none, s.record (.writeFile handle (s.position handle) data none))
    | .file _ =>
      match os.writeFile s.calls.length with
      | none => (none, s.record (.writeFile handle (s.position handle) data none))
      | some n =>
        let written := min n data.length
        (some written,
          { s.record (.writeFile handle (s.position handle) data (some written)) with
            position := Function.update s.position handle (s.position handle + written) })

end UsbMaker.Disk
