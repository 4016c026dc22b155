import UsbMaker.Data
import UsbMaker.Devices.Score

/-!
# The enumeration of devices

`GetDevices` goes over the disk devices of the machine. It classifies a device by what its registry
properties say, looks for its USB ids, eliminates some kinds of devices, and then goes over the
interfaces of the device, each of which ends in one of three ways: it is skipped, the device is
eliminated and its other interfaces are not looked at, or a `DeviceGuy` is appended.

A `Computer` is one way for all the queries to end. Each query about a device or an interface has
its own answer, also where the same function is asked twice. The map from device ids to hubs is
known by its results: whether an id has a hub, and what the hub says of the device.

## Main definitions

* `Devices.Computer`, `Devices.Device`, `Devices.Interface`: the answers.
* `Devices.getDriveNumber`, `Devices.getDriveLettersAndType`, `Devices.getDriveLabel`.
* `Devices.classify`, `Devices.examine`, `Devices.getDevices`.
-/

namespace UsbMaker.Devices

open Disk (DriveType driveIndexMin driveIndexMax checkDriveIndex)

/-- `enable_HDDs`. -/
def enableHdds : Bool := false

/-- `list_non_usb_removable_drives`. -/
def listNonUsbRemovableDrives : Bool := false

/-- `enable_vmdk`. -/
def enableVmdk : Bool := false

/-- `MIN_DRIVE_SIZE`, in megabytes. -/
def minDriveSize : Nat := 8

/-! ### Drive numbers and drive letters -/

/-- The answers about the number of a drive: the disk numbers of its extents, and the number of the
device; `none` when a query fails or returns nothing. -/
structure DriveNumber where
  extents : Option (List UInt32)
  deviceNumber : Option UInt32
  deriving DecidableEq, Repr

/-- `GetDriveNumber`. -/
def getDriveNumber (answers : DriveNumber) : Int :=
  let number : Option UInt32 :=
    match answers.extents with
    | none | some [] => answers.deviceNumber
    | some [disk] => some disk
    | some _ => none
  match number with
  | none => -1
  | some number =>
    let r := number.toInt32.toInt
    if (driveIndexMax - driveIndexMin : Nat) ≤ r then -1 else r

/-- A drive of `GetLogicalDriveStrings`, with the answers about it. -/
structure LogicalDrive where
  letter : Char
  driveType : DriveType
  /-- Whether it can be opened. -/
  opens : Bool
  number : DriveNumber
  deriving DecidableEq, Repr

/-- What `GetLogicalDriveStrings` returns, and the drives that it names. -/
structure LogicalDrives where
  size : Nat
  drives : List LogicalDrive
  deriving DecidableEq, Repr

/-- The size of the buffer for `GetLogicalDriveStrings`. -/
def drivesSize : Nat := 26 * 4 + 1

/-- Whether `GetLogicalDriveStrings` fills the buffer. -/
def LogicalDrives.succeeds (answers : LogicalDrives) : Bool :=
  answers.size != 0 && answers.size ≤ drivesSize

/-- The tests of `_GetDriveLettersAndType` on a drive. -/
def LogicalDrive.isOn (drive : LogicalDrive) (driveIndex : Nat) : Bool :=
  drive.letter.isAlpha && 'C' ≤ drive.letter.toUpper &&
    (drive.driveType == .removable || drive.driveType == .fixed) && drive.opens &&
    getDriveNumber drive.number == driveIndex

/-- The drives that `_GetDriveLettersAndType` finds on the disk of an index. -/
def LogicalDrives.found (answers : LogicalDrives) (driveIndex : Nat) : List LogicalDrive :=
  answers.drives.filter fun drive => drive.isOn driveIndex

/-- `_GetDriveLettersAndType`: its result, the letters, and the type. -/
def getDriveLettersAndType (deviceNum : Nat) (answers : LogicalDrives) :
    Bool × List Char × DriveType :=
  match checkDriveIndex deviceNum with
  | none => (false, [], .unknown)
  | some driveIndex =>
    if answers.succeeds then
      let drives := answers.found driveIndex
      (true, drives.map fun drive => drive.letter.toUpper,
        (drives.getLast?.map LogicalDrive.driveType).getD .unknown)
    else (false, [], .unknown)

/-- `GetDriveTypeFromIndex`. -/
def getDriveTypeFromIndex (deviceNum : Nat) (answers : LogicalDrives) : DriveType :=
  (getDriveLettersAndType deviceNum answers).2.2

/-- `GetDriveLabel`: the letters, `none` when it returns false. -/
def getDriveLabel (deviceNum : Nat) (answers : LogicalDrives) : Option (List Char) :=
  match getDriveLettersAndType deviceNum answers with
  | (true, letters, _) => some letters
  | (false, _, _) => none

/-! ### The answers about devices -/

/-- The results of the first call of `SetupDiGetDeviceInterfaceDetail`. -/
inductive DummyDetail
  | succeeds
  | insufficientBuffer
  | fails
  deriving DecidableEq, Repr

/-- An interface of a device: what is mounted on its disk, and the answers about it. -/
structure Interface where
  /-- The letters of the drives that are mounted on the disk, whatever the queries say. -/
  mounted : List Char
  dummyDetail : DummyDetail
  /-- Whether there is memory for the details. -/
  allocates : Bool
  /-- The second call of `SetupDiGetDeviceInterfaceDetail`. -/
  actualDetail : Bool
  /-- Whether its path can be opened. -/
  opens : Bool
  number : DriveNumber
  /-- `IsMediaPresent`. -/
  media : Bool
  /-- `GetDriveSize`. -/
  driveSize : UInt64
  /-- The query of `GetDriveLabel`. -/
  labelDrives : LogicalDrives
  /-- `GetDriveType` for each letter. -/
  letterType : Char → DriveType
  /-- The query of `IsHDD` for the drive type. -/
  typeDrives : LogicalDrives
  /-- The query of `IsHDD` for the drive size. -/
  hddSize : UInt64
  /-- `GetDriveSize` for the device that is appended. -/
  numBytes : UInt64

/-- The answers about a device id, when it is compared with a device. -/
structure IdAnswers where
  /-- The child of the node of the id and its siblings, `none` when there is no node or child. -/
  instances : Option (List Nat)
  /-- Whether the hash of the id leads to a hub. -/
  hasHub : Bool
  /-- The parent of the node, and whether its id leads to a hub; `none` when it is not found. -/
  grandparent : Option Bool
  /-- `GetUSBProperties`: the ids, `none` when it returns false. -/
  usbProperties : Option (UInt16 × UInt16)
  deriving DecidableEq, Repr

/-- A disk device. A registry property is `none` when the query fails. -/
structure Device where
  enumeratorName : Option String
  hardwareId : Option String
  removalPolicy : Option UInt32
  friendlyName : Option String
  devInst : Nat
  /-- By the place of the id in the list. -/
  idAnswers : Nat → IdAnswers
  interfaces : List Interface

/-- An entry of `devid_list`, with its offset. -/
structure DeviceId where
  offset : Nat
  text : String
  deriving DecidableEq, Repr

/-- `devid_list` and `list_start[uasp_start]`. -/
structure DeviceIds where
  ids : List DeviceId
  uaspListStart : Nat
  deriving DecidableEq, Repr

/-- The machine that `GetDevices` runs on. -/
structure Computer where
  /-- `sizeof` of a pointer. -/
  pointerSize : Nat
  /-- Whether there is memory for the device ids. -/
  allocates : Bool
  /-- `none` stands for a null pointer. -/
  devidList : Option DeviceIds
  /-- The disk devices, `none` when `SetupDiGetClassDevs` fails. -/
  disks : Option (List Device)

/-! ### The classification of a device -/

/-- `usbstor_name`. -/
def usbstorName : List String :=
  ["USBSTOR", "RTSUER", "CMIUCR", "EUCR", "UASPSTOR", "VUSBSTOR", "ETRONSTOR", "ASUSSTPT"]

/-- `genstor_name`. -/
def genstorName : List String :=
  ["SCSI", "SD", "PCISTOR", "RTSOR", "JMCR", "JMCF", "RIMMPTSK", "RIMSPTSK", "RIXDPTSK",
    "TI21SONY", "ESD7SK", "ESM7SK", "O2MD", "O2SD", "VIACR"]

/-- `scsi_disk_prefix`. -/
def scsiDiskPrefix : String := "SCSI\\Disk"

/-- `scsi_card_name`. -/
def scsiCardName : List String :=
  ["_SD_", "_MMC_", "_MS_", "_MSPro_", "_xDPicture_", "_O2Media_"]

/-- `vhd_name`. -/
def vhdName : List String :=
  ["Arsenal_________Virtual_", "KernSafeVirtual_________", "Msft____Virtual_Disk____",
    "VMware__VMware_Virtual_S"]

/-- `uasp_start`. -/
def uaspStart : Nat := usbstorName.findIdx (· == "UASPSTOR")

/-- `card_start`. -/
def cardStart : Nat := genstorName.findIdx (· == "SD")

/-- `IsVHD`. -/
def isVhd (buffer : String) : Bool :=
  (vhdName.take (vhdName.length - if enableVmdk then 0 else 1)).any (strstr buffer)

/-- `IsRemovable`. -/
def isRemovable (policy : UInt32) : Bool := policy == 3 || policy == 2

/-- The members of `usb_device_props` that decide. -/
structure Props where
  vid : Nat := 0
  pid : Nat := 0
  isUsb : Bool := false
  isScsi : Bool := false
  isCard : Bool := false
  isUasp : Bool := false
  isVhd : Bool := false
  isRemovable : Bool := false
  deriving DecidableEq, Repr

/-- The value of a hexadecimal digit. -/
def hexDigit (c : Char) : Option Nat :=
  if c.isDigit then some (c.toNat - '0'.toNat)
  else if 'a' ≤ c ∧ c ≤ 'f' then some (c.toNat - 'a'.toNat + 10)
  else if 'A' ≤ c ∧ c ≤ 'F' then some (c.toNat - 'A'.toNat + 10)
  else none

/-- `isspace`. -/
def isSpace (c : Char) : Bool := [' ', '\t', '\n', '\x0b', '\x0c', '\r'].contains c

/-- `strtoul` with base 16, for an `unsigned long` of 32 bits. -/
def strtoul (str : List Char) : Nat :=
  let str := str.dropWhile isSpace
  let (negative, str) :=
    match str with
    | '-' :: str => (true, str)
    | '+' :: str => (false, str)
    | _ => (false, str)
  let str :=
    match str with
    | '0' :: x :: digit :: rest =>
      if (x == 'x' || x == 'X') && (hexDigit digit).isSome then digit :: rest else str
    | _ => str
  let value := ((str.map hexDigit).takeWhile Option.isSome).foldl
    (fun value digit => value * 16 + digit.getD 0) 0
  if 2 ^ 32 ≤ value then 2 ^ 32 - 1
  else if negative then (2 ^ 32 - value) % 2 ^ 32
  else value

/-- The loop that looks for `VID_xxxx&PID_xxxx` in a device id, with the count `l` and the values
found so far. -/
def scanIds : List Char → Bool → Nat → Nat × Nat → Nat × Nat
  | [], _, _, ids => ids
  | c :: str, postBackslash, l, (vid, pid) =>
    if 2 ≤ l then (vid, pid)
    else
      let postBackslash := postBackslash || c == '\\'
      if postBackslash && c == '_' then
        let value := strtoul str % 2 ^ 16
        scanIds str postBackslash (l + 1) (if l = 0 then value else vid, value)
      else scanIds str postBackslash l (vid, pid)

/-- The walk over the device ids: the properties with the ids of the first one that matches. -/
def matchIds (devidList : DeviceIds) (device : Device) (props : Props) : Props :=
  match devidList.ids.zipIdx.find? fun (_, k) =>
      (device.idAnswers k).instances.any fun instances => instances.contains device.devInst with
  | none => props
  | some (id, k) =>
    let answers := device.idAnswers k
    let (vid, pid) := scanIds (id.text.toList.map Char.toUpper) false 0 (0, 0)
    let props := { props with isUasp := devidList.uaspListStart ≤ id.offset + 2, vid, pid }
    if answers.hasHub || answers.grandparent == some true then
      match answers.usbProperties with
      | none => props
      | some (vid, pid) => { props with vid := vid.toNat, pid := pid.toNat }
    else props

/-- The enumerator of a device: whether it is USB or SCSI, and whether it is a card reader. The
name is compared with the first of `usbstor_name` in every turn of the loop. -/
def classifyEnumerator (enumerator : String) : Props :=
  let usb := usbstorName.findIdx? fun _ => stricmp enumerator (usbstorName.headD "")
  let scsi := genstorName.findIdx? fun name => stricmp enumerator name
  { isUsb := usb.isSome
    isScsi := scsi.isSome
    isCard := (usb.any fun j => j ≠ 0 && j < uaspStart) || scsi.any fun j => cardStart ≤ j }

/-- The properties of a device, and the name in `buffer`; `none` when a query for them fails or the
enumerator is not known. -/
def readProps (computer : Computer) (device : Device) : Option (Props × String) :=
  match device.enumeratorName with
  | none => none
  | some enumerator =>
    let props := classifyEnumerator enumerator
    if !props.isUsb && !props.isScsi then none
    else
      let buffer := device.hardwareId.getD ""
      let props := { props with
        isVhd := device.hardwareId.any isVhd
        -- `sizeof` takes the size of the pointer, not that of the text
        isCard := props.isCard || (strnicmp buffer scsiDiskPrefix (computer.pointerSize - 1) &&
          scsiCardName.any (strstr buffer))
        isRemovable := device.removalPolicy.any isRemovable }
      match device.friendlyName with
      | none => some (props, "USB Storage Device (Generic)")
      | some name =>
        match computer.devidList with
        | none => some (props, name)
        | some devidList =>
          some (if props.isVhd then props else matchIds devidList device props, name)

/-- Whether a device is eliminated before its interfaces are looked at. -/
def isEliminated (props : Props) : Bool :=
  let noIds := props.vid == 0 && props.pid == 0
  if props.isVhd then false
  else if props.isCard && (!props.isUsb || noIds) then false
  else if !props.isUsb && !props.isUasp && props.isRemovable then !listNonUsbRemovableDrives
  else noIds && !props.isUsb

/-- The properties and the name of a device whose interfaces are looked at. -/
def classify (computer : Computer) (device : Device) : Option (Props × String) :=
  (readProps computer device).filter fun entry => !isEliminated entry.1

/-! ### The interfaces of a device -/

/-- How the turn of the loop for an interface ends. -/
inductive Outcome
  /-- `continue`. -/
  | skipped
  /-- `break`. -/
  | eliminated
  | appended (device : DeviceGuy)
  deriving DecidableEq, Repr

/-- The index of the drive of an interface, `none` when the interface is skipped. -/
def Interface.driveIndex (interface : Interface) : Option Nat :=
  if interface.dummyDetail = .insufficientBuffer ∧ interface.allocates ∧ interface.actualDetail ∧
      interface.opens ∧ 0 ≤ getDriveNumber interface.number then
    some ((getDriveNumber interface.number).toNat + driveIndexMin)
  else none

/-- A drive that is not removable, or has a letter that is not, under an enumerator that is not
one of USB. -/
def failsScsi (props : Props) (interface : Interface) (letters : List Char) : Bool :=
  props.isScsi && !props.isUasp && !props.isVhd &&
    (!props.isRemovable || (!listNonUsbRemovableDrives &&
      letters.any fun letter => interface.letterType letter != .removable))

/-- A drive that `IsHDD` takes for a hard drive. -/
def failsHdd (props : Props) (name : String) (interface : Interface) (driveIndex : Nat) : Bool :=
  !enableHdds && !props.isVhd && !props.isCard &&
    decide (0 < isHdd (getDriveTypeFromIndex driveIndex interface.typeDrives)
      interface.hddSize.toNat (props.vid % 2 ^ 16) (props.pid % 2 ^ 16) name)

/-- A turn of the loop over the interfaces. -/
def examine (props : Props) (name : String) (interface : Interface) : Outcome :=
  match interface.driveIndex with
  | none => .skipped
  | some driveIndex =>
    if !interface.media then .eliminated
    else if interface.driveSize.toNat < minDriveSize * mb then .eliminated
    else
      let guy : DeviceGuy := ⟨driveIndex, name, interface.numBytes.toNat⟩
      match getDriveLabel driveIndex interface.labelDrives with
      | some letters =>
        if failsScsi props interface letters then .eliminated
        else if failsHdd props name interface driveIndex then .eliminated
        else .appended guy
      | none => .appended guy

/-- A `DeviceGuy` that is appended, with the device and the interface it is appended for. -/
structure Listed where
  props : Props
  name : String
  interface : Interface
  guy : DeviceGuy

/-- The loop over the interfaces. -/
def listInterfaces (props : Props) (name : String) : List Interface → List Listed
  | [] => []
  | interface :: interfaces =>
    match examine props name interface with
    | .skipped => listInterfaces props name interfaces
    | .eliminated => []
    | .appended guy => ⟨props, name, interface, guy⟩ :: listInterfaces props name interfaces

/-- What is appended for a device. -/
def listDevice (computer : Computer) (device : Device) : List Listed :=
  match classify computer device with
  | none => []
  | some (props, name) => listInterfaces props name device.interfaces

/-- The devices that are appended, with what they are appended for. -/
def listing (computer : Computer) : List Listed :=
  if computer.allocates then (computer.disks.getD []).flatMap (listDevice computer) else []

/-- `GetDevices`. -/
def getDevices (computer : Computer) : List DeviceGuy := (listing computer).map Listed.guy

end UsbMaker.Devices
