import UsbMaker.Devices.Enumerate

/-!
# What the filters let through

A device is appended only for an interface that has media and is large enough. There are two ways
around the two other filters, for drives that are not removable and for hard drives. They are asked
only when `GetDriveLabel` returns true, and it returns false when `GetLogicalDriveStrings` fails.
And the first of them knows only of the mounted letters that `_GetDriveLettersAndType` finds: it
passes over the letters before C and over every drive that cannot be opened or that does not say
which disk it is on. This file proves that there is no other way around the filters.

## Main definitions

* `Devices.Passes`: all the filters accept what was appended.
* `Devices.reached`: the interfaces of a device that are looked at.
* `Devices.LettersKnown`: what is known of the letters is enough for an interface.

## Main results

* `Devices.mem_listInterfaces`: what is appended for a device.
* `Devices.listed_pass_iff`.
-/

namespace UsbMaker.Devices

open Disk (DriveType driveIndexMin driveIndexMax checkDriveIndex)

/-- The interfaces of a device that are looked at: up to the first for which it is eliminated. -/
def reached (props : Props) (name : String) : List Interface → List Interface
  | [] => []
  | interface :: interfaces =>
    interface ::
      if examine props name interface = .eliminated then [] else reached props name interfaces

/-- The filters for drives that are not removable and for hard drives accept an interface. The
letters are those that are mounted on its disk, whether or not they are found. -/
structure Accepted (props : Props) (name : String) (interface : Interface) (driveIndex : Nat) :
    Prop where
  scsi : props.isScsi = true → props.isUasp = false → props.isVhd = false →
    props.isRemovable = true ∧
      ∀ letter ∈ interface.mounted, interface.letterType letter = .removable
  hdd : props.isVhd = false → props.isCard = false →
    isHdd (getDriveTypeFromIndex driveIndex interface.typeDrives) interface.hddSize.toNat
      (props.vid % 2 ^ 16) (props.pid % 2 ^ 16) name ≤ 0

/-- A drive that the last two filters see: it has media and is not too small. -/
structure IsCandidate (interface : Interface) (driveIndex : Nat) : Prop where
  index : interface.driveIndex = some driveIndex
  media : interface.media = true
  size : minDriveSize * mb ≤ interface.driveSize.toNat

/-- What was appended has passed all the filters. -/
structure Passes (listed : Listed) : Prop where
  candidate : IsCandidate listed.interface listed.guy.deviceNum
  accepted : Accepted listed.props listed.name listed.interface listed.guy.deviceNum

/-- The letters that are found on the disk of an index. -/
def Interface.lettersFound (interface : Interface) (driveIndex : Nat) : List Char :=
  (interface.labelDrives.found (driveIndex - driveIndexMin)).map fun drive => drive.letter.toUpper

/-- What is known of the letters of a candidate is enough: if none can be read, the filters have
nothing against it; and a letter that is not removable is not overlooked, on a removable drive that
`IsHDD` does not take for a hard drive. -/
structure LettersKnown (props : Props) (name : String) (interface : Interface) (driveIndex : Nat) :
    Prop where
  unread : interface.labelDrives.succeeds = false → Accepted props name interface driveIndex
  found : interface.labelDrives.succeeds = true → failsHdd props name interface driveIndex = false →
    props.isScsi = true → props.isUasp = false → props.isVhd = false → props.isRemovable = true →
      (∃ letter ∈ interface.mounted, interface.letterType letter ≠ .removable) →
        ∃ letter ∈ interface.lettersFound driveIndex, interface.letterType letter ≠ .removable

/-- The condition: enough is known of the letters of every candidate that is reached. -/
def AllLettersKnown (computer : Computer) : Prop :=
  computer.allocates = true → ∀ device ∈ computer.disks.getD [], ∀ props name,
    classify computer device = some (props, name) →
      ∀ interface ∈ reached props name device.interfaces, ∀ driveIndex,
        IsCandidate interface driveIndex → LettersKnown props name interface driveIndex

variable {props : Props} {name : String} {interface : Interface} {driveIndex : Nat}

/-! ### One interface -/

/-- The index of a drive is in the range that `CheckDriveIndex` accepts. -/
theorem checkDriveIndex_of_driveIndex (h : interface.driveIndex = some driveIndex) :
    checkDriveIndex driveIndex = some (driveIndex - driveIndexMin) := by
  rw [Interface.driveIndex] at h
  split_ifs at h with hnumber
  obtain ⟨-, -, -, -, hpos⟩ := hnumber
  obtain rfl := Option.some.inj h
  have hlt : getDriveNumber interface.number < (driveIndexMax - driveIndexMin : Nat) := by
    rw [getDriveNumber]
    dsimp only
    split
    · decide
    · split_ifs with hbig
      · decide
      · omega
  have hmin : driveIndexMin = 128 := rfl
  have hmax : driveIndexMax = 192 := rfl
  have hmod : ((getDriveNumber interface.number).toNat + driveIndexMin) % 2 ^ 32 =
      (getDriveNumber interface.number).toNat + driveIndexMin := Nat.mod_eq_of_lt (by omega)
  rw [checkDriveIndex]
  rw [hmod, if_neg (by omega)]

/-- `GetDriveLabel` returns the letters that are found, when they can be read. -/
theorem getDriveLabel_eq (h : interface.driveIndex = some driveIndex) :
    getDriveLabel driveIndex interface.labelDrives =
      if interface.labelDrives.succeeds then some (interface.lettersFound driveIndex)
      else none := by
  rw [getDriveLabel, getDriveLettersAndType]
  rw [checkDriveIndex_of_driveIndex h]
  dsimp only
  split_ifs <;> rfl

/-- What the filter for drives that are not removable lets through, given the letters. -/
theorem failsScsi_eq_false_iff {letters : List Char} :
    failsScsi props interface letters = false ↔
      (props.isScsi = true → props.isUasp = false → props.isVhd = false →
        props.isRemovable = true ∧
          ∀ letter ∈ letters, interface.letterType letter = .removable) := by
  cases hs : props.isScsi <;> cases hu : props.isUasp <;> cases hv : props.isVhd <;>
    simp [failsScsi, hs, hu, hv, listNonUsbRemovableDrives]

/-- What the filter for hard drives lets through. -/
theorem failsHdd_eq_false_iff :
    failsHdd props name interface driveIndex = false ↔
      (props.isVhd = false → props.isCard = false →
        isHdd (getDriveTypeFromIndex driveIndex interface.typeDrives) interface.hddSize.toNat
          (props.vid % 2 ^ 16) (props.pid % 2 ^ 16) name ≤ 0) := by
  cases hv : props.isVhd <;> cases hc : props.isCard <;> simp [failsHdd, hv, hc, enableHdds]

/-- The two filters, as the code asks them, but of the letters that are mounted. -/
theorem accepted_iff :
    Accepted props name interface driveIndex ↔
      failsScsi props interface interface.mounted = false ∧
        failsHdd props name interface driveIndex = false := by
  rw [failsScsi_eq_false_iff, failsHdd_eq_false_iff]
  exact ⟨fun h => ⟨h.scsi, h.hdd⟩, fun h => ⟨h.1, h.2⟩⟩

/-- What a turn makes of a candidate. -/
theorem examine_of_candidate (h : IsCandidate interface driveIndex) :
    examine props name interface =
      if interface.labelDrives.succeeds = true ∧
          (failsScsi props interface (interface.lettersFound driveIndex) = true ∨
            failsHdd props name interface driveIndex = true) then .eliminated
      else .appended ⟨driveIndex, name, interface.numBytes.toNat⟩ := by
  rw [examine]
  simp only [h.index, h.media, getDriveLabel_eq h.index]
  rw [if_neg (by simp), if_neg (Nat.not_lt.mpr h.size)]
  by_cases hread : interface.labelDrives.succeeds = true
  · simp only [hread, if_true, true_and]
    split_ifs <;> simp_all
  · simp [hread]

/-- Only candidates are appended. -/
theorem isCandidate_of_appended {guy : DeviceGuy}
    (h : examine props name interface = .appended guy) :
    ∃ driveIndex, IsCandidate interface driveIndex := by
  rw [examine] at h
  split at h
  · cases h
  · rename_i driveIndex hindex
    by_cases hmedia : interface.media = true
    · by_cases hsize : interface.driveSize.toNat < minDriveSize * mb
      · simp [hmedia, hsize] at h
      · exact ⟨driveIndex, hindex, hmedia, Nat.not_lt.mp hsize⟩
    · simp [hmedia] at h

/-- **What a turn appends.** A candidate is appended when its letters cannot be read, or when the
two filters accept it with the letters that are found. -/
theorem examine_eq_appended_iff {guy : DeviceGuy} :
    examine props name interface = .appended guy ↔
      guy = ⟨guy.deviceNum, name, interface.numBytes.toNat⟩ ∧
        IsCandidate interface guy.deviceNum ∧
        (interface.labelDrives.succeeds = true →
          failsScsi props interface (interface.lettersFound guy.deviceNum) = false ∧
            failsHdd props name interface guy.deviceNum = false) := by
  constructor
  · intro h
    obtain ⟨driveIndex, hcandidate⟩ := isCandidate_of_appended h
    rw [examine_of_candidate hcandidate] at h
    split_ifs at h with hfails
    obtain rfl := Outcome.appended.inj h
    refine ⟨rfl, hcandidate, fun hread => ?_⟩
    simpa [hread] using hfails
  · rintro ⟨hguy, hcandidate, haccepted⟩
    rw [examine_of_candidate hcandidate, if_neg, ← hguy]
    rintro ⟨hread, hfails⟩
    obtain ⟨hscsi, hhdd⟩ := haccepted hread
    simp [hscsi, hhdd] at hfails

/-- Enough is known of the letters if and only if what would be appended is accepted. -/
theorem lettersKnown_iff :
    LettersKnown props name interface driveIndex ↔
      ((interface.labelDrives.succeeds = true →
        failsScsi props interface (interface.lettersFound driveIndex) = false ∧
          failsHdd props name interface driveIndex = false) →
        Accepted props name interface driveIndex) := by
  constructor
  · intro known passed
    by_cases hread : interface.labelDrives.succeeds = true
    · obtain ⟨hscsi, hhdd⟩ := passed hread
      refine accepted_iff.mpr ⟨failsScsi_eq_false_iff.mpr fun hs hu hv => ?_, hhdd⟩
      obtain ⟨hremovable, hfound⟩ := failsScsi_eq_false_iff.mp hscsi hs hu hv
      refine ⟨hremovable, fun letter hletter => ?_⟩
      by_contra hne
      obtain ⟨other, hother, hfixed⟩ :=
        known.found hread hhdd hs hu hv hremovable ⟨letter, hletter, hne⟩
      exact hfixed (hfound other hother)
    · exact known.unread (Bool.eq_false_iff.mpr hread)
  · intro h
    refine ⟨fun hread => h fun hread' => absurd (hread' ▸ hread) (by simp), ?_⟩
    rintro hread hhdd hs hu hv hremovable ⟨letter, hletter, hne⟩
    -- if all that is found is removable, the drive is appended and the letter speaks against it
    by_contra hall
    push Not at hall
    have hscsi : failsScsi props interface (interface.lettersFound driveIndex) = false :=
      failsScsi_eq_false_iff.mpr fun _ _ _ => ⟨hremovable, hall⟩
    exact hne (((h fun _ => ⟨hscsi, hhdd⟩).scsi hs hu hv).2 letter hletter)

/-! ### Runs of the loops -/

/-- What is appended for a device. -/
theorem mem_listInterfaces {listed : Listed} {interfaces : List Interface} :
    listed ∈ listInterfaces props name interfaces ↔
      listed.props = props ∧ listed.name = name ∧
        listed.interface ∈ reached props name interfaces ∧
        examine props name listed.interface = .appended listed.guy := by
  induction interfaces with
  | nil => simp [listInterfaces, reached]
  | cons first interfaces ih =>
    rw [listInterfaces, reached]
    -- the first interface is in the list only if it is appended
    have hfirst {interfaces : List Interface}
        (h : ∀ guy, examine props name first ≠ .appended guy)
        (happended : examine props name listed.interface = .appended listed.guy) :
        listed.interface ∈ first :: interfaces ↔ listed.interface ∈ interfaces := by
      rw [List.mem_cons, or_iff_right]
      rintro heq
      exact h listed.guy (heq ▸ happended)
    cases houtcome : examine props name first with
    | skipped =>
      rw [if_neg (by simp), ih]
      refine and_congr_right fun _ => and_congr_right fun _ => and_congr_left fun happended => ?_
      exact (hfirst (by simp [houtcome]) happended).symm
    | eliminated =>
      rw [if_pos rfl]
      refine iff_of_false (by simp) ?_
      rintro ⟨-, -, hmem, happended⟩
      simpa using (hfirst (by simp [houtcome]) happended).mp hmem
    | appended guy =>
      rw [if_neg (by simp), List.mem_cons, ih]
      constructor
      · rintro (rfl | ⟨hprops, hname, hmem, happended⟩)
        · exact ⟨rfl, rfl, List.mem_cons_self, houtcome⟩
        · exact ⟨hprops, hname, List.mem_cons_of_mem _ hmem, happended⟩
      · rintro ⟨rfl, rfl, hmem, happended⟩
        rcases List.mem_cons.mp hmem with heq | hmem
        · rw [heq, houtcome] at happended
          obtain rfl := Outcome.appended.inj happended
          left
          rw [← heq]
        · exact Or.inr ⟨rfl, rfl, hmem, happended⟩

/-- What `GetDevices` appends. -/
theorem mem_listing {computer : Computer} {listed : Listed} :
    listed ∈ listing computer ↔
      computer.allocates = true ∧ ∃ device ∈ computer.disks.getD [],
        classify computer device = some (listed.props, listed.name) ∧
        listed.interface ∈ reached listed.props listed.name device.interfaces ∧
        examine listed.props listed.name listed.interface = .appended listed.guy := by
  rw [listing]
  split_ifs with hmemory
  · simp only [List.mem_flatMap, hmemory, true_and]
    refine exists_congr fun device => and_congr_right fun _ => ?_
    rw [listDevice]
    cases hclass : classify computer device with
    | none => simp
    | some entry =>
      obtain ⟨props, name⟩ := entry
      rw [mem_listInterfaces, Option.some.injEq, Prod.mk.injEq]
      constructor
      · rintro ⟨rfl, rfl, hreached, happended⟩
        exact ⟨⟨rfl, rfl⟩, hreached, happended⟩
      · rintro ⟨⟨rfl, rfl⟩, hreached, happended⟩
        exact ⟨rfl, rfl, hreached, happended⟩
  · simp [hmemory]

/-- **What is listed has passed the filters** if and only if enough is known of the drive letters
of every candidate. -/
theorem listed_pass_iff (computer : Computer) :
    (∀ listed ∈ listing computer, Passes listed) ↔ AllLettersKnown computer := by
  constructor
  · intro h hmemory device hdevice props name hclass interface hreached driveIndex hcandidate
    refine lettersKnown_iff.mpr fun passed => ?_
    have happended : examine props name interface =
        .appended ⟨driveIndex, name, interface.numBytes.toNat⟩ :=
      examine_eq_appended_iff.mpr ⟨rfl, hcandidate, passed⟩
    exact (h ⟨props, name, interface, _⟩
      (mem_listing.mpr ⟨hmemory, device, hdevice, hclass, hreached, happended⟩)).accepted
  · intro h listed hlisted
    obtain ⟨hmemory, device, hdevice, hclass, hreached, happended⟩ := mem_listing.mp hlisted
    obtain ⟨-, hcandidate, passed⟩ := examine_eq_appended_iff.mp happended
    have known := h hmemory device hdevice _ _ hclass _ hreached _ hcandidate
    exact ⟨hcandidate, lettersKnown_iff.mp known passed⟩

/-! ### A hard drive -/

/-- The volume of a hard drive. -/
def backupVolume : LogicalDrive := ⟨'E', .fixed, true, ⟨some [1], some 1⟩⟩

/-- A hard drive of one terabyte, when `GetLogicalDriveStrings` fails for `GetDriveLabel`. -/
def backupDrive : Interface where
  mounted := ['E']
  dummyDetail := .insufficientBuffer
  allocates := true
  actualDetail := true
  opens := true
  number := ⟨some [1], some 1⟩
  media := true
  driveSize := 1000204886016
  labelDrives := ⟨0, [backupVolume]⟩
  letterType _ := .fixed
  typeDrives := ⟨4, [backupVolume]⟩
  hddSize := 1000204886016
  numBytes := 1000204886016

/-- A machine with this hard drive in a USB case. -/
def withBackupDrive : Computer where
  pointerSize := 8
  allocates := true
  devidList := none
  disks := some [{
    enumeratorName := some "USBSTOR"
    hardwareId := some "USBSTOR\\DiskWDC_"
    removalPolicy := some 3
    friendlyName := some "WDC WD10EZEX USB Device"
    devInst := 1
    idAnswers := fun _ => ⟨none, false, none, none⟩
    interfaces := [backupDrive] }]

/-- The score that `IsHDD` has for what is listed. -/
def Listed.score (listed : Listed) : Int :=
  isHdd (getDriveTypeFromIndex listed.guy.deviceNum listed.interface.typeDrives)
    listed.interface.hddSize.toNat (listed.props.vid % 2 ^ 16) (listed.props.pid % 2 ^ 16)
    listed.name

/-- The hard drive is listed, with a score of 23. -/
theorem hard_drive_listed :
    getDevices withBackupDrive = [⟨129, "WDC WD10EZEX USB Device", 1000204886016⟩] ∧
      ∃ listed ∈ listing withBackupDrive, listed.score = 23 ∧ ¬ Passes listed := by
  have hlist : (listing withBackupDrive).map (fun listed =>
      (listed.guy, listed.props.isVhd, listed.props.isCard, listed.score)) =
      [(⟨129, "WDC WD10EZEX USB Device", 1000204886016⟩, false, false, 23)] := by
    decide +kernel
  obtain ⟨listed, hlisted, heq⟩ := List.map_eq_singleton_iff.mp hlist
  simp only [Prod.mk.injEq] at heq
  obtain ⟨hguy, hvhd, hcard, hscore⟩ := heq
  refine ⟨by simp [getDevices, hlisted, hguy], listed, by simp [hlisted], hscore, fun hpass => ?_⟩
  have hle : listed.score ≤ 0 := hpass.accepted.hdd hvhd hcard
  omega

end UsbMaker.Devices
