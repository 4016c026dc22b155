import UsbMaker.Devices.Enumerate

/-!
# The classes of devices

`GetDevices` classifies a disk device by its enumerator and its hardware id. The names of the tables
say what each class is: USB, SCSI, or a card reader, which an enumerator between the delimiters or a
hardware id under `SCSI\Disk` tells. The code gets the class of a device unless it is known by one
of the two places where it reads the tables wrongly: the enumerator is compared with the first name
of `usbstor_name` only, and the hardware id with the first few characters of `SCSI\Disk` only.

## Main definitions

* `Devices.UsbName`, `Devices.ScsiName`, `Devices.CardName`, `Devices.CardId`: the classes.
* `Devices.Classified`: the code gets the class of a device.

## Main statements

* `Devices.classified_iff`.
-/

namespace UsbMaker.Devices

/-- The enumerator is one of USB. -/
def UsbName (enumerator : String) : Prop := ∃ name ∈ usbstorName, stricmp enumerator name

/-- The enumerator is a generic one. -/
def ScsiName (enumerator : String) : Prop := ∃ name ∈ genstorName, stricmp enumerator name

/-- The enumerator is one of card readers: of USB, before the delimiter `UASPSTOR`, or generic, from
the delimiter `SD` on. -/
def CardName (enumerator : String) : Prop :=
  (∃ j name, usbstorName[j]? = some name ∧ stricmp enumerator name ∧ 0 < j ∧ j < uaspStart) ∨
    ∃ j name, genstorName[j]? = some name ∧ stricmp enumerator name ∧ cardStart ≤ j

/-- The hardware id has the name of a card in it. -/
def HasCard (hardwareId : String) : Prop := ∃ name ∈ scsiCardName, strstr hardwareId name

/-- The hardware id is that of a card reader: it begins with the whole of `SCSI\Disk`. -/
def CardId (hardwareId : String) : Prop :=
  strnicmp hardwareId scsiDiskPrefix scsiDiskPrefix.length ∧ HasCard hardwareId

/-- The classes of a device with an enumerator are those of the tables. A device that is neither USB
nor SCSI is not looked at further. -/
structure Classified (computer : Computer) (device : Device) (enumerator : String) : Prop where
  usb : (classifyEnumerator enumerator).isUsb ↔ UsbName enumerator
  scsi : (classifyEnumerator enumerator).isScsi ↔ ScsiName enumerator
  read : ∀ props name, readProps computer device = some (props, name) →
    (props.isUsb ↔ UsbName enumerator) ∧ (props.isScsi ↔ ScsiName enumerator) ∧
      (props.isCard ↔ CardName enumerator ∨ CardId (device.hardwareId.getD ""))

variable {computer : Computer} {device : Device} {enumerator : String}

/-! ### The names of the tables -/

theorem stricmp_iff {str1 str2 : String} :
    stricmp str1 str2 ↔ str1.toList.map Char.toLower = str2.toList.map Char.toLower :=
  beq_iff_eq

theorem stricmp_of_stricmp {name name' : String} (h : stricmp enumerator name)
    (h' : stricmp enumerator name') : stricmp name name' :=
  stricmp_iff.2 ((stricmp_iff.1 h).symm.trans (stricmp_iff.1 h'))

/-- Every turn of the loop makes the same comparison, so the first one decides. -/
theorem findIdx_usbstorName :
    (usbstorName.findIdx? fun _ => stricmp enumerator (usbstorName.headD "")) =
      if stricmp enumerator "USBSTOR" then some 0 else none := by
  have hhead : usbstorName.headD "" = "USBSTOR" := rfl
  rw [hhead]
  cases stricmp enumerator "USBSTOR" <;> rfl

theorem isUsb_classifyEnumerator :
    (classifyEnumerator enumerator).isUsb = stricmp enumerator "USBSTOR" := by
  rw [classifyEnumerator, findIdx_usbstorName]
  cases stricmp enumerator "USBSTOR" <;> rfl

theorem isScsi_classifyEnumerator :
    (classifyEnumerator enumerator).isScsi ↔ ScsiName enumerator := by
  rw [classifyEnumerator, ScsiName]
  simp only [List.findIdx?_isSome, List.any_eq_true]

/-- Only `genstor_name` makes a card reader of an enumerator. -/
theorem isCard_classifyEnumerator :
    (classifyEnumerator enumerator).isCard ↔
      ∃ name ∈ genstorName.drop cardStart, stricmp enumerator name := by
  have husb : ((usbstorName.findIdx? fun _ => stricmp enumerator (usbstorName.headD "")).any
      fun j => j ≠ 0 && j < uaspStart) = false := by
    rw [findIdx_usbstorName]
    cases stricmp enumerator "USBSTOR" <;> rfl
  have hscsi : stricmp enumerator "SCSI" → ∀ name ∈ genstorName.drop cardStart,
      stricmp enumerator name = false := by
    have hnames : ∀ name ∈ genstorName.drop cardStart, stricmp "SCSI" name = false := by decide
    intro h name hname
    rw [Bool.eq_false_iff]
    exact fun h' => Bool.eq_false_iff.1 (hnames name hname) (stricmp_of_stricmp h h')
  rw [classifyEnumerator]
  simp only [husb, Bool.false_or]
  have hcons : genstorName = "SCSI" :: genstorName.drop cardStart := by decide
  conv_lhs => rw [hcons]
  rw [List.findIdx?_cons]
  cases h : stricmp enumerator "SCSI" with
  | true =>
    refine iff_of_false Bool.false_ne_true ?_
    rintro ⟨name, hname, h'⟩
    exact Bool.eq_false_iff.1 (hscsi h name hname) h'
  | false =>
    rw [← List.any_eq_true, ← List.findIdx?_isSome]
    have hstart : ∀ j, cardStart ≤ j + 1 := fun j => Nat.le_add_left 1 j
    cases (genstorName.drop cardStart).findIdx? fun name => stricmp enumerator name <;>
      simp [hstart]

/-- The enumerators of card readers, by the parts of the tables. -/
theorem cardName_iff :
    CardName enumerator ↔
      (∃ name ∈ (usbstorName.take uaspStart).tail, stricmp enumerator name) ∨
        ∃ name ∈ genstorName.drop cardStart, stricmp enumerator name := by
  have husb : ∀ name, name ∈ (usbstorName.take uaspStart).tail ↔
      ∃ j, usbstorName[j]? = some name ∧ 0 < j ∧ j < uaspStart := by
    intro name
    rw [← List.drop_one, List.mem_iff_getElem?]
    simp only [List.getElem?_drop, List.getElem?_take, Option.ite_none_right_eq_some]
    constructor
    · rintro ⟨i, hlt, hname⟩
      exact ⟨1 + i, hname, by omega, hlt⟩
    · rintro ⟨j, hname, hpos, hlt⟩
      exact ⟨j - 1, by rwa [Nat.add_sub_cancel' hpos], by rwa [Nat.add_sub_cancel' hpos]⟩
  have hgen : ∀ name, name ∈ genstorName.drop cardStart ↔
      ∃ j, genstorName[j]? = some name ∧ cardStart ≤ j := by
    intro name
    rw [List.mem_iff_getElem?]
    simp only [List.getElem?_drop]
    constructor
    · rintro ⟨i, hname⟩
      exact ⟨cardStart + i, hname, Nat.le_add_right _ _⟩
    · rintro ⟨j, hname, hle⟩
      exact ⟨j - cardStart, by rwa [Nat.add_sub_cancel' hle]⟩
  rw [CardName]
  refine or_congr ⟨?_, ?_⟩ ⟨?_, ?_⟩
  · rintro ⟨j, name, hname, h, hj⟩
    exact ⟨name, (husb name).2 ⟨j, hname, hj⟩, h⟩
  · rintro ⟨name, hname, h⟩
    obtain ⟨j, hname, hj⟩ := (husb name).1 hname
    exact ⟨j, name, hname, h, hj⟩
  · rintro ⟨j, name, hname, h, hj⟩
    exact ⟨name, (hgen name).2 ⟨j, hname, hj⟩, h⟩
  · rintro ⟨name, hname, h⟩
    obtain ⟨j, hname, hj⟩ := (hgen name).1 hname
    exact ⟨j, name, hname, h, hj⟩

/-! ### The classes that the code computes -/

/-- The whole of `SCSI\Disk` is compared, wherever a device that is not yet a card reader has the
name of a card in its hardware id. -/
def WholePrefix (computer : Computer) (hardwareId : String) : Prop :=
  HasCard hardwareId → strnicmp hardwareId scsiDiskPrefix (computer.pointerSize - 1) =
    strnicmp hardwareId scsiDiskPrefix scsiDiskPrefix.length

theorem matchIds_classes (devidList : DeviceIds) (device : Device) (props : Props) :
    (matchIds devidList device props).isUsb = props.isUsb ∧
      (matchIds devidList device props).isScsi = props.isScsi ∧
      (matchIds devidList device props).isCard = props.isCard := by
  rw [matchIds]
  split
  · exact ⟨rfl, rfl, rfl⟩
  · dsimp only
    split
    · split <;> exact ⟨rfl, rfl, rfl⟩
    · exact ⟨rfl, rfl, rfl⟩

/-- A device is looked at if its enumerator is USB or SCSI. -/
theorem exists_readProps (computer : Computer)
    (henumerator : device.enumeratorName = some enumerator)
    (hpasses : (classifyEnumerator enumerator).isUsb ∨ (classifyEnumerator enumerator).isScsi) :
    ∃ props name, readProps computer device = some (props, name) := by
  have hnot : (!(classifyEnumerator enumerator).isUsb &&
      !(classifyEnumerator enumerator).isScsi) = false := by
    obtain h | h := hpasses <;> simp [h]
  rw [readProps, henumerator]
  simp only [hnot]
  cases device.friendlyName with
  | none => exact ⟨_, _, rfl⟩
  | some name => cases computer.devidList <;> exact ⟨_, _, rfl⟩

/-- The hardware id as the code reads it. -/
theorem isCard_or_iff {isCard : Bool} {hardwareId : String} {count : Nat} :
    (isCard || (strnicmp hardwareId scsiDiskPrefix count &&
      scsiCardName.any (strstr hardwareId))) ↔
    isCard ∨ strnicmp hardwareId scsiDiskPrefix count ∧ HasCard hardwareId := by
  rw [Bool.or_eq_true, Bool.and_eq_true, List.any_eq_true, HasCard]

/-- The classes of a device that is looked at. -/
theorem readProps_classes {props : Props} {name : String}
    (henumerator : device.enumeratorName = some enumerator)
    (hread : readProps computer device = some (props, name)) :
    ((classifyEnumerator enumerator).isUsb ∨ (classifyEnumerator enumerator).isScsi) ∧
      props.isUsb = (classifyEnumerator enumerator).isUsb ∧
      props.isScsi = (classifyEnumerator enumerator).isScsi ∧
      (props.isCard ↔ (classifyEnumerator enumerator).isCard ∨
        strnicmp (device.hardwareId.getD "") scsiDiskPrefix (computer.pointerSize - 1) ∧
          HasCard (device.hardwareId.getD "")) := by
  rw [readProps, henumerator] at hread
  dsimp only at hread
  split at hread
  · cases hread
  · rename_i hpasses
    refine ⟨?_, ?_⟩
    · rw [Bool.and_eq_true, Bool.not_eq_true', Bool.not_eq_true', not_and_or] at hpasses
      simpa using hpasses
    · split at hread
      · cases hread
        exact ⟨rfl, rfl, isCard_or_iff⟩
      · split at hread
        · cases hread
          exact ⟨rfl, rfl, isCard_or_iff⟩
        · cases hread
          split
          · exact ⟨rfl, rfl, isCard_or_iff⟩
          · obtain ⟨husb, hscsi, hcard⟩ := matchIds_classes _ device _
            exact ⟨husb, hscsi, by rw [hcard]; exact isCard_or_iff⟩

/-- The loop over `usbstor_name` finds what the table has if the name is none but the first. -/
theorem isUsb_iff_usbName :
    ((classifyEnumerator enumerator).isUsb ↔ UsbName enumerator) ↔
      ∀ name ∈ usbstorName.tail, stricmp enumerator name = false := by
  have hcons : usbstorName = "USBSTOR" :: usbstorName.tail := rfl
  have hnames : ∀ name ∈ usbstorName.tail, stricmp "USBSTOR" name = false := by decide
  rw [isUsb_classifyEnumerator, UsbName]
  constructor
  · intro h name hname
    rw [Bool.eq_false_iff]
    intro hstricmp
    have husb := h.2 ⟨name, List.mem_of_mem_tail hname, hstricmp⟩
    exact Bool.eq_false_iff.1 (hnames name hname) (stricmp_of_stricmp husb hstricmp)
  · intro h
    rw [hcons, List.exists_mem_cons_iff]
    refine (or_iff_left ?_).symm
    rintro ⟨name, hname, hstricmp⟩
    exact Bool.eq_false_iff.1 (h name hname) hstricmp

/-- Without the card readers of USB, an enumerator is one of card readers where the code says so. -/
theorem cardName_iff_isCard (h : ∀ name ∈ usbstorName.tail, stricmp enumerator name = false) :
    CardName enumerator ↔ (classifyEnumerator enumerator).isCard := by
  rw [cardName_iff, isCard_classifyEnumerator]
  refine or_iff_right ?_
  rintro ⟨name, hname, hstricmp⟩
  have htail : name ∈ usbstorName.tail := by
    have hsub : ∀ name ∈ (usbstorName.take uaspStart).tail, name ∈ usbstorName.tail := by decide
    exact hsub name hname
  exact Bool.eq_false_iff.1 (h name htail) hstricmp

/-- A device that is looked at and not yet a card reader has one of two enumerators. -/
theorem isCard_eq_false_iff
    (hpasses : (classifyEnumerator enumerator).isUsb ∨ (classifyEnumerator enumerator).isScsi) :
    ¬ (classifyEnumerator enumerator).isCard ↔
      stricmp enumerator "USBSTOR" ∨ stricmp enumerator "SCSI" := by
  have hcons : genstorName = "SCSI" :: genstorName.drop cardStart := by decide
  rw [isCard_classifyEnumerator]
  constructor
  · intro hcard
    rw [isUsb_classifyEnumerator, isScsi_classifyEnumerator, ScsiName, hcons,
      List.exists_mem_cons_iff] at hpasses
    exact hpasses.imp_right fun h => h.resolve_right hcard
  · have hnames : ∀ name ∈ genstorName.drop cardStart,
        stricmp "USBSTOR" name = false ∧ stricmp "SCSI" name = false := by decide
    rintro (h | h) ⟨name, hname, hstricmp⟩
    · exact Bool.eq_false_iff.1 (hnames name hname).1 (stricmp_of_stricmp h hstricmp)
    · exact Bool.eq_false_iff.1 (hnames name hname).2 (stricmp_of_stricmp h hstricmp)

/-- A device with an enumerator has the classes of the tables if and only if the enumerator is none
of `usbstor_name` but the first, and the characters of `SCSI\Disk` that are compared are as good as
the whole text for a device of `USBSTOR` or `SCSI`. -/
theorem classified_iff (computer : Computer) (device : Device) (enumerator : String)
    (henumerator : device.enumeratorName = some enumerator) :
    Classified computer device enumerator ↔
      (∀ name ∈ usbstorName.tail, stricmp enumerator name = false) ∧
      (stricmp enumerator "USBSTOR" ∨ stricmp enumerator "SCSI" →
        WholePrefix computer (device.hardwareId.getD "")) := by
  constructor
  · intro h
    have htail := isUsb_iff_usbName.1 h.usb
    refine ⟨htail, fun hstor hcard => ?_⟩
    have hpasses : (classifyEnumerator enumerator).isUsb ∨
        (classifyEnumerator enumerator).isScsi := by
      rw [isUsb_classifyEnumerator, isScsi_classifyEnumerator]
      exact hstor.imp_right fun hscsi => ⟨"SCSI", List.mem_cons_self, hscsi⟩
    obtain ⟨props, name, hread⟩ := exists_readProps computer henumerator hpasses
    have htable := (h.read props name hread).2.2
    have hcode := (readProps_classes henumerator hread).2.2.2
    have hnot := (isCard_eq_false_iff hpasses).2 hstor
    rw [hcode, cardName_iff_isCard htail, CardId, or_iff_right hnot, or_iff_right hnot,
      and_iff_left hcard, and_iff_left hcard] at htable
    exact Bool.eq_iff_iff.2 htable
  · rintro ⟨htail, hwhole⟩
    refine ⟨isUsb_iff_usbName.2 htail, isScsi_classifyEnumerator, fun props name hread => ?_⟩
    obtain ⟨hpasses, husb, hscsi, hcard⟩ := readProps_classes henumerator hread
    refine ⟨husb ▸ isUsb_iff_usbName.2 htail, hscsi ▸ isScsi_classifyEnumerator, ?_⟩
    rw [hcard, cardName_iff_isCard htail, CardId]
    by_cases hname : (classifyEnumerator enumerator).isCard
    · exact iff_of_true (.inl hname) (.inl hname)
    · rw [or_iff_right hname, or_iff_right hname]
      refine and_congr_left fun hid => ?_
      rw [hwhole ((isCard_eq_false_iff hpasses).1 hname) hid]

/-! ### Two devices -/

/-- A machine of 64 bits without device ids. -/
def plainMachine : Computer where
  pointerSize := 8
  allocates := true
  devidList := none
  disks := none

/-- A disk device with an enumerator and a hardware id. -/
def diskOf (enumerator hardwareId : String) : Device where
  enumeratorName := some enumerator
  hardwareId := some hardwareId
  removalPolicy := some 3
  friendlyName := some "Generic- SD/MMC"
  devInst := 1
  idAnswers := fun _ => ⟨none, false, none, none⟩
  interfaces := []

/-- A card reader under SCSI gets its class. -/
theorem classified_scsi_reader :
    Classified plainMachine (diskOf "scsi" "SCSI\\DiskO2Micro_SD_") "scsi" :=
  (classified_iff plainMachine (diskOf "scsi" "SCSI\\DiskO2Micro_SD_") "scsi" rfl).2
    ⟨by decide, fun _ _ => by decide⟩

/-- A card reader of Realtek is not taken for a USB device, and a disk of SCSI that is not one is
taken for a card reader. -/
theorem not_classified_readers :
    ¬ Classified plainMachine (diskOf "RTSUER" "RTSUER\\SD") "RTSUER" ∧
      ¬ Classified plainMachine (diskOf "SCSI" "SCSI\\DiG_SD_") "SCSI" := by
  constructor
  · intro h
    have husb := h.usb.2 ⟨"RTSUER", by decide, by decide⟩
    exact absurd husb (by decide)
  · intro h
    obtain ⟨-, -, hcard⟩ := h.read _ _ rfl
    obtain hname | ⟨hid, -⟩ := hcard.1 (by decide)
    · rw [cardName_iff] at hname
      exact absurd hname (by decide)
    · exact absurd hid (by decide)

end UsbMaker.Devices
