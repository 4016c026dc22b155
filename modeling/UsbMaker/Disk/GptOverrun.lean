import UsbMaker.Disk.GptClear

/-!
# Reading beyond the array of partitions

`LoadPartitionTable` and `CheckTable` make room for as many entries as a header names, each of 128
bytes. They ask for as many entries of the size that the header names, which `CheckHeaderValidity`
does not look at. Where this size is larger, and the product does not overflow to a smaller one,
more is asked for than there is room for, unless `Seek` does not come to the copy of the table.

## Main definitions

* `GptDisk.Overruns`: a header with a copy of the table for which the array is too small.

## Main results

* `GptDisk.loadTables_eq_none_iff`: the tables, for headers that agree with the array.
* `GptDisk.forceLoadGPTData_eq_none_iff`, `GptDisk.loadPartitions_eq_none_iff`: a disk whose main
  header is right.
-/

namespace UsbMaker.GptDisk

/-- A header with a copy of the table that `Seek` comes to, and that is larger than its entries. -/
def Overruns (blockSize : Nat) (h : Header) : Prop :=
  h.partitionEntriesLBA.toNat * blockSize % 2 ^ 64 < 2 ^ 63 ∧
    h.numParts.toNat * 128 < (h.numParts * h.sizeOfPartitionEntries).toNat

instance (blockSize : Nat) (h : Header) : Decidable (Overruns blockSize h) :=
  inferInstanceAs (Decidable (_ ∧ _))

theorem seek_fst_iff (dev : Device) (sector : BitVec 64) :
    (dev.seek sector).1 = true ↔ sector.toNat * dev.blockSize % 2 ^ 64 < 2 ^ 63 := by
  rw [Device.seek]
  split_ifs with h
  · exact iff_of_true rfl h
  · exact iff_of_false id h

theorem blockSize_seek (dev : Device) (sector : BitVec 64) :
    (dev.seek sector).2.blockSize = dev.blockSize := by
  rw [Device.seek]
  split_ifs <;> rfl

/-! ### The steps -/

/-- What reading a table that fits leaves. -/
structure Stays (s s' : Loading) : Prop where
  ready : Ready s'.data
  main_eq : s'.data.mainHeader = s.data.mainHeader
  second_eq : s'.data.secondHeader = s.data.secondHeader
  block_eq : s'.device.blockSize = s.device.blockSize

namespace Stays

variable {s s' s'' : Loading}

theorem trans (h : Stays s s') (h' : Stays s' s'') : Stays s s'' :=
  ⟨h'.ready, h'.main_eq.trans h.main_eq, h'.second_eq.trans h.second_eq,
    h'.block_eq.trans h.block_eq⟩

theorem overruns_main (h : Stays s s') : Overruns s'.device.blockSize s'.data.mainHeader ↔
    Overruns s.device.blockSize s.data.mainHeader := by
  rw [h.main_eq, h.block_eq]

theorem overruns_second (h : Stays s s') : Overruns s'.device.blockSize s'.data.secondHeader ↔
    Overruns s.device.blockSize s.data.secondHeader := by
  rw [h.second_eq, h.block_eq]

end Stays

section Steps

variable {s : Loading}

theorem ready_setMemory {d : Data} (h : Ready d) (memory : List Byte) (mainOk secondOk : Bool) :
    Ready { setMemory d memory with mainPartsCrcOk := mainOk, secondPartsCrcOk := secondOk } := by
  obtain ⟨hmain, hsecond, all, hall, hlength⟩ := h
  refine ⟨hmain, hsecond, _, congrArg (Option.map _) hall, ?_⟩
  rw [Layout.length_decodeAll, hlength]
  rfl

theorem loadPartitionTable_cases (header : Data → Header) (h : Ready s.data)
    (hnum : (header s.data).numParts = s.data.numParts) :
    (Overruns s.device.blockSize (header s.data) ∧ loadPartitionTable header s = none) ∨
      (¬ Overruns s.device.blockSize (header s.data) ∧
        ∃ ok s', loadPartitionTable header s = some (ok, s') ∧ Stays s s') := by
  have hseek := seek_fst_iff s.device (header s.data).partitionEntriesLBA
  have hblock := blockSize_seek s.device (header s.data).partitionEntriesLBA
  have hsized : setGPTSize s.data (header s.data).numParts false = (true, s.data) := by
    rw [hnum, setGPTSize_same h]
  rw [loadPartitionTable]
  generalize s.device.seek (header s.data).partitionEntriesLBA = sought at hseek hblock ⊢
  dsimp only
  by_cases hreach : sought.1 = true
  · rw [if_pos hreach, hsized]
    dsimp only
    rw [if_pos rfl, length_memory h, ← hnum]
    by_cases hlong : (header s.data).numParts.toNat * 128 <
        ((header s.data).numParts * (header s.data).sizeOfPartitionEntries).toNat
    · exact .inl ⟨⟨hseek.mp hreach, hlong⟩, if_pos hlong⟩
    · rw [if_neg hlong]
      exact .inr ⟨fun hover => hlong hover.2, _, _, rfl, ready_setMemory h _ _ _, rfl, rfl, hblock⟩
  · rw [if_neg hreach, if_neg Bool.false_ne_true]
    exact .inr ⟨fun hover => hreach (hseek.mpr hover.1), _, _, rfl, h, rfl, rfl, hblock⟩

theorem checkTable_cases (header otherHeader : Header) (dev : Device) :
    (Overruns dev.blockSize header ∧ checkTable header otherHeader dev = none) ∨
      (¬ Overruns dev.blockSize header ∧
        ∃ ok dev', checkTable header otherHeader dev = some (ok, dev') ∧
          dev'.blockSize = dev.blockSize) := by
  have hseek := seek_fst_iff dev header.partitionEntriesLBA
  have hblock := blockSize_seek dev header.partitionEntriesLBA
  have hlength : (partLayout.encodeAll (List.replicate header.numParts.toNat {})).length =
      header.numParts.toNat * 128 := by
    rw [Layout.length_encodeAll, size_partLayout, List.length_replicate]
  rw [checkTable]
  generalize dev.seek header.partitionEntriesLBA = sought at hseek hblock ⊢
  dsimp only
  rw [hlength]
  by_cases hreach : sought.1 = true
  · rw [if_pos hreach]
    by_cases hlong : header.numParts.toNat * 128 <
        (header.numParts * header.sizeOfPartitionEntries).toNat
    · exact .inl ⟨⟨hseek.mp hreach, hlong⟩, if_pos hlong⟩
    · rw [if_neg hlong]
      exact .inr ⟨fun hover => hlong hover.2, _, _, rfl, hblock⟩
  · rw [if_neg hreach]
    exact .inr ⟨fun hover => hreach (hseek.mpr hover.1), _, _, rfl, hblock⟩

/-- What is known of the headers when the tables have been read: neither of the two copies is too
large, or only one was read, and it is not. -/
def Fits (loadedTable : Nat) (s : Loading) : Prop :=
  (loadedTable = 1 ∧ ¬ Overruns s.device.blockSize s.data.mainHeader) ∨
    (loadedTable = 2 ∧ ¬ Overruns s.device.blockSize s.data.secondHeader) ∨
      (loadedTable = 0 ∧ ¬ Overruns s.device.blockSize s.data.mainHeader ∧
        ¬ Overruns s.device.blockSize s.data.secondHeader)

theorem chooseTable_cases (h : Ready s.data) (validHeaders : Nat) (allOK : Bool) :
    ((Overruns s.device.blockSize s.data.mainHeader ∨
        Overruns s.device.blockSize s.data.secondHeader) ∧
      chooseTable validHeaders allOK s = none) ∨
    ∃ ok loadedTable s', chooseTable validHeaders allOK s = some ((ok, loadedTable), s') ∧
      Stays s s' ∧ Fits loadedTable s' := by
  rw [chooseTable]
  by_cases hvalid : validHeaders ≠ 2
  · rw [if_pos hvalid]
    rcases loadPartitionTable_cases Data.mainHeader h h.main_eq with
      ⟨hover, hload⟩ | ⟨hfits, ok, s', hload, hstays⟩
    · rw [hload]
      exact .inl ⟨.inl hover, rfl⟩
    · rw [hload]
      exact .inr ⟨_, _, _, rfl, hstays,
        .inl ⟨rfl, fun hover => hfits (hstays.overruns_main.mp hover)⟩⟩
  · rw [if_neg hvalid]
    have hready : Ready (s.data.withState .corrupt) := ready_state h .corrupt
    rcases loadPartitionTable_cases (s := { s with data := s.data.withState .corrupt })
        Data.secondHeader hready h.second_eq with
      ⟨hover, hload⟩ | ⟨hfits, ok, s', hload, hstays⟩
    · rw [hload]
      exact .inl ⟨.inr hover, rfl⟩
    · have hstays' : Stays s s' := ⟨hstays.ready, hstays.main_eq, hstays.second_eq, hstays.block_eq⟩
      have hfits' : ¬ Overruns s'.device.blockSize s'.data.secondHeader :=
        fun hover => hfits (hstays.overruns_second.mp hover)
      rw [hload]
      cases ok with
      | true => exact .inr ⟨_, _, _, rfl, hstays', .inr (.inl ⟨rfl, hfits'⟩)⟩
      | false =>
        rcases loadPartitionTable_cases Data.mainHeader hstays.ready hstays.ready.main_eq with
          ⟨hover, hload'⟩ | ⟨hfitsMain, ok', s'', hload', hstays''⟩
        · refine .inl ⟨.inl (hstays'.overruns_main.mp hover), ?_⟩
          rw [Option.bind_eq_bind, Option.bind_some]
          dsimp only
          rw [if_neg Bool.false_ne_true, hload']
          rfl
        · have hmain : ¬ Overruns s''.device.blockSize s''.data.mainHeader :=
            fun hover => hfitsMain (hstays''.overruns_main.mp hover)
          have hsecond : ¬ Overruns s''.device.blockSize s''.data.secondHeader :=
            fun hover => hfits' (hstays''.overruns_second.mp hover)
          refine .inr ?_
          rw [Option.bind_eq_bind, Option.bind_some]
          dsimp only
          rw [if_neg Bool.false_ne_true, hload']
          cases ok' with
          | true => exact ⟨_, _, _, rfl, hstays'.trans hstays'', .inl ⟨rfl, hmain⟩⟩
          | false =>
            exact ⟨_, _, _, rfl, hstays'.trans hstays'', .inr (.inr ⟨rfl, hmain, hsecond⟩)⟩

theorem checkOther_cases (h : Ready s.data) {loadedTable : Nat} (hfits : Fits loadedTable s) :
    ((Overruns s.device.blockSize s.data.mainHeader ∨
        Overruns s.device.blockSize s.data.secondHeader) ∧ checkOther loadedTable s = none) ∨
    ∃ s', checkOther loadedTable s = some s' ∧ Stays s s' ∧
      ¬ Overruns s.device.blockSize s.data.mainHeader ∧
        ¬ Overruns s.device.blockSize s.data.secondHeader := by
  have hready (mainOk secondOk : Bool) :
      Ready { s.data with mainPartsCrcOk := mainOk, secondPartsCrcOk := secondOk } :=
    ⟨h.main_eq, h.second_eq, h.length_eq⟩
  rcases hfits with ⟨rfl, hmain⟩ | ⟨rfl, hsecond⟩ | ⟨rfl, hmain, hsecond⟩
  · rw [checkOther, if_pos rfl]
    rcases checkTable_cases s.data.secondHeader s.data.mainHeader s.device with
      ⟨hover, hcheck⟩ | ⟨hsecond, ok, device, hcheck, hblock⟩
    · rw [hcheck]
      exact .inl ⟨.inr hover, rfl⟩
    · rw [hcheck]
      exact .inr ⟨_, rfl, ⟨hready _ ok, rfl, rfl, hblock⟩, hmain, hsecond⟩
  · rw [checkOther, if_neg (by decide), if_pos rfl]
    rcases checkTable_cases s.data.mainHeader s.data.secondHeader s.device with
      ⟨hover, hcheck⟩ | ⟨hmain, ok, device, hcheck, hblock⟩
    · rw [hcheck]
      exact .inl ⟨.inl hover, rfl⟩
    · rw [hcheck]
      exact .inr ⟨_, rfl, ⟨hready ok _, rfl, rfl, hblock⟩, hmain, hsecond⟩
  · exact .inr ⟨_, rfl, ⟨hready false false, rfl, rfl, rfl⟩, hmain, hsecond⟩

theorem exists_loadBackup (h : Ready s.data) (allOK : Bool)
    (hsecond : ¬ Overruns s.device.blockSize s.data.secondHeader) :
    ∃ ok s', loadBackup allOK s = some (ok, s') := by
  rw [loadBackup]
  split_ifs
  · rcases loadPartitionTable_cases (s := { s with data := s.data.withState .corrupt })
        Data.secondHeader (ready_state h .corrupt) h.second_eq with
      ⟨hover, -⟩ | ⟨-, ok, s', hload, -⟩
    · exact absurd hover hsecond
    · dsimp only
      rw [hload]
      exact ⟨_, _, rfl⟩
  · exact ⟨_, _, rfl⟩
  · exact ⟨_, _, rfl⟩

/-- **The tables**, for headers that agree with the array. -/
theorem loadTables_eq_none_iff (h : Ready s.data) (validHeaders : Nat) (allOK : Bool) :
    loadTables validHeaders allOK s = none ↔
      Overruns s.device.blockSize s.data.mainHeader ∨
        Overruns s.device.blockSize s.data.secondHeader := by
  rw [loadTables]
  rcases chooseTable_cases h validHeaders allOK with
    ⟨hover, hchoose⟩ | ⟨ok, loadedTable, s₁, hchoose, hstays, hfits⟩
  · rw [hchoose]
    exact iff_of_true rfl hover
  · rw [hchoose, Option.bind_eq_bind, Option.bind_some]
    dsimp only
    rw [← hstays.overruns_main, ← hstays.overruns_second]
    rcases checkOther_cases hstays.ready hfits with
      ⟨hover, hcheck⟩ | ⟨s₂, hcheck, hstays', hmain, hsecond⟩
    · rw [hcheck]
      exact iff_of_true rfl hover
    · obtain ⟨ok', s₃, hbackup⟩ := exists_loadBackup hstays'.ready ok
        fun hover => hsecond (hstays'.overruns_second.mp hover)
      rw [hcheck, Option.bind_eq_bind, Option.bind_some, hbackup]
      exact iff_of_false (Option.some_ne_none _) (not_or.mpr ⟨hmain, hsecond⟩)

end Steps

/-! ### A disk whose main header is right -/

section Disk

variable {d : Data} {m : Medium} {main other : Header}

/-- The second header that is used: the one on the disk, or one that is made from the main one. -/
def usedSecond (blockSize : Nat) (main other : Header) : Header :=
  if headerValid blockSize other then other else main.toSecond

/-- What `ForceLoadGPTData` has when it comes to the tables. -/
theorem ready_regenerate {d' : Data} (hblank : Blank d') (hnum : d'.numParts = main.numParts)
    (hmain : d'.mainHeader = main) (hother : d'.secondHeader = other)
    (hsame : headerValid d'.blockSize other = true → other.numParts = main.numParts)
    (hvalid : headerValid d'.blockSize main = true) :
    let data := regenerate (checkHeaderValidity d') d'
    Ready data ∧ data.mainHeader = main ∧
      data.secondHeader = usedSecond d'.blockSize main other := by
  have hlength : ∃ all, d'.partitions = some all ∧ all.length = d'.numParts.toNat :=
    ⟨_, hblank, List.length_replicate⟩
  have hmainNum : d'.mainHeader.numParts = d'.numParts := by rw [hmain, hnum]
  rw [checkHeaderValidity, hmain, hother, if_pos hvalid, usedSecond]
  by_cases hright : headerValid d'.blockSize other = true
  · have hsecondNum : d'.secondHeader.numParts = d'.numParts := by rw [hother, hnum, hsame hright]
    rw [if_pos hright, if_pos hright, regenerate_three]
    exact ⟨⟨hmainNum, hsecondNum, hlength⟩, hmain, hother⟩
  · rw [if_neg hright, if_neg hright, Nat.add_zero, regenerate_one hlength hmainNum]
    exact ⟨⟨hmainNum, hmainNum, hlength⟩, hmain, congrArg Header.toSecond hmain⟩

/-- **`ForceLoadGPTData`** asks for more than there is room for if and only if one of the two
headers that it uses has a copy of the table that is too large. -/
theorem forceLoadGPTData_eq_none_iff (position : Nat) (hblank : Blank d)
    (hmain : HeaderOn d m 1 main) (hother : HeaderOn d m main.backupLBA other)
    (hpos : 0 < main.numParts.toNat) (hvalid : headerValid d.blockSize main = true)
    (hsame : checkHeaderCRC d.blockSize other = true → other.numParts = main.numParts) :
    forceLoadGPTData ⟨d, diskOf d m position⟩ = none ↔
      Overruns d.blockSize main ∨ Overruns d.blockSize (usedSecond d.blockSize main other) := by
  obtain ⟨d', position', hload, hblank', hsized, hmain', hother', -, -⟩ :=
    loadHeaders_on m position hblank hmain hother hpos (checkHeaderCRC_of_valid hvalid) hsame
  have hblock := hsized.blockSize_eq
  obtain ⟨hready, hmainEq, hsecondEq⟩ := ready_regenerate hblank' hsized.numParts_eq hmain' hother'
    (fun hright => hsame (hblock ▸ checkHeaderCRC_of_valid hright)) (hblock ▸ hvalid)
  have hsome : 0 < checkHeaderValidity d' := by
    rw [checkHeaderValidity, hmain', if_pos (hblock ▸ hvalid)]
    omega
  rw [forceLoadGPTData, hload]
  dsimp only
  rw [if_pos hsome]
  generalize regenerate (checkHeaderValidity d') d' = data at hready hmainEq hsecondEq ⊢
  have htables := loadTables_eq_none_iff (s := ⟨data, diskOf d m position'⟩) hready
    (checkHeaderValidity d') true
  dsimp only at htables
  rw [hmainEq, hsecondEq, hblock] at htables
  exact htables

/-- **`LoadPartitions`**, on a drive that can be opened and whose boot records are read to their
end. -/
theorem loadPartitions_eq_none_iff {fuel : Nat} {drive : Drive} (stale staleSecond : Header)
    {ok : Bool} {mbr : Mbr.Data} (hopens : drive.opens = true ∧ drive.opensAgain = true)
    (hblocks : drive.device.blocks < 2 ^ 64)
    (hread : Mbr.readMBRData drive.readEbr fuel drive.boot (BitVec.ofNat 64 drive.device.blocks)
      (default stale staleSecond).protectiveMBR = some (some (ok, mbr)))
    (hmain : HeaderOn ((default stale staleSecond).withDevice drive.device) drive.device.medium 1
      main)
    (hother : HeaderOn ((default stale staleSecond).withDevice drive.device) drive.device.medium
      main.backupLBA other)
    (hpos : 0 < main.numParts.toNat) (hvalid : headerValid drive.device.blockSize main = true)
    (hsame : checkHeaderCRC drive.device.blockSize other = true →
      other.numParts = main.numParts) :
    loadPartitions fuel drive (default stale staleSecond) = some none ↔
      Overruns drive.device.blockSize main ∨
        Overruns drive.device.blockSize (usedSecond drive.device.blockSize main other) := by
  have hblank : Blank (((default stale staleSecond).withDevice drive.device).withMBR mbr) :=
    (resized_default stale staleSecond).blank
  have hdevice : drive.device = diskOf
      (((default stale staleSecond).withDevice drive.device).withMBR mbr) drive.device.medium
        drive.device.position := by
    have hsize : (BitVec.ofNat 64 drive.device.blocks).toNat = drive.device.blocks :=
      Nat.mod_eq_of_lt hblocks
    exact congrArg (fun blocks => Device.mk drive.device.blockSize blocks drive.device.medium
      drive.device.position) hsize.symm
  have hforce := forceLoadGPTData_eq_none_iff drive.device.position hblank
    ⟨hmain.block_le, hmain.fits, hmain.sector_lt, hmain.read_eq⟩
    ⟨hother.block_le, hother.fits, hother.sector_lt, hother.read_eq⟩ hpos hvalid hsame
  rw [← hdevice] at hforce
  have hscan : partitionScan fuel drive ((default stale staleSecond).withDevice drive.device) =
      some ((forceLoadGPTData
        ⟨((default stale staleSecond).withDevice drive.device).withMBR mbr, drive.device⟩).map
          fun loaded => repairMBR loaded.2.data) := by
    have hread' : Mbr.readMBRData drive.readEbr fuel drive.boot
      ((default stale staleSecond).withDevice drive.device).diskSize
      ((default stale staleSecond).withDevice drive.device).protectiveMBR = _ := hread
    rw [partitionScan, hread', Option.map_some]
    cases hload : forceLoadGPTData
      ⟨((default stale staleSecond).withDevice drive.device).withMBR mbr, drive.device⟩ with
    | none => simp only [Option.bind_eq_bind, Option.bind_some, hload, Option.bind_none,
        Option.map_none]
    | some loaded => simp only [Option.bind_eq_bind, Option.bind_some, hload, Option.map_some,
        Option.pure_def]
  rw [loadPartitions, hopens.1, hopens.2, Bool.and_true, if_pos rfl, hscan, Option.map_some,
    Option.some_inj, Option.map_eq_none_iff, Option.map_eq_none_iff]
  exact hforce

end Disk

/-- A header for a disk of 64 blocks that names a size of the entries. -/
def sizedHeader (size : BitVec 32) : Header :=
  withCrc 92 { bareHeader with
    backupLBA := 63
    numParts := 4
    partitionEntriesLBA := 2
    sizeOfPartitionEntries := size }

/-- A drive with this header in both places, and a first sector without a signature. -/
def sizedDrive (size : BitVec 32) : Drive where
  opens := true
  opensAgain := true
  device := ⟨512, 64, Medium.write
    (Medium.write (fun _ => 0) (1 * 512) (headerLayout.encode (sizedHeader size)))
    (63 * 512) (headerLayout.encode (sizedHeader size)), 0⟩
  boot := some { Mbr.smallBoot 0 0 0 with signature := 0 }
  readEbr _ := none
  diskGUID := 0

theorem headerOn_sizedDrive (stale : Header) (size : BitVec 32) {sector : BitVec 64}
    (h : sector = 1 ∨ sector = 63) :
    HeaderOn ((default stale stale).withDevice (sizedDrive size).device)
      (sizedDrive size).device.medium sector (sizedHeader size) := by
  have hlength : (headerLayout.encode (sizedHeader size)).length = 512 :=
    headerLayout.length_encode _
  have hself (m : Medium) (start : Nat) : (m.write start (headerLayout.encode
      (sizedHeader size))).read start 512 = headerLayout.encode (sizedHeader size) := by
    rw [← hlength]
    exact Medium.read_write_self m start _
  refine ⟨(by decide : 512 ≤ 512), (by decide : (64 : BitVec 64).toNat * 512 < 2 ^ 63), ?_, ?_⟩
  · change sector.toNat < (64 : BitVec 64).toNat
    rcases h with rfl | rfl <;> decide
  · rcases h with rfl | rfl
    · exact (Medium.read_write_of_disjoint _ (.inl (by decide : 1 * 512 + 512 ≤ 63 * 512))).trans
        (hself _ _)
    · exact hself _ _

theorem headerValid_sizedHeader (size : BitVec 32) : headerValid 512 (sizedHeader size) = true := by
  have hcrc : checkHeaderCRC 512 (sizedHeader size) = true :=
    checkHeaderCRC_withCrc 512 _ (by decide : headerSize ≤ (92 : BitVec 32).toNat)
      (by decide : (92 : BitVec 32).toNat ≤ 512)
  rw [headerValid, hcrc]
  rfl

/-- Entries of 256 bytes and of 128 bytes. -/
theorem loadPartitions_sizedDrive :
    loadPartitions 0 (sizedDrive 256) (default bareHeader bareHeader) = some none ∧
      loadPartitions 0 (sizedDrive 128) (default bareHeader bareHeader) ≠ some none := by
  have hused (size : BitVec 32) :
      usedSecond 512 (sizedHeader size) (sizedHeader size) = sizedHeader size :=
    if_pos (headerValid_sizedHeader size)
  have hiff (size : BitVec 32) : loadPartitions 0 (sizedDrive size)
      (default bareHeader bareHeader) = some none ↔ Overruns 512 (sizedHeader size) ∨
        Overruns 512 (usedSecond 512 (sizedHeader size) (sizedHeader size)) := by
    obtain ⟨mbr, hmbr⟩ : ∃ mbr, Mbr.readMBRData (sizedDrive size).readEbr 0 (sizedDrive size).boot
        (BitVec.ofNat 64 (sizedDrive size).device.blocks)
        (default bareHeader bareHeader).protectiveMBR = some (some (false, mbr)) := ⟨_, rfl⟩
    exact loadPartitions_eq_none_iff bareHeader bareHeader ⟨rfl, rfl⟩
      (by decide : 64 < 2 ^ 64) hmbr (headerOn_sizedDrive bareHeader size (.inl rfl))
      (headerOn_sizedDrive bareHeader size (.inr rfl)) (by decide : 0 < 4)
      (headerValid_sizedHeader size) fun _ => rfl
  refine ⟨(hiff 256).mpr (.inl ⟨by decide, by decide⟩), fun hnone => ?_⟩
  rcases (hiff 128).mp hnone with hover | hover
  · exact absurd hover.2 (by decide)
  · rw [hused] at hover
    exact absurd hover.2 (by decide)

end UsbMaker.GptDisk
