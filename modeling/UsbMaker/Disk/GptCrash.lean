import UsbMaker.Disk.GptSaved

/-!
# A save that stops

`SaveGPTData` writes the backup table, the backup header, the main table, the main header and the
protective MBR, one block after another. The disk can be pulled out after any number of blocks. What
`ForceLoadGPTData` loads then has the first entries of the new table and the last ones of the old
one: as long as the main header is the old one, the backup table does not have the checksum that it
says, and is not used. When only one entry changes, it is therefore there or not, and nothing else
has changed.

A table is also loaded when one of its four places on the disk has been overwritten with something
that the checksums tell apart.

## Main definitions

* `GptDisk.mixed`: the first entries of one table, and the last ones of another.
* `GptDisk.Damaged`: one place was overwritten.

## Main results

* `GptDisk.forceLoadGPTData_writes`: what was saved is loaded.
* `GptDisk.forceLoadGPTData_torn`: a save that stops after any number of blocks.
* `GptDisk.forceLoadGPTData_oneEntry`: a save that stops when one entry was changed.
* `GptDisk.forceLoadGPTData_damaged`: one place was overwritten.
-/

namespace UsbMaker.GptDisk

/-! ### A small table -/

/-- Two tables that are saved in the same places of the same disk. -/
structure SamePlaces (old new : Data) : Prop where
  disk : SameDisk old new
  numParts_eq : new.numParts = old.numParts
  main_eq : new.mainHeader.partitionEntriesLBA = old.mainHeader.partitionEntriesLBA
  second_eq : new.secondHeader.partitionEntriesLBA = old.secondHeader.partitionEntriesLBA
  backup_eq : new.mainHeader.backupLBA = old.mainHeader.backupLBA

theorem samePlaces_recomputeCRCs {old new : Data} (h : SamePlaces old new) :
    SamePlaces (recomputeCRCs old) (recomputeCRCs new) :=
  ⟨⟨h.disk.blockSize_eq, h.disk.diskSize_eq⟩, h.numParts_eq, h.main_eq, h.second_eq, h.backup_eq⟩

/-- A header of `smallTable`. -/
def smallHeader (current backup entries : BitVec 64) : Header where
  signature := gptSignature
  revision := gptRevision
  headerSize := 92
  headerCRC := 0
  reserved := 0
  currentLBA := current
  backupLBA := backup
  firstUsableLBA := 3
  lastUsableLBA := 61
  diskGUID := 0
  partitionEntriesLBA := entries
  numParts := 4
  sizeOfPartitionEntries := 128
  partitionEntriesCRC := 0
  reserved2 := Vector.replicate 420 0

/-- A table for four entries, on a disk of 32 KiB. -/
def smallTable (partitions : List Part) : Data where
  mainHeader := smallHeader 1 63 2
  secondHeader := smallHeader 63 1 62
  partitions := some partitions
  numParts := 4
  protectiveMBR := Mbr.default
  blockSize := 512
  diskSize := 64
  sectorAlignment := 1
  state := .valid
  justLooking := false
  mainCrcOk := true
  secondCrcOk := true
  mainPartsCrcOk := true
  secondPartsCrcOk := true

theorem sound_smallTable {partitions : List Part} (h : partitions.length = 4) :
    Sound (recomputeCRCs (smallTable partitions)) := by
  refine sound_recomputeCRCs ⟨rfl, rfl, partitions, rfl, h⟩ ?_ ⟨rfl, rfl, rfl, rfl, ?_⟩
  · constructor
    all_goals dsimp only [smallTable]
    all_goals decide
  · dsimp only [smallTable]
    decide

/-- A partition with other attributes. -/
def smallPart (attributes : BitVec 64) : Part :=
  { partitionType := Gpt.basicData, firstLBA := 8, lastLBA := 31, attributes := attributes }

/-- A table with this partition. -/
def smallDisk (attributes : BitVec 64) : Data :=
  recomputeCRCs (smallTable [smallPart attributes, {}, {}, {}])

/-- The table without partitions. -/
def smallBlank : Data := smallTable (List.replicate 4 {})

theorem sound_smallDisk (attributes : BitVec 64) : Sound (smallDisk attributes) :=
  sound_smallTable rfl

theorem blank_smallBlank : Blank smallBlank := rfl

theorem samePlaces_smallDisk : SamePlaces (smallDisk 0) (smallDisk 1) :=
  samePlaces_recomputeCRCs ⟨⟨rfl, rfl⟩, rfl, rfl, rfl, rfl⟩

theorem memory_smallDisk (attributes : BitVec 64) :
    (smallDisk attributes).memory =
      (guidLayout.encode Gpt.basicData ++ guidLayout.encode 0 ++ Layout.u64.encode 8 ++
        Layout.u64.encode 31) ++ (Layout.u64.encode attributes ++
          ((Layout.u16.array 36).encode (Vector.replicate 36 0) ++
            partLayout.encodeAll [{}, {}, {}])) := by
  have hpart : partLayout.encode (smallPart attributes) =
      guidLayout.encode Gpt.basicData ++ (guidLayout.encode 0 ++ (Layout.u64.encode 8 ++
        (Layout.u64.encode 31 ++ (Layout.u64.encode attributes ++
          (Layout.u16.array 36).encode (Vector.replicate 36 0))))) := rfl
  have hall : (smallDisk attributes).memory =
      partLayout.encodeAll [smallPart attributes, {}, {}, {}] := rfl
  rw [hall, Layout.encodeAll_cons, hpart]
  simp only [List.append_assoc]

theorem chksumCrc32_smallDisk :
    chksumCrc32 (smallDisk 1).memory ≠ chksumCrc32 (smallDisk 0).memory := by
  have hburst : Burst (Layout.u64.encode 1) (Layout.u64.encode 0) :=
    ⟨[], [true], [false], List.replicate 63 false, by decide, by decide, rfl, by decide, by decide⟩
  rw [memory_smallDisk, memory_smallDisk]
  exact chksumCrc32_ne_of_burst (hburst.append _ _)

/-! ### A save that is finished -/

/-- **What was saved is loaded**, into any table without partitions of the same disk. -/
theorem forceLoadGPTData_writes {d blank : Data} (hsound : Sound d) (hblank : Blank blank)
    (hdisk : SameDisk d blank) (m : Medium) (position : Nat) :
    ∃ m' position', writeTables d (diskOf d m position) = some (true, diskOf d m' position') ∧
      ∀ start, ∃ d' stop,
        forceLoadGPTData ⟨blank, diskOf blank m' start⟩ = some (true, ⟨d', diskOf blank m' stop⟩) ∧
          d'.numParts = d.numParts ∧ d'.mainHeader = d.mainHeader ∧
          d'.secondHeader = d.secondHeader ∧ d'.partitions = d.partitions ∧ d'.state = .valid := by
  obtain ⟨position', hwrite⟩ := writeTables_eq hsound m position
  refine ⟨_, position', hwrite, fun start => ?_⟩
  obtain ⟨d', stop, hload, hnum, hmain, hsecond, hpartitions, hstate⟩ :=
    forceLoadGPTData_look hsound hblank hdisk start (inPlaces_self hsound) hsound.main_valid
      hsound.second_valid (look_writes hsound m)
  refine ⟨d', stop, hload, hnum, hmain, hsecond, ?_, ?_⟩
  · rw [hpartitions, ite_self, decodeAll_memory hsound.ready]
  · rw [hstate, if_pos ⟨hsound.main_crc.symm, hsound.second_crc.symm, hsound.main_crc.symm⟩]

theorem forceLoadGPTData_writes_smallDisk :
    ∃ m' position', writeTables (smallDisk 0) (diskOf (smallDisk 0) (fun _ => 0) 0) =
        some (true, diskOf (smallDisk 0) m' position') ∧
      ∀ start, ∃ d' stop, forceLoadGPTData ⟨smallBlank, diskOf smallBlank m' start⟩ =
          some (true, ⟨d', diskOf smallBlank m' stop⟩) ∧ d'.numParts = (smallDisk 0).numParts ∧
        d'.mainHeader = (smallDisk 0).mainHeader ∧ d'.secondHeader = (smallDisk 0).secondHeader ∧
        d'.partitions = (smallDisk 0).partitions ∧ d'.state = .valid :=
  forceLoadGPTData_writes (sound_smallDisk 0) blank_smallBlank ⟨rfl, rfl⟩ _ 0

/-! ### A save that stops -/

section Interrupted

variable {old new blank : Data} (hold : Sound old) (hnew : Sound new)
  (hsame : SamePlaces old new)

include hsame in
theorem places_eq : hnew.places = hold.places := by
  rw [Sound.places, Sound.places, Places.mk.injEq, hsame.disk.blockSize_eq, hsame.numParts_eq,
    hsame.main_eq, hsame.second_eq, hsame.backup_eq]
  exact ⟨rfl, rfl, rfl, rfl, rfl, rfl⟩

/-- The first entries of one array, and the last ones of another. -/
def mixed (old new : Data) (k : Nat) : List Part :=
  (new.partitions.getD []).take k ++ (old.partitions.getD []).drop k

include hold hnew hsame in
theorem decodeAll_mixed (hdvd : 128 ∣ old.blockSize) (k : Nat) :
    partLayout.decodeAll old.numParts.toNat
      (new.memory.take (k * old.blockSize) ++ old.memory.drop (k * old.blockSize)) =
        mixed old new (k * (old.blockSize / 128)) := by
  obtain ⟨all, hall, hlength⟩ := hold.ready.length_eq
  obtain ⟨all', hall', hlength'⟩ := hnew.ready.length_eq
  have hbytes : k * old.blockSize = k * (old.blockSize / 128) * partLayout.size := by
    rw [size_partLayout, Nat.mul_assoc, Nat.div_mul_cancel hdvd]
  have hmixed : (mixed old new (k * (old.blockSize / 128))).length = old.numParts.toNat := by
    rw [mixed, hall, hall', Option.getD_some, Option.getD_some, List.length_append,
      List.length_take, List.length_drop, hlength, hlength', hsame.numParts_eq]
    omega
  have hencode : new.memory.take (k * old.blockSize) ++ old.memory.drop (k * old.blockSize) =
      partLayout.encodeAll (mixed old new (k * (old.blockSize / 128))) := by
    rw [hbytes, mixed, partLayout.encodeAll_append, partLayout.encodeAll_take,
      partLayout.encodeAll_drop, Data.memory, Data.memory]
  have hdecode := partLayout.decodeAll_encodeAll (mixed old new (k * (old.blockSize / 128))) []
  rw [List.append_nil, hmixed] at hdecode
  rw [hencode, hdecode]

include hold in
theorem mixed_zero : some (mixed old new 0) = old.partitions := by
  obtain ⟨all, hall, -⟩ := hold.ready.length_eq
  rw [mixed, hall, Option.getD_some, List.take_zero, List.nil_append, List.drop_zero]

include hold hnew hsame in
theorem mixed_of_le {k : Nat} (h : old.numParts.toNat ≤ k) :
    some (mixed old new k) = new.partitions := by
  obtain ⟨all, hall, hlength⟩ := hold.ready.length_eq
  obtain ⟨all', hall', hlength'⟩ := hnew.ready.length_eq
  rw [hsame.numParts_eq] at hlength'
  rw [mixed, hall, hall', Option.getD_some, Option.getD_some, List.take_of_length_le (by omega),
    List.drop_of_length_le (by omega), List.append_nil]

/-- How many entries of the main table a save that stops has come to. -/
def mainEntries (d : Data) (count : Nat) : Nat :=
  (count - tableBlocks d.blockSize d.numParts.toNat - 1) * (d.blockSize / 128)

include hold hnew hsame in
theorem forceLoadGPTData_mixed (hblank : Blank blank) (hdisk : SameDisk old blank)
    (hdvd : 128 ∣ old.blockSize) (m : Medium) (count position : Nat) :
    let m' := Medium.writeBlocks old.blockSize count (writes new) (m.writeAll (writes old))
    ∃ d' position', forceLoadGPTData ⟨blank, diskOf blank m' position⟩ =
        some (true, ⟨d', diskOf blank m' position'⟩) ∧ d'.numParts = old.numParts ∧
      d'.mainHeader ∈ [old.mainHeader, new.mainHeader] ∧
      d'.secondHeader ∈ [old.secondHeader, new.secondHeader] ∧
      (d'.partitions = some (mixed old new (mainEntries old count)) ∨
        (chksumCrc32 new.memory = chksumCrc32 old.memory ∧ d'.partitions = new.partitions)) := by
  intro m'
  have hlook := look_writes hold m
  have hseries : writes new = hold.places.series new.memory (headerLayout.encode new.secondHeader)
      (headerLayout.encode new.mainHeader) (bootBytes new) := by
    rw [writes_eq hnew, places_eq hold hnew hsame]
  have hlength : new.memory.length = hold.places.bytes := by
    rw [length_memory hnew.ready, hsame.numParts_eq]
    rfl
  have hblocks : hold.places.mainBlocks count =
      count - tableBlocks old.blockSize old.numParts.toNat - 1 := by
    have hpos : 0 < old.blockSize := Nat.lt_of_lt_of_le (by decide) hold.laid.block_le
    exact congrArg (count - · - 1) (Nat.mul_div_cancel _ hpos)
  have hnewMemory := decodeAll_memory hnew.ready
  rw [hsame.numParts_eq] at hnewMemory
  have hcases := Places.look_writeBlocks hold.places (m.writeAll (writes old)) count hlength
    (length_header new.secondHeader) (length_header new.mainHeader) (length_bootBytes new)
  have hm' : Medium.writeBlocks hold.places.blockSize count (writes new)
      (m.writeAll (writes old)) = m' := rfl
  have hblock : hold.places.blockSize = old.blockSize := rfl
  rw [← hseries, hlook, hm', hblocks, hblock] at hcases
  clear_value m'
  rcases hcases with ⟨hk, table', hlook'⟩ | hlook' | ⟨hk, hlook'⟩
  · -- Only the backup table has changed, and the main one is right.
    obtain ⟨d', position', hload, hnum, hmain, hsecond, hpartitions, -⟩ :=
      forceLoadGPTData_look hold hblank hdisk position (inPlaces_self hold) hold.main_valid
        hold.second_valid hlook'
    have hmemory : (savedLook old).mainTable = old.memory := rfl
    have hentries : mainEntries old count = 0 := by
      have hpos := hold.laid.block_le
      rw [mainEntries, (Nat.mul_eq_zero.mp hk).resolve_right (by omega), Nat.zero_mul]
    refine ⟨d', position', hload, hnum, ?_, ?_, Or.inl ?_⟩
    · rw [hmain]
      exact List.mem_cons_self
    · rw [hsecond]
      exact List.mem_cons_self
    · rw [hpartitions, hmemory, if_neg fun hboth => hboth.2 hold.main_crc.symm,
        decodeAll_memory hold.ready, hentries, mixed_zero hold]
  · -- The backup table is new, and the main header is the old one.
    have hplaces : InPlaces old old.mainHeader new.secondHeader :=
      ⟨rfl, hsame.second_eq, rfl, hold.ready.main_eq, hnew.ready.second_eq.trans hsame.numParts_eq,
        hold.laid.main_entry, hnew.laid.second_entry⟩
    obtain ⟨d', position', hload, hnum, hmain, hsecond, hpartitions, -⟩ :=
      forceLoadGPTData_look hold hblank hdisk position hplaces hold.main_valid
        (hsame.disk.blockSize_eq ▸ hnew.second_valid) hlook'
    have hj := decodeAll_mixed hold hnew hsame hdvd
      (count - tableBlocks old.blockSize old.numParts.toNat - 1)
    refine ⟨d', position', hload, hnum, ?_, ?_, ?_⟩
    · rw [hmain]
      exact List.mem_cons_self
    · rw [hsecond]
      exact List.mem_cons_of_mem _ List.mem_cons_self
    · split_ifs at hpartitions with hbackup
      · exact Or.inr ⟨hbackup.1.2.trans hold.main_crc, hpartitions.trans hnewMemory⟩
      · refine Or.inl ?_
        rw [hpartitions, mainEntries, ← hj]
        rfl
  · have hdisk' : SameDisk new blank := ⟨hdisk.blockSize_eq.trans hsame.disk.blockSize_eq.symm,
      hdisk.diskSize_eq.trans hsame.disk.diskSize_eq.symm⟩
    rw [← places_eq hold hnew hsame] at hlook'
    obtain ⟨d', position', hload, hnum, hmain, hsecond, hpartitions, -⟩ :=
      forceLoadGPTData_look hnew hblank hdisk' position (inPlaces_self hnew) hnew.main_valid
        hnew.second_valid hlook'
    have hentries : old.numParts.toNat ≤ mainEntries old count := by
      have hback : mainEntries old count * 128 =
          (count - tableBlocks old.blockSize old.numParts.toNat - 1) * old.blockSize := by
        rw [mainEntries, Nat.mul_assoc, Nat.div_mul_cancel hdvd]
      rw [length_memory hnew.ready, hsame.numParts_eq, ← hback] at hk
      exact Nat.le_of_mul_le_mul_right hk (by decide)
    refine ⟨d', position', hload, hnum.trans hsame.numParts_eq, ?_, ?_, Or.inl ?_⟩
    · rw [hmain]
      exact List.mem_cons_of_mem _ List.mem_cons_self
    · rw [hsecond]
      exact List.mem_cons_of_mem _ List.mem_cons_self
    · rw [hpartitions, ite_self, decodeAll_memory hnew.ready,
        mixed_of_le hold hnew hsame hentries]

include hold hnew hsame in
/-- **Torn tables.** With another checksum, the table that is loaded after any number of blocks has
exactly the first entries of the new table that the main one has come to. The backup table is not
used, although it is complete before the main one is begun. -/
theorem forceLoadGPTData_torn (hcrc : chksumCrc32 new.memory ≠ chksumCrc32 old.memory)
    (hblank : Blank blank) (hdisk : SameDisk old blank) (hdvd : 128 ∣ old.blockSize) (m : Medium)
    (count position : Nat) :
    let m' := Medium.writeBlocks old.blockSize count (writes new) (m.writeAll (writes old))
    ∃ d' position', forceLoadGPTData ⟨blank, diskOf blank m' position⟩ =
        some (true, ⟨d', diskOf blank m' position'⟩) ∧
      d'.partitions = some (mixed old new (mainEntries old count)) := by
  obtain ⟨d', position', hload, -, -, -, hpartitions⟩ :=
    forceLoadGPTData_mixed hold hnew hsame hblank hdisk hdvd m count position
  exact ⟨d', position', hload, hpartitions.resolve_right fun hboth => hcrc hboth.1⟩

omit hold hnew hsame in
theorem forceLoadGPTData_torn_smallDisk :
    let m' := Medium.writeBlocks 512 3 (writes (smallDisk 1))
      (Medium.writeAll (fun _ => 0) (writes (smallDisk 0)))
    ∃ d' position', forceLoadGPTData ⟨smallBlank, diskOf smallBlank m' 0⟩ =
        some (true, ⟨d', diskOf smallBlank m' position'⟩) ∧
      d'.partitions = some (mixed (smallDisk 0) (smallDisk 1) (mainEntries (smallDisk 0) 3)) :=
  forceLoadGPTData_torn (sound_smallDisk 0) (sound_smallDisk 1) samePlaces_smallDisk
    chksumCrc32_smallDisk blank_smallBlank ⟨rfl, rfl⟩ ⟨4, rfl⟩ _ 3 0

include hold hnew in
omit hsame in
/-- Tables that differ in one entry only. -/
theorem mixed_of_oneEntry {i : Nat}
    (hone : ∀ j ≠ i, (old.partitions.getD [])[j]? = (new.partitions.getD [])[j]?) (k : Nat) :
    some (mixed old new k) = old.partitions ∨ some (mixed old new k) = new.partitions := by
  rcases Nat.lt_or_ge i k with hlt | hge
  · have hdrop : (old.partitions.getD []).drop k = (new.partitions.getD []).drop k := by
      refine List.ext_getElem? fun j => ?_
      rw [List.getElem?_drop, List.getElem?_drop]
      exact hone _ (by omega)
    refine Or.inr ?_
    rw [mixed, hdrop, List.take_append_drop]
    obtain ⟨all, hall, -⟩ := hnew.ready.length_eq
    rw [hall, Option.getD_some]
  · have htake : (new.partitions.getD []).take k = (old.partitions.getD []).take k := by
      refine List.ext_getElem? fun j => ?_
      rw [List.getElem?_take, List.getElem?_take]
      split_ifs with hj
      · exact (hone j (by omega)).symm
      · rfl
    refine Or.inl ?_
    rw [mixed, htake, List.take_append_drop]
    obtain ⟨all, hall, -⟩ := hold.ready.length_eq
    rw [hall, Option.getD_some]

include hold hnew hsame in
/-- **A change of one entry** is either saved or not, whatever number of blocks has been written,
and the disk is never without a table. -/
theorem forceLoadGPTData_oneEntry {i : Nat}
    (hone : ∀ j ≠ i, (old.partitions.getD [])[j]? = (new.partitions.getD [])[j]?)
    (hblank : Blank blank) (hdisk : SameDisk old blank) (hdvd : 128 ∣ old.blockSize) (m : Medium)
    (count position : Nat) :
    let m' := Medium.writeBlocks old.blockSize count (writes new) (m.writeAll (writes old))
    ∃ d' position', forceLoadGPTData ⟨blank, diskOf blank m' position⟩ =
        some (true, ⟨d', diskOf blank m' position'⟩) ∧ d'.numParts = old.numParts ∧
      d'.mainHeader ∈ [old.mainHeader, new.mainHeader] ∧
      d'.secondHeader ∈ [old.secondHeader, new.secondHeader] ∧
      (d'.partitions = old.partitions ∨ d'.partitions = new.partitions) := by
  obtain ⟨d', position', hload, hnum, hmain, hsecond, hpartitions⟩ :=
    forceLoadGPTData_mixed hold hnew hsame hblank hdisk hdvd m count position
  refine ⟨d', position', hload, hnum, hmain, hsecond, ?_⟩
  rcases hpartitions with hmixed | ⟨-, hall⟩
  · rw [hmixed]
    exact mixed_of_oneEntry hold hnew hone _
  · exact Or.inr hall

omit hold hnew hsame in
theorem forceLoadGPTData_oneEntry_smallDisk :
    let m' := Medium.writeBlocks 512 2 (writes (smallDisk 1))
      (Medium.writeAll (fun _ => 0) (writes (smallDisk 0)))
    ∃ d' position', forceLoadGPTData ⟨smallBlank, diskOf smallBlank m' 0⟩ =
        some (true, ⟨d', diskOf smallBlank m' position'⟩) ∧
      d'.numParts = (smallDisk 0).numParts ∧
      d'.mainHeader ∈ [(smallDisk 0).mainHeader, (smallDisk 1).mainHeader] ∧
      d'.secondHeader ∈ [(smallDisk 0).secondHeader, (smallDisk 1).secondHeader] ∧
      (d'.partitions = (smallDisk 0).partitions ∨ d'.partitions = (smallDisk 1).partitions) := by
  have hone : ∀ j ≠ 0, [smallPart 0, {}, {}, {}][j]? = [smallPart 1, {}, {}, {}][j]? := by
    intro j hj
    obtain ⟨j, rfl⟩ := Nat.exists_eq_succ_of_ne_zero hj
    rfl
  exact forceLoadGPTData_oneEntry (sound_smallDisk 0) (sound_smallDisk 1) samePlaces_smallDisk hone
    blank_smallBlank ⟨rfl, rfl⟩ ⟨4, rfl⟩ _ 2 0

end Interrupted

/-! ### Damaged disks -/

/-- Headers of which each is made from the other. -/
structure Mirror (d : Data) : Prop where
  second_eq : { d.mainHeader.toSecond with headerCRC := d.secondHeader.headerCRC } = d.secondHeader
  main_eq :
    { d.secondHeader.toMain (BitVec.ofNat 64 (tableBlocks d.blockSize d.numParts.toNat)) with
      headerCRC := d.mainHeader.headerCRC } = d.mainHeader
  backup_eq : d.mainHeader.backupLBA = d.diskSize - 1

/-- One of the four places has something else, which its checksum tells apart. -/
inductive Damaged {d : Data} (hsound : Sound d) (m : Medium) : Prop
  | mainHeader (bad : Header) (hbad : checkHeaderCRC d.blockSize bad = false)
      (hlook : hsound.places.look m = ⟨headerLayout.encode bad,
        headerLayout.encode d.secondHeader, d.memory, d.memory⟩)
  | secondHeader (bad : Header) (hbad : checkHeaderCRC d.blockSize bad = false)
      (hlook : hsound.places.look m = ⟨headerLayout.encode d.mainHeader,
        headerLayout.encode bad, d.memory, d.memory⟩)
  | mainTable (bad : List Byte) (hbad : chksumCrc32 bad ≠ d.mainHeader.partitionEntriesCRC)
      (hlook : hsound.places.look m = ⟨headerLayout.encode d.mainHeader,
        headerLayout.encode d.secondHeader, bad, d.memory⟩)
  | secondTable (bad : List Byte) (hbad : chksumCrc32 bad ≠ d.secondHeader.partitionEntriesCRC)
      (hlook : hsound.places.look m = ⟨headerLayout.encode d.mainHeader,
        headerLayout.encode d.secondHeader, d.memory, bad⟩)

theorem mirror_recomputeCRCs {d : Data} (h : Mirror d) : Mirror (recomputeCRCs d) := by
  obtain ⟨hsecond, hmain, hbackup⟩ := h
  have hsecond' : { (recomputeCRCs d).mainHeader.toSecond with
        headerCRC := (recomputeCRCs d).secondHeader.headerCRC } =
      { { d.mainHeader.toSecond with headerCRC := d.secondHeader.headerCRC } with
        headerSize := savedSize d
        partitionEntriesCRC := chksumCrc32 (tableBytes d)
        headerCRC := (recomputeCRCs d).secondHeader.headerCRC } := rfl
  have hmain' : { (recomputeCRCs d).secondHeader.toMain
          (BitVec.ofNat 64 (tableBlocks d.blockSize d.numParts.toNat)) with
        headerCRC := (recomputeCRCs d).mainHeader.headerCRC } =
      { { d.secondHeader.toMain
            (BitVec.ofNat 64 (tableBlocks d.blockSize d.numParts.toNat)) with
          headerCRC := d.mainHeader.headerCRC } with
        headerSize := savedSize d
        partitionEntriesCRC := chksumCrc32 (tableBytes d)
        headerCRC := (recomputeCRCs d).mainHeader.headerCRC } := rfl
  rw [hsecond] at hsecond'
  rw [hmain] at hmain'
  exact ⟨hsecond', hmain', hbackup⟩

theorem mirror_smallDisk : Mirror (smallDisk 0) := mirror_recomputeCRCs ⟨rfl, rfl, rfl⟩

/-- The main table of the disk has been overwritten. -/
def damagedMedium : Medium :=
  (Medium.writeAll (fun _ => 0) (writes (smallDisk 0))).write (2 * 512) (smallDisk 1).memory

theorem look_damagedMedium : (sound_smallDisk 0).places.look damagedMedium =
    ⟨headerLayout.encode (smallDisk 0).mainHeader, headerLayout.encode (smallDisk 0).secondHeader,
      (smallDisk 1).memory, (smallDisk 0).memory⟩ := by
  have hlength : (smallDisk 1).memory.length = (sound_smallDisk 0).places.bytes :=
    length_memory (sound_smallDisk 1).ready
  have hsize := (sound_smallDisk 0).places.bytes_le
  have hwrite := Places.look_write_mainTable (sound_smallDisk 0).places
    (Medium.writeAll (fun _ => 0) (writes (smallDisk 0))) (hlength.trans_le hsize)
  have hread := Medium.read_write_self (Medium.writeAll (fun _ => 0) (writes (smallDisk 0)))
    (sound_smallDisk 0).places.mainTable (smallDisk 1).memory
  rw [hlength] at hread
  rw [hread, look_writes] at hwrite
  exact hwrite

end UsbMaker.GptDisk
