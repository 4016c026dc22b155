import UsbMaker.Disk.GptLoad

/-!
# What is saved

The headers and the copies of the table have four places on the disk. Two tables with the same
places are told apart by what is in them (`GptDisk.Look`), and so is what is loaded. The writes of
`SaveGPTData` fill the places one after another, and a series of writes that stops has filled some
of them.

## Main definitions

* `GptDisk.Sound`: a table in memory that can be saved.
* `GptDisk.writes`: what is written for it.
* `GptDisk.Places`, `GptDisk.Look`: the places, and what is in them.

## Main results

* `GptDisk.writeTables_eq`: saving a sound table succeeds.
* `GptDisk.Places.look_writeBlocks`: what a series of writes that stops leaves.
* `GptDisk.forceLoadGPTData_look`: what is loaded from two valid headers.
* `GptDisk.sound_recomputeCRCs`: `RecomputeCRCs` makes a table sound.
-/

namespace UsbMaker.GptDisk

/-! ### Writing -/

/-- A string with zeros after it. -/
def padTo (size : Nat) (bytes : List Byte) : List Byte :=
  bytes ++ List.replicate (size - bytes.length) 0

theorem length_padTo {size : Nat} {bytes : List Byte} (h : bytes.length ≤ size) :
    (padTo size bytes).length = size := by
  rw [padTo, List.length_append, List.length_replicate]
  omega

theorem take_padTo {size k : Nat} {bytes : List Byte} (h : k ≤ bytes.length) :
    (padTo size bytes).take k = bytes.take k := List.take_append_of_le_length h

theorem length_header (h : Header) : (headerLayout.encode h).length = 512 :=
  headerLayout.length_encode h

section Write

variable {d : Data} (m : Medium) (position : Nat)

/-- A write within the disk. -/
theorem write_eq {bytes : List Byte} {size : Nat}
    (hsize : (diskOf d m position).blockBytes bytes.length = size)
    (h : position + size ≤ d.diskSize.toNat * d.blockSize) (hle : bytes.length ≤ size) :
    (diskOf d m position).write bytes =
      diskOf d (m.write position (padTo size bytes)) (position + size) := by
  have hall : (diskOf d m position).transferred bytes.length = size := by
    rw [Device.transferred, hsize]
    exact Nat.min_eq_left (by dsimp only [diskOf]; omega)
  rw [Device.write, Device.advance, hall, hsize]
  dsimp only
  rw [← padTo, List.take_of_length_le (length_padTo hle).le]
  rfl

/-- Where the sectors of a disk begin. -/
theorem seek_diskOf (hfits : d.diskSize.toNat * d.blockSize < 2 ^ 63) {sector : BitVec 64}
    (hsector : sector.toNat ≤ d.diskSize.toNat) :
    (diskOf d m position).seek sector = (true, diskOf d m (sector.toNat * d.blockSize)) :=
  seek_eq (lt_of_le_of_lt (Nat.mul_le_mul_right _ hsector) hfits)

theorem saveHeader_eq (hblock : 512 ≤ d.blockSize)
    (hfits : d.diskSize.toNat * d.blockSize < 2 ^ 63) (h : Header) {sector : BitVec 64}
    (hsector : sector.toNat < d.diskSize.toNat) :
    saveHeader (diskOf d m position) h sector =
      (true, diskOf d (m.write (sector.toNat * d.blockSize)
        (padTo d.blockSize (headerLayout.encode h)))
          (sector.toNat * d.blockSize + d.blockSize)) := by
  have hle := Nat.mul_le_mul_right d.blockSize hsector
  rw [Nat.succ_mul] at hle
  have hlength := length_header h
  rw [saveHeader, seek_diskOf m position hfits hsector.le]
  dsimp only
  rw [if_pos rfl, write_eq m _ (by rw [hlength]; exact blockBytes_header hblock) hle (by omega)]

/-- The array has the number of entries, and a copy of the table fits on the disk. -/
theorem savePartitionTable_eq (hready : Ready d) (hon : TableOn d d.mainHeader)
    {sector : BitVec 64}
    (hsector : sector.toNat + tableBlocks d.blockSize d.numParts.toNat ≤ d.diskSize.toNat) :
    savePartitionTable d (diskOf d m position) sector =
      some (true, diskOf d (m.write (sector.toNat * d.blockSize)
        (padTo (tableBlocks d.blockSize d.numParts.toNat * d.blockSize) d.memory))
          (sector.toNat * d.blockSize +
            tableBlocks d.blockSize d.numParts.toNat * d.blockSize)) := by
  have hle := Nat.mul_le_mul_right d.blockSize hsector
  rw [Nat.add_mul] at hle
  have hlt := hon.numParts_lt
  have hmemory := length_memory hready
  have hbytes := le_tableBlocks d.numParts.toNat hon.block_pos
  have hsmall : 128 * d.numParts.toNat < 2 ^ 32 := by omega
  have hsize : (d.mainHeader.sizeOfPartitionEntries * d.numParts).toNat = d.memory.length := by
    rw [BitVec.toNat_mul, hon.entry_eq, hmemory, Nat.mul_comm d.numParts.toNat]
    exact Nat.mod_eq_of_lt hsmall
  rw [savePartitionTable, seek_diskOf m position hon.fits (by omega)]
  dsimp only
  rw [if_pos rfl, hsize, if_neg (Nat.lt_irrefl _), List.take_length,
    write_eq m _ (by rw [hmemory]; exact blockBytes_table hon.block_pos hon.numParts_pos) hle
      (by omega)]

/-- The bytes of the protective MBR. -/
def bootBytes (d : Data) : List Byte := Mbr.bootLayout.encode (Mbr.storeBoot d.protectiveMBR)

theorem length_bootBytes (d : Data) : (bootBytes d).length = 512 := Mbr.bootLayout.length_encode _

theorem writeMBRData_eq (hblock : 512 ≤ d.blockSize)
    (hfits : d.diskSize.toNat * d.blockSize < 2 ^ 63) (hpos : 0 < d.diskSize.toNat) :
    writeMBRData d.protectiveMBR (diskOf d m position) =
      (true, diskOf d (m.write 0 (padTo d.blockSize (bootBytes d))) d.blockSize) := by
  have hle := Nat.mul_le_mul_right d.blockSize hpos
  rw [Nat.succ_mul, Nat.zero_mul, Nat.zero_add] at hle
  have hlength := length_bootBytes d
  have hzero : (0 : BitVec 64).toNat * d.blockSize = 0 := Nat.zero_mul _
  have hseek : (diskOf d m position).seek 0 = (true, diskOf d m 0) := by
    rw [seek_diskOf m position hfits (Nat.zero_le _), hzero]
  obtain ⟨hretval, -⟩ : (diskOf d m 0).retval 512 = 512 ∧ _ :=
    retval_eq (n := 512) (blockBytes_header hblock) (by omega) (by rwa [Nat.zero_add])
  have hsize : (diskOf d m 0).blockBytes (bootBytes d).length = d.blockSize := by
    rw [hlength]
    exact blockBytes_header hblock
  have hwrite := write_eq m 0 hsize (by rwa [Nat.zero_add]) (by omega)
  rw [Nat.zero_add] at hwrite
  rw [writeMBRData, hseek]
  dsimp only
  rw [if_pos rfl, hretval, decide_eq_true rfl]
  exact congrArg (Prod.mk true) hwrite

end Write

/-! ### Sound tables -/

/-- A table in memory that can be saved, and whose checksums have been computed. -/
structure Sound (d : Data) : Prop where
  ready : Ready d
  laid : Laid d d.mainHeader d.secondHeader
  main_valid : headerValid d.blockSize d.mainHeader = true
  second_valid : headerValid d.blockSize d.secondHeader = true
  main_crc : d.mainHeader.partitionEntriesCRC = chksumCrc32 d.memory
  second_crc : d.secondHeader.partitionEntriesCRC = chksumCrc32 d.memory

/-- What `SaveGPTData` writes, and where. -/
def writes (d : Data) : List (Nat × List Byte) :=
  let size := tableBlocks d.blockSize d.numParts.toNat * d.blockSize
  [(d.secondHeader.partitionEntriesLBA.toNat * d.blockSize, padTo size d.memory),
    (d.mainHeader.backupLBA.toNat * d.blockSize,
      padTo d.blockSize (headerLayout.encode d.secondHeader)),
    (d.mainHeader.partitionEntriesLBA.toNat * d.blockSize, padTo size d.memory),
    (1 * d.blockSize, padTo d.blockSize (headerLayout.encode d.mainHeader)),
    (0, padTo d.blockSize (bootBytes d))]

/-- **Saving succeeds**, and writes these in this order. -/
theorem writeTables_eq {d : Data} (hsound : Sound d) (m : Medium) (position : Nat) :
    ∃ position', writeTables d (diskOf d m position) =
      some (true, diskOf d (m.writeAll (writes d)) position') := by
  obtain ⟨hready, hlaid, -, -, -, -⟩ := hsound
  have hsized : Sized d.mainHeader.numParts d d := ⟨hready.main_eq.symm, rfl, rfl⟩
  have hon := hlaid.tableOn_main hsized
  have hmain := hlaid.main_le
  have hsecond := hlaid.second_le
  have hbackup := hlaid.backup_lt
  have hfirst := hlaid.first_le
  rw [hready.main_eq] at hmain hsecond
  have hone : (1 : BitVec 64).toNat = 1 := rfl
  rw [writeTables, savePartitionTable_eq m position hready hon (by omega)]
  simp only [Option.bind_eq_bind, Option.bind_some, if_true]
  rw [saveHeader_eq _ _ hlaid.block_le hlaid.fits d.secondHeader hbackup]
  dsimp only
  rw [if_pos rfl, savePartitionTable_eq _ _ hready hon (by omega)]
  simp only [Option.bind_some, if_true]
  rw [saveHeader_eq _ _ hlaid.block_le hlaid.fits d.mainHeader (by omega)]
  dsimp only
  rw [if_pos rfl, writeMBRData_eq _ _ hlaid.block_le hlaid.fits (by omega)]
  exact ⟨_, rfl⟩

/-! ### The four places -/

/-- Where the headers and the copies of the table are on a disk, in bytes. The main header is in the
second block, and `size` bytes of blocks hold the `bytes` bytes of the table. -/
structure Places where
  blockSize : Nat
  mainTable : Nat
  secondTable : Nat
  secondHeader : Nat
  size : Nat
  bytes : Nat
  block_le : 512 ≤ blockSize
  dvd_size : blockSize ∣ size
  bytes_le : bytes ≤ size
  size_lt : size < bytes + blockSize
  first_le : blockSize + blockSize ≤ mainTable
  main_le : mainTable + size ≤ secondTable
  second_le : secondTable + size ≤ secondHeader

/-- What is in the places. -/
structure Look where
  mainHeader : List Byte
  secondHeader : List Byte
  mainTable : List Byte
  secondTable : List Byte

namespace Places

variable (p : Places) (m : Medium)

/-- What is read there. -/
def look : Look where
  mainHeader := m.read p.blockSize 512
  secondHeader := m.read p.secondHeader 512
  mainTable := m.read p.mainTable p.bytes
  secondTable := m.read p.secondTable p.bytes

/-- A table, its headers and a boot sector, in the order in which they are written. -/
def series (table second main boot : List Byte) : List (Nat × List Byte) :=
  [(p.secondTable, padTo p.size table), (p.secondHeader, padTo p.blockSize second),
    (p.mainTable, padTo p.size table), (p.blockSize, padTo p.blockSize main),
    (0, padTo p.blockSize boot)]

section Write

variable {bytes : List Byte}

/-- The places do not meet. -/
theorem bounds : 512 ≤ p.blockSize ∧ p.bytes ≤ p.size ∧ p.blockSize + p.blockSize ≤ p.mainTable ∧
    p.mainTable + p.size ≤ p.secondTable ∧ p.secondTable + p.size ≤ p.secondHeader :=
  ⟨p.block_le, p.bytes_le, p.first_le, p.main_le, p.second_le⟩

theorem look_write_secondTable (h : bytes.length ≤ p.size) :
    p.look (m.write p.secondTable bytes) =
      { p.look m with
        secondTable := (m.write p.secondTable bytes).read p.secondTable p.bytes } := by
  obtain ⟨hblock, hbytes, hfirst, hmain, hsecond⟩ := p.bounds
  simp (disch := omega) only [look, Medium.read_write_of_disjoint]

theorem look_write_secondHeader :
    p.look (m.write p.secondHeader bytes) =
      { p.look m with secondHeader := (m.write p.secondHeader bytes).read p.secondHeader 512 } := by
  obtain ⟨hblock, hbytes, hfirst, hmain, hsecond⟩ := p.bounds
  simp (disch := omega) only [look, Medium.read_write_of_disjoint]

theorem look_write_mainTable (h : bytes.length ≤ p.size) :
    p.look (m.write p.mainTable bytes) =
      { p.look m with mainTable := (m.write p.mainTable bytes).read p.mainTable p.bytes } := by
  obtain ⟨hblock, hbytes, hfirst, hmain, hsecond⟩ := p.bounds
  simp (disch := omega) only [look, Medium.read_write_of_disjoint]

theorem look_write_mainHeader (h : bytes.length ≤ p.blockSize) :
    p.look (m.write p.blockSize bytes) =
      { p.look m with mainHeader := (m.write p.blockSize bytes).read p.blockSize 512 } := by
  obtain ⟨hblock, hbytes, hfirst, hmain, hsecond⟩ := p.bounds
  simp (disch := omega) only [look, Medium.read_write_of_disjoint]

theorem look_write_boot (h : bytes.length ≤ p.blockSize) :
    p.look (m.write 0 bytes) = p.look m := by
  obtain ⟨hblock, hbytes, hfirst, hmain, hsecond⟩ := p.bounds
  simp (disch := omega) only [look, Medium.read_write_of_disjoint]

end Write

/-- A string with zeros after it, once it is written. -/
theorem read_write_padTo {start size : Nat} {bytes : List Byte} (h : bytes.length ≤ size) :
    (m.write start (padTo size bytes)).read start bytes.length = bytes := by
  have hall := Medium.read_write_self m start (padTo size bytes)
  rw [length_padTo h] at hall
  rw [← Medium.take_read _ h, hall, take_padTo le_rfl, List.take_length]

/-- The beginning of it. -/
theorem read_write_take_padTo (start size : Nat) {k : Nat} {bytes : List Byte}
    (h : k ≤ bytes.length) :
    (m.write start ((padTo size bytes).take k)).read start bytes.length =
      bytes.take k ++ (m.read start bytes.length).drop k := by
  rw [take_padTo h]
  exact Medium.read_write_take m rfl h

section Padded

variable {table : List Byte} (htable : table.length = p.bytes)

include htable in
theorem look_padTo_secondTable :
    p.look (m.write p.secondTable (padTo p.size table)) =
      { p.look m with secondTable := table } := by
  have hle : table.length ≤ p.size := htable ▸ p.bytes_le
  rw [look_write_secondTable p m (length_padTo hle).le, ← htable, read_write_padTo m hle]

include htable in
theorem look_padTo_mainTable :
    p.look (m.write p.mainTable (padTo p.size table)) = { p.look m with mainTable := table } := by
  have hle : table.length ≤ p.size := htable ▸ p.bytes_le
  rw [look_write_mainTable p m (length_padTo hle).le, ← htable, read_write_padTo m hle]

include htable in
/-- A main table that is written in part. -/
theorem look_take_mainTable {k : Nat} (hk : k ≤ table.length) :
    p.look (m.write p.mainTable ((padTo p.size table).take k)) =
      ⟨(p.look m).mainHeader, (p.look m).secondHeader,
        table.take k ++ (p.look m).mainTable.drop k, (p.look m).secondTable⟩ := by
  have hle : table.length ≤ p.size := htable ▸ p.bytes_le
  have hread := read_write_take_padTo m p.mainTable p.size hk
  have hlength := length_padTo hle
  rw [htable] at hread
  rw [look_write_mainTable p m (by rw [List.length_take]; omega), hread]
  rfl

variable {header : List Byte} (hheader : header.length = 512)

include hheader in
theorem look_padTo_secondHeader :
    p.look (m.write p.secondHeader (padTo p.blockSize header)) =
      { p.look m with secondHeader := header } := by
  have hle : header.length ≤ p.blockSize := hheader ▸ p.block_le
  rw [look_write_secondHeader p m, ← hheader, read_write_padTo m hle]

include hheader in
theorem look_padTo_mainHeader :
    p.look (m.write p.blockSize (padTo p.blockSize header)) =
      { p.look m with mainHeader := header } := by
  have hle : header.length ≤ p.blockSize := hheader ▸ p.block_le
  rw [look_write_mainHeader p m (length_padTo hle).le, ← hheader, read_write_padTo m hle]

include hheader in
theorem look_padTo_boot : p.look (m.write 0 (padTo p.blockSize header)) = p.look m := by
  have hle : header.length ≤ p.blockSize := hheader ▸ p.block_le
  exact look_write_boot p m (length_padTo hle).le

end Padded

/-- A whole series. -/
theorem look_writeAll {table second main boot : List Byte} (htable : table.length = p.bytes)
    (hsecond : second.length = 512) (hmain : main.length = 512) (hboot : boot.length = 512) :
    p.look (m.writeAll (p.series table second main boot)) = ⟨main, second, table, table⟩ := by
  simp only [series, Medium.writeAll_cons, Medium.writeAll_nil]
  rw [look_padTo_boot p _ hboot, look_padTo_mainHeader p _ hmain, look_padTo_mainTable p _ htable,
    look_padTo_secondHeader p _ hsecond, look_padTo_secondTable p _ htable]

/-- How many blocks of the main table a series that stops has come to. -/
def mainBlocks (count : Nat) : Nat := count - p.size / p.blockSize - 1

/-- **A series that stops** after any number of blocks: the main header is the old one until both
copies of the table are new, and the main table is the old one until the backup copy is complete. -/
theorem look_writeBlocks (count : Nat) {table second main boot : List Byte}
    (htable : table.length = p.bytes) (hsecond : second.length = 512) (hmain : main.length = 512)
    (hboot : boot.length = 512) :
    let m' := Medium.writeBlocks p.blockSize count (p.series table second main boot) m
    let k := p.mainBlocks count * p.blockSize
    (k = 0 ∧ ∃ table', p.look m' = { p.look m with secondTable := table' }) ∨
      p.look m' = ⟨(p.look m).mainHeader, second, table.take k ++ (p.look m).mainTable.drop k,
        table⟩ ∨
      (table.length ≤ k ∧ p.look m' = ⟨main, second, table, table⟩) := by
  obtain ⟨hblock, hbytes, hfirst, hmainle, hsecondle⟩ := p.bounds
  have hsize := p.size_lt
  have hpadTable : (padTo p.size table).length = p.size := length_padTo (by omega)
  have hpadSecond : (padTo p.blockSize second).length = p.blockSize := length_padTo (by omega)
  have hpadMain : (padTo p.blockSize main).length = p.blockSize := length_padTo (by omega)
  have hpadBoot : (padTo p.blockSize boot).length = p.blockSize := length_padTo (by omega)
  -- A string of one block is written as a whole or not at all.
  have hzero (c : Nat) (hc : c * p.blockSize < p.blockSize) : c = 0 := by
    by_contra hne
    exact Nat.not_lt.mpr (Nat.le_mul_of_pos_left _ (Nat.pos_of_ne_zero hne)) hc
  have hnone (c : Nat) (bytes : List Byte) (hc : c * p.blockSize < p.blockSize) :
      bytes.take (c * p.blockSize) = [] := by
    rw [hzero c hc, Nat.zero_mul, List.take_zero]
  -- At least one block is missing from a table that is written in part.
  have hpart (c : Nat) (hc : c * p.blockSize < p.size) :
      c * p.blockSize ≤ table.length ∧ c - p.size / p.blockSize = 0 := by
    obtain ⟨q, hq⟩ := p.dvd_size
    rw [hq, Nat.mul_comm p.blockSize] at hc
    have hlt := Nat.lt_of_mul_lt_mul_right hc
    have hle := Nat.mul_le_mul_right p.blockSize hlt
    rw [Nat.succ_mul, Nat.mul_comm q, ← hq] at hle
    rw [hq, Nat.mul_div_cancel_left q (by omega)]
    exact ⟨by omega, Nat.sub_eq_zero_of_le hlt.le⟩
  have hlength : (p.look m).mainTable.length = table.length := by
    rw [look, Medium.length_read, htable]
  have hone : p.blockSize / p.blockSize = 1 := Nat.div_self (by omega)
  simp only [series, Medium.writeBlocks, hpadTable, hpadSecond, hpadMain, hpadBoot, hone,
    mainBlocks]
  split_ifs with h₁ h₂ h₃ h₄ h₅
  · refine Or.inl ⟨?_, _, look_write_secondTable p m (by rw [List.length_take]; omega)⟩
    rw [(hpart _ h₁).2, Nat.zero_sub, Nat.zero_mul]
  · rw [hnone _ _ h₂, Medium.write_nil]
    refine Or.inl ⟨?_, _, look_padTo_secondTable p m htable⟩
    rw [hzero _ h₂, Nat.zero_sub, Nat.zero_mul]
  · rw [look_take_mainTable p _ htable (hpart _ h₃).1, look_padTo_secondHeader p _ hsecond,
      look_padTo_secondTable p _ htable]
    refine Or.inr (Or.inl ?_)
    dsimp only
  · have hall : table.length ≤ (count - p.size / p.blockSize - 1) * p.blockSize := by omega
    rw [hnone _ _ h₄, Medium.write_nil, look_padTo_mainTable p _ htable,
      look_padTo_secondHeader p _ hsecond, look_padTo_secondTable p _ htable]
    refine Or.inr (Or.inl ?_)
    rw [List.take_of_length_le hall, List.drop_of_length_le (by omega), List.append_nil]
  · have hall : table.length ≤ (count - p.size / p.blockSize - 1) * p.blockSize := by omega
    rw [hnone _ _ h₅, Medium.write_nil, look_padTo_mainHeader p _ hmain,
      look_padTo_mainTable p _ htable, look_padTo_secondHeader p _ hsecond,
      look_padTo_secondTable p _ htable]
    exact Or.inr (Or.inr ⟨hall, rfl⟩)
  · have hall : table.length ≤ (count - p.size / p.blockSize - 1) * p.blockSize := by omega
    exact Or.inr (Or.inr ⟨hall, look_writeAll p m htable hsecond hmain hboot⟩)

end Places

/-! ### The places of a table -/

theorem tableBlocks_lt {blockSize : Nat} (numParts : Nat) (h : 0 < blockSize) :
    tableBlocks blockSize numParts * blockSize < numParts * 128 + blockSize := by
  have hdiv := Nat.div_add_mod (numParts * 128) blockSize
  rw [tableBlocks, Nat.add_mul, Nat.mul_comm _ blockSize]
  split_ifs with hmod
  · omega
  · omega

/-- Where a table is saved. -/
def Sound.places {d : Data} (hsound : Sound d) : Places where
  blockSize := d.blockSize
  mainTable := d.mainHeader.partitionEntriesLBA.toNat * d.blockSize
  secondTable := d.secondHeader.partitionEntriesLBA.toNat * d.blockSize
  secondHeader := d.mainHeader.backupLBA.toNat * d.blockSize
  size := tableBlocks d.blockSize d.numParts.toNat * d.blockSize
  bytes := d.numParts.toNat * 128
  block_le := hsound.laid.block_le
  dvd_size := Nat.dvd_mul_left _ _
  bytes_le := le_tableBlocks _ (Nat.lt_of_lt_of_le (by decide) hsound.laid.block_le)
  size_lt := tableBlocks_lt _ (Nat.lt_of_lt_of_le (by decide) hsound.laid.block_le)
  first_le := by
    have hle := Nat.mul_le_mul_right d.blockSize hsound.laid.first_le
    omega
  main_le := by
    have hle := hsound.laid.main_le
    rw [hsound.ready.main_eq] at hle
    rw [← Nat.add_mul]
    exact Nat.mul_le_mul_right _ hle
  second_le := by
    have hle := hsound.laid.second_le
    rw [hsound.ready.main_eq] at hle
    rw [← Nat.add_mul]
    exact Nat.mul_le_mul_right _ hle

/-- What is in the places once the table is saved. -/
def savedLook (d : Data) : Look :=
  ⟨headerLayout.encode d.mainHeader, headerLayout.encode d.secondHeader, d.memory, d.memory⟩

section Saved

variable {d : Data} (hsound : Sound d) {m : Medium}

theorem writes_eq : writes d = hsound.places.series d.memory (headerLayout.encode d.secondHeader)
    (headerLayout.encode d.mainHeader) (bootBytes d) := by
  have hone : 1 * d.blockSize = d.blockSize := Nat.one_mul _
  rw [writes, hone]
  rfl

theorem look_writes (m : Medium) : hsound.places.look (m.writeAll (writes d)) = savedLook d := by
  rw [writes_eq hsound]
  exact Places.look_writeAll _ m (length_memory hsound.ready) (length_header _) (length_header _)
    (length_bootBytes d)

theorem look_eq_iff {hsound : Sound d} {main second table table' : List Byte} :
    hsound.places.look m = ⟨main, second, table, table'⟩ ↔
      m.read d.blockSize 512 = main ∧
        m.read (d.mainHeader.backupLBA.toNat * d.blockSize) 512 = second ∧
        m.read (d.mainHeader.partitionEntriesLBA.toNat * d.blockSize) (d.numParts.toNat * 128) =
          table ∧
        m.read (d.secondHeader.partitionEntriesLBA.toNat * d.blockSize) (d.numParts.toNat * 128) =
          table' := by
  rw [Places.look, Look.mk.injEq, Sound.places]

/-- The array of partitions is read back from its bytes. -/
theorem decodeAll_memory {d : Data} (hready : Ready d) :
    some (partLayout.decodeAll d.numParts.toNat d.memory) = d.partitions := by
  obtain ⟨all, hall, hlength⟩ := hready.length_eq
  have hdecode := partLayout.decodeAll_encodeAll all []
  rw [List.append_nil, hlength] at hdecode
  rw [Data.memory, hall, Option.getD_some, hdecode]

end Saved

/-! ### Loading -/

/-- Two tables in memory of the same disk. -/
structure SameDisk (d d' : Data) : Prop where
  blockSize_eq : d'.blockSize = d.blockSize
  diskSize_eq : d'.diskSize = d.diskSize

/-- Headers with the places of a table. -/
structure InPlaces (d : Data) (main second : Header) : Prop where
  main_entries : main.partitionEntriesLBA = d.mainHeader.partitionEntriesLBA
  second_entries : second.partitionEntriesLBA = d.secondHeader.partitionEntriesLBA
  backup_eq : main.backupLBA = d.mainHeader.backupLBA
  main_num : main.numParts = d.numParts
  second_num : second.numParts = d.numParts
  main_size : main.sizeOfPartitionEntries = 128
  second_size : second.sizeOfPartitionEntries = 128

section Load

variable {d blank : Data} (hsound : Sound d) (hblank : Blank blank) (hdisk : SameDisk d blank)
  {main second : Header} {m : Medium} (position : Nat)

include hsound hdisk in
theorem laid_of_inPlaces (hplaces : InPlaces d main second) : Laid blank main second := by
  obtain ⟨hblock, hsize⟩ := hdisk
  obtain ⟨hready, hlaid, -, -, -, -⟩ := hsound
  have hnum := hplaces.main_num.trans hready.main_eq.symm
  refine ⟨?_, ?_, hplaces.second_num.trans hplaces.main_num.symm, ?_, ?_, hplaces.main_size,
    hplaces.second_size, ?_, ?_, ?_, ?_⟩
  · rw [hblock]
    exact hlaid.block_le
  · rw [hblock, hsize]
    exact hlaid.fits
  · rw [hnum]
    exact hlaid.numParts_pos
  · rw [hnum]
    exact hlaid.numParts_lt
  · rw [hplaces.main_entries]
    exact hlaid.first_le
  · rw [hblock, hnum, hplaces.main_entries, hplaces.second_entries]
    exact hlaid.main_le
  · rw [hblock, hnum, hplaces.second_entries, hplaces.backup_eq]
    exact hlaid.second_le
  · rw [hplaces.backup_eq, hsize]
    exact hlaid.backup_lt

include hsound in
theorem inPlaces_self : InPlaces d d.mainHeader d.secondHeader :=
  ⟨rfl, rfl, rfl, hsound.ready.main_eq, hsound.ready.second_eq, hsound.laid.main_entry,
    hsound.laid.second_entry⟩

include hblank hdisk in
/-- **What is loaded** from two valid headers and two copies of a table. -/
theorem forceLoadGPTData_look (hplaces : InPlaces d main second)
    (hvalid : headerValid d.blockSize main = true)
    (hvalid' : headerValid d.blockSize second = true) {table table' : List Byte}
    (hlook : hsound.places.look m =
      ⟨headerLayout.encode main, headerLayout.encode second, table, table'⟩) :
    ∃ d' position', forceLoadGPTData ⟨blank, diskOf blank m position⟩ =
        some (true, ⟨d', diskOf blank m position'⟩) ∧ d'.numParts = d.numParts ∧
      d'.mainHeader = main ∧ d'.secondHeader = second ∧
      d'.partitions = some (partLayout.decodeAll d.numParts.toNat
        (if (chksumCrc32 table' = second.partitionEntriesCRC ∧
            chksumCrc32 table' = main.partitionEntriesCRC) ∧
              chksumCrc32 table ≠ main.partitionEntriesCRC then table' else table)) ∧
      d'.state = if chksumCrc32 table = main.partitionEntriesCRC ∧
          chksumCrc32 table' = second.partitionEntriesCRC ∧
            chksumCrc32 table' = main.partitionEntriesCRC then .valid else .corrupt := by
  have hlaid := laid_of_inPlaces hsound hdisk hplaces
  have hblock := hdisk.blockSize_eq
  obtain ⟨hread, hread', htables, htables'⟩ := look_eq_iff.mp hlook
  have hmainRead : m.read (1 * blank.blockSize) 512 = headerLayout.encode main := by
    rw [hblock, Nat.one_mul, hread]
  have hsecondRead : m.read (main.backupLBA.toNat * blank.blockSize) 512 =
      headerLayout.encode second := by
    rw [hblock, hplaces.backup_eq, hread']
  have htable : tableAt blank.blockSize m main = table := by
    rw [tableAt, hblock, hplaces.main_entries, hplaces.main_num, htables]
  have htable' : tableAt blank.blockSize m second = table' := by
    rw [tableAt, hblock, hplaces.second_entries, hplaces.second_num, htables']
  obtain ⟨d', position', hload, hsized, hmain, hsecond, hpartitions, hstate⟩ :=
    forceLoadGPTData_valid m position hblank hlaid hmainRead hsecondRead (hblock.symm ▸ hvalid)
      (hblock.symm ▸ hvalid')
  have hok : tableOk blank.blockSize m main = true ↔
      chksumCrc32 table = main.partitionEntriesCRC := by
    rw [tableOk, htable, decide_eq_true_iff]
  have hboth : bothOk blank.blockSize m second main = true ↔
      chksumCrc32 table' = second.partitionEntriesCRC ∧
        chksumCrc32 table' = main.partitionEntriesCRC := by
    rw [bothOk, tableOk, htable', Bool.and_eq_true, decide_eq_true_iff, decide_eq_true_iff]
  refine ⟨d', position', hload, hsized.numParts_eq.trans hplaces.main_num, hmain, hsecond, ?_, ?_⟩
  · rw [hpartitions, htable, htable', hplaces.main_num]
    rw [if_congr (and_congr hboth ((Bool.not_eq_true _).symm.to_iff.trans hok.not)) rfl rfl]
  · rw [hstate]
    exact if_congr (and_congr hok hboth) rfl rfl

end Load

/-! ### Checksums -/

section Checksums

variable {d : Data}

/-- The size of a header that `RecomputeCRCs` sets. -/
def savedSize (d : Data) : BitVec 32 :=
  if 512 < d.mainHeader.headerSize.toNat then 92 else d.mainHeader.headerSize

theorem savedSize_bounds (h : 92 ≤ d.mainHeader.headerSize.toNat) :
    headerSize ≤ (savedSize d).toNat ∧ (savedSize d).toNat ≤ 512 := by
  rw [savedSize, headerSize]
  split_ifs with hlarge
  · decide
  · exact ⟨h, Nat.not_lt.mp hlarge⟩

/-- A header with new checksums is valid. -/
theorem headerValid_withCrc {blockSize : Nat} (hblock : 512 ≤ blockSize)
    (hsize : 92 ≤ d.mainHeader.headerSize.toNat) (crc : BitVec 32) {h : Header}
    (hsignature : h.signature = gptSignature) (hrevision : h.revision = gptRevision) :
    headerValid blockSize (withCrc (savedSize d).toNat
      { h with headerSize := savedSize d, partitionEntriesCRC := crc }) = true := by
  obtain ⟨hlow, hhigh⟩ := savedSize_bounds hsize
  have hcrc := checkHeaderCRC_withCrc blockSize
    { h with headerSize := savedSize d, partitionEntriesCRC := crc } hlow (hhigh.trans hblock)
  have hgood : ¬ (h.signature ≠ gptSignature ∨ checkHeaderCRC blockSize
      (withCrc (savedSize d).toNat
        { h with headerSize := savedSize d, partitionEntriesCRC := crc }) = false) := by
    rintro (hne | hfalse)
    · exact hne hsignature
    · exact Bool.false_ne_true (hfalse.symm.trans hcrc)
  rw [headerValid]
  exact (if_neg hgood).trans (decide_eq_true hrevision)

/-- Headers that are signed. -/
structure Signed (d : Data) : Prop where
  main_signature : d.mainHeader.signature = gptSignature
  second_signature : d.secondHeader.signature = gptSignature
  main_revision : d.mainHeader.revision = gptRevision
  second_revision : d.secondHeader.revision = gptRevision
  headerSize_le : 92 ≤ d.mainHeader.headerSize.toNat

/-- **`RecomputeCRCs`** makes a table sound. -/
theorem sound_recomputeCRCs (hready : Ready d) (hlaid : Laid d d.mainHeader d.secondHeader)
    (hsigned : Signed d) : Sound (recomputeCRCs d) := by
  have hlt := hlaid.numParts_lt
  rw [hready.main_eq] at hlt
  have hsmall : d.numParts.toNat * 128 % 2 ^ 32 = d.numParts.toNat * 128 :=
    Nat.mod_eq_of_lt (by omega)
  have hbytes : tableBytes d = d.memory := by
    rw [tableBytes, hsmall, ← Data.memory]
    exact List.take_of_length_le (length_memory hready).le
  have hcrc : chksumCrc32 (tableBytes d) = chksumCrc32 (recomputeCRCs d).memory := by
    rw [hbytes]
    rfl
  exact ⟨⟨hready.main_eq, hready.second_eq, hready.length_eq⟩,
    ⟨hlaid.block_le, hlaid.fits, hlaid.numParts_eq, hlaid.numParts_pos, hlaid.numParts_lt,
      hlaid.main_entry, hlaid.second_entry, hlaid.first_le, hlaid.main_le, hlaid.second_le,
      hlaid.backup_lt⟩,
    headerValid_withCrc hlaid.block_le hsigned.headerSize_le _ hsigned.main_signature
      hsigned.main_revision,
    headerValid_withCrc hlaid.block_le hsigned.headerSize_le _ hsigned.second_signature
      hsigned.second_revision, hcrc, hcrc⟩

end Checksums

end UsbMaker.GptDisk
