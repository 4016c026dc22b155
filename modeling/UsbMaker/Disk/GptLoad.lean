import UsbMaker.Disk.GptDevice

/-!
# Loading a partition table

`ForceLoadGPTData` reads the two headers and the two copies of the table, which have places on the
disk that do not meet (`GptDisk.Laid`). What it loads is determined by what is in these places, and
by which of the headers are right. A header that is wrong is made from the other one, and the copy
of the table that the good header points to is loaded.

A table in memory without partitions is not changed by the header of a table of the same size. The
loaded number of partitions must fit in 31 bits with their sizes, as `Read` takes a signed number.

## Main definitions

* `GptDisk.Laid`: headers whose places do not meet.
* `GptDisk.Blank`: a table in memory without partitions.
* `GptDisk.tableAt`, `GptDisk.tableOk`, `GptDisk.bothOk`: a copy of the table, and its checksum.

## Main results

* `GptDisk.forceLoadGPTData_valid`: both headers are right.
* `GptDisk.forceLoadGPTData_main`: only the main header is right.
* `GptDisk.forceLoadGPTData_second`: only the second header is right.
-/

namespace UsbMaker.GptDisk

/-! ### Blocks -/

/-- The number of blocks of a table of `numParts` entries. -/
def tableBlocks (blockSize numParts : Nat) : Nat :=
  numParts * 128 / blockSize + if numParts * 128 % blockSize ≠ 0 then 1 else 0

section Device

variable {blockSize blocks : Nat} {m : Medium} {position : Nat}

theorem le_tableBlocks (numParts : Nat) (h : 0 < blockSize) :
    numParts * 128 ≤ tableBlocks blockSize numParts * blockSize := by
  have hdiv := Nat.div_add_mod (numParts * 128) blockSize
  have hlt := Nat.mod_lt (numParts * 128) h
  rw [tableBlocks, Nat.add_mul, Nat.mul_comm _ blockSize]
  split_ifs with hmod
  · omega
  · omega

theorem blockBytes_table {numParts : Nat} (hblock : 0 < blockSize) (hpos : 0 < numParts) :
    (Device.mk blockSize blocks m position).blockBytes (numParts * 128 : Nat) =
      tableBlocks blockSize numParts * blockSize := by
  rw [Device.blockBytes, tableBlocks, Int.toNat_natCast]
  dsimp only
  by_cases hle : ((numParts * 128 : Nat) : Int) ≤ blockSize
  · rw [if_pos hle]
    rcases lt_or_eq_of_le (Int.ofNat_le.mp hle) with hlt | heq
    · rw [Nat.div_eq_of_lt hlt, Nat.mod_eq_of_lt hlt, if_pos (by omega), Nat.zero_add, Nat.one_mul]
    · rw [heq, Nat.div_self hblock, Nat.mod_self, if_neg (not_not.mpr rfl), Nat.add_zero,
        Nat.one_mul]
  · rw [if_neg hle]

theorem blockBytes_header (hblock : 512 ≤ blockSize) :
    (Device.mk blockSize blocks m position).blockBytes 512 = blockSize :=
  if_pos (by exact_mod_cast hblock)

theorem seek_eq {sector : BitVec 64} (h : sector.toNat * blockSize < 2 ^ 63) :
    (Device.mk blockSize blocks m position).seek sector =
      (true, ⟨blockSize, blocks, m, sector.toNat * blockSize⟩) := by
  have hmod : sector.toNat * blockSize % 2 ^ 64 = sector.toNat * blockSize :=
    Nat.mod_eq_of_lt (by omega)
  rw [Device.seek]
  dsimp only
  rw [hmod, if_pos h]

/-- A transfer within the disk. -/
theorem retval_eq {n size : Nat}
    (hsize : (Device.mk blockSize blocks m position).blockBytes n = size)
    (hpos : 0 < size) (h : position + size ≤ blocks * blockSize) :
    (Device.mk blockSize blocks m position).retval n = n ∧
      (Device.mk blockSize blocks m position).advance n =
        ⟨blockSize, blocks, m, position + size⟩ := by
  have hall : (Device.mk blockSize blocks m position).transferred n = size := by
    rw [Device.transferred, hsize]
    exact Nat.min_eq_left (by dsimp only; omega)
  rw [Device.retval, Device.advance, hall, hsize]
  refine ⟨?_, rfl⟩
  by_cases heq : (size : Int) ≠ n
  · exact if_pos ⟨heq, hpos⟩
  · rw [if_neg fun hboth => heq hboth.1]
    exact not_not.mp heq

end Device

/-- The disk that a table in memory belongs to. -/
def diskOf (d : Data) (m : Medium) (position : Nat) : Device :=
  ⟨d.blockSize, d.diskSize.toNat, m, position⟩

/-! ### A new size -/

/-- A table in memory without partitions. -/
def Blank (d : Data) : Prop := d.partitions = some (List.replicate d.numParts.toNat {})

/-- What loading changes neither the disk of nor the number of entries of. -/
structure Sized (n : BitVec 32) (d d' : Data) : Prop where
  numParts_eq : d'.numParts = n
  blockSize_eq : d'.blockSize = d.blockSize
  diskSize_eq : d'.diskSize = d.diskSize

theorem diskOf_eq {n : BitVec 32} {d d' : Data} (h : Sized n d d') (m : Medium) (position : Nat) :
    diskOf d' m position = diskOf d m position := by
  rw [diskOf, diskOf, h.blockSize_eq, h.diskSize_eq]

theorem parts_blank {d : Data} (h : Blank d) :
    Gpt.parts d.toData = List.replicate d.numParts.toNat {} := by
  rw [Gpt.parts, Data.toData, h]
  dsimp only
  rw [Option.map_some, Option.getD_some, List.map_replicate, List.take_replicate, Nat.min_self]
  rfl

theorem highPart_blank {d : Data} (h : Blank d) : Gpt.highPart d.toData = 0 := by
  refine (List.foldl_ext _ (fun high _ => high) _ fun high entry hentry => ?_).trans
    (List.foldl_fixed _)
  have hmem := List.fst_mem_of_mem_zipIdx hentry
  rw [parts_blank h] at hmem
  rw [List.eq_of_mem_replicate hmem]
  rfl

theorem setGPTSize_blank {d : Data} (h : Blank d) {n : BitVec 32} (hpos : 0 < n.toNat) :
    (setGPTSize d n false).1 = true ∧ Blank (setGPTSize d n false).2 ∧
      Sized n d (setGPTSize d n false).2 := by
  have hsome : d.partitions ≠ none := by rw [h]; exact Option.some_ne_none _
  by_cases hsame : n = d.numParts
  · have hkeep : ¬ ((n ≠ d.numParts ∨ d.partitions = none) ∧ 0 < n.toNat) :=
      fun hchange => hchange.1.elim (fun hne => hne hsame) hsome
    rw [setGPTSize, if_neg Bool.false_ne_true]
    dsimp only
    rw [if_neg hkeep]
    exact ⟨rfl, h, hsame.symm, rfl, rfl⟩
  · have hhigh : ¬ n.toNat < Gpt.highPart d.toData + 1 := by
      rw [highPart_blank h]
      omega
    have hcopied :
        (List.replicate d.numParts.toNat ({} : Part)).take (min n.toNat d.numParts.toNat) =
        List.replicate (min n.toNat d.numParts.toNat) {} := by
      rw [List.take_replicate, Nat.min_eq_left (Nat.min_le_right _ _)]
    have hall : List.replicate (min n.toNat d.numParts.toNat) ({} : Part) ++
        List.replicate (n.toNat - min n.toNat d.numParts.toNat) ({} : Part) =
          List.replicate n.toNat ({} : Part) := by
      rw [List.replicate_append_replicate, Nat.add_sub_cancel' (Nat.min_le_left _ _)]
    have hresize : (resize d n).1 = true ∧ (resize d n).2.partitions =
        some (List.replicate n.toNat {}) ∧ Sized n d (resize d n).2 := by
      rw [resize, h]
      dsimp only
      rw [if_neg hhigh, hcopied, List.length_replicate, hall]
      exact ⟨rfl, rfl, rfl, rfl, rfl⟩
    obtain ⟨hok, hpartitions, hnum, hblock, hdisk⟩ := hresize
    rw [setGPTSize, if_neg Bool.false_ne_true]
    dsimp only
    rw [if_pos ⟨Or.inl hsame, hpos⟩]
    exact ⟨hok, hnum ▸ hpartitions, hnum, hblock, hdisk⟩

/-- The headers and the array have the number of entries. -/
structure Ready (d : Data) : Prop where
  main_eq : d.mainHeader.numParts = d.numParts
  second_eq : d.secondHeader.numParts = d.numParts
  length_eq : ∃ all, d.partitions = some all ∧ all.length = d.numParts.toNat

theorem setGPTSize_same {d : Data} (h : Ready d) : setGPTSize d d.numParts false = (true, d) := by
  obtain ⟨hmain, hsecond, all, hsome, -⟩ := h
  have hkeep : ¬ ((d.numParts ≠ d.numParts ∨ d.partitions = none) ∧ 0 < d.numParts.toNat) :=
    fun hchange => hchange.1.elim (fun hne => hne rfl)
      fun hnone => Option.some_ne_none all (hsome.symm.trans hnone)
  rw [setGPTSize, if_neg Bool.false_ne_true]
  dsimp only
  rw [if_neg hkeep]
  obtain ⟨main, second, _, n, _, _, _, _, _, _, _, _, _, _⟩ := d
  dsimp only at hmain hsecond ⊢
  subst hmain
  cases second
  dsimp only at hsecond
  subst hsecond
  rfl

theorem length_memory {d : Data} (h : Ready d) : d.memory.length = d.numParts.toNat * 128 := by
  obtain ⟨all, hall, hlength⟩ := h.length_eq
  rw [Data.memory, hall, Option.getD_some, Layout.length_encodeAll, size_partLayout, hlength]

/-! ### Reading one header -/

section Load

variable (m : Medium) (position : Nat) {d : Data}

/-- A header that is on the disk. -/
structure HeaderOn (d : Data) (m : Medium) (sector : BitVec 64) (h : Header) : Prop where
  block_le : 512 ≤ d.blockSize
  fits : d.diskSize.toNat * d.blockSize < 2 ^ 63
  sector_lt : sector.toNat < d.diskSize.toNat
  read_eq : m.read (sector.toNat * d.blockSize) 512 = headerLayout.encode h

theorem loadHeader_eq {sector : BitVec 64} {h : Header} (hon : HeaderOn d m sector h) :
    loadHeader sector ⟨d, diskOf d m position⟩ =
      let sized := if d.numParts ≠ h.numParts ∧ checkHeaderCRC d.blockSize h then
        setGPTSize d h.numParts false else (true, d)
      ⟨sized.1, h, checkHeaderCRC d.blockSize h,
        ⟨sized.2, diskOf d m (sector.toNat * d.blockSize + d.blockSize)⟩⟩ := by
  have hle := Nat.mul_le_mul_right d.blockSize hon.sector_lt
  rw [Nat.succ_mul] at hle
  have hblock := hon.block_le
  have hfits := hon.fits
  have hseek : (diskOf d m position).seek sector =
      (true, diskOf d m (sector.toNat * d.blockSize)) := seek_eq (by omega)
  obtain ⟨hretval, hadvance⟩ : (diskOf d m (sector.toNat * d.blockSize)).retval 512 = 512 ∧
      (diskOf d m (sector.toNat * d.blockSize)).advance 512 =
        diskOf d m (sector.toNat * d.blockSize + d.blockSize) :=
    retval_eq (n := 512) (blockBytes_header hblock) (by omega) hle
  have hread : (diskOf d m (sector.toNat * d.blockSize)).read 512 = headerLayout.encode h :=
    hon.read_eq
  rw [loadHeader, hseek]
  dsimp only
  rw [hread, hretval, hadvance, headerLayout.decode_encode, decide_eq_true rfl]
  simp only [true_and]

/-- A copy of the table that is on the disk. -/
structure TableOn (d : Data) (h : Header) : Prop where
  block_pos : 0 < d.blockSize
  fits : d.diskSize.toNat * d.blockSize < 2 ^ 63
  numParts_eq : h.numParts = d.numParts
  entry_eq : h.sizeOfPartitionEntries = 128
  numParts_pos : 0 < d.numParts.toNat
  numParts_lt : d.numParts.toNat * 128 < 2 ^ 31
  table_le : h.partitionEntriesLBA.toNat + tableBlocks d.blockSize d.numParts.toNat ≤
    d.diskSize.toNat

/-- The bytes of the copy of the table that a header points to. -/
def tableAt (blockSize : Nat) (m : Medium) (h : Header) : List Byte :=
  m.read (h.partitionEntriesLBA.toNat * blockSize) (h.numParts.toNat * 128)

/-- The partitions of a copy of the table, and what is said of the checksums of the two copies. -/
def setTable (d : Data) (m : Medium) (h : Header) (mainOk secondOk : Bool) : Data :=
  { d with
    partitions := some (partLayout.decodeAll d.numParts.toNat (tableAt d.blockSize m h))
    mainPartsCrcOk := mainOk
    secondPartsCrcOk := secondOk }

/-- Whether a copy of the table has the checksum of its header. -/
def tableOk (blockSize : Nat) (m : Medium) (h : Header) : Bool :=
  chksumCrc32 (tableAt blockSize m h) = h.partitionEntriesCRC

/-- The transfer of a copy of the table. -/
theorem transfer_table {h : Header} (hon : TableOn d h) :
    let dev := diskOf d m (h.partitionEntriesLBA.toNat * d.blockSize)
    let sizeOfParts := h.numParts * h.sizeOfPartitionEntries
    (diskOf d m position).seek h.partitionEntriesLBA = (true, dev) ∧
      sizeOfParts.toNat = d.numParts.toNat * 128 ∧
      dev.read sizeOfParts.toInt = tableAt d.blockSize m h ∧
      dev.retval sizeOfParts.toInt = sizeOfParts.toInt ∧
      ∃ position', dev.advance sizeOfParts.toInt = diskOf d m position' := by
  have hlt := hon.numParts_lt
  have hpos := hon.numParts_pos
  have hblock := hon.block_pos
  have hfits := hon.fits
  have hle := Nat.mul_le_mul_right d.blockSize hon.table_le
  rw [Nat.add_mul] at hle
  have hsize : (h.numParts * h.sizeOfPartitionEntries).toNat = d.numParts.toNat * 128 := by
    have hsmall : d.numParts.toNat * 128 < 2 ^ 32 := by omega
    rw [BitVec.toNat_mul, hon.numParts_eq, hon.entry_eq]
    exact Nat.mod_eq_of_lt hsmall
  have hint : (h.numParts * h.sizeOfPartitionEntries).toInt = (d.numParts.toNat * 128 : Nat) := by
    rw [BitVec.toInt_eq_toNat_of_lt (by omega), hsize]
  have hbytes := le_tableBlocks d.numParts.toNat hblock
  obtain ⟨hretval, hadvance⟩ :
      (diskOf d m (h.partitionEntriesLBA.toNat * d.blockSize)).retval
        (d.numParts.toNat * 128 : Nat) =
          (d.numParts.toNat * 128 : Nat) ∧
        (diskOf d m (h.partitionEntriesLBA.toNat * d.blockSize)).advance
          (d.numParts.toNat * 128 : Nat) = diskOf d m _ :=
    retval_eq (blockBytes_table hblock hpos) (by omega) hle
  have hread : tableAt d.blockSize m h = m.read (h.partitionEntriesLBA.toNat * d.blockSize)
      (d.numParts.toNat * 128) := by rw [tableAt, hon.numParts_eq]
  dsimp only
  rw [hint, hread]
  exact ⟨seek_eq (by omega), hsize, rfl, hretval, _, hadvance⟩

theorem loadPartitionTable_eq (header : Data → Header) (hready : Ready d)
    (hon : TableOn d (header d)) :
    ∃ position', loadPartitionTable header ⟨d, diskOf d m position⟩ =
      some (true, ⟨setTable d m (header d) (tableOk d.blockSize m (header d))
        (tableOk d.blockSize m (header d)), diskOf d m position'⟩) := by
  obtain ⟨hseek, hsize, hread, hretval, position', hadvance⟩ := transfer_table m position hon
  obtain ⟨all, hall, hlength⟩ := hready.length_eq
  have hmemory := length_memory hready
  have htable : (tableAt d.blockSize m (header d)).length = d.numParts.toNat * 128 := by
    rw [tableAt, Medium.length_read, hon.numParts_eq]
  have hoverlay : overlay d.memory (tableAt d.blockSize m (header d)) =
      tableAt d.blockSize m (header d) := by
    rw [overlay, List.drop_of_length_le (by rw [hmemory, htable]), List.append_nil]
  have hset : setMemory d (tableAt d.blockSize m (header d)) = { d with
      partitions := some
        (partLayout.decodeAll d.numParts.toNat (tableAt d.blockSize m (header d))) } := by
    rw [setMemory, hall, Option.map_some, hlength]
  refine ⟨position', ?_⟩
  have hsized : setGPTSize d (header d).numParts false = (true, d) := by
    rw [hon.numParts_eq, setGPTSize_same hready]
  have htake : (tableAt d.blockSize m (header d)).take (d.numParts.toNat * 128) =
      tableAt d.blockSize m (header d) :=
    List.take_of_length_le htable.le
  rw [loadPartitionTable, hseek]
  dsimp only
  rw [if_pos rfl, hsized]
  dsimp only
  rw [if_pos rfl, hmemory, hsize, if_neg (Nat.lt_irrefl _), hread, hoverlay, htake, hset, hretval,
    hadvance, decide_eq_true rfl]
  rfl

theorem checkTable_eq {header : Header} (otherHeader : Header) (hon : TableOn d header) :
    ∃ position', checkTable header otherHeader (diskOf d m position) =
      some (tableOk d.blockSize m header &&
          decide (chksumCrc32 (tableAt d.blockSize m header) = otherHeader.partitionEntriesCRC),
        diskOf d m position') := by
  obtain ⟨hseek, hsize, hread, hretval, position', hadvance⟩ := transfer_table m position hon
  have hmemory : (partLayout.encodeAll (List.replicate header.numParts.toNat {})).length =
      d.numParts.toNat * 128 := by
    rw [Layout.length_encodeAll, size_partLayout, List.length_replicate, hon.numParts_eq]
  have htable : (tableAt d.blockSize m header).length = d.numParts.toNat * 128 := by
    rw [tableAt, Medium.length_read, hon.numParts_eq]
  have hoverlay : overlay (partLayout.encodeAll (List.replicate header.numParts.toNat {}))
      (tableAt d.blockSize m header) = tableAt d.blockSize m header := by
    rw [overlay, List.drop_of_length_le (by rw [hmemory, htable]), List.append_nil]
  have htake : (tableAt d.blockSize m header).take (d.numParts.toNat * 128) =
      tableAt d.blockSize m header :=
    List.take_of_length_le htable.le
  refine ⟨position', ?_⟩
  rw [checkTable, hseek]
  dsimp only
  rw [if_pos rfl, hmemory, hsize, if_neg (Nat.lt_irrefl _), hread, hoverlay, htake, hretval,
    hadvance]
  simp only [true_and, Bool.decide_and]
  rfl

end Load

/-! ### Reading both headers -/

section Headers

variable (m : Medium) (position : Nat) {d : Data}

theorem loadHeader_blank (hblank : Blank d) {sector : BitVec 64} {h : Header}
    (hon : HeaderOn d m sector h)
    (hpos : checkHeaderCRC d.blockSize h = true → 0 < h.numParts.toNat) :
    ∃ d' position', loadHeader sector ⟨d, diskOf d m position⟩ =
        ⟨true, h, checkHeaderCRC d.blockSize h, ⟨d', diskOf d m position'⟩⟩ ∧
      Blank d' ∧ (checkHeaderCRC d.blockSize h = true → Sized h.numParts d d') ∧
        ((d.numParts ≠ h.numParts → checkHeaderCRC d.blockSize h = false) → d' = d) := by
  rw [loadHeader_eq m position hon]
  dsimp only
  by_cases hnew : d.numParts ≠ h.numParts ∧ checkHeaderCRC d.blockSize h = true
  · obtain ⟨hsized, hblank', hsame⟩ := setGPTSize_blank hblank (hpos hnew.2)
    rw [if_pos hnew, hsized]
    refine ⟨_, _, rfl, hblank', fun _ => hsame, fun hold => ?_⟩
    exact absurd hnew.2 (by rw [hold hnew.1]; exact Bool.false_ne_true)
  · rw [if_neg hnew]
    refine ⟨d, _, rfl, hblank, fun hcrc => ⟨?_, rfl, rfl⟩, fun _ => rfl⟩
    by_contra hne
    exact hnew ⟨hne, hcrc⟩

end Headers

/-! ### Reading the tables -/

section Tables

variable (m : Medium) (position : Nat) {d : Data}

/-- Whether a copy of the table has the checksums of both headers. -/
def bothOk (blockSize : Nat) (m : Medium) (header otherHeader : Header) : Bool :=
  tableOk blockSize m header &&
    decide (chksumCrc32 (tableAt blockSize m header) = otherHeader.partitionEntriesCRC)

theorem ready_setTable (hready : Ready d) (h : Header) (mainOk secondOk : Bool) :
    Ready (setTable d m h mainOk secondOk) :=
  ⟨hready.main_eq, hready.second_eq, _, rfl, Layout.length_decodeAll ..⟩

theorem ready_state (hready : Ready d) (state : Validity) : Ready (d.withState state) :=
  ⟨hready.main_eq, hready.second_eq, hready.length_eq⟩

theorem tableOn_setTable {h : Header} (hon : TableOn d h) (h' : Header) (mainOk secondOk : Bool) :
    TableOn (setTable d m h' mainOk secondOk) h :=
  ⟨hon.block_pos, hon.fits, hon.numParts_eq, hon.entry_eq, hon.numParts_pos, hon.numParts_lt,
    hon.table_le⟩

theorem tableOn_state {h : Header} (hon : TableOn d h) (state : Validity) :
    TableOn (d.withState state) h :=
  ⟨hon.block_pos, hon.fits, hon.numParts_eq, hon.entry_eq, hon.numParts_pos, hon.numParts_lt,
    hon.table_le⟩

theorem chooseTable_main (hready : Ready d) (hmain : TableOn d d.mainHeader) (validHeaders : Nat)
    (hvalid : validHeaders ≠ 2) :
    ∃ position', chooseTable validHeaders true ⟨d, diskOf d m position⟩ =
      some ((true, 1), ⟨setTable d m d.mainHeader (tableOk d.blockSize m d.mainHeader)
        (tableOk d.blockSize m d.mainHeader), diskOf d m position'⟩) := by
  obtain ⟨position', hload⟩ := loadPartitionTable_eq m position Data.mainHeader hready hmain
  refine ⟨position', ?_⟩
  rw [chooseTable, if_pos hvalid, hload]
  rfl

theorem chooseTable_second (hready : Ready d) (hsecond : TableOn d d.secondHeader) :
    ∃ position', chooseTable 2 true ⟨d, diskOf d m position⟩ =
      some ((true, 2), ⟨setTable (d.withState .corrupt) m d.secondHeader
        (tableOk d.blockSize m d.secondHeader) (tableOk d.blockSize m d.secondHeader),
        diskOf d m position'⟩) := by
  obtain ⟨position', hload⟩ := loadPartitionTable_eq m position Data.secondHeader
    (ready_state hready .corrupt) (tableOn_state hsecond .corrupt)
  refine ⟨position', ?_⟩
  have hload' : loadPartitionTable Data.secondHeader
    ⟨d.withState .corrupt, diskOf d m position⟩ = _ := hload
  rw [chooseTable, if_neg (not_not.mpr rfl)]
  dsimp only
  rw [hload']
  rfl

theorem checkOther_main (hsecond : TableOn d d.secondHeader) :
    ∃ position', checkOther 1 ⟨d, diskOf d m position⟩ =
      some ⟨{ d with secondPartsCrcOk := bothOk d.blockSize m d.secondHeader d.mainHeader },
        diskOf d m position'⟩ := by
  obtain ⟨position', hcheck⟩ := checkTable_eq m position d.mainHeader hsecond
  refine ⟨position', ?_⟩
  rw [checkOther, if_pos rfl]
  dsimp only
  rw [hcheck]
  rfl

theorem checkOther_second (hmain : TableOn d d.mainHeader) :
    ∃ position', checkOther 2 ⟨d, diskOf d m position⟩ =
      some ⟨{ d with mainPartsCrcOk := bothOk d.blockSize m d.mainHeader d.secondHeader },
        diskOf d m position'⟩ := by
  obtain ⟨position', hcheck⟩ := checkTable_eq m position d.secondHeader hmain
  refine ⟨position', ?_⟩
  rw [checkOther, if_neg (by decide), if_pos rfl]
  dsimp only
  rw [hcheck]
  rfl

theorem loadBackup_of_backup (hready : Ready d) (hsecond : TableOn d d.secondHeader)
    (hbackup : d.secondPartsCrcOk = true ∧ d.secondCrcOk = true ∧ d.mainPartsCrcOk = false) :
    ∃ position', loadBackup true ⟨d, diskOf d m position⟩ =
      some (true, ⟨setTable (d.withState .corrupt) m d.secondHeader false
        (tableOk d.blockSize m d.secondHeader), diskOf d m position'⟩) := by
  obtain ⟨position', hload⟩ := loadPartitionTable_eq m position Data.secondHeader
    (ready_state hready .corrupt) (tableOn_state hsecond .corrupt)
  refine ⟨position', ?_⟩
  have hload' : loadPartitionTable Data.secondHeader
    ⟨d.withState .corrupt, diskOf d m position⟩ = _ := hload
  rw [loadBackup]
  dsimp only
  rw [if_pos hbackup, if_pos rfl, hload']
  rfl

theorem loadBackup_of_not {s : Loading} (allOK : Bool)
    (hbackup : ¬ (s.data.secondPartsCrcOk = true ∧ s.data.secondCrcOk = true ∧
      s.data.mainPartsCrcOk = false)) :
    loadBackup allOK s = some (allOK, s) := if_neg hbackup

/-- What reading the tables does not change. -/
structure Kept (d d' : Data) : Prop where
  main_eq : d'.mainHeader = d.mainHeader
  second_eq : d'.secondHeader = d.secondHeader
  sized : Sized d.numParts d d'

/-- The backup table is loaded in place of the main one. -/
def MainBad (d : Data) (m : Medium) : Prop :=
  bothOk d.blockSize m d.secondHeader d.mainHeader = true ∧ d.secondCrcOk = true ∧
    tableOk d.blockSize m d.mainHeader = false

instance (m : Medium) : Decidable (MainBad d m) := inferInstanceAs (Decidable (_ ∧ _))

theorem loadTables_main (hready : Ready d) (hmain : TableOn d d.mainHeader)
    (hsecond : TableOn d d.secondHeader) (validHeaders : Nat) (hvalid : validHeaders ≠ 2) :
    ∃ d' position', loadTables validHeaders true ⟨d, diskOf d m position⟩ =
        some (true, ⟨d', diskOf d m position'⟩) ∧ Kept d d' ∧
      d'.partitions = some (partLayout.decodeAll d.numParts.toNat
        (if MainBad d m then tableAt d.blockSize m d.secondHeader
          else tableAt d.blockSize m d.mainHeader)) ∧
      d'.state = if validHeaders = 3 ∧ tableOk d.blockSize m d.mainHeader = true ∧
          bothOk d.blockSize m d.secondHeader d.mainHeader = true then d.state else .corrupt := by
  obtain ⟨position₁, hchoose⟩ := chooseTable_main m position hready hmain validHeaders hvalid
  obtain ⟨position₂, hcheck⟩ := checkOther_main m position₁ (tableOn_setTable m hsecond
    d.mainHeader (tableOk d.blockSize m d.mainHeader) (tableOk d.blockSize m d.mainHeader))
  have hcheck' : checkOther 1 ⟨setTable d m d.mainHeader (tableOk d.blockSize m d.mainHeader)
      (tableOk d.blockSize m d.mainHeader), diskOf d m position₁⟩ =
      some ⟨setTable d m d.mainHeader (tableOk d.blockSize m d.mainHeader)
        (bothOk d.blockSize m d.secondHeader d.mainHeader), diskOf d m position₂⟩ := hcheck
  rw [loadTables, hchoose]
  simp only [Option.bind_eq_bind, Option.bind_some, hcheck']
  by_cases hbad : MainBad d m
  · obtain ⟨position₃, hbackup⟩ := loadBackup_of_backup m position₂
      (ready_setTable m hready d.mainHeader (tableOk d.blockSize m d.mainHeader)
        (bothOk d.blockSize m d.secondHeader d.mainHeader))
      (tableOn_setTable m hsecond d.mainHeader (tableOk d.blockSize m d.mainHeader)
        (bothOk d.blockSize m d.secondHeader d.mainHeader)) hbad
    have hbackup' : loadBackup true ⟨setTable d m d.mainHeader
        (tableOk d.blockSize m d.mainHeader) (bothOk d.blockSize m d.secondHeader d.mainHeader),
        diskOf d m position₂⟩ = _ := hbackup
    have hstop : validHeaders ≠ 3 ∨ false = false ∨ tableOk d.blockSize m d.secondHeader = false :=
      Or.inr (Or.inl rfl)
    have hgood : ¬ (validHeaders = 3 ∧ tableOk d.blockSize m d.mainHeader = true ∧
        bothOk d.blockSize m d.secondHeader d.mainHeader = true) := fun hall => by
      rw [hbad.2.2] at hall
      exact Bool.false_ne_true hall.2.1
    rw [hbackup', if_pos hbad, if_neg hgood]
    exact ⟨_, position₃, congrArg some (Prod.ext rfl (if_pos hstop)), ⟨rfl, rfl, rfl, rfl, rfl⟩,
      rfl, rfl⟩
  · have hbackup : loadBackup true ⟨setTable d m d.mainHeader
        (tableOk d.blockSize m d.mainHeader) (bothOk d.blockSize m d.secondHeader d.mainHeader),
        diskOf d m position₂⟩ = _ := loadBackup_of_not true hbad
    rw [hbackup, if_neg hbad]
    by_cases hgood : validHeaders = 3 ∧ tableOk d.blockSize m d.mainHeader = true ∧
        bothOk d.blockSize m d.secondHeader d.mainHeader = true
    · have hstop : ¬ (validHeaders ≠ 3 ∨ tableOk d.blockSize m d.mainHeader = false ∨
          bothOk d.blockSize m d.secondHeader d.mainHeader = false) := by
        rw [hgood.2.1, hgood.2.2]
        rintro (hne | hfalse | hfalse)
        · exact hne hgood.1
        · exact Bool.noConfusion hfalse
        · exact Bool.noConfusion hfalse
      rw [if_pos hgood]
      exact ⟨_, position₂, congrArg some (Prod.ext rfl (if_neg hstop)), ⟨rfl, rfl, rfl, rfl, rfl⟩,
        rfl, rfl⟩
    · have hstop : validHeaders ≠ 3 ∨ tableOk d.blockSize m d.mainHeader = false ∨
          bothOk d.blockSize m d.secondHeader d.mainHeader = false := by
        by_contra hall
        rw [not_or, not_or, not_not, Bool.not_eq_false, Bool.not_eq_false] at hall
        exact hgood hall
      rw [if_neg hgood]
      exact ⟨_, position₂, congrArg some (Prod.ext rfl (if_pos hstop)), ⟨rfl, rfl, rfl, rfl, rfl⟩,
        rfl, rfl⟩

theorem loadTables_second (hready : Ready d) (hmain : TableOn d d.mainHeader)
    (hsecond : TableOn d d.secondHeader) :
    ∃ d' position', loadTables 2 true ⟨d, diskOf d m position⟩ =
        some (true, ⟨d', diskOf d m position'⟩) ∧ Kept d d' ∧
      d'.partitions = some
        (partLayout.decodeAll d.numParts.toNat (tableAt d.blockSize m d.secondHeader)) ∧
      d'.state = .corrupt := by
  obtain ⟨position₁, hchoose⟩ := chooseTable_second m position hready hsecond
  obtain ⟨position₂, hcheck⟩ := checkOther_second m position₁ (tableOn_setTable m
    (tableOn_state hmain .corrupt) d.secondHeader (tableOk d.blockSize m d.secondHeader)
    (tableOk d.blockSize m d.secondHeader))
  have hcheck' : checkOther 2 ⟨setTable (d.withState .corrupt) m d.secondHeader
      (tableOk d.blockSize m d.secondHeader) (tableOk d.blockSize m d.secondHeader),
      diskOf d m position₁⟩ =
      some ⟨setTable (d.withState .corrupt) m d.secondHeader
        (bothOk d.blockSize m d.mainHeader d.secondHeader) (tableOk d.blockSize m d.secondHeader),
        diskOf d m position₂⟩ := hcheck
  rw [loadTables, hchoose]
  simp only [Option.bind_eq_bind, Option.bind_some, hcheck']
  by_cases hbackup : tableOk d.blockSize m d.secondHeader = true ∧ d.secondCrcOk = true ∧
      bothOk d.blockSize m d.mainHeader d.secondHeader = false
  · obtain ⟨position₃, hload⟩ := loadBackup_of_backup m position₂
      (ready_setTable m (ready_state hready .corrupt) d.secondHeader
        (bothOk d.blockSize m d.mainHeader d.secondHeader) (tableOk d.blockSize m d.secondHeader))
      (tableOn_setTable m (tableOn_state hsecond .corrupt) d.secondHeader
        (bothOk d.blockSize m d.mainHeader d.secondHeader)
        (tableOk d.blockSize m d.secondHeader)) hbackup
    have hload' : loadBackup true ⟨setTable (d.withState .corrupt) m d.secondHeader
        (bothOk d.blockSize m d.mainHeader d.secondHeader) (tableOk d.blockSize m d.secondHeader),
        diskOf d m position₂⟩ = _ := hload
    rw [hload']
    exact ⟨_, position₃, rfl, ⟨rfl, rfl, rfl, rfl, rfl⟩, rfl, rfl⟩
  · have hload : loadBackup true ⟨setTable (d.withState .corrupt) m d.secondHeader
        (bothOk d.blockSize m d.mainHeader d.secondHeader) (tableOk d.blockSize m d.secondHeader),
        diskOf d m position₂⟩ = _ := loadBackup_of_not true hbackup
    rw [hload]
    exact ⟨_, position₂, rfl, ⟨rfl, rfl, rfl, rfl, rfl⟩, rfl, rfl⟩

end Tables

/-! ### Loading -/

/-- Headers whose places, and those of the copies of the table, do not meet. -/
structure Laid (d : Data) (main second : Header) : Prop where
  block_le : 512 ≤ d.blockSize
  fits : d.diskSize.toNat * d.blockSize < 2 ^ 63
  numParts_eq : second.numParts = main.numParts
  numParts_pos : 0 < main.numParts.toNat
  numParts_lt : main.numParts.toNat * 128 < 2 ^ 31
  main_entry : main.sizeOfPartitionEntries = 128
  second_entry : second.sizeOfPartitionEntries = 128
  first_le : 2 ≤ main.partitionEntriesLBA.toNat
  main_le : main.partitionEntriesLBA.toNat + tableBlocks d.blockSize main.numParts.toNat ≤
    second.partitionEntriesLBA.toNat
  second_le : second.partitionEntriesLBA.toNat + tableBlocks d.blockSize main.numParts.toNat ≤
    main.backupLBA.toNat
  backup_lt : main.backupLBA.toNat < d.diskSize.toNat

section ForceLoad

variable (m : Medium) (position : Nat) {d : Data} {main second : Header}

theorem Laid.tableOn_main (hlaid : Laid d main second) {d' : Data}
    (hsized : Sized main.numParts d d') : TableOn d' main := by
  have hblock := hlaid.block_le
  have hmain := hlaid.main_le
  have hsecond := hlaid.second_le
  have hbackup := hlaid.backup_lt
  obtain ⟨hnum, hsize, hdisk⟩ := hsized
  refine ⟨?_, ?_, hnum.symm, hlaid.main_entry, ?_, ?_, ?_⟩
  · omega
  · rw [hsize, hdisk]
    exact hlaid.fits
  · rw [hnum]
    exact hlaid.numParts_pos
  · rw [hnum]
    exact hlaid.numParts_lt
  · rw [hsize, hdisk, hnum]
    omega

theorem Laid.tableOn_second (hlaid : Laid d main second) {d' : Data}
    (hsized : Sized main.numParts d d') : TableOn d' second := by
  have hmain := hlaid.tableOn_main hsized
  have hsecond := hlaid.second_le
  have hbackup := hlaid.backup_lt
  obtain ⟨hnum, hsize, hdisk⟩ := hsized
  refine ⟨hmain.block_pos, hmain.fits, hlaid.numParts_eq.trans hnum.symm, hlaid.second_entry,
    hmain.numParts_pos, hmain.numParts_lt, ?_⟩
  rw [hsize, hdisk, hnum]
  omega

theorem loadMainHeader_blank (hblank : Blank d) {sector : BitVec 64} {h : Header}
    (hon : HeaderOn d m sector h)
    (hpos : checkHeaderCRC d.blockSize h = true → 0 < h.numParts.toNat) :
    ∃ d' position', loadMainHeader sector ⟨d, diskOf d m position⟩ =
        (true, ⟨d'.setMain h (checkHeaderCRC d.blockSize h), diskOf d m position'⟩) ∧
      Blank d' ∧ (checkHeaderCRC d.blockSize h = true → Sized h.numParts d d') ∧
        ((d.numParts ≠ h.numParts → checkHeaderCRC d.blockSize h = false) → d' = d) := by
  obtain ⟨d', position', hload, hrest⟩ := loadHeader_blank m position hblank hon hpos
  refine ⟨d', position', ?_, hrest⟩
  rw [loadMainHeader, hload]

theorem loadSecondHeader_blank (hblank : Blank d) {sector : BitVec 64} {h : Header}
    (hon : HeaderOn d m sector h)
    (hpos : checkHeaderCRC d.blockSize h = true → 0 < h.numParts.toNat) :
    ∃ d' position', loadSecondHeader sector ⟨d, diskOf d m position⟩ =
        (true, ⟨d'.setSecond h (checkHeaderCRC d.blockSize h), diskOf d m position'⟩) ∧
      Blank d' ∧ (checkHeaderCRC d.blockSize h = true → Sized h.numParts d d') ∧
        ((d.numParts ≠ h.numParts → checkHeaderCRC d.blockSize h = false) → d' = d) := by
  obtain ⟨d', position', hload, hrest⟩ := loadHeader_blank m position hblank hon hpos
  refine ⟨d', position', ?_, hrest⟩
  rw [loadSecondHeader, hload]

theorem headerOn_sized {n : BitVec 32} {d' : Data} {sector : BitVec 64} {h : Header}
    (hsized : Sized n d d') (hon : HeaderOn d m sector h) : HeaderOn d' m sector h := by
  obtain ⟨-, hsize, hdisk⟩ := hsized
  refine ⟨?_, ?_, ?_, ?_⟩
  · rw [hsize]
    exact hon.block_le
  · rw [hsize, hdisk]
    exact hon.fits
  · rw [hdisk]
    exact hon.sector_lt
  · rw [hsize]
    exact hon.read_eq

/-- The main header is right, and the second one where it says may be right or wrong. -/
theorem loadHeaders_on (hblank : Blank d) {other : Header} (hmain : HeaderOn d m 1 main)
    (hother : HeaderOn d m main.backupLBA other) (hpos : 0 < main.numParts.toNat)
    (hcrc : checkHeaderCRC d.blockSize main = true)
    (hnum : checkHeaderCRC d.blockSize other = true → other.numParts = main.numParts) :
    ∃ d' position', loadHeaders ⟨d, diskOf d m position⟩ =
        (true, ⟨d', diskOf d m position'⟩) ∧ Blank d' ∧ Sized main.numParts d d' ∧
      d'.mainHeader = main ∧ d'.secondHeader = other ∧ d'.mainCrcOk = true ∧
      d'.secondCrcOk = checkHeaderCRC d.blockSize other := by
  obtain ⟨d₁, position₁, hload, hblank₁, hsized, -⟩ := loadMainHeader_blank m position hblank
    hmain fun _ => hpos
  rw [hcrc] at hload
  have hsized := hsized hcrc
  have hsized₁ : Sized main.numParts d (d₁.setMain main true) :=
    ⟨hsized.numParts_eq, hsized.blockSize_eq, hsized.diskSize_eq⟩
  have hon : HeaderOn (d₁.setMain main true) m main.backupLBA other :=
    headerOn_sized m hsized₁ hother
  have hsame : (d₁.setMain main true).blockSize = d.blockSize := hsized.blockSize_eq
  have hdisk : diskOf (d₁.setMain main true) m position₁ = diskOf d m position₁ :=
    diskOf_eq hsized₁ m position₁
  have hnum' : checkHeaderCRC (d₁.setMain main true).blockSize other = true →
      other.numParts = main.numParts := by rwa [hsame]
  obtain ⟨d₂, position₂, hload₂, hblank₂, -, hkeep⟩ := loadSecondHeader_blank m position₁
    (d := d₁.setMain main true) hblank₁ hon fun hcrc' => (hnum' hcrc').symm ▸ hpos
  have hd₂ : d₂ = d₁.setMain main true := by
    refine hkeep fun hne => ?_
    by_contra hright
    rw [Bool.not_eq_false] at hright
    exact hne (hsized.numParts_eq.trans (hnum' hright).symm)
  subst hd₂
  rw [hdisk, diskOf_eq hsized₁, hsame] at hload₂
  have hin : (d₁.setMain main true).mainCrcOk = true ∧
      (d₁.setMain main true).mainHeader.backupLBA < (d₁.setMain main true).diskSize := by
    refine ⟨rfl, ?_⟩
    have hdiskSize : (d₁.setMain main true).diskSize = d.diskSize := hsized.diskSize_eq
    rw [hdiskSize]
    exact hother.sector_lt
  refine ⟨(d₁.setMain main true).setSecond other (checkHeaderCRC d.blockSize other), position₂, ?_,
    hblank₂, ⟨hsized.numParts_eq, hsized.blockSize_eq, hsized.diskSize_eq⟩, rfl, rfl, rfl, rfl⟩
  have hload₂' : loadSecondHeader (d₁.setMain main true).mainHeader.backupLBA
    ⟨d₁.setMain main true, diskOf d m position₁⟩ = _ := hload₂
  rw [loadHeaders, hload]
  dsimp only
  rw [if_pos hin, hload₂']
  rfl

theorem loadHeaders_main (hblank : Blank d) (hlaid : Laid d main second)
    (hmain : m.read (1 * d.blockSize) 512 = headerLayout.encode main)
    (hcrc : checkHeaderCRC d.blockSize main = true) {other : Header}
    (hother : m.read (main.backupLBA.toNat * d.blockSize) 512 = headerLayout.encode other)
    (hnum : checkHeaderCRC d.blockSize other = true → other.numParts = main.numParts) :
    ∃ d' position', loadHeaders ⟨d, diskOf d m position⟩ =
        (true, ⟨d', diskOf d m position'⟩) ∧ Blank d' ∧ Sized main.numParts d d' ∧
      d'.mainHeader = main ∧ d'.secondHeader = other ∧ d'.mainCrcOk = true ∧
      d'.secondCrcOk = checkHeaderCRC d.blockSize other := by
  have hfirst := hlaid.first_le
  have hmainle := hlaid.main_le
  have hsecondle := hlaid.second_le
  have hbackup := hlaid.backup_lt
  have hlt : (1 : BitVec 64).toNat < d.diskSize.toNat := by
    have hone : (1 : BitVec 64).toNat = 1 := rfl
    omega
  exact loadHeaders_on m position hblank ⟨hlaid.block_le, hlaid.fits, hlt, hmain⟩
    ⟨hlaid.block_le, hlaid.fits, hbackup, hother⟩ hlaid.numParts_pos hcrc hnum

/-- The checksum of the main header is wrong, and the second one is in the last block. -/
theorem loadHeaders_second (hblank : Blank d) (hlaid : Laid d main second)
    (hnum : d.numParts = main.numParts) (hlast : main.backupLBA = d.diskSize - 1) {bad : Header}
    (hmain : m.read (1 * d.blockSize) 512 = headerLayout.encode bad)
    (hcrc : checkHeaderCRC d.blockSize bad = false)
    (hsecond : m.read (main.backupLBA.toNat * d.blockSize) 512 = headerLayout.encode second)
    (hcrc' : checkHeaderCRC d.blockSize second = true) :
    ∃ position', loadHeaders ⟨d, diskOf d m position⟩ =
      (true, ⟨(d.setMain bad false).setSecond second true, diskOf d m position'⟩) := by
  have hfirst := hlaid.first_le
  have hmainle := hlaid.main_le
  have hsecondle := hlaid.second_le
  have hbackup := hlaid.backup_lt
  have hlt : (1 : BitVec 64).toNat < d.diskSize.toNat := by
    have hone : (1 : BitVec 64).toNat = 1 := rfl
    omega
  obtain ⟨d₁, position₁, hload, -, -, hkeep⟩ := loadMainHeader_blank m position hblank
    ⟨hlaid.block_le, hlaid.fits, hlt, hmain⟩ fun hright => absurd hright (by rw [hcrc]; decide)
  obtain rfl : d₁ = d := hkeep fun _ => hcrc
  rw [hcrc] at hload
  have hon : HeaderOn (d₁.setMain bad false) m (d₁.diskSize - 1) second :=
    ⟨hlaid.block_le, hlaid.fits, by rw [← hlast]; exact hbackup, by rw [← hlast]; exact hsecond⟩
  obtain ⟨d₂, position₂, hload₂, -, -, hkeep₂⟩ := loadSecondHeader_blank m position₁
    (d := d₁.setMain bad false) hblank hon fun _ => hlaid.numParts_eq.symm ▸ hlaid.numParts_pos
  obtain rfl : d₂ = d₁.setMain bad false :=
    hkeep₂ fun hne => absurd (hnum.trans hlaid.numParts_eq.symm) hne
  refine ⟨position₂, ?_⟩
  have hout : ¬ ((d₁.setMain bad false).mainCrcOk = true ∧
      (d₁.setMain bad false).mainHeader.backupLBA < (d₁.setMain bad false).diskSize) :=
    fun hboth => Bool.false_ne_true hboth.1
  have hright : checkHeaderCRC (d₁.setMain bad false).blockSize second = true := hcrc'
  have hload₂' : loadSecondHeader ((d₁.setMain bad false).diskSize - 1)
    ⟨d₁.setMain bad false, diskOf d₁ m position₁⟩ = _ := hload₂
  rw [loadHeaders, hload]
  dsimp only
  rw [if_neg hout, hload₂', hright]
  rfl

/-- A bad header is made from the good one. -/
theorem regenerate_one (hlength : ∃ all, d.partitions = some all ∧ all.length = d.numParts.toNat)
    (hnum : d.mainHeader.numParts = d.numParts) :
    regenerate 1 d = (d.withState .corrupt).setSecond d.mainHeader.toSecond d.mainCrcOk := by
  have hready : Ready ((d.withState .valid).setSecond d.mainHeader.toSecond d.mainCrcOk) :=
    ⟨hnum, hnum, hlength⟩
  have hsize := setGPTSize_same hready
  rw [← hready.second_eq] at hsize
  have hbuild : rebuildSecondHeader (d.withState .valid) =
      (d.withState .valid).setSecond d.mainHeader.toSecond d.mainCrcOk := congrArg Prod.snd hsize
  rw [regenerate, if_pos rfl]
  dsimp only
  rw [hbuild]
  rfl

theorem regenerate_two (hlength : ∃ all, d.partitions = some all ∧ all.length = d.numParts.toNat)
    (hnum : d.secondHeader.numParts = d.numParts) :
    regenerate 2 d = (d.withState .corrupt).setMain
      (d.secondHeader.toMain (getTableSizeInSectors d)) d.secondCrcOk := by
  have hready : Ready ((d.withState .valid).setMain
      (d.secondHeader.toMain (getTableSizeInSectors d)) d.secondCrcOk) := ⟨hnum, hnum, hlength⟩
  have hsize := setGPTSize_same hready
  rw [← hready.main_eq] at hsize
  have hbuild : rebuildMainHeader (d.withState .valid) = (d.withState .valid).setMain
      (d.secondHeader.toMain (getTableSizeInSectors d)) d.secondCrcOk := congrArg Prod.snd hsize
  rw [regenerate, if_neg (by decide), if_pos rfl]
  dsimp only
  rw [hbuild]
  rfl

theorem regenerate_three : regenerate 3 d = d.withState .valid := rfl

theorem checkHeaderCRC_of_valid {blockSize : Nat} {h : Header}
    (hvalid : headerValid blockSize h = true) : checkHeaderCRC blockSize h = true := by
  rw [headerValid] at hvalid
  by_contra hwrong
  rw [Bool.not_eq_true] at hwrong
  rw [if_pos (Or.inr hwrong)] at hvalid
  exact Bool.false_ne_true hvalid

theorem headerValid_of_wrong {blockSize : Nat} {h : Header}
    (hwrong : checkHeaderCRC blockSize h = false) : headerValid blockSize h = false :=
  if_pos (Or.inr hwrong)

/-- **Both headers are right.** The backup table is loaded in place of the main one only if it has
the checksum of both headers, and the main one has not. -/
theorem forceLoadGPTData_valid (hblank : Blank d) (hlaid : Laid d main second)
    (hmain : m.read (1 * d.blockSize) 512 = headerLayout.encode main)
    (hsecond : m.read (main.backupLBA.toNat * d.blockSize) 512 = headerLayout.encode second)
    (hvalid : headerValid d.blockSize main = true)
    (hvalid' : headerValid d.blockSize second = true) :
    ∃ d' position', forceLoadGPTData ⟨d, diskOf d m position⟩ =
        some (true, ⟨d', diskOf d m position'⟩) ∧ Sized main.numParts d d' ∧
      d'.mainHeader = main ∧ d'.secondHeader = second ∧
      d'.partitions = some (partLayout.decodeAll main.numParts.toNat
        (if bothOk d.blockSize m second main = true ∧ tableOk d.blockSize m main = false then
          tableAt d.blockSize m second else tableAt d.blockSize m main)) ∧
      d'.state = if tableOk d.blockSize m main = true ∧
          bothOk d.blockSize m second main = true then .valid else .corrupt := by
  obtain ⟨d₁, position₁, hload, hblank₁, hsized, hmain₁, hsecond₁, -, hcrc⟩ :=
    loadHeaders_main m position hblank hlaid hmain (checkHeaderCRC_of_valid hvalid) hsecond
      fun _ => hlaid.numParts_eq
  subst hmain₁ hsecond₁
  have hcheck : checkHeaderValidity d₁ = 3 := by
    rw [checkHeaderValidity, hsized.blockSize_eq, hvalid, hvalid']
    rfl
  have hready : Ready (d₁.withState .valid) :=
    ⟨hsized.numParts_eq.symm, hlaid.numParts_eq.trans hsized.numParts_eq.symm, _, hblank₁,
      List.length_replicate⟩
  obtain ⟨d₂, position₂, htables, ⟨hmain₂, hsecond₂, hsized₂⟩, hpartitions, hstate⟩ :=
    loadTables_main m position₁ hready (tableOn_state (hlaid.tableOn_main hsized) .valid)
      (tableOn_state (hlaid.tableOn_second hsized) .valid) 3 (by decide)
  have hsized' : Sized d₁.mainHeader.numParts d (d₁.withState .valid) :=
    ⟨hsized.numParts_eq, hsized.blockSize_eq, hsized.diskSize_eq⟩
  rw [diskOf_eq hsized', diskOf_eq hsized'] at htables
  have hsize : (d₁.withState .valid).blockSize = d.blockSize := hsized.blockSize_eq
  have hnum : (d₁.withState .valid).numParts = d₁.mainHeader.numParts := hsized.numParts_eq
  have hbad : MainBad (d₁.withState .valid) m ↔
      bothOk d.blockSize m d₁.secondHeader d₁.mainHeader = true ∧
        tableOk d.blockSize m d₁.mainHeader = false := by
    rw [MainBad, hsize]
    exact ⟨fun hall => ⟨hall.1, hall.2.2⟩,
      fun hboth => ⟨hboth.1, hcrc.trans (checkHeaderCRC_of_valid hvalid'), hboth.2⟩⟩
  refine ⟨d₂, position₂, ?_, ⟨hsized₂.numParts_eq.trans hnum,
    hsized₂.blockSize_eq.trans hsize, hsized₂.diskSize_eq.trans hsized'.diskSize_eq⟩, hmain₂,
    hsecond₂, ?_, ?_⟩
  · rw [forceLoadGPTData, hload]
    dsimp only
    rw [hcheck, if_pos (by decide), regenerate_three]
    exact htables
  · rw [hpartitions, if_congr hbad rfl rfl, hsize, hnum]
    rfl
  · rw [hstate, hsize]
    exact if_congr (and_iff_right rfl) rfl rfl

/-- **The second header is wrong.** It is made from the main one. -/
theorem forceLoadGPTData_main (hblank : Blank d) (hlaid : Laid d main second)
    (hlast : main.lastUsableLBA + 1 = second.partitionEntriesLBA)
    (hmain : m.read (1 * d.blockSize) 512 = headerLayout.encode main)
    (hvalid : headerValid d.blockSize main = true) {bad : Header}
    (hsecond : m.read (main.backupLBA.toNat * d.blockSize) 512 = headerLayout.encode bad)
    (hwrong : checkHeaderCRC d.blockSize bad = false) :
    ∃ d' position', forceLoadGPTData ⟨d, diskOf d m position⟩ =
        some (true, ⟨d', diskOf d m position'⟩) ∧ Sized main.numParts d d' ∧
      d'.mainHeader = main ∧ d'.secondHeader = main.toSecond ∧
      d'.partitions = some (partLayout.decodeAll main.numParts.toNat
        (if tableOk d.blockSize m main.toSecond = true ∧ tableOk d.blockSize m main = false then
          tableAt d.blockSize m main.toSecond else tableAt d.blockSize m main)) ∧
      d'.state = .corrupt := by
  obtain ⟨d₁, position₁, hload, hblank₁, hsized, hmain₁, hsecond₁, hcrc, -⟩ :=
    loadHeaders_main m position hblank hlaid hmain (checkHeaderCRC_of_valid hvalid) hsecond
      fun hright => absurd hright (by rw [hwrong]; decide)
  subst hmain₁ hsecond₁
  have hcheck : checkHeaderValidity d₁ = 1 := by
    rw [checkHeaderValidity, hsized.blockSize_eq, hvalid, headerValid_of_wrong hwrong]
    rfl
  have hbuild := regenerate_one ⟨_, hblank₁, List.length_replicate⟩ hsized.numParts_eq.symm
  rw [hcrc] at hbuild
  have hsized' : Sized d₁.mainHeader.numParts d
      ((d₁.withState .corrupt).setSecond d₁.mainHeader.toSecond true) :=
    ⟨hsized.numParts_eq, hsized.blockSize_eq, hsized.diskSize_eq⟩
  have hready : Ready ((d₁.withState .corrupt).setSecond d₁.mainHeader.toSecond true) :=
    ⟨hsized.numParts_eq.symm, hsized.numParts_eq.symm, _, hblank₁, List.length_replicate⟩
  have hon : TableOn ((d₁.withState .corrupt).setSecond d₁.mainHeader.toSecond true)
      d₁.mainHeader.toSecond := by
    have hold := hlaid.tableOn_second hsized'
    refine ⟨hold.block_pos, hold.fits, hsized.numParts_eq.symm, hlaid.main_entry,
      hold.numParts_pos, hold.numParts_lt, ?_⟩
    have hentries : d₁.mainHeader.toSecond.partitionEntriesLBA = second.partitionEntriesLBA := hlast
    rw [hentries]
    exact hold.table_le
  obtain ⟨d₂, position₂, htables, ⟨hmain₂, hsecond₂, hsized₂⟩, hpartitions, hstate⟩ :=
    loadTables_main m position₁ hready (hlaid.tableOn_main hsized') hon 1 (by decide)
  rw [diskOf_eq hsized', diskOf_eq hsized'] at htables
  have hsize := hsized'.blockSize_eq
  have hnum := hsized'.numParts_eq
  have hbad : MainBad ((d₁.withState .corrupt).setSecond d₁.mainHeader.toSecond true) m ↔
      tableOk d.blockSize m d₁.mainHeader.toSecond = true ∧
        tableOk d.blockSize m d₁.mainHeader = false := by
    rw [MainBad, hsize]
    refine ⟨fun hall => ⟨(Bool.and_eq_true_iff.mp hall.1).1, hall.2.2⟩, fun hboth =>
      ⟨Bool.and_eq_true_iff.mpr ⟨hboth.1, ?_⟩, rfl, hboth.2⟩⟩
    exact hboth.1
  refine ⟨d₂, position₂, ?_, ⟨hsized₂.numParts_eq.trans hnum, hsized₂.blockSize_eq.trans hsize,
    hsized₂.diskSize_eq.trans hsized'.diskSize_eq⟩, hmain₂, hsecond₂, ?_, ?_⟩
  · rw [forceLoadGPTData, hload]
    dsimp only
    rw [hcheck, if_pos (by decide), hbuild]
    exact htables
  · rw [hpartitions, if_congr hbad rfl rfl, hsize, hnum]
    rfl
  · rw [hstate]
    exact if_neg fun hall => absurd hall.1 (by decide)

theorem getTableSizeInSectors_eq {n : BitVec 32} (hnum : d.numParts = n)
    (hlt : n.toNat * 128 < 2 ^ 31) :
    getTableSizeInSectors d = BitVec.ofNat 64 (tableBlocks d.blockSize n.toNat) := by
  have hmod : n.toNat * 128 % 2 ^ 32 = n.toNat * 128 := Nat.mod_eq_of_lt (by omega)
  have hsize : Gpt.getTableSizeInSectors d.toData = tableBlocks d.blockSize n.toNat := by
    rw [Gpt.getTableSizeInSectors, Data.toData, hnum]
    dsimp only
    rw [Gpt.gptSize, hmod]
    rfl
  rw [getTableSizeInSectors, hsize]

/-- **The main header is wrong.** It is made from the second one, and the backup table is loaded. -/
theorem forceLoadGPTData_second (hblank : Blank d) (hlaid : Laid d main second)
    (hnum : d.numParts = main.numParts) (hlast : main.backupLBA = d.diskSize - 1)
    (hfirst : second.firstUsableLBA -
      BitVec.ofNat 64 (tableBlocks d.blockSize main.numParts.toNat) = main.partitionEntriesLBA)
    {bad : Header} (hmain : m.read (1 * d.blockSize) 512 = headerLayout.encode bad)
    (hwrong : checkHeaderCRC d.blockSize bad = false)
    (hsecond : m.read (main.backupLBA.toNat * d.blockSize) 512 = headerLayout.encode second)
    (hvalid : headerValid d.blockSize second = true) :
    ∃ d' position', forceLoadGPTData ⟨d, diskOf d m position⟩ =
        some (true, ⟨d', diskOf d m position'⟩) ∧ Sized main.numParts d d' ∧
      d'.mainHeader =
        second.toMain (BitVec.ofNat 64 (tableBlocks d.blockSize main.numParts.toNat)) ∧
      d'.secondHeader = second ∧
      d'.partitions = some (partLayout.decodeAll main.numParts.toNat
        (tableAt d.blockSize m second)) ∧
      d'.state = .corrupt := by
  obtain ⟨position₁, hload⟩ := loadHeaders_second m position hblank hlaid hnum hlast hmain hwrong
    hsecond (checkHeaderCRC_of_valid hvalid)
  have hcheck : checkHeaderValidity ((d.setMain bad false).setSecond second true) = 2 := by
    have hcount : checkHeaderValidity ((d.setMain bad false).setSecond second true) =
      (if headerValid d.blockSize bad then 1 else 0) +
        if headerValid d.blockSize second then 2 else 0 := rfl
    rw [hcount, headerValid_of_wrong hwrong, hvalid]
    rfl
  have hsecondNum : second.numParts = d.numParts := hlaid.numParts_eq.trans hnum.symm
  have hbuild := regenerate_two (d := (d.setMain bad false).setSecond second true)
    ⟨_, hblank, List.length_replicate⟩ hsecondNum
  have htableSize : getTableSizeInSectors ((d.setMain bad false).setSecond second true) =
      BitVec.ofNat 64 (tableBlocks d.blockSize main.numParts.toNat) :=
    getTableSizeInSectors_eq hnum hlaid.numParts_lt
  rw [htableSize] at hbuild
  generalize hd₁ : (((d.setMain bad false).setSecond second true).withState .corrupt).setMain
    (second.toMain (BitVec.ofNat 64 (tableBlocks d.blockSize main.numParts.toNat))) true = d₁
  have hbuild' : regenerate 2 ((d.setMain bad false).setSecond second true) = d₁ :=
    hbuild.trans hd₁
  have hmain₁ : d₁.mainHeader =
      second.toMain (BitVec.ofNat 64 (tableBlocks d.blockSize main.numParts.toNat)) := by
    rw [← hd₁]
    rfl
  have hsecond₁ : d₁.secondHeader = second := by
    rw [← hd₁]
    rfl
  have hsized : Sized main.numParts d d₁ := by
    rw [← hd₁]
    exact ⟨hnum, rfl, rfl⟩
  have hlength : ∃ all, d₁.partitions = some all ∧ all.length = d₁.numParts.toNat := by
    rw [← hd₁]
    exact ⟨_, hblank, List.length_replicate⟩
  have hready : Ready d₁ := by
    refine ⟨?_, ?_, hlength⟩
    · rw [hmain₁, hsized.numParts_eq]
      exact hlaid.numParts_eq
    · rw [hsecond₁, hsized.numParts_eq]
      exact hlaid.numParts_eq
  have hon : TableOn d₁ d₁.secondHeader := by
    rw [hsecond₁]
    exact hlaid.tableOn_second hsized
  have hon' : TableOn d₁ d₁.mainHeader := by
    have hold := hlaid.tableOn_main hsized
    rw [hmain₁]
    refine ⟨hold.block_pos, hold.fits, hlaid.numParts_eq.trans hsized.numParts_eq.symm,
      hlaid.second_entry, hold.numParts_pos, hold.numParts_lt, ?_⟩
    have hentries : (second.toMain (BitVec.ofNat 64
        (tableBlocks d.blockSize main.numParts.toNat))).partitionEntriesLBA =
          main.partitionEntriesLBA := hfirst
    rw [hentries]
    exact hold.table_le
  obtain ⟨d₂, position₂, htables, ⟨hmain₂, hsecond₂, hsized₂⟩, hpartitions, hstate⟩ :=
    loadTables_second m position₁ hready hon' hon
  rw [diskOf_eq hsized, diskOf_eq hsized] at htables
  refine ⟨d₂, position₂, ?_, ⟨hsized₂.numParts_eq.trans hsized.numParts_eq,
    hsized₂.blockSize_eq.trans hsized.blockSize_eq, hsized₂.diskSize_eq.trans hsized.diskSize_eq⟩,
    hmain₂.trans hmain₁, hsecond₂.trans hsecond₁, ?_, hstate⟩
  · rw [forceLoadGPTData, hload]
    dsimp only
    rw [hcheck, if_pos (by decide), hbuild']
    exact htables
  · rw [hpartitions, hsized.blockSize_eq, hsized.numParts_eq, hsecond₁]

end ForceLoad

end UsbMaker.GptDisk
