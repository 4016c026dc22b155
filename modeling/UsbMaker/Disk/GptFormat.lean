import UsbMaker.Disk.PartitionTable
import UsbMaker.Run.Crc

/-!
# The GUID partition table on the disk

A header of the table is a structure of 512 bytes, and an entry of the table one of 128. `GPTData`
reads both from the disk as they are in memory. The checksums are those of `crc32.cc`, which goes
through a table of the 256 bytes.

## Main definitions

* `GptDisk.Header`, `GptDisk.Part`, with `GptDisk.headerLayout` and `GptDisk.partLayout`.
* `GptDisk.chksumCrc32`: the checksum.
* `GptDisk.headerCrc`, `GptDisk.checkHeaderCRC`.

## Main results

* `GptDisk.chksumCrc32_eq`: the table does the same as the bits one after another.
* `GptDisk.chksumCrc32_ne_of_burst`: blocks that differ within 32 successive bits.
* `GptDisk.checkHeaderCRC_eq_false_of_burst`: a header that was damaged within 32 successive bits.
-/

namespace UsbMaker.GptDisk

open Gpt (Guid)

/-! ### Checksums -/

/-- The polynomial of `chksum_crc32gentab`. -/
def poly : BitVec 32 := 0xEDB88320#32

/-- A turn of the loop of `chksum_crc32gentab`. -/
def gentabTurn (crc : BitVec 32) : BitVec 32 :=
  if crc &&& 1 ≠ 0 then crc >>> 1 ^^^ poly else crc >>> 1

/-- `chksum_crc32gentab`. -/
def chksumCrc32Gentab : Vector (BitVec 32) 256 :=
  Vector.ofFn fun i => gentabTurn^[8] (BitVec.ofNat 32 i.val)

/-- Where a turn of the loop of `chksum_crc32` looks in the table. -/
def crc32Index (crc : BitVec 32) (byte : Byte) : Fin 256 where
  val := ((crc ^^^ byte.setWidth 32) &&& 0xFF#32).toNat
  isLt := by
    rw [BitVec.toNat_and]
    exact Nat.lt_of_le_of_lt Nat.and_le_right (by decide)

/-- A turn of the loop of `chksum_crc32`. -/
def crc32Turn (crc : BitVec 32) (byte : Byte) : BitVec 32 :=
  (crc >>> 8 &&& 0x00FFFFFF#32) ^^^ chksumCrc32Gentab[crc32Index crc byte]

/-- `chksum_crc32`. -/
def chksumCrc32 (block : List Byte) : BitVec 32 :=
  block.foldl crc32Turn 0xFFFFFFFF ^^^ 0xFFFFFFFF

theorem gentabTurn_eq (crc : BitVec 32) : gentabTurn crc = Crc.step poly crc := by
  have hlow : crc &&& 1 = (BitVec.ofBool (crc.getLsbD 0)).setWidth 32 :=
    BitVec.and_one_eq_setWidth_ofBool_getLsbD
  rw [gentabTurn, Crc.step, hlow]
  cases crc.getLsbD 0 <;> rfl

theorem getElem_chksumCrc32Gentab (byte : Byte) (i : Fin 256) (h : i.val = byte.toNat) :
    chksumCrc32Gentab[i] = Crc.tableEntry poly byte := by
  have hturn : gentabTurn = Crc.step poly := funext gentabTurn_eq
  have hbyte : BitVec.ofNat 32 i.val = byte.setWidth 32 := by
    rw [h]
    exact BitVec.ofNat_toNat 32 byte
  refine (Vector.getElem_ofFn i.isLt).trans ?_
  rw [hturn, hbyte]
  rfl

theorem crc32Turn_eq (crc : BitVec 32) (byte : Byte) :
    crc32Turn crc byte = Crc.byteStep poly crc byte := by
  have hmask : crc >>> 8 &&& 0x00FFFFFF#32 = crc >>> 8 := by
    refine BitVec.eq_of_getLsbD_eq fun i hi => ?_
    rw [BitVec.getLsbD_and, BitVec.getLsbD_ushiftRight]
    by_cases h : 8 + i < 32
    · have hones : (0x00FFFFFF#32).getLsbD i = true := by
        have hall : ∀ i : Fin 24, (0x00FFFFFF#32).getLsbD i = true := by decide
        exact hall ⟨i, by omega⟩
      rw [hones, Bool.and_true]
    · rw [BitVec.getLsbD_of_ge crc (8 + i) (by omega), Bool.false_and]
  have hindex : (crc32Index crc byte).val = (crc.setWidth 8 ^^^ byte).toNat := by
    have hbyte := byte.isLt
    have hsmall : (byte.setWidth 32).toNat = byte.toNat := by
      rw [BitVec.toNat_setWidth, Nat.mod_eq_of_lt (by omega)]
    have hlow : (0xFF#32).toNat = 2 ^ 8 - 1 := rfl
    change ((crc ^^^ byte.setWidth 32) &&& 0xFF#32).toNat = _
    rw [BitVec.toNat_and, hlow, Nat.and_two_pow_sub_one_eq_mod, BitVec.toNat_xor,
      BitVec.toNat_xor, hsmall, BitVec.toNat_setWidth, Nat.xor_mod_two_pow, Nat.mod_eq_of_lt hbyte]
  rw [crc32Turn, hmask, Crc.byteStep, getElem_chksumCrc32Gentab _ _ hindex]

/-- **The table**: the checksum of a block is that of its bits, one after another. -/
theorem chksumCrc32_eq (block : List Byte) :
    chksumCrc32 block = Crc.run poly 0xFFFFFFFF (bitsOf block) ^^^ 0xFFFFFFFF := by
  have hturn : crc32Turn = Crc.byteStep poly := by
    funext crc byte
    exact crc32Turn_eq crc byte
  rw [chksumCrc32, hturn, Crc.run_bitsOf poly (by decide)]

/-- Two blocks of the same length that differ within 32 successive bits. -/
def Burst (block block' : List Byte) : Prop :=
  ∃ before mid mid' after, bitsOf block = before ++ mid ++ after ∧
    bitsOf block' = before ++ mid' ++ after ∧ mid.length = mid'.length ∧ mid.length ≤ 32 ∧
    mid ≠ mid'

theorem Burst.append {block block' : List Byte} (h : Burst block block') (xs ys : List Byte) :
    Burst (xs ++ (block ++ ys)) (xs ++ (block' ++ ys)) := by
  obtain ⟨before, mid, mid', after, hblock, hblock', hmid⟩ := h
  refine ⟨bitsOf xs ++ before, mid, mid', after ++ bitsOf ys, ?_, ?_, hmid⟩
  · rw [bitsOf_append, bitsOf_append, hblock]
    simp only [List.append_assoc]
  · rw [bitsOf_append, bitsOf_append, hblock']
    simp only [List.append_assoc]

/-- **Bursts**: blocks that differ within 32 successive bits have different checksums. -/
theorem chksumCrc32_ne_of_burst {block block' : List Byte} (h : Burst block block') :
    chksumCrc32 block ≠ chksumCrc32 block' := by
  obtain ⟨before, mid, mid', after, hblock, hblock', hlength, hshort, hne⟩ := h
  rw [chksumCrc32_eq, chksumCrc32_eq, hblock, hblock']
  intro heq
  exact Crc.run_ne_of_burst (by decide) _ hlength hshort hne ((BitVec.xor_left_inj _).mp heq)

/-! ### Headers and entries -/

/-- `GPT_SIGNATURE`. -/
def gptSignature : BitVec 64 := 0x5452415020494645#64

/-- `HEADER_SIZE`. -/
def headerSize : Nat := 92

/-- The only revision that is supported. -/
def gptRevision : BitVec 32 := 0x00010000#32

/-- `GPTHeader`. -/
structure Header where
  signature : BitVec 64
  revision : BitVec 32
  headerSize : BitVec 32
  headerCRC : BitVec 32
  reserved : BitVec 32
  currentLBA : BitVec 64
  backupLBA : BitVec 64
  firstUsableLBA : BitVec 64
  lastUsableLBA : BitVec 64
  diskGUID : Guid
  partitionEntriesLBA : BitVec 64
  numParts : BitVec 32
  sizeOfPartitionEntries : BitVec 32
  partitionEntriesCRC : BitVec 32
  reserved2 : Vector Byte 420
  deriving DecidableEq, Repr

/-- `GPTPart`; the default one is blank. -/
structure Part where
  partitionType : Guid := 0
  uniqueGUID : Guid := 0
  firstLBA : BitVec 64 := 0
  lastLBA : BitVec 64 := 0
  attributes : BitVec 64 := 0
  name : Vector (BitVec 16) 36 := Vector.replicate 36 0
  deriving DecidableEq, Repr

/-- Where the bytes of a GUID are on the disk: the first three numbers of it have their lowest byte
first, and the other bytes are as they are written. -/
def guidOrder : Equiv.Perm (Fin 16) where
  toFun i := (#v[12, 13, 14, 15, 10, 11, 8, 9, 7, 6, 5, 4, 3, 2, 1, 0] : Vector (Fin 16) 16)[i]
  invFun i := (#v[15, 14, 13, 12, 11, 10, 9, 8, 6, 7, 4, 5, 0, 1, 2, 3] : Vector (Fin 16) 16)[i]
  left_inv := by decide
  right_inv := by decide

/-- The bytes of a GUID. -/
def guidLayout : Layout Guid := (Layout.word 16).permute guidOrder

/-- The bytes of a header. -/
def headerLayout : Layout Header :=
  (Layout.u64.prod (Layout.u32.prod (Layout.u32.prod (Layout.u32.prod (Layout.u32.prod
    (Layout.u64.prod (Layout.u64.prod (Layout.u64.prod (Layout.u64.prod (guidLayout.prod
      (Layout.u64.prod (Layout.u32.prod (Layout.u32.prod (Layout.u32.prod
        (Layout.u8.array 420))))))))))))))).congr
    ⟨fun (signature, revision, headerSize, headerCRC, reserved, currentLBA, backupLBA,
        firstUsableLBA, lastUsableLBA, diskGUID, partitionEntriesLBA, numParts,
        sizeOfPartitionEntries, partitionEntriesCRC, reserved2) =>
      { signature, revision, headerSize, headerCRC, reserved, currentLBA, backupLBA,
        firstUsableLBA, lastUsableLBA, diskGUID, partitionEntriesLBA, numParts,
        sizeOfPartitionEntries, partitionEntriesCRC, reserved2 },
      fun h => (h.signature, h.revision, h.headerSize, h.headerCRC, h.reserved, h.currentLBA,
        h.backupLBA, h.firstUsableLBA, h.lastUsableLBA, h.diskGUID, h.partitionEntriesLBA,
        h.numParts, h.sizeOfPartitionEntries, h.partitionEntriesCRC, h.reserved2),
      fun _ => rfl, fun _ => rfl⟩

/-- The bytes of an entry. -/
def partLayout : Layout Part :=
  (guidLayout.prod (guidLayout.prod (Layout.u64.prod (Layout.u64.prod (Layout.u64.prod
    (Layout.u16.array 36)))))).congr
    ⟨fun (partitionType, uniqueGUID, firstLBA, lastLBA, attributes, name) =>
      { partitionType, uniqueGUID, firstLBA, lastLBA, attributes, name },
      fun p => (p.partitionType, p.uniqueGUID, p.firstLBA, p.lastLBA, p.attributes, p.name),
      fun _ => rfl, fun _ => rfl⟩

theorem size_partLayout : partLayout.size = 128 := rfl

example : guidLayout.encode Gpt.basicData =
    [0xA2, 0xA0, 0xD0, 0xEB, 0xE5, 0xB9, 0x33, 0x44, 0x87, 0xC0, 0x68, 0xB6, 0xB7, 0x26, 0x99,
      0xC7] := by
  decide

/-! ### Checksums of headers -/

/-- The first `n` bytes of a header whose own checksum is zero. There are zeros after a header that
is said to be longer than it is. -/
def headerBytes (n : Nat) (h : Header) : List Byte :=
  (headerLayout.encode { h with headerCRC := 0 }).take n ++ List.replicate (n - 512) 0

/-- The checksum of the first `n` bytes of a header. -/
def headerCrc (n : Nat) (h : Header) : BitVec 32 := chksumCrc32 (headerBytes n h)

/-- The number of bytes that `CheckHeaderCRC` looks at. -/
def checkedSize (blockSize : Nat) (h : Header) : Nat :=
  if blockSize < h.headerSize.toNat ∨ h.headerSize.toNat < headerSize then headerSize
  else h.headerSize.toNat

/-- `CheckHeaderCRC`. -/
def checkHeaderCRC (blockSize : Nat) (h : Header) : Bool :=
  h.headerCRC = headerCrc (checkedSize blockSize h) h

theorem checkHeaderCRC_iff (blockSize : Nat) (h : Header) :
    checkHeaderCRC blockSize h = true ↔ h.headerCRC = headerCrc (checkedSize blockSize h) h :=
  decide_eq_true_iff

/-- A header with the checksum that `RecomputeCRCs` computes. -/
def withCrc (n : Nat) (h : Header) : Header := { h with headerCRC := headerCrc n h }

/-- A checksum that was computed over the size that is looked at is right. -/
theorem checkHeaderCRC_withCrc (blockSize : Nat) (h : Header)
    (hle : headerSize ≤ h.headerSize.toNat) (hblock : h.headerSize.toNat ≤ blockSize) :
    checkHeaderCRC blockSize (withCrc h.headerSize.toNat h) = true := by
  have hsize : checkedSize blockSize (withCrc h.headerSize.toNat h) = h.headerSize.toNat :=
    if_neg fun hout => by
      rcases hout with hout | hout
      · exact Nat.not_lt.mpr hblock hout
      · exact Nat.not_lt.mpr hle hout
  rw [checkHeaderCRC_iff, hsize]
  rfl

/-- **Damaged headers**: `CheckHeaderCRC` finds a change within 32 successive bits of what it looks
at, and every change of the checksum alone. -/
theorem checkHeaderCRC_eq_false_of_burst {blockSize : Nat} {h h' : Header}
    (hok : checkHeaderCRC blockSize h = true) (hsize : h'.headerSize = h.headerSize)
    (hdamage : (h'.headerCRC = h.headerCRC ∧
        Burst (headerBytes (checkedSize blockSize h) h)
          (headerBytes (checkedSize blockSize h) h')) ∨
      ∃ crc ≠ h.headerCRC, h' = { h with headerCRC := crc }) :
    checkHeaderCRC blockSize h' = false := by
  have hsame : checkedSize blockSize h' = checkedSize blockSize h := by
    rw [checkedSize, checkedSize, hsize]
  rw [checkHeaderCRC_iff] at hok
  refine Bool.eq_false_of_not_eq_true fun hok' => ?_
  rw [checkHeaderCRC_iff, hsame] at hok'
  rcases hdamage with ⟨hcrc, hburst⟩ | ⟨crc, hne, rfl⟩
  · exact chksumCrc32_ne_of_burst hburst (hok.symm.trans (hcrc.symm.trans hok'))
  · exact hne (hok'.trans hok.symm)

/-- A header with nothing but its size. -/
def bareHeader : Header :=
  ⟨gptSignature, gptRevision, 92, 0, 0, 0, 0, 0, 0, 0, 0, 0, 0, 0, Vector.replicate 420 0⟩

theorem checkHeaderCRC_bareHeader :
    checkHeaderCRC 512
      { withCrc 92 bareHeader with headerCRC := (withCrc 92 bareHeader).headerCRC + 1 } =
        false := by
  have hne (crc : BitVec 32) : crc + 1 ≠ crc := by simp
  exact checkHeaderCRC_eq_false_of_burst
    (checkHeaderCRC_withCrc 512 bareHeader (by decide) (by decide)) rfl (.inr ⟨_, hne _, rfl⟩)

end UsbMaker.GptDisk
