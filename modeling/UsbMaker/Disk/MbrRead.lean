import Mathlib.Order.WellFounded
import Mathlib.Tactic.FinCases
import UsbMaker.Disk.Mbr
import UsbMaker.Run.While

/-!
# Reading the master boot record

`LoadPartitions` reads the master boot record of the disk before it is replaced, whatever the disk
has there. Where a partition of it is an extended one, `ReadLogicalParts` follows the list of
extended boot records. It keeps the sectors it has come to in an array, by the number of the
partition, to find out that the list goes round.

The records that a disk has, and the sectors that cannot be read, are arbitrary. A write before the
beginning of the array is `none`: what the program does then is not known. The loop has its turns as
an argument, since there are disks on which it does not end.

## Main definitions

* `Mbr.Chain`: the variables of `ReadLogicalParts`.
* `Mbr.turn`, `Mbr.readLogicalParts`, `Mbr.readMBRData`.
* `Mbr.Points`: the record of a turn begins with another record.

## Main results

* `Mbr.readMBRData_eq_none_iff`: when the program writes before the beginning of the array.
* `Mbr.endless_iff`: the loop does not end if and only if it comes to a turn from which on every
  record begins with another one.
* `Mbr.readLogicalParts_of_ring`: a list of records that goes round.
* `Mbr.readLogicalParts_of_listed`: a list of records without these is read to its end.
* `Mbr.readMBRData_storeBoot`: a record that was written is read.
-/

namespace UsbMaker.Mbr

/-- A sector with a boot record. -/
structure TempMBR where
  code : Vector Byte 440
  diskSignature : BitVec 32
  nulls : BitVec 16
  partitions : Vector MBRRecord 4
  signature : BitVec 16
  deriving DecidableEq, Repr

/-! ### The bytes of a record -/

/-- The bytes of a cylinder, a head and a sector. -/
def chsLayout : Layout Chs :=
  (Layout.u8.prod (Layout.u8.prod Layout.u8)).congr
    ⟨fun p => ⟨p.1, p.2.1, p.2.2⟩, fun c => (c.byte0, c.byte1, c.byte2), fun _ => rfl, fun _ => rfl⟩

/-- The bytes of the record of a partition. -/
def recordLayout : Layout MBRRecord :=
  (Layout.u8.prod (chsLayout.prod (Layout.u8.prod (chsLayout.prod
    (Layout.u32.prod Layout.u32))))).congr
    ⟨fun p => ⟨p.1, p.2.1, p.2.2.1, p.2.2.2.1, p.2.2.2.2.1, p.2.2.2.2.2⟩,
      fun r => (r.status, r.firstSector, r.partitionType, r.lastSector, r.firstLBA, r.lengthLBA),
      fun _ => rfl, fun _ => rfl⟩

/-- The bytes of a sector with a boot record. -/
def bootLayout : Layout TempMBR :=
  ((Layout.u8.array 440).prod (Layout.u32.prod (Layout.u16.prod
    ((recordLayout.array 4).prod Layout.u16)))).congr
    ⟨fun p => ⟨p.1, p.2.1, p.2.2.1, p.2.2.2.1, p.2.2.2.2⟩,
      fun r => (r.code, r.diskSignature, r.nulls, r.partitions, r.signature),
      fun _ => rfl, fun _ => rfl⟩

example : bootLayout.size = 512 := rfl

/-- The types of extended partitions. -/
def isExtended (partitionType : Byte) : Bool :=
  partitionType = 0x05 || partitionType = 0x0f || partitionType = 0x85

/-- The variables of `ReadLogicalParts`, and the partitions of the class. -/
structure Chain where
  offset : BitVec 64
  partNum : Int
  another : Bool
  allOK : Bool
  ebrLocations : Vector (BitVec 64) maxMbrParts
  partitions : Vector MBRPart maxMbrParts

/-- An element of an array is replaced; `none` outside of the array. -/
def store {α : Type} {n : Nat} (v : Vector α n) (i : Int) (a : α) : Option (Vector α n) :=
  if h : 0 ≤ i ∧ i.toNat < n then some (v.set i.toNat a h.2) else none

section Chain

variable (readEbr : BitVec 64 → Option TempMBR) (extendedStart : BitVec 64)

/-- What is done with a record that could be read. -/
def takeEbr (ebr : TempMBR) (c : Chain) : Chain :=
  let first := ebr.partitions[0]
  if isExtended first.partitionType then
    { c with offset := extendedStart + first.firstLBA.setWidth 64 }
  else
    let part := first.toPart.setStartLBA (first.firstLBA.setWidth 64 + c.offset)
    let c := { c with partitions :=
      (store c.partitions c.partNum { part with includeAs := .logical }).getD c.partitions }
    let next := ebr.partitions[1]
    if next.firstLBA ≠ 0 ∧ c.partNum < (maxMbrParts : Int) - 1 then
      { c with offset := extendedStart + next.firstLBA.setWidth 64, partNum := c.partNum + 1 }
    else { c with another := false }

/-- The record in the sector is read, and used if nothing is wrong. -/
def takeRecord (c : Chain) : Chain :=
  match readEbr c.offset with
  | none => { c with allOK := false }
  | some ebr =>
    let c := { c with allOK := c.allOK && ebr.signature = mbrSignature }
    if 0 ≤ c.partNum ∧ c.partNum < (maxMbrParts : Int) ∧ c.allOK = true then
      takeEbr extendedStart ebr c
    else c

/-- A turn of the loop. Every place of the array that has the sector makes the number of the
partition smaller by one. -/
def turn (c : Chain) : Option Chain :=
  let met := c.ebrLocations.count c.offset
  let partNum := c.partNum - met
  (store c.ebrLocations partNum c.offset).map fun ebrLocations =>
    takeRecord readEbr extendedStart
      { c with partNum := partNum, allOK := c.allOK && met = 0, ebrLocations := ebrLocations }

/-- The condition of the loop. -/
def Chain.goes (c : Chain) : Bool :=
  c.another && c.partNum < (maxMbrParts : Int) && 0 ≤ c.partNum && c.allOK

/-- The condition of the loop; after a write outside of the array it is not looked at. -/
def running : Option Chain → Bool
  | none => false
  | some c => c.goes

/-- The variables before the first turn. -/
def firstChain (partitions : Vector MBRPart maxMbrParts) (partNum : Int) : Chain where
  offset := extendedStart
  partNum := partNum
  another := true
  allOK := true
  ebrLocations := Vector.replicate maxMbrParts 0
  partitions := partitions

/-- The turns of the loop. -/
def turns (partitions : Vector MBRPart maxMbrParts) (partNum : Int) (n : Nat) : Option Chain :=
  (fun s => s.bind (turn readEbr extendedStart))^[n]
    (some (firstChain extendedStart partitions partNum))

/-- `ReadLogicalParts`: its result, and the partitions. -/
def readLogicalParts (fuel : Nat) (partitions : Vector MBRPart maxMbrParts) (partNum : Int) :
    Option (Option (Int × Vector MBRPart maxMbrParts)) :=
  (While.run (fun s => some (running s)) (fun s => s.bind (turn readEbr extendedStart)) fuel
    (some (firstChain extendedStart partitions partNum))).map fun s =>
      s.map fun c => (c.partNum * (if c.allOK then 1 else -1), c.partitions)

/-- The loop of `ReadMBRData` over the four partitions of the record: an extended one is replaced by
the logical partitions that it has. -/
def readExtended (fuel : Nat) : List (Fin 4) → Int → Vector MBRPart maxMbrParts →
    Option (Option (Vector MBRPart maxMbrParts))
  | [], _, partitions => some (some partitions)
  | i :: rest, logicalNum, partitions =>
    if isExtended partitions[i].partitionType then
      match readLogicalParts readEbr partitions[i].getStartLBA fuel partitions
          (logicalNum.natAbs + 1) with
      | none => none
      | some none => some none
      | some (some (logicalNum, partitions)) =>
        readExtended fuel rest logicalNum (partitions.set i {})
    else readExtended fuel rest logicalNum partitions

/-- The partitions of the class, from the record. -/
def ofBoot (boot : TempMBR) : Vector MBRPart maxMbrParts :=
  Vector.ofFn fun i => if h : i.val < 4 then boot.partitions[i.val].toPart else {}

/-- The state that the four partitions of the record say. -/
def stateOf (partitions : Vector MBRPart maxMbrParts) : Validity :=
  let types := (partitions.toList.take 4).map MBRPart.partitionType
  if types.all (fun partitionType => partitionType ≠ 0xEE) then .mbr
  else if types.all (fun partitionType => partitionType = 0xEE || partitionType = 0) then .gpt
  else .hybrid

/-- `ReadMBRData`: its result, and the data. The record is `none` when sector zero cannot be
read. -/
def readMBRData (fuel : Nat) (boot : Option TempMBR) (diskSize : BitVec 64) (mbr : Data) :
    Option (Option (Bool × Data)) :=
  let mbr := emptyMBR mbr false
  match boot with
  | none => some (some (true, mbr))
  | some boot =>
    let mbr := { mbr with
      code := boot.code
      diskSignature := boot.diskSignature
      nulls := boot.nulls
      partitions := ofBoot boot
      signature := boot.signature
      diskSize := diskSize
      geometrySize := diskSize }
    if boot.signature ≠ mbrSignature then some (some (false, { mbr with state := .invalid }))
    else (readExtended readEbr fuel [0, 1, 2, 3] 3 mbr.partitions).map fun s =>
      s.map fun partitions =>
        (true, { mbr with partitions := partitions, state := stateOf partitions })

/-- The record that `WriteMBRData` writes to sector zero when there are no logical partitions. -/
def storeBoot (mbr : Data) : TempMBR where
  code := mbr.code
  diskSignature := mbr.diskSignature
  nulls := mbr.nulls
  partitions := Vector.ofFn fun i => (mbr.partitions[i.val]).storeInStruct
  signature := mbr.signature

/-- A sector with two records, of the types and the first sectors given. -/
def smallBoot (type₀ : Byte) (first₀ : BitVec 32) (first₁ : BitVec 32) : TempMBR where
  code := Vector.replicate 440 0
  diskSignature := 0
  nulls := 0
  partitions := #v[⟨0, {}, type₀, {}, first₀, 8⟩, ⟨0, {}, 0x83, {}, first₁, 8⟩,
    ⟨0, {}, 0, {}, 0, 0⟩, ⟨0, {}, 0, {}, 0, 0⟩]
  signature := mbrSignature

/-! ### The turns -/

theorem store_of_lt {α : Type} {n : Nat} (v : Vector α n) (i : Nat) (a : α) (h : i < n) :
    store v i a = some (v.set i a) := by
  have hin : (0 : Int) ≤ i ∧ (i : Int).toNat < n := ⟨Int.natCast_nonneg i, by simpa using h⟩
  rw [store, dif_pos hin]
  rfl

theorem store_of_neg {α : Type} {n : Nat} (v : Vector α n) (i : Int) (a : α) (h : i < 0) :
    store v i a = none := dif_neg fun hin => by omega

theorem goes_iff (c : Chain) :
    c.goes = true ↔
      c.another = true ∧ c.partNum < (maxMbrParts : Int) ∧ 0 ≤ c.partNum ∧ c.allOK = true := by
  simp [Chain.goes, and_assoc]

/-- A sector that was not met before. -/
theorem turn_of_count_zero {c : Chain} (hgoes : c.goes = true)
    (hmet : c.ebrLocations.count c.offset = 0) :
    ∃ (k : Nat) (hk : k < maxMbrParts), c.partNum = k ∧
      turn readEbr extendedStart c = some (takeRecord readEbr extendedStart
        { c with ebrLocations := c.ebrLocations.set k c.offset hk }) := by
  obtain ⟨-, hlt, hge, hok⟩ := (goes_iff c).mp hgoes
  obtain ⟨k, hk⟩ := Int.eq_ofNat_of_zero_le hge
  have hk128 : k < maxMbrParts := by omega
  have hsame : c.partNum - (0 : Nat) = c.partNum := Int.sub_zero _
  refine ⟨k, hk128, hk, ?_⟩
  rw [turn, hmet, hsame, hok, hk, store_of_lt _ k _ hk128]
  rfl

/-- A sector that was met before ends the loop, unless the array is left. -/
theorem turn_of_count_pos {c : Chain} (hmet : c.ebrLocations.count c.offset ≠ 0) :
    turn readEbr extendedStart c = none ∨
      ∃ c', turn readEbr extendedStart c = some c' ∧ c'.allOK = false := by
  rw [turn]
  cases store c.ebrLocations (c.partNum - c.ebrLocations.count c.offset) c.offset with
  | none => exact .inl rfl
  | some ebrLocations =>
    refine .inr ⟨_, rfl, ?_⟩
    simp only [takeRecord]
    cases readEbr c.offset with
    | none => rfl
    | some ebr => simp [hmet]

/-- A record with the signature, in a sector that was not met before. -/
theorem turn_of_read {c : Chain} {ebr : TempMBR} (hgoes : c.goes = true)
    (hmet : c.ebrLocations.count c.offset = 0) (hread : readEbr c.offset = some ebr)
    (hsignature : ebr.signature = mbrSignature) :
    ∃ (k : Nat) (hk : k < maxMbrParts), c.partNum = k ∧
      turn readEbr extendedStart c = some (takeEbr extendedStart ebr
        { c with ebrLocations := c.ebrLocations.set k c.offset hk }) := by
  obtain ⟨k, hk, hnum, hturn⟩ := turn_of_count_zero readEbr extendedStart hgoes hmet
  obtain ⟨-, hlt, hge, hok⟩ := (goes_iff c).mp hgoes
  refine ⟨k, hk, hnum, hturn.trans (congrArg some ?_)⟩
  simp only [takeRecord, hread, hok, hsignature, decide_true, Bool.and_true]
  rw [if_pos ⟨hge, hlt, trivial⟩]

/-- The record of the turn begins with another record, and the sector was not met before. -/
def Points (c : Chain) : Prop :=
  c.ebrLocations.count c.offset = 0 ∧ ∃ ebr, readEbr c.offset = some ebr ∧
    ebr.signature = mbrSignature ∧ isExtended ebr.partitions[0].partitionType = true

theorem points_iff (c : Chain) (ebr : TempMBR) (hread : readEbr c.offset = some ebr) :
    Points readEbr c ↔ c.ebrLocations.count c.offset = 0 ∧ ebr.signature = mbrSignature ∧
      isExtended ebr.partitions[0].partitionType = true := by
  rw [Points, hread]
  simp

/-- How a turn goes on. -/
theorem turn_cases {c c' : Chain} (hgoes : c.goes = true)
    (h : turn readEbr extendedStart c = some c') :
    (Points readEbr c ∧ c'.partNum = c.partNum ∧ c'.goes = true) ∨
      (¬ Points readEbr c ∧ (c'.goes = false ∨ c'.partNum = c.partNum + 1)) := by
  obtain ⟨hanother, hlt, hge, hok⟩ := (goes_iff c).mp hgoes
  by_cases hmet : c.ebrLocations.count c.offset = 0
  · obtain ⟨k, hk, -, hturn⟩ := turn_of_count_zero readEbr extendedStart hgoes hmet
    obtain rfl := Option.some_injective _ (hturn.symm.trans h)
    rw [takeRecord]
    cases hread : readEbr c.offset with
    | none =>
      refine .inr ⟨fun hpoints => ?_, .inl (by simp [Chain.goes])⟩
      obtain ⟨-, ebr, hebr, -⟩ := hpoints
      rw [hread] at hebr
      cases hebr
    | some ebr =>
      rw [points_iff readEbr c ebr hread]
      by_cases hsignature : ebr.signature = mbrSignature
      · have hin : 0 ≤ c.partNum ∧ c.partNum < (maxMbrParts : Int) ∧
            (c.allOK && decide (ebr.signature = mbrSignature)) = true :=
          ⟨hge, hlt, by rw [hok, decide_eq_true hsignature]; rfl⟩
        simp only [if_pos hin, takeEbr]
        by_cases hextended : isExtended ebr.partitions[0].partitionType = true
        · rw [if_pos hextended]
          exact .inl ⟨⟨hmet, hsignature, hextended⟩, rfl,
            (goes_iff _).mpr ⟨hanother, hlt, hge, hin.2.2⟩⟩
        · rw [if_neg hextended]
          refine .inr ⟨fun hpoints => hextended hpoints.2.2, ?_⟩
          split_ifs
          · exact .inr rfl
          · exact .inl (by simp [Chain.goes])
      · have hbad : (c.allOK && decide (ebr.signature = mbrSignature)) = false := by
          rw [decide_eq_false hsignature, Bool.and_false]
        refine .inr ⟨fun hpoints => hsignature hpoints.2.1, .inl ?_⟩
        simp [hbad, Chain.goes]
  · refine .inr ⟨fun hpoints => hmet hpoints.1, .inl ?_⟩
    rcases turn_of_count_pos readEbr extendedStart hmet with hnone | ⟨c'', hturn, hfalse⟩
    · rw [hnone] at h
      cases h
    · obtain rfl := Option.some_injective _ (hturn.symm.trans h)
      simp [Chain.goes, hfalse]

theorem turns_succ (partitions : Vector MBRPart maxMbrParts) (partNum : Int) (n : Nat) :
    turns readEbr extendedStart partitions partNum (n + 1) =
      (turns readEbr extendedStart partitions partNum n).bind (turn readEbr extendedStart) :=
  Function.iterate_succ_apply' _ _ _

/-! ### The array of sectors -/

/-- No sector but zero is in two places, and the loop has not come to sector zero. -/
structure Sound (first : Nat) (c : Chain) : Prop where
  partNum_ge : (first : Int) ≤ c.partNum
  partNum_lt : c.partNum < (maxMbrParts : Int)
  offset_ne : c.offset ≠ 0
  count_le : ∀ o ≠ (0 : BitVec 64), c.ebrLocations.count o ≤ 1

section Sound

variable {extendedStart} (hlow : extendedStart.toNat < 2 ^ 32) (hne : extendedStart ≠ 0)

include hlow hne

/-- Where a record points to is not sector zero. -/
theorem extendedStart_add_ne (lba : BitVec 32) : extendedStart + lba.setWidth 64 ≠ 0 := by
  intro h
  have hnat := congrArg BitVec.toNat h
  have hlba := lba.isLt
  have hzero : (0 : BitVec 64).toNat = 0 := rfl
  rw [BitVec.toNat_add, BitVec.toNat_setWidth, hzero] at hnat
  exact hne (BitVec.eq_of_toNat_eq (by omega))

theorem sound_takeEbr {first : Nat} {c : Chain} (ebr : TempMBR) (hsound : Sound first c) :
    Sound first (takeEbr extendedStart ebr c) := by
  obtain ⟨hge, hlt, hoffset, hcount⟩ := hsound
  by_cases hextended : isExtended ebr.partitions[0].partitionType = true
  · simp only [takeEbr, if_pos hextended]
    exact ⟨hge, hlt, extendedStart_add_ne hlow hne _, hcount⟩
  · by_cases hnext : ebr.partitions[1].firstLBA ≠ 0 ∧ c.partNum < (maxMbrParts : Int) - 1
    · simp only [takeEbr, if_neg hextended, if_pos hnext]
      have hge' : (first : Int) ≤ c.partNum + 1 := by omega
      have hlt' : c.partNum + 1 < (maxMbrParts : Int) := by omega
      exact ⟨hge', hlt', extendedStart_add_ne hlow hne _, hcount⟩
    · simp only [takeEbr, if_neg hextended, if_neg hnext]
      exact ⟨hge, hlt, hoffset, hcount⟩

theorem sound_takeRecord {first : Nat} {c : Chain} (hsound : Sound first c) :
    Sound first (takeRecord readEbr extendedStart c) := by
  have hfield (allOK : Bool) : Sound first { c with allOK := allOK } :=
    ⟨hsound.partNum_ge, hsound.partNum_lt, hsound.offset_ne, hsound.count_le⟩
  rw [takeRecord]
  cases readEbr c.offset with
  | none => exact hfield false
  | some ebr =>
    dsimp only
    split_ifs
    · exact sound_takeEbr hlow hne ebr (hfield _)
    · exact hfield _

/-- A turn stays in the array. -/
theorem sound_turn {first : Nat} (hfirst : 0 < first) {c : Chain} (hsound : Sound first c)
    (hgoes : c.goes = true) :
    ∃ c', turn readEbr extendedStart c = some c' ∧ (c'.allOK = true → Sound first c') := by
  obtain ⟨hge, hlt, hoffset, hcount⟩ := hsound
  by_cases hmet : c.ebrLocations.count c.offset = 0
  · obtain ⟨k, hk, -, hturn⟩ := turn_of_count_zero readEbr extendedStart hgoes hmet
    refine ⟨_, hturn, fun _ => sound_takeRecord readEbr hlow hne ⟨hge, hlt, hoffset, ?_⟩⟩
    intro o ho
    have hle := hcount o ho
    rw [Vector.count_set]
    by_cases hsame : c.offset = o
    · rw [← hsame, hmet, beq_self_eq_true, Nat.zero_sub]
      exact Nat.le_refl 1
    · rw [beq_false_of_ne hsame, if_neg Bool.false_ne_true]
      omega
  · have hone : c.ebrLocations.count c.offset = 1 := by
      have hle := hcount _ hoffset
      omega
    rcases turn_of_count_pos readEbr extendedStart hmet with hnone | ⟨c', hturn, hfalse⟩
    · have hin : 0 ≤ c.partNum - ((1 : Nat) : Int) ∧
          (c.partNum - ((1 : Nat) : Int)).toNat < maxMbrParts := by omega
      rw [turn, hone, store, dif_pos hin] at hnone
      cases hnone
    · exact ⟨c', hturn, fun htrue => absurd (hfalse.symm.trans htrue) Bool.false_ne_true⟩

end Sound

/-! ### The end of the loop -/

theorem running_iff (s : Option Chain) : running s = true ↔ ∃ c, s = some c ∧ c.goes = true := by
  cases s with
  | none => simp [running]
  | some c => simp [running]

section Endless

variable (partitions : Vector MBRPart maxMbrParts) (partNum : Int)

/-- The loop does not end if and only if its condition is true every time. -/
theorem readLogicalParts_eq_none_forall_iff :
    (∀ fuel, readLogicalParts readEbr extendedStart fuel partitions partNum = none) ↔
      ∀ n, running (turns readEbr extendedStart partitions partNum n) = true := by
  constructor
  · intro h
    by_contra hstops
    rw [not_forall] at hstops
    -- the first turn before which the condition is false
    have hmin := Nat.find_spec hstops
    have hgoes : ∀ j < Nat.find hstops,
        some (running (turns readEbr extendedStart partitions partNum j)) = some true :=
      fun j hj => congrArg some (Decidable.not_not.mp (Nat.find_min hstops hj))
    have hend : While.run (fun s => some (running s))
        (fun s => s.bind (turn readEbr extendedStart)) (Nat.find hstops + 1)
        (some (firstChain extendedStart partitions partNum)) =
          some (turns readEbr extendedStart partitions partNum (Nat.find hstops)) :=
      While.run_eq_of_first hgoes (congrArg some (Bool.eq_false_of_not_eq_true hmin))
        (Nat.lt_succ_self _)
    have hnone := h (Nat.find hstops + 1)
    rw [readLogicalParts, hend] at hnone
    cases hnone
  · intro h fuel
    have hgoes : ∀ j < fuel, (fun s => some (running s))
        (turns readEbr extendedStart partitions partNum j) = some true :=
      fun j _ => congrArg some (h j)
    rw [readLogicalParts, While.run_eq_none_of_true hgoes]
    rfl

/-- **Endless lists**: the loop does not end if and only if it comes to a turn from which on every
record begins with another record. -/
theorem endless_iff :
    (∀ fuel, readLogicalParts readEbr extendedStart fuel partitions partNum = none) ↔
      ∃ n, (∀ m ≤ n, running (turns readEbr extendedStart partitions partNum m) = true) ∧
        ∀ m ≥ n, ∀ c, turns readEbr extendedStart partitions partNum m = some c →
          Points readEbr c := by
  rw [readLogicalParts_eq_none_forall_iff]
  constructor
  · intro h
    choose c hc hgoes using fun n => (running_iff _).mp (h n)
    have hturn (n : Nat) : turn readEbr extendedStart (c n) = some (c (n + 1)) := by
      have hsucc := hc (n + 1)
      rwa [turns_succ, hc n] at hsucc
    -- the number of the partition grows in every turn that is not of this kind
    have hcases (n : Nat) := turn_cases readEbr extendedStart (hgoes n) (hturn n)
    have hstep (n : Nat) : (c n).partNum ≤ (c (n + 1)).partNum := by
      rcases hcases n with ⟨-, hsame, -⟩ | ⟨-, hend | hmore⟩
      · exact Int.le_of_eq hsame.symm
      · exact absurd (hend.symm.trans (hgoes (n + 1))) Bool.false_ne_true
      · omega
    have hmono : Monotone fun n => (c n).partNum := monotone_nat_of_le_succ hstep
    let room : Nat → Nat := fun n => ((maxMbrParts : Int) - (c n).partNum).toNat
    refine ⟨Function.argmin room, fun m _ => h m, fun m hm c' hc' => ?_⟩
    obtain rfl := Option.some.inj ((hc m).symm.trans hc')
    rcases hcases m with ⟨hpoints, -, -⟩ | ⟨-, hend | hmore⟩
    · exact hpoints
    · exact absurd (hend.symm.trans (hgoes (m + 1))) Bool.false_ne_true
    · have hleast : room (Function.argmin room) ≤ room (m + 1) := Function.argmin_le room (m + 1)
      have hle := hmono hm
      have hlt := ((goes_iff _).mp (hgoes m)).2.1
      simp only [room] at hleast hle
      omega
  · rintro ⟨n, hbefore, hpoints⟩ m
    rcases Nat.le_total m n with hle | hge
    · exact hbefore m hle
    · induction m, hge using Nat.le_induction with
      | base => exact hbefore n le_rfl
      | succ m hge ih =>
        -- a record that begins with another one is followed to it
        obtain ⟨c, hc, hgoes⟩ := (running_iff _).mp ih
        obtain ⟨_, _, -, hturn⟩ :=
          turn_of_count_zero readEbr extendedStart hgoes (hpoints m hge c hc).1
        rcases turn_cases readEbr extendedStart hgoes hturn with ⟨-, -, hgoes'⟩ | ⟨hnot, -⟩
        · rw [turns_succ, hc, Option.bind_some, hturn]
          exact hgoes'
        · exact absurd (hpoints m hge c hc) hnot

/-- **Rings**: the loop does not end on a disk that has a set of records with the extended partition
among them, each of which begins with another one of the set. -/
theorem readLogicalParts_of_ring (S : Set (BitVec 64)) (hzero : (0 : BitVec 64) ∉ S)
    (hstart : extendedStart ∈ S)
    (hring : ∀ o ∈ S, ∃ ebr, readEbr o = some ebr ∧ ebr.signature = mbrSignature ∧
      isExtended ebr.partitions[0].partitionType = true ∧
      extendedStart + ebr.partitions[0].firstLBA.setWidth 64 ∈ S ∧
      extendedStart + ebr.partitions[0].firstLBA.setWidth 64 ≠ o)
    (hge : 0 ≤ partNum) (hlt : partNum < (maxMbrParts : Int)) (fuel : Nat) :
    readLogicalParts readEbr extendedStart fuel partitions partNum = none := by
  obtain ⟨k, rfl⟩ := Int.eq_ofNat_of_zero_le hge
  have hk : k < maxMbrParts := Int.ofNat_lt.mp hlt
  -- only the place of the partition has a sector, and this is the one before
  have hall (n : Nat) : ∃ c last, turns readEbr extendedStart partitions k n = some c ∧
      c.goes = true ∧ c.partNum = k ∧ c.offset ∈ S ∧ last ≠ c.offset ∧
      c.ebrLocations = (Vector.replicate maxMbrParts 0).set k last hk := by
    induction n with
    | zero =>
      refine ⟨firstChain extendedStart partitions k, 0, rfl, ?_, rfl, hstart, ?_, ?_⟩
      · exact (goes_iff _).mpr ⟨rfl, hlt, hge, rfl⟩
      · rintro rfl
        exact hzero hstart
      · exact Vector.ext fun i hi => by simp [firstChain]
    | succ n ih =>
      obtain ⟨c, last, hc, hgoes, hnum, hoffset, hlast, hlocations⟩ := ih
      obtain ⟨ebr, hread, hsignature, hextended, hin, hnext⟩ := hring c.offset hoffset
      have hne : (0 : BitVec 64) ≠ c.offset := fun h => hzero (h ▸ hoffset)
      have hmet : c.ebrLocations.count c.offset = 0 := by
        rw [hlocations, Vector.count_set, Vector.count_replicate, beq_false_of_ne hne,
          beq_false_of_ne hlast]
        simp
      obtain ⟨k', hk', hkk, hturn⟩ :=
        turn_of_read readEbr extendedStart hgoes hmet hread hsignature
      obtain rfl : k = k' := Int.ofNat.inj (hnum.symm.trans hkk)
      rw [takeEbr, if_pos hextended] at hturn
      have hturns := turns_succ readEbr extendedStart partitions k n
      rw [hc, Option.bind_some, hturn] at hturns
      refine ⟨_, c.offset, hturns, hgoes, hnum, hin, hnext.symm, ?_⟩
      simp only [hlocations, Vector.set_set]
  exact (readLogicalParts_eq_none_forall_iff readEbr extendedStart partitions k).mpr
    (fun n => by
      obtain ⟨c, last, hc, hgoes, -⟩ := hall n
      exact (running_iff _).mpr ⟨c, hc, hgoes⟩) fuel

end Endless

omit readEbr extendedStart in
theorem readLogicalParts_smallRing :
    readLogicalParts (fun o => some (smallBoot 5 (if o = 8 then 8 else 0) 0)) 8 1000
      (Vector.replicate maxMbrParts {}) 4 = none := by
  refine readLogicalParts_of_ring _ 8 _ 4 {8, 16} (by simp) (by simp) ?_ (by decide) (by decide) _
  rintro o (rfl | rfl)
  · exact ⟨_, rfl, rfl, rfl, by decide, by decide⟩
  · exact ⟨_, rfl, rfl, rfl, by decide, by decide⟩

/-! ### The four partitions of the record -/

/-- A record that could be read changes the number of the partition and the partitions only from
the partition on. -/
theorem takeEbr_frame (ebr : TempMBR) (c : Chain) :
    c.partNum ≤ (takeEbr extendedStart ebr c).partNum ∧
      ∀ (i : Nat) (hi : i < maxMbrParts), (i : Int) < c.partNum →
        (takeEbr extendedStart ebr c).partitions[i] = c.partitions[i] := by
  have hstore (part : MBRPart) (i : Nat) (hi : i < maxMbrParts) (hlt : (i : Int) < c.partNum) :
      ((store c.partitions c.partNum part).getD c.partitions)[i] = c.partitions[i] := by
    rw [store]
    split_ifs with hin
    · have hne : c.partNum.toNat ≠ i := by omega
      exact Vector.getElem_set_ne hin.2 hi hne
    · rfl
  by_cases hextended : isExtended ebr.partitions[0].partitionType = true
  · rw [takeEbr, if_pos hextended]
    exact ⟨Int.le_refl _, fun _ _ _ => rfl⟩
  · by_cases hnext : ebr.partitions[1].firstLBA ≠ 0 ∧ c.partNum < (maxMbrParts : Int) - 1
    · simp only [takeEbr, if_neg hextended, if_pos hnext]
      exact ⟨by omega, hstore _⟩
    · simp only [takeEbr, if_neg hextended, if_neg hnext]
      exact ⟨Int.le_refl _, hstore _⟩

theorem takeRecord_frame (c : Chain) :
    c.partNum ≤ (takeRecord readEbr extendedStart c).partNum ∧
      ∀ (i : Nat) (hi : i < maxMbrParts), (i : Int) < c.partNum ∨ c.allOK = false →
        (takeRecord readEbr extendedStart c).partitions[i] = c.partitions[i] := by
  rw [takeRecord]
  cases readEbr c.offset with
  | none => exact ⟨Int.le_refl _, fun _ _ _ => rfl⟩
  | some ebr =>
    dsimp only
    split_ifs with hin
    · obtain ⟨hnum, hparts⟩ := takeEbr_frame extendedStart ebr
        { c with allOK := c.allOK && decide (ebr.signature = mbrSignature) }
      refine ⟨hnum, fun i hi h => hparts i hi ?_⟩
      rcases h with hlt | hbad
      · exact hlt
      · simp [hbad] at hin
    · exact ⟨Int.le_refl _, fun _ _ _ => rfl⟩

/-- What the loop leaves as it was: the partitions before the first one that it may set. -/
structure Kept (first : Nat) (partitions : Vector MBRPart maxMbrParts) (c : Chain) : Prop where
  partNum_ge : (first : Int) - 1 ≤ c.partNum
  getElem_eq : ∀ (i : Nat) (hi : i < maxMbrParts), i < first → c.partitions[i] = partitions[i]

theorem kept_turn {first : Nat} {partitions : Vector MBRPart maxMbrParts} {c c' : Chain}
    (hsound : Sound first c) (hkept : Kept first partitions c)
    (hturn : turn readEbr extendedStart c = some c') : Kept first partitions c' := by
  rw [turn, Option.map_eq_some_iff] at hturn
  obtain ⟨ebrLocations, -, rfl⟩ := hturn
  have hge := hsound.partNum_ge
  have hle := hsound.count_le _ hsound.offset_ne
  obtain ⟨hnum, hparts⟩ := takeRecord_frame readEbr extendedStart
    { c with
      partNum := c.partNum - c.ebrLocations.count c.offset
      allOK := c.allOK && decide (c.ebrLocations.count c.offset = 0)
      ebrLocations := ebrLocations }
  refine ⟨?_, fun i hi hlt => (hparts i hi ?_).trans (hkept.getElem_eq i hi hlt)⟩
  · simp only at hnum
    omega
  · by_cases hmet : c.ebrLocations.count c.offset = 0
    · left
      simp only [hmet]
      omega
    · right
      rw [decide_eq_false hmet, Bool.and_false]

/-- The loop has not left the array of sectors, which is sound as long as the loop goes on, and has
kept the partitions before the first one. -/
def Within (first : Nat) (partitions : Vector MBRPart maxMbrParts) (s : Option Chain) : Prop :=
  ∃ c, s = some c ∧ Kept first partitions c ∧ (c.goes = true → Sound first c)

section Kept

variable {extendedStart} (hlow : extendedStart.toNat < 2 ^ 32) (hne : extendedStart ≠ 0)
  {partitions : Vector MBRPart maxMbrParts} {first : Nat}

include hne in
omit readEbr in
theorem within_firstChain :
    Within first partitions (some (firstChain extendedStart partitions first)) := by
  refine ⟨_, rfl, ⟨by simp only [firstChain]; omega, fun _ _ _ => rfl⟩, fun hgoes => ?_⟩
  refine ⟨Int.le_refl _, ((goes_iff _).mp hgoes).2.1, hne, fun o ho => ?_⟩
  rw [firstChain, Vector.count_replicate, beq_false_of_ne ho.symm]
  exact Nat.zero_le 1

include hlow hne

/-- A turn stays within the array. -/
theorem within_turn (hpos : 0 < first) {s : Option Chain} (hs : Within first partitions s)
    (hgoes : running s = true) :
    Within first partitions (s.bind (turn readEbr extendedStart)) := by
  obtain ⟨c, rfl, hkept, hsound⟩ := hs
  obtain ⟨c', hturn, hsound'⟩ := sound_turn readEbr hlow hne hpos (hsound hgoes) hgoes
  exact ⟨c', hturn, kept_turn readEbr extendedStart (hsound hgoes) hkept hturn,
    fun hgoes' => hsound' ((goes_iff c').mp hgoes').2.2.2⟩

/-- An extended partition that begins later than sector zero. -/
theorem readLogicalParts_kept (partitions : Vector MBRPart maxMbrParts) {first : Nat}
    (hpos : 0 < first) (fuel : Nat) {s : Option (Int × Vector MBRPart maxMbrParts)}
    (h : readLogicalParts readEbr extendedStart fuel partitions first = some s) :
    ∃ num partitions', s = some (num, partitions') ∧ first ≤ num.natAbs + 1 ∧
      ∀ (i : Nat) (hi : i < maxMbrParts), i < first → partitions'[i] = partitions[i] := by
  rw [readLogicalParts, Option.map_eq_some_iff] at h
  obtain ⟨s, hrun, rfl⟩ := h
  obtain ⟨⟨c, rfl, hkept, -⟩, -⟩ := While.run_invariant
    (fun _ hs hgoes => within_turn readEbr hlow hne hpos hs (Option.some.inj hgoes))
    (within_firstChain hne) hrun
  have hnum := hkept.partNum_ge
  refine ⟨_, _, rfl, ?_, hkept.getElem_eq⟩
  split_ifs <;> omega

end Kept

/-- **The array**: the loop writes outside of it if and only if the extended partition begins at
sector zero, whatever the records are. -/
theorem readLogicalParts_eq_none_iff (partitions : Vector MBRPart maxMbrParts) {first : Nat}
    (hpos : 0 < first) (hlt : first < maxMbrParts) (hlow : extendedStart.toNat < 2 ^ 32) :
    (∃ fuel, readLogicalParts readEbr extendedStart fuel partitions first = some none) ↔
      extendedStart = 0 := by
  constructor
  · rintro ⟨fuel, h⟩
    by_contra hne
    obtain ⟨_, _, hsome, -⟩ := readLogicalParts_kept readEbr hlow hne partitions hpos fuel h
    exact Option.some_ne_none _ hsome.symm
  · rintro rfl
    refine ⟨2, ?_⟩
    have hgoes : (firstChain 0 partitions first).goes = true := by
      exact (goes_iff _).mpr ⟨rfl, Int.ofNat_lt.mpr hlt, Int.natCast_nonneg first, rfl⟩
    -- every place of the array has sector zero
    have hcount : (firstChain 0 partitions first).ebrLocations.count 0 = maxMbrParts :=
      Vector.count_replicate_self
    have hturn : turn readEbr 0 (firstChain 0 partitions first) = none := by
      have hneg : ((first : Int) - (maxMbrParts : Nat)) < 0 := by omega
      rw [turn, show (firstChain 0 partitions (first : Int)).offset = 0 from rfl, hcount,
        show (firstChain 0 partitions (first : Int)).partNum = first from rfl,
        store_of_neg _ _ _ hneg]
      rfl
    have hrunning : running (some (firstChain 0 partitions (first : Int))) = true := hgoes
    rw [readLogicalParts, While.run_some_of_true hrunning, Option.bind_some, hturn]
    rfl

/-- What the loop over the four partitions needs of each of those that are left. -/
theorem readExtended_ne_none {rest : List (Fin 4)} (hnodup : rest.Nodup) {logicalNum : Int}
    (hnum : 3 ≤ logicalNum.natAbs) {partitions : Vector MBRPart maxMbrParts}
    (hstart : ∀ i ∈ rest, isExtended partitions[i].partitionType = true →
      partitions[i].firstLBA ≠ 0) (fuel : Nat) :
    readExtended readEbr fuel rest logicalNum partitions ≠ some none := by
  induction rest generalizing logicalNum partitions with
  | nil => exact fun h => Option.some_ne_none _ (Option.some_injective _ h)
  | cons i rest ih =>
    rw [List.nodup_cons] at hnodup
    rw [List.forall_mem_cons] at hstart
    rw [readExtended]
    split_ifs with hextended
    · have hne : partitions[i].getStartLBA ≠ 0 := by
        intro h
        have hnat := congrArg BitVec.toNat h
        have hlt := partitions[i].firstLBA.isLt
        rw [MBRPart.getStartLBA, BitVec.toNat_setWidth,
          Nat.mod_eq_of_lt (hlt.trans (by decide))] at hnat
        exact hstart.1 hextended (BitVec.eq_of_toNat_eq hnat)
      have hlow : partitions[i].getStartLBA.toNat < 2 ^ 32 := by
        rw [MBRPart.getStartLBA, BitVec.toNat_setWidth]
        exact (Nat.mod_le _ _).trans_lt partitions[i].firstLBA.isLt
      cases hread : readLogicalParts readEbr partitions[i].getStartLBA fuel partitions
          (logicalNum.natAbs + 1) with
      | none => exact fun h => Option.some_ne_none _ h.symm
      | some s =>
        obtain ⟨num, partitions', rfl, hge, hsame⟩ :=
          readLogicalParts_kept readEbr hlow hne partitions (Nat.succ_pos _) fuel hread
        refine ih hnodup.2 (by omega) fun j hj hextended' => ?_
        have hij : i.val ≠ j.val := fun h => hnodup.1 (Fin.ext h ▸ hj)
        have hset : (partitions'.set i {})[j] = partitions[j] := by
          refine (Vector.getElem_set_ne _ _ hij).trans (hsame j _ ?_)
          omega
        rw [hset] at hextended' ⊢
        exact hstart.2 j hj hextended'
    · exact ih hnodup.2 hnum hstart.2

theorem readExtended_of_not {rest : List (Fin 4)} {partitions : Vector MBRPart maxMbrParts}
    (hnone : ∀ i ∈ rest, isExtended partitions[i].partitionType = false) (fuel : Nat)
    (logicalNum : Int) :
    readExtended readEbr fuel rest logicalNum partitions = some (some partitions) := by
  induction rest with
  | nil => rfl
  | cons i rest ih =>
    rw [List.forall_mem_cons] at hnone
    rw [readExtended, hnone.1, if_neg Bool.false_ne_true, ih hnone.2]

/-- **The protective MBR**: its sector is read back as it was made. -/
theorem readMBRData_storeBoot (mbr mbr' : Data) (clearBoot : Bool) (fuel : Nat)
    (hlength : 1 < mbr.diskSize.toNat) :
    readMBRData readEbr fuel
        (some (bootLayout.decode (bootLayout.encode (storeBoot (makeProtectiveMBR mbr clearBoot)))))
        mbr.diskSize mbr' =
      some (some (true,
        { makeProtectiveMBR mbr clearBoot with geometrySize := mbr.diskSize })) := by
  have hpart : (protectivePart mbr).storeInStruct.toPart = protectivePart mbr := by
    have hlong : 0 < (protectivePart mbr).lengthLBA := by
      rw [BitVec.lt_def, toNat_lengthLBA_protectivePart]
      change 0 < _
      split_ifs <;> omega
    rw [MBRRecord.toPart, MBRPart.storeInStruct]
    simp only [if_pos hlong]
    rw [show Use.primary = (protectivePart mbr).includeAs by rw [protectivePart_eq]]
  have hparts : ofBoot (storeBoot (makeProtectiveMBR mbr clearBoot)) =
      (makeProtectiveMBR mbr clearBoot).partitions := by
    rw [makeProtectiveMBR_eq]
    refine Vector.ext fun i hi => ?_
    rw [ofBoot, Vector.getElem_ofFn]
    by_cases hlt : i < 4
    · rw [dif_pos hlt, storeBoot, Vector.getElem_ofFn]
      by_cases hzero : 0 = i
      · subst hzero
        exact hpart
      · simp only [Vector.getElem_set_ne _ _ hzero, Vector.getElem_replicate]
        rfl
    · have hzero : 0 ≠ i := by omega
      rw [dif_neg hlt, Vector.getElem_set_ne _ _ hzero, Vector.getElem_replicate]
  have htypes (i : Fin 4) :
      isExtended (makeProtectiveMBR mbr clearBoot).partitions[i].partitionType = false := by
    rw [makeProtectiveMBR_eq, protectivePart_eq]
    fin_cases i <;> rfl
  have hstate : stateOf (makeProtectiveMBR mbr clearBoot).partitions = .gpt := by
    rw [stateOf, toList_makeProtectiveMBR, protectivePart_eq]
    rfl
  rw [Layout.decode_encode, readMBRData]
  dsimp only
  rw [hparts, readExtended_of_not readEbr fun i _ => htypes i, Option.map_some, Option.map_some,
    hstate, if_neg (by rw [storeBoot, makeProtectiveMBR_eq]; exact fun h => h rfl)]
  rw [storeBoot, makeProtectiveMBR_eq]

omit readEbr extendedStart in
theorem readMBRData_storeBoot_small :
    readMBRData (fun _ => none) 1
        (some (bootLayout.decode (bootLayout.encode
          (storeBoot (makeProtectiveMBR { default with diskSize := 100 } false))))) 100 default =
      some (some (true, { makeProtectiveMBR { default with diskSize := 100 } false with
        geometrySize := 100 })) :=
  readMBRData_storeBoot (fun _ => none) { default with diskSize := 100 } default false 1 (by decide)

section Boot

variable (diskSize : BitVec 64) (mbr : Data) {boot : TempMBR}

theorem getElem_ofBoot (boot : TempMBR) (i : Fin 4) :
    (ofBoot boot)[i] = boot.partitions[i].toPart := by
  refine (Vector.getElem_ofFn _).trans ?_
  rw [dif_pos i.isLt]
  rfl

/-- **The master boot record**: reading it stays in the arrays, on every disk whose extended
partitions begin later than sector zero. -/
theorem readMBRData_ne_none
    (hstart : ∀ i : Fin 4, isExtended boot.partitions[i].partitionType = true →
      boot.partitions[i].firstLBA ≠ 0) (fuel : Nat) :
    readMBRData readEbr fuel (some boot) diskSize mbr ≠ some none := by
  rw [readMBRData]
  dsimp only
  split_ifs with hsignature
  · exact fun h => Option.some_ne_none _ (Option.some_injective _ h)
  · intro h
    rw [Option.map_eq_some_iff] at h
    obtain ⟨s, hread, hs⟩ := h
    rw [Option.map_eq_none_iff] at hs
    subst hs
    refine readExtended_ne_none readEbr (by decide) (by decide) (fun i _ => ?_) fuel hread
    rw [getElem_ofBoot]
    exact hstart i

/-- The only extended partition of the list begins at sector zero. -/
theorem readExtended_eq_none {rest : List (Fin 4)} {i : Fin 4} (hi : i ∈ rest)
    {partitions : Vector MBRPart maxMbrParts}
    (honly : ∀ j : Fin 4, isExtended partitions[j].partitionType = true ↔ j = i)
    (hzero : partitions[i].firstLBA = 0) :
    ∃ fuel, readExtended readEbr fuel rest 3 partitions = some none := by
  obtain ⟨fuel, hread⟩ := (readLogicalParts_eq_none_iff readEbr partitions[i].getStartLBA partitions
    (show 0 < 4 by decide) (by decide) (by rw [MBRPart.getStartLBA, hzero]; decide)).mpr
      (by rw [MBRPart.getStartLBA, hzero]; rfl)
  refine ⟨fuel, ?_⟩
  induction rest with
  | nil => cases hi
  | cons j rest ih =>
    rw [readExtended]
    by_cases hji : j = i
    · subst hji
      have hread' : readLogicalParts readEbr partitions[j].getStartLBA fuel partitions
          (((3 : Int).natAbs : Int) + 1) = some none := hread
      rw [if_pos ((honly j).mpr rfl), hread']
    · rw [if_neg (mt (honly j).mp hji)]
      exact ih ((List.mem_cons.mp hi).resolve_left (Ne.symm hji))

/-- A master boot record with at most one extended partition is read outside of the arrays if and
only if this partition begins at sector zero. -/
theorem readMBRData_eq_none_iff (hsignature : boot.signature = mbrSignature)
    (hone : ∀ i j : Fin 4, isExtended boot.partitions[i].partitionType = true →
      isExtended boot.partitions[j].partitionType = true → i = j) :
    (∃ fuel, readMBRData readEbr fuel (some boot) diskSize mbr = some none) ↔
      ∃ i : Fin 4, isExtended boot.partitions[i].partitionType = true ∧
        boot.partitions[i].firstLBA = 0 := by
  constructor
  · rintro ⟨fuel, h⟩
    by_contra hnone
    refine readMBRData_ne_none readEbr diskSize mbr (fun i hextended hzero => ?_) fuel h
    exact hnone ⟨i, hextended, hzero⟩
  · rintro ⟨i, hextended, hzero⟩
    have hmem : ∀ i : Fin 4, i ∈ [(0 : Fin 4), 1, 2, 3] := by decide
    have honly (j : Fin 4) : isExtended (ofBoot boot)[j].partitionType = true ↔ j = i := by
      rw [getElem_ofBoot]
      exact ⟨fun hj => hone j i hj hextended, fun hj => hj ▸ hextended⟩
    have hfirst : (ofBoot boot)[i].firstLBA = 0 := by
      rw [getElem_ofBoot]
      exact hzero
    obtain ⟨fuel, hread⟩ := readExtended_eq_none readEbr (hmem i) honly hfirst
    refine ⟨fuel, ?_⟩
    rw [readMBRData]
    dsimp only
    rw [if_neg (Decidable.not_not.mpr hsignature), hread]
    rfl

end Boot

omit readEbr extendedStart in
theorem readMBRData_smallBoot :
    ∃ fuel, readMBRData (fun _ => none) fuel (some (smallBoot 5 0 16)) 100 default = some none :=
  (readMBRData_eq_none_iff (fun _ => none) 100 default rfl (by decide)).mpr ⟨0, rfl, rfl⟩

/-! ### Lists that are as they should be -/

/-- A record of a logical partition. -/
def IsRecord (o : BitVec 64) (ebr : TempMBR) : Prop :=
  readEbr o = some ebr ∧ ebr.signature = mbrSignature ∧
    isExtended ebr.partitions[0].partitionType = false

/-- The records that a list of extended boot records has from a sector on, with their sectors. -/
inductive Listed : BitVec 64 → List (BitVec 64 × TempMBR) → Prop
  | last (o : BitVec 64) (ebr : TempMBR) (hrecord : IsRecord readEbr o ebr)
      (hend : ebr.partitions[1].firstLBA = 0) : Listed o [(o, ebr)]
  | cons (o : BitVec 64) (ebr : TempMBR) (records : List (BitVec 64 × TempMBR))
      (hrecord : IsRecord readEbr o ebr) (hnext : ebr.partitions[1].firstLBA ≠ 0)
      (hrest : Listed (extendedStart + ebr.partitions[1].firstLBA.setWidth 64) records) :
      Listed o ((o, ebr) :: records)

/-- The logical partition of a record. -/
def logicalPart (record : BitVec 64 × TempMBR) : MBRPart :=
  let first := record.2.partitions[0]
  { first.toPart.setStartLBA (first.firstLBA.setWidth 64 + record.1) with includeAs := .logical }

theorem Listed.ne_nil {o : BitVec 64} {records : List (BitVec 64 × TempMBR)}
    (h : Listed readEbr extendedStart o records) : 0 < records.length := by
  cases h with
  | last => exact Nat.succ_pos _
  | cons => exact Nat.succ_pos _

/-- The sector and the partition of a record have their places. -/
def placed (c : Chain) (ebr : TempMBR) (k : Nat) (hk : k < maxMbrParts) : Chain :=
  { c with
    ebrLocations := c.ebrLocations.set k c.offset
    partitions := c.partitions.set k (logicalPart (c.offset, ebr)) }

section Record

variable {c : Chain} {ebr : TempMBR} {k : Nat} (hgoes : c.goes = true)
  (hmet : c.ebrLocations.count c.offset = 0) (hrecord : IsRecord readEbr c.offset ebr)
  (hnum : c.partNum = k)

include hgoes hmet hrecord hnum

/-- The last record. -/
theorem turn_of_last (hk : k < maxMbrParts) (hend : ebr.partitions[1].firstLBA = 0) :
    turn readEbr extendedStart c = some { placed c ebr k hk with another := false } := by
  obtain ⟨hread, hsignature, hextended⟩ := hrecord
  obtain ⟨k', hk', hkk, hturn⟩ := turn_of_read readEbr extendedStart hgoes hmet hread hsignature
  obtain rfl : k = k' := Int.ofNat.inj (hnum.symm.trans hkk)
  rw [hturn, takeEbr, if_neg (by rw [hextended]; exact Bool.false_ne_true)]
  simp only [hnum, store_of_lt _ k _ hk, Option.getD_some]
  rw [if_neg fun hnext => hnext.1 hend]
  exact congrArg some (by rw [placed, ← hnum]; rfl)

/-- A record with another one after it. -/
theorem turn_of_next (hk : k < maxMbrParts - 1) (hnext : ebr.partitions[1].firstLBA ≠ 0) :
    turn readEbr extendedStart c = some { placed c ebr k (by omega) with
      offset := extendedStart + ebr.partitions[1].firstLBA.setWidth 64, partNum := k + 1 } := by
  obtain ⟨hread, hsignature, hextended⟩ := hrecord
  obtain ⟨k', hk', hkk, hturn⟩ := turn_of_read readEbr extendedStart hgoes hmet hread hsignature
  obtain rfl : k = k' := Int.ofNat.inj (hnum.symm.trans hkk)
  have hplace : (k : Int) < (maxMbrParts : Int) - 1 := by omega
  rw [hturn, takeEbr, if_neg (by rw [hextended]; exact Bool.false_ne_true)]
  simp only [hnum, store_of_lt _ k _ hk', Option.getD_some]
  rw [if_pos ⟨hnext, hplace⟩]
  rfl

end Record

theorem getElem_placed (c : Chain) (ebr : TempMBR) {k : Nat} (hk : k < maxMbrParts) (i : Nat)
    (hi : i < maxMbrParts) :
    (placed c ebr k hk).partitions[i] =
      if k = i then logicalPart (c.offset, ebr) else c.partitions[i] := Vector.getElem_set hk hi

theorem run_of_listed {o : BitVec 64} {records : List (BitVec 64 × TempMBR)}
    (hlisted : Listed readEbr extendedStart o records) {c : Chain} {k fuel : Nat}
    (hgoes : c.goes = true) (hnum : c.partNum = k) (hoffset : c.offset = o)
    (hmet : ∀ record ∈ records, c.ebrLocations.count record.1 = 0)
    (hnodup : (records.map Prod.fst).Nodup) (hroom : k + records.length ≤ maxMbrParts)
    (hfuel : records.length < fuel) :
    ∃ c', While.run (fun s => some (running s)) (fun s => s.bind (turn readEbr extendedStart)) fuel
        (some c) = some (some c') ∧
      c'.partNum = k + records.length - 1 ∧ c'.allOK = true ∧
      ∀ (i : Nat) (hi : i < maxMbrParts), c'.partitions[i] =
        if k ≤ i ∧ i < k + records.length then (records.map logicalPart).getD (i - k) {}
        else c.partitions[i] := by
  induction hlisted generalizing c k fuel with
  | last o ebr hrecord hend =>
    subst hoffset
    obtain ⟨fuel, rfl⟩ := Nat.exists_eq_add_of_le' (show 2 ≤ fuel from hfuel)
    have hk : k < maxMbrParts := hroom
    have hrunning : running (some c) = true := hgoes
    have hmet' := hmet _ (List.mem_singleton_self _)
    have hturn := turn_of_last readEbr extendedStart hgoes hmet' hrecord hnum hk hend
    refine ⟨{ placed c ebr k hk with another := false }, ?_, ?_, ?_, fun i hi => ?_⟩
    · rw [While.run_some_of_true hrunning, Option.bind_some, hturn]
      exact While.run_some_of_false rfl
    · simp only [List.length_singleton, placed, hnum]
      omega
    · exact ((goes_iff c).mp hgoes).2.2.2
    · simp only [List.length_singleton, List.map_cons, List.map_nil, getElem_placed]
      by_cases hik : k = i
      · subst hik
        simp
      · have hout : ¬ (k ≤ i ∧ i < k + 1) := by omega
        rw [if_neg hik, if_neg hout]
  | cons o ebr records hrecord hnext hrest ih =>
    subst hoffset
    have hpos := hrest.ne_nil
    simp only [List.length_cons] at hroom hfuel
    obtain ⟨fuel, rfl⟩ := Nat.exists_eq_add_of_le' (show 1 ≤ fuel by omega)
    have hk : k < maxMbrParts - 1 := by omega
    have hk' : k < maxMbrParts := by omega
    have hrunning : running (some c) = true := hgoes
    have hmet' := hmet _ List.mem_cons_self
    have hturn := turn_of_next readEbr extendedStart hgoes hmet' hrecord hnum hk hnext
    rw [List.map_cons, List.nodup_cons] at hnodup
    obtain ⟨hanother, -, -, hok⟩ := (goes_iff c).mp hgoes
    have hgoes' : Chain.goes { placed c ebr k hk' with
        offset := extendedStart + ebr.partitions[1].firstLBA.setWidth 64, partNum := k + 1 } =
        true :=
      (goes_iff _).mpr ⟨hanother, by simp only; omega, by simp only; omega, hok⟩
    have hcount : ∀ record ∈ records, (placed c ebr k hk').ebrLocations.count record.1 = 0 := by
      intro record hin
      have hne : c.offset ≠ record.1 := fun h => hnodup.1 (List.mem_map.mpr ⟨record, hin, h.symm⟩)
      have hold := hmet record (List.mem_cons_of_mem _ hin)
      rw [placed, Vector.count_set, hold, beq_false_of_ne hne]
      simp
    obtain ⟨c', hrun, hnum', hok', hparts⟩ :=
      ih hgoes' (k := k + 1) rfl rfl hcount hnodup.2 (by omega)
        (show records.length < fuel by omega)
    refine ⟨c', ?_, ?_, hok', fun i hi => ?_⟩
    · rw [While.run_some_of_true hrunning, Option.bind_some, hturn]
      exact hrun
    · rw [hnum', List.length_cons]
      omega
    · rw [hparts i hi, List.length_cons, List.map_cons]
      by_cases hik : k = i
      · subst hik
        have hout : ¬ (k + 1 ≤ k ∧ k < k + 1 + records.length) := by omega
        have hin : k ≤ k ∧ k < k + (records.length + 1) := by omega
        rw [if_neg hout, if_pos hin, Nat.sub_self]
        exact (getElem_placed c ebr hk' k hi).trans (if_pos rfl)
      · by_cases hin : k + 1 ≤ i ∧ i < k + 1 + records.length
        · have hin' : k ≤ i ∧ i < k + (records.length + 1) := by omega
          have hback : i - k = i - (k + 1) + 1 := by omega
          rw [if_pos hin, if_pos hin', hback, List.getD_cons_succ]
        · have hout : ¬ (k ≤ i ∧ i < k + (records.length + 1)) := by omega
          rw [if_neg hin, if_neg hout]
          exact (getElem_placed c ebr hk' i hi).trans (if_neg hik)

/-- **Lists without rings**: a list of records of logical partitions, in sectors that are all
different, is read to its end, and each partition has the place that follows the one before. -/
theorem readLogicalParts_of_listed {records : List (BitVec 64 × TempMBR)}
    (hlisted : Listed readEbr extendedStart extendedStart records)
    (hnodup : (records.map Prod.fst).Nodup) (hzero : (0 : BitVec 64) ∉ records.map Prod.fst)
    (partitions : Vector MBRPart maxMbrParts) {first fuel : Nat}
    (hroom : first + records.length ≤ maxMbrParts) (hfuel : records.length < fuel) :
    ∃ partitions' : Vector MBRPart maxMbrParts,
      readLogicalParts readEbr extendedStart fuel partitions first =
        some (some ((first : Int) + records.length - 1, partitions')) ∧
      ∀ (i : Nat) (hi : i < maxMbrParts), partitions'[i] =
        if first ≤ i ∧ i < first + records.length then
          (records.map logicalPart).getD (i - first) {}
        else partitions[i] := by
  have hpos := hlisted.ne_nil
  have hgoes : (firstChain extendedStart partitions first).goes = true :=
    (goes_iff _).mpr ⟨rfl, by simp only [firstChain]; omega, Int.natCast_nonneg first, rfl⟩
  have hmet : ∀ record ∈ records,
      (firstChain extendedStart partitions first).ebrLocations.count record.1 = 0 := by
    intro record hin
    have hne : (0 : BitVec 64) ≠ record.1 := fun h => hzero (List.mem_map.mpr ⟨record, hin, h.symm⟩)
    rw [firstChain, Vector.count_replicate, beq_false_of_ne hne]
    rfl
  obtain ⟨c', hrun, hnum, hok, hparts⟩ :=
    run_of_listed readEbr extendedStart hlisted hgoes rfl rfl hmet hnodup hroom hfuel
  refine ⟨c'.partitions, ?_, hparts⟩
  rw [readLogicalParts, hrun, Option.map_some, Option.map_some, hnum, hok, if_pos rfl, Int.mul_one]

omit readEbr extendedStart in
theorem readLogicalParts_smallList :
    ∃ partitions' : Vector MBRPart maxMbrParts,
      readLogicalParts (fun o => some (smallBoot 0x83 1 (if o = 8 then 8 else 0))) 8 10
          (Vector.replicate maxMbrParts {}) (4 : Nat) =
        some (some (((4 : Nat) : Int) + (2 : Nat) - 1, partitions')) ∧
      ∀ (i : Nat) (hi : i < maxMbrParts), partitions'[i] =
        if 4 ≤ i ∧ i < 4 + 2 then
          ([((8 : BitVec 64), smallBoot 0x83 1 8), (16, smallBoot 0x83 1 0)].map
            logicalPart).getD (i - 4) {}
        else (Vector.replicate maxMbrParts ({} : MBRPart))[i] := by
  have hlisted : Listed (fun o => some (smallBoot 0x83 1 (if o = 8 then 8 else 0))) 8 8
      [(8, smallBoot 0x83 1 8), (16, smallBoot 0x83 1 0)] :=
    .cons _ _ _ ⟨rfl, rfl, rfl⟩ (by decide) (.last _ _ ⟨rfl, rfl, rfl⟩ rfl)
  exact readLogicalParts_of_listed _ _ hlisted (by decide) (by decide) _ (by decide) (by decide)

end Chain

end UsbMaker.Mbr
