import Mathlib.Algebra.GroupWithZero.Nat
import Mathlib.Order.Bounds.Basic
import UsbMaker.Disk.Complete
import UsbMaker.Disk.Writes

/-!
# The sizes of the writes

`WriteDrive` writes buffers of whole sectors, and stops at the size of the image rounded up to one.
The size of a write is a `DWORD`: behind the end of the image the code subtracts a larger number
from a smaller one, keeps 32 bits of the difference and rounds it up, which gives `0` because the
sector size divides `2 ^ 32`. With an image such a write does no harm, as each turn reads on in the
image. Without one, when the drive is to be zeroed, every turn from there on writes nothing, and the
loop goes on forever unless the drive has ended.

## Main definitions

* `Disk.roundUp`, `Disk.totalWritten`, `Disk.Bounded`.

## Main results

* `Disk.next_size`: the size of a write.
* `Disk.bounded_iff`.
-/

namespace UsbMaker.Disk

open Program

/-- The least multiple of a size that is not below a number. -/
def roundUp (size n : Nat) : Nat := (n + size - 1) / size * size

/-- What a `WriteFile` that has written all of its data adds to the drive. -/
def Call.wholeWrite : Call → Nat
  | .writeFile _ _ data (some written) => if written = data.length then data.length else 0
  | _ => 0

/-- The total of what was written, by the calls that have written all of their data. -/
def totalWritten (calls : List Call) : Nat := (calls.map Call.wholeWrite).sum

/-- A `WriteFile` has whole sectors, and not more than the buffer. -/
def Call.Fits (sectorSize : Nat) : Call → Prop
  | .writeFile _ _ data _ => sectorSize ∣ data.length ∧ data.length ≤ bufSize sectorSize
  | _ => True

/-- The sizes that `WriteDrive` works with, from a state on: the buffer, what it writes, in any
number of turns of the copy loop, and that the loop ends. -/
structure Bounded (os : Os) (image : List UInt8) (drive source : Handle)
    (sectorSize driveSize : Nat) (imageSize : Int) (s : System) : Prop where
  buffer : IsLeast {size | effectiveSectorSize sectorSize ∣ size ∧ ddBufferSize ≤ size}
    (bufSize (effectiveSectorSize sectorSize))
  writes : ∀ turns, ∃ new,
    (writeDrive os image drive source sectorSize driveSize imageSize turns s).2.calls =
      new ++ s.calls ∧
    (∀ call ∈ new, call.Fits (effectiveSectorSize sectorSize)) ∧
    totalWritten new ≤ roundUp (effectiveSectorSize sectorSize) imageSize.toNat
  returns : ∃ turns ret,
    (writeDrive os image drive source sectorSize driveSize imageSize turns s).1 = some ret

/-! ### Sizes -/

section Sizes

variable {sectorSize n m : Nat}

theorem le_roundUp_self (h : 0 < sectorSize) : n ≤ roundUp sectorSize n := le_roundUp n h

theorem dvd_roundUp : sectorSize ∣ roundUp sectorSize n := Nat.dvd_mul_left _ _

theorem roundUp_le_of_dvd (h : 0 < sectorSize) (hm : sectorSize ∣ m) (hle : n ≤ m) :
    roundUp sectorSize n ≤ m := roundUp_le h hm hle

theorem roundUp_lt (h : 0 < sectorSize) : roundUp sectorSize n < n + sectorSize := by
  have hle := Nat.div_mul_le_self (n + sectorSize - 1) sectorSize
  rw [roundUp]
  omega

variable (hmin : 512 ≤ sectorSize) (hmax : sectorSize < 2 ^ 32)

include hmin hmax

theorem isLeast_bufSize :
    IsLeast {size | sectorSize ∣ size ∧ ddBufferSize ≤ size} (bufSize sectorSize) := by
  obtain ⟨hle, -, hdvd⟩ := bufSize_bounds hmin hmax
  refine ⟨⟨hdvd, hle⟩, fun size hsize => ?_⟩
  rw [bufSize_eq hmin hmax]
  exact roundUp_le (by omega) hsize.1 hsize.2

/-- Padding up to a multiple of the sector size that is not beyond the buffer. -/
theorem padSize_le (hm : sectorSize ∣ m) (hle : n ≤ m) (hbuf : n ≤ bufSize sectorSize) :
    sectorSize ∣ padSize sectorSize n ∧ padSize sectorSize n ≤ m := by
  obtain ⟨-, hlt, hdvd⟩ := bufSize_bounds hmin hmax
  rw [padSize]
  split_ifs with hmod
  · rw [Nat.mod_eq_of_lt ((roundUp_le (by omega) hdvd hbuf).trans_lt hlt)]
    exact ⟨Nat.dvd_mul_left _ _, roundUp_le (by omega) hm hle⟩
  · exact ⟨Nat.dvd_of_mod_eq_zero (not_not.1 hmod), hle⟩

/-- The difference of a size and a larger offset less than a sector beyond it. -/
theorem padSize_of_wrapped (hdvd : sectorSize ∣ 2 ^ 32) {d : Nat} (hpos : 0 < d)
    (hlt : d < sectorSize) : padSize sectorSize (2 ^ 32 - d) = 0 := by
  obtain ⟨k, hk⟩ := hdvd
  have hmul : sectorSize * k = sectorSize * (k - 1) + sectorSize := by
    cases k with
    | zero => omega
    | succ k => rw [Nat.add_sub_cancel, Nat.mul_succ]
  have hmod : (2 ^ 32 - d) % sectorSize = sectorSize - d := by
    have hsub : 2 ^ 32 - d = sectorSize * (k - 1) + (sectorSize - d) := by omega
    rw [hsub, Nat.mul_add_mod, Nat.mod_eq_of_lt (by omega)]
  have hround : (2 ^ 32 - d + sectorSize - 1) / sectorSize = k := by
    refine Nat.div_eq_of_lt_le ?_ ?_
    · rw [Nat.mul_comm]
      omega
    · rw [Nat.mul_comm, Nat.mul_succ]
      omega
  rw [padSize, if_pos (by omega), hround, Nat.mul_comm, ← hk,
    Nat.mod_self]

/-- **The size of a write.** It is one of whole sectors, not larger than the buffer, and does not
go beyond the size of the image rounded up. -/
theorem next_size (hdvd : sectorSize ∣ 2 ^ 32) {targetSize wb rSize : Nat}
    (htarget : targetSize < 2 ^ 63) (hwb : sectorSize ∣ wb)
    (hle : wb ≤ roundUp sectorSize targetSize) (hr : rSize ≤ bufSize sectorSize) :
    sectorSize ∣ padSize sectorSize (clipSize targetSize wb rSize) ∧
      padSize sectorSize (clipSize targetSize wb rSize) ≤ bufSize sectorSize ∧
      wb + padSize sectorSize (clipSize targetSize wb rSize) ≤ roundUp sectorSize targetSize := by
  obtain ⟨-, hbuf, hbufdvd⟩ := bufSize_bounds hmin hmax
  have hround := roundUp_lt (n := targetSize) (Nat.lt_of_lt_of_le (by decide) hmin)
  have hself := le_roundUp_self (n := targetSize) (Nat.lt_of_lt_of_le (by decide) hmin)
  have hrest : sectorSize ∣ roundUp sectorSize targetSize - wb := Nat.dvd_sub dvd_roundUp hwb
  have hsum : (wb + rSize) % 2 ^ 64 = wb + rSize := Nat.mod_eq_of_lt (by omega)
  rw [clipSize, hsum]
  split_ifs with hclip
  · by_cases hbehind : wb ≤ targetSize
    · -- the rest of the image
      have hdiff : (targetSize + 2 ^ 64 - wb) % 2 ^ 64 % 2 ^ 32 = targetSize - wb := by omega
      rw [hdiff]
      obtain ⟨hpad, hpadle⟩ := padSize_le hmin hmax hrest (n := targetSize - wb) (by omega)
        (by omega)
      exact ⟨hpad, (padSize_le hmin hmax hbufdvd (by omega) (by omega)).2, by omega⟩
    · -- the end of the image is in the sector before
      have hdiff : (targetSize + 2 ^ 64 - wb) % 2 ^ 64 % 2 ^ 32 = 2 ^ 32 - (wb - targetSize) := by
        omega
      rw [hdiff, padSize_of_wrapped hmin hmax hdvd (by omega) (by omega)]
      exact ⟨Nat.dvd_zero _, Nat.zero_le _, hle⟩
  · obtain ⟨hpad, hpadle⟩ := padSize_le hmin hmax hrest (n := rSize) (by omega) hr
    exact ⟨hpad, (padSize_le hmin hmax hbufdvd hr hr).2, by omega⟩

/-- Before the end of the image, a buffer that is full or cut off is not empty. -/
theorem next_size_pos {targetSize wb : Nat} (htarget : targetSize < 2 ^ 63)
    (hlt : wb < targetSize) :
    0 < padSize sectorSize (clipSize targetSize wb (bufSize sectorSize)) ∧
      (wb + padSize sectorSize (clipSize targetSize wb (bufSize sectorSize)) < targetSize →
        padSize sectorSize (clipSize targetSize wb (bufSize sectorSize)) = bufSize sectorSize) := by
  obtain ⟨hmin', hbuf, -⟩ := bufSize_bounds hmin hmax
  rw [ddBufferSize] at hmin'
  have hsum : (wb + bufSize sectorSize) % 2 ^ 64 = wb + bufSize sectorSize :=
    Nat.mod_eq_of_lt (by omega)
  rw [clipSize, hsum]
  split_ifs with hclip
  · have hdiff : (targetSize + 2 ^ 64 - wb) % 2 ^ 64 % 2 ^ 32 = targetSize - wb := by omega
    rw [hdiff]
    have hle : targetSize - wb ≤ bufSize sectorSize := by omega
    have hpad := (padSize_bounds hmin hmax hle).1
    exact ⟨by omega, fun h => by omega⟩
  · rw [(padSize_bounds hmin hmax (Nat.le_refl (bufSize sectorSize))).2.2 rfl]
    exact ⟨by omega, fun _ => rfl⟩

end Sizes

/-! ### The log of the writes -/

section Log

variable {os : Os} {image : List UInt8} {drive source : Handle} {sectorSize total : Nat}
  {base : List Call}

/-- The new calls fit, and have written a total. -/
def Logged (sectorSize : Nat) (base : List Call) (total : Nat) (s : System) : Prop :=
  ∃ new, s.calls = new ++ base ∧ (∀ call ∈ new, call.Fits sectorSize) ∧ totalWritten new = total

theorem Logged.call {s s' : System} {call : Call} (h : Logged sectorSize base total s)
    (hcalls : s'.calls = call :: s.calls) (hfits : call.Fits sectorSize) :
    Logged sectorSize base (call.wholeWrite + total) s' := by
  obtain ⟨new, hnew, hall, htotal⟩ := h
  refine ⟨call :: new, by rw [hcalls, hnew, List.cons_append], ?_, ?_⟩
  · exact List.forall_mem_cons.2 ⟨hfits, hall⟩
  · rw [← htotal]
    exact List.sum_cons

theorem Logged.congr {s s' : System} (h : Logged sectorSize base total s)
    (hcalls : s'.calls = s.calls) : Logged sectorSize base total s' := by
  rw [Logged, hcalls]
  exact h

/-- A call that is not a `WriteFile`. -/
theorem Logged.other {s s' : System} {call : Call} (h : Logged sectorSize base total s)
    (hcalls : s'.calls = call :: s.calls) (hother : call.isWrite = false) :
    Logged sectorSize base total s' := by
  cases call with
  | writeFile => cases hother
  | _ => simpa [Call.wholeWrite] using h.call hcalls trivial

theorem calls_writeFile (os : Os) (drive : Handle) (data : List UInt8) (s : System) :
    (writeFile os drive data s).2.calls =
      .writeFile drive (s.position drive) data (writeFile os drive data s).1 :: s.calls := by
  unfold writeFile
  cases drive with
  | file n => cases os.writeFile s.calls.length <;> rfl
  | _ => rfl

theorem logged_writeFile {data : List UInt8} (hdvd : sectorSize ∣ data.length)
    (hle : data.length ≤ bufSize sectorSize) :
    Ensures (Logged sectorSize base total) (writeFile os drive data) fun written s =>
      Logged sectorSize base (if written = some data.length then data.length + total else total)
        s := by
  intro s h
  have hlogged := h.call (calls_writeFile os drive data s) ⟨hdvd, hle⟩
  generalize (writeFile os drive data s).1 = written at hlogged ⊢
  cases written with
  | none => simpa [Call.wholeWrite] using hlogged
  | some n =>
    rw [Call.wholeWrite] at hlogged
    by_cases hn : n = data.length
    · simpa [hn] using hlogged
    · simpa [hn] using hlogged

theorem logged_setFilePointerEx (handle : Handle) (offset : Nat) :
    Ensures (Logged sectorSize base total) (setFilePointerEx os handle offset) fun _ =>
      Logged sectorSize base total := by
  intro s h
  unfold setFilePointerEx
  cases handle with
  | file n =>
    dsimp only
    split_ifs
    · exact h.other rfl rfl
    · exact h.other rfl rfl
  | _ => exact h.other rfl rfl

/-- The tries that write a buffer: a success writes it once as a whole. -/
theorem logged_writeTries (os : Os) (drive : Handle) {data : List UInt8}
    (hdvd : sectorSize ∣ data.length) (hle : data.length ≤ bufSize sectorSize) (wb n : Nat) :
    Ensures (Logged sectorSize base total) (writeTries os drive wb data n) fun r s =>
      Logged sectorSize base (if r = some data.length then data.length + total else total) s := by
  induction n with
  | zero => exact .pure fun s hs => by simpa using hs
  | succ n ih =>
    refine .bind (logged_writeFile hdvd hle) fun written => ?_
    split_ifs with hwritten hlast
    · exact .pure fun s hs => by simpa using hs
    · refine .bind (Q := fun _ => Logged sectorSize base total) (fun s hs => hs) fun _ => ?_
      exact .pure fun s hs => by simpa using hs
    · refine .bind (logged_setFilePointerEx _ _) fun ok => ?_
      split_ifs
      · exact .bind (Q := fun _ => Logged sectorSize base total)
          (fun s hs => hs.other rfl rfl) fun _ => ih
      · exact .pure fun s hs => by simpa using hs

/-- `wSize` is the size of the buffer. -/
theorem writeTries_result (os : Os) (drive : Handle) (wb : Nat) (data : List UInt8) (n : Nat) :
    Ensures (fun _ => True) (writeTries os drive wb data n) fun r _ =>
      ∀ wSize, r = some wSize → wSize = data.length := by
  induction n with
  | zero => exact .pure fun _ _ _ h => by cases h
  | succ n ih =>
    refine .bind (Q := fun _ _ => True) (fun _ _ => trivial) fun written => ?_
    split_ifs
    · exact .pure fun _ _ _ h => (Option.some.inj h).symm
    · refine .bind (Q := fun _ _ => True) (fun _ _ => trivial) fun _ => ?_
      exact .pure fun _ _ _ h => by cases h
    · refine .bind (Q := fun _ _ => True) (fun _ _ => trivial) fun ok => ?_
      split_ifs
      · exact .bind (Q := fun _ _ => True) (fun _ _ => trivial) fun _ => ih
      · exact .pure fun _ _ _ h => by cases h

/-- A read leaves the offset, and no more than a buffer. -/
theorem logged_readNext (size : Nat) (c : Copy) :
    Ensures (fun s => c.rSize ≤ size ∧ Logged sectorSize base total s)
      (readNext os image source size c)
      fun r s => (∀ c', r = .inl c' → c'.wb = c.wb ∧ c'.rSize ≤ size) ∧
        Logged sectorSize base total s := by
  rw [readNext]
  split_ifs with hnull
  · refine .pure fun s hs => ⟨?_, hs.2⟩
    rintro _ ⟨⟩
    exact ⟨rfl, hs.1⟩
  · refine .bind (Q := fun data s => (∀ d, data = some d → d.length ≤ size) ∧
      Logged sectorSize base total s) ?_ fun data => ?_
    · intro s hs
      unfold readFile
      cases source with
      | file n =>
        dsimp only
        split_ifs
        · refine ⟨?_, hs.2.other rfl rfl⟩
          rintro _ ⟨⟩
          exact List.length_take_le _ _
        · exact ⟨by simp, hs.2.other rfl rfl⟩
      | _ => exact ⟨by simp, hs.2.other rfl rfl⟩
    · cases data with
      | none =>
        refine .bind (Q := fun _ => Logged sectorSize base total) (fun s hs => hs.2) fun _ => ?_
        exact .pure fun s hs => ⟨by simp, hs⟩
      | some data =>
        dsimp only
        split_ifs
        · exact .pure fun s hs => ⟨by simp, hs.2⟩
        · refine .pure fun s hs => ⟨?_, hs.2⟩
          rintro _ ⟨⟩
          exact ⟨rfl, hs.1 data rfl⟩

end Log

/-! ### The copy loop -/

/-- The variables after a buffer has been written. -/
def Copy.advance (sectorSize targetSize : Nat) (c : Copy) : Copy :=
  { c with
    wb := (c.wb + padSize sectorSize (clipSize targetSize c.wb c.rSize)) % 2 ^ 64
    rSize := padSize sectorSize (clipSize targetSize c.wb c.rSize) }

/-- The second half of a turn of the copy loop. -/
def writeBuffer (os : Os) (drive : Handle) (sectorSize targetSize : Nat) (c : Copy) :
    StateM System (Copy ⊕ Bool) := do
  match ← writeTries os drive c.wb
      (bytes c.buffer (padSize sectorSize (clipSize targetSize c.wb c.rSize))) writeRetries with
  | none => return .inr false
  | some _ => return .inl (c.advance sectorSize targetSize)

theorem length_bytes (buffer : Nat → UInt8) (size : Nat) : (bytes buffer size).length = size := by
  rw [bytes, List.length_map, List.length_range]

/-- A turn of the copy loop, in two halves. -/
theorem copyStep_eq (os : Os) (image : List UInt8) (drive source : Handle)
    (sectorSize driveSize targetSize : Nat) (c : Copy) (hwb : c.wb < driveSize) :
    copyStep os image drive source sectorSize driveSize targetSize c =
      readNext os image source (bufSize sectorSize) c >>= fun r =>
        match r with
        | .inr ret => pure (.inr ret)
        | .inl c => writeBuffer os drive sectorSize targetSize c := by
  rw [copyStep, if_pos hwb]
  congr 1
  funext r
  cases r with
  | inr ret => rfl
  | inl c =>
    funext s
    dsimp only
    rw [writeBuffer, bind_apply, bind_apply]
    have hresult := writeTries_result os drive c.wb
      (bytes c.buffer (padSize sectorSize (clipSize targetSize c.wb c.rSize))) writeRetries s
      trivial
    rw [length_bytes] at hresult
    cases hr : (writeTries os drive c.wb (bytes c.buffer
      (padSize sectorSize (clipSize targetSize c.wb c.rSize))) writeRetries s).1 with
    | none => rfl
    | some wSize =>
      rw [hresult wSize hr]
      rfl

section Loop

variable {os : Os} {image : List UInt8} {drive source : Handle}
  {sectorSize driveSize targetSize : Nat} {base : List Call}

/-- The invariant of the copy loop: the offset is one of whole sectors within the image, and is the
total that was written. -/
structure InBounds (sectorSize targetSize : Nat) (base : List Call) (c : Copy) (s : System) :
    Prop where
  dvd : sectorSize ∣ c.wb
  le : c.wb ≤ roundUp sectorSize targetSize
  size : c.rSize ≤ bufSize sectorSize
  logged : Logged sectorSize base c.wb s

/-- What was written is within the image, rounded up. -/
def WithinImage (sectorSize targetSize : Nat) (base : List Call) (s : System) : Prop :=
  ∃ total ≤ roundUp sectorSize targetSize, Logged sectorSize base total s

variable (hmin : 512 ≤ sectorSize) (hmax : sectorSize < 2 ^ 32) (hdvd : sectorSize ∣ 2 ^ 32)
  (htarget : targetSize < 2 ^ 63)

include hmin hmax hdvd htarget

variable (os drive) in
theorem inBounds_writeBuffer (c : Copy) :
    Ensures (InBounds sectorSize targetSize base c) (writeBuffer os drive sectorSize targetSize c)
      (Turn (InBounds sectorSize targetSize base)
        fun _ => WithinImage sectorSize targetSize base) := by
  intro s hs
  obtain ⟨hpad, hpadle, hsum⟩ := next_size hmin hmax hdvd htarget hs.dvd hs.le hs.size
  have hround := roundUp_lt (n := targetSize) (Nat.lt_of_lt_of_le (by decide) hmin)
  rw [writeBuffer]
  unfold Copy.advance
  generalize padSize sectorSize (clipSize targetSize c.wb c.rSize) = rSize at hpad hpadle hsum ⊢
  have hlen := length_bytes c.buffer rSize
  have hlogged := logged_writeTries os drive (hlen.symm ▸ hpad)
    (hlen.symm ▸ hpadle) c.wb writeRetries s hs.logged
  have hresult := writeTries_result os drive c.wb (bytes c.buffer rSize) writeRetries s trivial
  rw [hlen] at hlogged hresult
  rw [bind_apply]
  cases hr : (writeTries os drive c.wb (bytes c.buffer rSize) writeRetries s).1 with
  | none =>
    rw [hr, if_neg (by simp)] at hlogged
    exact ⟨c.wb, hs.le, hlogged⟩
  | some wSize =>
    obtain rfl := hresult wSize hr
    rw [hr, if_pos rfl, Nat.add_comm] at hlogged
    have hmod : (c.wb + wSize) % 2 ^ 64 = c.wb + wSize := Nat.mod_eq_of_lt (by omega)
    dsimp only
    rw [hmod]
    exact ⟨Nat.dvd_add hs.dvd hpad, hsum, hpadle, hlogged⟩

theorem inBounds_copyStep (c : Copy) :
    Ensures (InBounds sectorSize targetSize base c)
      (copyStep os image drive source sectorSize driveSize targetSize c)
      (Turn (InBounds sectorSize targetSize base)
        fun _ => WithinImage sectorSize targetSize base) := by
  intro s hs
  by_cases hwb : c.wb < driveSize
  · rw [copyStep_eq _ _ _ _ _ _ _ _ hwb]
    refine Ensures.bind (logged_readNext _ c) (fun r => ?_) s ⟨hs.size, hs.logged⟩
    cases r with
    | inr ret => exact .pure fun t ht => ⟨c.wb, hs.le, ht.2⟩
    | inl c' =>
      intro t ht
      obtain ⟨hc', hsize⟩ := ht.1 c' rfl
      refine inBounds_writeBuffer os drive hmin hmax hdvd htarget c' t ⟨?_, ?_, hsize, ?_⟩
      · exact hc' ▸ hs.dvd
      · exact hc' ▸ hs.le
      · exact hc' ▸ ht.2
  · rw [copyStep, if_neg hwb]
    exact ⟨c.wb, hs.le, hs.logged⟩

end Loop

/-! ### The whole of `WriteDrive` -/

section WriteDrive

variable {os : Os} {image : List UInt8} {drive source : Handle} {sectorSize driveSize : Nat}
  {imageSize : Int} {s : System}

theorem effectiveSectorSize_lt (hsector : sectorSize < 2 ^ 32) :
    effectiveSectorSize sectorSize < 2 ^ 32 := by
  rw [effectiveSectorSize]
  split_ifs <;> omega

/-- A power of two that fits a `DWORD` divides `2 ^ 32`. -/
theorem dvd_of_isPowerOfTwo {n : Nat} (hpow : n.isPowerOfTwo) (hlt : n < 2 ^ 32) : n ∣ 2 ^ 32 := by
  obtain ⟨k, rfl⟩ := hpow
  exact Nat.pow_dvd_pow 2 ((Nat.pow_lt_pow_iff_right Nat.one_lt_two).mp hlt).le

theorem toNat_mod_of_lt (hpos : 0 ≤ imageSize) (hlt : imageSize < 2 ^ 63) :
    (imageSize % 2 ^ 64).toNat = imageSize.toNat ∧ imageSize.toNat < 2 ^ 63 := by
  omega

theorem logged_allocated :
    Logged (effectiveSectorSize sectorSize) s.calls 0 (allocated os drive sectorSize s).2 := by
  have hstart : Logged (effectiveSectorSize sectorSize) s.calls 0 s := ⟨[], rfl, by simp, rfl⟩
  have hrewound : Logged (effectiveSectorSize sectorSize) s.calls 0
      (setFilePointerEx os drive 0 s).2 := logged_setFilePointerEx drive 0 s hstart
  exact hrewound.other rfl rfl

/-- The copy loop begins within the bounds. -/
theorem inBounds_start (block : Block) (targetSize : Nat) :
    InBounds (effectiveSectorSize sectorSize) targetSize s.calls (startCopy sectorSize block)
      (allocated os drive sectorSize s).2 :=
  ⟨Nat.dvd_zero _, Nat.zero_le _, Nat.le_refl _, logged_allocated⟩

theorem WithinImage.afterLoop {targetSize : Nat} {base : List Call} {r : Option Bool × System}
    (h : WithinImage sectorSize targetSize base r.2) :
    WithinImage sectorSize targetSize base (afterLoop os drive r).2 := by
  obtain ⟨total, hle, hlogged⟩ := h
  refine ⟨total, hle, ?_⟩
  obtain ⟨_ | _ | _, t⟩ := r
  · exact hlogged
  · exact hlogged
  · exact hlogged.other rfl rfl

/-- All that `WriteDrive` writes fits, and is within the image. -/
theorem withinImage_writeDrive (hsector : sectorSize < 2 ^ 32) (hpos : 0 ≤ imageSize)
    (hlt : imageSize < 2 ^ 63) (turns : Nat) :
    WithinImage (effectiveSectorSize sectorSize) imageSize.toNat s.calls
      (writeDrive os image drive source sectorSize driveSize imageSize turns s).2 := by
  obtain ⟨hmod, htarget⟩ := toNat_mod_of_lt hpos hlt
  by_cases hbuffer : ∃ block, (allocated os drive sectorSize s).1 = some block ∧
      block.address % effectiveSectorSize sectorSize = 0
  · obtain ⟨block, hsome, haligned⟩ := hbuffer
    have hlt32 := effectiveSectorSize_lt hsector
    have hdvd := dvd_of_isPowerOfTwo (isPowerOfTwo_of_allocated hsome) hlt32
    rw [writeDrive_eq imageSize _ hsome haligned, hmod]
    refine WithinImage.afterLoop (Ensures.loop_any (fun c t h => ⟨c.wb, h.le, h.logged⟩)
      (inBounds_copyStep (le_effectiveSectorSize _) hlt32 hdvd htarget) turns _ _ ?_)
    exact inBounds_start block _
  · exact ⟨0, Nat.zero_le _, logged_allocated.congr (writeDrive_fails imageSize turns hbuffer).2⟩

/-! ### Zeroing the drive -/

theorem copyStep_null {targetSize : Nat} {c : Copy} (hwb : c.wb < driveSize) :
    copyStep os image drive .null sectorSize driveSize targetSize c =
      writeBuffer os drive sectorSize targetSize c := by
  rw [copyStep_eq _ _ _ _ _ _ _ _ hwb]
  rfl

theorem writeBuffer_inl {targetSize : Nat} {c c' : Copy} {s : System}
    (h : (writeBuffer os drive sectorSize targetSize c s).1 = .inl c') :
    c' = c.advance sectorSize targetSize := by
  rw [writeBuffer, bind_apply] at h
  generalize writeTries os drive c.wb _ _ s = r at h
  obtain ⟨_ | wSize, t⟩ := r
  · cases h
  · exact (Sum.inl.inj h).symm

/-- Without an image, the buffer stays full until the image size is reached. -/
structure Zeroing (sectorSize targetSize : Nat) (base : List Call) (c : Copy) (s : System) : Prop
    extends InBounds sectorSize targetSize base c s where
  full : c.wb < targetSize → c.rSize = bufSize sectorSize

/-- Within the image size, zeroing goes on to the end of the drive. -/
theorem zeroing_copyStep {targetSize : Nat} {base : List Call} (hmin : 512 ≤ sectorSize)
    (hmax : sectorSize < 2 ^ 32) (hdvd : sectorSize ∣ 2 ^ 32) (htarget : targetSize < 2 ^ 63)
    (hend : driveSize ≤ roundUp sectorSize targetSize) (c : Copy) (s : System)
    (hs : Zeroing sectorSize targetSize base c s) :
    Turn (fun c' s' => Zeroing sectorSize targetSize base c' s' ∧
        driveSize - c'.wb < driveSize - c.wb) (fun _ _ => True)
      (copyStep os image drive .null sectorSize driveSize targetSize c s).1
      (copyStep os image drive .null sectorSize driveSize targetSize c s).2 := by
  by_cases hwb : c.wb < driveSize
  · have hturn := inBounds_writeBuffer os drive hmin hmax hdvd htarget c s hs.toInBounds
    rw [copyStep_null hwb]
    cases hr : (writeBuffer os drive sectorSize targetSize c s).1 with
    | inr ret => trivial
    | inl c' =>
      rw [hr] at hturn
      obtain rfl := writeBuffer_inl hr
      have hbefore : c.wb < targetSize := by
        by_contra hnot
        have := roundUp_le_of_dvd (by omega) hs.dvd (Nat.le_of_not_lt hnot)
        omega
      obtain ⟨hpos, hfull⟩ := next_size_pos hmin hmax htarget hbefore
      obtain ⟨-, -, hsum⟩ := next_size hmin hmax hdvd htarget hs.dvd hs.le hs.size
      have hround := roundUp_lt (n := targetSize) (Nat.lt_of_lt_of_le (by decide) hmin)
      have hmod : (c.advance sectorSize targetSize).wb =
          c.wb + padSize sectorSize (clipSize targetSize c.wb c.rSize) :=
        Nat.mod_eq_of_lt (by omega)
      rw [hs.full hbefore] at hmod hsum
      refine ⟨⟨hturn, fun hlt => ?_⟩, by omega⟩
      rw [hmod] at hlt
      change padSize sectorSize (clipSize targetSize c.wb c.rSize) = _
      rw [hs.full hbefore]
      exact hfull hlt
  · rw [copyStep, if_neg hwb]
    trivial

/-- A buffer cannot be written to a drive that is not open. -/
theorem writeBuffer_not_open {targetSize : Nat} {c : Copy} {s : System}
    (hdrive : ∀ n, drive ≠ .file n) :
    (writeBuffer os drive sectorSize targetSize c s).1 = .inr false := by
  cases drive with
  | file n => exact absurd rfl (hdrive n)
  | _ => rfl

/-- Zeroing ends if there is no open drive or the drive is not larger than the image size. -/
theorem writeDrive_null_returns (hsector : sectorSize < 2 ^ 32) (hpos : 0 ≤ imageSize)
    (hlt : imageSize < 2 ^ 63)
    (hend : (∃ n, drive = .file n) → (effectiveSectorSize sectorSize).isPowerOfTwo →
      driveSize ≤ roundUp (effectiveSectorSize sectorSize) imageSize.toNat) :
    ∃ turns ret,
      (writeDrive os image drive .null sectorSize driveSize imageSize turns s).1 = some ret := by
  obtain ⟨hmod, htarget⟩ := toNat_mod_of_lt hpos hlt
  by_cases hbuffer : ∃ block, (allocated os drive sectorSize s).1 = some block ∧
      block.address % effectiveSectorSize sectorSize = 0
  · obtain ⟨block, hsome, haligned⟩ := hbuffer
    have hpow := isPowerOfTwo_of_allocated hsome
    have hlt32 := effectiveSectorSize_lt hsector
    have hdvd := dvd_of_isPowerOfTwo hpow hlt32
    refine ⟨driveSize + 1, ?_⟩
    rw [writeDrive_eq imageSize _ hsome haligned, afterLoop_fst, hmod]
    by_cases hdrive : ∃ n, drive = .file n
    · obtain ⟨ret, hret, -⟩ := exists_loop (fun c _ => driveSize - c.wb)
        (zeroing_copyStep (le_effectiveSectorSize _) hlt32 hdvd htarget (hend hdrive hpow))
        (driveSize + 1) (startCopy sectorSize block) (allocated os drive sectorSize s).2
        ⟨inBounds_start block _, fun _ => rfl⟩ (Nat.lt_succ_of_le (Nat.sub_le _ _))
      exact ⟨ret, hret⟩
    · rw [loop_succ]
      by_cases hwb : (startCopy sectorSize block).wb < driveSize
      · rw [copyStep_null hwb, writeBuffer_not_open fun n hn => hdrive ⟨n, hn⟩]
        exact ⟨false, rfl⟩
      · rw [copyStep, if_neg hwb]
        exact ⟨true, rfl⟩
  · exact ⟨0, false, (writeDrive_fails imageSize 0 hbuffer).1⟩

/-- When every call succeeds, a buffer is written in the first try. -/
theorem writeBuffer_alwaysAnswers {sector : UInt32} {size : UInt64} {targetSize n : Nat} {c : Copy}
    {s : System} (hle : padSize sectorSize (clipSize targetSize c.wb c.rSize) ≤ 2 ^ 32) :
    (writeBuffer (alwaysAnswers sector size) (.file n) sectorSize targetSize c s).1 =
      .inl (c.advance sectorSize targetSize) := by
  have hlen := length_bytes c.buffer (padSize sectorSize (clipSize targetSize c.wb c.rSize))
  have hwritten : (writeFile (alwaysAnswers sector size) (.file n)
      (bytes c.buffer (padSize sectorSize (clipSize targetSize c.wb c.rSize))) s).1 =
      some (bytes c.buffer (padSize sectorSize (clipSize targetSize c.wb c.rSize))).length := by
    change some (min (2 ^ 32) _) = _
    rw [hlen, Nat.min_eq_right hle]
  rw [writeBuffer, bind_apply, writeRetries, writeTries, bind_apply, if_pos hwritten]
  rfl

/-- A drive that is larger than the image size is zeroed forever, when every call succeeds. -/
theorem writeDrive_null_diverges {n : Nat} (hsector : sectorSize < 2 ^ 32) (hpos : 0 ≤ imageSize)
    (hlt : imageSize < 2 ^ 63) (hpow : (effectiveSectorSize sectorSize).isPowerOfTwo)
    (hend : roundUp (effectiveSectorSize sectorSize) imageSize.toNat < driveSize) (turns : Nat) :
    (writeDrive (alwaysAnswers (.ofNat sectorSize) 0) image (.file n) .null sectorSize driveSize
      imageSize turns s).1 = none := by
  obtain ⟨hmod, htarget⟩ := toNat_mod_of_lt hpos hlt
  have hlt32 := effectiveSectorSize_lt hsector
  have hdvd := dvd_of_isPowerOfTwo hpow hlt32
  have hmin := le_effectiveSectorSize sectorSize
  have hsome : (allocated (alwaysAnswers (.ofNat sectorSize) 0) (.file n) sectorSize s).1 =
      some ⟨effectiveSectorSize sectorSize, fun _ => 0⟩ := by
    have hnat : (UInt32.ofNat sectorSize).toNat = sectorSize := UInt32.toNat_ofNat_of_lt' hsector
    rw [allocated, mmMalloc]
    dsimp only
    rw [if_pos hpow]
    change some (Block.mk (effectiveSectorSize (UInt32.ofNat sectorSize).toNat) _) = _
    rw [hnat]
  rw [writeDrive_eq imageSize _ hsome (Nat.mod_self _), afterLoop_fst, hmod]
  refine loop_eq_none (I := InBounds (effectiveSectorSize sectorSize) imageSize.toNat s.calls)
    (fun c t hc => ?_) turns _ _ (inBounds_start _ _)
  have hwb : c.wb < driveSize := hc.le.trans_lt hend
  obtain ⟨-, hle, -⟩ := next_size hmin hlt32 hdvd htarget hc.dvd hc.le hc.size
  have hbuf := (bufSize_bounds hmin hlt32).2.1
  have hturn := inBounds_writeBuffer (alwaysAnswers (.ofNat sectorSize) 0) (.file n) hmin hlt32 hdvd
    htarget c t hc
  rw [copyStep_null hwb]
  rw [writeBuffer_alwaysAnswers (hle.trans hbuf.le)] at hturn ⊢
  exact ⟨_, rfl, hturn⟩

end WriteDrive

/-- **The sizes of the writes.** For an image of any length or none, and whatever the operating
system answers, `WriteDrive` has the least buffer of whole sectors, every `WriteFile` has whole
sectors and fits the buffer, all of them together stay within the image size rounded up, and the
copy loop ends, if and only if the drive is not an open one to be zeroed that is larger than the
image size rounded up. -/
theorem bounded_iff (image : List UInt8) (drive source : Handle) (sectorSize driveSize : Nat)
    (imageSize : Int) (hsector : sectorSize < 2 ^ 32) (hpos : 0 ≤ imageSize)
    (hlt : imageSize < 2 ^ 63) (hne : ∀ n, drive = .file n → drive ≠ source) :
    (∀ os s, Bounded os image drive source sectorSize driveSize imageSize s) ↔
      (source = .null → (∃ n, drive = .file n) →
        (effectiveSectorSize sectorSize).isPowerOfTwo →
          driveSize ≤ roundUp (effectiveSectorSize sectorSize) imageSize.toNat) := by
  constructor
  · rintro h rfl ⟨n, rfl⟩ hpow
    by_contra hend
    obtain ⟨turns, ret, hret⟩ := (h (alwaysAnswers (.ofNat sectorSize) 0) {}).returns
    rw [writeDrive_null_diverges hsector hpos hlt hpow (Nat.lt_of_not_le hend)] at hret
    cases hret
  · intro hend os s
    refine ⟨isLeast_bufSize (le_effectiveSectorSize _) (effectiveSectorSize_lt hsector),
      fun turns => ?_, ?_⟩
    · have hwithin : WithinImage _ _ s.calls (writeDrive os image drive source sectorSize driveSize
          imageSize turns s).2 := withinImage_writeDrive hsector hpos hlt turns
      obtain ⟨total, hle, new, hcalls, hfits, htotal⟩ := hwithin
      exact ⟨new, hcalls, hfits, htotal.trans_le hle⟩
    · by_cases hnull : source = .null
      · subst hnull
        exact writeDrive_null_returns hsector hpos hlt (hend rfl)
      · exact ⟨_, writeDrive_returns hnull hne imageSize⟩

/-- An image of one byte. -/
theorem bounded_one_byte :
    Bounded (alwaysAnswers (.ofNat 512) 0) [7] (.file 0) (.file 1) 512 1024 1 {} :=
  (bounded_iff [7] (.file 0) (.file 1) 512 1024 1 (by decide) (by decide) (by decide)
    (by rintro n ⟨⟩; decide)).2 (fun hnull => by cases hnull) _ _

/-- A drive of two sectors is to be zeroed up to the first one, and every call succeeds: the loop
does not end. -/
theorem not_bounded_zeroing :
    ¬ Bounded (alwaysAnswers (.ofNat 512) 0) [] (.file 0) .null 512 1024 512 {} := by
  intro h
  obtain ⟨turns, ret, hret⟩ := h.returns
  rw [writeDrive_null_diverges (by decide) (by decide) (by decide) ⟨9, rfl⟩ (by decide)] at hret
  cases hret

end UsbMaker.Disk
