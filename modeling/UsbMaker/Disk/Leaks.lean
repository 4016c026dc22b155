import UsbMaker.Disk.Bounds
import UsbMaker.Disk.Contents

/-!
# Memory on the drive

The buffer of `WriteDrive` is not cleared, and a write is padded to whole sectors. The bytes behind
those that were read are what an earlier turn has left there, but in the first turn they are what
was in the memory before. This file compares two runs whose buffers begin with different contents:
they leave the same on the drive if and only if the first write has no more than the bytes that were
read for it. This is so when the image fills the buffer or ends with a sector, and it never is when
the drive is to be zeroed, because the buffer is then written as it is.

## Main definitions

* `Disk.Os.withMemory`: an operating system with other memory.
* `Disk.LeavesSame`: the memory does not matter.
* `Disk.available`, `Disk.firstSize`: the bytes for the first write, and its size.

## Main results

* `Disk.loop_of_full`, `Disk.loop_of_ended`, `Disk.loop_of_nothing`, `Disk.loop_of_read`: turns that
  do not depend on the memory.
* `Disk.writeDrive_leaks`: a byte of the memory on the drive.
* `Disk.leavesSame_iff`.
-/

namespace UsbMaker.Disk

open Program

/-- The operating system with other contents of the memory that it gives out. -/
def Os.withMemory (os : Os) (memory : Nat → Nat → UInt8) : Os :=
  { os with
    mmMalloc := fun calls => (os.mmMalloc calls).map fun block =>
      { block with contents := memory calls } }

/-- Two runs of `WriteDrive` from a state that differ in the memory alone: when one returns, the
other returns the same, and the drive may hold the same bytes after both. -/
def LeavesSame (image : List UInt8) (n : Nat) (source : Handle) (sectorSize driveSize : Nat)
    (imageSize : Int) (s : System) : Prop :=
  ∀ (os : Os) (memory memory' : Nat → Nat → UInt8) (before : Nat → UInt8) (turns : Nat)
    (ret : Bool),
    (writeDrive (os.withMemory memory) image (.file n) source sectorSize driveSize imageSize turns
      s).1 = some ret →
    (writeDrive (os.withMemory memory') image (.file n) source sectorSize driveSize imageSize turns
      s).1 = some ret ∧
    ∀ bytes,
      Contents (.file n) s.calls before (writeDrive (os.withMemory memory) image (.file n) source
        sectorSize driveSize imageSize turns s).2.calls bytes ↔
      Contents (.file n) s.calls before (writeDrive (os.withMemory memory') image (.file n) source
        sectorSize driveSize imageSize turns s).2.calls bytes

/-- The bytes of the image from its file pointer on. -/
def available (image : List UInt8) (source : Handle) (s : System) : Nat :=
  match source with
  | .file _ => image.length - s.position source
  | _ => 0

/-- What the first turn has in its buffer: as much as it has read, or the whole buffer without an
image. -/
def firstSize (image : List UInt8) (source : Handle) (sectorSize : Nat) (s : System) : Nat :=
  if source = .null then bufSize sectorSize
  else min (bufSize sectorSize) (available image source s)

/-! ### Turns that do not depend on the memory -/

section Turns

variable {os : Os} {image : List UInt8} {drive source : Handle}
  {sectorSize driveSize targetSize : Nat}

/-- Two buffers with the same bytes below a size, and the same variables. -/
structure Agree (size : Nat) (c c' : Copy) : Prop where
  wb : c'.wb = c.wb
  rSize : c'.rSize = c.rSize
  buffer : ∀ i < size, c'.buffer i = c.buffer i

theorem Agree.mono {size size' : Nat} {c c' : Copy} (h : Agree size c c') (hle : size' ≤ size) :
    Agree size' c c' :=
  ⟨h.wb, h.rSize, fun i hi => h.buffer i (hi.trans_le hle)⟩

theorem Agree.bytes_eq {size : Nat} {c c' : Copy} (h : Agree size c c') :
    bytes c'.buffer size = bytes c.buffer size :=
  List.map_congr_left fun i hi => h.buffer i (List.mem_range.1 hi)

theorem Agree.advance {size : Nat} {c c' : Copy} (h : Agree size c c') :
    Agree size (c.advance sectorSize targetSize) (c'.advance sectorSize targetSize) := by
  obtain ⟨hwb, hrSize, hbuffer⟩ := h
  refine ⟨?_, ?_, hbuffer⟩
  · simp only [Copy.advance, hwb, hrSize]
  · simp only [Copy.advance, hwb, hrSize]

/-- A buffer that agrees as far as it is written. -/
theorem writeBuffer_agree {size : Nat} {c c' : Copy} (h : Agree size c c')
    (hle : padSize sectorSize (clipSize targetSize c.wb c.rSize) ≤ size) (s : System) :
    (writeBuffer os drive sectorSize targetSize c s).2 =
        (writeBuffer os drive sectorSize targetSize c' s).2 ∧
      Matching (fun c₁ c₁' _ => Agree size c₁ c₁' ∧ c₁ = c.advance sectorSize targetSize)
        (writeBuffer os drive sectorSize targetSize c s).2
        (writeBuffer os drive sectorSize targetSize c s).1
        (writeBuffer os drive sectorSize targetSize c' s).1 := by
  rw [writeBuffer, writeBuffer, bind_apply, bind_apply, h.wb, h.rSize, (h.mono hle).bytes_eq]
  generalize writeTries os drive c.wb _ _ s = r
  obtain ⟨_ | wSize, t⟩ := r
  · exact ⟨rfl, rfl⟩
  · exact ⟨rfl, h.advance, rfl⟩

/-- Reading makes two buffers agree where it reads. -/
theorem readNext_agree (hnull : source ≠ .null) {size : Nat} {c c' : Copy} (h : Agree size c c')
    (s : System) :
    (readNext os image source (bufSize sectorSize) c s).2 =
        (readNext os image source (bufSize sectorSize) c' s).2 ∧
      Matching (fun c₁ c₁' _ => Agree (max size c₁.rSize) c₁ c₁')
        (readNext os image source (bufSize sectorSize) c s).2
        (readNext os image source (bufSize sectorSize) c s).1
        (readNext os image source (bufSize sectorSize) c' s).1 := by
  rw [readNext, readNext, if_neg hnull, if_neg hnull, bind_apply, bind_apply]
  generalize readFile os image source (bufSize sectorSize) s = r
  obtain ⟨_ | data, t⟩ := r
  · exact ⟨rfl, rfl⟩
  · dsimp only
    split_ifs
    · exact ⟨rfl, rfl⟩
    · refine ⟨rfl, h.wb, rfl, fun i hi => ?_⟩
      change fill c'.buffer data i = fill c.buffer data i
      rw [fill, fill]
      by_cases hdata : i < data.length
      · rw [List.getElem?_eq_getElem hdata, Option.getD_some, Option.getD_some]
      · have hi' : i < max size data.length := hi
        rw [h.buffer i (by omega)]

/-- A turn writes what agrees. -/
theorem copyStep_agree (hnull : source ≠ .null) {size k : Nat} {c c' : Copy} (h : Agree size c c')
    (s : System)
    (hread : ∀ c₁ t, readNext os image source (bufSize sectorSize) c s = (.inl c₁, t) →
      k ≤ max size c₁.rSize ∧
        padSize sectorSize (clipSize targetSize c₁.wb c₁.rSize) ≤ max size c₁.rSize) :
    (copyStep os image drive source sectorSize driveSize targetSize c s).2 =
        (copyStep os image drive source sectorSize driveSize targetSize c' s).2 ∧
      Matching (fun c₁ c₁' _ => Agree k c₁ c₁')
        (copyStep os image drive source sectorSize driveSize targetSize c s).2
        (copyStep os image drive source sectorSize driveSize targetSize c s).1
        (copyStep os image drive source sectorSize driveSize targetSize c' s).1 := by
  by_cases hwb : c.wb < driveSize
  · rw [copyStep_eq _ _ _ _ _ _ _ _ hwb, copyStep_eq _ _ _ _ _ _ _ _ (h.wb ▸ hwb), bind_apply,
      bind_apply]
    obtain ⟨hstate, hmatch⟩ :
        (readNext os image source (bufSize sectorSize) c s).2 = _ ∧ _ := readNext_agree hnull h s
    rw [← hstate]
    rcases hr : readNext os image source (bufSize sectorSize) c s with ⟨c₁ | ret, t⟩
    · rcases hr' : (readNext os image source (bufSize sectorSize) c' s).1 with c₁' | ret'
      · rw [hr, hr'] at hmatch
        obtain ⟨hk, hle⟩ := hread c₁ t hr
        obtain ⟨hstate', hmatch'⟩ : (writeBuffer os drive sectorSize targetSize c₁ t).2 = _ ∧ _ :=
          writeBuffer_agree hmatch hle t
        exact ⟨hstate', hmatch'.mono fun _ _ hagree => hagree.1.mono hk⟩
      · rw [hr, hr'] at hmatch
        exact hmatch.elim
    · rcases hr' : (readNext os image source (bufSize sectorSize) c' s).1 with c₁' | ret'
      · rw [hr, hr'] at hmatch
        exact hmatch.elim
      · rw [hr, hr'] at hmatch
        exact ⟨rfl, hmatch⟩
  · rw [copyStep, copyStep, if_neg hwb, if_neg (h.wb ▸ hwb)]
    exact ⟨rfl, rfl⟩

/-- Turns with a full buffer that agrees: everything that is written has been read. -/
theorem loop_of_full (hnull : source ≠ .null) {base : List Call} (hmin : 512 ≤ sectorSize)
    (hmax : sectorSize < 2 ^ 32) (hdvd : sectorSize ∣ 2 ^ 32) (htarget : targetSize < 2 ^ 63)
    (turns : Nat) {c c' : Copy} {s : System} (h : Agree (bufSize sectorSize) c c')
    (hs : InBounds sectorSize targetSize base c s) :
    loop (copyStep os image drive source sectorSize driveSize targetSize) turns c s =
      loop (copyStep os image drive source sectorSize driveSize targetSize) turns c' s := by
  refine loop_congr (S := fun c c' s => Agree (bufSize sectorSize) c c' ∧
    InBounds sectorSize targetSize base c s) ?_ turns c c' s ⟨h, hs⟩
  rintro c c' s ⟨h, hs⟩
  have hread : ∀ c₁ t, readNext os image source (bufSize sectorSize) c s = (.inl c₁, t) →
      bufSize sectorSize ≤ max (bufSize sectorSize) c₁.rSize ∧
        padSize sectorSize (clipSize targetSize c₁.wb c₁.rSize) ≤
          max (bufSize sectorSize) c₁.rSize := by
    intro c₁ t hr
    have hlogged :
        (∀ c', (readNext os image source (bufSize sectorSize) c s).1 = .inl c' → _) ∧ _ :=
      logged_readNext (bufSize sectorSize) c s ⟨hs.size, hs.logged⟩
    rw [hr] at hlogged
    obtain ⟨hwb, hsize⟩ := hlogged.1 c₁ rfl
    obtain ⟨-, hle, -⟩ := next_size hmin hmax hdvd htarget hs.dvd hs.le hsize
    exact ⟨Nat.le_max_left _ _, hwb ▸ hle.trans (Nat.le_max_left _ _)⟩
  obtain ⟨hstate, hmatch⟩ :
      (copyStep os image drive source sectorSize driveSize targetSize c s).2 = _ ∧ _ :=
    copyStep_agree hnull h s hread
  have hturn : Turn (InBounds sectorSize targetSize base) _
      (copyStep os image drive source sectorSize driveSize targetSize c s).1 _ :=
    inBounds_copyStep hmin hmax hdvd htarget c s hs
  exact ⟨hstate, hmatch.turn hturn⟩

/-- `ReadFile` takes what there is, as far as it fits the buffer. -/
theorem readNext_inl {m size : Nat} {c c₁ : Copy} {s t : System}
    (h : readNext os image (.file m) size c s = (.inl c₁, t)) :
    c₁.wb = c.wb ∧ c₁.rSize = min size (available image (.file m) s) ∧ 0 < c₁.rSize ∧
      t.position (.file m) = s.position (.file m) + c₁.rSize := by
  rw [readNext, if_neg (by simp), bind_apply, readFile] at h
  dsimp only at h
  split_ifs at h with hread
  · dsimp only at h
    split_ifs at h with hnil
    · cases h
    · obtain ⟨hc, rfl⟩ := Prod.mk.inj h
      obtain rfl := Sum.inl.inj hc
      refine ⟨rfl, ?_, Nat.pos_of_ne_zero hnil, ?_⟩
      · rw [List.length_take, List.length_drop, available]
      · exact Function.update_self _ _ _
  · cases h

/-- Where there is nothing to read, a turn does not come to its second half. -/
theorem readNext_of_ended {size : Nat} {c : Copy} {s : System} (hnull : source ≠ .null)
    (hend : min size (available image source s) = 0) :
    ∃ ret, (readNext os image source size c s).1 = .inr ret := by
  cases source with
  | null => exact absurd rfl hnull
  | invalid => exact ⟨false, rfl⟩
  | file m =>
    rcases hr : readNext os image (.file m) size c s with ⟨c₁ | ret, t⟩
    · obtain ⟨-, hsize, hpos, -⟩ := readNext_inl hr
      omega
    · exact ⟨ret, rfl⟩

/-- Turns that have nothing to read write nothing. -/
theorem loop_of_ended (hnull : source ≠ .null) (turns : Nat) {c c' : Copy} {s : System}
    (h : Agree 0 c c') (hend : min (bufSize sectorSize) (available image source s) = 0) :
    loop (copyStep os image drive source sectorSize driveSize targetSize) turns c s =
      loop (copyStep os image drive source sectorSize driveSize targetSize) turns c' s := by
  cases turns with
  | zero => rfl
  | succ turns =>
    obtain ⟨ret, hret⟩ : ∃ ret, (readNext os image source (bufSize sectorSize) c s).1 = .inr ret :=
      readNext_of_ended hnull hend
    obtain ⟨hstate, hmatch⟩ :
        (copyStep os image drive source sectorSize driveSize targetSize c s).2 = _ ∧ _ :=
      copyStep_agree (k := 0) hnull h s fun c₁ t hr => by
        rw [hr] at hret
        cases hret
    have hturn : Turn (fun _ _ => False) (fun _ _ => True)
        (copyStep os image drive source sectorSize driveSize targetSize c s).1
        (copyStep os image drive source sectorSize driveSize targetSize c s).2 := by
      by_cases hwb : c.wb < driveSize
      · rw [copyStep_eq _ _ _ _ _ _ _ _ hwb, bind_apply, hret]
        trivial
      · rw [copyStep, if_neg hwb]
        trivial
    exact loop_succ_congr hstate (hmatch.turn hturn) fun _ _ hfalse => hfalse.2.elim

/-- Without an image and with nothing to write, turns write nothing. -/
theorem loop_of_nothing (turns : Nat) {c c' : Copy} {s : System} (h : Agree 0 c c')
    (hwb : c.wb = 0) (hsize : padSize sectorSize (clipSize targetSize 0 c.rSize) = 0) :
    loop (copyStep os image drive .null sectorSize driveSize targetSize) turns c s =
      loop (copyStep os image drive .null sectorSize driveSize targetSize) turns c' s := by
  refine loop_congr (S := fun c c' _ => Agree 0 c c' ∧ c.wb = 0 ∧
    padSize sectorSize (clipSize targetSize 0 c.rSize) = 0) ?_ turns c c' s ⟨h, hwb, hsize⟩
  rintro c c' s ⟨h, hwb, hsize⟩
  by_cases hlt : c.wb < driveSize
  · rw [copyStep_null hlt, copyStep_null (h.wb ▸ hlt)]
    obtain ⟨hstate, hmatch⟩ : (writeBuffer os drive sectorSize targetSize c s).2 = _ ∧ _ :=
      writeBuffer_agree h (by rw [hwb, hsize]) s
    refine ⟨hstate, hmatch.mono ?_⟩
    rintro c₁ c₁' ⟨hagree, rfl⟩
    refine ⟨hagree, ?_, ?_⟩
    · simp [Copy.advance, hwb, hsize]
    · have hzero : clipSize targetSize 0 0 = 0 := by simp [clipSize]
      rw [Copy.advance, hwb, hsize, hzero, padSize, Nat.zero_mod, if_neg (by simp)]
  · rw [copyStep, copyStep, if_neg hlt, if_neg (h.wb ▸ hlt)]
    exact ⟨rfl, rfl⟩

/-- The size of the first write. -/
theorem padSize_first (hpow : sectorSize.isPowerOfTwo) (hmin : 512 ≤ sectorSize)
    (htarget : targetSize < 2 ^ 63) {rSize : Nat} (hle : rSize ≤ bufSize sectorSize) :
    padSize sectorSize (clipSize targetSize 0 rSize) =
      roundUp sectorSize (min targetSize rSize) := by
  by_cases hmax : sectorSize < 2 ^ 32
  · obtain ⟨-, hbuf, hdvd⟩ := bufSize_bounds hmin hmax
    have hclip : clipSize targetSize 0 rSize = min targetSize rSize := by
      rw [clipSize]
      split_ifs <;> omega
    rw [hclip, padSize]
    split_ifs with hmod
    · refine Nat.mod_eq_of_lt (Nat.lt_of_le_of_lt ?_ hbuf)
      exact roundUp_le (by omega) hdvd ((Nat.min_le_right _ _).trans hle)
    · refine Nat.le_antisymm (le_roundUp_self (by omega)) ?_
      exact roundUp_le_of_dvd (by omega) (Nat.dvd_of_mod_eq_zero (not_not.1 hmod)) (Nat.le_refl _)
  · rw [bufSize_eq_zero hpow (Nat.le_of_not_lt hmax)] at hle
    obtain rfl : rSize = 0 := Nat.le_zero.1 hle
    have hclip : clipSize targetSize 0 0 = 0 := by simp [clipSize]
    have hround : roundUp sectorSize 0 ≤ 0 :=
      roundUp_le_of_dvd (by omega) (Nat.dvd_zero _) (Nat.le_refl _)
    rw [hclip, padSize, Nat.zero_mod, if_neg (by simp), Nat.min_zero, Nat.le_zero.1 hround]

/-- The image after a turn that goes on. -/
theorem position_copyStep {m : Nat} (hne : drive ≠ .file m) {c c₁ : Copy} {s : System}
    (h : (copyStep os image drive (.file m) sectorSize driveSize targetSize c s).1 = .inl c₁) :
    (copyStep os image drive (.file m) sectorSize driveSize targetSize c s).2.position (.file m) =
      s.position (.file m) + min (bufSize sectorSize) (available image (.file m) s) := by
  by_cases hwb : c.wb < driveSize
  · rw [copyStep_eq _ _ _ _ _ _ _ _ hwb, bind_apply] at h ⊢
    rcases hr : readNext os image (.file m) (bufSize sectorSize) c s with ⟨c₂ | ret, t⟩
    · obtain ⟨-, hsize, -, hpos⟩ := readNext_inl hr
      have hmoves : MovesOnly drive t (writeBuffer os drive sectorSize targetSize c₂ t).2 := by
        refine (movesOnly_writeTries _).bind (fun r => ?_) t
        cases r with
        | none => exact .pure _
        | some wSize => exact .pure _
      exact (hmoves.position _ hne.symm).trans (hpos.trans (by rw [hsize]))
    · rw [hr] at h
      cases h
  · rw [copyStep, if_neg hwb] at h
    cases h

/-- A turn keeps the bounds and moves the image on by what it reads. -/
theorem turn_of_read {m : Nat} (hne : drive ≠ .file m) {base : List Call} {c : Copy} {s : System}
    (hmin : 512 ≤ sectorSize) (hmax : sectorSize < 2 ^ 32) (hdvd : sectorSize ∣ 2 ^ 32)
    (htarget : targetSize < 2 ^ 63) (hs : InBounds sectorSize targetSize base c s) :
    Turn (fun c₁ t => InBounds sectorSize targetSize base c₁ t ∧
        t.position (.file m) =
          s.position (.file m) + min (bufSize sectorSize) (available image (.file m) s))
      (fun _ _ => True)
      (copyStep os image drive (.file m) sectorSize driveSize targetSize c s).1
      (copyStep os image drive (.file m) sectorSize driveSize targetSize c s).2 := by
  have hbounds : Turn (InBounds sectorSize targetSize base) _
      (copyStep os image drive (.file m) sectorSize driveSize targetSize c s).1 _ :=
    inBounds_copyStep hmin hmax hdvd htarget c s hs
  cases hr : (copyStep os image drive (.file m) sectorSize driveSize targetSize c s).1 with
  | inl c₁ =>
    rw [hr] at hbounds
    exact ⟨hbounds, position_copyStep hne hr⟩
  | inr ret => trivial

/-- A first turn that writes no more than it has read, and the turns after it. -/
theorem loop_of_read {m : Nat} (hne : drive ≠ .file m) {base : List Call}
    (hpow : sectorSize.isPowerOfTwo) (hmin : 512 ≤ sectorSize) (htarget : targetSize < 2 ^ 63)
    (turns : Nat) {c c' : Copy} {s : System} (h : Agree 0 c c')
    (hs : InBounds sectorSize targetSize base c s) (hwb : c.wb = 0)
    (hle : roundUp sectorSize
      (min targetSize (min (bufSize sectorSize) (available image (.file m) s))) ≤
        available image (.file m) s) :
    loop (copyStep os image drive (.file m) sectorSize driveSize targetSize) turns c s =
      loop (copyStep os image drive (.file m) sectorSize driveSize targetSize) turns c' s := by
  by_cases hend : min (bufSize sectorSize) (available image (.file m) s) = 0
  · exact loop_of_ended (by simp) turns h hend
  have hmax : sectorSize < 2 ^ 32 := by
    by_contra hlarge
    rw [bufSize_eq_zero hpow (Nat.le_of_not_lt hlarge), Nat.zero_min] at hend
    exact hend rfl
  have hdvd := dvd_of_isPowerOfTwo hpow hmax
  obtain ⟨-, -, hbufdvd⟩ := bufSize_bounds hmin hmax
  cases turns with
  | zero => rfl
  | succ turns =>
    have hread : ∀ c₁ t, readNext os image (.file m) (bufSize sectorSize) c s = (.inl c₁, t) →
        min (bufSize sectorSize) (available image (.file m) s) ≤ max 0 c₁.rSize ∧
          padSize sectorSize (clipSize targetSize c₁.wb c₁.rSize) ≤ max 0 c₁.rSize := by
      intro c₁ t hr
      obtain ⟨hwb₁, hsize, -, -⟩ := readNext_inl hr
      have hfull : roundUp sectorSize (min targetSize c₁.rSize) ≤ bufSize sectorSize :=
        roundUp_le_of_dvd (by omega) hbufdvd (by omega)
      rw [hwb₁, hwb, padSize_first hpow hmin htarget (by omega)]
      rw [← hsize] at hle
      omega
    obtain ⟨hstate, hmatch⟩ :
        (copyStep os image drive (.file m) sectorSize driveSize targetSize c s).2 = _ ∧ _ :=
      copyStep_agree (by simp) h s hread
    refine loop_succ_congr hstate (hmatch.turn (turn_of_read hne hmin hmax hdvd htarget hs)) ?_
    rintro c₁ c₁' ⟨hagree, hbounds, hposition⟩
    by_cases hfull : bufSize sectorSize ≤ available image (.file m) s
    · -- the buffer is full, and only what is read is written from now on
      rw [Nat.min_eq_left hfull] at hagree
      exact loop_of_full (by simp) hmin hmax hdvd htarget turns hagree hbounds
    · -- the image has ended
      refine loop_of_ended (by simp) turns (hagree.mono (Nat.zero_le _)) ?_
      rw [available] at *
      omega

end Turns

/-! ### The whole of `WriteDrive` -/

section WriteDrive

variable {os : Os} {image : List UInt8} {n : Nat} {source : Handle}
  {sectorSize driveSize : Nat} {imageSize : Int} {s : System}

/-- Other memory is given out in the same blocks. -/
theorem allocated_withMemory (os : Os) (memory : Nat → Nat → UInt8) (drive : Handle)
    (sectorSize : Nat) (s : System) :
    (allocated (os.withMemory memory) drive sectorSize s).1 =
        (allocated os drive sectorSize s).1.map (fun block =>
          { block with contents := memory (setFilePointerEx os drive 0 s).2.calls.length }) ∧
      (allocated (os.withMemory memory) drive sectorSize s).2 =
        (allocated os drive sectorSize s).2 := by
  have hrewind : setFilePointerEx (os.withMemory memory) drive 0 s =
      setFilePointerEx os drive 0 s := rfl
  rw [allocated, allocated, mmMalloc, mmMalloc, hrewind]
  generalize setFilePointerEx os drive 0 s = r
  dsimp only
  split_ifs
  · refine ⟨rfl, ?_⟩
    rw [Os.withMemory, Option.isSome_map]
  · exact ⟨rfl, rfl⟩

/-- Copy loops that do not depend on the buffer they begin with. -/
theorem leavesSame_of_loop
    (h : ∀ (os : Os) (block block' : Block) (turns : Nat),
      (effectiveSectorSize sectorSize).isPowerOfTwo →
      loop (copyStep os image (.file n) source (effectiveSectorSize sectorSize) driveSize
          (imageSize % 2 ^ 64).toNat) turns (startCopy sectorSize block)
          (allocated os (.file n) sectorSize s).2 =
        loop (copyStep os image (.file n) source (effectiveSectorSize sectorSize) driveSize
          (imageSize % 2 ^ 64).toNat) turns (startCopy sectorSize block')
          (allocated os (.file n) sectorSize s).2) :
    LeavesSame image n source sectorSize driveSize imageSize s := by
  intro os memory memory' before turns ret hret
  obtain ⟨hblock, hstate⟩ := allocated_withMemory os memory (.file n) sectorSize s
  obtain ⟨hblock', hstate'⟩ := allocated_withMemory os memory' (.file n) sectorSize s
  by_cases hbuffer : ∃ block, (allocated os (.file n) sectorSize s).1 = some block ∧
      block.address % effectiveSectorSize sectorSize = 0
  · obtain ⟨block, hsome, haligned⟩ := hbuffer
    rw [hsome, Option.map_some] at hblock hblock'
    have hloop := h os ⟨block.address, memory (setFilePointerEx os (.file n) 0 s).2.calls.length⟩
      ⟨block.address, memory' (setFilePointerEx os (.file n) 0 s).2.calls.length⟩ turns
      (isPowerOfTwo_of_allocated hsome)
    have hsame : writeDrive (os.withMemory memory') image (.file n) source sectorSize driveSize
          imageSize turns s =
        writeDrive (os.withMemory memory) image (.file n) source sectorSize driveSize imageSize
          turns s := by
      rw [writeDrive_eq imageSize turns hblock haligned,
        writeDrive_eq imageSize turns hblock' haligned, hstate, hstate']
      exact congrArg (afterLoop os (.file n)) hloop.symm
    rw [hsame]
    exact ⟨hret, fun _ => Iff.rfl⟩
  · have hnone : ∀ memory : Nat → Nat → UInt8,
        ¬ ∃ block, (allocated (os.withMemory memory) (.file n) sectorSize s).1 = some block ∧
          block.address % effectiveSectorSize sectorSize = 0 := by
      rintro memory ⟨block, hsome, haligned⟩
      rw [(allocated_withMemory os memory (.file n) sectorSize s).1] at hsome
      obtain ⟨block', hsome', rfl⟩ := Option.map_eq_some_iff.1 hsome
      exact hbuffer ⟨block', hsome', haligned⟩
    obtain ⟨hfalse, hcalls⟩ : (writeDrive (os.withMemory memory) image (.file n) source sectorSize
        driveSize imageSize turns s).1 = _ ∧ _ := writeDrive_fails imageSize turns (hnone memory)
    obtain ⟨hfalse', hcalls'⟩ : (writeDrive (os.withMemory memory') image (.file n) source
        sectorSize driveSize imageSize turns s).1 = _ ∧ _ :=
      writeDrive_fails imageSize turns (hnone memory')
    rw [hfalse] at hret
    rw [hcalls, hcalls', hstate, hstate', hfalse']
    exact ⟨hret, fun _ => Iff.rfl⟩

/-- The image is where it was when the copy loop begins. -/
theorem available_allocated (os : Os) (sectorSize : Nat) (hne : .file n ≠ source) :
    available image source (allocated os (.file n) sectorSize s).2 = available image source s := by
  have hmoves : MovesOnly (.file n) s (setFilePointerEx os (.file n) 0 s).2 :=
    movesOnly_setFilePointerEx 0 s
  have hposition : (allocated os (.file n) sectorSize s).2.position source = s.position source :=
    hmoves.position source hne.symm
  cases source with
  | null | invalid => rfl
  | file m => rw [available, available, hposition]

/-- What has been read is enough for the first write. -/
theorem leavesSame_of_le (hpos : 0 ≤ imageSize) (hlt : imageSize < 2 ^ 63)
    (hne : .file n ≠ source)
    (hle : (effectiveSectorSize sectorSize).isPowerOfTwo → 0 < driveSize →
      roundUp (effectiveSectorSize sectorSize)
          (min imageSize.toNat (firstSize image source (effectiveSectorSize sectorSize) s)) ≤
        available image source s) :
    LeavesSame image n source sectorSize driveSize imageSize s := by
  obtain ⟨hmod, htarget⟩ := toNat_mod_of_lt hpos hlt
  have hmin := le_effectiveSectorSize sectorSize
  refine leavesSame_of_loop fun os block block' turns hpow => ?_
  rw [hmod]
  have hagree : Agree 0 (startCopy sectorSize block) (startCopy sectorSize block') :=
    ⟨rfl, rfl, fun i hi => absurd hi (Nat.not_lt_zero i)⟩
  by_cases hdrive : 0 < driveSize
  · replace hle := hle hpow hdrive
    cases source with
    | null =>
      refine loop_of_nothing turns hagree rfl (Nat.le_zero.1 ?_)
      rw [startCopy, padSize_first hpow hmin htarget (Nat.le_refl _)]
      exact hle
    | invalid => exact loop_of_ended (by simp) turns hagree (Nat.min_zero _)
    | file m =>
      refine loop_of_read hne hpow hmin htarget turns hagree (inBounds_start block _) rfl ?_
      rw [available_allocated os sectorSize hne]
      rwa [firstSize, if_neg (by simp)] at hle
  · cases turns with
    | zero => rfl
    | succ turns =>
      rw [loop_succ, loop_succ, copyStep, copyStep, if_neg (fun h => hdrive (Nat.zero_lt_of_lt h)),
        if_neg (fun h => hdrive (Nat.zero_lt_of_lt h))]

/-! ### Memory that is written -/

/-- Every call succeeds up to a number of calls, and none does from there on. -/
def failsFrom (limit : Nat) : Os :=
  { alwaysAnswers 512 0 with
    mmMalloc := fun _ => some ⟨0, fun _ => 0⟩
    setFilePointerEx := fun calls => decide (calls < limit)
    readFile := fun calls => decide (calls < limit)
    writeFile := fun calls => if calls < limit then some (2 ^ 32) else none }

variable {base : List Call} {before : Nat → UInt8} {limit targetSize : Nat}
  {memory : Nat → Nat → UInt8} {c : Copy}

theorem writeFile_failsFrom {data : List UInt8} (hlimit : limit ≤ s.calls.length) :
    (writeFile ((failsFrom limit).withMemory memory) (.file n) data s).1 = none ∧
      (writeFile ((failsFrom limit).withMemory memory) (.file n) data s).2.calls.length =
        s.calls.length + 1 := by
  have hnone : ((failsFrom limit).withMemory memory).writeFile s.calls.length = none :=
    if_neg (Nat.not_lt.2 hlimit)
  rw [writeFile]
  dsimp only
  rw [hnone]
  exact ⟨rfl, rfl⟩

theorem setFilePointerEx_failsFrom {position : Nat} (hlimit : limit ≤ s.calls.length) :
    (setFilePointerEx ((failsFrom limit).withMemory memory) (.file n) position s).1 = false := by
  have hfalse : ((failsFrom limit).withMemory memory).setFilePointerEx s.calls.length = false :=
    decide_eq_false (Nat.not_lt.2 hlimit)
  rw [setFilePointerEx]
  dsimp only
  rw [hfalse]
  rfl

/-- A buffer that cannot be written, with a file pointer that cannot be set back. -/
theorem writeBuffer_failsFrom (hbase : base <:+ s.calls) (hlimit : limit ≤ s.calls.length)
    (hat : s.position (.file n) = c.wb) :
    (writeBuffer ((failsFrom limit).withMemory memory) (.file n) sectorSize targetSize c s).1 =
        .inr false ∧
      Over (.file n) base before c.wb
        (c.wb + padSize sectorSize (clipSize targetSize c.wb c.rSize)) s
        (writeBuffer ((failsFrom limit).withMemory memory) (.file n) sectorSize targetSize c
          s).2 := by
  rw [← length_bytes c.buffer (padSize sectorSize (clipSize targetSize c.wb c.rSize)), writeBuffer,
    bind_apply]
  generalize bytes c.buffer _ = data
  obtain ⟨hnone, hlength⟩ : (writeFile ((failsFrom limit).withMemory memory) (.file n) data s).1 =
      none ∧ _ := writeFile_failsFrom hlimit
  obtain ⟨hover, -⟩ : Over (.file n) base before c.wb (c.wb + data.length) s
      (writeFile ((failsFrom limit).withMemory memory) (.file n) data s).2 ∧ _ :=
    over_writeFile s hbase s ⟨fun _ _ => hat, refl_of _ s⟩
  rw [writeRetries, writeTries, bind_apply, hnone, if_neg (by simp), if_neg (by simp), bind_apply,
    setFilePointerEx_failsFrom (by omega)]
  exact ⟨rfl, trans_of _ hover (over_setFilePointerEx _ _ _ _)⟩

/-- When the calls fail, a turn ends the loop and leaves the drive below `wb` as it is. -/
theorem copyStep_failsFrom (before : Nat → UInt8) (hbase : base <:+ s.calls)
    (hlimit : limit ≤ s.calls.length)
    (hat : s.position (.file n) = c.wb) :
    ∃ ret size, (copyStep ((failsFrom limit).withMemory memory) image (.file n) source sectorSize
        driveSize targetSize c s).1 = .inr ret ∧
      Over (.file n) base before c.wb (c.wb + size) s
        (copyStep ((failsFrom limit).withMemory memory) image (.file n) source sectorSize driveSize
          targetSize c s).2 := by
  by_cases hwb : c.wb < driveSize
  · by_cases hnull : source = .null
    · subst hnull
      rw [copyStep_null hwb]
      exact ⟨false, _, writeBuffer_failsFrom hbase hlimit hat⟩
    · have hread : ∃ ret, (readNext ((failsFrom limit).withMemory memory) image source
          (bufSize sectorSize) c s).1 = .inr ret := by
        have hfalse : ((failsFrom limit).withMemory memory).readFile s.calls.length = false :=
          decide_eq_false (Nat.not_lt.2 hlimit)
        rw [readNext, if_neg hnull, bind_apply]
        cases source with
        | null => exact absurd rfl hnull
        | invalid => exact ⟨false, rfl⟩
        | file m =>
          rw [readFile]
          dsimp only
          rw [hfalse]
          exact ⟨false, rfl⟩
      obtain ⟨ret, hret⟩ := hread
      rw [copyStep_eq _ _ _ _ _ _ _ _ hwb, bind_apply, hret]
      exact ⟨ret, 0, rfl, over_readNext _ _ _ _ _ _⟩
  · rw [copyStep, if_neg hwb]
    exact ⟨true, 0, rfl, refl_of _ s⟩

/-- A buffer that is written by the last call that succeeds. -/
theorem writeBuffer_last (before : Nat → UInt8) (hbase : base <:+ s.calls)
    (hlimit : s.calls.length + 1 = limit)
    (hat : s.position (.file n) = c.wb)
    (hle : padSize sectorSize (clipSize targetSize c.wb c.rSize) ≤ 2 ^ 32) :
    ∃ t, writeBuffer ((failsFrom limit).withMemory memory) (.file n) sectorSize targetSize c s =
        (.inl (c.advance sectorSize targetSize), t) ∧
      s.calls <:+ t.calls ∧ t.calls.length = limit ∧
      t.position (.file n) = c.wb + padSize sectorSize (clipSize targetSize c.wb c.rSize) ∧
      OnDrive (.file n) base before c.wb
        (bytes c.buffer (padSize sectorSize (clipSize targetSize c.wb c.rSize))) t := by
  rw [writeBuffer, bind_apply]
  generalize padSize sectorSize (clipSize targetSize c.wb c.rSize) = size at hle ⊢
  have hlength := length_bytes c.buffer size
  generalize bytes c.buffer size = data at hlength ⊢
  subst hlength
  have hsome : ((failsFrom limit).withMemory memory).writeFile s.calls.length = some (2 ^ 32) :=
    if_pos (by omega)
  have hwrite : writeFile ((failsFrom limit).withMemory memory) (.file n) data s =
      (some data.length,
        { s.record (.writeFile (.file n) (s.position (.file n)) data (some data.length)) with
          position := Function.update s.position (.file n)
            (s.position (.file n) + data.length) }) := by
    rw [writeFile]
    dsimp only
    rw [hsome]
    dsimp only
    rw [Nat.min_eq_right hle]
  obtain ⟨-, hon⟩ : Over (.file n) base before c.wb (c.wb + data.length) s
      (writeFile ((failsFrom limit).withMemory memory) (.file n) data s).2 ∧ _ :=
    over_writeFile s hbase s ⟨fun _ _ => hat, refl_of _ s⟩
  rw [writeRetries, writeTries, bind_apply]
  rw [hwrite] at hon ⊢
  rw [if_pos rfl]
  refine ⟨_, rfl, List.suffix_cons _ _, hlimit, ?_, hon rfl⟩
  rw [← hat]
  exact Function.update_self _ _ _

/-- The calls of the first half of a turn. -/
def readCalls (source : Handle) : Nat := if source = .null then 0 else 1

/-- A first half that does not fill the buffer. -/
theorem readNext_first (hne : .file n ≠ source) (hlimit : s.calls.length < limit)
    (hc : c.rSize = bufSize sectorSize) (hpos : 0 < firstSize image source sectorSize s)
    (hshort : available image source s < bufSize sectorSize) :
    ∃ c₁ t, readNext ((failsFrom limit).withMemory memory) image source (bufSize sectorSize) c s =
        (.inl c₁, t) ∧
      c₁.wb = c.wb ∧ c₁.rSize = firstSize image source sectorSize s ∧
      c₁.buffer (available image source s) = c.buffer (available image source s) ∧
      s.calls <:+ t.calls ∧ t.calls.length = s.calls.length + readCalls source ∧
      t.position (.file n) = s.position (.file n) := by
  cases source with
  | null => exact ⟨c, s, rfl, rfl, hc, rfl, List.suffix_rfl, rfl, rfl⟩
  | invalid =>
    have hzero : available image .invalid s = 0 := rfl
    rw [firstSize, if_neg (by simp)] at hpos
    omega
  | file m =>
    rw [firstSize, if_neg (by simp)] at hpos ⊢
    have hread : ((failsFrom limit).withMemory memory).readFile s.calls.length = true :=
      decide_eq_true hlimit
    have hlength : ((image.drop (s.position (.file m))).take (bufSize sectorSize)).length =
        min (bufSize sectorSize) (available image (.file m) s) := by
      rw [List.length_take, List.length_drop, available]
    rw [readNext, if_neg (by simp), bind_apply, readFile]
    dsimp only
    rw [hread, if_pos rfl]
    generalize (image.drop (s.position (.file m))).take (bufSize sectorSize) = data at hlength ⊢
    dsimp only
    rw [if_neg (by omega)]
    refine ⟨_, _, rfl, rfl, hlength, ?_, List.suffix_cons _ _, rfl, ?_⟩
    · change fill c.buffer data _ = _
      rw [fill, List.getElem?_eq_none (by omega), Option.getD_none]
    · exact Function.update_of_ne hne _ _

/-- A first write of more than was read. -/
theorem size_of_short (hmin : 512 ≤ sectorSize) (hpow : sectorSize.isPowerOfTwo)
    (hshort : available image source s <
      roundUp sectorSize (min targetSize (firstSize image source sectorSize s))) :
    0 < firstSize image source sectorSize s ∧
      firstSize image source sectorSize s ≤ bufSize sectorSize ∧
      roundUp sectorSize (min targetSize (firstSize image source sectorSize s)) ≤
        bufSize sectorSize ∧
      bufSize sectorSize < 2 ^ 32 := by
  have hfirst : firstSize image source sectorSize s ≤ bufSize sectorSize := by
    rw [firstSize]
    split_ifs <;> omega
  have hpos : 0 < firstSize image source sectorSize s := by
    by_contra hzero
    have hround : roundUp sectorSize (min targetSize (firstSize image source sectorSize s)) ≤ 0 :=
      roundUp_le_of_dvd (by omega) (Nat.dvd_zero _) (by omega)
    omega
  have hmax : sectorSize < 2 ^ 32 := by
    by_contra hlarge
    rw [bufSize_eq_zero hpow (Nat.le_of_not_lt hlarge)] at hfirst
    omega
  obtain ⟨-, hlt, hdvd⟩ := bufSize_bounds hmin hmax
  exact ⟨hpos, hfirst, roundUp_le_of_dvd (by omega) hdvd (by omega), hlt⟩

/-- A turn that writes a byte of the buffer that was not read, and a turn that fails. -/
theorem loop_leaks (hne : .file n ≠ source) (hmin : 512 ≤ sectorSize)
    (hpow : sectorSize.isPowerOfTwo) (htarget : targetSize < 2 ^ 63) (hdrive : 0 < driveSize)
    (hwb : c.wb = 0) (hc : c.rSize = bufSize sectorSize) (hat : s.position (.file n) = 0)
    (hbase : base <:+ s.calls) (hlimit : s.calls.length + readCalls source + 1 = limit)
    (hshort : available image source s <
      roundUp sectorSize (min targetSize (firstSize image source sectorSize s))) :
    ∃ ret t, loop (copyStep ((failsFrom limit).withMemory memory) image (.file n) source sectorSize
        driveSize targetSize) 2 c s = (some ret, t) ∧
      base <:+ t.calls ∧
      ∀ bytes, Contents (.file n) base before t.calls bytes →
        bytes (available image source s) = c.buffer (available image source s) := by
  obtain ⟨hpos, hfirst, hround, hbuf⟩ := size_of_short hmin hpow hshort
  have hlt : s.calls.length < limit := by omega
  obtain ⟨c₁, t₁, hread, hwb₁, hsize₁, hbyte, hsuffix₁, hlength₁, hat₁⟩ :
      ∃ c₁ t₁, readNext ((failsFrom limit).withMemory memory) image source (bufSize sectorSize) c
        s = (.inl c₁, t₁) ∧ _ := readNext_first hne hlt hc hpos (by omega)
  have hsize : padSize sectorSize (clipSize targetSize c₁.wb c₁.rSize) =
      roundUp sectorSize (min targetSize (firstSize image source sectorSize s)) := by
    rw [hwb₁, hwb, hsize₁, padSize_first hpow hmin htarget hfirst]
  obtain ⟨t₂, hwrite, hsuffix₂, hlength₂, hat₂, hon⟩ :
      ∃ t₂, writeBuffer ((failsFrom limit).withMemory memory) (.file n) sectorSize targetSize c₁
        t₁ = (.inl (c₁.advance sectorSize targetSize), t₂) ∧ _ :=
    writeBuffer_last before (hbase.trans hsuffix₁) (by omega) (by omega) (by omega)
  have hstep : copyStep ((failsFrom limit).withMemory memory) image (.file n) source sectorSize
      driveSize targetSize c s = (.inl (c₁.advance sectorSize targetSize), t₂) := by
    rw [copyStep_eq _ _ _ _ _ _ _ _ (hwb ▸ hdrive), bind_apply, hread]
    exact hwrite
  have hwb₂ : (c₁.advance sectorSize targetSize).wb =
      roundUp sectorSize (min targetSize (firstSize image source sectorSize s)) := by
    rw [Copy.advance, hsize, hwb₁, hwb, Nat.zero_add, Nat.mod_eq_of_lt (by omega)]
  obtain ⟨ret, size, hret, hover⟩ :
      ∃ ret size, (copyStep ((failsFrom limit).withMemory memory) image (.file n) source sectorSize
        driveSize targetSize (c₁.advance sectorSize targetSize) t₂).1 = .inr ret ∧ _ :=
    copyStep_failsFrom before ((hbase.trans hsuffix₁).trans hsuffix₂) hlength₂.ge (by omega)
  refine ⟨ret, _, ?_, ((hbase.trans hsuffix₁).trans hsuffix₂).trans hover.calls, ?_⟩
  · rw [loop_succ, hstep]
    dsimp only
    rw [loop_succ, hret]
  · intro bytes' hbytes'
    obtain ⟨bytes, hbytes, hout⟩ :=
      hover.outside ((hbase.trans hsuffix₁).trans hsuffix₂) bytes' hbytes'
    rw [hout _ (Or.inl (hwb₂ ▸ hshort)), ← hbyte]
    rw [hsize, hwb₁, hwb] at hon
    have hput := hon bytes hbytes (available image source s) (c₁.buffer (available image source s))
    rw [Nat.zero_add] at hput
    refine hput ?_
    rw [Disk.bytes, List.getElem?_map, List.getElem?_range hshort, Option.map_some]

/-- The state in which the copy loop begins. -/
theorem allocated_failsFrom (hpow : (effectiveSectorSize sectorSize).isPowerOfTwo)
    (hlimit : s.calls.length < limit) :
    ∃ t, allocated ((failsFrom limit).withMemory memory) (.file n) sectorSize s =
        (some ⟨0, memory (s.calls.length + 1)⟩, t) ∧
      s.calls <:+ t.calls ∧ t.calls.length = s.calls.length + 2 ∧ t.position (.file n) = 0 := by
  have htrue : ((failsFrom limit).withMemory memory).setFilePointerEx s.calls.length = true :=
    decide_eq_true hlimit
  rw [allocated, setFilePointerEx, mmMalloc]
  dsimp only
  rw [htrue, if_pos rfl, if_pos hpow]
  refine ⟨_, rfl, ?_, rfl, ?_⟩
  · exact (List.suffix_cons _ _).trans (List.suffix_cons _ _)
  · exact Function.update_self _ _ _

theorem over_afterLoop {drive : Handle} {offset : Nat} (r : Option Bool × System) :
    Over drive base before offset limit r.2 (afterLoop os drive r).2 := by
  obtain ⟨_ | _ | _, t⟩ := r
  · exact refl_of _ t
  · exact refl_of _ t
  · exact over_of_other (rfl : (refreshDriveLayout os drive t).2.calls = _ :: _) fun _ _ h => h

/-- The drive holds a byte of the memory. -/
theorem writeDrive_leaks (hpos : 0 ≤ imageSize) (hlt : imageSize < 2 ^ 63) (hne : .file n ≠ source)
    (hpow : (effectiveSectorSize sectorSize).isPowerOfTwo) (hdrive : 0 < driveSize)
    (hshort : available image source s < roundUp (effectiveSectorSize sectorSize)
      (min imageSize.toNat (firstSize image source (effectiveSectorSize sectorSize) s)))
    (memory : Nat → Nat → UInt8) (before : Nat → UInt8) :
    ∃ ret t, writeDrive ((failsFrom (s.calls.length + readCalls source + 3)).withMemory memory)
        image (.file n) source sectorSize driveSize imageSize 2 s = (some ret, t) ∧
      s.calls <:+ t.calls ∧
      ∀ bytes, Contents (.file n) s.calls before t.calls bytes →
        bytes (available image source s) =
          memory (s.calls.length + 1) (available image source s) := by
  obtain ⟨hmod, htarget⟩ := toNat_mod_of_lt hpos hlt
  obtain ⟨t, hallocated, hsuffix, hlength, hat⟩ :
      ∃ t, allocated ((failsFrom (s.calls.length + readCalls source + 3)).withMemory memory)
        (.file n) sectorSize s = (some ⟨0, memory (s.calls.length + 1)⟩, t) ∧ _ :=
    allocated_failsFrom hpow (by omega)
  have havailable : available image source (allocated ((failsFrom (s.calls.length +
      readCalls source + 3)).withMemory memory) (.file n) sectorSize s).2 =
      available image source s := available_allocated _ sectorSize hne
  rw [hallocated] at havailable
  have hfirst : firstSize image source (effectiveSectorSize sectorSize) t =
      firstSize image source (effectiveSectorSize sectorSize) s := by
    rw [firstSize, firstSize, havailable]
  rw [← havailable, ← hfirst] at hshort
  have hlimit : t.calls.length + readCalls source + 1 =
      s.calls.length + readCalls source + 3 := by omega
  obtain ⟨ret, t', hloop, hcalls, hbyte⟩ :
      ∃ ret t', loop (copyStep ((failsFrom (s.calls.length + readCalls source + 3)).withMemory
          memory) image (.file n) source (effectiveSectorSize sectorSize) driveSize imageSize.toNat)
          2 (startCopy sectorSize ⟨0, memory (s.calls.length + 1)⟩) t = (some ret, t') ∧
        s.calls <:+ t'.calls ∧
        ∀ bytes, Contents (.file n) s.calls before t'.calls bytes →
          bytes (available image source t) =
            memory (s.calls.length + 1) (available image source t) :=
    loop_leaks hne (le_effectiveSectorSize _) hpow htarget hdrive rfl rfl hat hsuffix hlimit hshort
  have hover : Over (.file n) s.calls before 0 0 t' (afterLoop ((failsFrom (s.calls.length +
      readCalls source + 3)).withMemory memory) (.file n) (some ret, t')).2 :=
    over_afterLoop (some ret, t')
  rw [writeDrive_eq imageSize 2 (congrArg Prod.fst hallocated) (Nat.zero_mod _), hmod, hallocated,
    hloop]
  refine ⟨ret, (afterLoop _ (.file n) (some ret, t')).2, Prod.ext (afterLoop_fst _) rfl,
    hcalls.trans hover.calls, fun bytes' h => ?_⟩
  obtain ⟨bytes, hbytes, hout⟩ := hover.outside hcalls bytes' h
  rw [hout _ (Or.inr (Nat.zero_le _)), ← havailable]
  exact hbyte bytes hbytes

/-- Two runs whose memory is all zeros and all ones. -/
theorem not_leavesSame_of_lt (hpos : 0 ≤ imageSize) (hlt : imageSize < 2 ^ 63)
    (hne : .file n ≠ source) (hpow : (effectiveSectorSize sectorSize).isPowerOfTwo)
    (hdrive : 0 < driveSize)
    (hshort : available image source s < roundUp (effectiveSectorSize sectorSize)
      (min imageSize.toNat (firstSize image source (effectiveSectorSize sectorSize) s))) :
    ¬ LeavesSame image n source sectorSize driveSize imageSize s := by
  intro h
  obtain ⟨ret, t, hrun, hcalls, hbyte⟩ :=
    writeDrive_leaks hpos hlt hne hpow hdrive hshort (fun _ _ => 0) fun _ => 0
  obtain ⟨ret', t', hrun', -, hbyte'⟩ :=
    writeDrive_leaks hpos hlt hne hpow hdrive hshort (fun _ _ => 1) fun _ => 0
  obtain ⟨-, hsame⟩ := h (failsFrom (s.calls.length + readCalls source + 3)) (fun _ _ => 0)
    (fun _ _ => 1) (fun _ => 0) 2 ret (congrArg Prod.fst hrun)
  obtain ⟨bytes, hbytes⟩ : ∃ bytes, Contents (.file n) s.calls (fun _ => 0) t.calls bytes :=
    exists_contents hcalls
  rw [hrun, hrun'] at hsame
  have hzero := hbyte bytes hbytes
  rw [hbyte' bytes ((hsame bytes).1 hbytes)] at hzero
  exact absurd hzero (by decide)

end WriteDrive

/-- **No memory reaches the drive.** Two runs of `WriteDrive` that differ in what was in the memory
of the buffer leave the same on the drive, for every outcome of the calls, if and only if the first
write, which is one of whole sectors, has no more than the bytes that are there to be read. -/
theorem leavesSame_iff (image : List UInt8) (n : Nat) (source : Handle)
    (sectorSize driveSize : Nat) (imageSize : Int) (s : System) (hpos : 0 ≤ imageSize)
    (hlt : imageSize < 2 ^ 63) (hne : .file n ≠ source) :
    LeavesSame image n source sectorSize driveSize imageSize s ↔
      ((effectiveSectorSize sectorSize).isPowerOfTwo → 0 < driveSize →
        roundUp (effectiveSectorSize sectorSize)
            (min imageSize.toNat (firstSize image source (effectiveSectorSize sectorSize) s)) ≤
          available image source s) := by
  refine ⟨fun h hpow hdrive => ?_, leavesSame_of_le hpos hlt hne⟩
  by_contra hnot
  exact not_leavesSame_of_lt hpos hlt hne hpow hdrive (Nat.lt_of_not_le hnot) h

/-- An image of one sector. -/
theorem leavesSame_sector :
    LeavesSame (List.replicate 512 7) 0 (.file 1) 512 1024 512 {} := by
  refine (leavesSame_iff _ 0 (.file 1) 512 1024 512 {} (by decide) (by decide) (by decide)).2 ?_
  intro _ _
  decide +kernel

/-- An image of one byte, on a drive with sectors of 512 bytes: the rest of the first sector is what
was in the memory. -/
theorem not_leavesSame_byte : ¬ LeavesSame [7] 0 (.file 1) 512 1024 1 {} := by
  refine not_leavesSame_of_lt (by decide) (by decide) (by decide) ⟨9, rfl⟩ (by decide) ?_
  decide +kernel

end UsbMaker.Disk
