import UsbMaker.Disk.Accounts

/-!
# The writes of `WriteDrive`

Whether `WriteDrive` writes at all is decided in the first turn of its copy loop: it writes if it
has a buffer, the drive is not empty, and something is read of the image. Whatever size it is given,
it returns, since each turn reads on in the image.

## Main definitions

* `Disk.HasWritten`, `Disk.WriteReached`.

## Main results

* `Disk.hasWritten_writeDrive_iff`.
* `Disk.writeDrive_returns`.
-/

namespace UsbMaker.Disk

open Program

def Call.isWrite : Call → Bool
  | .writeFile .. => true
  | _ => false

/-- The calls of `WriteDrive` that do not write. -/
def Call.prepares : Call → Bool
  | .setFilePointerEx .. | .mmMalloc .. | .readFile .. | .sleep _ => true
  | .deviceIoControl _ code _ => code == .updateProperties
  | _ => false

/-- `WriteDrive` is called in a state in which it comes to a `WriteFile`, when the image is open: it
has a buffer, the drive is not empty, and there is something to read of the image. -/
def WriteReached (os : Os) (image : List UInt8) (sectorSize driveSize : Nat) (s : System) : Prop :=
  (effectiveSectorSize sectorSize).isPowerOfTwo ∧
    (∃ block, os.mmMalloc (s.calls.length + 1) = some block ∧
      block.address % effectiveSectorSize sectorSize = 0) ∧
    0 < driveSize ∧ os.readFile (s.calls.length + 2) = true ∧ image ≠ []

section Writes

variable {os : Os} {image : List UInt8} {drive source : Handle} {sectorSize driveSize : Nat}
  {targetSize : Nat} {c : Copy} {s : System}

/-- A write has been issued. -/
def HasWritten (s : System) : Prop := ∃ call ∈ s.calls, call.isWrite = true

theorem HasWritten.adds {P : Call → Bool} {s' : System} (h : HasWritten s) (hs : Adds P s s') :
    HasWritten s' := by
  obtain ⟨call, hmem, hwrite⟩ := h
  exact ⟨call, hs.mem hmem, hwrite⟩

theorem hasWritten_writeFile (data : List UInt8) :
    Ensures (fun _ => True) (writeFile os drive data) fun _ => HasWritten := by
  intro s _
  unfold writeFile
  split
  · exact ⟨_, List.mem_cons_self, rfl⟩
  · exact ⟨_, List.mem_cons_self, rfl⟩
  · split
    · exact ⟨_, List.mem_cons_self, rfl⟩
    · exact ⟨_, List.mem_cons_self, rfl⟩

theorem hasWritten_writeTries (wb : Nat) (data : List UInt8) (n : Nat) :
    Ensures (fun _ => True) (writeTries os drive wb data (n + 1)) fun _ => HasWritten := by
  refine .bind (hasWritten_writeFile data) fun written => ?_
  split
  · exact .pure fun _ hs => hs
  · split
    · exact .bind (fun s hs => hs.adds (P := fun _ => true) (adds_setFormatStatus _ s)) fun _ =>
        .pure fun _ hs => hs
    · refine .bind (Q := fun _ => HasWritten)
        (fun s hs => hs.adds (adds_setFilePointerEx wb s)) fun ok => ?_
      split
      · refine .bind (Q := fun _ => HasWritten) (fun s hs => ?_) fun _ => ?_
        · exact hs.adds (P := fun _ => true) (adds_of_calls rfl rfl)
        · exact fun s hs => hs.adds (adds_writeTries wb data n s)
      · exact .pure fun _ hs => hs

/-- What the first half of a turn makes of a `ReadFile` that succeeds. -/
theorem readNext_of_read (image : List UInt8) (m size : Nat) (c : Copy)
    (hread : os.readFile s.calls.length = true) :
    ∃ t, Adds Call.prepares s t ∧
      readNext os image (.file m) size c s =
        (if ((image.drop (s.position (.file m))).take size).length = 0 then .inr true
          else .inl { c with
            rSize := ((image.drop (s.position (.file m))).take size).length
            buffer := fill c.buffer ((image.drop (s.position (.file m))).take size) }, t) := by
  refine ⟨(readFile os image (.file m) size s).2, ?_, ?_⟩
  · simp only [readFile, hread, ↓reduceIte]
    exact adds_of_calls rfl rfl
  · simp only [readNext, reduceCtorEq, ↓reduceIte, bind_apply, readFile, hread]
    split <;> rfl

/-- A turn that reads something writes. -/
theorem hasWritten_copyStep {m : Nat} (hwb : c.wb < driveSize)
    (hread : os.readFile s.calls.length = true)
    (hdata : ((image.drop (s.position (.file m))).take (bufSize sectorSize)).length ≠ 0) :
    HasWritten (copyStep os image drive (.file m) sectorSize driveSize targetSize c s).2 := by
  obtain ⟨t, -, hnext⟩ := readNext_of_read image m (bufSize sectorSize) c hread
  rw [if_neg hdata] at hnext
  rw [copyStep, if_pos hwb, bind_apply, hnext]
  refine Ensures.bind (T := fun _ => HasWritten) (hasWritten_writeTries c.wb _ 2) (fun r => ?_) t
    trivial
  cases r <;> exact .pure fun _ hs => hs

/-- A turn that reads nothing is the last one. -/
theorem copyStep_of_not_read (hnull : source ≠ .null)
    (h : c.wb < driveSize → ∀ m, source = .file m → os.readFile s.calls.length = true →
      ((image.drop (s.position source)).take (bufSize sectorSize)).length = 0) :
    ∃ ret t, copyStep os image drive source sectorSize driveSize targetSize c s = (.inr ret, t) ∧
      Adds Call.prepares s t := by
  by_cases hwb : c.wb < driveSize
  · simp only [copyStep, if_pos hwb, bind_apply]
    cases source with
    | null => exact absurd rfl hnull
    | invalid => exact ⟨false, _, rfl, adds_of_calls rfl rfl⟩
    | file m =>
      cases hread : os.readFile s.calls.length with
      | true =>
        obtain ⟨t, ht, hnext⟩ := readNext_of_read image m (bufSize sectorSize) c hread
        rw [if_pos (h hwb m rfl hread)] at hnext
        rw [hnext]
        exact ⟨true, t, rfl, ht⟩
      | false =>
        refine ⟨false, { s.record (.readFile (.file m) (bufSize sectorSize) none) with
          formatStatus := storageError readFault }, ?_, adds_of_calls rfl rfl⟩
        simp only [readNext, reduceCtorEq, ↓reduceIte, bind_apply, readFile, hread]
        rfl
  · exact ⟨true, s, by simp only [copyStep, if_neg hwb]; rfl, refl_of _ s⟩

theorem Call.not_isWrite_of_prepares {call : Call} (h : call.prepares = true) :
    call.isWrite = false := by
  cases call <;> first | rfl | cases h

theorem HasWritten.of_adds {P : Call → Bool} {s' : System} (h : HasWritten s') (hs : Adds P s s')
    (hP : ∀ call, P call = true → call.isWrite = false) : HasWritten s := by
  obtain ⟨call, hmem, hwrite⟩ := h
  refine ⟨call, (hs.mem_iff ?_).mp hmem, hwrite⟩
  by_contra hcall
  rw [hP call (by simpa using hcall)] at hwrite
  cases hwrite

/-- Rewinding the drive and allocating the buffer. -/
theorem allocated_spec (os : Os) (sectorSize : Nat)
    (hne : ∀ n, drive = .file n → drive ≠ source) (hfresh : Fresh source s) :
    Adds Call.prepares s (allocated os drive sectorSize s).2 ∧
      (allocated os drive sectorSize s).2.calls.length = s.calls.length + 2 ∧
      (∀ m, source = .file m → (allocated os drive sectorSize s).2.position source = 0) ∧
      (allocated os drive sectorSize s).1 =
        if (effectiveSectorSize sectorSize).isPowerOfTwo then os.mmMalloc (s.calls.length + 1)
        else none := by
  have hrewind : ∃ ok, (setFilePointerEx os drive 0 s).2.calls =
      .setFilePointerEx drive 0 ok :: s.calls := by
    unfold setFilePointerEx
    split
    · exact ⟨_, rfl⟩
    · exact ⟨_, rfl⟩
    · split <;> exact ⟨_, rfl⟩
  obtain ⟨ok, hcalls⟩ := hrewind
  have hlen : (setFilePointerEx os drive 0 s).2.calls.length = s.calls.length + 1 := by
    rw [hcalls, List.length_cons]
  refine ⟨trans_of _ (adds_of_calls hcalls rfl) (adds_of_calls rfl rfl), congrArg (· + 1) hlen,
    fun m hm => ?_, by rw [allocated, mmMalloc, hlen]⟩
  have hmoves : MovesOnly drive s (setFilePointerEx os drive 0 s).2 :=
    movesOnly_setFilePointerEx 0 s
  refine (hmoves.position source ?_).trans (hfresh m hm).2
  rintro rfl
  exact hne m hm rfl

theorem hasWritten_afterLoop_iff (r : Option Bool × System) :
    HasWritten (afterLoop os drive r).2 ↔ HasWritten r.2 := by
  have hadds : Adds Call.prepares r.2 (afterLoop os drive r).2 := by
    obtain ⟨_ | _ | _, s⟩ := r
    · exact refl_of _ s
    · exact refl_of _ s
    · exact adds_of_calls rfl rfl
  exact ⟨fun h => h.of_adds hadds fun _ => Call.not_isWrite_of_prepares, fun h => h.adds hadds⟩

/-- The copy loop writes if and only if there is something to read in its first turn. -/
theorem hasWritten_loop_iff (hclean : ¬ HasWritten s) (hnull : source ≠ .null)
    (hpos : ∀ m, source = .file m → s.position source = 0) (hbuf : 0 < bufSize sectorSize)
    (hwb : c.wb = 0) (turns : Nat) :
    HasWritten (loop (copyStep os image drive source sectorSize driveSize targetSize) (turns + 1) c
        s).2 ↔
      source ≠ .invalid ∧ 0 < driveSize ∧ os.readFile s.calls.length = true ∧ image ≠ [] := by
  by_cases hreads : source ≠ .invalid ∧ 0 < driveSize ∧ os.readFile s.calls.length = true ∧
      image ≠ []
  · refine ⟨fun _ => hreads, fun _ => ?_⟩
    obtain ⟨hinvalid, hdrive, hread, himage⟩ := hreads
    obtain ⟨m, rfl⟩ : ∃ m, source = .file m := by
      cases source with
      | null => exact absurd rfl hnull
      | invalid => exact absurd rfl hinvalid
      | file m => exact ⟨m, rfl⟩
    have hdata : ((image.drop (s.position (.file m))).take (bufSize sectorSize)).length ≠ 0 := by
      have := List.length_pos_iff.mpr himage
      rw [hpos m rfl, List.drop_zero, List.length_take]
      omega
    have hfirst : HasWritten (copyStep os image drive (.file m) sectorSize driveSize targetSize c
        s).2 := hasWritten_copyStep (by omega) hread hdata
    rw [loop_succ]
    split
    · exact hfirst.adds (Keeps.loop (adds_copyStep _ _ _) _ _ _)
    · exact hfirst
  · refine ⟨fun hwritten => absurd hwritten ?_, fun h => absurd h hreads⟩
    obtain ⟨ret, t, hstep, hadds⟩ : ∃ ret t, copyStep os image drive source sectorSize driveSize
        targetSize c s = (.inr ret, t) ∧ Adds Call.prepares s t := by
      refine copyStep_of_not_read hnull fun hlt m hm hread => ?_
      have himage : image = [] := by
        by_contra himage
        exact hreads ⟨by simp [hm], by omega, hread, himage⟩
      simp [himage]
    rw [loop_succ, hstep]
    exact fun hwritten => hclean (hwritten.of_adds hadds fun _ => Call.not_isWrite_of_prepares)

/-- `WriteDrive` writes if and only if it comes to a `WriteFile` in its first turn. -/
theorem hasWritten_writeDrive_iff (hclean : ¬ HasWritten s) (hnull : source ≠ .null)
    (hne : ∀ n, drive = .file n → drive ≠ source) (hfresh : Fresh source s)
    (hsector : sectorSize < 2 ^ 32) (imageSize : Int) (turns : Nat) :
    HasWritten
        (writeDrive os image drive source sectorSize driveSize imageSize (turns + 1) s).2 ↔
      source ≠ .invalid ∧ WriteReached os image sectorSize driveSize s := by
  obtain ⟨hadds, hlen, hpos, hblock⟩ := allocated_spec os sectorSize hne hfresh
  have hclean' : ¬ HasWritten (allocated os drive sectorSize s).2 := fun h =>
    hclean (h.of_adds hadds fun _ => Call.not_isWrite_of_prepares)
  have hbuf : 0 < bufSize (effectiveSectorSize sectorSize) := by
    have hbounds : 512 ≤ effectiveSectorSize sectorSize ∧
        effectiveSectorSize sectorSize < 2 ^ 32 := by
      rw [effectiveSectorSize]
      split_ifs <;> omega
    have := (bufSize_bounds hbounds.1 hbounds.2).1
    rw [ddBufferSize] at this
    omega
  by_cases hbuffer : ∃ block, (allocated os drive sectorSize s).1 = some block ∧
      block.address % effectiveSectorSize sectorSize = 0
  · obtain ⟨block, hsome, haligned⟩ := hbuffer
    have hpow := isPowerOfTwo_of_allocated hsome
    rw [hblock, if_pos hpow] at hsome
    rw [writeDrive_eq imageSize _ (by rw [hblock, if_pos hpow, hsome]) haligned,
      hasWritten_afterLoop_iff, hasWritten_loop_iff hclean' hnull hpos hbuf rfl, hlen, WriteReached]
    exact ⟨fun h => ⟨h.1, hpow, ⟨block, hsome, haligned⟩, h.2⟩, fun h => ⟨h.1, h.2.2.2⟩⟩
  · constructor
    · rw [HasWritten, (writeDrive_fails imageSize (turns + 1) hbuffer).2]
      exact fun h => absurd h hclean'
    · rintro ⟨-, hpow, ⟨block, hsome, haligned⟩, -⟩
      exact absurd ⟨block, by rw [hblock, if_pos hpow, hsome], haligned⟩ hbuffer

/-- A turn that goes on has read on in the image. -/
theorem reads_readNext (hnull : source ≠ .null) (size : Nat) (c : Copy) (s : System) :
    Turn (fun _ t => image.length - t.position source < image.length - s.position source)
      (fun _ _ => True) (readNext os image source size c s).1
      (readNext os image source size c s).2 := by
  cases source with
  | null => exact absurd rfl hnull
  | invalid => trivial
  | file m =>
    rw [readNext, if_neg hnull]
    refine Ensures.bind (P := IsAt (.file m) (s.position (.file m))) (T := Turn
      (fun _ t => image.length - t.position (.file m) < image.length - s.position (.file m))
      fun _ _ => True) (data_readFile _ size) (fun r => ?_) s (fun _ _ => rfl)
    cases r with
    | none =>
      exact .bind (Q := fun _ _ => True) (fun _ _ => trivial) fun _ => .pure fun _ _ => trivial
    | some data =>
      dsimp only
      split_ifs with hempty
      · exact .pure fun _ _ => trivial
      · refine .pure fun t ht => ?_
        obtain ⟨hdata, hat⟩ := ht data rfl
        have hlen : data.length ≤ image.length - s.position (.file m) := by
          rw [hdata, List.length_take, List.length_drop]
          exact Nat.min_le_right _ _
        change image.length - t.position (.file m) < _
        rw [hat m rfl]
        omega

theorem reads_copyStep (hnull : source ≠ .null) (hne : ∀ n, drive = .file n → drive ≠ source)
    (c : Copy) (s : System) :
    Turn (fun _ t => True ∧ image.length - t.position source < image.length - s.position source)
      (fun _ _ => True)
      (copyStep os image drive source sectorSize driveSize targetSize c s).1
      (copyStep os image drive source sectorSize driveSize targetSize c s).2 := by
  rw [copyStep]
  split_ifs
  · cases source with
    | null => exact absurd rfl hnull
    | invalid => trivial
    | file m =>
      have hother : Handle.file m ≠ drive := fun heq => hne m heq.symm heq.symm
      refine Ensures.bind (P := fun t => t = s) (Q := Turn
        (fun _ t => image.length - t.position (.file m) < image.length - s.position (.file m))
        fun _ _ => True) (T := Turn (fun _ t => True ∧
        image.length - t.position (.file m) < image.length - s.position (.file m))
        fun _ _ => True) ?_ (fun r => ?_) s rfl
      · rintro t rfl
        exact reads_readNext hnull _ c t
      · cases r with
        | inr ret => exact .pure fun _ _ => trivial
        | inl c₁ =>
          refine .bind (Q := fun _ t =>
            image.length - t.position (.file m) < image.length - s.position (.file m))
            (fun t ht => ?_) fun r => ?_
          · dsimp only
            rw [(movesOnly_writeTries _ t).position _ hother]
            exact ht
          · cases r with
            | none => exact .pure fun _ _ => trivial
            | some wSize => exact .pure fun _ ht => ⟨trivial, ht⟩
  · trivial

/-- `WriteDrive` returns, whatever size it is given. -/
theorem writeDrive_returns (hnull : source ≠ .null) (hne : ∀ n, drive = .file n → drive ≠ source)
    (imageSize : Int) :
    ∃ ret, (writeDrive os image drive source sectorSize driveSize imageSize
      (image.length + 1) s).1 = some ret := by
  by_cases hbuffer : ∃ block, (allocated os drive sectorSize s).1 = some block ∧
      block.address % effectiveSectorSize sectorSize = 0
  · obtain ⟨block, hsome, haligned⟩ := hbuffer
    rw [writeDrive_eq imageSize _ hsome haligned, afterLoop_fst]
    obtain ⟨ret, hret, -⟩ := exists_loop (I := fun _ _ => True)
      (fun _ t => image.length - t.position source) (fun c t _ => reads_copyStep hnull hne c t)
      (image.length + 1) (startCopy sectorSize block) (allocated os drive sectorSize s).2 trivial
      (by omega)
    exact ⟨ret, hret⟩
  · exact ⟨false, (writeDrive_fails imageSize _ hbuffer).1⟩

end Writes

end UsbMaker.Disk
