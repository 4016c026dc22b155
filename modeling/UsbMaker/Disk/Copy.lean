import UsbMaker.Disk.WriteDrive

/-!
# The copy loop

While the copy loop of `WriteDrive` runs, both file pointers are at `wb`, which is a multiple of
the buffer size, and what lies below `wb` has been written (`Copied`). The loop ends well at the
end of the image or when `wb` reaches the drive size that was reported; in the second case the
image is complete if its last buffer begins below that size.

## Main definitions

* `Disk.Written`: every byte of an image has been written where it belongs.
* `Disk.Copied`: the invariant of the copy loop.
* `Disk.lastBuffer`: where the last buffer of an image begins.

## Main results

* `Disk.wrote_writeTries`: the loop of `WRITE_RETRIES` writes all of a buffer.
* `Disk.copied_copyStep`: a turn of the copy loop keeps the invariant.
* `Disk.Ended.written`: when the image is complete.
-/

namespace UsbMaker.Disk

open Program

/-- A successful `WriteFile` puts the byte at an offset of the drive. -/
def Call.puts (i : Nat) (byte : UInt8) : Call → Bool
  | .writeFile _ offset data (some n) =>
    decide (offset ≤ i) && (data.take n)[i - offset]? == some byte
  | _ => false

/-- Every byte of the image has been written at its offset by a successful `WriteFile`. -/
def Written (image : List UInt8) (calls : List Call) : Prop :=
  ∀ i byte, image[i]? = some byte → ∃ call ∈ calls, call.puts i byte = true

/-! ### Sizes -/

section Sizes

variable {sectorSize rSize : Nat}

theorem le_effectiveSectorSize (sectorSize : Nat) : 512 ≤ effectiveSectorSize sectorSize := by
  rw [effectiveSectorSize]
  split_ifs <;> omega

theorem effectiveSectorSize_bounds (sector : UInt32) :
    512 ≤ effectiveSectorSize sector.toNat ∧ effectiveSectorSize sector.toNat < 2 ^ 32 := by
  have := sector.toNat_lt
  rw [effectiveSectorSize]
  split_ifs <;> omega

/-- Rounding up to a multiple. -/
theorem le_roundUp (n : Nat) (h : 0 < sectorSize) :
    n ≤ (n + sectorSize - 1) / sectorSize * sectorSize := by
  have hdiv := Nat.div_add_mod (n + sectorSize - 1) sectorSize
  have hmod := Nat.mod_lt (n + sectorSize - 1) h
  rw [Nat.mul_comm] at hdiv
  omega

theorem roundUp_le {n m : Nat} (h : 0 < sectorSize) (hm : sectorSize ∣ m) (hle : n ≤ m) :
    (n + sectorSize - 1) / sectorSize * sectorSize ≤ m := by
  obtain ⟨k, rfl⟩ := hm
  have hlt : (n + sectorSize - 1) / sectorSize < k + 1 := by
    apply Nat.div_lt_of_lt_mul
    rw [Nat.mul_add]
    omega
  rw [Nat.mul_comm]
  exact Nat.mul_le_mul_left _ (Nat.le_of_lt_succ hlt)

variable (hmin : 512 ≤ sectorSize) (hmax : sectorSize < 2 ^ 32)

include hmin hmax in
/-- The buffer size is not cut off. -/
theorem bufSize_eq :
    bufSize sectorSize = (ddBufferSize + sectorSize - 1) / sectorSize * sectorSize := by
  refine Nat.mod_eq_of_lt ?_
  by_cases hbig : ddBufferSize ≤ sectorSize
  · exact (roundUp_le (by omega) (Nat.dvd_refl _) hbig).trans_lt hmax
  · refine (Nat.div_mul_le_self _ _).trans_lt ?_
    unfold ddBufferSize at *
    omega

include hmin hmax in
theorem bufSize_bounds :
    ddBufferSize ≤ bufSize sectorSize ∧ bufSize sectorSize < 2 ^ 32 ∧
      sectorSize ∣ bufSize sectorSize := by
  refine ⟨?_, Nat.mod_lt _ (by decide), ?_⟩
  · rw [bufSize_eq hmin hmax]
    exact le_roundUp _ (by omega)
  · rw [bufSize_eq hmin hmax]
    exact Nat.dvd_mul_left _ _

include hmin hmax in
/-- What is read into the buffer is written from the buffer, and a whole buffer as it is. -/
theorem padSize_bounds (hle : rSize ≤ bufSize sectorSize) :
    rSize ≤ padSize sectorSize rSize ∧ padSize sectorSize rSize ≤ bufSize sectorSize ∧
      (rSize = bufSize sectorSize → padSize sectorSize rSize = rSize) := by
  obtain ⟨-, hlt, hdvd⟩ := bufSize_bounds hmin hmax
  have hround := roundUp_le (by omega) hdvd hle
  rw [padSize]
  split_ifs with hmod
  · rw [Nat.mod_eq_of_lt (hround.trans_lt hlt)]
    refine ⟨le_roundUp _ (by omega), hround, fun heq => ?_⟩
    rw [heq, Nat.mod_eq_zero_of_dvd hdvd] at hmod
    exact absurd rfl hmod
  · exact ⟨le_rfl, hle, fun _ => rfl⟩

end Sizes

/-! ### Writing a buffer -/

/-- Only the file pointer of the drive moves. -/
structure MovesOnly (drive : Handle) (s s' : System) : Prop where
  calls : s.calls ⊆ s'.calls
  position : ∀ handle ≠ drive, s'.position handle = s.position handle

variable {drive source : Handle}

instance : Std.Refl (MovesOnly drive) := ⟨fun _ => ⟨fun _ h => h, fun _ _ => rfl⟩⟩

instance : IsTrans System (MovesOnly drive) :=
  ⟨fun _ _ _ h h' => ⟨fun _ hmem => h'.calls (h.calls hmem),
    fun handle hne => (h'.position handle hne).trans (h.position handle hne)⟩⟩

theorem movesOnly_record {s : System} (call : Call) (position : Nat) :
    MovesOnly drive s { s.record call with
      position := Function.update s.position drive position } :=
  ⟨fun _ h => List.mem_cons_of_mem _ h, fun _ hne => Function.update_of_ne hne _ _⟩

theorem movesOnly_record_self {s : System} (call : Call) : MovesOnly drive s (s.record call) :=
  ⟨fun _ h => List.mem_cons_of_mem _ h, fun _ _ => rfl⟩

variable {os : Os} {wb : Nat} {data : List UInt8}

theorem movesOnly_writeFile : Keeps (MovesOnly drive) (writeFile os drive data) := by
  intro s
  unfold writeFile
  split
  · exact movesOnly_record_self _
  · exact movesOnly_record_self _
  · split
    · exact movesOnly_record_self _
    · exact movesOnly_record _ _

theorem movesOnly_setFilePointerEx (offset : Nat) :
    Keeps (MovesOnly drive) (setFilePointerEx os drive offset) := by
  intro s
  unfold setFilePointerEx
  split
  · exact movesOnly_record_self _
  · exact movesOnly_record_self _
  · split
    · exact movesOnly_record _ _
    · exact movesOnly_record_self _

theorem movesOnly_writeTries (n : Nat) :
    Keeps (MovesOnly drive) (writeTries os drive wb data n) := by
  induction n with
  | zero => exact .pure _
  | succ n ih =>
    refine .bind movesOnly_writeFile fun written => ?_
    split
    · exact .pure _
    · split
      · exact .bind (fun s => ⟨fun _ h => h, fun _ _ => rfl⟩) fun _ => .pure _
      · refine .bind (movesOnly_setFilePointerEx _) fun ok => ?_
        split
        · exact .bind (fun s => movesOnly_record_self _) fun _ => ih
        · exact .pure _

/-- The file pointer of the drive, if it is open. -/
def IsAt (drive : Handle) (offset : Nat) (s : System) : Prop :=
  ∀ n, drive = .file n → s.position drive = offset

/-- The data has been written at an offset, and the file pointer is behind it. -/
structure Wrote (drive : Handle) (offset : Nat) (data : List UInt8) (s : System) : Prop where
  position : s.position drive = offset + data.length
  call : .writeFile drive offset data (some data.length) ∈ s.calls

theorem wrote_writeFile : Ensures (IsAt drive wb) (writeFile os drive data)
    fun written s => written = some data.length → Wrote drive wb data s := by
  intro s hs hwritten
  unfold writeFile at hwritten ⊢
  cases drive with
  | null | invalid => cases hwritten
  | file n =>
    cases hw : os.writeFile s.calls.length with
    | none => simp [hw] at hwritten
    | some m =>
      simp only [hw, Option.some.injEq] at hwritten
      simp only [hwritten, hs n rfl]
      exact ⟨by simp, by simp [System.record]⟩

theorem isAt_setFilePointerEx (P : System → Prop) (offset : Nat) :
    Ensures P (setFilePointerEx os drive offset) fun ok s => ok = true → IsAt drive offset s := by
  intro s _ hok n hn
  subst hn
  rw [setFilePointerEx] at hok ⊢
  dsimp only at hok ⊢
  split_ifs at hok ⊢
  simp

/-- `WriteFile` has taken all of the data when the loop of `WRITE_RETRIES` ends well. -/
theorem wrote_writeTries (n : Nat) :
    Ensures (IsAt drive wb) (writeTries os drive wb data n)
      fun r s => ∀ wSize, r = some wSize → wSize = data.length ∧ Wrote drive wb data s := by
  induction n with
  | zero =>
    refine .pure fun s _ wSize hr => ?_
    cases hr
  | succ n ih =>
    refine .bind wrote_writeFile fun written => ?_
    split
    · rename_i hwritten
      refine .pure fun s hs wSize hr => ?_
      obtain rfl := Option.some.inj hr
      exact ⟨rfl, hs hwritten⟩
    · split
      · refine .bind (Q := fun _ _ => True) (fun _ _ => trivial) fun _ => ?_
        refine .pure fun s _ wSize hr => ?_
        cases hr
      · refine .bind (isAt_setFilePointerEx _ _) fun ok => ?_
        split
        · rename_i hok
          exact .bind (Q := fun _ => IsAt drive wb) (fun s hs => hs hok) fun _ => ih
        · refine .pure fun s _ wSize hr => ?_
          cases hr

/-! ### The copy loop -/

section Copy

variable {image : List UInt8} {sectorSize driveSize : Nat}

/-- The first bytes of the image are on the drive. -/
def WrittenBelow (image : List UInt8) (n : Nat) (calls : List Call) : Prop :=
  ∀ i < n, ∀ byte, image[i]? = some byte → ∃ call ∈ calls, call.puts i byte = true

theorem WrittenBelow.mono {n : Nat} {calls calls' : List Call} (h : WrittenBelow image n calls)
    (hsub : calls ⊆ calls') : WrittenBelow image n calls' := by
  intro i hi byte hbyte
  obtain ⟨call, hmem, hputs⟩ := h i hi byte hbyte
  exact ⟨call, hsub hmem, hputs⟩

/-- The invariant of the copy loop. Both file pointers are where `wb` is, which is a multiple of
the buffer size, until the last buffer has been written. -/
structure Copied (image : List UInt8) (size : Nat) (drive source : Handle) (c : Copy)
    (s : System) : Prop where
  driveAt : IsAt drive c.wb s
  sourceAt : (c.wb ≤ image.length ∧ size ∣ c.wb ∧ IsAt source c.wb s) ∨
    (image.length ≤ c.wb ∧ IsAt source image.length s)
  written : WrittenBelow image c.wb s.calls

/-- How the copy loop ends: with true at the end of the drive or of the image. -/
def Ended (image : List UInt8) (size : Nat) (drive source : Handle) (driveSize : Nat) (ret : Bool)
    (s : System) : Prop :=
  ret = true → ∃ c, Copied image size drive source c s ∧
    (driveSize ≤ c.wb ∨ image.length ≤ c.wb)

/-- A buffer has been read. -/
structure Loaded (image : List UInt8) (size : Nat) (drive source : Handle) (c : Copy)
    (s : System) : Prop where
  driveAt : IsAt drive c.wb s
  aligned : size ∣ c.wb
  rSize : c.rSize = min size (image.length - c.wb)
  below : c.wb < image.length
  sourceAt : IsAt source (c.wb + c.rSize) s
  buffer : ∀ j < c.rSize, image[c.wb + j]? = some (c.buffer j)
  written : WrittenBelow image c.wb s.calls

theorem movesOnly_readFile (size : Nat) :
    Keeps (MovesOnly source) (readFile os image source size) := by
  intro s
  unfold readFile
  split
  · exact movesOnly_record_self _
  · exact movesOnly_record_self _
  · split
    · exact movesOnly_record _ _
    · exact movesOnly_record_self _

/-- What `ReadFile` returns when it returns something. -/
theorem data_readFile (offset size : Nat) :
    Ensures (IsAt source offset) (readFile os image source size) fun r s => ∀ data,
      r = some data → data = (image.drop offset).take size ∧
        IsAt source (offset + data.length) s := by
  intro s hs data hr
  unfold readFile at hr ⊢
  cases source with
  | null | invalid => cases hr
  | file n =>
    dsimp only at hr ⊢
    split_ifs at hr ⊢
    obtain rfl := Option.some.inj hr
    rw [hs n rfl]
    exact ⟨rfl, fun _ _ => Function.update_self _ _ _⟩

/-- A handle that `MovesOnly` leaves alone stays where it is. -/
theorem IsAt.moves {handle : Handle} {offset : Nat} {s s' : System} (h : IsAt handle offset s)
    (hs : MovesOnly source s s') (hne : ∀ n, handle = .file n → handle ≠ source) :
    IsAt handle offset s' := fun n hn => (hs.position handle (hne n hn)).trans (h n hn)

/-- `ReadFile` reads on from where `wb` is. -/
theorem data_readFile_of_copied (hne : ∀ n, drive = .file n → drive ≠ source) (size : Nat)
    (c : Copy) :
    Ensures (Copied image size drive source c) (readFile os image source size) fun r s =>
      IsAt drive c.wb s ∧ WrittenBelow image c.wb s.calls ∧ ∀ data, r = some data →
        (c.wb ≤ image.length ∧ size ∣ c.wb ∧ data = (image.drop c.wb).take size ∧
          IsAt source (c.wb + data.length) s) ∨
        (image.length ≤ c.wb ∧ data = [] ∧ IsAt source image.length s) := by
  intro s hs
  have hmoves : MovesOnly source s (readFile os image source size s).2 := movesOnly_readFile size s
  refine ⟨hs.driveAt.moves hmoves hne, hs.written.mono hmoves.calls, fun data hr => ?_⟩
  rcases hs.sourceAt with ⟨hle, hdvd, hat⟩ | ⟨hle, hat⟩
  · exact Or.inl ⟨hle, hdvd, data_readFile _ _ s hat data hr⟩
  · obtain ⟨hdata, hafter⟩ := data_readFile _ _ s hat data hr
    have hnil : data = [] := by simp [hdata]
    exact Or.inr ⟨hle, hnil, by simpa [hnil] using hafter⟩

/-- A turn that reads leaves a buffer, or ends the loop at the end of the image. -/
theorem loaded_readNext (hnull : source ≠ .null) (hne : ∀ n, drive = .file n → drive ≠ source)
    {size : Nat} (hsize : 0 < size) (c : Copy) :
    Ensures (Copied image size drive source c) (readNext os image source size c)
      (Turn (fun c₁ s => Loaded image size drive source c₁ s ∧ c₁.wb = c.wb) fun ret s =>
        ret = true → ∃ c, Copied image size drive source c s ∧ image.length ≤ c.wb) := by
  rw [readNext]
  rw [if_neg hnull]
  refine .bind (data_readFile_of_copied hne size c) fun r => ?_
  cases r with
  | none =>
    refine .bind (Q := fun _ _ => True) (fun _ _ => trivial) fun _ => ?_
    exact .pure fun _ _ h => by cases h
  | some data =>
    dsimp only
    split_ifs with hempty
    · refine .pure fun s ⟨hdrive, hwritten, hdata⟩ _ => ⟨c, ⟨hdrive, ?_, hwritten⟩, ?_⟩
      all_goals rcases hdata data rfl with ⟨hle, hdvd, hchunk, hat⟩ | ⟨hle, -, hat⟩
      · exact Or.inl ⟨hle, hdvd, by simpa [hempty] using hat⟩
      · exact Or.inr ⟨hle, hat⟩
      · rw [hchunk] at hempty
        simp only [List.length_take, List.length_drop] at hempty
        omega
      · exact hle
    · refine .pure fun s ⟨hdrive, hwritten, hdata⟩ => ?_
      rcases hdata data rfl with ⟨hle, hdvd, hchunk, hat⟩ | ⟨-, hnil, -⟩
      · have hlen : data.length = min size (image.length - c.wb) := by simp [hchunk]
        refine ⟨⟨hdrive, hdvd, hlen, by dsimp only; omega, hat, fun j hj => ?_, hwritten⟩, rfl⟩
        dsimp only at hj ⊢
        have hget : data[j]? = image[c.wb + j]? := by
          rw [hchunk, List.getElem?_take_of_lt (by omega), List.getElem?_drop]
        rw [fill, ← hget, List.getElem?_eq_getElem hj, Option.getD_some]
      · simp [hnil] at hempty

variable (hmin : 512 ≤ sectorSize) (hmax : sectorSize < 2 ^ 32) (hlen : image.length < 2 ^ 63)

theorem clipSize_of_le {targetSize wb rSize : Nat} (h : wb + rSize ≤ targetSize)
    (hlt : targetSize < 2 ^ 64) : clipSize targetSize wb rSize = rSize := by
  rw [clipSize]
  rw [Nat.mod_eq_of_lt (h.trans_lt hlt), if_neg (by omega)]

/-- A byte of the buffer is put where it belongs. -/
theorem puts_bytes {buffer : Nat → UInt8} {size i : Nat} {byte : UInt8} (hlt : i - wb < size)
    (hle : wb ≤ i) (hbyte : buffer (i - wb) = byte) :
    (Call.writeFile drive wb (bytes buffer size) (some (bytes buffer size).length)).puts i byte =
      true := by
  simp [Call.puts, bytes, hle, hlt, hbyte]

include hmin hmax hlen in
/-- A buffer that has been read is written. -/
theorem Loaded.copied {c : Copy} {s s' : System}
    (h : Loaded image (bufSize sectorSize) drive source c s)
    (hne : ∀ n, drive = .file n → drive ≠ source) (hmoves : MovesOnly drive s s')
    (hwrote : Wrote drive c.wb (bytes c.buffer (padSize sectorSize c.rSize)) s') :
    Copied image (bufSize sectorSize) drive source
        { c with
          wb := (c.wb + padSize sectorSize c.rSize) % 2 ^ 64
          rSize := padSize sectorSize c.rSize } s' ∧
      c.wb < (c.wb + padSize sectorSize c.rSize) % 2 ^ 64 := by
  obtain ⟨hbuf, hbuflt, -⟩ := bufSize_bounds hmin hmax
  rw [ddBufferSize] at hbuf
  have hread := h.rSize
  have hbelow := h.below
  obtain ⟨hpad, hpadle, hpadeq⟩ := padSize_bounds hmin hmax (show c.rSize ≤ _ by omega)
  have hwb : (c.wb + padSize sectorSize c.rSize) % 2 ^ 64 = c.wb + padSize sectorSize c.rSize :=
    Nat.mod_eq_of_lt (by omega)
  have hsource := h.sourceAt.moves hmoves fun n hn heq => hne n (heq ▸ hn) heq.symm
  rw [hwb]
  refine ⟨⟨fun n hn => by simpa [bytes] using hwrote.position, ?_, fun i hi byte hbyte => ?_⟩,
    by omega⟩
  · by_cases hfull : c.rSize = bufSize sectorSize
    · rw [hpadeq hfull] at *
      refine Or.inl ⟨by dsimp only; omega, ?_, hsource⟩
      rw [hfull]
      exact Nat.dvd_add h.aligned (Nat.dvd_refl _)
    · refine Or.inr ⟨by dsimp only; omega, ?_⟩
      rwa [show image.length = c.wb + c.rSize by omega]
  · dsimp only at hi
    by_cases hold : i < c.wb
    · exact h.written.mono hmoves.calls i hold byte hbyte
    · have hilt : i < image.length := (List.getElem?_eq_some_iff.mp hbyte).1
      have hbuffer := h.buffer (i - c.wb) (by omega)
      rw [show c.wb + (i - c.wb) = i by omega, hbyte] at hbuffer
      exact ⟨_, hwrote.call, puts_bytes (by omega) (by omega) (Option.some.inj hbuffer).symm⟩

include hmin hmax hlen in
/-- A turn of the copy loop keeps the invariant and leaves less of the image. The loop ends well
at the end of the drive or at the end of the image. -/
theorem copied_copyStep (hnull : source ≠ .null) (hne : ∀ n, drive = .file n → drive ≠ source)
    (c : Copy) :
    Ensures (Copied image (bufSize sectorSize) drive source c)
      (copyStep os image drive source sectorSize driveSize image.length c)
      (Turn (fun c₁ s => Copied image (bufSize sectorSize) drive source c₁ s ∧
          image.length - c₁.wb < image.length - c.wb)
        (Ended image (bufSize sectorSize) drive source driveSize)) := by
  obtain ⟨hbuf, -, -⟩ := bufSize_bounds hmin hmax
  rw [ddBufferSize] at hbuf
  rw [copyStep]
  split_ifs with hwb
  · refine .bind (loaded_readNext hnull hne (by omega) c) fun r => ?_
    cases r with
    | inr ret =>
      refine .pure fun s hs hret => ?_
      obtain ⟨c, hc, hle⟩ := hs hret
      exact ⟨c, hc, Or.inr hle⟩
    | inl c₁ =>
      rintro s ⟨hs, hwb₁⟩
      have hbelow := hs.below
      have hread := hs.rSize
      have hclip : clipSize image.length c₁.wb c₁.rSize = c₁.rSize :=
        clipSize_of_le (by omega) (by omega)
      have hwrite : Ensures (fun t => t = s)
          (writeTries os drive c₁.wb (bytes c₁.buffer (padSize sectorSize c₁.rSize)) writeRetries)
          fun r t => ∀ wSize, r = some wSize →
            Copied image (bufSize sectorSize) drive source
              { c₁ with
                wb := (c₁.wb + wSize) % 2 ^ 64
                rSize := padSize sectorSize c₁.rSize } t ∧
              c₁.wb < (c₁.wb + wSize) % 2 ^ 64 := by
        rintro _ rfl wSize hr
        obtain ⟨rfl, hwrote⟩ := wrote_writeTries _ _ hs.driveAt wSize hr
        simpa [bytes] using hs.copied hmin hmax hlen hne (movesOnly_writeTries _ _) hwrote
      simp only [hclip]
      refine Ensures.bind hwrite (fun r => ?_) s rfl
      cases r with
      | none => exact .pure fun _ _ hret => by cases hret
      | some wSize =>
        refine .pure fun t ht => ?_
        obtain ⟨hcopied, hmore⟩ := ht wSize rfl
        exact ⟨hcopied, by dsimp only; omega⟩
  · exact .pure fun s hs _ => ⟨c, hs, Or.inl (by omega)⟩

include hmin hmax hlen in
/-- The copy loop returns. -/
theorem ended_loop (hnull : source ≠ .null) (hne : ∀ n, drive = .file n → drive ≠ source)
    (c : Copy) :
    Ensures (Copied image (bufSize sectorSize) drive source c)
      (loop (copyStep os image drive source sectorSize driveSize image.length) (image.length + 1) c)
      fun r s => ∃ ret, r = some ret ∧
        Ended image (bufSize sectorSize) drive source driveSize ret s :=
  .loop (fun c => image.length - c.wb) (copied_copyStep hmin hmax hlen hnull hne) _ c (by omega)

/-- Where the last buffer of an image begins. -/
def lastBuffer (length size : Nat) : Nat := (length - 1) / size * size

/-- When the loop has ended above the last buffer, the whole image is written. -/
theorem Ended.written {size : Nat} {s : System} (hsize : 0 < size)
    (h : Ended image size drive source driveSize true s)
    (hfits : image = [] ∨ lastBuffer image.length size < driveSize) : Written image s.calls := by
  rcases hfits with rfl | hlast
  · intro i byte hbyte
    simp at hbyte
  obtain ⟨c, hc, hend⟩ := h rfl
  have hall : image.length ≤ c.wb := by
    rcases hend with hdrive | hend
    · rcases hc.sourceAt with ⟨-, ⟨k, hk⟩, -⟩ | ⟨hle, -⟩
      · have hlt : (image.length - 1) / size < k := by
          refine Nat.lt_of_mul_lt_mul_right (a := size) ?_
          rw [Nat.mul_comm k, ← hk]
          exact hlast.trans_le hdrive
        have := (Nat.div_lt_iff_lt_mul hsize).mp hlt
        rw [hk, Nat.mul_comm]
        omega
      · exact hle
    · exact hend
  intro i byte hbyte
  have hilt : i < image.length := (List.getElem?_eq_some_iff.mp hbyte).1
  exact hc.written i (hilt.trans_le hall) byte hbyte

end Copy

end UsbMaker.Disk
