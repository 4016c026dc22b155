import UsbMaker.Disk.Complete

/-!
# The bytes on the drive

What a drive holds after `WriteDrive` depends on what a failed or short `WriteFile` leaves behind,
of which nothing is known but that it touches only the bytes it was asked to write. `Contents` has
every possibility: the bytes that the drive may hold after some calls.

The copy loop writes each buffer at `wb`, goes back to `wb` before it tries again, and only then
moves `wb`. So at the head of every turn the file pointer of the drive is at `wb` and that of the
image at `wb` or at its end, below `wb` the drive holds the image, and above `wb` it is as before
(`Transferred`). A sector size above `2 ^ 32` leaves a buffer of no bytes, and nothing is written.

## Main definitions

* `Disk.Call.Stores`, `Disk.Contents`: the bytes a drive may hold.
* `Disk.Over`: the calls of a program touch a range of bytes only.
* `Disk.Transferred`, `Disk.AtHead`.

## Main results

* `Disk.over_writeTries`: the loop of `WRITE_RETRIES` touches only the bytes of the buffer.
* `Disk.transferred_copyStep`: a turn of the copy loop.
* `Disk.writeDrive_transfers`.
-/

namespace UsbMaker.Disk

open Program

/-- What a call may do to the bytes of the drive behind a handle. `WriteFile` touches only as many
bytes from its offset on as it is given, and when it reports all of them it has stored them. -/
def Call.Stores (drive : Handle) (before after : Nat → UInt8) : Call → Prop
  | .writeFile handle offset data written =>
    if handle = drive then
      (∀ p, p < offset ∨ offset + data.length ≤ p → after p = before p) ∧
        (written = some data.length → ∀ i byte, data[i]? = some byte → after (offset + i) = byte)
    else after = before
  | _ => after = before

/-- The bytes that the drive may hold after some calls, newest first, when it held `before` after
the calls `base`. -/
inductive Contents (drive : Handle) (base : List Call) (before : Nat → UInt8) :
    List Call → (Nat → UInt8) → Prop
  | base : Contents drive base before base before
  | call {calls bytes call bytes'} (h : Contents drive base before calls bytes)
      (hcall : call.Stores drive bytes bytes') : Contents drive base before (call :: calls) bytes'

section Contents

variable {drive : Handle} {base : List Call} {before : Nat → UInt8}

theorem Contents.last {calls : List Call} {call : Call} {bytes' : Nat → UInt8}
    (hbase : base <:+ calls) (h : Contents drive base before (call :: calls) bytes') :
    ∃ bytes, Contents drive base before calls bytes ∧ call.Stores drive bytes bytes' := by
  generalize hall : call :: calls = all at h
  cases h with
  | base =>
    have hlen := hbase.length_le
    rw [← hall, List.length_cons] at hlen
    omega
  | call h hcall =>
    obtain ⟨rfl, rfl⟩ := List.cons.inj hall
    exact ⟨_, h, hcall⟩

theorem Contents.suffix {calls : List Call} {bytes : Nat → UInt8}
    (h : Contents drive base before calls bytes) : base <:+ calls := by
  induction h with
  | base => exact List.suffix_rfl
  | call _ _ ih => exact ih.trans (List.suffix_cons _ _)

/-- When no call has been made the drive holds what it held. -/
theorem Contents.eq_before {bytes : Nat → UInt8} (h : Contents drive base before base bytes) :
    bytes = before := by
  generalize hall : base = all at h
  cases h with
  | base => rfl
  | call h _ =>
    have hlen := h.suffix.length_le
    rw [List.length_cons] at hlen
    omega

/-- A call leaves something on the drive. -/
theorem Call.exists_stores (drive : Handle) (before : Nat → UInt8) (call : Call) :
    ∃ after, call.Stores drive before after := by
  cases call with
  | writeFile handle offset data written =>
    by_cases hdrive : handle = drive
    · refine ⟨fun p => if p < offset then before p else data[p - offset]?.getD (before p), ?_⟩
      rw [Call.Stores, if_pos hdrive]
      refine ⟨fun p hp => ?_, fun _ i byte hbyte => ?_⟩
      · rcases hp with hp | hp
        · exact if_pos hp
        · rw [if_neg (by omega), List.getElem?_eq_none (by omega), Option.getD_none]
      · rw [if_neg (by omega), Nat.add_sub_cancel_left, hbyte, Option.getD_some]
    · refine ⟨before, ?_⟩
      rw [Call.Stores, if_neg hdrive]
  | _ => exact ⟨before, rfl⟩

theorem exists_contents {calls : List Call} (hbase : base <:+ calls) :
    ∃ bytes, Contents drive base before calls bytes := by
  obtain ⟨new, rfl⟩ := hbase
  induction new with
  | nil => exact ⟨before, .base⟩
  | cons call new ih =>
    obtain ⟨bytes, hbytes⟩ := ih
    obtain ⟨bytes', hcall⟩ := call.exists_stores drive bytes
    exact ⟨bytes', .call hbytes hcall⟩

/-- The bytes of the drive below an offset and from another one on are as before. -/
structure Over (drive : Handle) (base : List Call) (before : Nat → UInt8) (offset limit : Nat)
    (s s' : System) : Prop where
  calls : s.calls <:+ s'.calls
  outside : base <:+ s.calls → ∀ bytes', Contents drive base before s'.calls bytes' →
    ∃ bytes, Contents drive base before s.calls bytes ∧
      ∀ p, p < offset ∨ limit ≤ p → bytes' p = bytes p

variable {offset limit : Nat}

instance : Std.Refl (Over drive base before offset limit) :=
  ⟨fun _ => ⟨List.suffix_rfl, fun _ bytes h => ⟨bytes, h, fun _ _ => rfl⟩⟩⟩

instance : IsTrans System (Over drive base before offset limit) where
  trans s t u h h' := by
    refine ⟨h.calls.trans h'.calls, fun hbase bytes'' hu => ?_⟩
    obtain ⟨bytes', ht, hout'⟩ := h'.outside (hbase.trans h.calls) bytes'' hu
    obtain ⟨bytes, hs, hout⟩ := h.outside hbase bytes' ht
    exact ⟨bytes, hs, fun p hp => (hout' p hp).trans (hout p hp)⟩

/-- A call that touches a range of bytes only. -/
theorem over_of_calls {s s' : System} {call : Call} (hcalls : s'.calls = call :: s.calls)
    (hcall : ∀ bytes bytes', call.Stores drive bytes bytes' →
      ∀ p, p < offset ∨ limit ≤ p → bytes' p = bytes p) :
    Over drive base before offset limit s s' := by
  refine ⟨hcalls ▸ List.suffix_cons _ _, fun hbase bytes' h => ?_⟩
  rw [hcalls] at h
  obtain ⟨bytes, hs, hstores⟩ := h.last hbase
  exact ⟨bytes, hs, hcall bytes bytes' hstores⟩

/-- A call that is not `WriteFile` touches nothing. -/
theorem over_of_other {s s' : System} {call : Call} (hcalls : s'.calls = call :: s.calls)
    (hcall : ∀ bytes bytes', call.Stores drive bytes bytes' → bytes' = bytes) :
    Over drive base before offset limit s s' :=
  over_of_calls hcalls fun bytes bytes' h p _ => congrFun (hcall bytes bytes' h) p

theorem over_setFilePointerEx (os : Os) (handle : Handle) (position : Nat) :
    Keeps (Over drive base before offset limit) (setFilePointerEx os handle position) := by
  intro s
  unfold setFilePointerEx
  split
  · exact over_of_other rfl fun _ _ h => h
  · exact over_of_other rfl fun _ _ h => h
  · split
    · exact over_of_other rfl fun _ _ h => h
    · exact over_of_other rfl fun _ _ h => h

theorem over_readFile (os : Os) (image : List UInt8) (source : Handle) (size : Nat) :
    Keeps (Over drive base before offset limit) (readFile os image source size) := by
  intro s
  unfold readFile
  split
  · exact over_of_other rfl fun _ _ h => h
  · exact over_of_other rfl fun _ _ h => h
  · split
    · exact over_of_other rfl fun _ _ h => h
    · exact over_of_other rfl fun _ _ h => h

theorem over_sleep (ms : Nat) : Keeps (Over drive base before offset limit) (sleep ms) := fun _ =>
  over_of_other (rfl : _ = Call.sleep ms :: _) fun _ _ h => h

theorem over_setFormatStatus (status : Nat) :
    Keeps (Over drive base before offset limit) (setFormatStatus status) := fun _ =>
  ⟨List.suffix_rfl, fun _ bytes h => ⟨bytes, h, fun _ _ => rfl⟩⟩

theorem over_readNext (os : Os) (image : List UInt8) (source : Handle) (size : Nat) (c : Copy) :
    Keeps (Over drive base before offset limit) (readNext os image source size c) := by
  rw [readNext]
  split
  · exact .pure _
  · refine .bind (over_readFile _ _ _ _) fun r => ?_
    cases r with
    | none => exact .bind (over_setFormatStatus _) fun _ => .pure _
    | some data =>
      dsimp only
      split
      · exact .pure _
      · exact .pure _

/-! ### Writing a buffer -/

variable {os : Os} {n wb : Nat} {data : List UInt8}

/-- The data is on the drive from an offset on. -/
def OnDrive (drive : Handle) (base : List Call) (before : Nat → UInt8) (offset : Nat)
    (data : List UInt8) (s : System) : Prop :=
  ∀ bytes, Contents drive base before s.calls bytes →
    ∀ i byte, data[i]? = some byte → bytes (offset + i) = byte

/-- `WriteFile` at `wb`. -/
theorem over_writeFile (s₀ : System) (hbase : base <:+ s₀.calls) :
    Ensures
      (fun s => IsAt (.file n) wb s ∧ Over (.file n) base before wb (wb + data.length) s₀ s)
      (writeFile os (.file n) data)
      fun written s => Over (.file n) base before wb (wb + data.length) s₀ s ∧
        (written = some data.length → OnDrive (.file n) base before wb data s) := by
  rintro s ⟨hat, hover⟩
  have hpos : s.position (.file n) = wb := hat n rfl
  have hcalls : (writeFile os (.file n) data s).2.calls =
      .writeFile (.file n) wb data (writeFile os (.file n) data s).1 :: s.calls := by
    unfold writeFile
    cases os.writeFile s.calls.length <;> simp only [hpos] <;> rfl
  refine ⟨trans_of _ hover (over_of_calls hcalls fun bytes bytes' hstores => ?_), ?_⟩
  · rw [Call.Stores, if_pos rfl] at hstores
    exact hstores.1
  · intro hwritten bytes' h
    rw [hcalls] at h
    obtain ⟨bytes, -, hstores⟩ := h.last (hbase.trans hover.calls)
    rw [Call.Stores, if_pos rfl] at hstores
    exact hstores.2 hwritten

/-- The loop of `WRITE_RETRIES` touches only the bytes of the buffer, and they are on the drive
when it ends well. -/
theorem over_writeTries (s₀ : System) (hbase : base <:+ s₀.calls) (tries : Nat) :
    Ensures
      (fun s => IsAt (.file n) wb s ∧ Over (.file n) base before wb (wb + data.length) s₀ s)
      (writeTries os (.file n) wb data tries)
      fun r s => r ≠ none → Over (.file n) base before wb (wb + data.length) s₀ s ∧
        OnDrive (.file n) base before wb data s := by
  induction tries with
  | zero => exact .pure fun s _ hr => absurd rfl hr
  | succ tries ih =>
    refine .bind (over_writeFile s₀ hbase) fun written => ?_
    split
    · rename_i hwritten
      exact .pure fun s hs _ => ⟨hs.1, hs.2 hwritten⟩
    · split
      · refine .bind (Q := fun _ _ => True) (fun _ _ => trivial) fun _ => ?_
        exact .pure fun s _ hr => absurd rfl hr
      · refine .bind (Q := fun ok s => (ok = true → IsAt (.file n) wb s) ∧
          Over (.file n) base before wb (wb + data.length) s₀ s) ?_ fun ok => ?_
        · intro s hs
          exact ⟨isAt_setFilePointerEx (fun _ => True) wb s trivial,
            trans_of _ hs.1 (over_setFilePointerEx os _ _ s)⟩
        · split
          · rename_i hok
            refine .bind (Q := fun _ s => IsAt (.file n) wb s ∧
              Over (.file n) base before wb (wb + data.length) s₀ s) ?_ fun _ => ih
            intro s hs
            exact ⟨hs.1 hok, trans_of _ hs.2 (over_sleep 200 s)⟩
          · exact .pure fun s _ hr => absurd rfl hr

end Contents

/-! ### The copy loop -/

section Copy

variable {os : Os} {image : List UInt8} {n : Nat} {source : Handle} {base : List Call}
  {before : Nat → UInt8}

/-- Below `wb` the drive holds the image, and from `wb` on it is as before. -/
structure Transferred (image : List UInt8) (drive : Handle) (base : List Call)
    (before : Nat → UInt8) (wb : Nat) (s : System) : Prop where
  calls : base <:+ s.calls
  below : ∀ bytes, Contents drive base before s.calls bytes →
    ∀ p < wb, ∀ byte, image[p]? = some byte → bytes p = byte
  above : ∀ bytes, Contents drive base before s.calls bytes → ∀ p, wb ≤ p → bytes p = before p

/-- Calls that touch nothing. -/
theorem Transferred.over {drive : Handle} {wb : Nat} {s s' : System}
    (h : Transferred image drive base before wb s) (hs : Over drive base before wb wb s s') :
    Transferred image drive base before wb s' := by
  have hsame (bytes' : Nat → UInt8) (hc : Contents drive base before s'.calls bytes') :
      Contents drive base before s.calls bytes' := by
    obtain ⟨bytes, hbytes, hout⟩ := hs.outside h.calls bytes' hc
    obtain rfl : bytes' = bytes := funext fun p => hout p (Nat.lt_or_ge p wb)
    exact hbytes
  exact ⟨h.calls.trans hs.calls, fun bytes hc => h.below bytes (hsame bytes hc),
    fun bytes hc => h.above bytes (hsame bytes hc)⟩

/-- A buffer that has been read and written. -/
theorem Transferred.written {size : Nat} {c : Copy} {s s' : System} {buffer : List UInt8}
    (h : Transferred image (.file n) base before c.wb s)
    (hload : Loaded image size (.file n) source c s)
    (hbuffer : ∀ j < buffer.length, buffer[j]? = some (c.buffer j))
    (hcover : c.rSize ≤ buffer.length)
    (hrest : c.rSize = buffer.length ∨ image.length = c.wb + c.rSize)
    (hover : Over (.file n) base before c.wb (c.wb + buffer.length) s s')
    (hon : OnDrive (.file n) base before c.wb buffer s') :
    Transferred image (.file n) base before (c.wb + buffer.length) s' := by
  refine ⟨h.calls.trans hover.calls, fun bytes' hc p hp byte hbyte => ?_, fun bytes' hc p hp => ?_⟩
  · obtain ⟨bytes, hbytes, hout⟩ := hover.outside h.calls bytes' hc
    by_cases hold : p < c.wb
    · rw [hout p (Or.inl hold)]
      exact h.below bytes hbytes p hold byte hbyte
    · have hplt : p < image.length := (List.getElem?_eq_some_iff.mp hbyte).1
      have hj : p - c.wb < c.rSize := by omega
      have himage := hload.buffer (p - c.wb) hj
      rw [show c.wb + (p - c.wb) = p by omega, hbyte] at himage
      have hput := hon bytes' hc (p - c.wb) (c.buffer (p - c.wb)) (hbuffer _ (by omega))
      rw [show c.wb + (p - c.wb) = p by omega] at hput
      rw [hput]
      exact (Option.some.inj himage).symm
  · obtain ⟨bytes, hbytes, hout⟩ := hover.outside h.calls bytes' hc
    rw [hout p (Or.inr hp)]
    exact h.above bytes hbytes p (by omega)

variable {sectorSize driveSize : Nat} (hnull : source ≠ .null) (hne : .file n ≠ source)

include hnull hne in
/-- A turn that reads touches nothing. -/
theorem transferred_readNext {size : Nat} (hsize : 0 < size) (c : Copy) :
    Ensures
      (fun s => Copied image size (.file n) source c s ∧
        Transferred image (.file n) base before c.wb s)
      (readNext os image source size c)
      (Turn
        (fun c₁ s => Loaded image size (.file n) source c₁ s ∧ c₁.wb = c.wb ∧
          Transferred image (.file n) base before c.wb s)
        fun _ => Transferred image (.file n) base before c.wb) := by
  rintro s ⟨hcopied, htrans⟩
  have hload : Turn (fun c₁ s => Loaded image size (.file n) source c₁ s ∧ c₁.wb = c.wb) _
      (readNext os image source size c s).1 _ :=
    loaded_readNext hnull (fun k _ => hne) hsize c s hcopied
  have hafter := htrans.over (over_readNext os image source size c s)
  cases hr : (readNext os image source size c s).1 with
  | inl c₁ =>
    rw [hr] at hload
    exact ⟨hload.1, hload.2, hafter⟩
  | inr ret => exact hafter

variable (hmin : 512 ≤ sectorSize) (hmax : sectorSize < 2 ^ 32) (hlen : image.length < 2 ^ 63)

include hne hmin hmax hlen in
/-- Writing the buffer moves the border between the image and the old bytes. -/
theorem transferred_writeTries {c : Copy} {s : System}
    (hload : Loaded image (bufSize sectorSize) (.file n) source c s)
    (htrans : Transferred image (.file n) base before c.wb s) :
    Ensures (fun t => t = s)
      (writeTries os (.file n) c.wb (bytes c.buffer (padSize sectorSize c.rSize)) writeRetries)
      fun r t => ∀ wSize, r = some wSize →
        Copied image (bufSize sectorSize) (.file n) source
          { c with
            wb := (c.wb + wSize) % 2 ^ 64
            rSize := padSize sectorSize c.rSize } t ∧
          Transferred image (.file n) base before ((c.wb + wSize) % 2 ^ 64) t := by
  rintro _ rfl wSize hr
  obtain ⟨hbuf, hbuflt, -⟩ := bufSize_bounds hmin hmax
  have hbelow := hload.below
  have hread := hload.rSize
  obtain ⟨hpad, hpadle, hpadeq⟩ := padSize_bounds hmin hmax (show c.rSize ≤ _ by omega)
  have hsize : (bytes c.buffer (padSize sectorSize c.rSize)).length =
      padSize sectorSize c.rSize := by simp [bytes]
  obtain ⟨rfl, hwrote⟩ := wrote_writeTries _ _ hload.driveAt wSize hr
  have hsome := hr ▸ Option.some_ne_none _
  obtain ⟨hover, hon⟩ := over_writeTries _ htrans.calls writeRetries _
    ⟨hload.driveAt, refl_of (Over (.file n) base before _ _) _⟩ hsome
  have hcopied := hload.copied hmin hmax hlen (fun k _ => hne) (movesOnly_writeTries _ _) hwrote
  have hbuffer (j : Nat) (hj : j < (bytes c.buffer (padSize sectorSize c.rSize)).length) :
      (bytes c.buffer (padSize sectorSize c.rSize))[j]? = some (c.buffer j) := by
    rw [hsize] at hj
    rw [bytes, List.getElem?_map, List.getElem?_range hj, Option.map_some]
  have hmore := htrans.written hload hbuffer (by omega) (by omega) hover hon
  rw [hsize] at hmore ⊢
  rw [Nat.mod_eq_of_lt (by omega)] at hcopied ⊢
  exact ⟨hcopied.1, hmore⟩

include hnull hne hmin hmax hlen in
/-- A turn of the copy loop moves the border between the image and the old bytes. -/
theorem transferred_copyStep (c : Copy) :
    Ensures
      (fun s => Copied image (bufSize sectorSize) (.file n) source c s ∧
        Transferred image (.file n) base before c.wb s)
      (copyStep os image (.file n) source sectorSize driveSize image.length c)
      (Turn
        (fun c₁ s => Copied image (bufSize sectorSize) (.file n) source c₁ s ∧
          Transferred image (.file n) base before c₁.wb s)
        fun ret s => ret = true → Transferred image (.file n) base before c.wb s) := by
  obtain ⟨hbuf, -⟩ := bufSize_bounds hmin hmax
  rw [ddBufferSize] at hbuf
  rw [copyStep]
  split_ifs with hwb
  · refine .bind (transferred_readNext hnull hne (by omega) c) fun r => ?_
    cases r with
    | inr ret => exact .pure fun s hs _ => hs
    | inl c₁ =>
      rintro s ⟨hload, hwb₁, htrans⟩
      have hbelow := hload.below
      have hread := hload.rSize
      have hclip : clipSize image.length c₁.wb c₁.rSize = c₁.rSize :=
        clipSize_of_le (by omega) (by omega)
      rw [← hwb₁] at htrans
      simp only [hclip]
      refine Ensures.bind (transferred_writeTries hne hmin hmax hlen hload htrans)
        (fun r => ?_) s rfl
      cases r with
      | none => exact .pure fun _ _ hret => by cases hret
      | some wSize => exact .pure fun t ht => ht wSize rfl
  · exact .pure fun s hs _ => hs.2

/-- With a buffer of no bytes the end of the image is at its beginning. -/
theorem ends_readNext (hnull : source ≠ .null) (c : Copy) :
    Ensures (fun _ => True) (readNext os image source 0 c)
      (Turn (fun _ _ => False) fun _ _ => True) := by
  have hread : Ensures (fun _ => True) (readFile os image source 0)
      fun r _ => ∀ data, r = some data → data.length = 0 := by
    intro s _ data hdata
    unfold readFile at hdata
    cases source with
    | null | invalid => cases hdata
    | file m =>
      dsimp only at hdata
      split_ifs at hdata
      simp [← Option.some.inj hdata]
  rw [readNext, if_neg hnull]
  refine .bind hread fun r => ?_
  cases r with
  | none =>
    refine .bind (Q := fun _ _ => True) (fun _ _ => trivial) fun _ => ?_
    exact .pure fun _ _ => trivial
  | some data =>
    intro s hs
    dsimp only
    rw [if_pos (hs data rfl)]
    trivial

/-- With a buffer of no bytes the first turn is the last one. -/
theorem transferred_copyStep_of_empty (hnull : source ≠ .null) (hbuf : bufSize sectorSize = 0)
    (c : Copy) :
    Ensures (Transferred image (.file n) base before c.wb)
      (copyStep os image (.file n) source sectorSize driveSize image.length c)
      (Turn (fun _ _ => False) fun _ => Transferred image (.file n) base before c.wb) := by
  rw [copyStep, hbuf]
  split_ifs
  · refine .bind (Q := fun r s => Turn (fun _ _ => False) (fun _ _ => True) r s ∧
      Transferred image (.file n) base before c.wb s) (fun s hs => ?_) fun r => ?_
    · exact ⟨ends_readNext hnull c s trivial, hs.over (over_readNext os image source 0 c s)⟩
    · cases r with
      | inl c₁ => exact fun s hs => hs.1.elim
      | inr ret => exact .pure fun s hs => hs.2
  · exact .pure fun s hs => hs

end Copy

/-! ### The whole of `WriteDrive` -/

section WriteDrive

variable {os : Os} {image : List UInt8} {n m sectorSize driveSize : Nat} {s : System}

/-- A sector size that does not fit a `DWORD` leaves a buffer of no bytes. -/
theorem bufSize_eq_zero (hpow : sectorSize.isPowerOfTwo) (hle : 2 ^ 32 ≤ sectorSize) :
    bufSize sectorSize = 0 := by
  obtain ⟨k, rfl⟩ := hpow
  have hone : (ddBufferSize + 2 ^ k - 1) / 2 ^ k = 1 := by
    rw [ddBufferSize]
    exact Nat.div_eq_of_lt_le (by omega) (by omega)
  rw [bufSize, hone, Nat.one_mul]
  exact Nat.mod_eq_zero_of_dvd
    (Nat.pow_dvd_pow 2 ((Nat.pow_le_pow_iff_right Nat.one_lt_two).mp hle))

/-- The copy loop of `WriteDrive` on two files. -/
def copyLoop (os : Os) (image : List UInt8) (n m sectorSize driveSize : Nat) :
    Copy → StateM System (Copy ⊕ Bool) :=
  copyStep os image (.file n) (.file m) (effectiveSectorSize sectorSize) driveSize image.length

/-- `WriteDrive`, when it is called in the state `s`, comes to the head of an iteration with these
variables and this state. -/
def AtHead (os : Os) (image : List UInt8) (n m sectorSize driveSize : Nat) (s : System) (c : Copy)
    (t : System) : Prop :=
  ∃ block, (allocated os (.file n) sectorSize s).1 = some block ∧
    block.address % effectiveSectorSize sectorSize = 0 ∧
    Heads (copyLoop os image n m sectorSize driveSize) (startCopy sectorSize block)
      (allocated os (.file n) sectorSize s).2 c t

/-- The invariant of the heads. -/
def HeadInv (image : List UInt8) (n m sectorSize : Nat) (base : List Call) (before : Nat → UInt8)
    (c : Copy) (s : System) : Prop :=
  Copied image (bufSize (effectiveSectorSize sectorSize)) (.file n) (.file m) c s ∧
    Transferred image (.file n) base before c.wb s

theorem headInv_start (hrewind : (setFilePointerEx os (.file n) 0 s).1 = true)
    (hsource : s.position (.file m) = 0) (hne : n ≠ m) (before : Nat → UInt8) (block : Block) :
    HeadInv image n m sectorSize s.calls before (startCopy sectorSize block)
      (allocated os (.file n) sectorSize s).2 := by
  have hdrive : IsAt (.file n) 0 ((setFilePointerEx os (.file n) 0 s).2) :=
    isAt_setFilePointerEx (fun _ => True) 0 s trivial hrewind
  have himage : IsAt (.file m) 0 ((setFilePointerEx os (.file n) 0 s).2) :=
    IsAt.moves (fun _ _ => hsource) (movesOnly_setFilePointerEx 0 s) (by simpa using hne.symm)
  refine ⟨AtStart.copied (s := (allocated os (.file n) sectorSize s).2) ⟨hdrive, himage⟩ _ _, ?_⟩
  have hstart : Transferred image (.file n) s.calls before 0 s :=
    ⟨List.suffix_rfl, fun _ _ p hp => absurd hp (Nat.not_lt_zero p),
      fun bytes h p _ => congrFun h.eq_before p⟩
  have hrewound := hstart.over (over_setFilePointerEx os (.file n) 0 s)
  exact hrewound.over
    (over_of_other (rfl : (allocated os (.file n) sectorSize s).2.calls = _ :: _) fun _ _ h => h)

/-- With a sector size that does not fit a `DWORD` the copy loop ends in its first turn. -/
theorem copyLoop_of_large {base : List Call} {before : Nat → UInt8} {c : Copy}
    (hpow : (effectiveSectorSize sectorSize).isPowerOfTwo)
    (hlarge : 2 ^ 32 ≤ effectiveSectorSize sectorSize)
    (h : Transferred image (.file n) base before c.wb s) :
    ∃ ret, (copyLoop os image n m sectorSize driveSize c s).1 = .inr ret ∧
      Transferred image (.file n) base before c.wb
        (copyLoop os image n m sectorSize driveSize c s).2 := by
  have hend : Turn (fun _ _ => False) _ (copyLoop os image n m sectorSize driveSize c s).1 _ :=
    transferred_copyStep_of_empty (by simp) (bufSize_eq_zero hpow hlarge) c s h
  cases hr : (copyLoop os image n m sectorSize driveSize c s).1 with
  | inl c₁ =>
    rw [hr] at hend
    exact hend.elim
  | inr ret =>
    rw [hr] at hend
    exact ⟨ret, rfl, hend⟩

theorem headInv_copyLoop {base : List Call} {before : Nat → UInt8} (hlen : image.length < 2 ^ 63)
    (hne : n ≠ m) (hpow : (effectiveSectorSize sectorSize).isPowerOfTwo) (c : Copy) :
    Ensures (HeadInv image n m sectorSize base before c)
      (copyLoop os image n m sectorSize driveSize c)
      (Turn (HeadInv image n m sectorSize base before) fun ret s =>
        ret = true → Transferred image (.file n) base before c.wb s) := by
  have hmin := le_effectiveSectorSize sectorSize
  by_cases hmax : effectiveSectorSize sectorSize < 2 ^ 32
  · exact transferred_copyStep (by simp) (by simpa using hne) hmin hmax hlen c
  · intro s hs
    obtain ⟨ret, hret, htrans⟩ := copyLoop_of_large hpow (Nat.not_lt.mp hmax) hs.2
    rw [hret]
    exact fun _ => htrans

/-- The copy loop returns. -/
theorem copyLoop_returns (hlen : image.length < 2 ^ 63) (hne : n ≠ m)
    (hpow : (effectiveSectorSize sectorSize).isPowerOfTwo) {c : Copy} {base : List Call}
    {before : Nat → UInt8} (h : HeadInv image n m sectorSize base before c s) :
    (loop (copyLoop os image n m sectorSize driveSize) (image.length + 1) c s).1 ≠ none := by
  have hmin := le_effectiveSectorSize sectorSize
  by_cases hmax : effectiveSectorSize sectorSize < 2 ^ 32
  · have hended : ∃ ret, (loop (copyLoop os image n m sectorSize driveSize) (image.length + 1) c
        s).1 = some ret ∧ _ :=
      ended_loop hmin hmax hlen (by simp) (fun k _ => by simpa using hne) c s h.1
    obtain ⟨ret, hret, -⟩ := hended
    rw [hret]
    exact Option.some_ne_none _
  · obtain ⟨ret, hret, -⟩ := copyLoop_of_large hpow (Nat.not_lt.mp hmax) h.2
    rw [loop_succ, hret]
    exact Option.some_ne_none _

theorem writeDrive_eq_copyLoop {block : Block} (hlen : image.length < 2 ^ 63) (turns : Nat)
    (hblock : (allocated os (.file n) sectorSize s).1 = some block)
    (haligned : block.address % effectiveSectorSize sectorSize = 0) :
    writeDrive os image (.file n) (.file m) sectorSize driveSize image.length turns s =
      afterLoop os (.file n) (loop (copyLoop os image n m sectorSize driveSize) turns
        (startCopy sectorSize block) (allocated os (.file n) sectorSize s).2) := by
  have htarget : ((image.length : Int) % 2 ^ 64).toNat = image.length := by omega
  rw [writeDrive_eq _ turns hblock haligned, htarget, copyLoop]

/-- The invariant holds at every head of `WriteDrive`. -/
theorem AtHead.headInv {c : Copy} {t : System} (h : AtHead os image n m sectorSize driveSize s c t)
    (hlen : image.length < 2 ^ 63) (hrewind : (setFilePointerEx os (.file n) 0 s).1 = true)
    (hsource : s.position (.file m) = 0) (hne : n ≠ m) (before : Nat → UInt8) :
    HeadInv image n m sectorSize s.calls before c t := by
  obtain ⟨block, hblock, -, hheads⟩ := h
  exact hheads.invariant (headInv_start hrewind hsource hne before block)
    (headInv_copyLoop hlen hne (isPowerOfTwo_of_allocated hblock))

/-- A copy loop that returns true does so at a head; what was transferred there is on the drive when
`WriteDrive` has returned. -/
theorem exists_atHead_of_true {block : Block} {turns : Nat} (hlen : image.length < 2 ^ 63)
    (hrewind : (setFilePointerEx os (.file n) 0 s).1 = true) (hsource : s.position (.file m) = 0)
    (hne : n ≠ m) (hblock : (allocated os (.file n) sectorSize s).1 = some block)
    (haligned : block.address % effectiveSectorSize sectorSize = 0)
    (htrue : (writeDrive os image (.file n) (.file m) sectorSize driveSize image.length turns
      s).1 = some true) :
    ∃ c t, AtHead os image n m sectorSize driveSize s c t ∧
      (copyLoop os image n m sectorSize driveSize c t).1 = .inr true ∧
      ∀ before, Transferred image (.file n) s.calls before c.wb
        (writeDrive os image (.file n) (.file m) sectorSize driveSize image.length turns s).2 := by
  rw [writeDrive_eq_copyLoop hlen turns hblock haligned] at htrue ⊢
  rw [afterLoop_fst] at htrue
  obtain ⟨c, t, hheads, hend, hloop⟩ := exists_head_of_loop htrue
  have hat : AtHead os image n m sectorSize driveSize s c t := ⟨block, hblock, haligned, hheads⟩
  refine ⟨c, t, hat, hend, fun before => ?_⟩
  have hinv := hat.headInv hlen hrewind hsource hne before
  have htrans : Turn (HeadInv image n m sectorSize s.calls before) _
      (copyLoop os image n m sectorSize driveSize c t).1 _ :=
    headInv_copyLoop hlen hne (isPowerOfTwo_of_allocated hblock) c t hinv
  rw [hend] at htrans
  rw [show loop _ _ _ _ = (some true, _) from Prod.ext htrue hloop]
  exact (htrans rfl).over (over_of_other
    (rfl : (refreshDriveLayout os (.file n) _).2.calls = _ :: _) fun _ _ h => h)

/-- **What `WriteDrive` transfers.** For every image, sector size and drive size, and for every
outcome of the calls in which the drive is rewound:

* at the head of each iteration the file pointer of the drive is at `wb`, and that of the image at
  `wb` or at its end;
* when `WriteDrive` returns true, in the iteration with `wb` bytes written, whatever the writes that
  failed have left behind, the drive holds the image below `wb` and what it held before above;
* as many iterations as the image has bytes, and one more, are enough. -/
theorem writeDrive_transfers (os : Os) (file : ImageFile) (n m sectorSize driveSize : Nat)
    (s : System) (hrewind : (setFilePointerEx os (.file n) 0 s).1 = true)
    (hsource : s.position (.file m) = 0) (hne : n ≠ m) :
    (∀ c t, AtHead os file.bytes n m sectorSize driveSize s c t →
      t.position (.file n) = c.wb ∧ t.position (.file m) = min c.wb file.bytes.length) ∧
    (∀ turns, (writeDrive os file.bytes (.file n) (.file m) sectorSize driveSize file.bytes.length
        turns s).1 = some true →
      ∃ c t, AtHead os file.bytes n m sectorSize driveSize s c t ∧
        (copyLoop os file.bytes n m sectorSize driveSize c t).1 = .inr true ∧
        ∀ before after, Contents (.file n) s.calls before
            (writeDrive os file.bytes (.file n) (.file m) sectorSize driveSize file.bytes.length
              turns s).2.calls after →
          (∀ p < min c.wb file.bytes.length, file.bytes[p]? = some (after p)) ∧
            ∀ p, c.wb ≤ p → after p = before p) ∧
    (writeDrive os file.bytes (.file n) (.file m) sectorSize driveSize file.bytes.length
      (file.bytes.length + 1) s).1 ≠ none := by
  have hlen := file.length_lt
  refine ⟨fun c t h => ?_, fun turns htrue => ?_, ?_⟩
  · obtain ⟨hcopied, -⟩ := h.headInv hlen hrewind hsource hne fun _ => 0
    refine ⟨hcopied.driveAt n rfl, ?_⟩
    rcases hcopied.sourceAt with ⟨hle, -, hat⟩ | ⟨hle, hat⟩
    · rw [hat m rfl, Nat.min_eq_left hle]
    · rw [hat m rfl, Nat.min_eq_right hle]
  · by_cases hbuffer : ∃ block, (allocated os (.file n) sectorSize s).1 = some block ∧
        block.address % effectiveSectorSize sectorSize = 0
    · obtain ⟨block, hblock, haligned⟩ := hbuffer
      obtain ⟨c, t, hat, hend, hdone⟩ :=
        exists_atHead_of_true hlen hrewind hsource hne hblock haligned htrue
      refine ⟨c, t, hat, hend, fun before after hafter => ⟨fun p hp => ?_, ?_⟩⟩
      · have hp' := List.getElem?_eq_getElem (hp.trans_le (Nat.min_le_right _ _))
        have hbelow := (hdone before).below after hafter p (hp.trans_le (Nat.min_le_left _ _)) _ hp'
        rw [hp', hbelow]
      · exact (hdone before).above after hafter
    · rw [(writeDrive_fails _ turns hbuffer).1] at htrue
      cases htrue
  · by_cases hbuffer : ∃ block, (allocated os (.file n) sectorSize s).1 = some block ∧
        block.address % effectiveSectorSize sectorSize = 0
    · obtain ⟨block, hblock, haligned⟩ := hbuffer
      rw [writeDrive_eq_copyLoop hlen _ hblock haligned, afterLoop_fst]
      exact copyLoop_returns hlen hne (isPowerOfTwo_of_allocated hblock)
        (headInv_start hrewind hsource hne (fun _ => 0) block)
    · rw [(writeDrive_fails _ _ hbuffer).1]
      exact Option.some_ne_none _

/-- The fourth call, which is the first write of `WriteDrive`, stops short. -/
def stopsShort : Os :=
  { alwaysAnswers 512 1024 with
    writeFile := fun calls => if calls = 3 then some 100 else some (2 ^ 32) }

theorem writeDrive_transfers_after_short_write :
    (writeDrive stopsShort [1, 2, 3] (.file 0) (.file 1) 512 1024 3 4 {}).1 = some true ∧
      ∃ c t, AtHead stopsShort [1, 2, 3] 0 1 512 1024 {} c t ∧
        (copyLoop stopsShort [1, 2, 3] 0 1 512 1024 c t).1 = .inr true ∧
        ∀ before after, Contents (.file 0) [] before
            (writeDrive stopsShort [1, 2, 3] (.file 0) (.file 1) 512 1024 3 4 {}).2.calls after →
          (∀ p < min c.wb 3, [1, 2, 3][p]? = some (after p)) ∧
            ∀ p, c.wb ≤ p → after p = before p := by
  have htrue : (writeDrive stopsShort [1, 2, 3] (.file 0) (.file 1) 512 1024 3 4 {}).1 =
      some true := by
    decide +kernel
  exact ⟨htrue, (writeDrive_transfers stopsShort ⟨[1, 2, 3], by decide⟩ 0 1 512 1024 {} rfl rfl
    (by decide)).2.1 4 htrue⟩

end WriteDrive

end UsbMaker.Disk
