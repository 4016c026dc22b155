import UsbMaker.Disk.Copy

/-!
# Complete images

`WriteDrive` returns true when its copy loop ends, and the loop also ends when as much has been
written as `GetDriveSize` reports. This file proves when a success of `writeImage` means that the
whole image is on the drive: exactly when the last buffer of the image begins below the drive size
that is reported, besides the images and sector sizes for which there is nothing to prove. A drive
size of zero is what `GetDriveSize` returns when the drive cannot be asked.

## Main definitions

* `Disk.Reports`: the sizes that the drive reports to `Install`.
* `Disk.alwaysAnswers`: the operating system on which every call succeeds.

## Main results

* `Disk.success_means_written_iff`.
-/

namespace UsbMaker.Disk

open Program

variable {drive source : Handle} {os : Os}

/-! ### The whole thread -/

section Install

variable {image : List UInt8} {sector : UInt32} {driveSize : Nat} (hlen : image.length < 2 ^ 63)

theorem isAt_rewind :
    Ensures (IsAt drive 0) (setFilePointerEx os drive 0) fun _ => IsAt drive 0 := by
  intro s hs n hn
  unfold setFilePointerEx
  subst hn
  dsimp only
  split_ifs
  · simp
  · exact hs n rfl

/-- Both files are at their beginning, and they are two. -/
structure Opened (drive source : Handle) (s : System) : Prop where
  freshDrive : Fresh drive s
  freshSource : Fresh source s
  ne_null : source ≠ .null
  ne : ∀ n, drive = .file n → drive ≠ source

theorem Opened.quiet {s s' : System} (h : Opened drive source s) (hs : Quiet s s') :
    Opened drive source s' := ⟨h.freshDrive.quiet hs, h.freshSource.quiet hs, h.ne_null, h.ne⟩

theorem quiet_openImage (path : String) : Keeps Quiet (openImage os path) := by
  refine .bind (quiet_createFile path false false) fun r => ?_
  cases r <;> exact .pure _

theorem opened_openImage (path : String) :
    Ensures (Fresh drive) (openImage os path) fun source => Opened drive source := by
  refine .bind (Q := fun r s => Fresh drive s ∧ ∀ source, r = .ok source → Opened drive source s)
    ?_ fun r => ?_
  · intro s hs
    have hquiet : Quiet s (createFile os path false false s).2 := quiet_createFile _ _ _ s
    refine ⟨hs.quiet hquiet, fun source hsource => ?_⟩
    have hfresh := fresh_createFile _ _ _ s trivial source hsource
    rw [createFile] at hsource
    split at hsource
    · cases hsource
    · obtain rfl := Except.ok.inj hsource
      refine ⟨hs.quiet hquiet, hfresh, by simp, ?_⟩
      rintro n rfl heq
      have := (hs n rfl).1
      have := Handle.file.inj heq
      omega
  · cases r with
    | ok source => exact .pure fun s hs => hs.2 source rfl
    | error error =>
      refine .pure fun s hs => ⟨hs.1, fresh_invalid, by simp, ?_⟩
      rintro n rfl heq
      cases heq

theorem Written.mono {calls calls' : List Call} (h : Written image calls) (hsub : calls ⊆ calls') :
    Written image calls' := by
  intro i byte hbyte
  obtain ⟨call, hmem, hputs⟩ := h i byte hbyte
  exact ⟨call, hsub hmem, hputs⟩

/-- The call returns, and what a success means: there was a buffer, and the image is written if its
last buffer begins below the end of the drive. -/
def Means (image : List UInt8) (sectorSize driveSize : Nat) (r : Option Bool) (s : System) : Prop :=
  ∃ ret, r = some ret ∧ (ret = true → sectorSize.isPowerOfTwo ∧
    (image = [] ∨ lastBuffer image.length (bufSize sectorSize) < driveSize →
      Written image s.calls))

/-- Both file pointers are at the beginning. -/
def AtStart (drive source : Handle) (s : System) : Prop := IsAt drive 0 s ∧ IsAt source 0 s

theorem Opened.atStart {s : System} (h : Opened drive source s) : AtStart drive source s :=
  ⟨fun n hn => (h.freshDrive n hn).2, fun n hn => (h.freshSource n hn).2⟩

theorem atStart_rewind (hne : ∀ n, drive = .file n → drive ≠ source) :
    Ensures (AtStart drive source) (setFilePointerEx os drive 0)
      fun _ => AtStart drive source := fun s hs =>
  ⟨isAt_rewind s hs.1, hs.2.moves (movesOnly_setFilePointerEx 0 s)
    fun n hn heq => hne n (heq ▸ hn) heq.symm⟩

theorem AtStart.copied {size : Nat} {s : System} (h : AtStart drive source s) (rSize : Nat)
    (buffer : Nat → UInt8) : Copied image size drive source ⟨0, rSize, buffer⟩ s :=
  ⟨h.1, Or.inl ⟨Nat.zero_le _, Nat.dvd_zero _, h.2⟩, fun i hi => absurd hi (Nat.not_lt_zero i)⟩

include hlen in
theorem means_writeDrive (hnull : source ≠ .null) (hne : ∀ n, drive = .file n → drive ≠ source) :
    Ensures (AtStart drive source)
      (writeDrive os image drive source sector.toNat driveSize image.length (image.length + 1))
      (Means image (effectiveSectorSize sector.toNat) driveSize) := by
  obtain ⟨hmin, hmax⟩ := effectiveSectorSize_bounds sector
  obtain ⟨hbuf, -, -⟩ := bufSize_bounds hmin hmax
  rw [ddBufferSize] at hbuf
  have htarget : ((image.length : Int) % 2 ^ 64).toNat = image.length := by omega
  have hfail (s : System) :
      Means image (effectiveSectorSize sector.toNat) driveSize (some false) s :=
    ⟨false, rfl, fun h => by cases h⟩
  rw [writeDrive]
  simp only [htarget]
  refine .bind (atStart_rewind hne) fun _ => ?_
  refine .bind (Q := fun r s => AtStart drive source s ∧
    (r.isSome → (effectiveSectorSize sector.toNat).isPowerOfTwo)) (fun s hs => ⟨hs, ?_⟩) fun r => ?_
  · rw [mmMalloc]
    split_ifs with hpow
    · exact fun _ => hpow
    · exact fun h => by cases h
  cases r with
  | none =>
    exact .bind (Q := fun _ _ => True) (fun _ _ => trivial) fun _ => .pure fun s _ => hfail s
  | some block =>
    dsimp only
    split
    · exact .bind (Q := fun _ _ => True) (fun _ _ => trivial) fun _ => .pure fun s _ => hfail s
    · rintro s ⟨hs, hpow⟩
      refine Ensures.bind (ended_loop hmin hmax hlen hnull hne _) (fun r => ?_) s (hs.copied _ _)
      rintro t ⟨ret, rfl, hended⟩
      cases ret with
      | false => exact hfail t
      | true =>
        refine ⟨true, rfl, fun _ => ⟨hpow rfl, fun hfits => ?_⟩⟩
        exact (hended.written (by omega) hfits).mono
          (quiet_deviceIoControl drive .updateProperties t).calls.subset

/-- Closing handles does not change what a success means. -/
theorem Means.quiet {r : Option Bool} {sectorSize : Nat} {s s' : System}
    (h : Means image sectorSize driveSize r s) (hs : Quiet s s') :
    Means image sectorSize driveSize r s' := by
  obtain ⟨ret, hr, hret⟩ := h
  exact ⟨ret, hr, fun htrue => ⟨(hret htrue).1, fun hfits =>
    ((hret htrue).2 hfits).mono hs.calls.subset⟩⟩

include hlen in
theorem means_installImage (deviceNum : Nat) (path : String) :
    Ensures (fun _ => True)
      (installImage os deviceNum path image image.length sector.toNat driveSize)
      (Means image (effectiveSectorSize sector.toNat) driveSize) := by
  refine .bind (fresh_openDrive _ _ _ _ _) fun drive => ?_
  refine .bind (opened_openImage path) fun source => ?_
  refine .bind (Q := fun _ => Opened drive source)
    (fun s hs => hs.quiet (opening_quiet.getLogicalHandle _ _ _ _ s)) fun logical => ?_
  refine .bind (Q := fun _ => Opened drive source)
    (fun s hs => hs.quiet (quiet_deviceIoControl _ _ s)) fun _ => ?_
  refine .bind (Q := Means image (effectiveSectorSize sector.toNat) driveSize)
    (fun s hs => means_writeDrive hlen hs.ne_null hs.ne s hs.atStart) fun r => ?_
  cases r with
  | none => exact .pure fun _ hs => hs
  | some ret =>
    have hclose (handle : Handle) :
        Ensures (Means image (effectiveSectorSize sector.toNat) driveSize (some ret))
          (safeClosehandle handle)
          fun _ => Means image (effectiveSectorSize sector.toNat) driveSize (some ret) :=
      fun s hs => hs.quiet (quiet_safeClosehandle handle s)
    refine .bind (hclose drive) fun _ => ?_
    refine .bind (hclose logical) fun _ => ?_
    exact .bind (hclose source) fun _ => .pure fun _ hs => hs

end Install

/-! ### A drive that always answers -/

section Good

variable (sector : UInt32) (driveSize : UInt64)

/-- Every call succeeds, and the drive reports the given sizes. -/
def alwaysAnswers : Os where
  createFile _ := none
  deviceIoControl _ := true
  geometry _ := some ⟨sector, driveSize⟩
  volumes _ := []
  verify _ := 0
  mmMalloc _ := some ⟨effectiveSectorSize sector.toNat, fun _ => 0⟩
  setFilePointerEx _ := true
  readFile _ := true
  writeFile _ := some (2 ^ 32)

/-- Nothing is written above an offset. -/
def Below (limit : Nat) (s : System) : Prop :=
  ∀ handle offset data written, .writeFile handle offset data written ∈ s.calls →
    offset + data.length ≤ limit

theorem Below.quiet {limit : Nat} {s s' : System} (h : Below limit s) (hs : Quiet s s') :
    Below limit s' := fun _ _ _ _ hmem => h _ _ _ _ (hs.writes _ _ _ _ hmem)

theorem file_openDrive (checkStatus : Bool) {path : String} (hpath : isDevicePath path = true)
    (lockDrive writeAccess writeShare : Bool) (s : System) :
    ∃ n, (openDrive checkStatus (alwaysAnswers sector driveSize) (some path) lockDrive writeAccess
      writeShare s).1 = .file n := by
  rw [openDrive]
  simp only [Option.filter, hpath, if_true]
  cases lockDrive <;> exact ⟨s.calls.length, rfl⟩

variable {image : List UInt8} {limit : Nat}

theorem below_writeTries {data : List UInt8} {wb n : Nat} (hdata : data.length ≤ 2 ^ 32)
    (hlimit : wb + data.length ≤ limit) :
    Ensures (fun s => IsAt (.file n) wb s ∧ Below limit s)
      (writeTries (alwaysAnswers sector driveSize) (.file n) wb data writeRetries)
      fun r s => r = some data.length ∧ Below limit s := by
  rintro s ⟨hat, hbelow⟩
  have hmin : min (2 ^ 32) data.length = data.length := Nat.min_eq_right hdata
  have heq : writeTries (alwaysAnswers sector driveSize) (.file n) wb data writeRetries s =
      (some data.length, (writeFile (alwaysAnswers sector driveSize) (.file n) data s).2) := by
    change (if some (min (2 ^ 32) data.length) = some data.length then
      (pure (some data.length) : StateM System (Option Nat)) else _) _ = _
    rw [if_pos (by rw [hmin])]
    rfl
  rw [heq]
  refine ⟨rfl, fun handle offset written m hmem => ?_⟩
  rcases List.mem_cons.mp hmem with hcall | hmem
  · obtain ⟨-, rfl, rfl, -⟩ := Call.writeFile.inj hcall
    rw [hat n rfl]
    exact hlimit
  · exact hbelow _ _ _ _ hmem

theorem loaded_readNext_below {size n m : Nat} (hsize : 0 < size) (hne : n ≠ m) (c : Copy) :
    Ensures
      (fun s => Copied image size (.file n) (.file m) c s ∧ c.wb < image.length ∧ Below limit s)
      (readNext (alwaysAnswers sector driveSize) image (.file m) size c)
      fun r s => ∃ c₁, r = .inl c₁ ∧ c₁.wb = c.wb ∧
        Loaded image size (.file n) (.file m) c₁ s ∧ Below limit s := by
  rintro s ⟨hs, hwb, hbelow⟩
  have hturn : Turn (fun c₁ s => Loaded image size (.file n) (.file m) c₁ s ∧ c₁.wb = c.wb) _
      (readNext (alwaysAnswers sector driveSize) image (.file m) size c s).1 _ :=
    loaded_readNext (by simp) (fun k hk => by simpa using hne) hsize c s hs
  have hat : s.position (.file m) = c.wb := by
    rcases hs.sourceAt with ⟨-, -, hat⟩ | ⟨hle, -⟩
    · exact hat m rfl
    · omega
  have hdata : ((image.drop (s.position (.file m))).take size).length ≠ 0 := by
    simp only [hat, List.length_take, List.length_drop]
    omega
  have heq : readNext (alwaysAnswers sector driveSize) image (.file m) size c s =
      (.inl { c with
        rSize := ((image.drop (s.position (.file m))).take size).length
        buffer := fill c.buffer ((image.drop (s.position (.file m))).take size) },
        (readFile (alwaysAnswers sector driveSize) image (.file m) size s).2) := by
    change (if ((image.drop (s.position (.file m))).take size).length = 0 then
      (pure (.inr true) : StateM System (Copy ⊕ Bool)) else _) _ = _
    rw [if_neg hdata]
    rfl
  rw [heq] at hturn ⊢
  refine ⟨_, rfl, rfl, hturn.1, fun handle offset data written hmem => ?_⟩
  exact hbelow _ _ _ _ ((List.mem_cons.mp hmem).resolve_left (by simp))

/-- The invariant of the copy loop on a drive that ends before the last buffer. -/
def Short (image : List UInt8) (size limit n m : Nat) (c : Copy) (s : System) : Prop :=
  Copied image size (.file n) (.file m) c s ∧ Below limit s ∧ c.wb ≤ limit

/-- A full buffer is written below the limit. -/
theorem short_writeTries {sectorSize n m : Nat} (hmin : 512 ≤ sectorSize)
    (hmax : sectorSize < 2 ^ 32) (hlen : image.length < 2 ^ 63) (hne : n ≠ m) {c : Copy}
    {t : System} (hload : Loaded image (bufSize sectorSize) (.file n) (.file m) c t)
    (hbelow : Below limit t) (hroom : c.wb + bufSize sectorSize ≤ limit)
    (hfull : c.rSize = bufSize sectorSize) (hpad : padSize sectorSize c.rSize = c.rSize) :
    Ensures (fun u => u = t)
      (writeTries (alwaysAnswers sector driveSize) (.file n) c.wb (bytes c.buffer c.rSize)
        writeRetries)
      fun r u => r = some c.rSize ∧ Below limit u ∧
        Copied image (bufSize sectorSize) (.file n) (.file m)
          { c with wb := (c.wb + c.rSize) % 2 ^ 64 } u := by
  rintro u rfl
  obtain ⟨-, hbuflt, -⟩ := bufSize_bounds hmin hmax
  have hdata : (bytes c.buffer c.rSize).length = c.rSize := by simp [bytes]
  obtain ⟨hr, hbelow'⟩ := below_writeTries sector driveSize (by omega)
    (show c.wb + (bytes c.buffer c.rSize).length ≤ limit by omega) u ⟨hload.driveAt, hbelow⟩
  obtain ⟨-, hwrote⟩ := wrote_writeTries _ _ hload.driveAt _ hr
  rw [hdata] at hr
  refine ⟨hr, hbelow', ?_⟩
  obtain ⟨hcopied, -⟩ := hload.copied hmin hmax hlen (fun k hk => by simpa using hne)
    (movesOnly_writeTries _ _) (by rwa [hpad])
  rwa [hpad] at hcopied

theorem short_copyStep {sectorSize n m : Nat} (hmin : 512 ≤ sectorSize)
    (hmax : sectorSize < 2 ^ 32) (hlen : image.length < 2 ^ 63) (hne : n ≠ m)
    (hlimit : bufSize sectorSize ∣ limit) (hbelow : limit < image.length)
    (hdrive : driveSize.toNat ≤ limit) (c : Copy) :
    Ensures (Short image (bufSize sectorSize) limit n m c)
      (copyStep (alwaysAnswers sector driveSize) image (.file n) (.file m) sectorSize
        driveSize.toNat image.length c)
      (Turn (fun c₁ s => Short image (bufSize sectorSize) limit n m c₁ s ∧
          image.length - c₁.wb < image.length - c.wb)
        fun ret s => ret = true ∧ Below limit s) := by
  obtain ⟨hbuf, hbuflt, -⟩ := bufSize_bounds hmin hmax
  rw [ddBufferSize] at hbuf
  rw [copyStep]
  split_ifs with hwb
  · intro s hs
    refine Ensures.bind (loaded_readNext_below sector driveSize (by omega) hne c) (fun r => ?_) s
      ⟨hs.1, by omega, hs.2.1⟩
    rintro t ⟨c₁, rfl, hwb₁, hload, hbelow₁⟩
    have hroom : c₁.wb + bufSize sectorSize ≤ limit :=
      Nat.le_of_lt_add_of_dvd (by omega) (Nat.dvd_add hload.aligned (Nat.dvd_refl _)) hlimit
    have hfull : c₁.rSize = bufSize sectorSize := by
      have := hload.rSize
      omega
    have hclip : clipSize image.length c₁.wb c₁.rSize = c₁.rSize :=
      clipSize_of_le (by omega) (by omega)
    have hpad : padSize sectorSize c₁.rSize = c₁.rSize :=
      (padSize_bounds hmin hmax hfull.le).2.2 hfull
    simp only [hclip, hpad]
    refine Ensures.bind (short_writeTries sector driveSize hmin hmax hlen hne hload hbelow₁ hroom
      hfull hpad) (fun r => ?_) t rfl
    rintro u ⟨rfl, hbelow₂, hcopied⟩
    have hmod : (c₁.wb + c₁.rSize) % 2 ^ 64 = c₁.wb + c₁.rSize := Nat.mod_eq_of_lt (by omega)
    exact ⟨⟨hcopied, hbelow₂, hmod.trans_le (by omega)⟩, by dsimp only; omega⟩
  · exact .pure fun s hs => ⟨rfl, hs.2.1⟩

variable {sector driveSize}

/-- The copy loop stops at the end of the drive, and reports success. -/
theorem short_loop {sectorSize n m : Nat} (hmin : 512 ≤ sectorSize)
    (hmax : sectorSize < 2 ^ 32) (hlen : image.length < 2 ^ 63) (hne : n ≠ m)
    (hlimit : bufSize sectorSize ∣ limit) (hbelow : limit < image.length)
    (hdrive : driveSize.toNat ≤ limit) (c : Copy) :
    Ensures (Short image (bufSize sectorSize) limit n m c)
      (loop (copyStep (alwaysAnswers sector driveSize) image (.file n) (.file m) sectorSize
        driveSize.toNat image.length) (image.length + 1) c)
      fun r s => ∃ ret, r = some ret ∧ ret = true ∧ Below limit s :=
  .loop (fun c => image.length - c.wb)
    (short_copyStep sector driveSize hmin hmax hlen hne hlimit hbelow hdrive) _ c (by omega)

/-- The call returns true, and nothing is written above an offset. -/
def Truncates (limit : Nat) (r : Option Bool) (s : System) : Prop := r = some true ∧ Below limit s

theorem Truncates.quiet {r : Option Bool} {s s' : System} (h : Truncates limit r s)
    (hs : Quiet s s') : Truncates limit r s' := ⟨h.1, h.2.quiet hs⟩

variable (hpow : (effectiveSectorSize sector.toNat).isPowerOfTwo) (hlen : image.length < 2 ^ 63)
  (hlimit : bufSize (effectiveSectorSize sector.toNat) ∣ limit) (hbelow : limit < image.length)
  (hdrive : driveSize.toNat ≤ limit)

include hpow hlen hlimit hbelow hdrive

theorem truncates_writeDrive {n m : Nat} (hne : n ≠ m) :
    Ensures (fun s => AtStart (.file n) (.file m) s ∧ Below limit s)
      (writeDrive (alwaysAnswers sector driveSize) image (.file n) (.file m) sector.toNat
        driveSize.toNat image.length (image.length + 1))
      (Truncates limit) := by
  obtain ⟨hmin, hmax⟩ := effectiveSectorSize_bounds sector
  have htarget : ((image.length : Int) % 2 ^ 64).toNat = image.length := by omega
  rw [writeDrive]
  simp only [htarget]
  refine .bind (Q := fun _ s => AtStart (.file n) (.file m) s ∧ Below limit s)
    (fun s hs => ⟨atStart_rewind (fun k hk => by simpa using hne) s hs.1, ?_⟩) fun _ => ?_
  · exact fun _ _ _ _ hmem => hs.2 _ _ _ _ ((List.mem_cons.mp hmem).resolve_left (by simp))
  refine .bind (Q := fun r s =>
    r = some (⟨effectiveSectorSize sector.toNat, fun _ => 0⟩ : Block) ∧
      AtStart (.file n) (.file m) s ∧ Below limit s) (fun s hs => ⟨?_, hs.1, ?_⟩) fun r => ?_
  · exact if_pos hpow
  · exact hs.2.quiet (quiet_record (by simp))
  rintro s ⟨rfl, hs, hb⟩
  simp only [Nat.mod_self, ne_eq, not_true_eq_false, if_false]
  refine Ensures.bind (short_loop hmin hmax hlen hne hlimit hbelow hdrive _) (fun r => ?_) s
    ⟨hs.copied _ _, hb, Nat.zero_le _⟩
  rintro t ⟨_, rfl, rfl, hend⟩
  exact ⟨rfl, hend.quiet (quiet_deviceIoControl (.file n) .updateProperties t)⟩

theorem truncates_installImage {deviceNum : Nat} {name : String}
    (hname : getPhysicalName deviceNum = some name) (hpath : isDevicePath name = true)
    (path : String) :
    Ensures (Below limit)
      (installImage (alwaysAnswers sector driveSize) deviceNum path image image.length sector.toNat
        driveSize.toNat) (Truncates limit) := by
  rw [installImage]
  rw [hname]
  refine .bind (Q := fun drive s => (∃ n, drive = .file n) ∧ Fresh drive s ∧ Below limit s)
    (fun s hs => ⟨file_openDrive sector driveSize _ hpath _ _ _ s,
      fresh_openDrive _ _ _ _ _ s trivial, hs.quiet (opening_quiet.openDrive _ _ _ _ _ s)⟩)
    fun drive => ?_
  rintro s ⟨⟨n, rfl⟩, hs, hb⟩
  refine Ensures.bind (P := fun t => t = s) (Q := fun source t => (∃ m, source = .file m) ∧
    Opened (.file n) source t ∧ Below limit t) ?_ (fun source => ?_) s rfl
  · rintro t rfl
    exact ⟨⟨t.calls.length, rfl⟩, opened_openImage path t hs,
      hb.quiet (quiet_openImage path t)⟩
  rintro t ⟨⟨m, rfl⟩, ht⟩
  have hne : n ≠ m := fun heq => ht.1.ne n rfl (by rw [heq])
  have hquiet {α : Type} {x : StateM System α} (hx : Keeps Quiet x) :
      Ensures (fun u => Opened (.file n) (.file m) u ∧ Below limit u) x
        fun _ u => Opened (.file n) (.file m) u ∧ Below limit u :=
    fun u hu => ⟨hu.1.quiet (hx u), hu.2.quiet (hx u)⟩
  refine Ensures.bind (hquiet (opening_quiet.getLogicalHandle _ _ _ _)) (fun logical => ?_) t ht
  refine .bind (hquiet (quiet_deviceIoControl _ _)) fun _ => ?_
  refine .bind (Q := Truncates limit) (fun u hu => truncates_writeDrive hpow hlen hlimit hbelow
    hdrive hne u ⟨hu.1.atStart, hu.2⟩) fun r => ?_
  rintro u ⟨rfl, hu⟩
  have hclose (handle : Handle) : Ensures (Truncates limit (some true)) (safeClosehandle handle)
      fun _ => Truncates limit (some true) :=
    fun u hu => hu.quiet (quiet_safeClosehandle handle u)
  refine Ensures.bind (hclose (.file n)) (fun _ => ?_) u ⟨rfl, hu⟩
  refine .bind (hclose logical) fun _ => ?_
  exact .bind (hclose (.file m)) fun _ => .pure fun _ hs => hs

end Good

/-- The sizes that the drive reports to `Install`, zero when it cannot be asked. -/
def Reports (os : Os) (deviceNum : Nat) (s : System) (sectorSize driveSize : Nat) : Prop :=
  (getSectorSize os deviceNum s).1 = sectorSize ∧
    (getDriveSize os deviceNum (getSectorSize os deviceNum s).2).1 = driveSize

/-- The condition under which a success means that the image is written. There is nothing to write
of an empty image, and no buffer for a sector size that is not a power of two. -/
def LastBufferFits (image : List UInt8) (sector : UInt32) (driveSize : UInt64) : Prop :=
  image = [] ∨ ¬ (effectiveSectorSize sector.toNat).isPowerOfTwo ∨
    lastBuffer image.length (bufSize (effectiveSectorSize sector.toNat)) < driveSize.toNat

/-- The property: a thread that ends in `State::Success` has written the whole image. -/
def SuccessMeansWritten (file : ImageFile) (sector : UInt32) (driveSize : UInt64) : Prop :=
  ∀ (os : Os) (drive : DeviceGuy) (path : String) (status : Nat),
    Reports os drive.deviceNum { formatStatus := status } sector.toNat driveSize.toNat →
    (writeImage os drive path (some file) { formatStatus := status }).1 = .success →
    Written file.bytes (writeImage os drive path (some file) { formatStatus := status }).2.calls

/-- What the thread makes of the result of `Install`. -/
theorem writeImage_some (os : Os) (drive : DeviceGuy) (path : String) (file : ImageFile)
    (s : System) :
    writeImage os drive path (some file) s =
      (match (install os drive path file.bytes file.bytes.length s).1 with
        | none => .running
        | some false => .installFailed
        | some true => .success,
        (install os drive path file.bytes file.bytes.length s).2) := by
  have hsize : getFileSize (some file) ≠ -1 := by
    simp only [getFileSize]
    omega
  rw [writeImage]
  simp only [if_neg hsize]
  change (match (install os drive path file.bytes file.bytes.length s).1 with
    | none => (pure .running : StateM System DiskState)
    | some false => pure .installFailed
    | some true => pure .success) (install os drive path file.bytes file.bytes.length s).2 = _
  obtain ⟨r, t⟩ := install os drive path file.bytes file.bytes.length s
  cases r with
  | none => rfl
  | some ok => cases ok <;> rfl

/-- `Install` after the drive has reported its sizes. -/
theorem install_of_reports {os : Os} {drive : DeviceGuy} {s : System} {sectorSize driveSize : Nat}
    (h : Reports os drive.deviceNum s sectorSize driveSize) (path : String) (image : List UInt8)
    (imageSize : Int) :
    install os drive path image imageSize s =
      (do
        match ← formatShared os (getPhysicalName drive.deviceNum) with
        | none => return none
        | some false => return some false
        | some true =>
          installImage os drive.deviceNum path image imageSize sectorSize driveSize : StateM _ _)
        (getDriveSize os drive.deviceNum (getSectorSize os drive.deviceNum s).2).2 := by
  obtain ⟨rfl, rfl⟩ := h
  rfl

theorem means_install {os : Os} {drive : DeviceGuy} {s : System} {image : List UInt8}
    {sector : UInt32} {driveSize : Nat} (hlen : image.length < 2 ^ 63)
    (h : Reports os drive.deviceNum s sector.toNat driveSize) (path : String)
    (hr : (install os drive path image image.length s).1 = some true) :
    Means image (effectiveSectorSize sector.toNat) driveSize (some true)
      (install os drive path image image.length s).2 := by
  rw [install_of_reports h] at hr ⊢
  refine Ensures.bind (P := fun _ => True) (Q := fun _ _ => True)
    (T := fun r t => r = some true →
      Means image (effectiveSectorSize sector.toNat) driveSize (some true) t)
    (fun _ _ => trivial) (fun r => ?_) _ trivial hr
  split
  · exact .pure fun _ _ hr => by cases hr
  · exact .pure fun _ _ hr => by cases hr
  · intro t ht hr
    rw [← hr]
    exact means_installImage hlen drive.deviceNum path t ht

/-- A device whose number is in range, and its path. -/
def sample : DeviceGuy := ⟨0x80, "stick", 8589934592⟩

theorem sample_path :
    getPhysicalName sample.deviceNum = some "\\\\.\\PHYSICALDRIVE0" ∧
      isDevicePath "\\\\.\\PHYSICALDRIVE0" = true := by
  decide

theorem getGeometry_alwaysAnswers (sector : UInt32) (driveSize : UInt64) (s : System) :
    (getGeometry (alwaysAnswers sector driveSize) sample.deviceNum s).1 =
      some ⟨sector, driveSize⟩ := by
  rw [getGeometry, getPhysicalHandle, getHandle]
  rw [sample_path.1]
  refine Ensures.bind (P := fun t => t = s) (Q := fun handle _ => ∃ n, handle = .file n)
    (T := fun r _ => r = some (⟨sector, driveSize⟩ : Geometry)) ?_ (fun handle => ?_) s rfl
  · exact fun t _ => file_openDrive sector driveSize _ sample_path.2 _ _ _ t
  · rintro t ⟨n, rfl⟩
    rfl

theorem reports_alwaysAnswers (sector : UInt32) (driveSize : UInt64) (s : System) :
    Reports (alwaysAnswers sector driveSize) sample.deviceNum s sector.toNat driveSize.toNat := by
  constructor
  · refine Ensures.bind (P := fun t => t = s) (Q := fun r _ => r = some ⟨sector, driveSize⟩)
      (T := fun r _ => r = sector.toNat) (fun t _ => getGeometry_alwaysAnswers _ _ t)
      (fun r => ?_) s rfl
    rintro t rfl
    rfl
  · refine Ensures.bind (P := fun _ => True) (Q := fun r _ => r = some ⟨sector, driveSize⟩)
      (T := fun r _ => r = driveSize.toNat) (fun t _ => getGeometry_alwaysAnswers _ _ t)
      (fun r => ?_) _ trivial
    rintro t rfl
    rfl

/-- A byte that a call puts lies below the end of what is written. -/
theorem Call.exists_of_puts {call : Call} {i : Nat} {byte : UInt8} (h : call.puts i byte = true) :
    ∃ handle offset data written, call = .writeFile handle offset data written ∧
      i < offset + data.length := by
  unfold Call.puts at h
  split at h
  · simp only [Bool.and_eq_true, decide_eq_true_eq, beq_iff_eq] at h
    have hlt := (List.getElem?_eq_some_iff.mp h.2).1
    rw [List.length_take] at hlt
    exact ⟨_, _, _, _, rfl, by omega⟩
  · cases h

/-- What is written lies below what bounds all writes. -/
theorem Written.length_le {image : List UInt8} {limit : Nat} {s : System}
    (h : Written image s.calls) (hb : Below limit s) : image.length ≤ limit := by
  by_contra hlt
  obtain ⟨call, hmem, hputs⟩ := h limit image[limit] (List.getElem?_eq_getElem _)
  obtain ⟨handle, offset, data, written, rfl, hend⟩ := Call.exists_of_puts hputs
  have := hb handle offset data written hmem
  omega

theorem truncates_install {image : List UInt8} {sector : UInt32} {driveSize : UInt64} {limit : Nat}
    (hpow : (effectiveSectorSize sector.toNat).isPowerOfTwo) (hlen : image.length < 2 ^ 63)
    (hlimit : bufSize (effectiveSectorSize sector.toNat) ∣ limit) (hbelow : limit < image.length)
    (hdrive : driveSize.toNat ≤ limit) (path : String) :
    Ensures (Below limit) (install (alwaysAnswers sector driveSize) sample path image image.length)
      (Truncates limit) := by
  intro s hs
  rw [install_of_reports (reports_alwaysAnswers sector driveSize s), sample_path.1]
  have hasked : Below limit (getDriveSize (alwaysAnswers sector driveSize) sample.deviceNum
      (getSectorSize (alwaysAnswers sector driveSize) sample.deviceNum s).2).2 :=
    (hs.quiet (opening_quiet.getSectorSize _ s)).quiet (opening_quiet.getDriveSize _ _)
  refine Ensures.bind (Q := fun r t => r = some true ∧ Below limit t)
    (fun t ht => ⟨rfl, ht.quiet (quiet_formatShared _ t)⟩) (fun r => ?_) _ hasked
  rintro t ⟨rfl, ht⟩
  exact truncates_installImage hpow hlen hlimit hbelow hdrive sample_path.1 sample_path.2 path t ht

/-- **When a success means a complete image.** For every image and all sizes that a drive reports,
`State::Success` means that every byte of the image has been written, whatever the calls answer,
if and only if the last buffer of the image begins below the drive size. -/
theorem success_means_written_iff (file : ImageFile) (sector : UInt32) (driveSize : UInt64) :
    SuccessMeansWritten file sector driveSize ↔ LastBufferFits file.bytes sector driveSize := by
  constructor
  · intro h
    by_contra hno
    simp only [LastBufferFits, not_or, not_not, not_lt] at hno
    obtain ⟨hne, hpow, hshort⟩ := hno
    have hpos := List.length_pos_iff.mpr hne
    set limit := lastBuffer file.bytes.length (bufSize (effectiveSectorSize sector.toNat))
    have hlast : limit ≤ file.bytes.length - 1 := Nat.div_mul_le_self _ _
    have hdvd : bufSize (effectiveSectorSize sector.toNat) ∣ limit := Nat.dvd_mul_left _ _
    obtain ⟨hr, hbelow⟩ := truncates_install hpow file.length_lt hdvd (by omega) hshort ""
      { formatStatus := 0 } fun _ _ _ _ hmem => by cases hmem
    have hwritten := h (alwaysAnswers sector driveSize) sample "" 0
      (reports_alwaysAnswers sector driveSize _) (by rw [writeImage_some, hr])
    rw [writeImage_some] at hwritten
    have hle := hwritten.length_le hbelow
    omega
  · intro hfits os drive path status hreports hsuccess
    rw [writeImage_some] at hsuccess ⊢
    have hr : (install os drive path file.bytes file.bytes.length { formatStatus := status }).1 =
        some true := by
      revert hsuccess
      dsimp only
      split <;> simp_all
    obtain ⟨ret, hret, hmeans⟩ := means_install file.length_lt hreports path hr
    obtain ⟨hpow, hwritten⟩ := hmeans (Option.some.inj hret).symm
    apply hwritten
    rcases hfits with hempty | hnopow | hlast
    · exact Or.inl hempty
    · exact absurd hpow hnopow
    · exact Or.inr hlast

/-- The image of one byte. -/
def oneByte : ImageFile := ⟨[7], by decide⟩

/-- The drive does not answer when it is asked for its geometry. -/
def noGeometry : Os := { alwaysAnswers 512 0 with geometry := fun _ => none }

/-- When the geometry query fails, the drive size is zero, nothing is written, and the thread
reports success. -/
theorem success_without_write :
    Reports noGeometry sample.deviceNum {} 0 0 ∧
      (writeImage noGeometry sample "image.bin" (some oneByte) {}).1 = .success ∧
      ¬ Written oneByte.bytes
        (writeImage noGeometry sample "image.bin" (some oneByte) {}).2.calls ∧
      ¬ SuccessMeansWritten oneByte 0 0 := by
  have hreports : Reports noGeometry sample.deviceNum {} 0 0 := ⟨by decide, by decide⟩
  have hsuccess : (writeImage noGeometry sample "image.bin" (some oneByte) {}).1 = .success := by
    decide +kernel
  have hwritten : ¬ Written oneByte.bytes
      (writeImage noGeometry sample "image.bin" (some oneByte) {}).2.calls := by
    intro h
    exact absurd (h 0 7 rfl) (by decide +kernel)
  exact ⟨hreports, hsuccess, hwritten, fun h =>
    hwritten (h noGeometry sample "image.bin" 0 hreports hsuccess)⟩

end UsbMaker.Disk
