import UsbMaker.Disk.Handles

/-!
# The tries of `GetHandle`

`GetHandle` and `OldGetHandle` try to open a drive up to `DRIVE_ACCESS_RETRIES` times, as long as
the error may pass, and then to lock it as often; `OldGetHandle` tries the lock once when
`FormatStatus` is an error. This file says which answers of the operating system make them return a
handle, and that a handle they return is one of the drive and locked.

## Main definitions

* `Disk.OpensAt`, `Disk.Secures`: the answers with which a drive is opened and locked.

## Main results

* `Disk.openDrive_ne_invalid_iff`: what `GetHandle` returns.
* `Disk.locked_openDrive`.
-/

namespace UsbMaker.Disk

open Program

/-- A drive is opened in the try `i` when `calls` calls have been made. A try that fails makes two
calls, `CreateFile` and `Sleep`. -/
structure OpensAt (os : Os) (tries calls i : Nat) : Prop where
  lt : i < tries
  opened : os.createFile (calls + 2 * i) = none
  denied : ∀ j < i, os.createFile (calls + 2 * j) = some .sharingViolation ∨
    os.createFile (calls + 2 * j) = some .accessDenied

/-- A drive is opened, and then locked in one of the tries. -/
def Secures (os : Os) (tries calls : Nat) : Prop :=
  ∃ i, OpensAt os driveAccessRetries calls i ∧
    ∃ j < tries, os.deviceIoControl (calls + 2 * i + 2 + 2 * j) = true

section Tries

variable {os : Os} {path : String} {writeAccess : Bool}

theorem opensAt_zero {tries calls : Nat} (h : os.createFile calls = none) :
    OpensAt os (tries + 1) calls 0 :=
  ⟨Nat.succ_pos _, h, fun j hj => absurd hj (Nat.not_lt_zero j)⟩

/-- The first try fails with an error that may pass. -/
theorem opensAt_succ_iff {tries calls : Nat} {error : OpenError}
    (h : os.createFile calls = some error) (i : Nat) :
    OpensAt os (tries + 1) calls i ↔
      error ≠ .other ∧ ∃ i', i = i' + 1 ∧ OpensAt os tries (calls + 2) i' := by
  have hshift (j : Nat) : calls + 2 * (j + 1) = calls + 2 + 2 * j := by omega
  constructor
  · intro ⟨hlt, hopened, hdenied⟩
    cases i with
    | zero =>
      rw [Nat.mul_zero, Nat.add_zero, h] at hopened
      cases hopened
    | succ i =>
      refine ⟨?_, i, rfl, Nat.lt_of_succ_lt_succ hlt, hshift i ▸ hopened, fun j hj => ?_⟩
      · rintro rfl
        simpa [h] using hdenied 0 (Nat.succ_pos i)
      · exact hshift j ▸ hdenied (j + 1) (Nat.succ_lt_succ hj)
  · rintro ⟨hother, i, rfl, hlt, hopened, hdenied⟩
    refine ⟨Nat.succ_lt_succ hlt, hshift i ▸ hopened, fun j hj => ?_⟩
    cases j with
    | zero =>
      rw [Nat.mul_zero, Nat.add_zero, h]
      cases error with
      | sharingViolation => exact Or.inl rfl
      | accessDenied => exact Or.inr rfl
      | other => exact absurd rfl hother
    | succ j => exact hshift j ▸ hdenied j (Nat.lt_of_succ_lt_succ hj)

variable (os path writeAccess)

/-- One turn of the loop of `GetHandle` that opens, when the device is opened. -/
theorem openTries_of_opened (n : Nat) (writeShare : Bool) {s : System}
    (h : os.createFile s.calls.length = none) :
    ∃ t, t.calls.length = s.calls.length + 1 ∧
      openTries os path writeAccess (n + 1) writeShare s = (some (.file s.calls.length), t) := by
  refine ⟨(createFile os path writeAccess (writeAccess && writeShare) s).2, ?_, ?_⟩
  · simp [createFile, h, System.record]
  · simp only [openTries, bind_apply, createFile, h]
    rfl

/-- One turn, with an error that does not pass. -/
theorem openTries_of_other (n : Nat) (writeShare : Bool) {s : System}
    (h : os.createFile s.calls.length = some .other) :
    (openTries os path writeAccess (n + 1) writeShare s).1 = none := by
  simp only [openTries, bind_apply, createFile, h]
  rfl

/-- One turn, with an error that may pass: the loop waits and goes on. -/
theorem openTries_of_error (n : Nat) (writeShare : Bool) {s : System} {error : OpenError}
    (h : os.createFile s.calls.length = some error) (hother : error ≠ .other) :
    ∃ share' t, t.calls.length = s.calls.length + 2 ∧
      openTries os path writeAccess (n + 1) writeShare s =
        openTries os path writeAccess n share' t := by
  simp only [openTries, bind_apply, createFile, h]
  cases error with
  | other => exact absurd rfl hother
  | _ => exact ⟨_, _, rfl, rfl⟩

/-- The loop of `GetHandle` that opens. -/
theorem openTries_eq (n : Nat) (writeShare : Bool) (s : System) :
    (∀ i, OpensAt os n s.calls.length i →
      (openTries os path writeAccess n writeShare s).1 = some (.file (s.calls.length + 2 * i)) ∧
        (openTries os path writeAccess n writeShare s).2.calls.length =
          s.calls.length + 2 * i + 1) ∧
    ((∀ i, ¬ OpensAt os n s.calls.length i) →
      (openTries os path writeAccess n writeShare s).1 = none) := by
  induction n generalizing writeShare s with
  | zero => exact ⟨fun i h => absurd h.lt (Nat.not_lt_zero i), fun _ => rfl⟩
  | succ n ih =>
    cases hcreate : os.createFile s.calls.length with
    | none =>
      obtain ⟨t, ht, hopen⟩ := openTries_of_opened os path writeAccess n writeShare hcreate
      rw [hopen]
      refine ⟨fun i h => ?_, fun h => absurd (opensAt_zero hcreate) (h 0)⟩
      cases i with
      | zero => exact ⟨rfl, ht⟩
      | succ i =>
        have hdenied := h.denied 0 (Nat.succ_pos i)
        simp [hcreate] at hdenied
    | some error =>
      simp only [opensAt_succ_iff hcreate]
      by_cases hother : error = .other
      · subst hother
        exact ⟨fun i h => absurd rfl h.1,
          fun _ => openTries_of_other os path writeAccess n writeShare hcreate⟩
      · obtain ⟨share', t, ht, hopen⟩ :=
          openTries_of_error os path writeAccess n writeShare hcreate hother
        obtain ⟨hsome, hnone⟩ := ih share' t
        rw [ht] at hsome hnone
        rw [hopen]
        refine ⟨?_, fun h => hnone fun i hi => h (i + 1) ⟨hother, i, rfl, hi⟩⟩
        rintro _ ⟨-, i, rfl, hi⟩
        rw [show s.calls.length + 2 * (i + 1) = s.calls.length + 2 + 2 * i by omega]
        exact hsome i hi

variable {path}

/-- One turn of the loop of `GetHandle` that locks. -/
theorem lockTries_succ (checkStatus : Bool) (k n : Nat) (s : System) :
    lockTries checkStatus os (.file k) (n + 1) s =
      if os.deviceIoControl s.calls.length then
        (true, s.record (.deviceIoControl (.file k) .lockVolume true))
      else if checkStatus && isError s.formatStatus then
        (false, s.record (.deviceIoControl (.file k) .lockVolume false))
      else lockTries checkStatus os (.file k) n
        ((s.record (.deviceIoControl (.file k) .lockVolume false)).record
          (.sleep (driveAccessTimeout / driveAccessRetries))) := by
  cases hlock : os.deviceIoControl s.calls.length with
  | true =>
    simp only [lockTries, bind_apply, deviceIoControl, hlock, ↓reduceIte]
    rfl
  | false =>
    simp only [lockTries, bind_apply, deviceIoControl, hlock, Bool.false_eq_true, ↓reduceIte]
    change (if (checkStatus && isError s.formatStatus) = true then _ else _ :
      StateM System Bool) _ = _
    cases checkStatus && isError s.formatStatus <;> rfl

/-- The loop of `GetHandle` that locks. -/
theorem lockTries_iff (checkStatus : Bool) (k n : Nat) (s : System) :
    (lockTries checkStatus os (.file k) n s).1 = true ↔
      ∃ j < n, os.deviceIoControl (s.calls.length + 2 * j) = true ∧
        (j = 0 ∨ (checkStatus && isError s.formatStatus) = false) := by
  induction n generalizing s with
  | zero => simp [lockTries, pure_apply]
  | succ n ih =>
    rw [lockTries_succ, Nat.exists_lt_succ_left]
    cases hlock : os.deviceIoControl s.calls.length with
    | true => simp
    | false =>
      cases hstop : checkStatus && isError s.formatStatus with
      | true => simp
      | false =>
        have hshift (j : Nat) : s.calls.length + 2 * (j + 1) = s.calls.length + 2 + 2 * j := by
          omega
        simp only [Bool.false_eq_true, if_false, ih, hshift]
        simp [System.record, hstop]

/-- `FormatStatus` is left alone. -/
def SameStatus (s s' : System) : Prop := s'.formatStatus = s.formatStatus

instance : Std.Refl SameStatus := ⟨fun _ => rfl⟩

instance : IsTrans System SameStatus := ⟨fun _ _ _ h h' => Eq.trans h' h⟩

theorem opening_sameStatus : Opening os SameStatus where
  createFile path write share s := by
    unfold createFile
    split <;> rfl
  asks _ _ _ := rfl

/-- The tries for the lock; one for `OldGetHandle` when `FormatStatus` is an error. -/
def lockRetries (checkStatus : Bool) (status : Nat) : Nat :=
  if checkStatus && isError status then 1 else driveAccessRetries

/-- After a drive has been opened, `GetHandle` returns a handle if it can be locked. -/
theorem openDrive_of_opened (hpath : isDevicePath path = true) (checkStatus writeShare : Bool)
    {s : System} {k : Nat}
    (hfile : (openTries os path writeAccess driveAccessRetries writeShare s).1 = some (.file k)) :
    (openDrive checkStatus os (some path) true writeAccess writeShare s).1 ≠ .invalid ↔
      (lockTries checkStatus os (.file k) driveAccessRetries
        (deviceIoControl os (.file k) .allowExtendedDasdIo
          (openTries os path writeAccess driveAccessRetries writeShare s).2).2).1 = true := by
  simp only [openDrive, Option.filter, hpath, ↓reduceIte, bind_apply, hfile]
  cases (lockTries checkStatus os (.file k) driveAccessRetries
    (deviceIoControl os (.file k) .allowExtendedDasdIo
      (openTries os path writeAccess driveAccessRetries writeShare s).2).2).1
  · exact ⟨fun h => absurd rfl h, fun h => by cases h⟩
  · exact ⟨fun _ => rfl, fun _ h => by cases h⟩

/-- A bound on the tries says the same as a bound by one or by `DRIVE_ACCESS_RETRIES`. -/
theorem lt_lockRetries_iff (checkStatus : Bool) (status j : Nat) :
    j < lockRetries checkStatus status ↔
      j < driveAccessRetries ∧ (j = 0 ∨ (checkStatus && isError status) = false) := by
  rw [lockRetries, driveAccessRetries]
  split_ifs with hcheck
  · simp only [hcheck, Bool.true_eq_false, or_false]
    omega
  · simp [hcheck]

/-- `GetHandle` and `OldGetHandle` return a handle if and only if the drive is opened and locked in
the tries they have. -/
theorem openDrive_ne_invalid_iff (hpath : isDevicePath path = true) (checkStatus writeShare : Bool)
    (s : System) :
    (openDrive checkStatus os (some path) true writeAccess writeShare s).1 ≠ .invalid ↔
      Secures os (lockRetries checkStatus s.formatStatus) s.calls.length := by
  obtain ⟨hsome, hnone⟩ := openTries_eq os path writeAccess driveAccessRetries writeShare s
  by_cases hopens : ∃ i, OpensAt os driveAccessRetries s.calls.length i
  · obtain ⟨i, hi⟩ := hopens
    obtain ⟨hfile, hlen⟩ := hsome i hi
    have hunique (i' : Nat) (hi' : OpensAt os driveAccessRetries s.calls.length i') : i' = i := by
      have := Handle.file.inj (Option.some.inj ((hsome i' hi').1.symm.trans hfile))
      omega
    have hstatus : (openTries os path writeAccess driveAccessRetries writeShare s).2.formatStatus =
        s.formatStatus :=
      (opening_sameStatus os).openTries path writeAccess driveAccessRetries writeShare s
    have hcalls : (deviceIoControl os (.file (s.calls.length + 2 * i)) .allowExtendedDasdIo
        (openTries os path writeAccess driveAccessRetries writeShare s).2).2.calls.length =
          s.calls.length + 2 * i + 2 := congrArg (· + 1) hlen
    rw [openDrive_of_opened os writeAccess hpath checkStatus writeShare hfile, lockTries_iff,
      hcalls]
    change (∃ j < driveAccessRetries, _ ∧ (j = 0 ∨ (checkStatus && isError (openTries os path
      writeAccess driveAccessRetries writeShare s).2.formatStatus) = false)) ↔ _
    rw [hstatus, Secures]
    constructor
    · rintro ⟨j, hj, hok, hstop⟩
      exact ⟨i, hi, j, (lt_lockRetries_iff _ _ _).mpr ⟨hj, hstop⟩, hok⟩
    · rintro ⟨i', hi', j, hj, hok⟩
      obtain rfl := hunique i' hi'
      obtain ⟨hlt, hstop⟩ := (lt_lockRetries_iff _ _ _).mp hj
      exact ⟨j, hlt, hok, hstop⟩
  · have hinvalid : (openDrive checkStatus os (some path) true writeAccess writeShare s).1 =
        .invalid := by
      simp only [openDrive, Option.filter, hpath, ↓reduceIte, bind_apply,
        hnone fun i hi => hopens ⟨i, hi⟩]
      rfl
    rw [hinvalid]
    constructor
    · exact fun h => absurd rfl h
    · rintro ⟨i, hi, -⟩
      exact absurd ⟨i, hi⟩ hopens

variable {os writeAccess}

theorem created_openTries (path : String) (n : Nat) (writeShare : Bool) :
    Ensures (fun _ => True) (openTries os path writeAccess n writeShare) fun r s =>
      ∀ handle, r = some handle → (∃ k, handle = .file k) ∧
        ∃ share, .createFile path writeAccess share handle ∈ s.calls := by
  induction n generalizing writeShare with
  | zero => exact .pure fun _ _ _ hr => by cases hr
  | succ n ih =>
    refine .bind (Q := fun r s => ∀ handle, r = .ok handle → (∃ k, handle = .file k) ∧
      ∃ share, .createFile path writeAccess share handle ∈ s.calls) ?_ fun r => ?_
    · intro s _ handle hr
      unfold createFile at hr ⊢
      split at hr
      · cases hr
      · obtain rfl := Except.ok.inj hr
        exact ⟨⟨_, rfl⟩, _, List.mem_cons_self⟩
    · split
      · refine .pure fun s hs handle hr => ?_
        obtain rfl := Option.some.inj hr
        exact hs _ rfl
      · exact .pure fun _ _ _ hr => by cases hr
      · exact .bind (fun _ _ => trivial) fun _ => ih _

theorem locked_lockTries (checkStatus : Bool) (handle : Handle) (n : Nat) :
    Ensures (fun _ => True) (lockTries checkStatus os handle n) fun locked s =>
      locked = true → .deviceIoControl handle .lockVolume true ∈ s.calls := by
  induction n with
  | zero => exact .pure fun _ _ h => by cases h
  | succ n ih =>
    refine .bind (Q := fun ok s => ok = true → .deviceIoControl handle .lockVolume true ∈ s.calls)
      (fun s _ hok => ?_) fun ok => ?_
    · rw [← hok]
      exact List.mem_cons_self
    · split
      · rename_i hok
        exact .pure fun s hs _ => hs hok
      · refine .bind (Q := fun _ _ => True) (fun _ _ => trivial) fun s₁ => ?_
        split
        · exact .pure fun _ _ h => by cases h
        · exact .bind (Q := fun _ _ => True) (fun _ _ => trivial) fun _ => ih

/-- A handle that `GetHandle` returns is one of the drive, and locked. -/
theorem locked_openDrive (checkStatus : Bool) (path : String) (writeShare : Bool) :
    Ensures (fun _ => True) (openDrive checkStatus os (some path) true writeAccess writeShare)
      fun handle s => handle = .invalid ∨ (∃ k, handle = .file k) ∧
        (∃ share, .createFile path writeAccess share handle ∈ s.calls) ∧
          .deviceIoControl handle .lockVolume true ∈ s.calls := by
  rw [openDrive]
  split
  · exact .pure fun _ _ => Or.inl rfl
  · rename_i path' hpath'
    obtain rfl : path' = path := by
      have := Option.eq_some_of_filter_eq_some hpath'
      exact (Option.some.inj this).symm
    refine .bind (created_openTries _ _ _) fun r => ?_
    cases r with
    | none => exact .pure fun _ _ => Or.inl rfl
    | some handle =>
      dsimp only
      rw [if_pos rfl]
      refine .bind (Q := fun _ s => (∃ k, handle = .file k) ∧
        ∃ share, .createFile path' writeAccess share handle ∈ s.calls) (fun s hs => ?_) fun _ => ?_
      · obtain ⟨hfile, share, hmem⟩ := hs handle rfl
        exact ⟨hfile, share, List.mem_cons_of_mem _ hmem⟩
      refine .bind (Q := fun locked s => (∃ k, handle = .file k) ∧
        (∃ share, .createFile path' writeAccess share handle ∈ s.calls) ∧
          (locked = true → .deviceIoControl handle .lockVolume true ∈ s.calls))
        (fun s hs => ?_) fun locked => ?_
      · obtain ⟨hfile, share, hmem⟩ := hs
        exact ⟨hfile, ⟨share, (opening_quiet.lockTries _ _ _ s).calls.subset hmem⟩,
          locked_lockTries _ _ _ s trivial⟩
      · split
        · rename_i hlocked
          exact .pure fun s hs => Or.inr ⟨hs.1, hs.2.1, hs.2.2 hlocked⟩
        · rintro s ⟨⟨k, rfl⟩, -, -⟩
          exact Or.inl rfl

end Tries

end UsbMaker.Disk
