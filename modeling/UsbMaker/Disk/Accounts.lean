import UsbMaker.Disk.Complete

/-!
# Open handles

`Install` opens handles through helpers that open, give up and close on their own. `Accounted` ties
the calls made to the handles that the program holds: every handle that `CreateFile` has returned is
either held and not closed, or closed once. Each helper keeps it, with the handle it returns added
to those held. When `Install` returns it holds nothing.

## Main definitions

* `Disk.Created`, `Disk.Accounted`.
* `Disk.Adds`: the calls that a program adds.

## Main results

* `Disk.accounted_openDrive`, `Disk.accounted_getLogicalHandle`.
* `Disk.adds_writeDrive`: the calls of `WriteDrive`.
* `Disk.accounted_install`.
-/

namespace UsbMaker.Disk

open Program

/-! ### The calls that a program adds -/

/-- The program adds calls of one kind. -/
def Adds (P : Call → Bool) (s s' : System) : Prop :=
  ∃ new, s'.calls = new ++ s.calls ∧ ∀ call ∈ new, P call = true

section Adds

variable {P : Call → Bool} {s s' : System}

instance : Std.Refl (Adds P) := ⟨fun _ => ⟨[], rfl, by simp⟩⟩

instance : IsTrans System (Adds P) where
  trans s t u := by
    rintro ⟨new, hnew, hP⟩ ⟨new', hnew', hP'⟩
    refine ⟨new' ++ new, by rw [hnew', hnew, List.append_assoc], fun call hcall => ?_⟩
    rcases List.mem_append.mp hcall with hcall | hcall
    · exact hP' call hcall
    · exact hP call hcall

theorem adds_of_calls {call : Call} (hcalls : s'.calls = call :: s.calls) (hcall : P call = true) :
    Adds P s s' := ⟨[call], hcalls, by simpa using hcall⟩

theorem Adds.suffix (h : Adds P s s') : s.calls <:+ s'.calls := by
  obtain ⟨new, hnew, -⟩ := h
  exact ⟨new, hnew.symm⟩

theorem Adds.mem {call : Call} (h : Adds P s s') (hcall : call ∈ s.calls) : call ∈ s'.calls := by
  obtain ⟨new, hnew, -⟩ := h
  exact hnew ▸ List.mem_append_right _ hcall

theorem Adds.mem_iff {call : Call} (h : Adds P s s') (hcall : P call = false) :
    call ∈ s'.calls ↔ call ∈ s.calls := by
  refine ⟨fun hmem => ?_, h.mem⟩
  obtain ⟨new, hnew, hP⟩ := h
  rw [hnew] at hmem
  refine (List.mem_append.mp hmem).resolve_left fun hmem => ?_
  rw [hP call hmem] at hcall
  cases hcall

end Adds

/-- The calls of `WriteDrive`. -/
def Call.copies (drive : Handle) : Call → Bool
  | .setFilePointerEx .. | .mmMalloc .. | .readFile .. | .sleep _ => true
  | .writeFile handle .. => handle == drive
  | .deviceIoControl _ code _ => code == .updateProperties
  | _ => false

section Copies

variable {os : Os} {image : List UInt8} {drive source : Handle}

theorem adds_setFilePointerEx (offset : Nat) :
    Keeps (Adds (Call.copies drive)) (setFilePointerEx os drive offset) := by
  intro s
  unfold setFilePointerEx
  split
  · exact adds_of_calls rfl rfl
  · exact adds_of_calls rfl rfl
  · split
    · exact adds_of_calls rfl rfl
    · exact adds_of_calls rfl rfl

theorem adds_writeFile (data : List UInt8) :
    Keeps (Adds (Call.copies drive)) (writeFile os drive data) := by
  intro s
  unfold writeFile
  split
  · exact adds_of_calls rfl (by simp [Call.copies])
  · exact adds_of_calls rfl (by simp [Call.copies])
  · split
    · exact adds_of_calls rfl (by simp [Call.copies])
    · exact adds_of_calls rfl (by simp [Call.copies])

theorem adds_setFormatStatus {P : Call → Bool} (status : Nat) :
    Keeps (Adds P) (setFormatStatus status) := fun _ => ⟨[], rfl, by simp⟩

theorem adds_writeTries (wb : Nat) (data : List UInt8) (n : Nat) :
    Keeps (Adds (Call.copies drive)) (writeTries os drive wb data n) := by
  induction n with
  | zero => exact .pure _
  | succ n ih =>
    refine .bind (adds_writeFile data) fun written => ?_
    split
    · exact .pure _
    · split
      · exact .bind (adds_setFormatStatus _) fun _ => .pure _
      · refine .bind (adds_setFilePointerEx wb) fun ok => ?_
        split
        · exact .bind (fun s => adds_of_calls rfl rfl) fun _ => ih
        · exact .pure _

/-- Reading adds calls of `ReadFile`. -/
theorem adds_readNext {P : Call → Bool} (hP : ∀ handle size data, P (.readFile handle size data))
    (size : Nat) (c : Copy) : Keeps (Adds P) (readNext os image source size c) := by
  have hread : Keeps (Adds P) (readFile os image source size) := by
    intro s
    unfold readFile
    split
    · exact adds_of_calls rfl (hP _ _ _)
    · exact adds_of_calls rfl (hP _ _ _)
    · split
      · exact adds_of_calls rfl (hP _ _ _)
      · exact adds_of_calls rfl (hP _ _ _)
  rw [readNext]
  split
  · exact .pure _
  · refine .bind hread fun r => ?_
    cases r with
    | none => exact .bind (adds_setFormatStatus _) fun _ => .pure _
    | some data =>
      dsimp only
      split
      · exact .pure _
      · exact .pure _

theorem adds_copyStep (sectorSize driveSize targetSize : Nat) (c : Copy) :
    Keeps (Adds (Call.copies drive))
      (copyStep os image drive source sectorSize driveSize targetSize c) := by
  rw [copyStep]
  split
  · refine .bind (adds_readNext (fun _ _ _ => rfl) _ c) fun r => ?_
    cases r with
    | inr ret => exact .pure _
    | inl c₁ =>
      refine .bind (adds_writeTries _ _ _) fun r => ?_
      cases r <;> exact .pure _
  · exact .pure _

theorem adds_writeDrive (sectorSize driveSize : Nat) (imageSize : Int) (turns : Nat) :
    Keeps (Adds (Call.copies drive))
      (writeDrive os image drive source sectorSize driveSize imageSize turns) := by
  rw [writeDrive]
  refine .bind (adds_setFilePointerEx 0) fun _ => ?_
  refine .bind (fun s => adds_of_calls rfl rfl) fun r => ?_
  cases r with
  | none => exact .bind (adds_setFormatStatus _) fun _ => .pure _
  | some block =>
    dsimp only
    split
    · exact .bind (adds_setFormatStatus _) fun _ => .pure _
    · refine .bind (.loop (adds_copyStep _ _ _) _ _) fun r => ?_
      split
      · exact .pure _
      · exact .pure _
      · exact .bind (fun s => adds_of_calls rfl rfl) fun _ => .pure _

end Copies

/-! ### Open handles -/

/-- `CreateFile` has returned the handle of this number. -/
def Created (n : Nat) (calls : List Call) : Prop :=
  ∃ path write share, .createFile path write share (.file n) ∈ calls

/-- Every handle that was created is held and not closed, or closed once. -/
structure Accounted (held : List Handle) (s : System) : Prop where
  lt : ∀ n, Created n s.calls ∨ .closeHandle (.file n) ∈ s.calls ∨ .file n ∈ held →
    n < s.calls.length
  once : ∀ n, Created n s.calls →
    s.calls.count (.closeHandle (.file n)) + held.count (.file n) = 1

/-- The calls that neither open nor close a file. -/
def Call.isNeutral : Call → Bool
  | .createFile _ _ _ (.file _) | .closeHandle _ => false
  | _ => true

section Accounted

variable {os : Os} {held : List Handle} {handle : Handle} {s s' : System}

theorem created_cons {n : Nat} {call : Call} {calls : List Call} (h : call.isNeutral = true) :
    Created n (call :: calls) ↔ Created n calls := by
  constructor
  · rintro ⟨path, write, share, hmem⟩
    refine ⟨path, write, share, (List.mem_cons.mp hmem).resolve_left ?_⟩
    rintro rfl
    cases h
  · rintro ⟨path, write, share, hmem⟩
    exact ⟨path, write, share, List.mem_cons_of_mem _ hmem⟩

theorem Accounted.of_calls {call : Call} (h : Accounted held s) (hcall : call.isNeutral = true)
    (hcalls : s'.calls = call :: s.calls) : Accounted held s' := by
  have hclose (n : Nat) : call ≠ .closeHandle (.file n) := by
    rintro rfl
    cases hcall
  constructor
  · intro n hn
    rw [hcalls, created_cons hcall, List.mem_cons, or_iff_right (hclose n).symm] at hn
    have := h.lt n hn
    rw [hcalls, List.length_cons]
    omega
  · intro n hn
    rw [hcalls, created_cons hcall] at hn
    rw [hcalls, List.count_cons_of_ne (hclose n)]
    exact h.once n hn

theorem Accounted.adds {P : Call → Bool} (h : Accounted held s) (hs : Adds P s s')
    (hP : ∀ call, P call = true → call.isNeutral = true) : Accounted held s' := by
  obtain ⟨new, hnew, hcalls⟩ := hs
  induction new generalizing s' with
  | nil =>
    rw [List.nil_append] at hnew
    exact ⟨hnew ▸ h.lt, hnew ▸ h.once⟩
  | cons call new ih =>
    have hbefore : Accounted held { s with calls := new ++ s.calls } :=
      ih rfl fun call hcall => hcalls call (List.mem_cons_of_mem _ hcall)
    exact hbefore.of_calls (hP call (hcalls call List.mem_cons_self)) hnew

/-- A handle that is not one of a file need not be held. -/
theorem Accounted.drop (h : Accounted (handle :: held) s) (hfile : ∀ n, handle ≠ .file n) :
    Accounted held s where
  lt n hn := h.lt n (hn.imp_right (Or.imp_right (List.mem_cons_of_mem _)))
  once n hn := by
    have := h.once n hn
    rwa [List.count_cons_of_ne (hfile n)] at this

theorem Accounted.keep (h : Accounted held s) (hfile : ∀ n, handle ≠ .file n) :
    Accounted (handle :: held) s where
  lt n hn := h.lt n (hn.imp_right (Or.imp_right fun hmem =>
    (List.mem_cons.mp hmem).resolve_left (hfile n).symm))
  once n hn := by
    rw [List.count_cons_of_ne (hfile n)]
    exact h.once n hn

theorem Accounted.perm {held' : List Handle} (h : Accounted held s) (hperm : held.Perm held') :
    Accounted held' s where
  lt n hn := h.lt n (hn.imp_right (Or.imp_right hperm.mem_iff.mpr))
  once n hn := by
    rw [← hperm.count_eq]
    exact h.once n hn

/-- A handle that is held has not been closed. -/
theorem Accounted.not_closed {n : Nat} (h : Accounted held s) (hheld : .file n ∈ held)
    (hcreated : Created n s.calls) : .closeHandle (.file n) ∉ s.calls := by
  have honce := h.once n hcreated
  have hpos := List.count_pos_iff.mpr hheld
  intro hclosed
  have := List.count_pos_iff.mpr hclosed
  omega

theorem accounted_createFile (path : String) (write share : Bool) :
    Ensures (Accounted held) (createFile os path write share)
      fun r => Accounted (r.toOption.toList ++ held) := by
  intro s hs
  unfold createFile
  split
  · exact hs.of_calls rfl rfl
  · constructor
    · intro n hn
      simp only [System.record, List.length_cons]
      rcases hn with ⟨path', write', share', hmem⟩ | hmem | hmem
      · rcases List.mem_cons.mp hmem with heq | hmem
        · cases heq
          omega
        · have := hs.lt n (Or.inl ⟨path', write', share', hmem⟩)
          omega
      · have := hs.lt n (Or.inr (Or.inl ((List.mem_cons.mp hmem).resolve_left (by simp))))
        omega
      · rcases List.mem_cons.mp hmem with heq | hmem
        · cases heq
          omega
        · have := hs.lt n (Or.inr (Or.inr hmem))
          omega
    · intro n hn
      simp only [System.record, Except.toOption, Option.toList, List.singleton_append]
      rw [List.count_cons_of_ne (by simp)]
      by_cases hnew : n = s.calls.length
      · subst hnew
        have hclosed : .closeHandle (.file s.calls.length) ∉ s.calls := fun hmem =>
          absurd (hs.lt _ (Or.inr (Or.inl hmem))) (lt_irrefl _)
        have hheld : .file s.calls.length ∉ held := fun hmem =>
          absurd (hs.lt _ (Or.inr (Or.inr hmem))) (lt_irrefl _)
        rw [List.count_eq_zero.mpr hclosed, List.count_cons_self, List.count_eq_zero.mpr hheld]
      · obtain ⟨path', write', share', hmem⟩ := hn
        rw [List.count_cons_of_ne (by simpa using Ne.symm hnew)]
        refine hs.once n ⟨path', write', share', (List.mem_cons.mp hmem).resolve_left ?_⟩
        simpa using fun _ _ _ => hnew

theorem accounted_safeClosehandle (handle : Handle) :
    Ensures (Accounted (handle :: held)) (safeClosehandle handle) fun _ => Accounted held := by
  intro s hs
  cases handle with
  | null | invalid => exact hs.drop (by simp)
  | file n =>
    have hmem {m : Nat} : Created m (.closeHandle (.file n) :: s.calls) → Created m s.calls := by
      rintro ⟨path, write, share, hmem⟩
      exact ⟨path, write, share, (List.mem_cons.mp hmem).resolve_left (by simp)⟩
    change Accounted held (s.record (.closeHandle (.file n)))
    constructor
    · intro m hm
      refine Nat.lt_succ_of_lt (hs.lt m ?_)
      rcases hm with hm | hm | hm
      · exact Or.inl (hmem hm)
      · rcases List.mem_cons.mp hm with heq | hm
        · cases heq
          exact Or.inr (Or.inr List.mem_cons_self)
        · exact Or.inr (Or.inl hm)
      · exact Or.inr (Or.inr (List.mem_cons_of_mem _ hm))
    · intro m hm
      have honce := hs.once m (hmem hm)
      simp only [System.record]
      by_cases heq : m = n
      · subst heq
        rw [List.count_cons_self] at honce ⊢
        omega
      · rw [List.count_cons_of_ne (by simpa using Ne.symm heq)] at honce ⊢
        exact honce

/-- A call that neither opens nor closes. -/
theorem accounted_of_calls {α : Type} {x : StateM System α}
    (hx : ∀ s, ∃ call, call.isNeutral = true ∧ (x s).2.calls = call :: s.calls) :
    Ensures (Accounted held) x fun _ => Accounted held := by
  intro s hs
  obtain ⟨call, hcall, hcalls⟩ := hx s
  exact hs.of_calls hcall hcalls

theorem accounted_sleep (ms : Nat) :
    Ensures (Accounted held) (sleep ms) fun _ => Accounted held :=
  accounted_of_calls fun _ => ⟨.sleep ms, rfl, rfl⟩

theorem accounted_deviceIoControl (handle : Handle) (code : IoControl) :
    Ensures (Accounted held) (deviceIoControl os handle code) fun _ => Accounted held :=
  accounted_of_calls fun _ => ⟨.deviceIoControl handle code _, rfl, rfl⟩

theorem accounted_openTries (path : String) (writeAccess : Bool) (n : Nat) (writeShare : Bool) :
    Ensures (Accounted held) (openTries os path writeAccess n writeShare)
      fun r => Accounted (r.toList ++ held) := by
  induction n generalizing writeShare with
  | zero => exact .pure fun _ hs => hs
  | succ n ih =>
    refine .bind (accounted_createFile _ _ _) fun r => ?_
    split
    · exact .pure fun _ hs => hs
    · exact .pure fun _ hs => hs
    · exact .bind (accounted_sleep _) fun _ => ih _

theorem accounted_lockTries (checkStatus : Bool) (handle : Handle) (n : Nat) :
    Ensures (Accounted held) (lockTries checkStatus os handle n) fun _ => Accounted held := by
  induction n with
  | zero => exact .pure fun _ hs => hs
  | succ n ih =>
    refine .bind (accounted_deviceIoControl _ _) fun ok => ?_
    split
    · exact .pure fun _ hs => hs
    · refine .bind (Q := fun _ => Accounted held) (fun s hs => hs) fun s₁ => ?_
      split
      · exact .pure fun _ hs => hs
      · exact .bind (accounted_sleep _) fun _ => ih

/-- `GetHandle` closes what it does not return. -/
theorem accounted_openDrive (checkStatus : Bool) (path : Option String)
    (lockDrive writeAccess writeShare : Bool) :
    Ensures (Accounted held) (openDrive checkStatus os path lockDrive writeAccess writeShare)
      fun handle => Accounted (handle :: held) := by
  rw [openDrive]
  split
  · exact .pure fun _ hs => hs.keep (by simp)
  · refine .bind (accounted_openTries _ _ _ _) fun r => ?_
    cases r with
    | none => exact .pure fun _ hs => hs.keep (by simp)
    | some handle =>
      dsimp only
      split
      · refine .bind (accounted_deviceIoControl _ _) fun _ => ?_
        refine .bind (accounted_lockTries _ _ _) fun locked => ?_
        split
        · exact .pure fun _ hs => hs
        · intro s hs
          have hclosed := accounted_safeClosehandle handle s hs
          refine hclosed.keep fun n hn => ?_
          cases handle <;> cases hn
      · exact .pure fun _ hs => hs

theorem accounted_getGeometry (deviceNum : Nat) :
    Ensures (Accounted held) (getGeometry os deviceNum) fun _ => Accounted held := by
  refine .bind (accounted_openDrive _ _ _ _ _) fun hPhysical => ?_
  split
  · exact .pure fun _ hs => hs.drop (by simp_all)
  · refine .bind (accounted_of_calls fun _ => ⟨.geometry hPhysical _, rfl, rfl⟩) fun _ => ?_
    exact .bind (accounted_safeClosehandle _) fun _ => .pure fun _ hs => hs

theorem accounted_getDriveSize (deviceNum : Nat) :
    Ensures (Accounted held) (getDriveSize os deviceNum) fun _ => Accounted held := by
  refine .bind (accounted_getGeometry _) fun r => ?_
  cases r <;> exact .pure fun _ hs => hs

theorem accounted_getSectorSize (deviceNum : Nat) :
    Ensures (Accounted held) (getSectorSize os deviceNum) fun _ => Accounted held := by
  refine .bind (accounted_getGeometry _) fun r => ?_
  cases r <;> exact .pure fun _ hs => hs

theorem accounted_selectVolume (driveIndex : Nat) (keepTrailingBackslash : Bool)
    (volumes : List Volume) :
    Ensures (Accounted held) (selectVolume os driveIndex keepTrailingBackslash volumes)
      fun _ => Accounted held := by
  induction volumes with
  | nil => exact .pure fun _ hs => hs
  | cons volume volumes ih =>
    rw [selectVolume]
    split
    · refine .bind (accounted_createFile _ _ _) fun r => ?_
      cases r with
      | error error => exact ih
      | ok hDrive =>
        refine .bind
          (accounted_of_calls fun _ => ⟨.volumeDiskExtents hDrive _, rfl, rfl⟩) fun _ => ?_
        refine .bind (accounted_safeClosehandle _) fun _ => ?_
        split
        · exact .pure fun _ hs => hs
        · exact ih
    · exact ih

theorem accounted_getLogicalName (deviceNum : Nat) (keepTrailingBackslash : Bool) :
    Ensures (Accounted held) (getLogicalName os deviceNum keepTrailingBackslash)
      fun _ => Accounted held := by
  rw [getLogicalName]
  split
  · exact .pure fun _ hs => hs
  · refine .bind (accounted_of_calls fun _ => ⟨.volumes _, rfl, rfl⟩) fun _ => ?_
    exact accounted_selectVolume _ _ _

theorem accounted_getLogicalHandle (deviceNum : Nat) (lockDrive writeAccess writeShare : Bool) :
    Ensures (Accounted held) (getLogicalHandle os deviceNum lockDrive writeAccess writeShare)
      fun handle => Accounted (handle :: held) := by
  refine .bind (accounted_getLogicalName _ _) fun path => ?_
  split
  · exact .pure fun _ hs => hs.keep (by simp)
  · exact accounted_openDrive _ _ _ _ _

theorem accounted_openImage (path : String) :
    Ensures (Accounted held) (openImage os path) fun handle => Accounted (handle :: held) := by
  refine .bind (accounted_createFile _ _ _) fun r => ?_
  cases r with
  | ok handle => exact .pure fun _ hs => hs
  | error error => exact .pure fun _ hs => hs.keep (by simp)

theorem Call.isNeutral_of_copies {drive : Handle} {call : Call} (h : call.copies drive = true) :
    call.isNeutral = true := by
  cases call <;> first | rfl | cases h

/-- `Install` closes all that it has opened. -/
theorem accounted_installImage (deviceNum : Nat) (imagePath : String) (image : List UInt8)
    (imageSize : Int) (sectorSize driveSize : Nat) :
    Ensures (Accounted [])
      (installImage os deviceNum imagePath image imageSize sectorSize driveSize)
      fun r s => ∀ ret, r = some ret → Accounted [] s := by
  refine .bind (accounted_openDrive _ _ _ _ _) fun physHandle => ?_
  refine .bind (accounted_openImage _) fun sourceImg => ?_
  refine .bind (accounted_getLogicalHandle _ _ _ _) fun hLogicalVolume => ?_
  refine .bind (accounted_deviceIoControl _ _) fun _ => ?_
  refine .bind (Q := fun _ => Accounted [hLogicalVolume, sourceImg, physHandle])
    (fun s hs => hs.adds (adds_writeDrive _ _ _ _ s) fun _ => Call.isNeutral_of_copies) fun r => ?_
  cases r with
  | none => exact .pure fun _ _ ret hret => by cases hret
  | some ret =>
    have hperm : [hLogicalVolume, sourceImg, physHandle].Perm
        [physHandle, hLogicalVolume, sourceImg] := by
      refine (List.Perm.cons _ (List.Perm.swap _ _ _)).trans (List.Perm.swap _ _ _)
    refine .bind (Q := fun _ => Accounted [hLogicalVolume, sourceImg])
      (fun s hs => accounted_safeClosehandle physHandle s (hs.perm hperm)) fun _ => ?_
    refine .bind (accounted_safeClosehandle hLogicalVolume) fun _ => ?_
    exact .bind (accounted_safeClosehandle sourceImg) fun _ => .pure fun _ hs _ _ => hs

theorem accounted_install (targetDevice : DeviceGuy) (imagePath : String) (image : List UInt8)
    (imageSize : Int) :
    Ensures (Accounted []) (install os targetDevice imagePath image imageSize)
      fun r s => ∀ ret, r = some ret → Accounted [] s := by
  refine .bind (accounted_getSectorSize _) fun sectorSize => ?_
  refine .bind (accounted_getDriveSize _) fun driveSize => ?_
  refine .bind (Q := fun _ => Accounted []) ?_ fun r => ?_
  · unfold formatShared
    split
    · exact .pure fun _ hs => hs
    · exact .bind (accounted_of_calls fun _ => ⟨.clearMbrGpt _ _, rfl, rfl⟩) fun _ =>
        .pure fun _ hs => hs
  · split
    · exact .pure fun _ _ ret hret => by cases hret
    · exact .pure fun _ hs _ _ => hs
    · exact accounted_installImage _ _ _ _ _ _

end Accounted

end UsbMaker.Disk
