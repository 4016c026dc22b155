import UsbMaker.Wizard.Navigation

/-!
# What is announced as a created installer

Whether a `DiskWriteThread` writes an image or formats is decided in `run` by whether its path is
empty. The path comes from the extraction thread, whose handler for exceptions leaves it empty, and
which may not have returned yet when the path is read. This file proves what the pages rely on: in
runs without a format link in which every extraction returns a file and nothing calls `next` on the
download page before that, no thread formats, and "USB created" is shown only after `Install` has
returned true for the path of the extracted image.

Such a run goes through four stages (`Stage`): before the download, during it, during the
extraction, and with the extracted image at hand. Nothing is written before the last one.

## Main definitions

* `Wizard.InstallerSafe`, `Wizard.AwaitsExtraction`, `Wizard.Stage`.

## Main results

* `Wizard.installer_safe_of_run`.
-/

namespace UsbMaker.Wizard

/-- Nothing has been formatted, failed extractions are on the error page, and an installer is
announced only when it has been written. -/
structure InstallerSafe (w : Wizard) : Prop where
  noFormat : ∀ thread ∈ w.diskWriteThreads, ∀ ok, thread.call ≠ some (.format ok)
  failure : ∀ unzip ∈ w.unzipThreads,
    unzip.result = some .zipError ∨ unzip.result = some .exception →
      w.halted = none ∧ (unzip.notified = true → w.currentId = .error)
  created : ∀ call, .usbCreated call ∈ w.log →
    ∃ path : ImagePath, call = some (.install path.1 true) ∧
      ∃ unzip ∈ w.unzipThreads, unzip.result = some (.file path)

/-- The extraction thread that `unzipThread` points to has returned. -/
def Extracted (w : Wizard) : Prop :=
  ∃ unzip ∈ w.unzipThreads.getLast?, unzip.result ≠ none

/-- The condition on a step: the format link is not used, an extraction that returns has a file,
and neither the Next button nor a login moves on from the download page before the extraction has
returned. -/
def AwaitsExtraction (w : Wizard) : Event → Prop
  | .clickFormatLink => False
  | .unzipReturns _ result => result ≠ .zipError ∧ result ≠ .exception
  | .clickNext | .meepoFinished _ =>
    w.currentId = .downloadProgress → w.errorString = "" → w.Extracted
  | _ => True

instance (w : Wizard) : Decidable w.Extracted :=
  inferInstanceAs (Decidable (∃ unzip ∈ w.unzipThreads.getLast?, _))

instance (w : Wizard) : (e : Event) → Decidable (AwaitsExtraction w e)
  | .clickFormatLink => inferInstanceAs (Decidable False)
  | .unzipReturns _ _ => inferInstanceAs (Decidable (_ ∧ _))
  | .clickNext => inferInstanceAs (Decidable (_ → _))
  | .meepoFinished _ => inferInstanceAs (Decidable (_ → _))
  | .newestImageReply _ | .googleSignin | .meepoFailed _ | .selectSite _ | .findSites _
  | .selectImage _ | .driveTimer | .clickDevice _ | .clickLeftover _ | .downloadFinished _
  | .unzipFinished _ | .diskWriteReturns _ _ _ | .doneWriting _ | .catchError | .makeAnother =>
    inferInstanceAs (Decidable True)

/-! ### The stages of a run -/

/-- Nothing has been written yet. -/
structure Waiting (w : Wizard) : Prop where
  threads : w.diskWriteThreads = []
  layout : w.makeAnotherLayout = false
  created : ∀ call, .usbCreated call ∉ w.log

/-- A thread that writes the image, and what it may have called. -/
def WritesImage (path : ImagePath) (thread : DiskWriteThread) : Prop :=
  thread.imagePath = path.1 ∧
    ∀ call ∈ thread.call, call = .noFile path.1 ∨ ∃ ok, call = .install path.1 ok

/-- The image has been extracted, and only it is written. -/
structure Ready (path : ImagePath) (w : Wizard) : Prop where
  finished : w.downloadFinished = true
  idle : w.downloading = false
  unzip : ∃ thread, w.unzipThreads = [thread] ∧ thread.result = some (.file path)
  threads : ∀ thread ∈ w.diskWriteThreads, WritesImage path thread
  created : ∀ call, .usbCreated call ∈ w.log → call = some (.install path.1 true)

/-- The stages of a run. -/
inductive Stage (w : Wizard) : Prop
  | before (waiting : Waiting w) (finished : w.downloadFinished = false)
      (idle : w.downloading = false) (connections : w.connections = 0)
      (unzip : w.unzipThreads = [])
      (page : w.currentId ≠ .downloadProgress ∧ w.currentId ≠ .writeOperation)
  | loading (waiting : Waiting w) (finished : w.downloadFinished = false)
      (connections : w.connections = 1) (unzip : w.unzipThreads = [])
      (page : w.currentId = .downloadProgress ∨ w.currentId = .error)
  | unzipping (waiting : Waiting w) (finished : w.downloadFinished = true)
      (idle : w.downloading = false)
      (unzip : w.unzipThreads = [] ∨ ∃ unzip, w.unzipThreads = [unzip] ∧ unzip.result = none)
      (page : w.currentId = .downloadProgress ∨ w.currentId = .error)
  | ready (path : ImagePath) (h : Ready path w)

/-- The invariant: a stage, or an end in undefined behaviour before anything was written. -/
structure Staged (w : Wizard) : Prop where
  mode : w.formatOnly = false
  errors : ∀ error ∈ w.posted, error ≠ ""
  stage : Stage w ∨ (Waiting w ∧ w.unzipThreads = [] ∧ w.halted ≠ none)

variable {env : Environment} {w w' : Wizard}

theorem Staged.installerSafe (h : Staged w) : InstallerSafe w := by
  have hwaiting (hw : Waiting w) (hunzip : ∀ unzip ∈ w.unzipThreads, unzip.result = none) :
      InstallerSafe w := by
    refine ⟨by simp [hw.threads], fun unzip hmem hfail => ?_, fun call hcall => ?_⟩
    · simp [hunzip unzip hmem] at hfail
    · exact absurd hcall (hw.created call)
  rcases h.stage with hstage | ⟨hw, hunzip, -⟩
  · cases hstage with
    | before hw _ _ _ hunzip => exact hwaiting hw (by simp [hunzip])
    | loading hw _ _ hunzip => exact hwaiting hw (by simp [hunzip])
    | unzipping hw _ _ hunzip =>
      refine hwaiting hw ?_
      rcases hunzip with hnil | ⟨unzip, hone, hres⟩
      · simp [hnil]
      · simpa [hone] using hres
    | ready path hready =>
      obtain ⟨unzip, hunzip, hres⟩ := hready.unzip
      refine ⟨fun thread hmem ok hcall => ?_, fun other hmem hfail => ?_, fun call hcall => ?_⟩
      · rcases (hready.threads thread hmem).2 _ hcall with heq | ⟨_, heq⟩ <;> cases heq
      · obtain rfl : other = unzip := by simpa [hunzip] using hmem
        simp [hres] at hfail
      · exact ⟨path, hready.created call hcall, unzip, by simp [hunzip], hres⟩
  · exact hwaiting hw (by simp [hunzip])

/-- While the program runs it is in one of the stages. -/
theorem Staged.stage_of_running (h : Staged w) (hrun : w.halted = none) : Stage w :=
  h.stage.resolve_right fun hhalt => hhalt.2.2 hrun

/-! ### Steps within a stage -/

/-- The download, the extraction and the writing are as before. -/
structure SameWork (w w' : Wizard) : Prop where
  finished : w'.downloadFinished = w.downloadFinished := by rfl
  downloading : w'.downloading = w.downloading := by rfl
  connections : w'.connections = w.connections := by rfl
  unzip : w'.unzipThreads = w.unzipThreads := by rfl
  threads : w'.diskWriteThreads = w.diskWriteThreads := by rfl
  layout : w'.makeAnotherLayout = w.makeAnotherLayout := by rfl
  created : ∀ call, .usbCreated call ∈ w'.log → .usbCreated call ∈ w.log := by exact fun _ h => h

/-- A move that neither enters nor leaves the pages that download and write, except for the error
page. -/
def QuietMove (w w' : Wizard) : Prop :=
  w'.currentId = w.currentId ∨ w'.currentId = .error ∨
    (w.currentId ≠ .downloadProgress ∧ w.currentId ≠ .error ∧
      w'.currentId ≠ .downloadProgress ∧ w'.currentId ≠ .writeOperation)

theorem SameWork.waiting (hs : SameWork w w') (h : Waiting w) : Waiting w' :=
  ⟨hs.threads.trans h.threads, hs.layout.trans h.layout,
    fun call hcall => h.created call (hs.created call hcall)⟩

theorem SameWork.ready (hs : SameWork w w') {path : ImagePath} (h : Ready path w) :
    Ready path w' where
  finished := hs.finished.trans h.finished
  idle := hs.downloading.trans h.idle
  unzip := by simpa only [hs.unzip] using h.unzip
  threads := by simpa only [hs.threads] using h.threads
  created call hcall := h.created call (hs.created call hcall)

theorem QuietMove.atWork (hpage : QuietMove w w')
    (h : w.currentId = .downloadProgress ∨ w.currentId = .error) :
    w'.currentId = .downloadProgress ∨ w'.currentId = .error := by
  rcases hpage with heq | herr | ⟨hd, he, -, -⟩
  · rwa [heq]
  · exact Or.inr herr
  · exact (h.elim hd he).elim

theorem Stage.move (h : Stage w) (hs : SameWork w w') (hpage : QuietMove w w') : Stage w' := by
  cases h with
  | before hw hfin hidle hconn hunzip hold =>
    refine .before (hs.waiting hw) (hs.finished.trans hfin) (hs.downloading.trans hidle)
      (hs.connections.trans hconn) (hs.unzip.trans hunzip) ?_
    rcases hpage with heq | herr | ⟨-, -, hnew⟩
    · rwa [heq]
    · simp [herr]
    · exact hnew
  | loading hw hfin hconn hunzip hold =>
    exact .loading (hs.waiting hw) (hs.finished.trans hfin) (hs.connections.trans hconn)
      (hs.unzip.trans hunzip) (hpage.atWork hold)
  | unzipping hw hfin hidle hunzip hold =>
    exact .unzipping (hs.waiting hw) (hs.finished.trans hfin) (hs.downloading.trans hidle)
      (by rwa [hs.unzip]) (hpage.atWork hold)
  | ready path hready => exact .ready path (hs.ready hready)

/-- The write page is entered from the device page only with the image at hand. -/
theorem Stage.ready_of_finished (h : Stage w) (hfin : w.downloadFinished = true)
    (hpage : w.currentId = .deviceSelect) : ∃ path, Ready path w := by
  cases h with
  | before _ hno => simp [hfin] at hno
  | loading _ hno => simp [hfin] at hno
  | unzipping _ _ _ _ hno => simp [hpage] at hno
  | ready path hready => exact ⟨path, hready⟩

theorem Stage.ready_of_result (h : Stage w) {unzip : UnzipThread} (hmem : unzip ∈ w.unzipThreads)
    (hres : unzip.result ≠ none) : ∃ path, Ready path w := by
  cases h with
  | before _ _ _ _ hno => simp [hno] at hmem
  | loading _ _ _ hno => simp [hno] at hmem
  | unzipping _ _ _ hno =>
    rcases hno with hno | ⟨other, hone, hnone⟩
    · simp [hno] at hmem
    · obtain rfl : unzip = other := by simpa [hone] using hmem
      exact absurd hnone hres
  | ready path hready => exact ⟨path, hready⟩

theorem Stage.ready_of_extracted (h : Stage w) (hex : w.Extracted) : ∃ path, Ready path w := by
  obtain ⟨unzip, hlast, hres⟩ := hex
  exact h.ready_of_result (List.mem_of_getLast? hlast) hres

/-- With the image at hand the write page starts a thread that writes it. -/
theorem Ready.writeToDrive {path : ImagePath} (h : Ready path w) (hmode : w.formatOnly = false) :
    Ready path w.writeToDrive := by
  obtain ⟨unzip, hunzip, hres⟩ := h.unzip
  have hname : w.getImageFileName = some path.1 := by
    simp [getImageFileName, hunzip, UnzipThread.getFileName, hres]
  have hwrite : w.writeToDrive = w.startThread
      { selectedDrive := w.device, imagePath := path.1, formatMode := false } := by
    simp [Wizard.writeToDrive, hmode, hname]
  rw [hwrite]
  refine ⟨h.finished, h.idle, h.unzip, fun thread hmem => ?_, fun call hcall => ?_⟩
  · rcases List.mem_append.mp hmem with hmem | hmem
    · exact h.threads thread hmem
    · obtain rfl := List.mem_singleton.mp hmem
      exact ⟨rfl, by simp⟩
  · exact h.created call (by simpa [startThread] using hcall)

theorem Ready.switchToPage {path : ImagePath} (h : Ready path w) (hmode : w.formatOnly = false)
    {page : PageId} (hpage : page ≠ .downloadProgress) :
    Ready path (Wizard.switchToPage env page w) := by
  have hmove : Ready path { w with currentId := page } := { h with }
  have hlog {entry : Note} (hentry : ∀ call, entry ≠ .usbCreated call) :
      ∀ call, .usbCreated call ∈ entry :: w.log → call = some (.install path.1 true) := by
    intro call hcall
    rcases List.mem_cons.mp hcall with heq | hcall
    · exact absurd heq.symm (hentry call)
    · exact h.created call hcall
  cases page with
  | downloadProgress => exact absurd rfl hpage
  | usbInsert => exact { hmove with created := hlog (by simp) }
  | deviceSelect => exact { hmove with created := hlog (by simp) }
  | writeOperation =>
    have hwrite : Ready path { w with currentId := .writeOperation, writeFinished := false } :=
      { hmove with }
    exact hwrite.writeToDrive hmode
  | adminCheck => exact { hmove with }
  | siteSelect => exact { hmove with }
  | chromeoverLogin => exact hmove
  | imageSelect => exact hmove
  | error => exact hmove

/-! ### `next` -/

theorem SameWork.trans {w₁ w₂ : Wizard} (h : SameWork w w₁) (h' : SameWork w₁ w₂) :
    SameWork w w₂ :=
  ⟨h'.finished.trans h.finished, h'.downloading.trans h.downloading,
    h'.connections.trans h.connections, h'.unzip.trans h.unzip, h'.threads.trans h.threads,
    h'.layout.trans h.layout, fun call hcall => h.created call (h'.created call hcall)⟩

theorem sameWork_noteExit (trigger : Trigger) (w : Wizard) : SameWork w (w.noteExit trigger) := by
  rcases w.noteExit_cases trigger with ⟨-, hw⟩ | ⟨-, hw⟩
  · rw [hw]
    exact { }
  · rw [hw]
    exact { created := fun call hcall => by simpa [note] using hcall }

theorem sameWork_switchToPage {page : PageId} (hd : page ≠ .downloadProgress)
    (hw : page ≠ .writeOperation) : SameWork w (switchToPage env page w) := by
  cases page with
  | downloadProgress => exact absurd rfl hd
  | writeOperation => exact absurd rfl hw
  | usbInsert | deviceSelect =>
    refine { created := fun call hcall => ?_ }
    simpa [switchToPage, initializePage, getDriveList] using hcall
  | _ => exact { }

/-- Entering the download page starts the download. -/
theorem staged_download (h : Stage w) (hpage : w.currentId = .deviceSelect)
    (hfin : w.downloadFinished = false) :
    Stage (switchToPage env .downloadProgress w) ∨
      (Waiting (switchToPage env .downloadProgress w) ∧
        (switchToPage env .downloadProgress w).unzipThreads = [] ∧
        (switchToPage env .downloadProgress w).halted ≠ none) := by
  cases h with
  | before hw _ _ hconn hunzip =>
    rcases w.switchToPage_downloadProgress env with h | h
    · rw [h]
      exact Or.inr ⟨{ hw with }, hunzip, by simp⟩
    · rw [h]
      exact Or.inl (.loading { hw with } hfin (by simp [hconn]) hunzip (Or.inl rfl))
  | loading _ _ _ _ hno => simp [hpage] at hno
  | unzipping _ hno => simp [hfin] at hno
  | ready path hready =>
    have hno := hready.finished
    simp [hfin] at hno

theorem Staged.next (h : Staged w) (hrun : w.halted = none) (trigger : Trigger)
    (hawait : w.currentId = .downloadProgress → w.errorString = "" → ∃ path, Ready path w) :
    Staged (Wizard.next env trigger w) := by
  have hstage : Stage w := h.stage_of_running hrun
  obtain ⟨w₁, hprep, hcases⟩ := next_cases env trigger w
  have hsame : SameWork w w₁ ∧ w₁.formatOnly = w.formatOnly ∧ w₁.posted = w.posted ∧
      w₁.currentId = w.currentId := by
    obtain ⟨_, _, _, _, rfl, -, -, -⟩ := hprep
    exact ⟨{ }, rfl, rfl, rfl⟩
  obtain ⟨hwork, hmode, hposted, hcurrent⟩ := hsame
  rcases hcases with ⟨-, hstay⟩ | ⟨page, -, hfollow, hmove⟩
  · rw [hstay]
    exact ⟨hmode.trans h.mode, by simpa only [hposted] using h.errors,
      Or.inl (hstage.move hwork (Or.inl hcurrent))⟩
  · rw [hmove]
    have hwork₂ := hwork.trans (sameWork_noteExit trigger w₁)
    obtain ⟨hmode₂, hposted₂, hcurrent₂⟩ := w₁.noteExit_frame trigger
    rw [hmode, h.mode] at hmode₂
    rw [hposted] at hposted₂
    rw [hcurrent] at hcurrent₂
    generalize w₁.noteExit trigger = w₂ at hwork₂ hmode₂ hposted₂ hcurrent₂
    obtain ⟨hmode', hposted', hpage'⟩ := w₂.switchToPage_frame env page
    refine ⟨hmode'.trans hmode₂, by simpa only [hposted', hposted₂] using h.errors, ?_⟩
    rcases following_spec hfollow with ⟨herr, hfrom⟩ | ⟨-, -, rfl⟩
    · cases page with
      | adminCheck => exact hfrom.elim
      | downloadProgress =>
        exact staged_download (hstage.move hwork₂ (Or.inl hcurrent₂))
          (hcurrent₂.trans hfrom.1) (hwork₂.finished.trans hfrom.2.2)
      | writeOperation =>
        have hready : ∃ path, Ready path w := by
          rcases hfrom with ⟨hpage, hformat | hfin⟩ | hpage
          · rw [h.mode] at hformat
            cases hformat
          · exact hstage.ready_of_finished hfin hpage
          · exact hawait hpage herr
        obtain ⟨path, hready⟩ := hready
        exact Or.inl (.ready path ((hwork₂.ready hready).switchToPage hmode₂ (by simp)))
      | _ =>
        obtain ⟨-, he, hd⟩ := hfrom.source
        exact Or.inl (hstage.move (hwork₂.trans (sameWork_switchToPage (by simp) (by simp)))
          (Or.inr (Or.inr ⟨hd (by simp), he, by simp [hpage'], by simp [hpage']⟩)))
    · exact Or.inl (hstage.move (hwork₂.trans (sameWork_switchToPage (by simp) (by simp)))
        (Or.inr (Or.inl hpage')))

/-! ### Runs -/

/-- A step that leaves the work and the page as they are. -/
theorem Staged.same (h : Staged w) (hrun : w.halted = none) (hs : SameWork w w')
    (hmode : w'.formatOnly = w.formatOnly) (hposted : ∀ error ∈ w'.posted, error ≠ "")
    (hpage : w'.currentId = w.currentId) : Staged w' :=
  ⟨hmode.trans h.mode, hposted, Or.inl
    ((h.stage_of_running hrun).move hs (Or.inl hpage))⟩

theorem Staged.postError (h : Staged w) (hrun : w.halted = none) {error : String}
    (herr : error ≠ "") : Staged (w.postError error) := by
  refine h.same hrun { created := fun call hcall => ?_ } rfl ?_ rfl
  · simpa [Wizard.postError] using hcall
  · intro posted hmem
    rcases List.mem_append.mp hmem with hmem | hmem
    · exact h.errors posted hmem
    · rwa [List.mem_singleton.mp hmem]

/-- The download ends, and an extraction starts unless it has failed. -/
theorem Staged.markComplete (h : Staged w) (hrun : w.halted = none) (hdown : w.downloading = true)
    (hasError : Bool) :
    Staged ((markComplete hasError)^[w.connections] { w with downloading := false }) := by
  have hstage : Stage w := h.stage_of_running hrun
  cases hstage with
  | loading hw hfin hconn hunzip hpage =>
    have honce (w₁ : Wizard) :
        (Wizard.markComplete hasError)^[w.connections] w₁ = w₁.markComplete hasError := by
      rw [hconn, Function.iterate_one]
    rw [honce]
    have hdone : Staged { w with downloading := false, downloadFinished := true } :=
      ⟨h.mode, h.errors, Or.inl (.unzipping { hw with } rfl rfl (Or.inl hunzip) hpage)⟩
    rcases markComplete_cases { w with downloading := false } hasError with
      ⟨error, herr, hend⟩ | hend
    · rw [hend]
      exact hdone.postError hrun herr
    · rw [hend]
      exact ⟨h.mode, h.errors, Or.inl (.unzipping { hw with } rfl rfl
        (Or.inr ⟨{ result := none }, by simp [hunzip], rfl⟩) hpage)⟩
  | before _ _ hidle => simp [hdown] at hidle
  | unzipping _ _ hidle => simp [hdown] at hidle
  | ready path hready =>
    have hidle := hready.idle
    simp [hdown] at hidle

/-- The extraction returns a file. -/
theorem Staged.unzipReturns (h : Staged w) (hrun : w.halted = none) {i : Nat}
    {thread : UnzipThread} (hthread : w.unzipThreads[i]? = some thread)
    (hres : thread.result = none) (path : ImagePath) :
    Staged (w.unzipReturns i (.file path)) := by
  have hmem := List.mem_of_getElem? hthread
  have hstage : Stage w := h.stage_of_running hrun
  cases hstage with
  | before _ _ _ _ hunzip => simp [hunzip] at hmem
  | loading _ _ _ hunzip => simp [hunzip] at hmem
  | unzipping hw hfin hidle hunzip hpage =>
    rcases hunzip with hnil | ⟨unzip, hone, -⟩
    · simp [hnil] at hmem
    · obtain rfl : i = 0 := by
        rw [hone] at hthread
        have := (List.getElem?_eq_some_iff.mp hthread).1
        simpa using this
      refine ⟨h.mode, h.errors, Or.inl (.ready path ⟨hfin, hidle, ?_, ?_, ?_⟩)⟩
      · exact ⟨{ unzip with result := some (.file path) }, by simp [Wizard.unzipReturns, hone], rfl⟩
      · simp [Wizard.unzipReturns, hw.threads]
      · exact fun call hcall => absurd hcall (hw.created call)
  | ready other hready =>
    obtain ⟨unzip, hone, hfile⟩ := hready.unzip
    obtain rfl : thread = unzip := by simpa [hone] using hmem
    simp [hfile] at hres

theorem Stage.ready_of_threads (h : Stage w) {thread : DiskWriteThread}
    (hmem : thread ∈ w.diskWriteThreads) : ∃ path, Ready path w := by
  cases h with
  | before hw => simp [hw.threads] at hmem
  | loading hw => simp [hw.threads] at hmem
  | unzipping hw => simp [hw.threads] at hmem
  | ready path hready => exact ⟨path, hready⟩

/-- The write threads are changed without changing the path of any. -/
theorem Ready.modify {path : ImagePath} (h : Ready path w) (i : Nat)
    {f : DiskWriteThread → DiskWriteThread}
    (hf : ∀ thread, WritesImage path thread → WritesImage path (f thread)) :
    Ready path { w with diskWriteThreads := w.diskWriteThreads.modify i f } := by
  refine { h with threads := fun thread hmem => ?_ }
  obtain ⟨j, hj⟩ := List.mem_iff_getElem?.mp hmem
  rw [List.getElem?_modify] at hj
  obtain ⟨old, hold, rfl⟩ := Option.map_eq_some_iff.mp hj
  have := h.threads old (List.mem_of_getElem? hold)
  split_ifs
  · exact hf old this
  · exact this

theorem WritesImage.run {path : ImagePath} {thread : DiskWriteThread}
    (h : WritesImage path thread) (hasFile ok : Bool) :
    WritesImage path { thread with call := some (thread.run hasFile ok) } := by
  refine ⟨h.1, fun call hcall => ?_⟩
  obtain rfl : thread.run hasFile ok = call := Option.some.inj hcall
  rw [DiskWriteThread.run]
  rw [h.1, if_neg path.2]
  split_ifs
  · exact Or.inr ⟨ok, rfl⟩
  · exact Or.inl rfl

/-- A success that is announced is one of `Install`. -/
theorem Ready.onDoneWriting {path : ImagePath} (h : Ready path w) (hmode : w.formatOnly = false)
    (herrors : ∀ error ∈ w.posted, error ≠ "") (hne : w.diskWriteThreads ≠ []) :
    Staged w.onDoneWriting := by
  have hfailed (error : String) (herr : error ≠ "") : Staged (w.writeFailed error) := by
    refine ⟨hmode, ?_, Or.inl (.ready path { h with created := fun call hcall => ?_ })⟩
    · intro posted hmem
      rcases List.mem_append.mp hmem with hmem | hmem
      · exact herrors posted hmem
      · rwa [List.mem_singleton.mp hmem]
    · exact h.created call (by simpa [writeFailed, Wizard.postError] using hcall)
  rcases w.onDoneWriting_cases with ⟨hnil, -⟩ | ⟨error, herr, hw⟩ | ⟨hformat, -⟩ |
    ⟨thread, hlast, hstate, hw⟩
  · exact absurd hnil hne
  · rw [hw]
    exact hfailed error herr
  · rw [hmode] at hformat
    cases hformat
  · have hwrites := h.threads thread (List.mem_of_getLast? hlast)
    rw [hw]
    refine ⟨hmode, herrors, Or.inl (.ready path { h with created := fun call hcall => ?_ })⟩
    rcases List.mem_cons.mp hcall with heq | hcall
    · obtain rfl : call = thread.call := by simpa using heq
      cases hc : thread.call with
      | none => simp [DiskWriteThread.state, hc] at hstate
      | some call =>
        rcases hwrites.2 call hc with rfl | ⟨ok, rfl⟩
        · simp [DiskWriteThread.state, hc] at hstate
        · cases ok with
          | true => rfl
          | false => simp [DiskWriteThread.state, hc] at hstate
    · exact h.created call hcall

theorem Staged.caught (h : Staged w) (page : PageId) : Staged (w.note (.caught page)) := by
  have hsame : SameWork w (w.note (.caught page)) :=
    { created := fun call hcall => by simpa [Wizard.note] using hcall }
  refine ⟨h.mode, h.errors, ?_⟩
  rcases h.stage with hstage | ⟨hw, hunzip, hhalt⟩
  · exact Or.inl (hstage.move hsame (Or.inl rfl))
  · exact Or.inr ⟨hsame.waiting hw, hunzip, hhalt⟩

/-- The slot of the extraction runs, with the image at hand. -/
theorem Staged.unzipFinished (h : Staged w) (hrun : w.halted = none) {i : Nat}
    {thread : UnzipThread} (hthread : w.unzipThreads[i]? = some thread)
    (hres : thread.result ≠ none) :
    Staged (onUnzipFinished env { w with
      unzipThreads := w.unzipThreads.modify i fun thread =>
        { thread with notified := true } }) := by
  obtain ⟨path, hready⟩ :=
    (h.stage_of_running hrun).ready_of_result (List.mem_of_getElem? hthread) hres
  have hready₁ : Ready path { w with
      unzipThreads := w.unzipThreads.modify i fun thread => { thread with notified := true } } := by
    obtain ⟨unzip, hone, hfile⟩ := hready.unzip
    refine { hready with unzip := ?_ }
    cases i with
    | zero => exact ⟨{ unzip with notified := true }, by simp [hone], hfile⟩
    | succ i => exact ⟨unzip, by simp [hone], hfile⟩
  have h₁ : Staged { w with
      unzipThreads := w.unzipThreads.modify i fun thread => { thread with notified := true } } :=
    ⟨h.mode, h.errors, Or.inl (.ready path hready₁)⟩
  exact h₁.next hrun _ fun _ _ => ⟨path, hready₁⟩

/-- The slot of a write thread runs. -/
theorem Staged.doneWriting (h : Staged w) (hrun : w.halted = none) {thread : DiskWriteThread}
    (hmem : thread ∈ w.diskWriteThreads) (i : Nat) :
    Staged (onDoneWriting { w with
      diskWriteThreads := w.diskWriteThreads.modify i
        fun thread => { thread with notified := true } }) := by
  obtain ⟨path, hready⟩ := (h.stage_of_running hrun).ready_of_threads hmem
  have hready₁ := hready.modify i (f := fun thread => { thread with notified := true })
    fun _ hw => hw
  refine hready₁.onDoneWriting h.mode h.errors fun hnil => ?_
  have hlen := congrArg List.length hnil
  rw [List.length_modify] at hlen
  exact absurd (List.eq_nil_of_length_eq_zero hlen) (List.ne_nil_of_mem hmem)

theorem Staged.catchError (h : Staged w) (hrun : w.halted = none) {error : String}
    {rest : List String} (hposted : w.posted = error :: rest) :
    Staged (Wizard.catchError env { w with posted := rest } error) := by
  have hcaught : Staged { w with posted := rest, errorString := error } :=
    h.same hrun { } rfl
      (fun other hmem => h.errors other (by rw [hposted]; exact List.mem_cons_of_mem _ hmem)) rfl
  have herr : error ≠ "" := h.errors error (by rw [hposted]; exact List.mem_cons_self)
  exact (hcaught.next hrun _ fun _ hempty => absurd hempty herr).caught _

theorem Staged.makeAnother (h : Staged w) (hrun : w.halted = none)
    (hlayout : w.makeAnotherLayout = true) : Staged (Wizard.makeAnother env w) := by
  obtain ⟨path, hready⟩ : ∃ path, Ready path w := by
    cases h.stage_of_running hrun with
    | before hw | loading hw | unzipping hw =>
      have hno := hw.layout
      simp [hlayout] at hno
    | ready path hready => exact ⟨path, hready⟩
  have hready₁ : Ready path { w with makeAnotherLayout := false } := { hready with }
  exact ⟨h.mode, h.errors, Or.inl (.ready path (hready₁.switchToPage h.mode (by simp)))⟩

theorem Staged.minor (h : Staged w) (hrun : w.halted = none) (hw : Minor w w') : Staged w' := by
  obtain ⟨_, _, _, _, _, _, _, _, _, rfl, -, -, -⟩ := hw
  exact h.same hrun { } rfl h.errors rfl

theorem Staged.step (h : Staged w) {e : Event} (hC : AwaitsExtraction w e)
    (hs : Wizard.step env w e = some w') : Staged w' := by
  obtain ⟨hrun, heffect⟩ := effect_of_step hs
  have hstage : Stage w := h.stage_of_running hrun
  cases heffect with
  | minor hw => exact h.minor hrun hw
  | newestImageError =>
    have hreply : Staged { w with fetching := false } := h.minor hrun (.fetched w _)
    exact hreply.postError hrun (by decide)
  | noSites =>
    have hlogin : Staged { w with loginFinished := true } := h.minor hrun (.loggedIn w _)
    exact hlogin.postError hrun (by decide)
  | clickNext => exact h.next hrun _ fun hpage herr => hstage.ready_of_extracted (hC hpage herr)
  | @meepoFinished sites =>
    have hlogin : Staged { w with sites := sites, loginFinished := true } :=
      h.minor hrun (.loggedIn w sites)
    refine hlogin.next hrun _ fun hpage herr => ?_
    obtain ⟨path, hready⟩ := hstage.ready_of_extracted (hC hpage herr)
    exact ⟨path, { hready with }⟩
  | formatLink => exact hC.elim
  | driveTimer =>
    refine h.same hrun { created := fun call hcall => ?_ } rfl h.errors rfl
    simpa [getDriveList] using hcall
  | clickDevice | clickLeftover =>
    refine h.same hrun { created := fun call hcall => ?_ } rfl h.errors rfl
    simpa [note] using hcall
  | downloadFinished hdown => exact h.markComplete hrun hdown _
  | @unzipReturns i result thread hthread hres =>
    cases result with
    | file path => exact h.unzipReturns hrun hthread hres path
    | zipError => exact absurd rfl hC.1
    | exception => exact absurd rfl hC.2
  | unzipFinished hthread hres => exact h.unzipFinished hrun hthread hres
  | diskWriteReturns hthread =>
    obtain ⟨path, hready⟩ := hstage.ready_of_threads (List.mem_of_getElem? hthread)
    exact ⟨h.mode, h.errors, Or.inl (.ready path (hready.modify _ fun _ hw => hw.run _ _))⟩
  | doneWriting hthread => exact h.doneWriting hrun (List.mem_of_getElem? hthread) _
  | catchError hposted => exact h.catchError hrun hposted
  | makeAnother hlayout => exact h.makeAnother hrun hlayout

/-- **What is announced as an installer is one.** In every run in which the format link is not
used, every extraction returns a file, and nothing moves on from the download page before that, no
thread formats, no extraction failure goes unseen, and "USB created" is shown only after `Install`
has returned true for the path of the extracted image. -/
theorem installer_safe_of_run (env : Environment) (es : List Event) (w : Wizard)
    (h : (machine env).RunWhere AwaitsExtraction es w) : InstallerSafe w := by
  refine Staged.installerSafe (h.invariant ?_ fun _ _ _ hI hC hs => hI.step hC hs)
  rintro w rfl
  refine ⟨rfl, by simp [initializePage], Or.inl ?_⟩
  exact .before ⟨rfl, rfl, by simp [initializePage]⟩ rfl rfl rfl rfl (by simp [initializePage])

/-- The stick is chosen, the image downloaded, and the extraction and the writing end as given. -/
def makeInstaller (result : Extraction) : List Event :=
  [urlArrives, .clickNext, .clickNext, .clickDevice 0, .clickNext, .downloadFinished false,
    .unzipReturns 0 result, .unzipFinished 0, .diskWriteReturns 0 true true, .doneWriting 0]

theorem installer_safe_of_run_extracted :
    ∃ w, (machine (withStick false)).RunWhere AwaitsExtraction
        (makeInstaller (.file ⟨"/image.bin", by decide⟩)) w ∧
      .usbCreated (some (.install "/image.bin" true)) ∈ w.log ∧ InstallerSafe w := by
  have hlog : ((machine (withStick false)).execWhere AwaitsExtraction
      (initializePage (withStick false) {})
      (makeInstaller (.file ⟨"/image.bin", by decide⟩))).map (fun w => w.log.head?) =
      some (some (.usbCreated (some (.install "/image.bin" true)))) := by
    decide
  obtain ⟨w, hexec, hlog⟩ := Option.map_eq_some_iff.mp hlog
  have hrun : (machine (withStick false)).RunWhere AwaitsExtraction _ w := .of_execWhere rfl hexec
  exact ⟨w, hrun, List.mem_of_head? hlog, installer_safe_of_run (withStick false) _ w hrun⟩

/-- An exception in the extraction leaves the path empty. The thread formats the stick, and the
wizard announces a created installer. -/
theorem usb_created_by_format :
    ∃ w, (machine (withStick false)).Run (makeInstaller .exception) w ∧ w.formatOnly = false ∧
      (∃ thread ∈ w.diskWriteThreads, thread.call = some (.format true)) ∧
      .usbCreated (some (.format true)) ∈ w.log ∧ w.currentId = .writeOperation ∧
      ¬ InstallerSafe w := by
  have hend : ((machine (withStick false)).exec (initializePage (withStick false) {})
      (makeInstaller .exception)).map
        (fun w => (w.formatOnly, w.currentId, w.diskWriteThreads, w.log.head?)) =
      some (false, .writeOperation, [⟨stick, "", false, some (.format true), true⟩],
        some (.usbCreated (some (.format true)))) := by
    decide
  obtain ⟨w, hexec, hend⟩ := Option.map_eq_some_iff.mp hend
  simp only [Prod.mk.injEq] at hend
  obtain ⟨hmode, hpage, hthreads, hlog⟩ := hend
  have hmem : ⟨stick, "", false, some (.format true), true⟩ ∈ w.diskWriteThreads := by
    simp [hthreads]
  exact ⟨w, .of_exec rfl hexec, hmode, ⟨_, hmem, rfl⟩, List.mem_of_head? hlog, hpage,
    fun h => h.noFormat _ hmem true rfl⟩

end UsbMaker.Wizard
