import UsbMaker.Wizard.Installer

/-!
# When the download page is complete

`DownloadProgressPage::isComplete` returns `download_finished`, which `markComplete` sets before it
looks for an error of the download and before it creates the extraction thread. The device page
skips the download when the page is complete, and the write page then asks for the name of the
extracted image. This file shows that the name is there in all states of a run if and only if no
download ends in the run (`extractedWhenComplete_iff`): the end of a download leaves a page that
is complete and an extraction that is running, or none.

## Main definitions

* `Wizard.downloadIsComplete`, `Wizard.ExtractedWhenComplete`.
* `Wizard.Undownloaded`: the states before the end of a download.

## Main results

* `Wizard.Undownloaded.step`: what is left by a step before the end of a download.
* `Wizard.extractedWhenComplete_iff`.
-/

namespace UsbMaker.Wizard

/-- `DownloadProgressPage::isComplete`. -/
def downloadIsComplete (w : Wizard) : Bool := isComplete { w with currentId := .downloadProgress }

/-- If the download page is complete, the extraction thread exists and has ended with a file, and
`getImageFileName` is its path. -/
def ExtractedWhenComplete (w : Wizard) : Prop :=
  w.downloadIsComplete = true →
    ∃ thread ∈ w.unzipThreads.getLast?, ∃ path : ImagePath,
      thread.result = some (.file path) ∧ w.getImageFileName = some path.1

/-- Whether an event is the end of a download. -/
def Event.endsDownload : Event → Bool
  | .downloadFinished _ => true
  | _ => false

/-- No download has ended, and one that runs is connected to `markComplete`. -/
structure Undownloaded (w : Wizard) : Prop where
  finished : w.downloadFinished = false
  unzip : w.unzipThreads = []
  connected : w.downloading = true → 0 < w.connections

variable {env : Environment} {w w' : Wizard}

theorem Undownloaded.extractedWhenComplete (h : Undownloaded w) : ExtractedWhenComplete w := by
  intro hcomplete
  rw [downloadIsComplete, isComplete] at hcomplete
  rw [h.finished] at hcomplete
  cases hcomplete

/-- A step that leaves the work as it is. -/
theorem Undownloaded.same (h : Undownloaded w) (hs : SameWork w w') : Undownloaded w' where
  finished := hs.finished.trans h.finished
  unzip := hs.unzip.trans h.unzip
  connected hdown := by
    rw [hs.connections]
    exact h.connected (hs.downloading.symm.trans hdown)

theorem Undownloaded.switchToPage (h : Undownloaded w) (page : PageId) :
    Undownloaded (Wizard.switchToPage env page w) := by
  by_cases hd : page = .downloadProgress
  · subst hd
    rcases w.switchToPage_downloadProgress env with heq | heq
    · rw [heq]
      exact ⟨h.finished, h.unzip, h.connected⟩
    · rw [heq]
      exact ⟨h.finished, h.unzip, fun _ => Nat.succ_pos _⟩
  · by_cases hw : page = .writeOperation
    · subst hw
      rw [switchToPage_writeOperation]
      rcases writeToDrive_cases { w with currentId := .writeOperation, writeFinished := false }
        with ⟨-, heq⟩ | ⟨path, -, heq⟩ <;> rw [heq] <;> exact ⟨h.finished, h.unzip, h.connected⟩
    · exact h.same (sameWork_switchToPage hd hw)

theorem Undownloaded.next (h : Undownloaded w) (trigger : Trigger) :
    Undownloaded (Wizard.next env trigger w) := by
  obtain ⟨w₁, hprep, hcases⟩ := next_cases env trigger w
  have h₁ : Undownloaded w₁ := by
    obtain ⟨_, _, _, _, rfl, -, -, -⟩ := hprep
    exact h.same { }
  rcases hcases with ⟨-, hstay⟩ | ⟨page, -, -, hmove⟩
  · rw [hstay]
    exact h₁
  · rw [hmove]
    exact (h₁.same (sameWork_noteExit trigger w₁)).switchToPage page

theorem Undownloaded.onDoneWriting (h : Undownloaded w) : Undownloaded w.onDoneWriting := by
  rcases w.onDoneWriting_cases with ⟨-, heq⟩ | ⟨error, -, heq⟩ | ⟨-, heq⟩ | ⟨thread, -, -, heq⟩ <;>
    rw [heq] <;> exact ⟨h.finished, h.unzip, h.connected⟩

/-- The end of a download leaves a page that is complete, and an extraction that has not
ended or none at all. -/
theorem Undownloaded.not_extracted (h : Undownloaded w) (hdown : w.downloading = true)
    (hasError : Bool) :
    ¬ ExtractedWhenComplete
      ((markComplete hasError)^[w.connections] { w with downloading := false }) := by
  obtain ⟨n, hn⟩ := Nat.exists_eq_succ_of_ne_zero (Nat.pos_iff_ne_zero.mp (h.connected hdown))
  have hthreads (n : Nat) : ∀ thread ∈
      ((markComplete hasError)^[n] { w with downloading := false }).unzipThreads,
      thread.result = none := by
    induction n with
    | zero => simp [h.unzip]
    | succ n ih =>
      rw [Function.iterate_succ_apply']
      cases hasError with
      | true => exact ih
      | false =>
        intro thread hmem
        rcases List.mem_append.mp hmem with hmem | hmem
        · exact ih thread hmem
        · rw [List.mem_singleton.mp hmem]
  have hcomplete : ((markComplete hasError)^[w.connections]
      { w with downloading := false }).downloadIsComplete = true := by
    rw [hn, Function.iterate_succ_apply']
    cases hasError <;> rfl
  intro hextracted
  obtain ⟨thread, hlast, path, hres, -⟩ := hextracted hcomplete
  simp [hthreads _ thread (List.mem_of_getLast? hlast)] at hres

/-- Before the end of a download, every other step leaves a state of the same kind. -/
theorem Undownloaded.step (h : Undownloaded w) {e : Event} (he : e.endsDownload = false)
    (hs : Wizard.step env w e = some w') : Undownloaded w' := by
  obtain ⟨-, heffect⟩ := effect_of_step hs
  cases heffect with
  | minor hw =>
    obtain ⟨_, _, _, _, _, _, _, _, _, rfl, -, -, -⟩ := hw
    exact h.same { }
  | newestImageError => exact ⟨h.finished, h.unzip, h.connected⟩
  | noSites => exact ⟨h.finished, h.unzip, h.connected⟩
  | clickNext => exact h.next _
  | @meepoFinished sites =>
    have hlogin : Undownloaded { w with sites := sites, loginFinished := true } := h.same { }
    exact hlogin.next _
  | formatLink =>
    have hmode : Undownloaded { w with formatOnly := true } := h.same { }
    exact hmode.next _
  | driveTimer => exact ⟨h.finished, h.unzip, h.connected⟩
  | clickDevice | clickLeftover => exact ⟨h.finished, h.unzip, h.connected⟩
  | downloadFinished => cases he
  | unzipReturns hthread => simp [h.unzip] at hthread
  | unzipFinished hthread => simp [h.unzip] at hthread
  | diskWriteReturns => exact ⟨h.finished, h.unzip, h.connected⟩
  | @doneWriting i =>
    have hnoted : Undownloaded { w with
        diskWriteThreads := w.diskWriteThreads.modify i fun thread =>
          { thread with notified := true } } := ⟨h.finished, h.unzip, h.connected⟩
    exact hnoted.onDoneWriting
  | @catchError error rest =>
    have hcaught : Undownloaded { w with posted := rest, errorString := error } := h.same { }
    obtain ⟨hfin, hunzip, hconn⟩ : Undownloaded (Wizard.next env .catchError _) :=
      hcaught.next .catchError
    exact ⟨hfin, hunzip, hconn⟩
  | makeAnother =>
    have hlayout : Undownloaded { w with makeAnotherLayout := false } :=
      ⟨h.finished, h.unzip, h.connected⟩
    exact hlayout.switchToPage _

/-- The step that ends a download. -/
theorem Undownloaded.step_endsDownload (h : Undownloaded w) {hasError : Bool}
    (hs : Wizard.step env w (.downloadFinished hasError) = some w') :
    ¬ ExtractedWhenComplete w' := by
  simp only [Wizard.step, handle, Option.ite_none_right_eq_some, Option.some.injEq] at hs
  obtain ⟨-, hdown, rfl⟩ := hs
  exact h.not_extracted hdown hasError

theorem undownloaded_init : Undownloaded (initializePage env {}) :=
  ⟨rfl, rfl, fun h => by cases h⟩

/-- A run in which no download ends stays before the end of a download; any other run passes a
state in which the page is complete and the image is not there. -/
theorem undownloaded_or_not_extracted {es : List Event} (h : (machine env).Run es w) :
    Undownloaded w ∧ (∀ e ∈ es, e.endsDownload = false) ∨
      ∃ fs v, fs <+: es ∧ (machine env).Run fs v ∧ ¬ ExtractedWhenComplete v := by
  induction h with
  | init hw =>
    rw [show _ = _ from hw]
    exact Or.inl ⟨undownloaded_init, by simp⟩
  | @step es w e w' hrun _ hs ih =>
    rcases ih with ⟨hund, hno⟩ | ⟨fs, v, hinit, hv, hnot⟩
    · cases he : e.endsDownload with
      | false =>
        refine Or.inl ⟨hund.step he hs, ?_⟩
        simpa [or_imp, forall_and, he] using hno
      | true =>
        obtain ⟨hasError, rfl⟩ : ∃ hasError, e = .downloadFinished hasError := by
          cases e with
          | downloadFinished hasError => exact ⟨hasError, rfl⟩
          | _ => cases he
        exact Or.inr ⟨_, w', List.prefix_rfl, .step hrun trivial hs, hund.step_endsDownload hs⟩
    · exact Or.inr ⟨fs, v, hinit.trans (List.prefix_append _ _), hv, hnot⟩

/-- **The condition under which a complete download page has an image.** In every run, the
extraction has ended with a file and its path is known in all states in which
`DownloadProgressPage::isComplete` is true, if and only if no download ends in the run. -/
theorem extractedWhenComplete_iff (env : Environment) (es : List Event) (w : Wizard)
    (h : (machine env).Run es w) :
    (∀ fs v, fs <+: es → (machine env).Run fs v → ExtractedWhenComplete v) ↔
      ∀ e ∈ es, e.endsDownload = false := by
  constructor
  · intro hall
    rcases undownloaded_or_not_extracted h with ⟨-, hno⟩ | ⟨fs, v, hinit, hv, hnot⟩
    · exact hno
    · exact absurd (hall fs v hinit hv) hnot
  · intro hno fs v hinit hv
    have hund : Undownloaded v := by
      refine (hv.runWhere (C := fun _ e => e.endsDownload = false)
        fun e he _ => hno e (hinit.subset he)).invariant ?_ fun _ _ _ hI he hs => hI.step he hs
      rintro w rfl
      exact undownloaded_init
    exact hund.extractedWhenComplete

/-- The stick is chosen and the download starts. -/
def startDownload : List Event :=
  [urlArrives, .clickNext, .clickNext, .clickDevice 0, .clickNext]

theorem extractedWhenComplete_iff_downloading :
    ∃ w, (machine (withStick false)).Run startDownload w ∧ w.downloading = true ∧
      ∀ fs v, fs <+: startDownload → (machine (withStick false)).Run fs v →
        ExtractedWhenComplete v := by
  have hdown : ((machine (withStick false)).exec (initializePage (withStick false) {})
      startDownload).map downloading = some true := by
    decide
  obtain ⟨w, hexec, hdown⟩ := Option.map_eq_some_iff.mp hdown
  have hrun : (machine (withStick false)).Run startDownload w := .of_exec rfl hexec
  exact ⟨w, hrun, hdown,
    (extractedWhenComplete_iff (withStick false) startDownload w hrun).mpr (by decide)⟩

/-- The extraction fails, the download page is complete, and the image has an empty name. -/
theorem complete_without_image :
    ∃ w, (machine (withStick false)).Run
        (startDownload ++ [.downloadFinished false, .unzipReturns 0 .exception]) w ∧
      w.downloadIsComplete = true ∧ w.getImageFileName = some "" ∧ ¬ ExtractedWhenComplete w := by
  have hend : ((machine (withStick false)).exec (initializePage (withStick false) {})
      (startDownload ++ [.downloadFinished false, .unzipReturns 0 .exception])).map
        (fun w => (w.downloadIsComplete, w.getImageFileName)) = some (true, some "") := by
    decide
  obtain ⟨w, hexec, hend⟩ := Option.map_eq_some_iff.mp hend
  obtain ⟨hcomplete, hname⟩ := Prod.mk.inj hend
  refine ⟨w, .of_exec rfl hexec, hcomplete, hname, fun hextracted => ?_⟩
  obtain ⟨thread, -, path, -, hpath⟩ := hextracted hcomplete
  rw [hname, Option.some.injEq] at hpath
  exact path.2 hpath.symm

end UsbMaker.Wizard
