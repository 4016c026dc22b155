import UsbMaker.Run.History
import UsbMaker.Wizard.Navigation

/-!
# Posted errors

`postError` sets the session flag at once and defers `catchError`, which sets the text of the error
page and calls `next`. In between the wizard is as before, and afterwards the call of `next` can be
rejected by the page that is current: the site, image, device and write pages have a `validatePage`
that does not look at the session flag. This file proves that an error is shown, and that no thread
is started after it was posted, in the runs in which nothing moves the wizard on to such a page
between `postError` and `catchError`, and the login does not report a missing site while such a
page is shown (`ErrorFirst`).

## Main definitions

* `Wizard.ErrorFirst`: the condition on a step.
* `Wizard.Alarm`, `Wizard.SafePage`, `Wizard.Alert`.

## Main results

* `Wizard.error_shown`.
-/

namespace UsbMaker.Wizard

/-- `next` leads to a page other than the USB page and the error page. -/
def leadsOn (env : Environment) (w : Wizard) : Bool :=
  match following env w with
  | none | some .usbInsert | some .error => false
  | _ => true

/-- The pages whose `validatePage` may reject although an error has been posted. -/
def mayReject : PageId → Bool
  | .siteSelect | .imageSelect | .deviceSelect | .writeOperation => true
  | _ => false

/-- The condition on a step: while an error is posted and has not been caught, nothing but
`catchError` leads on, and the login does not fail for want of sites on a page that may reject. -/
def ErrorFirst (env : Environment) (w : Wizard) : Event → Prop
  | .clickNext | .unzipFinished _ => w.posted ≠ [] → leadsOn env w = false
  | .meepoFinished sites =>
    w.posted ≠ [] → leadsOn env { w with sites := sites, loginFinished := true } = false
  | .meepoFailed error => error = noSitesError → mayReject w.currentId = false
  | _ => True

instance (env : Environment) (w : Wizard) : (e : Event) → Decidable (ErrorFirst env w e)
  | .clickNext => inferInstanceAs (Decidable (_ → _))
  | .unzipFinished _ => inferInstanceAs (Decidable (_ → _))
  | .meepoFinished _ => inferInstanceAs (Decidable (_ → _))
  | .meepoFailed _ => inferInstanceAs (Decidable (_ → _))
  | .clickFormatLink | .newestImageReply _ | .googleSignin | .selectSite _ | .findSites _
  | .selectImage _ | .driveTimer | .clickDevice _ | .clickLeftover _ | .downloadFinished _
  | .unzipReturns _ _ | .diskWriteReturns _ _ _ | .doneWriting _ | .catchError | .makeAnother =>
    inferInstanceAs (Decidable True)

/-- No thread is started once an error has been posted. -/
def StartsBeforeErrors : Note → List Note → Prop
  | .started _, before => ∀ error, .postError error ∉ before
  | _, _ => True

/-! ### The invariant -/

/-- An error has been posted, and it has not been caught or is shown. -/
def Alarm (w : Wizard) : Prop := w.posted ≠ [] ∨ w.errorString ≠ ""

/-- The current page accepts, and goes on accepting until the wizard moves. -/
def SafePage (w : Wizard) : Prop :=
  (w.currentId = .chromeoverLogin → w.loginFinished = true) ∧
    (mayReject w.currentId = true → w.currentId = .writeOperation ∧ w.writeFinished = true)

/-- The slot of every thread has run. -/
def AllNotified (w : Wizard) : Prop :=
  ∀ notified ∈ w.diskWriteThreads.map DiskWriteThread.notified, notified = true

/-- The invariant of a program that still runs. At most one thread has not been waited for, the
one the write page has started last. -/
structure Running (env : Environment) (w : Wizard) : Prop where
  alarm : ∀ error, .postError error ∈ w.log → w.Alarm
  session : w.Alarm → w.sessionError = true
  page : w.Alarm → w.SafePage
  errors : ∀ error ∈ w.posted, error ≠ ""
  admin : w.currentId = .adminCheck → w.downloading = false ∧ w.meepoStarted = false
  fetching : w.fetching = true → w.currentId = .adminCheck ∧ w.sessionError = false ∧
    env.isChromeover = false ∧ w.sixtyFourUrl = none
  download : w.downloading = true → (w.currentId = .downloadProgress ∨ w.Alarm) ∧
    w.currentId ≠ .adminCheck ∧ w.downloadFinished = false ∧ w.formatOnly = false
  unzip : w.downloadFinished = false → w.unzipThreads = []
  threads : w.AllNotified ∨
    (w.currentId = .writeOperation ∧ w.writeFinished = false ∧
      ∃ done, w.diskWriteThreads.map DiskWriteThread.notified = done ++ [false] ∧
        ∀ notified ∈ done, notified = true)
  layout : w.makeAnotherLayout = true →
    (w.currentId = .writeOperation ∨ w.currentId = .error) ∧ w.AllNotified

/-- What the history says of errors. -/
structure ErrorsShown (log : List Note) : Prop where
  caught : ∀ page, .caught page ∈ log → page = .error
  started : Recorded StartsBeforeErrors log

/-- The invariant. -/
structure Alert (env : Environment) (w : Wizard) : Prop where
  history : ErrorsShown w.log
  running : w.halted = none → Running env w

variable {env : Environment} {w w' : Wizard}

/-- On a safe page an error that has been posted is let through. -/
theorem accepts_of_safePage (hpage : w.SafePage) (hsession : w.sessionError = true) :
    accepts env w = true := by
  obtain ⟨hlogin, hreject⟩ := hpage
  cases hid : w.currentId <;> simp_all [accepts, validatePage, mayReject]

/-- While the fetch is outstanding, the admin page rejects. -/
theorem Running.rejects (h : Running env w) (hfetch : w.fetching = true) :
    accepts env w = false := by
  obtain ⟨hpage, hsession, hbuild, hurl⟩ := h.fetching hfetch
  simp [accepts, validatePage, newestIsReady, hpage, hsession, hbuild, hurl]

/-- Once an error is shown, `next` leads to the error page only. -/
theorem leadsOn_of_error (herr : w.errorString ≠ "") : leadsOn env w = false := by
  rw [leadsOn]
  cases hfollow : following env w with
  | none => rfl
  | some page =>
    rcases following_spec hfollow with ⟨hempty, -⟩ | ⟨-, -, rfl⟩
    · exact absurd hempty herr
    · rfl

/-- The wizard arrives at a page that neither downloads nor writes. -/
theorem Running.arrive (h : Running env w) (page : PageId) (hacc : accepts env w = true)
    (hadmin : page ≠ .adminCheck)
    (hdown : w.downloading = true → w.currentId = .downloadProgress → w.Alarm)
    (hsafe : w.Alarm → page = .usbInsert ∨ page = .error)
    (hfrom : page = .error ∨ (w.currentId ≠ .writeOperation ∧ w.currentId ≠ .error)) :
    Running env { w with currentId := page } where
  alarm := h.alarm
  session := h.session
  page halarm := by
    have := hsafe halarm
    rcases this with rfl | rfl <;> exact ⟨by simp, by simp [mayReject]⟩
  errors := h.errors
  admin hpage := absurd hpage hadmin
  fetching hfetch := by
    rw [h.rejects hfetch] at hacc
    cases hacc
  download hd := by
    obtain ⟨hpage, -, hrest⟩ := h.download hd
    exact ⟨Or.inr (hpage.elim (hdown hd) id), hadmin, hrest⟩
  unzip := h.unzip
  threads := by
    rcases h.threads with hall | ⟨hpage, hfin, -⟩
    · exact Or.inl hall
    · simp [accepts, validatePage, hpage, hfin] at hacc
  layout hlayout := by
    obtain ⟨hpage, hall⟩ := h.layout hlayout
    rcases hfrom with rfl | ⟨hw, he⟩
    · exact ⟨Or.inr rfl, hall⟩
    · exact (hpage.elim hw he).elim

/-- The fields that `Running` reads, except for the page. -/
structure SameCourse (w w' : Wizard) : Prop where
  posted : w'.posted = w.posted := by rfl
  errorString : w'.errorString = w.errorString := by rfl
  sessionError : w'.sessionError = w.sessionError := by rfl
  loginFinished : w'.loginFinished = w.loginFinished := by rfl
  fetching : w'.fetching = w.fetching := by rfl
  sixtyFourUrl : w'.sixtyFourUrl = w.sixtyFourUrl := by rfl
  formatOnly : w'.formatOnly = w.formatOnly := by rfl
  downloading : w'.downloading = w.downloading := by rfl
  downloadFinished : w'.downloadFinished = w.downloadFinished := by rfl
  unzipThreads : w'.unzipThreads = w.unzipThreads := by rfl
  writeFinished : w'.writeFinished = w.writeFinished := by rfl
  layout : w'.makeAnotherLayout = w.makeAnotherLayout := by rfl
  diskWriteThreads : w'.diskWriteThreads = w.diskWriteThreads := by rfl
  errors : ∀ error, .postError error ∈ w'.log → .postError error ∈ w.log := by exact fun _ h => h

theorem SameCourse.alarm_iff (hs : SameCourse w w') : w'.Alarm ↔ w.Alarm := by
  rw [Alarm, Alarm, hs.posted, hs.errorString]

theorem Running.same (h : Running env w) (hs : SameCourse w w')
    (hpage : w'.currentId = w.currentId)
    (hmeepo : w.currentId = .adminCheck → w'.meepoStarted = w.meepoStarted) : Running env w' where
  alarm error herror := hs.alarm_iff.mpr (h.alarm error (hs.errors error herror))
  session halarm := hs.sessionError.trans (h.session (hs.alarm_iff.mp halarm))
  page halarm := by
    have := h.page (hs.alarm_iff.mp halarm)
    simpa only [SafePage, hpage, hs.loginFinished, hs.writeFinished] using this
  errors := by simpa only [hs.posted] using h.errors
  admin hadmin := by
    rw [hpage] at hadmin
    obtain ⟨hdown, hno⟩ := h.admin hadmin
    exact ⟨hs.downloading.trans hdown, (hmeepo hadmin).trans hno⟩
  fetching hfetch := by
    have := h.fetching (hs.fetching.symm.trans hfetch)
    simpa only [hpage, hs.sessionError, hs.sixtyFourUrl] using this
  download hd := by
    have := h.download (hs.downloading.symm.trans hd)
    simpa only [hpage, hs.alarm_iff, hs.downloadFinished, hs.formatOnly] using this
  unzip hfin := hs.unzipThreads.trans (h.unzip (hs.downloadFinished.symm.trans hfin))
  threads := by
    have := h.threads
    simpa only [AllNotified, hs.diskWriteThreads, hpage, hs.writeFinished] using this
  layout hlayout := by
    have := h.layout (hs.layout.symm.trans hlayout)
    simpa only [AllNotified, hs.diskWriteThreads, hpage] using this

/-! ### `next` -/

/-- Leaving a page: the state just before the next page is entered. -/
theorem leaving {w₁ : Wizard} (hprep : Prepared env w w₁) (trigger : Trigger) :
    SameCourse w (w₁.noteExit trigger) ∧ (w₁.noteExit trigger).currentId = w.currentId ∧
      (w₁.noteExit trigger).halted = w.halted ∧
      accepts env (w₁.noteExit trigger) = accepts env w ∧
      (w.currentId = .adminCheck → (w₁.noteExit trigger).meepoStarted = w.meepoStarted) ∧
      (w₁.noteExit trigger = w₁ ∨ (w₁.noteExit trigger) = w₁.note (.leftAdmin trigger)) := by
  obtain ⟨loginStarted, meepoStarted, buttons, device, rfl, hmeepo, -, -⟩ := hprep
  have hacc (log : List Note) : accepts env { w with
      loginStarted := loginStarted
      meepoStarted := meepoStarted
      bitnessButtons := buttons
      device := device
      log := log } = accepts env w := by
    unfold accepts validatePage
    dsimp only
    split
    case h_2 => split_ifs <;> rfl
    case h_3 => unfold selectedSite; dsimp only; split <;> rfl
    case h_5 => split <;> rfl
    all_goals rfl
  have hadmin (hpage : w.currentId = .adminCheck) : meepoStarted = w.meepoStarted :=
    hmeepo (by simp [hpage])
  rcases noteExit_cases { w with
      loginStarted := loginStarted
      meepoStarted := meepoStarted
      bitnessButtons := buttons
      device := device } trigger with ⟨-, hw⟩ | ⟨-, hw⟩
  · rw [hw]
    exact ⟨{ }, rfl, rfl, hacc _, hadmin, Or.inl rfl⟩
  · rw [hw]
    refine ⟨{ errors := fun error herror => ?_ }, rfl, rfl, hacc _, hadmin, Or.inr rfl⟩
    simpa [note] using herror

/-- The entries that are neither a start nor an error that has been caught. -/
def IsPlain : Note → Prop
  | .started _ | .caught _ => False
  | _ => True

theorem ErrorsShown.plain {log : List Note} (h : ErrorsShown log) (entry : Note)
    (he : IsPlain entry) : ErrorsShown (entry :: log) := by
  refine ⟨fun page hmem => ?_, ?_, h.started⟩
  · rcases List.mem_cons.mp hmem with rfl | hmem
    · exact he.elim
    · exact h.caught page hmem
  · cases entry with
    | started => exact he.elim
    | _ => trivial

theorem sameCourse_switchToPage (env : Environment) (w : Wizard) (page : PageId)
    (hadmin : page ≠ .adminCheck) (hd : page ≠ .downloadProgress) (hw : page ≠ .writeOperation) :
    SameCourse { w with currentId := page } (switchToPage env page w) ∧
      (ErrorsShown w.log → ErrorsShown (switchToPage env page w).log) ∧
      (switchToPage env page w).halted = w.halted := by
  cases page with
  | adminCheck => exact absurd rfl hadmin
  | downloadProgress => exact absurd rfl hd
  | writeOperation => exact absurd rfl hw
  | usbInsert | deviceSelect =>
    refine ⟨{ errors := fun error herror => ?_ }, fun h => h.plain _ trivial, rfl⟩
    simpa [switchToPage, initializePage, getDriveList] using herror
  | _ => exact ⟨{ }, id, rfl⟩

/-- The write page starts a thread, while no error has been posted. -/
theorem Alert.startThread (hlog : ErrorsShown w.log) (h : Running env w)
    (hacc : accepts env w = true) (hno : ¬ w.Alarm)
    (hfrom : w.currentId ≠ .writeOperation ∧ w.currentId ≠ .error) (hdown : w.downloading = false)
    {thread : DiskWriteThread} (hthread : thread.notified = false) :
    Alert env (startThread
      { w with currentId := .writeOperation, writeFinished := false } thread) := by
  have harrive := h.arrive .writeOperation hacc (by simp)
    (fun hd => by rw [hdown] at hd; cases hd) (fun halarm => absurd halarm hno) (Or.inr hfrom)
  have hall : w.AllNotified := h.threads.resolve_right fun hrest => hfrom.1 hrest.1
  refine ⟨⟨fun page hmem => ?_, fun error herror => hno (h.alarm error herror), hlog.started⟩,
    fun _ => ?_⟩
  · exact hlog.caught page (by simpa [Wizard.startThread] using hmem)
  · exact { harrive with
      alarm := fun error herror => h.alarm error (by simpa [Wizard.startThread] using herror)
      page := fun halarm => absurd halarm hno
      threads := Or.inr ⟨rfl, rfl, _, by simp [Wizard.startThread, hthread], hall⟩
      layout := fun hlayout => ((h.layout hlayout).1.elim hfrom.1 hfrom.2).elim }

theorem Alert.enterWrite (hlog : ErrorsShown w.log) (h : Running env w)
    (hacc : accepts env w = true) (hno : ¬ w.Alarm)
    (hfrom : w.currentId ≠ .writeOperation ∧ w.currentId ≠ .error) :
    Alert env (switchToPage env .writeOperation w) := by
  rw [switchToPage_writeOperation]
  rcases writeToDrive_cases { w with currentId := .writeOperation, writeFinished := false } with
    ⟨-, hw⟩ | ⟨path, hpath, hw⟩
  · rw [hw]
    exact ⟨hlog, fun hhalt => by cases hhalt⟩
  · rw [hw]
    refine Alert.startThread hlog h hacc hno hfrom ?_ rfl
    -- a download is never under way in format mode, and there is a path only after it
    by_contra hd
    obtain ⟨-, -, hfin, hmode⟩ := h.download (by simpa using hd)
    rcases hpath with hformat | hpath
    · rw [show w.formatOnly = true from hformat] at hmode
      cases hmode
    · simp [getImageFileName, h.unzip hfin] at hpath

theorem Alert.enterDownload (hlog : ErrorsShown w.log) (h : Running env w)
    (hacc : accepts env w = true) (hno : ¬ w.Alarm) (hpage : w.currentId = .deviceSelect)
    (hmode : w.formatOnly = false) (hfin : w.downloadFinished = false) :
    Alert env (switchToPage env .downloadProgress w) := by
  have harrive := h.arrive .downloadProgress hacc (by simp)
    (fun _ hd => by rw [hpage] at hd; cases hd) (fun halarm => absurd halarm hno)
    (Or.inr (by simp [hpage]))
  rcases w.switchToPage_downloadProgress env with hw | hw
  · rw [hw]
    exact ⟨hlog, fun hhalt => by cases hhalt⟩
  · rw [hw]
    exact ⟨hlog, fun _ => { harrive with
      admin := fun hadmin => by cases hadmin
      download := fun _ => ⟨Or.inl rfl, by simp, hfin, hmode⟩ }⟩

theorem Alert.next (h : Alert env w) (hrun : w.halted = none) (trigger : Trigger)
    (hlead : w.posted ≠ [] → leadsOn env w = false) : Alert env (Wizard.next env trigger w) := by
  have hR := h.running hrun
  obtain ⟨w₁, hprep, ⟨-, hstay⟩ | ⟨page, hacc, hfollow, hmove⟩⟩ := next_cases env trigger w
  · obtain ⟨_, _, _, _, rfl, hmeepo, -, -⟩ := hprep
    rw [hstay]
    exact ⟨h.history, fun _ => hR.same { } rfl fun hpage => hmeepo (by simp [hpage])⟩
  · have hsafe : w.Alarm → page = .usbInsert ∨ page = .error := by
      intro halarm
      have hno : leadsOn env w = false := halarm.elim hlead leadsOn_of_error
      cases page <;> simp_all [leadsOn]
    obtain ⟨hcourse, hcurrent, hhalt, hacc', hmeepo, hnote⟩ := leaving hprep trigger
    have hR₂ := hR.same hcourse hcurrent hmeepo
    have hlog : ErrorsShown (w₁.noteExit trigger).log := by
      have hsame : w₁.log = w.log := by
        obtain ⟨_, _, _, _, rfl, -, -, -⟩ := hprep
        rfl
      rcases hnote with hnote | hnote
      · rw [hnote, hsame]
        exact h.history
      · rw [hnote, Wizard.note, hsame]
        exact h.history.plain _ trivial
    rw [hacc] at hacc'
    rw [← hcourse.alarm_iff] at hsafe
    rw [hmove]
    generalize w₁.noteExit trigger = w₂ at *
    have hother (hadmin : page ≠ .adminCheck) (hd : page ≠ .downloadProgress)
        (hw : page ≠ .writeOperation) (hdown : w₂.currentId = .downloadProgress → w₂.Alarm)
        (hfrom : page = .error ∨ (w₂.currentId ≠ .writeOperation ∧ w₂.currentId ≠ .error)) :
        Alert env (Wizard.switchToPage env page w₂) := by
      obtain ⟨hcourse', hlog', -⟩ := sameCourse_switchToPage env w₂ page hadmin hd hw
      exact ⟨hlog' hlog, fun _ =>
        (hR₂.arrive page hacc' hadmin (fun _ => hdown) hsafe hfrom).same hcourse'
          (w₂.switchToPage_frame env page).2.2 fun hpage => absurd hpage hadmin⟩
    rcases following_spec hfollow with ⟨herr, hfrom⟩ | ⟨herr, -, rfl⟩
    · obtain ⟨hw, he, hd⟩ := hfrom.source
      rw [← hcurrent] at hw he hd
      cases page with
      | adminCheck => exact hfrom.elim
      | downloadProgress =>
        obtain ⟨hpage, hmode, hfin⟩ := hfrom
        exact Alert.enterDownload hlog hR₂ hacc' (fun halarm => by simpa using hsafe halarm)
          (hcurrent.trans hpage) (hcourse.formatOnly.trans hmode)
          (hcourse.downloadFinished.trans hfin)
      | writeOperation =>
        exact Alert.enterWrite hlog hR₂ hacc' (fun halarm => by simpa using hsafe halarm) ⟨hw, he⟩
      | _ =>
        exact hother (by simp) (by simp) (by simp) (fun hpage => absurd hpage (hd (by simp)))
          (Or.inr ⟨hw, he⟩)
    · refine hother (by simp) (by simp) (by simp) (fun _ => Or.inr ?_) (Or.inl rfl)
      rwa [hcourse.errorString]

/-! ### Runs -/

/-- An error is posted on a safe page. -/
theorem Running.postError (h : Running env w) {error : String} (herr : error ≠ "")
    (hsafe : w.SafePage) (hfetch : w.fetching = false) : Running env (w.postError error) where
  alarm _ _ := Or.inl (by simp [Wizard.postError])
  session _ := rfl
  page _ := hsafe
  errors other hmem := by
    rcases List.mem_append.mp hmem with hmem | hmem
    · exact h.errors other hmem
    · rwa [List.mem_singleton.mp hmem]
  admin := h.admin
  fetching hf := by
    rw [show w.fetching = true from hf] at hfetch
    cases hfetch
  download hd := ⟨Or.inr (Or.inl (by simp [Wizard.postError])), (h.download hd).2⟩
  unzip := h.unzip
  threads := h.threads
  layout := h.layout

theorem Alert.postError (h : Alert env w) {error : String} (herr : error ≠ "")
    (hsafe : w.SafePage) (hfetch : w.fetching = false) : Alert env (w.postError error) :=
  ⟨h.history.plain _ trivial, fun hrun => (h.running hrun).postError herr hsafe hfetch⟩

/-- The end of a download, for each connection of `markComplete`. -/
theorem Alert.iterate_markComplete (h : Alert env w) (hdown : w.downloading = false)
    (hsafe : w.SafePage) (hfetch : w.fetching = false) (hasError : Bool) (n : Nat) :
    Alert env ((markComplete hasError)^[n] w) := by
  induction n generalizing w with
  | zero => exact h
  | succ n ih =>
    have hdone : Alert env { w with downloadFinished := true } :=
      ⟨h.history, fun hrun =>
        { h.running hrun with
          download := fun hd => by
            rw [show w.downloading = true from hd] at hdown
            cases hdown
          unzip := fun hfin => by cases hfin }⟩
    rw [Function.iterate_succ_apply]
    rcases w.markComplete_cases hasError with ⟨error, herr, hw⟩ | hw
    · rw [hw]
      exact ih (hdone.postError herr hsafe hfetch) hdown hsafe hfetch
    · rw [hw]
      refine ih ⟨hdone.history, fun hrun => ?_⟩ hdown hsafe hfetch
      exact { hdone.running hrun with unzip := fun hfin => by cases hfin }

theorem map_notified_modify (threads : List DiskWriteThread) (i : Nat)
    {f : DiskWriteThread → DiskWriteThread} {g : Bool → Bool}
    (hf : ∀ thread, (f thread).notified = g thread.notified) :
    (threads.modify i f).map DiskWriteThread.notified =
      (threads.map DiskWriteThread.notified).modify i g := by
  induction threads generalizing i with
  | nil => simp
  | cons thread threads ih =>
    cases i with
    | zero => simp [hf]
    | succ i => simp [ih i]

/-- A thread that has not been waited for is the one the write page has started last. -/
theorem Running.notify (h : Running env w) {i : Nat} {thread : DiskWriteThread}
    (hthread : w.diskWriteThreads[i]? = some thread) (hnot : thread.notified = false) :
    w.currentId = .writeOperation ∧
      AllNotified { w with
        diskWriteThreads := w.diskWriteThreads.modify i fun thread =>
          { thread with notified := true } } := by
  have hflag : (w.diskWriteThreads.map DiskWriteThread.notified)[i]? = some false := by
    simp [List.getElem?_map, hthread, hnot]
  rcases h.threads with hall | ⟨hpage, -, done, hflags, hdone⟩
  · exact absurd (hall false (List.mem_of_getElem? hflag)) (by simp)
  · have hlast {j : Nat}
        (hj : (w.diskWriteThreads.map DiskWriteThread.notified)[j]? = some false) :
        j = done.length := by
      rw [hflags] at hj
      rcases Nat.lt_trichotomy j done.length with hlt | heq | hgt
      · rw [List.getElem?_append_left hlt] at hj
        exact absurd (hdone false (List.mem_of_getElem? hj)) (by simp)
      · exact heq
      · rw [List.getElem?_append_right hgt.le, List.getElem?_eq_none (by simp; omega)] at hj
        cases hj
    refine ⟨hpage, fun notified hmem => ?_⟩
    rw [map_notified_modify _ _ (g := fun _ => true) fun _ => rfl] at hmem
    obtain ⟨j, hj⟩ := List.mem_iff_getElem?.mp hmem
    rw [List.getElem?_modify] at hj
    obtain ⟨old, hold, rfl⟩ := Option.map_eq_some_iff.mp hj
    split_ifs with hij
    · rfl
    · cases old with
      | true => rfl
      | false => exact absurd ((hlast hflag).trans (hlast hold).symm) hij

theorem Alert.onDoneWriting (h : Alert env w) (hpage : w.currentId = .writeOperation)
    (hall : w.AllNotified) (hfetch : w.fetching = false) : Alert env w.onDoneWriting := by
  have hfinished : Alert env { w with writeFinished := true } :=
    ⟨h.history, fun hrun =>
      { h.running hrun with
        page := fun _ => ⟨by simp [hpage], fun _ => ⟨hpage, rfl⟩⟩
        threads := Or.inl hall }⟩
  have hfailed (error : String) (herr : error ≠ "") : Alert env (w.writeFailed error) :=
    hfinished.postError herr ⟨by simp [hpage], fun _ => ⟨hpage, rfl⟩⟩ hfetch
  have hplain {entry : Note} (hentry : ∀ error, entry ≠ .postError error) :
      ∀ error, .postError error ∈ entry :: w.log → .postError error ∈ w.log := by
    intro error herror
    rcases List.mem_cons.mp herror with heq | herror
    · exact absurd heq.symm (hentry error)
    · exact herror
  rcases w.onDoneWriting_cases with ⟨-, hw⟩ | ⟨error, herr, hw⟩ | ⟨-, hw⟩ | ⟨thread, -, -, hw⟩
  · rw [hw]
    exact ⟨h.history, fun hrun => by cases hrun⟩
  · rw [hw]
    exact hfailed error herr
  · rw [hw]
    exact ⟨h.history.plain _ trivial, fun hrun =>
      { hfinished.running hrun with
        alarm := fun error herror => (hfinished.running hrun).alarm error
          (hplain (by simp) error herror) }⟩
  · rw [hw]
    exact ⟨h.history.plain _ trivial, fun hrun =>
      { hfinished.running hrun with
        alarm := fun error herror => (hfinished.running hrun).alarm error
          (hplain (by simp) error herror)
        layout := fun _ => ⟨Or.inl hpage, hall⟩ }⟩

/-- Where an error is shown and the page accepts, `next` ends on the error page. -/
theorem next_currentId_of_error (herr : w.errorString ≠ "") (hacc : accepts env w = true)
    (trigger : Trigger) : (Wizard.next env trigger w).currentId = .error := by
  obtain ⟨w₁, hprep, ⟨hstay, heq⟩ | ⟨page, -, hfollow, hmove⟩⟩ := next_cases env trigger w
  · rcases hstay with hreject | hnone
    · rw [hacc] at hreject
      cases hreject
    · obtain ⟨_, _, _, _, rfl, -, -, -⟩ := hprep
      rw [heq]
      rw [following, nextId] at hnone
      rw [if_neg herr] at hnone
      split_ifs at hnone with hpage
      exact hpage
  · rcases following_spec hfollow with ⟨hempty, -⟩ | ⟨-, -, rfl⟩
    · exact absurd hempty herr
    · rw [hmove]
      exact (switchToPage_frame _ env .error).2.2

theorem Alert.catchError (h : Alert env w) (hrun : w.halted = none) {error : String}
    {rest : List String} (hposted : w.posted = error :: rest) :
    Alert env (Wizard.catchError env { w with posted := rest } error) := by
  have hR := h.running hrun
  have halarm : w.Alarm := Or.inl (by simp [hposted])
  have herr : error ≠ "" := hR.errors error (by rw [hposted]; exact List.mem_cons_self)
  have hcaught : Alert env { w with posted := rest, errorString := error } :=
    ⟨h.history, fun _ =>
      { hR with
        alarm := fun _ _ => Or.inr herr
        session := fun _ => hR.session halarm
        page := fun _ => hR.page halarm
        errors := fun other hmem =>
          hR.errors other (by rw [hposted]; exact List.mem_cons_of_mem _ hmem)
        download := fun hd => ⟨Or.inr (Or.inr herr), (hR.download hd).2⟩ }⟩
  have hnext : Alert env (Wizard.next env .catchError _) :=
    hcaught.next hrun _ fun _ => leadsOn_of_error herr
  have hacc : accepts env { w with posted := rest, errorString := error } = true :=
    accepts_of_safePage (w := { w with posted := rest, errorString := error }) (hR.page halarm)
      (hR.session halarm)
  have hpage := next_currentId_of_error (w := { w with posted := rest, errorString := error })
    herr hacc .catchError
  refine ⟨⟨fun page hmem => ?_, trivial, hnext.history.started⟩, fun hhalt => ?_⟩
  · rcases List.mem_cons.mp hmem with heq | hmem
    · obtain rfl := Note.caught.inj heq
      exact hpage
    · exact hnext.history.caught page hmem
  · exact { hnext.running hhalt with
      alarm := fun other hmem => (hnext.running hhalt).alarm other (by
        rcases List.mem_cons.mp hmem with heq | hmem
        · cases heq
        · exact hmem) }

/-- The fetch of the newest image is outstanding on the admin page only. -/
theorem Running.fetching_eq_false (h : Running env w) (hpage : w.currentId ≠ .adminCheck) :
    w.fetching = false := by
  by_contra hfetch
  exact hpage (h.fetching (by simpa using hfetch)).1

theorem Running.minor (h : Running env w) (hw : Minor w w') : Running env w' := by
  obtain ⟨_, _, _, _, _, _, _, _, _, rfl, hlogin, hfetch, hmeepo⟩ := hw
  exact { h with
    page := fun halarm => ⟨fun hpage => hlogin ((h.page halarm).1 hpage), (h.page halarm).2⟩
    admin := fun hpage => ⟨(h.admin hpage).1, (hmeepo hpage).trans (h.admin hpage).2⟩
    fetching := fun hf => by
      obtain ⟨hold, hurl⟩ := hfetch hf
      obtain ⟨hpage, hsession, hbuild, hnone⟩ := h.fetching hold
      exact ⟨hpage, hsession, hbuild, hurl.trans hnone⟩ }

theorem Alert.minor (h : Alert env w) (hrun : w.halted = none) (hw : Minor w w') :
    Alert env w' := by
  refine ⟨?_, fun _ => (h.running hrun).minor hw⟩
  obtain ⟨_, _, _, _, _, _, _, _, _, rfl, -, -, -⟩ := hw
  exact h.history

/-- An extraction thread is changed. -/
theorem Running.modifyUnzip (h : Running env w) (i : Nat) (f : UnzipThread → UnzipThread)
    (halted : Option Halt) :
    Running env { w with unzipThreads := w.unzipThreads.modify i f, halted := halted } :=
  { h with unzip := fun hfin => by simp [h.unzip hfin] }

/-- The download ends on a safe page. -/
theorem Running.safePage_of_downloading (h : Running env w) (hdown : w.downloading = true) :
    w.SafePage := by
  rcases (h.download hdown).1 with hpage | halarm
  · exact ⟨by simp [hpage], by simp [hpage, mayReject]⟩
  · exact h.page halarm

/-- The wizard starts over. -/
theorem Alert.makeAnother (h : Alert env w) (hrun : w.halted = none)
    (hlayout : w.makeAnotherLayout = true) : Alert env (Wizard.makeAnother env w) := by
  have hR := h.running hrun
  obtain ⟨hpage, hall⟩ := hR.layout hlayout
  have hinsert : Running env { w with makeAnotherLayout := false, currentId := .usbInsert } :=
    { hR with
      page := fun _ => ⟨by simp, by simp [mayReject]⟩
      admin := fun hadmin => by cases hadmin
      fetching := fun hfetch => by
        have hadmin := (hR.fetching hfetch).1
        rcases hpage with hpage | hpage <;> simp [hpage] at hadmin
      download := fun hd => by
        obtain ⟨hfrom, -, hrest⟩ := hR.download hd
        refine ⟨Or.inr (hfrom.resolve_left fun hfrom => ?_), by simp, hrest⟩
        rcases hpage with hpage | hpage <;> simp [hpage] at hfrom
      threads := Or.inl hall
      layout := fun hl => by cases hl }
  obtain ⟨hcourse, hlog, -⟩ := sameCourse_switchToPage env { w with makeAnotherLayout := false }
    .usbInsert (by simp) (by simp) (by simp)
  exact ⟨hlog h.history, fun _ => hinsert.same hcourse
    (switchToPage_frame _ env .usbInsert).2.2 fun hadmin => by cases hadmin⟩

/-- The slot of an extraction runs, which leads on only while no error waits. -/
theorem Alert.unzipFinished (h : Alert env w) (hrun : w.halted = none) (i : Nat)
    (hlead : w.posted ≠ [] → leadsOn env w = false) :
    Alert env (onUnzipFinished env { w with
      unzipThreads := w.unzipThreads.modify i fun thread =>
        { thread with notified := true } }) := by
  have hnotified : Alert env { w with
      unzipThreads := w.unzipThreads.modify i fun thread => { thread with notified := true } } :=
    ⟨h.history, fun _ => (h.running hrun).modifyUnzip i _ w.halted⟩
  have hfollow : following env { w with
      unzipThreads := w.unzipThreads.modify i fun thread => { thread with notified := true } } =
      following env w := following_congr rfl rfl rfl rfl rfl
  refine hnotified.next hrun _ fun hposted => ?_
  rw [leadsOn]
  rw [hfollow]
  exact hlead hposted

/-- A write thread returns; its slot has not run. -/
theorem Alert.diskWriteReturns (h : Alert env w) (hrun : w.halted = none) (i : Nat)
    (hasFile ok : Bool) : Alert env (w.diskWriteReturns i hasFile ok) := by
  have hR := h.running hrun
  have hsame := map_notified_modify w.diskWriteThreads i
    (f := fun thread => { thread with call := some (thread.run hasFile ok) }) (g := id)
    fun _ => rfl
  rw [List.modify_id] at hsame
  refine ⟨h.history, fun _ => { hR with threads := ?_, layout := ?_ }⟩
  · have := hR.threads
    simpa only [AllNotified, Wizard.diskWriteReturns, hsame] using this
  · have := hR.layout
    simpa only [AllNotified, Wizard.diskWriteReturns, hsame] using this

theorem Alert.step (h : Alert env w) {e : Event} (hC : ErrorFirst env w e)
    (hs : Wizard.step env w e = some w') : Alert env w' := by
  obtain ⟨hrun, heffect⟩ := effect_of_step hs
  have hR := h.running hrun
  cases heffect with
  | minor hw => exact h.minor hrun hw
  | newestImageError hfetch =>
    have hreply : Alert env { w with fetching := false } := h.minor hrun (.fetched w _)
    have hpage := (hR.fetching hfetch).1
    exact hreply.postError (by decide) ⟨by simp [hpage], by simp [hpage, mayReject]⟩ rfl
  | noSites hmeepo =>
    have hlogin : Alert env { w with loginFinished := true } := h.minor hrun (.loggedIn w _)
    refine hlogin.postError (by decide) ⟨fun _ => rfl, fun hreject => ?_⟩
      (hR.fetching_eq_false fun hadmin => ?_)
    · rw [show mayReject w.currentId = false from hC rfl] at hreject
      cases hreject
    · have hno := (hR.admin hadmin).2
      simp [hmeepo] at hno
  | clickNext => exact h.next hrun _ hC
  | @meepoFinished sites =>
    have hlogin : Alert env { w with sites := sites, loginFinished := true } :=
      h.minor hrun (.loggedIn w sites)
    exact hlogin.next hrun _ hC
  | formatLink hpage =>
    have hmode : Alert env { w with formatOnly := true } := ⟨h.history, fun _ =>
      { hR with download := fun hd => absurd hpage (hR.download hd).2.1 }⟩
    refine hmode.next hrun _ fun _ => ?_
    rw [leadsOn, following, nextId, pageNextId]
    simp only [hpage]
    split_ifs <;> rfl
  | driveTimer =>
    refine ⟨h.history.plain _ trivial, fun _ =>
      hR.same { errors := fun error herror => ?_ } rfl fun _ => rfl⟩
    simpa [getDriveList] using herror
  | clickDevice | clickLeftover =>
    refine ⟨h.history.plain _ trivial, fun _ =>
      hR.same { errors := fun error herror => ?_ } rfl fun _ => rfl⟩
    simpa [note] using herror
  | downloadFinished hdown =>
    have hidle : Alert env { w with downloading := false } := ⟨h.history, fun _ =>
      { hR with
        admin := fun hpage => ⟨rfl, (hR.admin hpage).2⟩
        download := fun hd => by cases hd }⟩
    exact hidle.iterate_markComplete rfl (hR.safePage_of_downloading hdown)
      (hR.fetching_eq_false (hR.download hdown).2.1) _ _
  | unzipReturns => exact ⟨h.history, fun _ => hR.modifyUnzip _ _ _⟩
  | unzipFinished => exact h.unzipFinished hrun _ hC
  | diskWriteReturns => exact h.diskWriteReturns hrun _ _ _
  | doneWriting hthread _ hnot =>
    obtain ⟨hpage, hall⟩ := hR.notify hthread hnot
    refine Alert.onDoneWriting ⟨h.history, fun _ => ?_⟩ hpage hall
      (hR.fetching_eq_false (by simp [hpage]))
    exact { hR with
      threads := Or.inl hall
      layout := fun hlayout => ⟨(hR.layout hlayout).1, hall⟩ }
  | catchError hposted => exact h.catchError hrun hposted
  | makeAnother hlayout => exact h.makeAnother hrun hlayout

/-- **Posted errors are shown.** In every run in which nothing overtakes `catchError`, each call of
`catchError` ends on the error page, and no thread is started after an error has been posted. -/
theorem error_shown (env : Environment) (es : List Event) (w : Wizard)
    (h : (machine env).RunWhere (ErrorFirst env) es w) :
    (∀ page, .caught page ∈ w.log → page = .error) ∧
      ∀ after thread before, w.log = after ++ .started thread :: before →
        ∀ error, .postError error ∉ before := by
  have halert : Alert env w := by
    refine h.invariant ?_ fun _ _ _ hI hC hs => hI.step hC hs
    rintro w rfl
    refine ⟨⟨by simp [initializePage], trivial⟩, fun _ => ?_⟩
    exact {
      alarm := by simp [initializePage]
      session := by simp [initializePage, Alarm]
      page := by simp [initializePage, Alarm]
      errors := by simp [initializePage]
      admin := fun _ => ⟨rfl, rfl⟩
      fetching := fun hf => ⟨rfl, rfl, by simpa [initializePage] using hf, rfl⟩
      download := by simp [initializePage]
      unzip := fun _ => rfl
      threads := Or.inl (by simp [initializePage, AllNotified])
      layout := by simp [initializePage] }
  refine ⟨halert.history.caught, fun after thread before hlog => ?_⟩
  exact recorded_iff.mp halert.history.started after (.started thread) before hlog

/-- The image is written to the stick, and the write fails. -/
def failToWrite : List Event :=
  [urlArrives, .clickNext, .clickNext, .clickDevice 0, .clickNext, .downloadFinished false,
    .unzipReturns 0 (.file ⟨"/image.bin", by decide⟩), .unzipFinished 0,
    .diskWriteReturns 0 true false, .doneWriting 0, .catchError]

theorem error_shown_failed_write :
    ∃ w, (machine (withStick false)).RunWhere (ErrorFirst (withStick false)) failToWrite w ∧
      (.caught .error ∈ w.log ∧ ∃ thread, .started thread ∈ w.log) ∧
      (∀ page, .caught page ∈ w.log → page = .error) ∧
      ∀ after thread before, w.log = after ++ .started thread :: before →
        ∀ error, .postError error ∉ before := by
  have hlog : ((machine (withStick false)).execWhere (ErrorFirst (withStick false))
      (initializePage (withStick false) {}) failToWrite).map (fun w => w.log.take 3) =
      some [.caught .error, .postError "Error writing to the USB device",
        .started ⟨stick, "/image.bin", false, none, false⟩] := by
    decide
  obtain ⟨w, hexec, hlog⟩ := Option.map_eq_some_iff.mp hlog
  have hrun : (machine (withStick false)).RunWhere (ErrorFirst (withStick false)) _ w :=
    .of_execWhere rfl hexec
  have hmem {entry : Note} (h : entry ∈ w.log.take 3) : entry ∈ w.log := List.mem_of_mem_take h
  exact ⟨w, hrun, ⟨hmem (by simp [hlog]),
    ⟨stick, "/image.bin", false, none, false⟩, hmem (by simp [hlog])⟩,
    error_shown (withStick false) _ w hrun⟩

/-- The fetch of the newest image fails, and the user clicks the format link and Next until the
thread is started, before the event loop runs `catchError`. -/
def formatPastError : List Event :=
  [.newestImageReply none, .clickFormatLink, .clickNext, .clickDevice 0, .clickNext, .catchError]

/-- The error that was posted first is caught on the write page, which rejects, after the thread
has been started. -/
theorem thread_started_after_error :
    ∃ w, (machine (withStick false)).Run formatPastError w ∧ .caught .writeOperation ∈ w.log ∧
      ∃ after thread before error, w.log = after ++ .started thread :: before ∧
        .postError error ∈ before := by
  have hlog : ((machine (withStick false)).exec (initializePage (withStick false) {})
      formatPastError).map (fun w => w.log) =
      some [.caught .writeOperation, .started ⟨stick, "", true, none, false⟩, .clicked stick,
        .refreshed [stick], .listed [stick], .leftAdmin .formatLink,
        .postError "An error has occurred fetching the latest image"] := by
    decide
  obtain ⟨w, hexec, hlog⟩ := Option.map_eq_some_iff.mp hlog
  refine ⟨w, .of_exec rfl hexec, by simp [hlog], [.caught .writeOperation], _, _,
    "An error has occurred fetching the latest image", hlog, by simp⟩

end UsbMaker.Wizard
