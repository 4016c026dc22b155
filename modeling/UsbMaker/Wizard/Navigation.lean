import UsbMaker.Wizard.Pages
import UsbMaker.Meepo.Session

/-!
# The wizard as an event-driven machine

`QWizard::next` asks the current page to validate itself and then moves to `nextId()`, unless that
is `-1`. It is called by the Next button, and also by slots: when a login has finished, when an
extraction has finished, and by `catchError`, which `postError` defers to the event loop. Each of
these calls meets whatever page happens to be current.

This file has `next`, the slots of the pages, and the machine whose events are the clicks of the
user, the timers and deferred calls, and the reports of the network and of the threads.

## Main definitions

* `Wizard.next` and the slots.
* `Wizard.Event`, `Wizard.step`, `Wizard.machine`.

## Main results

* `Wizard.next_cases`: what a call of `next` can do.
* `Wizard.following_spec`: where a move to a page comes from.
* `Wizard.writeToDrive_cases`, `Wizard.onDoneWriting_cases` and the like: what a slot can do.
* `Wizard.effect_of_step`: what an event can do.
-/

namespace UsbMaker.Wizard

/-- `QWizard::switchToPage` in forward direction. -/
def switchToPage (env : Environment) (page : PageId) (w : Wizard) : Wizard :=
  initializePage env { w with currentId := page }

/-- The history entry of a move that leaves the admin page. -/
def noteExit (trigger : Trigger) (w : Wizard) : Wizard :=
  if w.currentId = .adminCheck then w.note (.leftAdmin trigger) else w

/-- `QWizard::next`. -/
def next (env : Environment) (trigger : Trigger) (w : Wizard) : Wizard :=
  match w.validatePage env with
  | (false, w) => w
  | (true, w) =>
    match w.nextId env with
    | (none, w) => w
    | (some page, w) => switchToPage env page (w.noteExit trigger)

/-- `AdminCheckPage::handleFormatOnly`. -/
def handleFormatOnly (env : Environment) (w : Wizard) : Wizard :=
  next env .formatLink { w with formatOnly := true }

/-- `NewestImageUrl::handleReply` and `GondarWizard::handleNewestImageUrlError`; the URL of a
reply is never empty. -/
def handleNewestImageReply (w : Wizard) (url : Option Url) : Wizard :=
  match url with
  | none => w.postError "An error has occurred fetching the latest image"
  | some url => { w with sixtyFourUrl := some url }

/-- `ChromeoverLoginPage::handleMeepoFinished`. -/
def handleMeepoFinished (env : Environment) (w : Wizard) (sites : List GondarSite) : Wizard :=
  next env .meepoFinished { w with sites := sites, loginFinished := true }

/-- `ChromeoverLoginPage::handleMeepoFailed`. -/
def handleMeepoFailed (w : Wizard) (error : String) : Wizard :=
  if error = noSitesError then { w with loginFinished := true }.postError noSitesError
  else { w with loginStarted := false }

/-- `ChromeoverLoginPage::handleGoogleSigninFinished`. -/
def handleGoogleSigninFinished (w : Wizard) : Wizard :=
  if w.loginStarted then w else { w with loginStarted := true, meepoStarted := true }

/-- `SiteSelectPage::filterSites`. -/
def filterSites (env : Environment) (w : Wizard) (findText : String) : Wizard :=
  { w with sitesEntries := w.sitesEntries.map fun entry =>
      (entry.1,
        !decide ((env.toLower findText).toList <:+: (env.toLower entry.1.siteName).toList)) }

/-- `DownloadProgressPage::markComplete`. -/
def markComplete (hasError : Bool) (w : Wizard) : Wizard :=
  let w := { w with downloadFinished := true }
  if hasError then
    w.postError ("An error has occurred downloading the latest image.  Please ensure " ++
      "you have a network connection.")
  else { w with unzipThreads := w.unzipThreads ++ [{ result := none }] }

/-- `DownloadProgressPage::onUnzipFinished`. -/
def onUnzipFinished (env : Environment) (w : Wizard) : Wizard := next env .unzipFinished w

/-- `WriteOperationPage::writeFailed`. -/
def writeFailed (w : Wizard) (errorMessage : String) : Wizard :=
  { w.postError errorMessage with writeFinished := true }

/-- `WriteOperationPage::onDoneWriting`. -/
def onDoneWriting (w : Wizard) : Wizard :=
  match w.diskWriteThreads.getLast? with
  | none => { w with halted := some .undefined }
  | some thread =>
    match thread.state with
    | .running => w.writeFailed "Cannot read USB device; is it still connected?"
    | .getFileSizeFailed => w.writeFailed "Error reading the disk image's file size"
    | .installFailed => w.writeFailed "Error writing to the USB device"
    | .success =>
      if w.formatOnly then { w with writeFinished := true }.note .formatted
      else
        { w with writeFinished := true, makeAnotherLayout := true }.note (.usbCreated thread.call)

/-- `GondarWizard::catchError`. -/
def catchError (env : Environment) (w : Wizard) (error : String) : Wizard :=
  let w := next env .catchError { w with errorString := error }
  w.note (.caught w.currentId)

/-- `GondarWizard::handleCustomButton` for the button "Make Another USB". -/
def makeAnother (env : Environment) (w : Wizard) : Wizard :=
  switchToPage env .usbInsert { w with makeAnotherLayout := false }

/-- The end of extraction thread `i`. An exception that no handler matches ends the program. -/
def unzipReturns (w : Wizard) (i : Nat) (result : Extraction) : Wizard :=
  { w with
    unzipThreads := w.unzipThreads.modify i fun thread => { thread with result := some result }
    halted := if result = .zipError then some .terminated else w.halted }

/-- The end of write thread `i`. -/
def diskWriteReturns (w : Wizard) (i : Nat) (hasFile ok : Bool) : Wizard :=
  { w with diskWriteThreads := w.diskWriteThreads.modify i fun thread =>
      { thread with call := some (thread.run hasFile ok) } }

/-- What can happen to the wizard. -/
inductive Event
  | clickNext
  | clickFormatLink
  /-- The reply to `NewestImageUrl::fetch`, `none` for a network error. -/
  | newestImageReply (url : Option Url)
  | googleSignin
  | meepoFinished (sites : List GondarSite)
  | meepoFailed (error : String)
  | selectSite (i : Nat)
  | findSites (findText : String)
  | selectImage (i : Nat)
  | driveTimer
  /-- A click on a button of the device picker. -/
  | clickDevice (i : Nat)
  /-- A click on a button of an earlier refresh. It is not in the group and selects nothing. -/
  | clickLeftover (i : Nat)
  /-- `DownloadManager::finished`. -/
  | downloadFinished (hasError : Bool)
  | unzipReturns (i : Nat) (result : Extraction)
  /-- The slot of `UnzipThread::finished`. -/
  | unzipFinished (i : Nat)
  | diskWriteReturns (i : Nat) (hasFile ok : Bool)
  /-- The slot of `DiskWriteThread::finished`. -/
  | doneWriting (i : Nat)
  /-- The event loop runs the oldest call deferred by `postError`. -/
  | catchError
  | makeAnother
  deriving DecidableEq, Repr

/-- The state after an event of a program that still runs. -/
def handle (env : Environment) (w : Wizard) : Event → Option Wizard
  | .clickNext => if w.isComplete then some (next env .nextButton w) else none
  | .clickFormatLink =>
    if w.currentId = .adminCheck ∧ w.isAdmin then some (handleFormatOnly env w) else none
  | .newestImageReply url =>
    if w.fetching then some (handleNewestImageReply { w with fetching := false } url) else none
  | .googleSignin =>
    if w.currentId = .chromeoverLogin then some w.handleGoogleSigninFinished else none
  | .meepoFinished sites => if w.meepoStarted then some (handleMeepoFinished env w sites) else none
  | .meepoFailed error => if w.meepoStarted then some (w.handleMeepoFailed error) else none
  | .selectSite i =>
    if w.currentId = .siteSelect ∧ i < w.sitesEntries.length then
      some { w with currentItem := some i }
    else none
  | .findSites findText =>
    if w.currentId = .siteSelect then some (filterSites env w findText) else none
  | .selectImage i =>
    if w.currentId = .imageSelect ∧ i < w.bitnessButtons.length then
      some { w with checkedButton := some i }
    else none
  | .driveTimer =>
    if 0 < w.driveTimers then some (getDriveList env { w with driveTimers := w.driveTimers - 1 })
    else none
  | .clickDevice i =>
    if w.currentId = .deviceSelect then
      (w.picker.click i).map fun (picker, device) =>
        { w with picker := picker, log := .clicked device :: w.log }
    else none
  | .clickLeftover i =>
    if w.currentId = .deviceSelect then
      (w.picker.clickLeftover i).map fun device => w.note (.clickedLeftover device)
    else none
  | .downloadFinished hasError =>
    if w.downloading then
      some ((markComplete hasError)^[w.connections] { w with downloading := false })
    else none
  | .unzipReturns i result =>
    if ∃ thread ∈ w.unzipThreads[i]?, thread.result = none then some (w.unzipReturns i result)
    else none
  | .unzipFinished i =>
    if ∃ thread ∈ w.unzipThreads[i]?, thread.result ≠ none ∧ thread.notified = false then
      some (onUnzipFinished env { w with
        unzipThreads := w.unzipThreads.modify i fun thread => { thread with notified := true } })
    else none
  | .diskWriteReturns i hasFile ok =>
    if ∃ thread ∈ w.diskWriteThreads[i]?, thread.call = none then
      some (w.diskWriteReturns i hasFile ok)
    else none
  | .doneWriting i =>
    if ∃ thread ∈ w.diskWriteThreads[i]?, thread.call ≠ none ∧ thread.notified = false then
      some (onDoneWriting { w with
        diskWriteThreads := w.diskWriteThreads.modify i fun thread =>
          { thread with notified := true } })
    else none
  | .catchError =>
    match w.posted with
    | [] => none
    | error :: rest => some (catchError env { w with posted := rest } error)
  | .makeAnother => if w.makeAnotherLayout then some (makeAnother env w) else none

/-- The state after an event. -/
def step (env : Environment) (w : Wizard) (e : Event) : Option Wizard :=
  if w.halted = none then w.handle env e else none

/-- The wizard from the start of the program. -/
def machine (env : Environment) : Machine Wizard Event where
  init w := w = initializePage env {}
  step := step env

/-! ### What a call of `next` can do -/

section Next

variable {env : Environment} {w : Wizard}

/-- Whether the current page accepts when it is asked to validate itself. -/
def accepts (env : Environment) (w : Wizard) : Bool := (w.validatePage env).1

/-- The page `GondarWizard::nextId` names. -/
def following (env : Environment) (w : Wizard) : Option PageId := (w.nextId env).1

/-- What `validatePage` and `nextId` may change: the login flags, the image buttons, and the
device of the write page, which becomes the one selected. -/
def Prepared (env : Environment) (w w₁ : Wizard) : Prop :=
  ∃ loginStarted meepoStarted bitnessButtons device,
    w₁ = { w with
      loginStarted := loginStarted
      meepoStarted := meepoStarted
      bitnessButtons := bitnessButtons
      device := device } ∧
    (w.currentId ≠ .chromeoverLogin → meepoStarted = w.meepoStarted) ∧
    (w.currentId ≠ .deviceSelect → device = w.device) ∧
    (w.currentId = .deviceSelect → accepts env w = true →
      w.picker.selectedDevice = some device)

theorem prepared_validatePage (env : Environment) (w : Wizard) :
    Prepared env w (w.validatePage env).2 := by
  have hself (hne : w.currentId ≠ .deviceSelect) : Prepared env w w :=
    ⟨_, _, _, _, rfl, fun _ => rfl, fun _ => rfl, fun h => absurd h hne⟩
  rw [validatePage]
  split <;> rename_i hpage
  case h_2 =>
    split_ifs
    · exact hself (by simp [hpage])
    · exact ⟨_, _, _, _, rfl, fun h => absurd hpage h, fun _ => rfl, by simp [hpage]⟩
  case h_3 =>
    split
    · exact hself (by simp [hpage])
    · exact ⟨_, _, _, _, rfl, fun _ => rfl, fun _ => rfl, by simp [hpage]⟩
  case h_5 =>
    split <;> rename_i hsel
    · exact ⟨_, _, _, _, rfl, fun _ => rfl, fun _ => rfl, fun _ hacc => by
        simp [accepts, validatePage, hpage, hsel] at hacc⟩
    · exact ⟨_, _, _, _, rfl, fun _ => rfl, fun h => absurd hpage h, fun _ _ => hsel⟩
  all_goals exact hself (by simp [hpage])

/-- The page named, and what naming it changes, after `validatePage`. -/
theorem nextId_of_prepared {w₁ : Wizard} (h : Prepared env w w₁) :
    (w₁.nextId env).1 = following env w ∧ Prepared env w (w₁.nextId env).2 := by
  obtain ⟨loginStarted, meepoStarted, bitnessButtons, device, rfl, hmeepo, hdev, hsel⟩ := h
  have hprep (buttons : List Url) : Prepared env w { w with
      loginStarted := loginStarted
      meepoStarted := meepoStarted
      bitnessButtons := buttons
      device := device } :=
    ⟨_, _, _, _, rfl, hmeepo, hdev, hsel⟩
  unfold following nextId
  dsimp only
  split_ifs
  · unfold pageNextId
    dsimp only
    split
    case h_1 => split_ifs <;> exact ⟨rfl, hprep _⟩
    case h_2 => split <;> exact ⟨rfl, hprep _⟩
    case h_6 => split_ifs <;> exact ⟨rfl, hprep _⟩
    all_goals exact ⟨rfl, hprep _⟩
  · exact ⟨rfl, hprep _⟩
  · exact ⟨rfl, hprep _⟩

/-- **What `next` does.** Either the current page rejects or there is no page to follow, and the
wizard stays; or the page accepts and the wizard switches to the page that follows. -/
theorem next_cases (env : Environment) (trigger : Trigger) (w : Wizard) :
    ∃ w₁, Prepared env w w₁ ∧
      (((accepts env w = false ∨ following env w = none) ∧ next env trigger w = w₁) ∨
        ∃ page, accepts env w = true ∧ following env w = some page ∧
          next env trigger w = switchToPage env page (w₁.noteExit trigger)) := by
  have hval := prepared_validatePage env w
  obtain ⟨hfollow, hprep⟩ := nextId_of_prepared hval
  cases hacc : accepts env w with
  | false =>
    refine ⟨_, hval, Or.inl ⟨Or.inl rfl, ?_⟩⟩
    rw [next, show w.validatePage env = (false, _) from Prod.ext hacc rfl]
  | true =>
    refine ⟨_, hprep, ?_⟩
    have hnext : next env trigger w =
        match (w.validatePage env).2.nextId env with
        | (none, w) => w
        | (some page, w) => switchToPage env page (w.noteExit trigger) := by
      rw [next, show w.validatePage env = (true, _) from Prod.ext hacc rfl]
    cases hpage : following env w with
    | none =>
      rw [hpage] at hfollow
      refine Or.inl ⟨Or.inr rfl, ?_⟩
      rw [hnext, show (w.validatePage env).2.nextId env = (none, _) from Prod.ext hfollow rfl]
    | some page =>
      rw [hpage] at hfollow
      refine Or.inr ⟨page, rfl, rfl, ?_⟩
      rw [hnext, show (w.validatePage env).2.nextId env = (some page, _) from Prod.ext hfollow rfl]

/-- The states from which `next` moves to a page while no error is shown. -/
def MovesTo (w : Wizard) : PageId → Prop
  | .adminCheck => False
  | .chromeoverLogin => w.currentId = .adminCheck ∧ w.formatOnly = false
  | .siteSelect => w.currentId = .chromeoverLogin
  | .imageSelect => w.currentId = .chromeoverLogin ∨ w.currentId = .siteSelect
  | .usbInsert => w.currentId = .adminCheck ∨ w.currentId = .imageSelect
  | .deviceSelect => w.currentId = .usbInsert
  | .downloadProgress =>
    w.currentId = .deviceSelect ∧ w.formatOnly = false ∧ w.downloadFinished = false
  | .writeOperation =>
    (w.currentId = .deviceSelect ∧ (w.formatOnly = true ∨ w.downloadFinished = true)) ∨
      w.currentId = .downloadProgress
  | .error => w.currentId = .chromeoverLogin ∧ w.sites = []

/-- Where a move comes from. Only the error page is entered once an error is shown. -/
theorem following_spec {page : PageId} (h : following env w = some page) :
    (w.errorString = "" ∧ w.MovesTo page) ∨
      (w.errorString ≠ "" ∧ w.currentId ≠ .error ∧ page = .error) := by
  rw [following, nextId] at h
  split_ifs at h with herr hne
  · refine Or.inl ⟨herr, ?_⟩
    rw [pageNextId] at h
    split at h <;> rename_i hpage
    case h_1 => split_ifs at h <;> cases h <;> simp_all [MovesTo]
    case h_2 => split at h <;> cases h <;> simp_all [MovesTo]
    case h_6 => split_ifs at h <;> cases h <;> simp_all [MovesTo]
    all_goals cases h <;> simp_all [MovesTo]
  · exact Or.inr ⟨herr, hne, (Option.some.inj h).symm⟩

/-- While no error is shown, the write page and the error page lead nowhere, and the download
page leads to the write page only. -/
theorem MovesTo.source {page : PageId} (h : w.MovesTo page) :
    w.currentId ≠ .writeOperation ∧ w.currentId ≠ .error ∧
      (page ≠ .writeOperation → w.currentId ≠ .downloadProgress) := by
  cases page <;> simp only [MovesTo] at h
  case imageSelect | usbInsert => rcases h with h | h <;> simp [h]
  case writeOperation => rcases h with ⟨h, -⟩ | h <;> simp [h]
  case siteSelect | deviceSelect => simp [h]
  case chromeoverLogin | downloadProgress | error => simp [h.1]

/-- The page that follows depends on these members only. -/
theorem following_congr {w' : Wizard} (herr : w'.errorString = w.errorString)
    (hpage : w'.currentId = w.currentId) (hmode : w'.formatOnly = w.formatOnly)
    (hsites : w'.sites = w.sites) (hfin : w'.downloadFinished = w.downloadFinished) :
    following env w' = following env w := by
  unfold following nextId
  rw [herr, hpage]
  split_ifs
  · unfold pageNextId
    rw [hpage, hmode, hsites, hfin]
    split
    case h_1 => split_ifs <;> rfl
    case h_2 => split <;> rfl
    case h_6 => split_ifs <;> rfl
    all_goals rfl
  · rfl
  · rfl

end Next

/-! ### What the pages and the slots do -/

section Slots

variable (w : Wizard)

/-- The download page reads the URL through a null pointer or starts the download. -/
theorem switchToPage_downloadProgress (env : Environment) :
    switchToPage env .downloadProgress w =
        { w with currentId := .downloadProgress, halted := some .undefined } ∨
      switchToPage env .downloadProgress w =
        { w with
          currentId := .downloadProgress
          connections := w.connections + 1
          downloading := true } := by
  rw [switchToPage, initializePage]
  dsimp only
  split
  · exact Or.inl rfl
  · exact Or.inr rfl

/-- The write page reads the path through an uninitialised pointer or starts a thread, with an
empty path in format mode and with the path of the extracted image otherwise. -/
theorem writeToDrive_cases :
    (w.formatOnly = false ∧ w.writeToDrive = { w with halted := some .undefined }) ∨
      ∃ path, (w.formatOnly = true ∨ w.getImageFileName = some path) ∧
        w.writeToDrive = w.startThread
          { selectedDrive := w.device, imagePath := path, formatMode := w.formatOnly } := by
  rw [writeToDrive]
  split_ifs with hformat
  · exact Or.inr ⟨"", Or.inl hformat, by rw [hformat]⟩
  · have hmode : w.formatOnly = false := by simpa using hformat
    split
    · exact Or.inl ⟨hmode, rfl⟩
    · rename_i path hpath
      exact Or.inr ⟨path, Or.inr hpath, by rw [hmode]⟩

theorem switchToPage_writeOperation (env : Environment) :
    switchToPage env .writeOperation w =
      writeToDrive { w with currentId := .writeOperation, writeFinished := false } := rfl

/-- What entering a page leaves as it is. -/
theorem switchToPage_frame (env : Environment) (page : PageId) :
    (switchToPage env page w).formatOnly = w.formatOnly ∧
      (switchToPage env page w).posted = w.posted ∧
      (switchToPage env page w).currentId = page := by
  cases page with
  | downloadProgress =>
    rcases switchToPage_downloadProgress w env with h | h <;> rw [h] <;> exact ⟨rfl, rfl, rfl⟩
  | writeOperation =>
    rw [switchToPage_writeOperation]
    rcases writeToDrive_cases { w with currentId := .writeOperation, writeFinished := false } with
      ⟨-, h⟩ | ⟨path, -, h⟩ <;> rw [h] <;> exact ⟨rfl, rfl, rfl⟩
  | _ => exact ⟨rfl, rfl, rfl⟩

theorem noteExit_cases (trigger : Trigger) :
    (w.currentId ≠ .adminCheck ∧ w.noteExit trigger = w) ∨
      (w.currentId = .adminCheck ∧ w.noteExit trigger = w.note (.leftAdmin trigger)) := by
  by_cases hpage : w.currentId = .adminCheck
  · exact Or.inr ⟨hpage, if_pos hpage⟩
  · exact Or.inl ⟨hpage, if_neg hpage⟩

theorem noteExit_frame (trigger : Trigger) :
    (w.noteExit trigger).formatOnly = w.formatOnly ∧ (w.noteExit trigger).posted = w.posted ∧
      (w.noteExit trigger).currentId = w.currentId := by
  rcases noteExit_cases w trigger with ⟨-, h⟩ | ⟨-, h⟩ <;> rw [h] <;> exact ⟨rfl, rfl, rfl⟩

/-- The end of a download posts an error or starts an extraction. -/
theorem markComplete_cases (hasError : Bool) :
    (∃ error, error ≠ "" ∧
        w.markComplete hasError = { w with downloadFinished := true }.postError error) ∨
      w.markComplete hasError = { w with
        downloadFinished := true
        unzipThreads := w.unzipThreads ++ [{ result := none }] } := by
  cases hasError with
  | true => exact Or.inl ⟨_, by decide, rfl⟩
  | false => exact Or.inr rfl

/-- The end of a write posts an error or announces a success of the thread started last. -/
theorem onDoneWriting_cases :
    (w.diskWriteThreads = [] ∧ w.onDoneWriting = { w with halted := some .undefined }) ∨
      (∃ error, error ≠ "" ∧ w.onDoneWriting = w.writeFailed error) ∨
      (w.formatOnly = true ∧ w.onDoneWriting = { w with writeFinished := true }.note .formatted) ∨
      ∃ thread, w.diskWriteThreads.getLast? = some thread ∧ thread.state = .success ∧
        w.onDoneWriting = { w with writeFinished := true, makeAnotherLayout := true }.note
          (.usbCreated thread.call) := by
  rw [onDoneWriting]
  split
  · rename_i hlast
    exact Or.inl ⟨List.getLast?_eq_none_iff.mp hlast, rfl⟩
  · rename_i thread hlast
    right
    split
    · exact Or.inl ⟨_, by decide, rfl⟩
    · exact Or.inl ⟨_, by decide, rfl⟩
    · exact Or.inl ⟨_, by decide, rfl⟩
    · rename_i hstate
      split_ifs with hformat
      · exact Or.inr (Or.inl ⟨hformat, rfl⟩)
      · exact Or.inr (Or.inr ⟨thread, hlast, hstate, rfl⟩)

end Slots

/-! ### What an event can do -/

/-- A change of what only the admin page, the login page, the site page and the image page read.
A finished login stays finished, and the URL of the newest image is set by the reply only. -/
def Minor (w w₁ : Wizard) : Prop :=
  ∃ fetching sixtyFourUrl loginStarted loginFinished meepoStarted sites sitesEntries currentItem
      checkedButton,
    w₁ = { w with
      fetching := fetching
      sixtyFourUrl := sixtyFourUrl
      loginStarted := loginStarted
      loginFinished := loginFinished
      meepoStarted := meepoStarted
      sites := sites
      sitesEntries := sitesEntries
      currentItem := currentItem
      checkedButton := checkedButton } ∧
    (w.loginFinished = true → loginFinished = true) ∧
    (fetching = true → w.fetching = true ∧ sixtyFourUrl = w.sixtyFourUrl) ∧
    (w.currentId = .adminCheck → meepoStarted = w.meepoStarted)

theorem Minor.refl (w : Wizard) : Minor w w :=
  ⟨_, _, _, _, _, _, _, _, _, rfl, id, fun h => ⟨h, rfl⟩, fun _ => rfl⟩

/-- The reply to the fetch arrives. -/
theorem Minor.fetched (w : Wizard) (url : Option Url) :
    Minor w { w with fetching := false, sixtyFourUrl := url } :=
  ⟨_, _, _, _, _, _, _, _, _, rfl, id, by simp, fun _ => rfl⟩

/-- The login finishes. -/
theorem Minor.loggedIn (w : Wizard) (sites : List GondarSite) :
    Minor w { w with sites := sites, loginFinished := true } :=
  ⟨_, _, _, _, _, _, _, _, _, rfl, by simp, fun hf => ⟨hf, rfl⟩, fun _ => rfl⟩

/-- The state after an event, by the kinds of events. -/
inductive Effect (env : Environment) (w : Wizard) : Event → Wizard → Prop
  | minor {e w₁} (h : Minor w w₁) : Effect env w e w₁
  | newestImageError (h : w.fetching = true) :
      Effect env w (.newestImageReply none)
        (handleNewestImageReply { w with fetching := false } none)
  | noSites (h : w.meepoStarted = true) :
      Effect env w (.meepoFailed noSitesError)
        (postError { w with loginFinished := true } noSitesError)
  | clickNext : Effect env w .clickNext (next env .nextButton w)
  | meepoFinished {sites} :
      Effect env w (.meepoFinished sites) (handleMeepoFinished env w sites)
  | formatLink (hpage : w.currentId = .adminCheck) :
      Effect env w .clickFormatLink (handleFormatOnly env w)
  | driveTimer :
      Effect env w .driveTimer (getDriveList env { w with driveTimers := w.driveTimers - 1 })
  | clickDevice {i picker device} (hpage : w.currentId = .deviceSelect)
      (h : w.picker.click i = some (picker, device)) :
      Effect env w (.clickDevice i) { w with picker := picker, log := .clicked device :: w.log }
  | clickLeftover {i device} : Effect env w (.clickLeftover i) (w.note (.clickedLeftover device))
  | downloadFinished {hasError} (h : w.downloading = true) :
      Effect env w (.downloadFinished hasError)
        ((markComplete hasError)^[w.connections] { w with downloading := false })
  | unzipReturns {i result thread} (h : w.unzipThreads[i]? = some thread)
      (hres : thread.result = none) :
      Effect env w (.unzipReturns i result) (w.unzipReturns i result)
  | unzipFinished {i thread} (h : w.unzipThreads[i]? = some thread) (hres : thread.result ≠ none) :
      Effect env w (.unzipFinished i) (onUnzipFinished env { w with
        unzipThreads := w.unzipThreads.modify i fun thread => { thread with notified := true } })
  | diskWriteReturns {i hasFile ok thread} (h : w.diskWriteThreads[i]? = some thread)
      (hcall : thread.call = none) :
      Effect env w (.diskWriteReturns i hasFile ok) (w.diskWriteReturns i hasFile ok)
  | doneWriting {i thread} (h : w.diskWriteThreads[i]? = some thread) (hcall : thread.call ≠ none)
      (hnot : thread.notified = false) :
      Effect env w (.doneWriting i) (onDoneWriting { w with
        diskWriteThreads := w.diskWriteThreads.modify i fun thread =>
          { thread with notified := true } })
  | catchError {error rest} (h : w.posted = error :: rest) :
      Effect env w .catchError (catchError env { w with posted := rest } error)
  | makeAnother (h : w.makeAnotherLayout = true) : Effect env w .makeAnother (makeAnother env w)

/-- **What an event does.** -/
theorem effect_of_step {env : Environment} {w w' : Wizard} {e : Event}
    (h : step env w e = some w') : w.halted = none ∧ Effect env w e w' := by
  rw [step] at h
  split_ifs at h with hhalt
  refine ⟨hhalt, ?_⟩
  cases e <;> simp only [handle, Option.ite_none_right_eq_some, Option.some.injEq] at h
  case clickNext =>
    obtain ⟨-, rfl⟩ := h
    exact .clickNext
  case clickFormatLink =>
    obtain ⟨⟨hpage, -⟩, rfl⟩ := h
    exact .formatLink hpage
  case newestImageReply url =>
    obtain ⟨hfetch, rfl⟩ := h
    cases url with
    | none => exact .newestImageError hfetch
    | some url => exact .minor (.fetched w (some url))
  case googleSignin =>
    obtain ⟨hpage, rfl⟩ := h
    rw [handleGoogleSigninFinished]
    split_ifs
    · exact .minor (Minor.refl w)
    · exact .minor ⟨_, _, _, _, _, _, _, _, _, rfl, id, fun h => ⟨h, rfl⟩, by simp [hpage]⟩
  case meepoFinished sites =>
    obtain ⟨-, rfl⟩ := h
    exact .meepoFinished
  case meepoFailed error =>
    obtain ⟨hmeepo, rfl⟩ := h
    rw [handleMeepoFailed]
    split_ifs with herror
    · subst herror
      exact .noSites hmeepo
    · exact .minor ⟨_, _, _, _, _, _, _, _, _, rfl, id, fun h => ⟨h, rfl⟩, fun _ => rfl⟩
  case selectSite | findSites | selectImage =>
    obtain ⟨-, rfl⟩ := h
    exact .minor ⟨_, _, _, _, _, _, _, _, _, rfl, id, fun h => ⟨h, rfl⟩, fun _ => rfl⟩
  case driveTimer =>
    obtain ⟨-, rfl⟩ := h
    exact .driveTimer
  case clickDevice i =>
    obtain ⟨hpage, hclick⟩ := h
    obtain ⟨⟨picker, device⟩, hc, rfl⟩ := Option.map_eq_some_iff.mp hclick
    exact .clickDevice hpage hc
  case clickLeftover i =>
    obtain ⟨-, hclick⟩ := h
    obtain ⟨device, -, rfl⟩ := Option.map_eq_some_iff.mp hclick
    exact .clickLeftover
  case downloadFinished hasError =>
    obtain ⟨hdown, rfl⟩ := h
    exact .downloadFinished hdown
  case unzipReturns i result =>
    obtain ⟨⟨thread, hthread, hres⟩, rfl⟩ := h
    exact .unzipReturns hthread hres
  case unzipFinished i =>
    obtain ⟨⟨thread, hthread, hres, -⟩, rfl⟩ := h
    exact .unzipFinished hthread hres
  case diskWriteReturns i hasFile ok =>
    obtain ⟨⟨thread, hthread, hcall⟩, rfl⟩ := h
    exact .diskWriteReturns hthread hcall
  case doneWriting i =>
    obtain ⟨⟨thread, hthread, hcall, hnot⟩, rfl⟩ := h
    exact .doneWriting hthread hcall hnot
  case catchError =>
    split at h
    · cases h
    · rename_i error rest hposted
      obtain rfl := Option.some.inj h
      exact .catchError hposted
  case makeAnother =>
    obtain ⟨hlayout, rfl⟩ := h
    exact .makeAnother hlayout

/-! ### A machine with one stick -/

/-- A stick of eight gigabytes. -/
def stick : DeviceGuy := ⟨1, "stick", 8589934592⟩

/-- A machine with one stick, on either build. -/
def withStick (isChromeover : Bool) : Environment where
  isChromeover := isChromeover
  isElevated := true
  getDeviceList _ := [stick]
  toLower := id

/-- The reply with the URL of the newest image. -/
def urlArrives : Event := .newestImageReply (some ⟨"https://host", ["image.zip"]⟩)

end UsbMaker.Wizard
