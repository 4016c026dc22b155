import UsbMaker.Run.History
import UsbMaker.Wizard.Navigation

/-!
# Who asked for a format

The link on the admin page sets `formatOnly` and then calls `next`. On a build that has to wait for
the URL of the newest image, `AdminCheckPage::validatePage` rejects until the URL has arrived; the
flag stays set, and an ordinary click on Next later leads to a format. This file proves that this is
the only way: as long as the link is clicked only when `validatePage` accepts, a `DiskWriteThread`
is made in format mode only if the admin page was left through the link.

## Main definitions

* `Wizard.adminExit`: what made the wizard leave the admin page.
* `Wizard.LinkAccepted`: the condition on a step.

## Main results

* `Wizard.format_mode_from_link`.
-/

namespace UsbMaker.Wizard

/-- What made the wizard leave the admin page. -/
def adminExit : List Note → Option Trigger
  | [] => none
  | .leftAdmin trigger :: _ => some trigger
  | _ :: log => adminExit log

/-- A thread in format mode is started after the format link has led off the admin page. -/
def FromLink : Note → List Note → Prop
  | .started thread, before => thread.formatMode = true → adminExit before = some .formatLink
  | _, _ => True

/-- The condition on a step: the format link is clicked only when the admin page accepts. -/
def LinkAccepted (env : Environment) (w : Wizard) (e : Event) : Prop :=
  e = .clickFormatLink → accepts env w = true

instance (env : Environment) (w : Wizard) (e : Event) : Decidable (LinkAccepted env w e) :=
  inferInstanceAs (Decidable (_ → _))

variable {env : Environment} {w w' : Wizard}

/-- The invariant of the format flag. -/
structure FormatLinked (w : Wizard) : Prop where
  history : Recorded FromLink w.log
  mode : w.formatOnly = true → w.currentId ≠ .adminCheck ∧ adminExit w.log = some .formatLink

theorem FormatLinked.minor (h : FormatLinked w) (hw : Minor w w') : FormatLinked w' := by
  obtain ⟨_, _, _, _, _, _, _, _, _, rfl, -, -, -⟩ := hw
  exact { h with }

theorem FormatLinked.postError (h : FormatLinked w) (error : String) :
    FormatLinked (w.postError error) :=
  ⟨⟨trivial, h.history⟩, h.mode⟩

/-- Every page but the admin page is entered with the flag set only if the link led to it. -/
theorem formatLinked_switchToPage {page : PageId} (hhistory : Recorded FromLink w.log)
    (hmode : w.formatOnly = true → adminExit w.log = some .formatLink)
    (hpage : page ≠ .adminCheck) : FormatLinked (switchToPage env page w) := by
  have hmove : FormatLinked { w with currentId := page } :=
    ⟨hhistory, fun hf => ⟨hpage, hmode hf⟩⟩
  cases page with
  | adminCheck => exact absurd rfl hpage
  | usbInsert => exact ⟨⟨trivial, hhistory⟩, hmove.mode⟩
  | deviceSelect => exact ⟨⟨trivial, hhistory⟩, hmove.mode⟩
  | downloadProgress =>
    rcases w.switchToPage_downloadProgress env with h | h
    · rw [h]
      exact { hmove with }
    · rw [h]
      exact { hmove with }
  | writeOperation =>
    rw [switchToPage_writeOperation]
    rcases writeToDrive_cases { w with currentId := .writeOperation, writeFinished := false } with
      ⟨-, h⟩ | ⟨path, -, h⟩
    · rw [h]
      exact { hmove with }
    · rw [h]
      exact ⟨⟨hmode, hhistory⟩, hmove.mode⟩
  | chromeoverLogin => exact hmove
  | siteSelect => exact { hmove with }
  | imageSelect => exact hmove
  | error => exact hmove

theorem following_ne_adminCheck {page : PageId} (h : following env w = some page) :
    page ≠ .adminCheck := by
  rintro rfl
  rcases following_spec h with ⟨-, hfrom⟩ | ⟨-, -, heq⟩
  · exact hfrom
  · cases heq

theorem FormatLinked.next (h : FormatLinked w) (trigger : Trigger) :
    FormatLinked (Wizard.next env trigger w) := by
  obtain ⟨w₁, ⟨_, _, _, _, rfl, -, -, -⟩, ⟨-, hstay⟩ | ⟨page, -, hfollow, hmove⟩⟩ :=
    next_cases env trigger w
  · rw [hstay]
    exact { h with }
  · rw [hmove]
    have hpage := following_ne_adminCheck hfollow
    rcases noteExit_cases _ trigger with ⟨-, hexit⟩ | ⟨hadmin, hexit⟩
    · rw [hexit]
      exact formatLinked_switchToPage h.history (fun hf => (h.mode hf).2) hpage
    · -- on the admin page the flag is not set
      rw [hexit]
      exact formatLinked_switchToPage ⟨trivial, h.history⟩
        (fun hf => absurd hadmin (h.mode hf).1) hpage

/-- On the admin page there is always a page to follow. -/
theorem following_adminCheck (hpage : w.currentId = .adminCheck) : following env w ≠ none := by
  simp only [following, nextId, pageNextId, hpage, reduceCtorEq, ↓reduceIte]
  split_ifs <;> simp

/-- The format link, when the admin page accepts, leads off that page. -/
theorem FormatLinked.handleFormatOnly (h : FormatLinked w) (hpage : w.currentId = .adminCheck)
    (hacc : accepts env w = true) : FormatLinked (Wizard.handleFormatOnly env w) := by
  have hacc' : accepts env { w with formatOnly := true } = true := by
    simpa [accepts, validatePage, hpage, newestIsReady] using hacc
  rw [Wizard.handleFormatOnly]
  obtain ⟨w₁, ⟨_, _, _, _, rfl, -, -, -⟩, ⟨hreject | hnone, -⟩ | ⟨page, -, hfollow, hmove⟩⟩ :=
    next_cases env .formatLink { w with formatOnly := true }
  · rw [hacc'] at hreject
    cases hreject
  · exact absurd hnone (following_adminCheck hpage)
  · rw [hmove, noteExit, if_pos hpage]
    exact formatLinked_switchToPage ⟨trivial, h.history⟩ (fun _ => rfl)
      (following_ne_adminCheck hfollow)

theorem FormatLinked.iterate_markComplete (h : FormatLinked w) (hasError : Bool) (n : Nat) :
    FormatLinked ((markComplete hasError)^[n] w) := by
  induction n generalizing w with
  | zero => exact h
  | succ n ih =>
    refine ih ?_
    rcases w.markComplete_cases hasError with ⟨error, -, hw⟩ | hw
    · rw [hw]
      exact ⟨⟨trivial, h.history⟩, h.mode⟩
    · rw [hw]
      exact { h with }

theorem FormatLinked.onDoneWriting (h : FormatLinked w) : FormatLinked w.onDoneWriting := by
  rcases w.onDoneWriting_cases with ⟨-, hw⟩ | ⟨error, -, hw⟩ | ⟨-, hw⟩ | ⟨thread, -, -, hw⟩
  · rw [hw]
    exact { h with }
  · rw [hw]
    exact { h.postError error with }
  · rw [hw]
    exact ⟨⟨trivial, h.history⟩, h.mode⟩
  · rw [hw]
    exact ⟨⟨trivial, h.history⟩, h.mode⟩

theorem FormatLinked.step (h : FormatLinked w) {e : Event} (hC : LinkAccepted env w e)
    (hs : Wizard.step env w e = some w') : FormatLinked w' := by
  obtain ⟨-, heffect⟩ := effect_of_step hs
  cases heffect with
  | minor hw => exact h.minor hw
  | newestImageError => exact ⟨⟨trivial, h.history⟩, h.mode⟩
  | noSites => exact ⟨⟨trivial, h.history⟩, h.mode⟩
  | clickNext => exact h.next _
  | @meepoFinished sites =>
    have hlogin : FormatLinked { w with sites := sites, loginFinished := true } := { h with }
    exact hlogin.next _
  | formatLink hpage => exact h.handleFormatOnly hpage (hC rfl)
  | driveTimer => exact ⟨⟨trivial, h.history⟩, h.mode⟩
  | clickDevice | clickLeftover => exact ⟨⟨trivial, h.history⟩, h.mode⟩
  | downloadFinished =>
    have hdone : FormatLinked { w with downloading := false } := { h with }
    exact hdone.iterate_markComplete _ _
  | unzipReturns => exact { h with }
  | @unzipFinished i =>
    have hnotified : FormatLinked { w with
        unzipThreads := w.unzipThreads.modify i fun thread => { thread with notified := true } } :=
      { h with }
    exact hnotified.next _
  | diskWriteReturns => exact { h with }
  | @doneWriting i =>
    have hnotified : FormatLinked { w with
        diskWriteThreads := w.diskWriteThreads.modify i fun thread =>
          { thread with notified := true } } :=
      { h with }
    exact hnotified.onDoneWriting
  | @catchError error rest =>
    have hcaught : FormatLinked { w with posted := rest, errorString := error } := { h with }
    have hnext : FormatLinked (Wizard.next env .catchError _) := hcaught.next _
    exact ⟨⟨trivial, hnext.history⟩, hnext.mode⟩
  | makeAnother =>
    exact formatLinked_switchToPage h.history (fun hf => (h.mode hf).2) (by simp)

/-- **Only the link leads to a format.** In every run in which the format link is clicked only
when `AdminCheckPage::validatePage` accepts, `formatOnly` is set only if the admin page was left
through the link, and so was it before every `DiskWriteThread` started in format mode. -/
theorem format_mode_from_link (env : Environment) (es : List Event) (w : Wizard)
    (h : (machine env).RunWhere (LinkAccepted env) es w) :
    (w.formatOnly = true → adminExit w.log = some .formatLink) ∧
      ∀ after before thread, w.log = after ++ .started thread :: before →
        thread.formatMode = true → adminExit before = some .formatLink := by
  have hlinked : FormatLinked w := by
    refine h.invariant ?_ fun _ _ _ hI hC hs => hI.step hC hs
    rintro w rfl
    exact ⟨trivial, by simp [initializePage]⟩
  refine ⟨fun hf => (hlinked.mode hf).2, fun after before thread hlog => ?_⟩
  exact recorded_iff.mp hlinked.history after (.started thread) before hlog

theorem format_mode_from_link_accepted :
    ∃ w thread before, (machine (withStick false)).RunWhere (LinkAccepted (withStick false))
        [urlArrives, .clickFormatLink, .clickNext, .clickDevice 0, .clickNext] w ∧
      w.log = [] ++ .started thread :: before ∧ thread.formatMode = true ∧
      adminExit before = some .formatLink := by
  have hlog : ((machine (withStick false)).execWhere (LinkAccepted (withStick false))
      (initializePage (withStick false) {})
      [urlArrives, .clickFormatLink, .clickNext, .clickDevice 0, .clickNext]).map log = some
      [.started ⟨stick, "", true, none, false⟩, .clicked stick, .refreshed [stick],
        .listed [stick], .leftAdmin .formatLink] := by
    decide
  obtain ⟨w, hexec, hlog⟩ := Option.map_eq_some_iff.mp hlog
  have hrun : (machine (withStick false)).RunWhere (LinkAccepted (withStick false)) _ w :=
    .of_execWhere rfl hexec
  exact ⟨w, _, _, hrun, hlog, rfl,
    (format_mode_from_link (withStick false) _ w hrun).2 [] _ _ hlog rfl⟩

/-- The link is clicked before the URL has arrived. `validatePage` rejects, and the flag stays. When
the URL has arrived the user clicks Next, and the device chosen is formatted. -/
theorem format_after_rejected_link :
    ∃ w thread before, (machine (withStick false)).Run
        [.clickFormatLink, urlArrives, .clickNext, .clickNext, .clickDevice 0, .clickNext] w ∧
      w.log = [] ++ .started thread :: before ∧ thread.formatMode = true ∧
      adminExit before = some .nextButton ∧
      accepts (withStick false) (initializePage (withStick false) {}) = false ∧
      (handleFormatOnly (withStick false)
        (initializePage (withStick false) {})).formatOnly = true := by
  have hlog : ((machine (withStick false)).exec (initializePage (withStick false) {})
      [.clickFormatLink, urlArrives, .clickNext, .clickNext, .clickDevice 0, .clickNext]).map log =
      some [.started ⟨stick, "", true, none, false⟩, .clicked stick, .refreshed [stick],
        .listed [stick], .leftAdmin .nextButton] := by
    decide
  obtain ⟨w, hexec, hlog⟩ := Option.map_eq_some_iff.mp hlog
  exact ⟨w, _, _, .of_exec rfl hexec, hlog, rfl, rfl, by decide, by decide⟩

end UsbMaker.Wizard
