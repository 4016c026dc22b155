import UsbMaker.Run.Machine
import UsbMaker.Wizard.Messages
import UsbMaker.Wizard.Navigation

/-!
# The site id of the messages

`Meepo::site_id` is set when the user has chosen a site: by `validatePage` of the site page, and by
`nextId` of the login page when the account has one site only. The metrics and the feedback carry
it. It is not initialised, and `clear`, with which a login attempt starts, leaves it as it is.

So a message says which site has been chosen in the current login attempt, in all states of a run,
if and only if the memory of the member happens to be zero and no login attempt is started after a
site with another id has been chosen. A login attempt can be started then: the reply with an id
token may come when another login has finished, and `started` is false again after a metric could
not be delivered.

The answer of the browser and the reply with the id token are events of their own here. What a
handler sends is sent in the state before it or after it.

## Main definitions

* `Wizard.nextSets`, `Wizard.nextStarts`: what `QWizard::next` does with `Meepo`.
* `Program`, `Program.machine`: the wizard with the site id, and the choice of the user.
* `Program.CarriesChosen`: the messages carry the site that has been chosen.

## Main results

* `Program.carriesChosen_iff`.
-/

namespace UsbMaker

namespace Wizard

/-- The argument of `setSiteId` in `validatePage` of the current page. -/
def validatePageSets (w : Wizard) : Option Int :=
  match w.currentId with
  | .siteSelect => w.selectedSite.map GondarSite.siteId
  | _ => none

/-- The argument of `setSiteId` in `GondarWizard::nextId`. -/
def nextIdSets (w : Wizard) : Option Int :=
  if w.errorString = "" then
    match w.currentId, w.sites with
    | .chromeoverLogin, [site] => some site.siteId
    | _, _ => none
  else none

/-- The argument of the last call of `setSiteId` in `QWizard::next`. -/
def nextSets (env : Environment) (w : Wizard) : Option Int :=
  match w.validatePage env with
  | (false, _) => none
  | (true, w₁) => w₁.nextIdSets <|> w.validatePageSets

/-- Whether `validatePage` of the current page starts a login attempt. -/
def nextStarts (w : Wizard) : Bool :=
  w.currentId = .chromeoverLogin ∧ w.loginFinished = false ∧ w.loginStarted = false

/-- The wizard when an event calls `QWizard::next`. -/
def atNext (w : Wizard) : Event → Option Wizard
  | .clickNext => some w
  | .clickFormatLink => some { w with formatOnly := true }
  | .meepoFinished sites => some { w with sites := sites, loginFinished := true }
  | .unzipFinished i => some { w with
      unzipThreads := w.unzipThreads.modify i fun thread => { thread with notified := true } }
  | .catchError =>
    match w.posted with
    | [] => none
    | error :: rest => some { w with posted := rest, errorString := error }
  | _ => none

end Wizard

/-- The wizard with what concerns the choice of a site. -/
structure Program where
  wizard : Wizard
  /-- `Meepo::site_id`. -/
  siteId : Int
  /-- How many replies with an id token are outstanding. -/
  tokenRequests : Nat := 0
  /-- The site that has been chosen since the last login attempt was started. It has no counterpart
  in the source. -/
  chosen : Option Int := none

namespace Program

/-- The state after an event of the wizard, with the wizard when the event calls `next`. -/
def afterNext (env : Environment) (s : Program) (wizard : Wizard) : Option Wizard → Program
  | none => { s with wizard := wizard }
  | some w => { s with
      wizard := wizard
      siteId := (w.nextSets env).getD s.siteId
      chosen := if w.nextStarts then none else w.nextSets env <|> s.chosen }

/-- What can happen. -/
inductive Event
  | wizard (e : Wizard.Event)
  /-- The browser comes back to the local server, which asks for an id token. -/
  | requestToken
  /-- The reply with the id token. -/
  | tokenReply
  deriving DecidableEq, Repr

/-- The state after an event. -/
def step (env : Environment) (s : Program) : Event → Option Program
  | .wizard .googleSignin => none
  | .wizard e =>
    (Wizard.step env s.wizard e).map fun wizard => s.afterNext env wizard (s.wizard.atNext e)
  | .requestToken =>
    if s.wizard.halted = none ∧ s.wizard.currentId = .chromeoverLogin then
      some { s with tokenRequests := s.tokenRequests + 1 }
    else none
  | .tokenReply =>
    if s.wizard.halted = none ∧ 0 < s.tokenRequests then
      some { s with
        wizard := s.wizard.handleGoogleSigninFinished
        tokenRequests := s.tokenRequests - 1
        chosen := if s.wizard.loginStarted then s.chosen else none }
    else none

/-- The program from its start, with what is in the memory of `site_id`. -/
def machine (env : Environment) (siteId : Int) : Machine Program Event where
  init s := s = { wizard := Wizard.initializePage env {}, siteId := siteId }
  step := step env

/-- Whether an event starts a login attempt. -/
def starts (s : Program) : Event → Bool
  | .wizard e => (s.wizard.atNext e).any Wizard.nextStarts
  | .requestToken => false
  | .tokenReply => !s.wizard.loginStarted

/-- No login attempt is started while there is a site id. -/
def StartsUnset (s : Program) (e : Event) : Prop := s.starts e = true → s.siteId = 0

instance (s : Program) (e : Event) : Decidable (StartsUnset s e) :=
  inferInstanceAs (Decidable (_ → _))

/-- Every message that can be built carries the site that has been chosen in the current login
attempt, and zero or no site if none has been. -/
def CarriesChosen (env : Environment) (build : Build) (s : Program) : Prop :=
  ∀ json, Message env build s.siteId json → (carriedSite json).getD 0 = s.chosen.getD 0

end Program

/-! ### The pages of a build without a login -/

namespace Wizard

variable {env : Environment} {w w' : Wizard}

/-- These events call `next`, and `catchError` then writes a history entry. -/
theorem handle_eq_next {e : Event} {v : Wizard} (hv : w.atNext e = some v)
    (h : w.handle env e = some w') :
    ∃ trigger, w' = next env trigger v ∨
      w' = (next env trigger v).note (.caught (next env trigger v).currentId) := by
  cases e <;> simp only [atNext, reduceCtorEq, Option.some.injEq] at hv
  case clickNext =>
    subst hv
    simp only [handle, Option.ite_none_right_eq_some, Option.some.injEq] at h
    exact ⟨_, Or.inl h.2.symm⟩
  case clickFormatLink =>
    subst hv
    simp only [handle, Option.ite_none_right_eq_some, Option.some.injEq] at h
    exact ⟨_, Or.inl h.2.symm⟩
  case meepoFinished sites =>
    subst hv
    simp only [handle, Option.ite_none_right_eq_some, Option.some.injEq] at h
    exact ⟨_, Or.inl h.2.symm⟩
  case unzipFinished i =>
    subst hv
    simp only [handle, Option.ite_none_right_eq_some, Option.some.injEq] at h
    exact ⟨_, Or.inl h.2.symm⟩
  case catchError =>
    rw [handle] at h
    split at hv <;> rename_i hposted
    · cases hv
    · rw [hposted, Option.some.injEq] at h
      rw [Option.some.injEq] at hv
      subst hv
      exact ⟨_, Or.inr h.symm⟩

theorem currentId_of_atNext {e : Event} {v : Wizard} (hv : w.atNext e = some v) :
    v.currentId = w.currentId := by
  cases e <;> simp only [atNext, reduceCtorEq, Option.some.injEq] at hv
  case clickNext | clickFormatLink | meepoFinished | unzipFinished =>
    subst hv
    rfl
  case catchError =>
    split at hv
    · cases hv
    · rw [Option.some.injEq] at hv
      subst hv
      rfl

/-- Neither the login page nor the site page is shown. -/
def NoLogin (w : Wizard) : Prop := w.currentId ≠ .chromeoverLogin ∧ w.currentId ≠ .siteSelect

theorem NoLogin.congr (h : NoLogin w) (hpage : w'.currentId = w.currentId) : NoLogin w' := by
  rw [NoLogin, hpage]
  exact h

/-- Without the login page nothing leads to the site page. -/
theorem NoLogin.following (h : NoLogin w) (hbuild : env.isChromeover = false) {page : PageId}
    (hfollow : following env w = some page) : page ≠ .chromeoverLogin ∧ page ≠ .siteSelect := by
  rw [Wizard.following, nextId] at hfollow
  split_ifs at hfollow
  · rw [pageNextId] at hfollow
    split at hfollow <;> rename_i hpage
    case h_1 =>
      rw [if_neg (Bool.eq_false_iff.1 hbuild), ite_self] at hfollow
      cases hfollow
      decide
    case h_2 => exact absurd hpage h.1
    case h_6 => split_ifs at hfollow <;> cases hfollow <;> decide
    all_goals cases hfollow <;> decide
  · cases hfollow
    decide

theorem NoLogin.next (h : NoLogin w) (hbuild : env.isChromeover = false) (trigger : Trigger) :
    NoLogin (Wizard.next env trigger w) := by
  obtain ⟨w₁, ⟨_, _, _, _, rfl, -⟩, hcases⟩ := next_cases env trigger w
  rcases hcases with ⟨-, hnext⟩ | ⟨page, -, hfollow, hnext⟩
  · rw [hnext]
    exact h
  · rw [hnext, NoLogin, (switchToPage_frame _ env page).2.2]
    exact h.following hbuild hfollow

theorem NoLogin.catchError (h : NoLogin w) (hbuild : env.isChromeover = false) (error : String) :
    NoLogin (Wizard.catchError env w error) := by
  have hnext : NoLogin (Wizard.next env .catchError { w with errorString := error }) :=
    NoLogin.next (h.congr (by rfl)) hbuild _
  exact hnext

theorem NoLogin.iterate_markComplete (h : NoLogin w) (hasError : Bool) (n : Nat) :
    NoLogin ((markComplete hasError)^[n] w) := by
  induction n generalizing w with
  | zero => exact h
  | succ n ih =>
    rw [Function.iterate_succ_apply]
    rcases w.markComplete_cases hasError with ⟨error, -, hw⟩ | hw
    · rw [hw]
      exact ih h
    · rw [hw]
      exact ih h

theorem NoLogin.onDoneWriting (h : NoLogin w) : NoLogin w.onDoneWriting := by
  rcases w.onDoneWriting_cases with ⟨-, hw⟩ | ⟨error, -, hw⟩ | ⟨-, hw⟩ | ⟨thread, -, -, hw⟩
  · rw [hw]
    exact h
  · rw [hw]
    exact h
  · rw [hw]
    exact h
  · rw [hw]
    exact h

/-- A build without a login never shows these pages. -/
theorem NoLogin.step (h : NoLogin w) (hbuild : env.isChromeover = false) {e : Event}
    (hstep : Wizard.step env w e = some w') : NoLogin w' := by
  obtain ⟨-, heffect⟩ := effect_of_step hstep
  cases heffect with
  | minor hminor =>
    obtain ⟨_, _, _, _, _, _, _, _, _, rfl, -⟩ := hminor
    exact h
  | clickNext => exact h.next hbuild _
  | meepoFinished => exact NoLogin.next (h.congr (by rfl)) hbuild _
  | formatLink _ => exact NoLogin.next (h.congr (by rfl)) hbuild _
  | downloadFinished _ => exact NoLogin.iterate_markComplete (h.congr (by rfl)) _ _
  | unzipFinished _ _ => exact NoLogin.next (h.congr (by rfl)) hbuild _
  | doneWriting _ _ _ => exact NoLogin.onDoneWriting (h.congr (by rfl))
  | catchError _ => exact NoLogin.catchError (h.congr (by rfl)) hbuild _
  | makeAnother _ =>
    rw [makeAnother, NoLogin, (switchToPage_frame _ env .usbInsert).2.2]
    decide
  | _ => exact h

/-- On other pages than these no site is chosen. -/
theorem NoLogin.nextSets (h : NoLogin w) : w.nextSets env = none := by
  have hvalidate : w.validatePageSets = none := by
    rw [validatePageSets]
    split
    · rename_i hpage
      exact absurd hpage h.2
    · rfl
  rw [Wizard.nextSets]
  split <;> rename_i w₁ hvalid
  · rfl
  · obtain ⟨_, _, _, _, hw₁, -⟩ := prepared_validatePage env w
    rw [hvalid] at hw₁
    have hpage : w₁.currentId = w.currentId := by rw [show w₁ = _ from hw₁]
    have hnextId : w₁.nextIdSets = none := by
      rw [nextIdSets, hpage]
      split_ifs
      · split
        · rename_i hlogin _
          exact absurd hlogin h.1
        · rfl
      · rfl
    rw [hnextId, hvalidate]
    rfl

/-- When `validatePage` starts a login attempt, the user stays on the login page. -/
theorem nextSets_of_nextStarts (h : w.nextStarts = true) : w.nextSets env = none := by
  obtain ⟨hpage, hfinished, -⟩ := of_decide_eq_true h
  have hvalid : w.validatePage env =
      (false, { w with loginStarted := true, meepoStarted := true }) := by
    rw [validatePage, hpage]
    exact if_neg (Bool.eq_false_iff.1 hfinished)
  rw [Wizard.nextSets, hvalid]

end Wizard

namespace Program

variable {env : Environment} {build : Build} {s s' : Program} {e : Event}

/-- A build without a login shows neither of its pages, and no site is chosen. -/
def Inv (env : Environment) (s : Program) : Prop :=
  env.isChromeover = false → s.wizard.NoLogin ∧ s.chosen = none

/-- The feedback always carries the site id. -/
theorem siteId_eq_of_carriesChosen (h : CarriesChosen env build s) :
    s.siteId = s.chosen.getD 0 := by
  have hfeedback := h _ (.feedback [])
  rwa [carriedSite_submit, Option.getD_some] at hfeedback

theorem carriesChosen_iff_siteId (h : Inv env s) :
    CarriesChosen env build s ↔ s.siteId = s.chosen.getD 0 := by
  refine ⟨siteId_eq_of_carriesChosen, fun hsite json hmessage => ?_⟩
  rcases carriedSite_eq_of_message hmessage with hcarried | ⟨hcarried, hzero | hbuild⟩
  · rw [hcarried, Option.getD_some, hsite]
  · rw [hcarried, Option.getD_none, ← hsite, hzero]
  · rw [hcarried, (h hbuild).2]

theorem step_wizard {e : Wizard.Event} (h : step env s (.wizard e) = some s') :
    ∃ wizard, Wizard.step env s.wizard e = some wizard ∧
      s' = s.afterNext env wizard (s.wizard.atNext e) := by
  cases e with
  | googleSignin => cases h
  | _ =>
    obtain ⟨wizard, hwizard, heq⟩ := Option.map_eq_some_iff.1 h
    exact ⟨wizard, hwizard, heq.symm⟩

theorem step_tokenReply (h : step env s .tokenReply = some s') :
    s' = { s with
      wizard := s.wizard.handleGoogleSigninFinished
      tokenRequests := s.tokenRequests - 1
      chosen := if s.wizard.loginStarted then s.chosen else none } := by
  rw [step, Option.ite_none_right_eq_some, Option.some.injEq] at h
  exact h.2.symm

theorem step_requestToken (h : step env s .requestToken = some s') :
    s' = { s with tokenRequests := s.tokenRequests + 1 } := by
  rw [step, Option.ite_none_right_eq_some, Option.some.injEq] at h
  exact h.2.symm

theorem inv_init (siteId : Int) :
    Inv env { wizard := Wizard.initializePage env {}, siteId := siteId } := by
  have hpage : (Wizard.initializePage env {}).currentId = .adminCheck := rfl
  refine fun _ => ⟨?_, rfl⟩
  rw [Wizard.NoLogin, hpage]
  decide

theorem inv_step (h : Inv env s) (hs : step env s e = some s') : Inv env s' := by
  intro hbuild
  obtain ⟨hpage, hchosen⟩ := h hbuild
  cases e with
  | wizard e =>
    obtain ⟨wizard, hwizard, rfl⟩ := step_wizard hs
    have hpage' := hpage.step hbuild hwizard
    cases hnext : s.wizard.atNext e with
    | none => exact ⟨hpage', hchosen⟩
    | some w =>
      refine ⟨hpage', ?_⟩
      rw [afterNext]
      dsimp only
      rw [(hpage.congr (Wizard.currentId_of_atNext hnext)).nextSets, hchosen]
      exact ite_self none
  | requestToken =>
    rw [step_requestToken hs]
    exact ⟨hpage, hchosen⟩
  | tokenReply =>
    rw [step_tokenReply hs]
    refine ⟨hpage.congr ?_, ?_⟩
    · rw [Wizard.handleGoogleSigninFinished]
      split_ifs
      · rfl
      · rfl
    · dsimp only
      rw [hchosen, ite_self]

/-- A step after which the messages carry the choice starts no login attempt while there is a site
id, and the other steps keep this. -/
theorem siteId_eq_iff (hsite : s.siteId = s.chosen.getD 0) (hs : step env s e = some s') :
    s'.siteId = s'.chosen.getD 0 ↔ StartsUnset s e := by
  cases e with
  | wizard e =>
    obtain ⟨wizard, -, rfl⟩ := step_wizard hs
    rw [StartsUnset, starts]
    cases hnext : s.wizard.atNext e with
    | none => exact ⟨fun _ hstarts => (by cases hstarts), fun _ => hsite⟩
    | some w =>
      rw [Option.any_some, afterNext]
      dsimp only
      cases hstarts : w.nextStarts with
      | true =>
        rw [w.nextSets_of_nextStarts hstarts]
        exact ⟨fun hzero _ => hzero, fun hunset => hunset rfl⟩
      | false =>
        refine ⟨fun _ htrue => (by cases htrue), fun _ => ?_⟩
        cases w.nextSets env with
        | none => exact hsite
        | some siteId => rfl
  | requestToken =>
    rw [step_requestToken hs]
    exact ⟨fun _ hstarts => (by cases hstarts), fun _ => hsite⟩
  | tokenReply =>
    rw [step_tokenReply hs, StartsUnset, starts]
    dsimp only
    cases s.wizard.loginStarted with
    | true => exact ⟨fun _ hstarts => (by cases hstarts), fun _ => hsite⟩
    | false => exact ⟨fun hzero _ => hzero, fun hunset => hunset rfl⟩

/-- **The condition under which the messages are right.** In every run of the program, every message
that can be built in any of its states carries the site that has been chosen in the current login
attempt, or zero or none if none has been, if and only if the member is zero at the start and no
login attempt is started while it is not. -/
theorem carriesChosen_iff (env : Environment) (build : Build) (siteId : Int) (es : List Event)
    (s : Program) (h : (machine env siteId).Run es s) :
    (∀ fs t, fs <+: es → (machine env siteId).Run fs t → CarriesChosen env build t) ↔
      siteId = 0 ∧ (machine env siteId).RunWhere StartsUnset es s := by
  have hinit (t : Program) (ht : (machine env siteId).init t) : Inv env t := by
    rw [show t = _ from ht]
    exact inv_init siteId
  rw [h.forall_prefix_iff (I := Inv env) (C := StartsUnset)
    (fun s t hs ht => Eq.trans hs (Eq.symm ht)) hinit (fun s e s' hI hs => inv_step hI hs)
    fun s e s' hI hP hs => ?_]
  · refine and_congr_left' ⟨fun hall => ?_, fun hzero t ht => ?_⟩
    · have hcarries := hall _ rfl
      rwa [carriesChosen_iff_siteId (inv_init siteId)] at hcarries
    · rw [show t = _ from ht, carriesChosen_iff_siteId (inv_init siteId)]
      exact hzero
  · rw [carriesChosen_iff_siteId (inv_step hI hs)]
    exact siteId_eq_iff ((carriesChosen_iff_siteId hI).1 hP) hs

/-- A build with a key for metrics. -/
def keyed : Build := ⟨"key", "id".toList⟩

/-- The user logs in with a password, on an account with one site. -/
def passwordLogin : List Event :=
  [.wizard .clickNext, .wizard .clickNext, .wizard (.meepoFinished [⟨7, "site", []⟩])]

theorem carriesChosen_iff_login :
    ∃ s, (machine (Wizard.withStick true) 0).Run passwordLogin s ∧ s.chosen = some 7 ∧
      ∀ fs t, fs <+: passwordLogin → (machine (Wizard.withStick true) 0).Run fs t →
        CarriesChosen (Wizard.withStick true) keyed t := by
  have hrun : (machine (Wizard.withStick true) 0).RunWhere StartsUnset passwordLogin _ :=
    .of_execWhere rfl rfl
  exact ⟨_, hrun.run, rfl,
    (carriesChosen_iff (Wizard.withStick true) keyed 0 _ _ hrun.run).mpr ⟨rfl, hrun⟩⟩

/-- While an id token is asked for the user logs in with a password. Then a metric is not delivered,
and the reply with the id token starts another login attempt. -/
def tokenAfterLogin : List Event :=
  [.wizard .clickNext, .requestToken, .wizard .clickNext,
    .wizard (.meepoFinished [⟨7, "site", []⟩]), .wizard (.meepoFailed "network error"), .tokenReply]

/-- The messages carry what is in the memory at the start of the program, and the site of the login
before. -/
theorem not_carriesChosen :
    (∃ s, (machine (Wizard.withStick true) 7).Run [] s ∧ s.chosen = none ∧
      ¬ CarriesChosen (Wizard.withStick true) keyed s) ∧
      ∃ s, (machine (Wizard.withStick true) 0).Run tokenAfterLogin s ∧ s.chosen = none ∧
        ¬ CarriesChosen (Wizard.withStick true) keyed s := by
  have hstart : (machine (Wizard.withStick true) 7).Run [] _ := .of_exec rfl rfl
  have hagain : (machine (Wizard.withStick true) 0).Run tokenAfterLogin _ := .of_exec rfl rfl
  refine ⟨⟨_, hstart, rfl, fun hcarries => ?_⟩, _, hagain, rfl, fun hcarries => ?_⟩
  · exact absurd (siteId_eq_of_carriesChosen hcarries) (by decide)
  · exact absurd (siteId_eq_of_carriesChosen hcarries) (by decide)

end Program

end UsbMaker
