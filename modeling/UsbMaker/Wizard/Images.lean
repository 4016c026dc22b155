import UsbMaker.Wizard.Navigation

/-!
# The buttons of the image page

On an account with one site, `ChromeoverLoginPage::nextId` adds the images of the site to the image
page before it names that page. `nextId` is a const member that `QWizard` may call any number of
times. This file counts the buttons after `k` calls: the image page has each image `k` times, so
the calls after the first are without effect if and only if the site has no images to list
(`imagesListedOnce_iff`).

## Main definitions

* `Wizard.listedImages`, `Wizard.callNextId`, `Wizard.ImagesListedOnce`.

## Main results

* `Wizard.unlisted_of_run`: the image page has no buttons until the login page is left.
* `Wizard.bitnessButtons_callNextId`: the buttons after `k` calls.
* `Wizard.imagesListedOnce_iff`.
-/

namespace UsbMaker.Wizard

variable {env : Environment} {w w' : Wizard}

/-- The URLs of the images that the image page lists for a site. -/
def listedImages (site : GondarSite) : List Url :=
  (site.imageList.filter fun image => !image.isDeployable).map GondarImage.url

/-- The wizard after a number of calls of `nextId` of the current page. -/
def callNextId (env : Environment) (calls : Nat) (w : Wizard) : Wizard :=
  (fun w => (w.pageNextId env).2)^[calls] w

/-- The wizard in `handleMeepoFinished`, before it calls `next`. -/
def loggedIn (w : Wizard) (sites : List GondarSite) : Wizard :=
  { w with sites := sites, loginFinished := true }

/-- After the calls, the image page has one button for each image of the site that it lists, and
the wizard is in the state that the first call has left. -/
def ImagesListedOnce (env : Environment) (w : Wizard) (site : GondarSite) (calls : Nat) : Prop :=
  (callNextId env calls (w.loggedIn [site])).bitnessButtons = listedImages site ∧
    callNextId env calls (w.loggedIn [site]) = callNextId env 1 (w.loggedIn [site])

/-! ### Before the login page is left -/

/-- The image page has no buttons while the admin page or the login page is shown. -/
def Unlisted (w : Wizard) : Prop :=
  w.currentId = .adminCheck ∨ w.currentId = .chromeoverLogin → w.bitnessButtons = []

theorem unlisted_of_page (hadmin : w.currentId ≠ .adminCheck)
    (hlogin : w.currentId ≠ .chromeoverLogin) : Unlisted w := fun h =>
  (h.elim hadmin hlogin).elim

theorem switchToPage_bitnessButtons (page : PageId) :
    (switchToPage env page w).bitnessButtons = w.bitnessButtons := by
  cases page with
  | downloadProgress =>
    rcases w.switchToPage_downloadProgress env with h | h
    · rw [h]
    · rw [h]
  | writeOperation =>
    rw [switchToPage_writeOperation]
    rcases writeToDrive_cases { w with currentId := .writeOperation, writeFinished := false } with
      ⟨-, h⟩ | ⟨path, -, h⟩
    · rw [h]
    · rw [h, startThread]
  | _ => rfl

theorem noteExit_bitnessButtons (trigger : Trigger) :
    (w.noteExit trigger).bitnessButtons = w.bitnessButtons := by
  rcases w.noteExit_cases trigger with ⟨-, h⟩ | ⟨-, h⟩
  · rw [h]
  · rw [h, note]

/-- `nextId` adds no buttons on the admin page. -/
theorem nextId_adminCheck (hpage : w.currentId = .adminCheck) : (w.nextId env).2 = w := by
  simp only [nextId, pageNextId, hpage]
  split_ifs <;> rfl

/-- `next` adds no buttons on the admin page. -/
theorem next_adminCheck (hpage : w.currentId = .adminCheck) (trigger : Trigger) :
    (next env trigger w).bitnessButtons = w.bitnessButtons := by
  have hvalid : (w.validatePage env).2 = w := by simp only [validatePage, hpage]
  have hnextId : (w.nextId env).2 = w := nextId_adminCheck hpage
  rw [next]
  split
  · rename_i w₁ heq
    rw [← hvalid, heq]
  · rename_i w₁ heq
    obtain rfl : w₁ = w := by rw [← hvalid, heq]
    split
    · rename_i w₂ heq₂
      rw [← hnextId, heq₂]
    · rename_i page w₂ heq₂
      rw [switchToPage_bitnessButtons, noteExit_bitnessButtons, ← hnextId, heq₂]

/-- `next` adds no buttons when the login page rejects. -/
theorem next_of_rejects (hpage : w.currentId = .chromeoverLogin) (hrejects : accepts env w = false)
    (trigger : Trigger) : (next env trigger w).bitnessButtons = w.bitnessButtons := by
  have hvalid : (w.validatePage env).2.bitnessButtons = w.bitnessButtons := by
    simp only [validatePage, hpage]
    split_ifs <;> rfl
  rw [next, show w.validatePage env = (false, _) from Prod.ext hrejects rfl]
  exact hvalid

/-- The login page is always followed by a page. -/
theorem following_login (hpage : w.currentId = .chromeoverLogin) : following env w ≠ none := by
  by_cases herr : w.errorString = ""
  · simp only [following, nextId, if_pos herr, pageNextId, hpage]
    split <;> simp
  · simp [following, nextId, herr, hpage]

theorem Unlisted.next (h : Unlisted w) (trigger : Trigger) :
    Unlisted (Wizard.next env trigger w) := by
  by_cases hadmin : w.currentId = .adminCheck
  · intro _
    rw [next_adminCheck hadmin]
    exact h (Or.inl hadmin)
  · obtain ⟨w₁, hprep, hcases⟩ := next_cases env trigger w
    rcases hcases with ⟨hstay, heq⟩ | ⟨page, -, hfollow, heq⟩
    · have hpage₁ : w₁.currentId = w.currentId := by
        obtain ⟨_, _, _, _, rfl, -, -, -⟩ := hprep
        rfl
      by_cases hlogin : w.currentId = .chromeoverLogin
      · intro _
        rw [next_of_rejects hlogin (hstay.resolve_right (following_login hlogin))]
        exact h (Or.inr hlogin)
      · rw [heq]
        exact unlisted_of_page (hpage₁ ▸ hadmin) (hpage₁ ▸ hlogin)
    · -- only the admin page is followed by the login page
      obtain ⟨-, -, hpage⟩ := (w₁.noteExit trigger).switchToPage_frame env page
      rw [heq]
      rcases following_spec hfollow with ⟨-, hfrom⟩ | ⟨-, -, rfl⟩
      · cases page with
        | adminCheck => exact hfrom.elim
        | chromeoverLogin => exact absurd hfrom.1 hadmin
        | _ => exact unlisted_of_page (by simp [hpage]) (by simp [hpage])
      · exact unlisted_of_page (by simp [hpage]) (by simp [hpage])

theorem Unlisted.step (h : Unlisted w) {e : Event} (hs : Wizard.step env w e = some w') :
    Unlisted w' := by
  obtain ⟨-, heffect⟩ := effect_of_step hs
  cases heffect with
  | minor hw =>
    obtain ⟨_, _, _, _, _, _, _, _, _, rfl, -, -, -⟩ := hw
    exact h
  | newestImageError => exact h
  | noSites => exact h
  | clickNext => exact h.next _
  | @meepoFinished sites =>
    have hlogin : Unlisted { w with sites := sites, loginFinished := true } := h
    exact hlogin.next _
  | formatLink =>
    have hmode : Unlisted { w with formatOnly := true } := h
    exact hmode.next _
  | driveTimer => exact h
  | clickDevice | clickLeftover => exact h
  | @downloadFinished hasError =>
    have hiterate (n : Nat) :
        Unlisted ((markComplete hasError)^[n] { w with downloading := false }) := by
      induction n with
      | zero => exact h
      | succ n ih =>
        rw [Function.iterate_succ_apply']
        rcases markComplete_cases ((markComplete hasError)^[n] { w with downloading := false })
          hasError with ⟨error, -, heq⟩ | heq
        · rw [heq]
          exact ih
        · rw [heq]
          exact ih
    exact hiterate _
  | unzipReturns => exact h
  | @unzipFinished i =>
    have hnoted : Unlisted { w with unzipThreads := w.unzipThreads.modify i fun thread =>
        { thread with notified := true } } := h
    exact hnoted.next _
  | diskWriteReturns => exact h
  | @doneWriting i =>
    rcases onDoneWriting_cases { w with
      diskWriteThreads := w.diskWriteThreads.modify i fun thread =>
        { thread with notified := true } } with ⟨-, heq⟩ | ⟨error, -, heq⟩ | ⟨-, heq⟩ |
      ⟨thread, -, -, heq⟩ <;> rw [heq] <;> exact h
  | @catchError error rest =>
    have hcaught : Unlisted { w with posted := rest, errorString := error } := h
    exact hcaught.next _
  | makeAnother =>
    obtain ⟨-, -, hpage⟩ :=
      switchToPage_frame { w with makeAnotherLayout := false } env .usbInsert
    exact unlisted_of_page (by simp [makeAnother, hpage]) (by simp [makeAnother, hpage])

/-- In every run the image page has no buttons until the login page is left. -/
theorem unlisted_of_run {es : List Event} (h : (machine env).Run es w) : Unlisted w :=
  h.invariant (by rintro w rfl _; rfl) fun _ _ _ hI _ hs => hI.step hs

/-! ### Calls of `nextId` -/

theorem pageNextId_login (env : Environment) {site : GondarSite}
    (hpage : w.currentId = .chromeoverLogin) (hsites : w.sites = [site]) :
    w.pageNextId env = (some .imageSelect, w.addImages site.imageList) := by
  rw [pageNextId]
  simp only [hpage, hsites]

/-- The buttons after some calls: those before, and the images of the site once for each call. -/
theorem callNextId_eq {site : GondarSite} (hpage : w.currentId = .chromeoverLogin)
    (hsites : w.sites = [site]) (calls : Nat) :
    callNextId env calls w = { w with
      bitnessButtons :=
        w.bitnessButtons ++ (List.replicate calls (listedImages site)).flatten } := by
  induction calls with
  | zero => simp [callNextId]
  | succ calls ih =>
    have hcall : callNextId env (calls + 1) w = ((callNextId env calls w).pageNextId env).2 :=
      Function.iterate_succ_apply' _ _ _
    have hpage' : (callNextId env calls w).currentId = .chromeoverLogin := by rw [ih, hpage]
    have hsites' : (callNextId env calls w).sites = [site] := by rw [ih, hsites]
    rw [hcall, pageNextId_login env hpage' hsites', ih, addImages, List.replicate_succ',
      List.flatten_append, ← List.append_assoc, List.flatten_singleton]
    rfl

/-- **The condition under which `nextId` lists each image once.** When the login has found one site,
any number of calls of `ChromeoverLoginPage::nextId`, at least one, leaves one button for each image
of the site that is not deployable, and the wizard as after the first call, if and only if there is
one call or the site has no such image. -/
theorem imagesListedOnce_iff (env : Environment) (es : List Event) (w : Wizard)
    (h : (machine env).Run es w) (hpage : w.currentId = .chromeoverLogin) (site : GondarSite)
    (calls : Nat) (hcalls : 1 ≤ calls) :
    ImagesListedOnce env w site calls ↔
      calls = 1 ∨ ∀ image ∈ site.imageList, image.isDeployable = true := by
  have hbuttons (calls : Nat) : callNextId env calls (w.loggedIn [site]) =
      { w.loggedIn [site] with
        bitnessButtons := (List.replicate calls (listedImages site)).flatten } := by
    have hnone : w.bitnessButtons = [] := unlisted_of_run h (Or.inr hpage)
    have hnone' : (w.loggedIn [site]).bitnessButtons = [] := hnone
    rw [callNextId_eq (w := w.loggedIn [site]) hpage rfl, hnone', List.nil_append]
  have hempty : listedImages site = [] ↔ ∀ image ∈ site.imageList, image.isDeployable = true := by
    simp [listedImages, List.filter_eq_nil_iff]
  rw [ImagesListedOnce, hbuttons calls, hbuttons 1, ← hempty]
  constructor
  · rintro ⟨hlist, -⟩
    have hlen := congrArg List.length hlist
    simp only [List.length_flatten, List.map_replicate, List.sum_replicate_nat] at hlen
    by_contra hne
    obtain ⟨hcalls', hsome⟩ := not_or.mp hne
    have hpos : 0 < (listedImages site).length := List.length_pos_of_ne_nil hsome
    have hlt : 1 * (listedImages site).length < calls * (listedImages site).length :=
      Nat.mul_lt_mul_of_pos_right (by omega) hpos
    omega
  · rintro (rfl | hnil)
    · exact ⟨by simp, rfl⟩
    · have hflat (n : Nat) : (List.replicate n (listedImages site)).flatten = [] := by
        simp [hnil]
      exact ⟨by rw [hflat, hnil], by rw [hflat, hflat]⟩

/-- A site with one image. -/
def oneImageSite : GondarSite where
  siteId := 1
  siteName := "site"
  imageList := [⟨"product", "image", ⟨"https://host", ["image.zip"]⟩⟩]

theorem imagesListedOnce_iff_one_call :
    ∃ w, (machine (withStick true)).Run [.clickNext] w ∧ w.currentId = .chromeoverLogin ∧
      ImagesListedOnce (withStick true) w oneImageSite 1 := by
  have hrun : (machine (withStick true)).Run [.clickNext] _ := .of_exec rfl rfl
  refine ⟨_, hrun, rfl, ?_⟩
  exact (imagesListedOnce_iff (withStick true) _ _ hrun rfl oneImageSite 1 (by decide)).mpr
    (Or.inl rfl)

/-- The second call of `nextId` adds a second button for the one image of the site. -/
theorem second_call_lists_again :
    ∃ w, (machine (withStick true)).Run [.clickNext] w ∧ w.currentId = .chromeoverLogin ∧
      (callNextId (withStick true) 2 (w.loggedIn [oneImageSite])).bitnessButtons =
        [⟨"https://host", ["image.zip"]⟩, ⟨"https://host", ["image.zip"]⟩] ∧
      ¬ ImagesListedOnce (withStick true) w oneImageSite 2 := by
  have hrun : (machine (withStick true)).Run [.clickNext] _ := .of_exec rfl rfl
  refine ⟨_, hrun, rfl, by decide +kernel, fun h => ?_⟩
  exact absurd h.1 (by decide +kernel)

end UsbMaker.Wizard
