import UsbMaker.Meepo.Attempt

/-!
# When `finished()` means that everything has arrived

`handleDownloadsReply` emits `finished()` when `sites_remaining_` drops to zero. The counter counts
downloads requests only, so on an account with a second page of sites it can drop to zero while that
page is still on its way: the signal then comes too early, and comes again later. This file
determines the accounts on which it is emitted at most once and with everything received
(`finished_once_iff`): those with a single page, and those on which it is never emitted, because
the login fails, the first page is empty, or the first page has a site with the id `-1`.

## Main definitions

* `Session.AllProcessed`: every page and the downloads of every site have been received.

## Main results

* `Session.finished_once_iff`.
-/

namespace UsbMaker.Session

variable {S : Server} {c : Credentials}

/-- Every page of sites has been received, and the downloads reply of every site of every page
has been handled. -/
def AllProcessed (S : Server) (c : Credentials) (s : Session) : Prop :=
  (∀ k < (S.pages (S.apiToken c)).length, .sites (S.apiToken c) (k + 1) ∈ s.answered) ∧
    ((S.pages (S.apiToken c)).flatten.map fun entry =>
      .downloads (S.apiToken c) entry.siteId).Subperm s.answered

/-- `finished()` has been emitted at most once, and only with everything received. -/
def FinishedOnce (S : Server) (c : Credentials) (s : Session) : Prop :=
  s.signals.count .finished ≤ 1 ∧ (.finished ∈ s.signals → AllProcessed S c s)

/-- Only a downloads reply can emit `finished()`. -/
theorem finished_not_mem_of_not_downloads (m : Meepo) {r : Request} (hr : isDownloads r = false)
    (ok : Bool) : .finished ∉ (m.dispatchReply S r ok).signals := by
  unfold Meepo.dispatchReply
  split
  · simp [Meepo.fail]
  · cases r with
    | auth credentials =>
      simp only [Meepo.handleAuthReply]
      split_ifs <;> simp [Meepo.fail]
    | sites token page =>
      simp only [Meepo.handleSitesReply]
      split_ifs <;> simp [Meepo.fail]
    | downloads token siteId => simp [isDownloads] at hr
    | activity token => simp [Meepo.handleMetricsReply]

theorem finished_mem_deliver_iff {s : Session} {p : Pending} (hr : isDownloads p.request = false) :
    .finished ∈ (s.deliver S p true).signals ↔ .finished ∈ s.signals := by
  rw [deliver_signals, List.mem_append]
  exact or_iff_left (finished_not_mem_of_not_downloads _ hr _)

theorem flatten_eq_firstSites_one (hn : (S.pages (S.apiToken c)).length ≤ 1) :
    (S.pages (S.apiToken c)).flatten.map SiteEntry.siteId = firstSites S c 1 := by
  rw [firstSites, List.take_of_length_le hn]

/-! ### Accounts with one page -/

/-- `finished()` has been emitted exactly when the counter is at zero. -/
private def Counted (_ _ : List Int) (s : Session) : Prop :=
  s.signals.count .finished = if s.meepo.sitesRemaining = 0 then 1 else 0

private theorem counted_sites {s : Session} {p : Pending} (h : Live S c 0 [] [] s)
    (hr : p.request = .sites (S.apiToken c) 1)
    (h' : Live S c 1 (firstSites S c 1) [] (s.deliver S p true)) :
    Counted (firstSites S c 1) [] (s.deliver S p true) := by
  have hquiet : .finished ∉ (s.deliver S p true).signals := by
    rw [finished_mem_deliver_iff (by rw [hr]; rfl)]
    exact h.quiet rfl
  have hpos : (s.deliver S p true).meepo.sitesRemaining ≠ 0 := by
    have := List.length_pos_of_ne_nil (h'.nonempty Nat.one_pos)
    rw [h'.remaining]
    omega
  rw [Counted, if_neg hpos, List.count_eq_zero_of_not_mem hquiet]

private theorem counted_downloads {D E : List Int} {s : Session} {p : Pending}
    (h : Live S c 1 D E s) (hcount : Counted D E s) {id : Int} (hid : id ∈ D)
    (hr : p.request = .downloads (S.apiToken c) id) :
    Counted (D.erase id) (E ++ [id]) (s.deliver S p true) := by
  have hpos : s.meepo.sitesRemaining ≠ 0 := by
    have := List.length_pos_of_mem hid
    rw [h.remaining]
    omega
  rw [Counted, if_neg hpos] at hcount
  rw [Counted, deliver_signals, deliver_meepo, hr, List.count_append, hcount]
  obtain ⟨-, -, -, ⟨-, hrem, -, hsig⟩ | ⟨-, hrem, -, hsig⟩⟩ := h.dispatch_downloads hid
  · rw [hrem, if_neg hpos, List.count_eq_zero_of_not_mem hsig]
  · rw [hrem, hsig]
    split_ifs <;> simp

/-- With one page and no download in flight, everything has been received. -/
private theorem allProcessed_of_live (hn : (S.pages (S.apiToken c)).length ≤ 1) {E : List Int}
    {s : Session} (h : Live S c 1 [] E s) : AllProcessed S c s := by
  have hE : (firstSites S c 1).Perm E := by
    simpa [Session.issued] using h.issued.symm
  constructor
  · intro k hk
    obtain rfl : k = 0 := by omega
    exact h.answered.mem_iff.mpr (by simp)
  · have hmap := congrArg (List.map (Request.downloads (S.apiToken c)))
      (flatten_eq_firstSites_one hn)
    rw [List.map_map] at hmap
    have hperm := (List.Perm.of_eq hmap).trans (hE.map (Request.downloads (S.apiToken c)))
    exact (hperm.subperm.trans (List.sublist_append_right _ _).subperm).trans
      h.answered.symm.subperm

private theorem finishedOnce_of_quiet {s : Session} (hq : .finished ∉ s.signals) :
    FinishedOnce S c s :=
  ⟨by rw [List.count_eq_zero_of_not_mem hq]; exact Nat.zero_le 1, fun hmem => absurd hmem hq⟩

private theorem finishedOnce_of_onePage (hn : (S.pages (S.apiToken c)).length ≤ 1) {s : Session}
    (h : OnePage S c Counted s) : FinishedOnce S c s := by
  rcases h with hauth | hdead | hlive | ⟨D, E, hlive, hcount⟩
  · exact finishedOnce_of_quiet (by simp [hauth.signals])
  · exact finishedOnce_of_quiet hdead.quiet
  · exact finishedOnce_of_quiet (hlive.quiet rfl)
  · rw [Counted] at hcount
    by_cases hzero : s.meepo.sitesRemaining = 0
    · rw [if_pos hzero] at hcount
      obtain rfl : D = [] := by
        rw [hlive.remaining] at hzero
        exact List.eq_nil_of_length_eq_zero (by omega)
      exact ⟨hcount.le, fun _ => allProcessed_of_live hn hlive⟩
    · rw [if_neg hzero] at hcount
      exact finishedOnce_of_quiet (List.count_eq_zero.mp hcount)

/-! ### Accounts on which nothing is ever counted down to zero -/

/-- A site with the id `-1` on the first page is counted and never counted down. -/
private theorem remaining_pos (hneg : -1 ∈ firstSites S c 1) {k : Nat} {D E : List Int}
    {s : Session} (h : Live S c k D E s) (hk : 0 < k) : 0 < s.meepo.sitesRemaining := by
  have hmem : -1 ∈ D ++ E := h.issued.mem_iff.mpr
    (firstSites_subset_issued S c hk (firstSites_one_subset S c hk hneg))
  rw [h.remaining]
  rcases List.mem_append.mp hmem with hD | hE
  · have := List.length_pos_of_mem hD
    omega
  · have := List.count_pos_iff.mpr hE
    omega

private theorem never_finished_of_neg (hneg : -1 ∈ firstSites S c 1) {es : List Pending}
    {s : Session} (h : (loginAttempt S c).Run es s) : .finished ∉ s.signals := by
  refine (h.invariant (I := fun s => Inv S c s ∧ .finished ∉ s.signals) ?_ ?_).2
  · intro s hs
    refine ⟨inv_init hs, ?_⟩
    obtain ⟨s₀, -, -, -, hsig, rfl⟩ := hs
    simp [begin, Meepo.start, hsig]
  · rintro s p s' ⟨hI, hquiet⟩ - hs
    have hI' := inv_step hI hs
    obtain ⟨hp, rfl⟩ := loginAttempt_step hs
    refine ⟨hI', ?_⟩
    cases hd : isDownloads p.request with
    | false => rwa [finished_mem_deliver_iff hd]
    | true =>
      rcases hI with hauth | hdead | ⟨k, D, E, hlive⟩
      · have hr : p.request = .auth c := by
          have hmem : p.request ∈ s.requests := List.mem_map_of_mem hp
          simpa [hauth.inFlight] using hmem
        simp [hr, isDownloads] at hd
      · have hnil : s.pending = [] := by simpa [requests] using hdead.inFlight
        simp [hnil] at hp
      · rcases hlive.request_cases hp with ⟨hr, -⟩ | ⟨id, hid, hr⟩
        · simp [hr, isDownloads] at hd
        · have hlive' := hlive.deliver_downloads hp hid hr
          have hk : 0 < k := by
            rcases Nat.eq_zero_or_pos k with rfl | hk
            · have hD : D = [] ∧ E = [] := by simpa [Session.issued] using hlive.issued
              simp [hD.1] at hid
            · exact hk
          have hpos := remaining_pos hneg hlive' hk
          rw [deliver_meepo, hr] at hpos
          rw [deliver_signals, hr, List.mem_append]
          obtain ⟨-, -, -, ⟨-, -, -, hsig⟩ | ⟨-, hrem, -, hsig⟩⟩ := hlive.dispatch_downloads hid
          · exact not_or.mpr ⟨hquiet, hsig⟩
          · rw [hsig, if_neg (by omega)]
            simpa using hquiet

/-- Without a token, or with an empty first page, the attempt fails before any downloads. -/
private theorem never_finished_of_fails
    (hfail : S.apiToken c = "" ∨ firstSites S c 1 = []) {es : List Pending} {s : Session}
    (h : (loginAttempt S c).Run es s) : .finished ∉ s.signals := by
  rcases inv_of_run h with hauth | hdead | ⟨k, D, E, hlive⟩
  · simp [hauth.signals]
  · exact hdead.quiet
  · rcases hfail with htok | hfirst
    · exact absurd htok hlive.token_ne
    · rcases Nat.eq_zero_or_pos k with rfl | hk
      · exact hlive.quiet rfl
      · exact absurd hfirst (hlive.nonempty hk)

/-! ### Accounts with a second page -/

/-- When the downloads of the first page all answer first, `finished()` is emitted before the
second page arrives. -/
private theorem exists_early_finished (hneg : -1 ∉ firstSites S c 1) {D E : List Int} {s : Session}
    (h : Live S c 1 D E s) (hD : D ≠ []) :
    ∃ fs s', (loginAttempt S c).exec s fs = some s' ∧ (∃ D E, Live S c 1 D E s') ∧
      .finished ∈ s'.signals := by
  have hcloser (s : Session) (hI : ∃ D E, Live S c 1 D E s ∧ (D = [] → .finished ∈ s.signals))
      (hnot : .finished ∉ s.signals) :
      ∃ p s', (loginAttempt S c).step s p = some s' ∧
        (∃ D E, Live S c 1 D E s' ∧ (D = [] → .finished ∈ s'.signals)) ∧
        s'.requests.length < s.requests.length := by
    obtain ⟨D, E, h, hdone⟩ := hI
    obtain ⟨id, hid⟩ := List.exists_mem_of_ne_nil D fun h0 => hnot (hdone h0)
    obtain ⟨p, hp, hr, hstep⟩ := exists_step (S := S) (c := c)
      (h.inFlight.mem_iff.mpr (List.mem_append_right _ (List.mem_map_of_mem hid)))
    have hlive' := h.deliver_downloads hp hid hr
    refine ⟨p, _, hstep, ⟨_, _, hlive', fun hnil => ?_⟩, ?_⟩
    · -- the last of the downloads in flight counts down to zero
      have hids : ∀ j ∈ D ++ E, j ≠ -1 := by
        rintro j hj rfl
        exact hneg (by simpa [Session.issued] using h.issued.subset hj)
      have hE : E.count (-1) = 0 := List.count_eq_zero.mpr fun hj =>
        hids (-1) (List.mem_append_right _ hj) rfl
      have hlen : D.length = 1 := by
        have := congrArg List.length hnil
        rw [List.length_erase_of_mem hid, List.length_nil] at this
        have := List.length_pos_of_mem hid
        omega
      obtain ⟨-, -, -, ⟨hbad, -, -, -⟩ | ⟨-, -, -, hsig⟩⟩ := h.dispatch_downloads hid
      · exact absurd hbad (hids id (List.mem_append_left _ hid))
      · rw [deliver_signals, hr, hsig, h.remaining, hlen, hE]
        simp
    · obtain ⟨rest, hrest, hnew⟩ := requests_deliver S hp true
      rw [hr, (h.dispatch_downloads hid).1, List.append_nil] at hnew
      simp [hnew, hrest.length_eq]
  obtain ⟨fs, s', hexec, ⟨D', E', hlive, -⟩, hfin⟩ := Machine.exists_exec wellFounded_lt
    (fun s => s.requests.length) hcloser s ⟨D, E, h, fun h0 => absurd h0 hD⟩
  exact ⟨fs, s', hexec, ⟨D', E', hlive⟩, hfin⟩

private theorem exists_first_page (htok : S.apiToken c ≠ "") (hfirst : firstSites S c 1 ≠ []) :
    ∃ es s, (loginAttempt S c).Run es s ∧ Live S c 1 (firstSites S c 1) [] s := by
  have hinit := loginAttempt_init S c
  have hauth := atAuth_init hinit
  obtain ⟨p, hp, -, hstep⟩ := exists_step (S := S) (c := c) (s := ({} : Session).begin c)
    (r := .auth c) (by simp [hauth.inFlight])
  have hrun : (loginAttempt S c).Run [p] _ := .step (.init hinit) trivial hstep
  rcases atAuth_deliver (S := S) hauth hp with hdead | hlive
  · exact absurd hdead.cause (not_or.mpr ⟨htok, hfirst⟩)
  · obtain ⟨q, hq, hr, hstep'⟩ := exists_step (S := S) (c := c)
      (r := .sites (S.apiToken c) 1) (hlive.inFlight.mem_iff.mpr (by simp [nextSites]))
    have hrun' : (loginAttempt S c).Run ([p] ++ [q]) _ := .step hrun trivial hstep'
    rcases hlive.deliver_sites hq hr (Or.inl rfl) with ⟨-, hdead⟩ | hlive'
    · exact absurd hdead.cause (not_or.mpr ⟨htok, hfirst⟩)
    · exact ⟨_, _, hrun', by simpa using hlive'⟩

/-! ### The accounts on which `finished()` can be relied on -/

/-- **`finished()` is emitted at most once and with everything received, exactly on these
accounts.** Over every order of the replies, this holds if and only if the login fails, the account
has at most one page of sites, its first page is empty, or its first page has a site with the id
`-1`. -/
theorem finished_once_iff (S : Server) (c : Credentials) :
    (∀ es s, (loginAttempt S c).Run es s → FinishedOnce S c s) ↔
      S.apiToken c = "" ∨ (S.pages (S.apiToken c)).length ≤ 1 ∨ firstSites S c 1 = [] ∨
        -1 ∈ firstSites S c 1 := by
  constructor
  · intro hall
    by_contra hnot
    simp only [not_or, not_le] at hnot
    obtain ⟨htok, hn, hfirst, hneg⟩ := hnot
    obtain ⟨es, s, hrun, hlive⟩ := exists_first_page htok hfirst
    obtain ⟨fs, s', hexec, ⟨D, E, hlive'⟩, hfin⟩ := exists_early_finished hneg hlive hfirst
    have hpage := ((hall _ _ (hrun.append hexec)).2 hfin).1 1 hn
    have hmem := hlive'.answered.mem_iff.mp hpage
    simp at hmem
  · intro hcond es s hrun
    rcases hcond with htok | hn | hfirst | hneg
    · exact finishedOnce_of_quiet (never_finished_of_fails (Or.inl htok) hrun)
    · exact finishedOnce_of_onePage hn (onePage_of_run hn
        (fun _ _ h hr h' => counted_sites h hr h')
        (fun _ _ _ _ _ h hcount hid hr => counted_downloads h hcount hid hr) hrun)
    · exact finishedOnce_of_quiet (never_finished_of_fails (Or.inr hfirst) hrun)
    · exact finishedOnce_of_quiet (never_finished_of_neg hneg hrun)

/-- An account with one site on each of two pages. -/
def twoPages : Server where
  apiToken _ := "token"
  pages _ := [[⟨1, "first"⟩], [⟨2, "second"⟩]]
  links _ _ := []

/-- The downloads of the first page answer before the second page does, and `finished()` is
emitted while that page is in flight. -/
theorem finished_before_second_page :
    ∃ es s, (loginAttempt twoPages (.google "id")).Run es s ∧ .finished ∈ s.signals ∧
      .sites "token" 2 ∈ s.requests ∧ ¬ FinishedOnce twoPages (.google "id") s := by
  have hrun : (loginAttempt twoPages (.google "id")).Run
      [⟨.auth (.google "id"), 1⟩, ⟨.sites "token" 1, 1⟩, ⟨.downloads "token" 1, 1⟩] _ :=
    .of_exec (loginAttempt_init _ _) rfl
  refine ⟨_, _, hrun, by decide, by decide, fun h => ?_⟩
  exact absurd ((h.2 (by decide)).1 1 (by decide)) (by decide)

end UsbMaker.Session
