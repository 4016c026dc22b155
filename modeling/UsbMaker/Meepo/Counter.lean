import UsbMaker.Meepo.Attempt

/-!
# The counter of the downloads in flight

`Meepo::handleSitesReply` adds the number of all sites known so far to `sites_remaining_` and
requests the downloads of all of them, and `Meepo::handleDownloadsReply` subtracts one. During a
login attempt without network errors the counter is therefore the number of downloads requests in
flight, on every account none of whose sites has the id `-1`, and `finished()` is emitted by the
downloads replies that leave none in flight (`sitesRemaining_eq_downloadsInFlight`).

## Main definitions

* `Session.downloadsInFlight`.

## Main results

* `Session.inStep_of_run`: the counter is the number of downloads in flight.
* `Session.signals_deliver_downloads`: when a downloads reply emits `finished()`.
-/

namespace UsbMaker.Session

variable {S : Server} {c : Credentials}

/-- The number of downloads requests whose reply has not been processed. -/
def downloadsInFlight (s : Session) : Nat := s.requests.countP isDownloads

/-- No site of the account has the id `-1`. -/
def ProperIds (S : Server) (c : Credentials) : Prop :=
  ∀ page ∈ S.pages (S.apiToken c), ∀ entry ∈ page, entry.siteId ≠ -1

instance : Decidable (ProperIds S c) :=
  inferInstanceAs (Decidable (∀ page ∈ S.pages (S.apiToken c), ∀ entry ∈ page, _))

/-- The counter of the sites remaining is the number of downloads in flight. -/
def InStep (s : Session) : Prop := s.meepo.sitesRemaining = s.downloadsInFlight

theorem firstSites_ne (h : ProperIds S c) {k : Nat} {id : Int} (hid : id ∈ firstSites S c k) :
    id ≠ -1 := by
  obtain ⟨entry, hentry, rfl⟩ := List.mem_map.mp hid
  obtain ⟨page, hpage, hmem⟩ := List.mem_flatten.mp hentry
  exact h page (List.mem_of_mem_take hpage) entry hmem

theorem Live.downloadsInFlight_eq {k : Nat} {D E : List Int} {s : Session}
    (h : Live S c k D E s) : s.downloadsInFlight = D.length := by
  have hnext : (nextSites S c k).countP isDownloads = 0 := by
    rw [nextSites]
    split_ifs <;> rfl
  have hdown : (D.map (Request.downloads (S.apiToken c))).countP isDownloads = D.length := by
    rw [List.countP_map]
    simp [Function.comp_def, isDownloads]
  rw [downloadsInFlight, h.inFlight.countP_eq, List.countP_append, hnext, hdown, Nat.zero_add]

/-- Once the first page has been handled, the counter is right by the invariant of the attempt:
no reply is one for a site with the id `-1`. -/
theorem Live.inStep {k : Nat} {D E : List Int} {s : Session} (h : Live S c k D E s)
    (hids : ProperIds S c) : InStep s := by
  have hcount : E.count (-1) = 0 := by
    rw [List.count_eq_zero]
    intro hmem
    have hissued := h.issued.subset (List.mem_append_right D hmem)
    exact firstSites_ne hids (issued_subset S c k hissued) rfl
  rw [InStep, h.remaining, h.downloadsInFlight_eq, hcount]
  simp

/-- `handleSitesReply` adds the number of all sites known, whether it fails or not. -/
theorem handleSitesReply_sitesRemaining (m : Meepo) (rawSites : List SiteEntry)
    (current total : Nat) :
    (m.handleSitesReply rawSites current total).meepo.sitesRemaining =
      m.sitesRemaining + (m.sites ++ Meepo.sitesFromReply rawSites).length := by
  rw [Meepo.handleSitesReply]
  dsimp only
  split_ifs <;> rfl

/-- An attempt that has failed has nothing in flight, and its counter is still zero: the auth
reply does not touch it, and a first page without sites adds nothing. -/
theorem inStep_of_dead {s : Session} {p : Pending} (h : AtAuth c s ∨ Live S c 0 [] [] s)
    (hp : p ∈ s.pending) (hdead : Dead S c (s.deliver S p true)) :
    InStep (s.deliver S p true) := by
  rw [InStep, downloadsInFlight, hdead.inFlight, deliver_meepo]
  have hmem : p.request ∈ s.requests := List.mem_map_of_mem hp
  rcases h with hauth | hlive
  · rw [hauth.inFlight, List.mem_singleton] at hmem
    have hrem : (s.meepo.dispatchReply S p.request true).meepo.sitesRemaining =
        s.meepo.sitesRemaining := by
      simp only [hmem, Meepo.dispatchReply, Bool.not_true, Bool.false_eq_true, ↓reduceIte,
        Meepo.handleAuthReply]
      split_ifs <;> rfl
    rw [hrem, hauth.remaining]
    rfl
  · rcases hlive.request_cases hp with ⟨hr, -⟩ | ⟨id, hid, -⟩
    · have hsites : (s.meepo.dispatchReply S p.request true).meepo.sites = [] := by
        simpa using hdead.sites
      have hnil : s.meepo.sites ++ Meepo.sitesFromReply (S.page (S.apiToken c) 1) = [] := by
        rw [hr] at hsites
        simp only [Meepo.dispatchReply, Bool.not_true, Bool.false_eq_true, ↓reduceIte,
          Meepo.handleSitesReply] at hsites
        split_ifs at hsites <;> exact hsites
      rw [hr]
      simp only [Meepo.dispatchReply, Bool.not_true, Bool.false_eq_true, ↓reduceIte,
        handleSitesReply_sitesRemaining, Nat.zero_add, hnil, hlive.remaining]
      rfl
    · simp at hid

theorem inStep_step (hids : ProperIds S c) {s s' : Session} {p : Pending}
    (h : Inv S c s ∧ InStep s) (hs : (loginAttempt S c).step s p = some s') :
    Inv S c s' ∧ InStep s' := by
  refine ⟨inv_step h.1 hs, ?_⟩
  obtain ⟨hp, rfl⟩ := loginAttempt_step hs
  rcases h.1 with hauth | hdead | ⟨k, D, E, hlive⟩
  · rcases atAuth_deliver (S := S) hauth hp with hdead | hlive
    · exact inStep_of_dead (Or.inl hauth) hp hdead
    · exact hlive.inStep hids
  · have hnil : s.pending = [] := by simpa [requests] using hdead.inFlight
    simp [hnil] at hp
  · rcases hlive.request_cases hp with ⟨hr, hk⟩ | ⟨id, hid, hr⟩
    · rcases hlive.deliver_sites hp hr hk with ⟨rfl, hdead⟩ | hlive'
      · have hDE : D = [] ∧ E = [] := by simpa [Session.issued] using hlive.issued
        obtain ⟨rfl, rfl⟩ := hDE
        exact inStep_of_dead (Or.inr hlive) hp hdead
      · exact hlive'.inStep hids
    · exact (hlive.deliver_downloads hp hid hr).inStep hids

/-- In every state of an attempt the counter is the number of downloads in flight. -/
theorem inStep_of_run (hids : ProperIds S c) {es : List Pending} {s : Session}
    (h : (loginAttempt S c).Run es s) : InStep s := by
  refine (h.invariant (I := fun s => Inv S c s ∧ InStep s) (fun s hs => ?_)
    fun _ _ _ hI _ hs => inStep_step hids hI hs).2
  refine ⟨inv_init hs, ?_⟩
  have hauth := atAuth_init hs
  rw [InStep, hauth.remaining, downloadsInFlight, hauth.inFlight]
  rfl

/-- A downloads reply emits `finished()` when it leaves no downloads in flight, and nothing
otherwise. -/
theorem signals_deliver_downloads (hids : ProperIds S c) {es : List Pending} {s : Session}
    (h : (loginAttempt S c).Run es s) {p : Pending} (hp : p ∈ s.pending) {token : String}
    {id : Int} (hr : p.request = .downloads token id) :
    (s.deliver S p true).signals =
      s.signals ++ if (s.deliver S p true).downloadsInFlight = 0 then [.finished] else [] := by
  have hmem : p.request ∈ s.requests := List.mem_map_of_mem hp
  rw [hr] at hmem
  rcases inv_of_run h with hauth | hdead | ⟨k, D, E, hlive⟩
  · simp [hauth.inFlight] at hmem
  · simp [hdead.inFlight] at hmem
  · obtain ⟨rfl, hid⟩ : token = S.apiToken c ∧ id ∈ D := by
      rcases hlive.request_cases hp with ⟨hr', -⟩ | ⟨id', hid, hr'⟩
      · simp [hr] at hr'
      · rw [hr, Request.downloads.injEq] at hr'
        exact ⟨hr'.1, hr'.2 ▸ hid⟩
    have hne : id ≠ -1 :=
      firstSites_ne hids (issued_subset S c k (hlive.issued.subset (List.mem_append_left E hid)))
    obtain ⟨-, -, -, hcases⟩ := hlive.dispatch_downloads hid
    rcases hcases with ⟨hneg, -⟩ | ⟨-, hrem, -, hsig⟩
    · exact absurd hneg hne
    · have hcounted := (hlive.deliver_downloads hp hid hr).inStep hids
      rw [InStep, deliver_meepo, hr, hrem] at hcounted
      rw [deliver_signals, hr, hsig, hcounted]
      simp only [Int.natCast_eq_zero]

/-- **The counter of a login attempt.** In every state of a login attempt without network errors,
on an account with any number of pages none of whose sites has the id `-1`, `sites_remaining_` is
the number of downloads requests whose reply has not been processed, it is not negative, and a
downloads reply emits `finished()` exactly when it leaves no downloads request in flight. -/
theorem sitesRemaining_eq_downloadsInFlight (S : Server) (c : Credentials)
    (hids : ProperIds S c) (es : List Pending) (s : Session) (h : (loginAttempt S c).Run es s) :
    s.meepo.sitesRemaining = s.downloadsInFlight ∧ 0 ≤ s.meepo.sitesRemaining ∧
      ∀ p ∈ s.pending, ∀ token id, p.request = .downloads token id →
        (s.deliver S p true).signals =
          s.signals ++
            if (s.deliver S p true).downloadsInFlight = 0 then [.finished] else [] := by
  have hcounted := inStep_of_run hids h
  refine ⟨hcounted, ?_, ?_⟩
  · rw [hcounted]
    exact Int.natCast_nonneg _
  · intro p hp token id hr
    exact signals_deliver_downloads hids h hp hr

/-- An account with two pages. -/
def twoPageAccount : Server where
  apiToken _ := "token"
  pages _ := [[⟨1, "first"⟩, ⟨2, "second"⟩], [⟨3, "third"⟩]]
  links _ _ := []

/-- The downloads reply of a site of the first page arrives before the second page. -/
theorem sitesRemaining_eq_downloadsInFlight_two_pages :
    ∃ s, (loginAttempt twoPageAccount (.google "id")).Run
        [⟨.auth (.google "id"), 1⟩, ⟨.sites "token" 1, 1⟩, ⟨.downloads "token" 2, 1⟩,
          ⟨.sites "token" 2, 1⟩] s ∧
      s.meepo.sitesRemaining = 4 ∧ s.meepo.sitesRemaining = s.downloadsInFlight := by
  have hrun : (loginAttempt twoPageAccount (.google "id")).Run
      [⟨.auth (.google "id"), 1⟩, ⟨.sites "token" 1, 1⟩, ⟨.downloads "token" 2, 1⟩,
        ⟨.sites "token" 2, 1⟩] _ :=
    .of_exec (loginAttempt_init twoPageAccount (.google "id")) rfl
  refine ⟨_, hrun, rfl, ?_⟩
  exact (sitesRemaining_eq_downloadsInFlight twoPageAccount (.google "id") (by decide) _ _ hrun).1

end UsbMaker.Session
