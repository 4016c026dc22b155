import UsbMaker.Meepo.Session
import Mathlib.Data.List.Perm.Subperm
import Mathlib.Data.List.Flatten
import Mathlib.Data.Prod.Lex

/-!
# One login attempt without network errors

`loginAttempt S c` is a login attempt with the credentials `c` and no network errors: it begins
with no request in flight, and its events are the replies to the requests in flight, in any order.

The state of such an attempt is determined up to the order of its requests. Either the auth
request is in flight (`AtAuth`), or the attempt has failed with nothing in flight (`Dead`), or the
replies of the first `k` pages have been handled (`Live`). In the last case downloads have been
requested for the sites of the first `j` pages, for each `j = 1, …, k` (`issued`): every sites reply
requests the downloads of all the sites known so far. The requests that have been answered and
those that have not make up this list, and `sites_remaining_` is the number of the latter, plus the
number of replies for a site with the id `-1`, which are not counted down.

## Main definitions

* `Session.loginAttempt`: the machine of one attempt.
* `Session.issued`, `Session.AtAuth`, `Session.Dead`, `Session.Live`, `Session.Inv`.

## Main results

* `Session.inv_of_run`: the invariant of an attempt.
* `Session.onePage_of_run`: the same on an account with one page, with what is to be shown of the
  downloads replies as a parameter.
* `Session.exists_quiet`: from every state of an attempt, some replies lead to a state with no
  request in flight.
-/

namespace UsbMaker.Session

/-- The requests in flight. -/
def requests (s : Session) : List Request := s.pending.map Pending.request

/-- One login attempt without network errors, with its own history. -/
def loginAttempt (S : Server) (c : Credentials) : Machine Session Pending where
  init s := ∃ s₀ : Session, s₀.pending = [] ∧ s₀.posted = [] ∧ s₀.answered = [] ∧
    s₀.signals = [] ∧ s = s₀.begin c
  step s p := if p ∈ s.pending then some (s.deliver S p true) else none

/-! ### What a handler leaves behind -/

section Apply

variable (s : Session) (a : Nat) (o : Outcome)

private theorem foldl_handleSignal (signals : List Signal) :
    ∃ started finished, signals.foldl handleSignal s =
      { s with started := started, finished := finished } := by
  induction signals generalizing s with
  | nil => exact ⟨s.started, s.finished, rfl⟩
  | cons signal signals ih =>
    rw [List.foldl_cons]
    obtain ⟨st, fi, h⟩ := ih (s.handleSignal signal)
    refine ⟨st, fi, ?_⟩
    rw [h]
    cases signal with
    | finished => rfl
    | failed google =>
      simp only [handleSignal]
      split_ifs <;> rfl

@[simp] theorem apply_meepo : (s.apply a o).meepo = o.meepo := by
  obtain ⟨st, fi, h⟩ := foldl_handleSignal _ o.signals
  rw [apply, h]

@[simp] theorem apply_pending :
    (s.apply a o).pending = s.pending ++ o.posts.map fun request => ⟨request, a⟩ := by
  obtain ⟨st, fi, h⟩ := foldl_handleSignal _ o.signals
  rw [apply, h]

@[simp] theorem apply_posted : (s.apply a o).posted = s.posted ++ o.posts := by
  obtain ⟨st, fi, h⟩ := foldl_handleSignal _ o.signals
  rw [apply, h]

@[simp] theorem apply_answered : (s.apply a o).answered = s.answered := by
  obtain ⟨st, fi, h⟩ := foldl_handleSignal _ o.signals
  rw [apply, h]

@[simp] theorem apply_signals : (s.apply a o).signals = s.signals ++ o.signals := by
  obtain ⟨st, fi, h⟩ := foldl_handleSignal _ o.signals
  rw [apply, h]

@[simp] theorem apply_attempt : (s.apply a o).attempt = s.attempt := by
  obtain ⟨st, fi, h⟩ := foldl_handleSignal _ o.signals
  rw [apply, h]

theorem apply_requests : (s.apply a o).requests = s.requests ++ o.posts := by
  simp [requests, Function.comp_def]

end Apply

/-- A reply takes one request out of flight and puts those posted by its handler in. -/
theorem requests_deliver (S : Server) {s : Session} {p : Pending} (hp : p ∈ s.pending)
    (ok : Bool) :
    ∃ rest, s.requests.Perm (p.request :: rest) ∧
      (s.deliver S p ok).requests =
        rest ++ (s.meepo.dispatchReply S p.request ok).posts := by
  refine ⟨(s.pending.erase p).map Pending.request, ?_, ?_⟩
  · exact (List.perm_cons_erase hp).map Pending.request
  · rw [deliver, apply_requests]
    rfl

variable {S : Server} {c : Credentials}

/-- An attempt on a fresh login page. -/
theorem loginAttempt_init (S : Server) (c : Credentials) :
    (loginAttempt S c).init (({} : Session).begin c) :=
  ⟨{}, rfl, rfl, rfl, rfl, rfl⟩

theorem loginAttempt_step {s s' : Session} {p : Pending}
    (h : (loginAttempt S c).step s p = some s') :
    p ∈ s.pending ∧ s' = s.deliver S p true := by
  by_cases hp : p ∈ s.pending
  · exact ⟨hp, by simpa [loginAttempt, hp] using h.symm⟩
  · simp [loginAttempt, hp] at h

/-- Every request in flight can be answered. -/
theorem exists_step {s : Session} {r : Request} (hr : r ∈ s.requests) :
    ∃ p ∈ s.pending, p.request = r ∧ (loginAttempt S c).step s p = some (s.deliver S p true) := by
  obtain ⟨p, hp, rfl⟩ := List.mem_map.mp hr
  exact ⟨p, hp, rfl, if_pos hp⟩

/-! ### The invariant -/

/-- The ids of the sites on the first `k` pages of the account. -/
def firstSites (S : Server) (c : Credentials) (k : Nat) : List Int :=
  ((S.pages (S.apiToken c)).take k).flatten.map SiteEntry.siteId

/-- The ids for which the first `k` sites replies request downloads. -/
def issued (S : Server) (c : Credentials) : Nat → List Int
  | 0 => []
  | k + 1 => issued S c k ++ firstSites S c (k + 1)

/-- The sites request in flight when `k` pages have been received. -/
def nextSites (S : Server) (c : Credentials) (k : Nat) : List Request :=
  if k = 0 ∨ k < (S.pages (S.apiToken c)).length then [.sites (S.apiToken c) (k + 1)] else []

/-- The auth request is in flight. -/
structure AtAuth (c : Credentials) (s : Session) : Prop where
  inFlight : s.requests = [.auth c]
  sites : s.meepo.sites = []
  remaining : s.meepo.sitesRemaining = 0
  answered : s.answered = []
  posted : s.posted = [.auth c]
  signals : s.signals = []

/-- The attempt has failed before any downloads were requested. -/
structure Dead (S : Server) (c : Credentials) (s : Session) : Prop where
  inFlight : s.requests = []
  sites : s.meepo.sites = []
  cause : S.apiToken c = "" ∨ firstSites S c 1 = []
  posted : ∀ id, .downloads (S.apiToken c) id ∉ s.posted
  quiet : .finished ∉ s.signals

/-- The replies of `k` pages have been handled; the downloads of `D` are in flight and those of
`E` have been answered. -/
structure Live (S : Server) (c : Credentials) (k : Nat) (D E : List Int) (s : Session) : Prop where
  token_ne : S.apiToken c ≠ ""
  token : s.meepo.apiToken = S.apiToken c
  sites : s.meepo.sites.map GondarSite.siteId = firstSites S c k
  inFlight : s.requests.Perm (nextSites S c k ++ D.map (.downloads (S.apiToken c)))
  answered : s.answered.Perm
    (.auth c :: (List.range k).map (fun j => .sites (S.apiToken c) (j + 1)) ++
      E.map (.downloads (S.apiToken c)))
  issued : (D ++ E).Perm (issued S c k)
  remaining : s.meepo.sitesRemaining = D.length + E.count (-1)
  posted : s.posted.Perm (s.requests ++ s.answered)
  nonempty : 0 < k → firstSites S c 1 ≠ []
  quiet : k = 0 → .finished ∉ s.signals

/-- The invariant of a login attempt. -/
def Inv (S : Server) (c : Credentials) (s : Session) : Prop :=
  AtAuth c s ∨ Dead S c s ∨ ∃ k D E, Live S c k D E s

theorem firstSites_succ (S : Server) (c : Credentials) (k : Nat) :
    firstSites S c (k + 1) =
      firstSites S c k ++ (S.page (S.apiToken c) (k + 1)).map SiteEntry.siteId := by
  rw [firstSites, List.take_add_one, List.flatten_append, List.map_append, ← firstSites]
  cases h : (S.pages (S.apiToken c))[k]? <;> simp [Server.page, h]

theorem firstSites_subset_succ (S : Server) (c : Credentials) (k : Nat) :
    firstSites S c k ⊆ firstSites S c (k + 1) := by
  rw [firstSites_succ]
  exact List.subset_append_left _ _

theorem firstSites_one_subset (S : Server) (c : Credentials) {k : Nat} (hk : 0 < k) :
    firstSites S c 1 ⊆ firstSites S c k := by
  induction k, hk using Nat.le_induction with
  | base => exact fun _ h => h
  | succ k _ ih => exact fun _ h => firstSites_subset_succ S c k (ih h)

theorem issued_subset (S : Server) (c : Credentials) (k : Nat) :
    issued S c k ⊆ firstSites S c k := by
  induction k with
  | zero => simp [issued]
  | succ k ih =>
    intro id hid
    rcases List.mem_append.mp hid with hid | hid
    · exact firstSites_subset_succ S c k (ih hid)
    · exact hid

theorem firstSites_subset_issued (S : Server) (c : Credentials) {k : Nat} (hk : 0 < k) :
    firstSites S c k ⊆ issued S c k := by
  obtain ⟨k, rfl⟩ := Nat.exists_eq_add_of_lt hk
  rw [Nat.zero_add]
  exact List.subset_append_right _ _

theorem atAuth_init {s : Session} (h : (loginAttempt S c).init s) : AtAuth c s := by
  obtain ⟨s₀, hp, hpo, ha, hsig, rfl⟩ := h
  refine ⟨?_, ?_, ?_, ?_, ?_, ?_⟩
  · rw [begin, apply_requests]
    simp [requests, hp, Meepo.start]
  all_goals simp [begin, Meepo.start, Meepo.clear, hpo, ha, hsig]

theorem inv_init {s : Session} (h : (loginAttempt S c).init s) : Inv S c s :=
  Or.inl (atAuth_init h)

/-! ### What a reply does -/

section Deliver

variable (S) (s : Session) (p : Pending) (ok : Bool)

@[simp] theorem deliver_meepo :
    (s.deliver S p ok).meepo = (s.meepo.dispatchReply S p.request ok).meepo := by
  simp [deliver]

@[simp] theorem deliver_answered : (s.deliver S p ok).answered = s.answered ++ [p.request] := by
  simp [deliver]

@[simp] theorem deliver_posted : (s.deliver S p ok).posted =
    s.posted ++ (s.meepo.dispatchReply S p.request ok).posts := by
  simp [deliver]

@[simp] theorem deliver_signals : (s.deliver S p ok).signals =
    s.signals ++ (s.meepo.dispatchReply S p.request ok).signals := by
  simp [deliver]

end Deliver

/-- Every request posted is in flight or answered. -/
theorem posted_deliver {s : Session} {p : Pending} (hp : p ∈ s.pending)
    (h : s.posted.Perm (s.requests ++ s.answered)) :
    (s.deliver S p true).posted.Perm
      ((s.deliver S p true).requests ++ (s.deliver S p true).answered) := by
  obtain ⟨rest, hrest, hnew⟩ := requests_deliver S hp true
  rw [hnew, deliver_posted, deliver_answered, List.perm_iff_count]
  intro r
  have h₁ := h.count_eq r
  have h₂ := hrest.count_eq r
  simp only [List.count_append, List.count_cons, List.count_nil] at h₁ h₂ ⊢
  omega

theorem atAuth_deliver {s : Session} {p : Pending} (h : AtAuth c s) (hp : p ∈ s.pending) :
    Dead S c (s.deliver S p true) ∨ Live S c 0 [] [] (s.deliver S p true) := by
  obtain ⟨rest, hrest, hnew⟩ := requests_deliver S hp true
  have hposted := posted_deliver (S := S) hp (by simp [h.inFlight, h.answered, h.posted])
  rw [h.inFlight, List.singleton_perm] at hrest
  obtain ⟨hr, rfl⟩ : p.request = .auth c ∧ rest = [] := by simpa using hrest.symm
  by_cases htok : S.apiToken c = ""
  · have hout : s.meepo.dispatchReply S p.request true =
        Meepo.fail { s.meepo with apiToken := "" } "invalid API token" := by
      simp [Meepo.dispatchReply, hr, Meepo.handleAuthReply, htok]
    refine Or.inl ⟨?_, ?_, Or.inl htok, ?_, ?_⟩
    · simpa [hout, Meepo.fail] using hnew
    · simp [hout, Meepo.fail, h.sites]
    · simp [hout, Meepo.fail, h.posted]
    · simp [hout, Meepo.fail, h.signals]
  · have hout : s.meepo.dispatchReply S p.request true =
        { meepo := { s.meepo with apiToken := S.apiToken c }
          posts := [.sites (S.apiToken c) 1] } := by
      simp [Meepo.dispatchReply, hr, Meepo.handleAuthReply, htok]
    refine Or.inr ⟨htok, ?_, ?_, ?_, ?_, ?_, ?_, hposted, ?_, ?_⟩
    · simp [hout]
    · simp [hout, h.sites, firstSites]
    · simp [hnew, hout, nextSites]
    · simp [h.answered, hr]
    · simp [issued]
    · simp [hout, h.remaining]
    · exact fun h0 => absurd h0 (Nat.lt_irrefl 0)
    · simp [hout, h.signals]

/-- A request in flight is the next sites request or a downloads request. -/
theorem Live.request_cases {k : Nat} {D E : List Int} {s : Session} {p : Pending}
    (h : Live S c k D E s) (hp : p ∈ s.pending) :
    (p.request = .sites (S.apiToken c) (k + 1) ∧
      (k = 0 ∨ k < (S.pages (S.apiToken c)).length)) ∨
    ∃ id ∈ D, p.request = .downloads (S.apiToken c) id := by
  have hmem : p.request ∈ s.requests := List.mem_map_of_mem hp
  rcases List.mem_append.mp (h.inFlight.mem_iff.mp hmem) with hr | hr
  · rw [nextSites] at hr
    split_ifs at hr with hk
    · exact Or.inl ⟨List.mem_singleton.mp hr, hk⟩
    · exact absurd hr (List.not_mem_nil)
  · obtain ⟨id, hid, hr⟩ := List.mem_map.mp hr
    exact Or.inr ⟨id, hid, hr.symm⟩

/-- The sites after the reply of page `k + 1`. -/
private theorem Live.sites_append {k : Nat} {D E : List Int} {s : Session}
    (h : Live S c k D E s) :
    (s.meepo.sites ++ Meepo.sitesFromReply (S.page (S.apiToken c) (k + 1))).map
      GondarSite.siteId = firstSites S c (k + 1) := by
  rw [firstSites_succ, ← h.sites, List.map_append]
  simp [Meepo.sitesFromReply, Function.comp_def]

/-- On an account whose first page is empty nothing is read after that page. -/
private theorem Live.eq_zero_of_empty {k : Nat} {D E : List Int} {s : Session}
    (h : Live S c k D E s) (hfirst : firstSites S c 1 = []) : k = 0 ∧ D = [] ∧ E = [] := by
  have hk : k = 0 := by
    by_contra hne
    exact h.nonempty (Nat.pos_of_ne_zero hne) hfirst
  subst hk
  exact ⟨rfl, by simpa [Session.issued] using h.issued⟩

/-- The counter is zero after a sites reply only on an account whose first page is empty. -/
private theorem Live.remaining_eq_zero_iff {k : Nat} {D E : List Int} {s : Session}
    (h : Live S c k D E s) :
    ((D ++ firstSites S c (k + 1)).length + E.count (-1) : Int) = 0 ↔ firstSites S c 1 = [] := by
  constructor
  · intro hzero
    rw [List.length_append] at hzero
    have hnil : firstSites S c (k + 1) = [] := List.eq_nil_of_length_eq_zero (by omega)
    exact List.eq_nil_of_subset_nil (hnil ▸ firstSites_one_subset S c (Nat.succ_pos k))
  · intro hfirst
    obtain ⟨rfl, rfl, rfl⟩ := h.eq_zero_of_empty hfirst
    simp [hfirst]

/-- `handleSitesReply` on page `k + 1`. It fails only on an account whose first page has no
sites; otherwise it requests the downloads of the sites of all pages so far, and the next page. -/
private theorem Live.dispatch_sites {k : Nat} {D E : List Int} {s : Session}
    (h : Live S c k D E s) :
    let o := s.meepo.dispatchReply S (.sites (S.apiToken c) (k + 1)) true
    (k = 0 ∧ D = [] ∧ E = [] ∧ firstSites S c 1 = [] ∧ o.meepo.sites = [] ∧ o.posts = [] ∧
      .finished ∉ o.signals) ∨
    (firstSites S c 1 ≠ [] ∧ o.meepo.apiToken = S.apiToken c ∧
      o.meepo.sites.map GondarSite.siteId = firstSites S c (k + 1) ∧
      o.meepo.sitesRemaining = (D ++ firstSites S c (k + 1)).length + E.count (-1) ∧
      o.posts = (firstSites S c (k + 1)).map (.downloads (S.apiToken c)) ++
        nextSites S c (k + 1)) := by
  intro o
  have hids := h.sites_append
  let sites' := s.meepo.sites ++ Meepo.sitesFromReply (S.page (S.apiToken c) (k + 1))
  have hlen : sites'.length = (firstSites S c (k + 1)).length := by rw [← hids, List.length_map]
  let m' := { s.meepo with
    sites := sites', sitesRemaining := s.meepo.sitesRemaining + sites'.length }
  have hrem : m'.sitesRemaining = (D ++ firstSites S c (k + 1)).length + E.count (-1) := by
    change s.meepo.sitesRemaining + (sites'.length : Int) = _
    rw [h.remaining, hlen, List.length_append]
    omega
  by_cases hfirst : firstSites S c 1 = []
  · have ho : o = m'.fail noSitesError := if_pos (hrem.trans (h.remaining_eq_zero_iff.mpr hfirst))
    obtain ⟨rfl, hD, hE⟩ := h.eq_zero_of_empty hfirst
    refine Or.inl ⟨rfl, hD, hE, hfirst, ?_, ?_, ?_⟩
    · simpa [ho, Meepo.fail, m', sites', hfirst] using hids
    · rw [ho, Meepo.fail]
    · simp [ho, Meepo.fail]
  · have ho : o =
        { meepo := m'
          posts := sites'.map (fun site => .downloads s.meepo.apiToken site.siteId) ++
            if 0 < Meepo.getNextPage (k + 1) (S.pages (S.apiToken c)).length then
              [.sites s.meepo.apiToken
                (Meepo.getNextPage (k + 1) (S.pages (S.apiToken c)).length)] else [] } :=
      if_neg fun hzero => hfirst (h.remaining_eq_zero_iff.mp (hrem.symm.trans hzero))
    refine Or.inr ⟨hfirst, ?_, ?_, ?_, ?_⟩
    · rw [ho]
      exact h.token
    · rw [ho]
      exact hids
    · rw [ho]
      exact hrem
    · rw [ho, ← hids, h.token, nextSites, Meepo.getNextPage]
      by_cases hlast : k + 1 < (S.pages (S.apiToken c)).length <;>
        simp [hlast, sites', Function.comp_def]

/-- The sites reply of page `k + 1`: the attempt ends on an account whose first page is empty,
and otherwise goes on with the downloads of the sites of all pages so far in flight. -/
theorem Live.deliver_sites {k : Nat} {D E : List Int} {s : Session} {p : Pending}
    (h : Live S c k D E s) (hp : p ∈ s.pending)
    (hr : p.request = .sites (S.apiToken c) (k + 1))
    (hk : k = 0 ∨ k < (S.pages (S.apiToken c)).length) :
    (k = 0 ∧ Dead S c (s.deliver S p true)) ∨
      Live S c (k + 1) (D ++ firstSites S c (k + 1)) E (s.deliver S p true) := by
  obtain ⟨rest, hrest, hnew⟩ := requests_deliver S hp true
  have hposted := posted_deliver (S := S) hp h.posted
  have hrest' : rest.Perm (D.map (.downloads (S.apiToken c))) := by
    have hflight := hrest.symm.trans h.inFlight
    rw [hr, nextSites, if_pos hk] at hflight
    exact hflight.cons_inv
  rw [hr] at hnew
  rcases h.dispatch_sites with ⟨rfl, rfl, rfl, hfirst, hsites, hposts, hquiet⟩ |
    ⟨hfirst, htoken, hsites, hrem, hposts⟩
  · refine Or.inl ⟨rfl, ⟨?_, ?_, Or.inr hfirst, ?_, ?_⟩⟩
    · simpa [hnew, hposts] using hrest'
    · simpa [hr] using hsites
    · intro id hmem
      rw [deliver_posted, hr, hposts, List.append_nil] at hmem
      have hmem' := (h.posted.trans (h.inFlight.append h.answered)).mem_iff.mp hmem
      simp [nextSites] at hmem'
    · rw [deliver_signals, hr, List.mem_append]
      exact not_or.mpr ⟨h.quiet rfl, hquiet⟩
  · refine Or.inr ⟨h.token_ne, ?_, ?_, ?_, ?_, ?_, ?_, hposted, fun _ => hfirst, ?_⟩
    · simpa [hr] using htoken
    · simpa [hr] using hsites
    · rw [hnew, hposts, List.map_append, ← List.append_assoc, ← List.append_assoc]
      exact ((hrest'.append_right _).append_right _).trans List.perm_append_comm |>.trans
        (by rw [List.append_assoc])
    · rw [deliver_answered, hr, List.perm_iff_count]
      intro r
      have hcount := h.answered.count_eq r
      simp only [List.range_succ, List.map_append, List.map_cons, List.map_nil, List.count_append,
        List.count_cons, List.count_nil, List.cons_append] at hcount ⊢
      omega
    · rw [List.perm_iff_count]
      intro id
      have hcount := h.issued.count_eq id
      simp only [Session.issued, List.count_append] at hcount ⊢
      omega
    · simpa [hr] using hrem
    · exact fun h0 => absurd h0 (Nat.succ_ne_zero k)

theorem foldl_addImage (images : List GondarImage) (site : GondarSite) :
    images.foldl GondarSite.addImage site =
      { site with imageList := site.imageList ++ images } := by
  induction images generalizing site with
  | nil => simp
  | cons image images ih => rw [List.foldl_cons, ih]; simp [GondarSite.addImage]

private theorem map_siteId_modify (sites : List GondarSite) (i : Nat) (images : List GondarImage) :
    (sites.modify i fun site => images.foldl GondarSite.addImage site).map GondarSite.siteId =
      sites.map GondarSite.siteId := by
  induction sites generalizing i with
  | nil => simp
  | cons site sites ih =>
    cases i with
    | zero => simp [foldl_addImage]
    | succ i => simp [ih i]

/-- `handleDownloadsReply` for a site of the account. -/
theorem Live.dispatch_downloads {k : Nat} {D E : List Int} {s : Session} (h : Live S c k D E s)
    {id : Int} (hid : id ∈ D) :
    let o := s.meepo.dispatchReply S (.downloads (S.apiToken c) id) true
    o.posts = [] ∧ o.meepo.apiToken = s.meepo.apiToken ∧
      o.meepo.sites.map GondarSite.siteId = s.meepo.sites.map GondarSite.siteId ∧
      ((id = -1 ∧ o.meepo.sitesRemaining = s.meepo.sitesRemaining ∧
          o.meepo.sites = s.meepo.sites ∧ .finished ∉ o.signals) ∨
        (id ≠ -1 ∧ o.meepo.sitesRemaining = s.meepo.sitesRemaining - 1 ∧
          (∃ i, s.meepo.siteFromSiteId id = some i ∧
            o.meepo.sites = s.meepo.sites.modify i fun site =>
              (S.links (S.apiToken c) id).images.foldl GondarSite.addImage site) ∧
          o.signals = if s.meepo.sitesRemaining - 1 = 0 then [.finished] else [])) := by
  intro o
  by_cases hneg : id = -1
  · have ho : o = s.meepo.fail "missing site ID" := if_pos hneg
    rw [ho]
    exact ⟨rfl, rfl, rfl, Or.inl ⟨hneg, rfl, rfl, by simp [Meepo.fail]⟩⟩
  · -- the downloads in flight are those of sites of the account, so the site is found
    have hmem : id ∈ s.meepo.sites.map GondarSite.siteId := by
      rw [h.sites]
      exact issued_subset S c k (h.issued.subset (List.mem_append_left _ hid))
    obtain ⟨i, hi⟩ : ∃ i, s.meepo.siteFromSiteId id = some i := by
      rw [← Option.isSome_iff_exists, Meepo.siteFromSiteId, List.findIdx?_isSome, List.any_eq_true]
      obtain ⟨site, hsite, rfl⟩ := List.mem_map.mp hmem
      exact ⟨site, hsite, by simp⟩
    have ho : o =
        { meepo := { s.meepo with
            sites := s.meepo.sites.modify i fun site =>
              (S.links (S.apiToken c) id).images.foldl GondarSite.addImage site
            sitesRemaining := s.meepo.sitesRemaining - 1 }
          signals := if s.meepo.sitesRemaining - 1 = 0 then [.finished] else [] } := by
      change s.meepo.handleDownloadsReply id _ = _
      rw [Meepo.handleDownloadsReply, if_neg hneg, hi]
    rw [ho]
    exact ⟨rfl, rfl, map_siteId_modify _ _ _, Or.inr ⟨hneg, rfl, ⟨i, hi, rfl⟩, rfl⟩⟩

/-- A downloads reply moves its site from those in flight to those answered. -/
theorem Live.deliver_downloads {k : Nat} {D E : List Int} {s : Session} {p : Pending}
    (h : Live S c k D E s) (hp : p ∈ s.pending) {id : Int} (hid : id ∈ D)
    (hr : p.request = .downloads (S.apiToken c) id) :
    Live S c k (D.erase id) (E ++ [id]) (s.deliver S p true) := by
  obtain ⟨rest, hrest, hnew⟩ := requests_deliver S hp true
  have hposted := posted_deliver (S := S) hp h.posted
  have hlen : (D.erase id).length + 1 = D.length := by
    rw [List.length_erase_of_mem hid]
    have := List.length_pos_of_mem hid
    omega
  rw [hr] at hnew
  obtain ⟨hposts, htoken, hsites, hcases⟩ := h.dispatch_downloads hid
  refine ⟨h.token_ne, ?_, ?_, ?_, ?_, ?_, ?_, hposted, h.nonempty, ?_⟩
  · simpa [hr, htoken] using h.token
  · simpa [hr, hsites] using h.sites
  · rw [hnew, hposts, List.append_nil, List.perm_iff_count]
    intro r
    have h₁ := hrest.count_eq r
    have h₂ := h.inFlight.count_eq r
    have h₃ := ((List.perm_cons_erase hid).map (Request.downloads (S.apiToken c))).count_eq r
    simp only [hr, List.count_append, List.map_cons, List.count_cons] at h₁ h₂ h₃ ⊢
    omega
  · rw [deliver_answered, hr, List.map_append, ← List.append_assoc]
    exact h.answered.append_right _
  · rw [List.perm_iff_count]
    intro j
    have h₁ := h.issued.count_eq j
    have h₂ := (List.perm_cons_erase hid).count_eq j
    simp only [List.count_append, List.count_cons, List.count_nil] at h₁ h₂ ⊢
    omega
  · rw [deliver_meepo, hr, List.count_append]
    rcases hcases with ⟨rfl, hrem, -, -⟩ | ⟨hne, hrem, -, -⟩
    · simp only [hrem, h.remaining, List.count_cons, List.count_nil, BEq.rfl, ↓reduceIte]
      omega
    · have hb : (id == -1) = false := by simpa using hne
      simp only [hrem, h.remaining, List.count_cons, List.count_nil, hb, Bool.false_eq_true,
        ↓reduceIte]
      omega
  · -- before the first page there are no sites, hence no downloads
    rintro rfl
    have hD : D = [] ∧ E = [] := by simpa [Session.issued] using h.issued
    simp [hD.1] at hid

/-! ### Runs -/

theorem inv_step {s s' : Session} {p : Pending} (h : Inv S c s)
    (hs : (loginAttempt S c).step s p = some s') : Inv S c s' := by
  obtain ⟨hp, rfl⟩ := loginAttempt_step hs
  rcases h with hauth | hdead | ⟨k, D, E, hlive⟩
  · rcases atAuth_deliver hauth hp with hdead | hlive
    · exact Or.inr (Or.inl hdead)
    · exact Or.inr (Or.inr ⟨0, [], [], hlive⟩)
  · have hnil : s.pending = [] := by simpa [requests] using hdead.inFlight
    simp [hnil] at hp
  · rcases hlive.request_cases hp with ⟨hr, hk⟩ | ⟨id, hid, hr⟩
    · rcases hlive.deliver_sites hp hr hk with ⟨-, hdead⟩ | hlive'
      · exact Or.inr (Or.inl hdead)
      · exact Or.inr (Or.inr ⟨_, _, _, hlive'⟩)
    · exact Or.inr (Or.inr ⟨_, _, _, hlive.deliver_downloads hp hid hr⟩)

theorem inv_of_run {es : List Pending} {s : Session} (h : (loginAttempt S c).Run es s) :
    Inv S c s :=
  h.invariant (fun _ => inv_init) fun _ _ _ hi _ hs => inv_step hi hs

/-- The states of an attempt on an account with one page; `P D E` is what is known of a state in
which the page has been handled, the downloads of `D` are in flight and those of `E` answered. -/
def OnePage (S : Server) (c : Credentials) (P : List Int → List Int → Session → Prop)
    (s : Session) : Prop :=
  AtAuth c s ∨ Dead S c s ∨ Live S c 0 [] [] s ∨ ∃ D E, Live S c 1 D E s ∧ P D E s

/-- On an account with one page there is one sites reply, and then downloads replies only. -/
theorem onePage_of_run {P : List Int → List Int → Session → Prop}
    (hn : (S.pages (S.apiToken c)).length ≤ 1)
    (hsites : ∀ s p, Live S c 0 [] [] s → p.request = .sites (S.apiToken c) 1 →
      Live S c 1 (firstSites S c 1) [] (s.deliver S p true) →
      P (firstSites S c 1) [] (s.deliver S p true))
    (hdownloads : ∀ s p D E id, Live S c 1 D E s → P D E s → id ∈ D →
      p.request = .downloads (S.apiToken c) id →
      P (D.erase id) (E ++ [id]) (s.deliver S p true))
    {es : List Pending} {s : Session} (h : (loginAttempt S c).Run es s) : OnePage S c P s := by
  refine h.invariant (fun s hs => Or.inl (atAuth_init hs)) ?_
  rintro s p s' hI - hs
  obtain ⟨hp, rfl⟩ := loginAttempt_step hs
  rcases hI with hauth | hdead | hlive | ⟨D, E, hlive, hP⟩
  · rcases atAuth_deliver hauth hp with hdead | hlive
    · exact Or.inr (Or.inl hdead)
    · exact Or.inr (Or.inr (Or.inl hlive))
  · have hnil : s.pending = [] := by simpa [requests] using hdead.inFlight
    simp [hnil] at hp
  · rcases hlive.request_cases hp with ⟨hr, hk⟩ | ⟨id, hid, -⟩
    · rcases hlive.deliver_sites hp hr hk with ⟨-, hdead⟩ | hlive'
      · exact Or.inr (Or.inl hdead)
      · exact Or.inr (Or.inr (Or.inr ⟨_, _, hlive', hsites s p hlive hr hlive'⟩))
    · simp at hid
  · rcases hlive.request_cases hp with ⟨-, hk⟩ | ⟨id, hid, hr⟩
    · omega
    · exact Or.inr (Or.inr (Or.inr ⟨_, _, hlive.deliver_downloads hp hid hr,
        hdownloads s p D E id hlive hP hid hr⟩))

/-- Whether a request is one for the downloads of a site. -/
def isDownloads : Request → Bool
  | .downloads _ _ => true
  | _ => false

/-- How far an attempt is from its end: the auth and sites replies still to come at most, and the
requests in flight. -/
private def distance (S : Server) (c : Credentials) (s : Session) : Nat × Nat :=
  (max 1 (S.pages (S.apiToken c)).length + 1 - s.answered.countP fun r => !isDownloads r,
    s.requests.length)

private theorem Live.countP_answered {k : Nat} {D E : List Int} {s : Session}
    (h : Live S c k D E s) : (s.answered.countP fun r => !isDownloads r) = k + 1 := by
  rw [h.answered.countP_eq]
  simp [isDownloads, List.countP_map, Function.comp_def]

private theorem exists_closer {s : Session} (h : Inv S c s) (hne : s.requests ≠ []) :
    ∃ p s', (loginAttempt S c).step s p = some s' ∧ Inv S c s' ∧
      Prod.Lex (· < ·) (· < ·) (distance S c s') (distance S c s) := by
  rcases h with hauth | hdead | ⟨k, D, E, hlive⟩
  · obtain ⟨p, hp, hr, hstep⟩ := exists_step (S := S) (c := c) (s := s) (r := .auth c)
      (by simp [hauth.inFlight])
    refine ⟨p, _, hstep, inv_step (Or.inl hauth) hstep, Prod.Lex.left _ _ ?_⟩
    simp only [deliver_answered, hauth.answered, hr, List.nil_append, List.countP_singleton,
      isDownloads, Bool.not_false, ↓reduceIte, List.countP_nil]
    omega
  · exact absurd hdead.inFlight hne
  · have hcount := hlive.countP_answered
    by_cases hk : k = 0 ∨ k < (S.pages (S.apiToken c)).length
    · -- the next page is in flight
      obtain ⟨p, hp, hr, hstep⟩ := exists_step (S := S) (c := c) (s := s)
        (r := .sites (S.apiToken c) (k + 1))
        (hlive.inFlight.mem_iff.mpr (by simp [nextSites, hk]))
      refine ⟨p, _, hstep, inv_step (Or.inr (Or.inr ⟨k, D, E, hlive⟩)) hstep,
        Prod.Lex.left _ _ ?_⟩
      have hcount' :
          ((s.deliver S p true).answered.countP fun r => !isDownloads r) = k + 1 + 1 := by
        rw [deliver_answered, List.countP_append, hcount, hr]
        rfl
      rw [hcount, hcount']
      omega
    · -- only downloads are in flight
      obtain ⟨r, hmem⟩ := List.exists_mem_of_ne_nil _ hne
      obtain ⟨p, hp, rfl, hstep⟩ := exists_step (S := S) (c := c) hmem
      rcases hlive.request_cases hp with ⟨-, hk'⟩ | ⟨id, hid, hr⟩
      · exact absurd hk' hk
      · refine ⟨p, _, hstep, inv_step (Or.inr (Or.inr ⟨k, D, E, hlive⟩)) hstep, ?_⟩
        obtain ⟨rest, hrest, hnew⟩ := requests_deliver S hp true
        rw [hr, (hlive.dispatch_downloads hid).1, List.append_nil] at hnew
        have hfst : (distance S c (s.deliver S p true)).1 = (distance S c s).1 := by
          simp [distance, hr, isDownloads]
        have hsnd : (distance S c (s.deliver S p true)).2 < (distance S c s).2 := by
          simp [distance, hnew, hrest.length_eq]
        exact Prod.lex_def.mpr (Or.inr ⟨hfst, hsnd⟩)

/-- From every state of an attempt some replies lead to a state with no request in flight. -/
theorem exists_quiet {es : List Pending} {s : Session} (h : (loginAttempt S c).Run es s) :
    ∃ fs s', (loginAttempt S c).Run (es ++ fs) s' ∧ s'.requests = [] := by
  obtain ⟨fs, s', hexec, -, hquiet⟩ := Machine.exists_exec
    (WellFounded.prod_lex wellFounded_lt wellFounded_lt) (distance S c)
    (fun _ hI hne => exists_closer hI hne) s (inv_of_run h)
  exact ⟨fs, s', h.append hexec, hquiet⟩

end UsbMaker.Session
