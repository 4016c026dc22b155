import UsbMaker.Meepo.Attempt
import Mathlib.Data.List.Count
import Mathlib.Data.List.Nodup

/-!
# Downloads of each site, exactly once

Each sites reply requests the downloads of all sites known so far, not only of the new ones. On
an account with a second page the downloads of the first page are therefore requested again, and
their images are added a second time. This file determines the accounts on which every site is
asked for once and ends up with its own images (`exactly_once_iff`): those without sites, and
those with one page. A site with the id `-1` is skipped by `handleDownloadsReply`, which takes the
id for a missing one, so such a site must have no images.

## Main definitions

* `Session.ExactlyOnce`.

## Main results

* `Session.exactly_once_iff`.
-/

namespace UsbMaker.Session

variable {S : Server} {c : Credentials}

/-- All sites of the account, over all pages. -/
def allSites (S : Server) (c : Credentials) : List SiteEntry := (S.pages (S.apiToken c)).flatten

/-- The downloads of every site have been requested once, and every site has the images of its
downloads reply. -/
def ExactlyOnce (S : Server) (c : Credentials) (s : Session) : Prop :=
  (∀ entry ∈ allSites S c, s.posted.count (.downloads (S.apiToken c) entry.siteId) = 1) ∧
    s.meepo.sites = (allSites S c).map fun entry =>
      ⟨entry.siteId, entry.name, (S.links (S.apiToken c) entry.siteId).images⟩

/-! ### How often downloads are requested -/

/-- Every sites reply so far has requested the downloads of the sites of the first page. -/
theorem le_count_issued {id : Int} (hid : id ∈ firstSites S c 1) (k : Nat) :
    k ≤ (issued S c k).count id := by
  induction k with
  | zero => exact Nat.zero_le _
  | succ k ih =>
    have : 0 < (firstSites S c (k + 1)).count id :=
      List.count_pos_iff.mpr (firstSites_one_subset S c (Nat.succ_pos k) hid)
    rw [issued, List.count_append]
    omega

/-- In a state with no request in flight every download requested has been answered. -/
theorem Live.count_posted {k : Nat} {D E : List Int} {s : Session} (h : Live S c k D E s)
    (hquiet : s.requests = []) (id : Int) :
    D = [] ∧ (k ≠ 0 ∧ (S.pages (S.apiToken c)).length ≤ k) ∧
      s.posted.count (.downloads (S.apiToken c) id) = (Session.issued S c k).count id := by
  have hflight := h.inFlight
  rw [hquiet, List.nil_perm, List.append_eq_nil_iff, List.map_eq_nil_iff] at hflight
  obtain ⟨hnext, rfl⟩ := hflight
  refine ⟨rfl, ?_, ?_⟩
  · rw [nextSites] at hnext
    split_ifs at hnext with hk
    omega
  · have hinj : Function.Injective (Request.downloads (S.apiToken c)) := fun _ _ h => by
      injection h
    have hpost := h.posted.count_eq (.downloads (S.apiToken c) id)
    have hans := h.answered.count_eq (.downloads (S.apiToken c) id)
    have hissued := h.issued.count_eq id
    rw [hquiet, List.nil_append] at hpost
    rw [List.nil_append] at hissued
    rw [hpost, hans, ← hissued, List.count_append, List.count_map_of_injective _ _ hinj,
      List.count_eq_zero_of_not_mem (by simp), Nat.zero_add]

/-! ### What a site has collected -/

/-- A site of the account once the downloads of `E` have been answered. -/
private def collected (S : Server) (c : Credentials) (E : List Int) (entry : SiteEntry) :
    GondarSite :=
  ⟨entry.siteId, entry.name,
    if entry.siteId ∈ E ∧ entry.siteId ≠ -1 then (S.links (S.apiToken c) entry.siteId).images
    else []⟩

private def Collected (S : Server) (c : Credentials) (_ E : List Int) (s : Session) : Prop :=
  s.meepo.sites = (S.page (S.apiToken c) 1).map (collected S c E)

theorem dispatchReply_sites_sites (m : Meepo) (token : String) (page : Nat) :
    (m.dispatchReply S (.sites token page) true).meepo.sites =
      m.sites ++ Meepo.sitesFromReply (S.page token page) := by
  simp only [Meepo.dispatchReply, Meepo.handleSitesReply, Bool.not_true, Bool.false_eq_true,
    ↓reduceIte]
  split_ifs <;> rfl

/-- Where ids are distinct, changing the first site with an id changes that site only. -/
private theorem modify_siteFromSiteId {entries : List SiteEntry} {f : SiteEntry → GondarSite}
    (hf : ∀ entry, (f entry).siteId = entry.siteId)
    (hnodup : (entries.map SiteEntry.siteId).Nodup) {id : Int} {i : Nat}
    (hi : (entries.map f).findIdx? (fun site => site.siteId = id) = some i)
    (g : GondarSite → GondarSite) :
    (entries.map f).modify i g =
      entries.map fun entry => if entry.siteId = id then g (f entry) else f entry := by
  induction entries generalizing i with
  | nil => simp at hi
  | cons entry entries ih =>
    simp only [List.map_cons, List.nodup_cons] at hnodup
    by_cases hid : entry.siteId = id
    · have hrest : entries.map f =
          entries.map fun entry => if entry.siteId = id then g (f entry) else f entry := by
        refine List.map_congr_left fun other hother => ?_
        rw [if_neg]
        rintro rfl
        exact hnodup.1 (hid ▸ List.mem_map_of_mem hother)
      obtain rfl : i = 0 := by simpa [List.findIdx?_cons, hf, hid] using hi.symm
      simp [hid, hrest]
    · simp only [List.map_cons, List.findIdx?_cons, hf, hid, decide_false, Bool.false_eq_true,
        ↓reduceIte, Option.map_eq_some_iff] at hi
      obtain ⟨j, hj, rfl⟩ := hi
      simp [hid, ih hnodup.2 hj]

private theorem collected_sites {s : Session} {p : Pending} (h : Live S c 0 [] [] s)
    (hr : p.request = .sites (S.apiToken c) 1) :
    Collected S c (firstSites S c 1) [] (s.deliver S p true) := by
  have hnil : s.meepo.sites = [] := by simpa [firstSites] using h.sites
  rw [Collected, deliver_meepo, hr, dispatchReply_sites_sites, hnil, List.nil_append]
  exact List.map_congr_left fun entry _ => by simp [collected]

theorem firstSites_one : firstSites S c 1 = (S.page (S.apiToken c) 1).map SiteEntry.siteId := by
  rw [firstSites_succ]
  simp [firstSites]

private theorem collected_downloads (hnodup : (firstSites S c 1).Nodup) {D E : List Int}
    {s : Session} {p : Pending} (h : Live S c 1 D E s) (hcol : Collected S c D E s) {id : Int}
    (hid : id ∈ D) (hr : p.request = .downloads (S.apiToken c) id) :
    Collected S c (D.erase id) (E ++ [id]) (s.deliver S p true) := by
  have hfresh : id ∉ E := by
    have hdisj : (D ++ E).Nodup := (h.issued.trans (by simp [Session.issued])).nodup_iff.mpr hnodup
    exact fun hE => (List.nodup_append.mp hdisj).2.2 id hid id hE rfl
  rw [Collected, deliver_meepo, hr]
  rw [Collected] at hcol
  obtain ⟨-, -, -, ⟨rfl, -, hsites, -⟩ | ⟨hne, -, ⟨i, hi, hsites⟩, -⟩⟩ := h.dispatch_downloads hid
  · -- the reply of a site with the id `-1` is dropped
    rw [hsites, hcol]
    refine List.map_congr_left fun entry _ => ?_
    by_cases hentry : entry.siteId = -1 <;> simp [collected, hentry]
  · rw [hsites, hcol]
    rw [Meepo.siteFromSiteId, hcol] at hi
    rw [modify_siteFromSiteId (fun _ => rfl) (firstSites_one (S := S) (c := c) ▸ hnodup) hi]
    refine List.map_congr_left fun entry _ => ?_
    by_cases hentry : entry.siteId = id
    · simp [collected, foldl_addImage, hentry, hfresh, hne]
    · simp [collected, hentry]

/-! ### The accounts on which downloads are requested exactly once -/

private theorem allSites_eq (hn : (S.pages (S.apiToken c)).length = 1) :
    allSites S c = S.page (S.apiToken c) 1 := by
  obtain ⟨page, hpage⟩ := List.length_eq_one_iff.mp hn
  simp [allSites, Server.page, hpage]

/-- On an account with one page, the end of an attempt. -/
private theorem exactlyOnce_of_onePage (htok : S.apiToken c ≠ "")
    (hn : (S.pages (S.apiToken c)).length = 1)
    (hnodup : (firstSites S c 1).Nodup)
    (hneg : -1 ∈ firstSites S c 1 → (S.links (S.apiToken c) (-1)).images = [])
    {s : Session} (h : OnePage S c (Collected S c) s) (hquiet : s.requests = []) :
    ExactlyOnce S c s := by
  rcases h with hauth | hdead | hlive | ⟨D, E, hlive, hcol⟩
  · simp [hauth.inFlight] at hquiet
  · have hnil : allSites S c = [] := by
      have hfirst := hdead.cause.resolve_left htok
      rw [firstSites_one, List.map_eq_nil_iff] at hfirst
      rw [allSites_eq hn, hfirst]
    exact ⟨by simp [hnil], by simp [hnil, hdead.sites]⟩
  · exact absurd rfl (hlive.count_posted hquiet 0).2.1.1
  · obtain ⟨rfl, -, -⟩ := hlive.count_posted hquiet 0
    have hE : E.Perm (firstSites S c 1) := by simpa [Session.issued] using hlive.issued
    have hmem {entry : SiteEntry} (h : entry ∈ allSites S c) :
        entry.siteId ∈ firstSites S c 1 := by
      rw [firstSites_one, ← allSites_eq hn]
      exact List.mem_map_of_mem h
    constructor
    · intro entry hentry
      rw [(hlive.count_posted hquiet _).2.2]
      simpa [Session.issued] using List.count_eq_one_of_mem hnodup (hmem hentry)
    · rw [hcol, allSites_eq hn]
      refine List.map_congr_left fun entry hentry => ?_
      have hentry' := hmem (allSites_eq hn ▸ hentry)
      by_cases hid : entry.siteId = -1
      · rw [hid] at hentry'
        simp [collected, hid, hneg hentry']
      · simp [collected, hid, hE.mem_iff.mpr hentry']

/-- An attempt that fails asks for no downloads. -/
private theorem Dead.not_exactlyOnce {s : Session} (h : Dead S c s) (hne : allSites S c ≠ []) :
    ¬ ExactlyOnce S c s := by
  intro honce
  obtain ⟨entry, hentry⟩ := List.exists_mem_of_ne_nil _ hne
  have hcount := honce.1 entry hentry
  rw [List.count_eq_zero_of_not_mem (h.posted _)] at hcount
  omega

/-- On an account with a second page the sites of the first page are asked for again. -/
private theorem Live.not_exactlyOnce {k : Nat} {D E : List Int} {s : Session}
    (h : Live S c k D E s) (hlen : 2 ≤ (S.pages (S.apiToken c)).length)
    (hquiet : s.requests = []) : ¬ ExactlyOnce S c s := by
  intro honce
  obtain ⟨-, ⟨hk, hle⟩, -⟩ := h.count_posted hquiet 0
  obtain ⟨id, hid⟩ := List.exists_mem_of_ne_nil _ (h.nonempty (Nat.pos_of_ne_zero hk))
  have hid' := hid
  rw [firstSites_one] at hid'
  obtain ⟨first, hfirst, rfl⟩ := List.mem_map.mp hid'
  have hmem : first ∈ allSites S c := by
    have hpage : S.page (S.apiToken c) 1 ∈ S.pages (S.apiToken c) := by
      rw [Server.page, List.getElem?_eq_getElem (by omega)]
      exact List.getElem_mem _
    exact List.mem_flatten_of_mem hpage hfirst
  have hcount := honce.1 first hmem
  rw [(h.count_posted hquiet _).2.2] at hcount
  have := le_count_issued hid k
  omega

/-- A site with the id `-1` never gets its images. -/
private theorem images_eq_nil (hn : (S.pages (S.apiToken c)).length = 1) {s : Session}
    (hne : allSites S c ≠ []) (h : OnePage S c (Collected S c) s) (hquiet : s.requests = [])
    (honce : ExactlyOnce S c s) (hneg : -1 ∈ firstSites S c 1) :
    (S.links (S.apiToken c) (-1)).images = [] := by
  rcases h with hauth | hdead | hlive | ⟨D, E, hlive, hcol⟩
  · simp [hauth.inFlight] at hquiet
  · exact absurd honce (hdead.not_exactlyOnce hne)
  · exact absurd rfl (hlive.count_posted hquiet 0).2.1.1
  · rw [firstSites_one] at hneg
    obtain ⟨entry, hentry, hid⟩ := List.mem_map.mp hneg
    have hsites := honce.2
    rw [hcol, allSites_eq hn] at hsites
    have := List.map_inj_left.mp hsites entry hentry
    simpa [collected, hid] using this.symm

/-- An attempt can be run to its end. -/
private theorem exists_end (S : Server) (c : Credentials) :
    ∃ es s, (loginAttempt S c).Run es s ∧ s.requests = [] := by
  have hinit := loginAttempt_init S c
  obtain ⟨fs, s, hrun, hquiet⟩ := exists_quiet (Machine.RunWhere.init hinit)
  exact ⟨_, s, hrun, hquiet⟩

private theorem onePage_collected (hn : (S.pages (S.apiToken c)).length = 1)
    (hnodup : (firstSites S c 1).Nodup) {es : List Pending} {s : Session}
    (h : (loginAttempt S c).Run es s) : OnePage S c (Collected S c) s :=
  onePage_of_run hn.le (fun _ _ h hr _ => collected_sites h hr)
    (fun _ _ _ _ _ h hcol hid hr => collected_downloads hnodup h hcol hid hr) h

private theorem sites_eq_nil_of_allSites (hnil : allSites S c = []) {s : Session}
    (h : Inv S c s) : s.meepo.sites = [] := by
  rcases h with hauth | hdead | ⟨k, D, E, hlive⟩
  · exact hauth.sites
  · exact hdead.sites
  · have hempty : ((S.pages (S.apiToken c)).take k).flatten = [] :=
      List.eq_nil_of_subset_nil (hnil ▸ fun entry hentry => by
        obtain ⟨page, hpage, hmem⟩ := List.mem_flatten.mp hentry
        exact List.mem_flatten_of_mem (List.mem_of_mem_take hpage) hmem)
    simpa [firstSites, hempty] using hlive.sites

/-- **Downloads are requested exactly once, exactly on these accounts.** For an account with
distinct site ids, every order of the replies ends with each site asked for once and holding its
own images if and only if the account has no sites, or the login succeeds, there is exactly one
page, and a site with the id `-1` has no images. -/
theorem exactly_once_iff (S : Server) (c : Credentials)
    (hdistinct : ((allSites S c).map SiteEntry.siteId).Nodup) :
    (∀ es s, (loginAttempt S c).Run es s → s.requests = [] → ExactlyOnce S c s) ↔
      allSites S c = [] ∨
        (S.apiToken c ≠ "" ∧ (S.pages (S.apiToken c)).length = 1 ∧
          (-1 ∈ (allSites S c).map SiteEntry.siteId →
            (S.links (S.apiToken c) (-1)).images = [])) := by
  have hids (hn : (S.pages (S.apiToken c)).length = 1) :
      (allSites S c).map SiteEntry.siteId = firstSites S c 1 := by
    rw [firstSites_one, allSites_eq hn]
  constructor
  · intro hall
    by_cases hne : allSites S c = []
    · exact Or.inl hne
    obtain ⟨es, s, hrun, hquiet⟩ := exists_end S c
    have honce := hall es s hrun hquiet
    have hn : (S.pages (S.apiToken c)).length = 1 := by
      by_contra hn
      have h0 : (S.pages (S.apiToken c)).length ≠ 0 := fun h0 =>
        hne (by simp [allSites, List.eq_nil_of_length_eq_zero h0])
      rcases inv_of_run hrun with hauth | hdead | ⟨k, D, E, hlive⟩
      · simp [hauth.inFlight] at hquiet
      · exact hdead.not_exactlyOnce hne honce
      · exact hlive.not_exactlyOnce (by omega) hquiet honce
    refine Or.inr ⟨fun htok => ?_, hn, fun hneg => ?_⟩
    · rcases inv_of_run hrun with hauth | hdead | ⟨k, D, E, hlive⟩
      · simp [hauth.inFlight] at hquiet
      · exact hdead.not_exactlyOnce hne honce
      · exact hlive.token_ne htok
    · rw [hids hn] at hneg hdistinct
      exact images_eq_nil hn hne (onePage_collected hn hdistinct hrun) hquiet honce hneg
  · rintro (hnil | ⟨htok, hn, hneg⟩) es s hrun hquiet
    · exact ⟨by simp [hnil], by simp [hnil, sites_eq_nil_of_allSites hnil (inv_of_run hrun)]⟩
    · rw [hids hn] at hneg hdistinct
      exact exactlyOnce_of_onePage htok hn hdistinct hneg (onePage_collected hn hdistinct hrun)
        hquiet

/-- An account with one site on each of two pages, each with an image. -/
def siteOnEachPage : Server where
  apiToken _ := "token"
  pages _ := [[⟨1, "first"⟩], [⟨2, "second"⟩]]
  links _ _ := [("product", [("title", ⟨"https://host", ["image.zip"]⟩)])]

theorem exactly_once_iff_two_pages :
    ((allSites siteOnEachPage (.google "id")).map SiteEntry.siteId).Nodup ∧
      ¬ ∀ es s, (loginAttempt siteOnEachPage (.google "id")).Run es s → s.requests = [] →
        ExactlyOnce siteOnEachPage (.google "id") s :=
  ⟨by decide, (exactly_once_iff _ _ (by decide)).not.mpr (by decide)⟩

/-- The downloads of the first site are requested with both pages, and its image is there
twice. -/
theorem first_site_downloaded_twice :
    ∃ es s, (loginAttempt siteOnEachPage (.google "id")).Run es s ∧ s.requests = [] ∧
      s.posted.count (.downloads "token" 1) = 2 ∧
      s.meepo.sites.map (fun site => site.imageList.length) = [2, 1] ∧
      ¬ ExactlyOnce siteOnEachPage (.google "id") s := by
  have hrun : (loginAttempt siteOnEachPage (.google "id")).Run
      [⟨.auth (.google "id"), 1⟩, ⟨.sites "token" 1, 1⟩, ⟨.downloads "token" 1, 1⟩,
        ⟨.sites "token" 2, 1⟩, ⟨.downloads "token" 1, 1⟩, ⟨.downloads "token" 2, 1⟩] _ :=
    .of_exec (loginAttempt_init _ _) rfl
  refine ⟨_, _, hrun, by decide, by decide, by decide, fun h => ?_⟩
  exact absurd (h.1 ⟨1, "first"⟩ (by decide)) (by decide)

end UsbMaker.Session
