import UsbMaker.Download.Complete

/-!
# One download at a time, in order

The queue of a `DownloadManager` is worked off by `startNextDownload`, which is called by the end
of each download and by the zero timer of an `append` to an empty queue. The queue is empty as soon
as the last URL has been taken from it, so an `append` while that download runs starts a second one
beside it: both replies are then connected to the slots, which look at the second one only.

In the runs in which this does not happen (`Spaced`), whatever files fail to open and whatever
replies end in a network error, one download is active at most, the URLs are taken in the order in
which they were appended, every chunk is in the file of its URL (`Orderly`), and `finished()` is
emitted by the steps that drain the queue and by no others (`EmitsOnDrain`).

## Main definitions

* `DownloadManager.Orderly`, `DownloadManager.EmitsOnDrain`, `DownloadManager.Spaced`.
* `DownloadManager.AtRest`, `DownloadManager.Fetching`, `DownloadManager.OrderInv`.

## Main results

* `DownloadManager.startFrom_spec`: what `startNextDownload` leaves, past the files it skips.
* `DownloadManager.orderly_of_spaced`.
-/

namespace UsbMaker

/-- Whether a download is active: its file is open and its reply has not finished. -/
def Fetch.isActive (f : Fetch) : Bool := f.opened && f.reply = .pending

namespace DownloadManager

/-- No download is active. -/
def NoneActive (m : DownloadManager) : Prop := ∀ f ∈ m.fetches, f.isActive = false

instance (m : DownloadManager) : Decidable m.NoneActive :=
  inferInstanceAs (Decidable (∀ f ∈ m.fetches, _))

/-- The queue has not been drained: a URL is waiting or a download is active. -/
def working (m : DownloadManager) : Bool := m.downloadQueue ≠ [] || m.fetches.any Fetch.isActive

/-- What is expected of a download queue. -/
structure Orderly (m : DownloadManager) : Prop where
  /-- At most one download is active. -/
  oneActive : m.fetches.countP Fetch.isActive ≤ 1
  /-- The URLs attempted so far are the first ones appended, in this order; the others wait. -/
  inOrder : m.appended = m.fetches.map Fetch.url ++ m.downloadQueue
  /-- A URL that waits will be attempted. -/
  attempted : m.downloadQueue ≠ [] → m.deferred ≠ [] ∨ ¬ m.NoneActive
  /-- The chunks received for a URL are in its file. -/
  stored : ∀ f ∈ m.fetches, f.written = f.received

/-- A step emits `finished()` once when it drains the queue, and not otherwise. -/
def EmitsOnDrain (m m' : DownloadManager) : Prop :=
  m'.emitted = m.emitted + if m.working && !m'.working then 1 else 0

/-- The condition on a step: nothing is appended to an empty queue while a download is active, no
empty list is appended to an empty queue, and a write takes the whole chunk. -/
def Spaced (m : DownloadManager) : Event → Prop
  | .append _ => m.downloadQueue = [] → m.NoneActive
  | .appendList urlList => m.downloadQueue = [] → urlList ≠ [] ∧ m.NoneActive
  | .readyRead _ chunk accepted => chunk.length ≤ accepted
  | .timer | .finished _ _ => True

instance (m : DownloadManager) : (e : Event) → Decidable (Spaced m e)
  | .append _ => inferInstanceAs (Decidable (_ → _))
  | .appendList _ => inferInstanceAs (Decidable (_ → _ ∧ _))
  | .readyRead _ _ _ => inferInstanceAs (Decidable (_ ≤ _))
  | .timer | .finished _ _ => inferInstanceAs (Decidable True)

/-! ### The invariant -/

/-- The bookkeeping of the manager, whatever it is doing. -/
structure Kept (m : DownloadManager) : Prop where
  sound : m.dangling = false
  appended : m.appended = m.fetches.map Fetch.url ++ m.downloadQueue
  stored : ∀ f ∈ m.fetches, f.unread = [] ∧ f.written = f.received

/-- No download is active, and the next start is deferred exactly when a URL waits. -/
def AtRest (m : DownloadManager) : Prop :=
  m.NoneActive ∧ m.deferred = if m.downloadQueue = [] then [] else [.startNextDownload]

/-- The download of the last fetch is active and current, its file is open, and no other download
is active. -/
def Fetching (m : DownloadManager) : Prop :=
  ∃ done f, m.fetches = done ++ [f] ∧ (∀ g ∈ done, g.isActive = false) ∧ f.isActive = true ∧
    f.deleted = false ∧ m.currentDownload = some done.length ∧ m.outputOpen = true ∧
    m.deferred = []

/-- The invariant of spaced runs. -/
def OrderInv (m : DownloadManager) : Prop := m.Kept ∧ (m.AtRest ∨ m.Fetching)

theorem Fetching.working {m : DownloadManager} (h : m.Fetching) : m.working = true := by
  obtain ⟨done, f, hf, -, hact, -⟩ := h
  simp [DownloadManager.working, hf, hact]

theorem AtRest.working {m : DownloadManager} (h : m.AtRest) :
    m.working = decide (m.downloadQueue ≠ []) := by
  have hnone : m.fetches.any Fetch.isActive = false := by
    rw [List.any_eq_false]
    intro f hf
    simp [h.1 f hf]
  rw [DownloadManager.working, hnone, Bool.or_false]

theorem OrderInv.orderly {m : DownloadManager} (h : m.OrderInv) : m.Orderly := by
  obtain ⟨hkept, hphase⟩ := h
  refine ⟨?_, hkept.appended, ?_, fun f hf => (hkept.stored f hf).2⟩
  · rcases hphase with hrest | ⟨done, f, hf, hdone, -⟩
    · have hzero : m.fetches.countP Fetch.isActive = 0 :=
        List.countP_eq_zero.mpr fun f hf => by simp [hrest.1 f hf]
      omega
    · have hzero : done.countP Fetch.isActive = 0 :=
        List.countP_eq_zero.mpr fun g hg => by simp [hdone g hg]
      rw [hf, List.countP_append, hzero, Nat.zero_add]
      exact List.countP_le_length
  · intro hq
    rcases hphase with ⟨-, hdef⟩ | ⟨done, f, hf, -, hact, -⟩
    · exact Or.inl (by simp [hdef, hq])
    · refine Or.inr fun hnone => ?_
      simp [hnone f (by simp [hf])] at hact

theorem orderInv_init : OrderInv {} := by
  refine ⟨⟨rfl, rfl, by simp⟩, Or.inl ⟨?_, rfl⟩⟩
  intro f hf
  simp at hf

/-! ### Starting the next download -/

/-- What `startNextDownload` leaves when no download is active and nothing is deferred: files that
do not open are skipped, and either one opens or the queue is drained and `finished()` emitted. -/
theorem startFrom_spec (opens : Nat → Bool) (queue : List Url) (m : DownloadManager)
    (hkept : Kept { m with downloadQueue := queue }) (hnone : m.NoneActive)
    (hdef : m.deferred = []) :
    (startFrom opens queue m).Kept ∧
      (((startFrom opens queue m).AtRest ∧ (startFrom opens queue m).downloadQueue = [] ∧
          (startFrom opens queue m).emitted = m.emitted + 1) ∨
        ((startFrom opens queue m).Fetching ∧ (startFrom opens queue m).emitted = m.emitted)) := by
  induction queue generalizing m with
  | nil =>
    refine ⟨⟨hkept.sound, hkept.appended, hkept.stored⟩, Or.inl ⟨⟨hnone, ?_⟩, rfl, rfl⟩⟩
    simpa [startFrom] using hdef
  | cons url rest ih =>
    have hstored (opened : Bool) : ∀ f ∈ m.fetches ++ [{ url := url, opened := opened }],
        f.unread = [] ∧ f.written = f.received := by
      intro f hf
      rcases List.mem_append.mp hf with hf | hf
      · exact hkept.stored f hf
      · obtain rfl := List.mem_singleton.mp hf
        exact ⟨rfl, rfl⟩
    have happ : m.appended = m.fetches.map Fetch.url ++ url :: rest := hkept.appended
    rw [startFrom]
    by_cases ho : opens m.fetches.length = true
    · rw [if_pos ho]
      refine ⟨⟨hkept.sound, ?_, hstored true⟩, Or.inr ⟨?_, rfl⟩⟩
      · simp [happ]
      · exact ⟨m.fetches, _, rfl, hnone, rfl, rfl, rfl, rfl, hdef⟩
    · rw [if_neg ho]
      refine ih _ ⟨hkept.sound, ?_, hstored false⟩ ?_ hdef
      · simp [happ]
      · intro f hf
        rcases List.mem_append.mp hf with hf | hf
        · exact hnone f hf
        · obtain rfl := List.mem_singleton.mp hf
          rfl

/-- A step that works on the queue and ends in `startNextDownload`. -/
theorem orderInv_startNextDownload {opens : Nat → Bool} {m m' : DownloadManager}
    (hkept : m.Kept) (hnone : m.NoneActive) (hdef : m.deferred = [])
    (hwork : m'.working = true) (hem : m.emitted = m'.emitted) :
    (startNextDownload opens m).OrderInv ∧ EmitsOnDrain m' (startNextDownload opens m) := by
  obtain ⟨hkept', hcases⟩ := startFrom_spec opens m.downloadQueue m hkept hnone hdef
  rcases hcases with ⟨hrest, hq, hemit⟩ | ⟨hfetch, hemit⟩
  · refine ⟨⟨hkept', Or.inl hrest⟩, ?_⟩
    have hidle : (startNextDownload opens m).working = false :=
      hrest.working.trans (by simpa using hq)
    rw [EmitsOnDrain, hwork, hidle, ← hem]
    exact hemit
  · refine ⟨⟨hkept', Or.inr hfetch⟩, ?_⟩
    have hbusy : (startNextDownload opens m).working = true := hfetch.working
    rw [EmitsOnDrain, hbusy, ← hem, Bool.not_true, Bool.and_false]
    exact hemit

/-! ### Appending -/

theorem orderInv_append {m : DownloadManager} (h : m.OrderInv) (url : Url)
    (hC : m.downloadQueue = [] → m.NoneActive) : (m.append url).OrderInv := by
  obtain ⟨hkept, hphase⟩ := h
  have hkept' : (m.append url).Kept :=
    ⟨hkept.sound, by simp [append, hkept.appended], hkept.stored⟩
  rcases hphase with hrest | ⟨done, f, hf, hdone, hact, hd, hc, ho, hdef⟩
  · refine ⟨hkept', Or.inl ⟨hrest.1, ?_⟩⟩
    by_cases hq : m.downloadQueue = [] <;> simp [append, hrest.2, hq]
  · -- a download is active, so the queue is not empty and no start is deferred
    have hq : m.downloadQueue ≠ [] := by
      intro hq
      simp [hC hq f (by simp [hf])] at hact
    exact ⟨hkept', Or.inr ⟨done, f, hf, hdone, hact, hd, hc, ho, by simp [append, hq, hdef]⟩⟩

theorem orderInv_foldl_append {m : DownloadManager} (h : m.OrderInv) (urlList : List Url)
    (hq : m.downloadQueue ≠ []) :
    (urlList.foldl append m).OrderInv ∧ (urlList.foldl append m).downloadQueue ≠ [] := by
  induction urlList generalizing m with
  | nil => exact ⟨h, hq⟩
  | cons url urlList ih =>
    exact ih (orderInv_append h url fun h0 => absurd h0 hq) (append_queue_ne_nil m url)

/-- A list that is appended leaves URLs waiting. -/
theorem orderInv_appendList {m : DownloadManager} (h : m.OrderInv) {urlList : List Url}
    (hC : m.downloadQueue = [] → urlList ≠ [] ∧ m.NoneActive) :
    (m.appendList urlList).OrderInv ∧ (m.appendList urlList).downloadQueue ≠ [] := by
  have hfold : (urlList.foldl append m).OrderInv ∧ (urlList.foldl append m).downloadQueue ≠ [] := by
    cases urlList with
    | nil => exact ⟨h, fun hq => (hC hq).1 rfl⟩
    | cons url rest =>
      exact orderInv_foldl_append (orderInv_append h url fun hq => (hC hq).2) rest
        (append_queue_ne_nil m url)
  rw [appendList, if_neg hfold.2]
  exact hfold

/-- A step that appends emits nothing and leaves a URL waiting. -/
theorem emitsOnDrain_of_waiting {m m' : DownloadManager} (hem : m'.emitted = m.emitted)
    (hq : m'.downloadQueue ≠ []) : EmitsOnDrain m m' := by
  have hwork : m'.working = true := by simp [working, hq]
  rw [EmitsOnDrain, hwork, Bool.not_true, Bool.and_false]
  exact hem

/-! ### Signals of the network -/

/-- On a spaced run only the last fetch can still emit signals, and it is the current one. -/
theorem live_of_orderInv {m : DownloadManager} (h : m.OrderInv) {i : Nat} {f : Fetch}
    (hl : m.live i = some f) :
    ∃ done, m.fetches = done ++ [f] ∧ i = done.length ∧ (∀ g ∈ done, g.isActive = false) ∧
      f.isActive = true ∧ f.deleted = false ∧ m.currentDownload = some i ∧ m.outputOpen = true ∧
      m.deferred = [] := by
  obtain ⟨hf, hp⟩ := Option.filter_eq_some_iff.mp hl
  have hactive : f.isActive = true := by
    simp only [Bool.and_eq_true, decide_eq_true_eq] at hp
    simp [Fetch.isActive, hp.1.1, hp.1.2]
  rcases h.2 with hrest | ⟨done, g, hg, hdone, -, hd, hc, ho, hdef⟩
  · simp [hrest.1 f (List.mem_of_getElem? hf)] at hactive
  · rw [hg] at hf
    have hnot : f ∉ done := fun hmem => by simp [hdone f hmem] at hactive
    obtain ⟨hi, rfl⟩ := eq_last_of_getElem? hf hnot
    exact ⟨done, hg, hi, hdone, hactive, hd, by rw [hc, hi], ho, hdef⟩

/-- A chunk goes to the file of its own URL. -/
theorem orderInv_readyRead {m : DownloadManager} (h : m.OrderInv) {i : Nat} {f : Fetch}
    (hl : m.live i = some f) {chunk : List UInt8} {accepted : Nat}
    (hC : chunk.length ≤ accepted) :
    (downloadReadyRead accepted (m.setFetch i
        { f with unread := f.unread ++ chunk, received := f.received ++ chunk })).OrderInv ∧
      EmitsOnDrain m (downloadReadyRead accepted (m.setFetch i
        { f with unread := f.unread ++ chunk, received := f.received ++ chunk })) := by
  obtain ⟨done, hf, rfl, hdone, hact, hd, hc, ho, hdef⟩ := live_of_orderInv h hl
  obtain ⟨hunread, hwritten⟩ := h.1.stored f (by simp [hf])
  rw [downloadReadyRead_eq hf hc hd ho hunread hC]
  have hfetch : Fetching { m with fetches := done ++ [{ f with
      unread := []
      received := f.received ++ chunk
      written := f.written ++ chunk }] } :=
    ⟨done, _, rfl, hdone, hact, hd, hc, ho, hdef⟩
  refine ⟨⟨⟨h.1.sound, by simp [h.1.appended, hf], ?_⟩, Or.inr hfetch⟩, ?_⟩
  · intro g hg
    rcases List.mem_append.mp hg with hg | hg
    · exact h.1.stored g (by simp [hf, hg])
    · obtain rfl := List.mem_singleton.mp hg
      exact ⟨rfl, by simp [hwritten]⟩
  · rw [EmitsOnDrain, hfetch.working, Bool.not_true, Bool.and_false]
    rfl

/-- The end of a download starts the next one, or drains the queue. -/
theorem orderInv_finished {opens : Nat → Bool} {m : DownloadManager} (h : m.OrderInv) {i : Nat}
    {f : Fetch} (hl : m.live i = some f) (ok : Bool) :
    (downloadFinished opens (m.setFetch i
        { f with reply := if ok then .ok else .failed })).OrderInv ∧
      EmitsOnDrain m (downloadFinished opens (m.setFetch i
        { f with reply := if ok then .ok else .failed })) := by
  obtain ⟨done, hf, rfl, hdone, hact, hd, hc, ho, hdef⟩ := live_of_orderInv h hl
  have hfetch : m.Fetching := ⟨done, f, hf, hdone, hact, hd, hc, ho, hdef⟩
  rw [downloadFinished_eq hf hd hc ok]
  refine orderInv_startNextDownload ⟨h.1.sound, ?_, ?_⟩ ?_ hdef hfetch.working rfl
  · simp [closed, h.1.appended, hf]
  · intro g hg
    rcases List.mem_append.mp hg with hg | hg
    · exact h.1.stored g (by simp [hf, hg])
    · obtain rfl := List.mem_singleton.mp hg
      exact h.1.stored f (by simp [hf])
  · intro g hg
    rcases List.mem_append.mp hg with hg | hg
    · exact hdone g hg
    · obtain rfl := List.mem_singleton.mp hg
      cases ok <;> simp [Fetch.isActive]

/-! ### Spaced runs -/

/-- Spaced steps keep the invariant and emit `finished()` when they drain the queue. -/
theorem orderInv_step {opens : Nat → Bool} {m m' : DownloadManager} {e : Event} (h : m.OrderInv)
    (hC : Spaced m e) (hs : step opens m e = some m') : m'.OrderInv ∧ EmitsOnDrain m m' := by
  have hstep := hs
  simp only [step, h.1.sound, Bool.false_eq_true, ↓reduceIte] at hs
  cases e with
  | append url =>
    obtain rfl := Option.some.inj hs
    exact ⟨orderInv_append h url hC, emitsOnDrain_of_waiting rfl (append_queue_ne_nil m url)⟩
  | appendList urlList =>
    obtain rfl := Option.some.inj hs
    obtain ⟨hinv, hq⟩ := orderInv_appendList h hC
    exact ⟨hinv, emitsOnDrain_of_waiting (appendList_emitted m urlList) hq⟩
  | timer =>
    -- a call is deferred only at rest with a URL waiting
    rcases h.2 with ⟨hnone, hdef⟩ | ⟨done, f, hf, -, -, -, -, -, hdef⟩
    · obtain ⟨hq, rfl⟩ := step_timer h.1.sound hdef hstep
      have hwork : m.working = true := by simp [working, hq]
      exact orderInv_startNextDownload ⟨h.1.sound, h.1.appended, h.1.stored⟩ hnone rfl hwork rfl
    · rw [step_timer_eq_none hdef] at hstep
      cases hstep
  | readyRead i chunk accepted =>
    obtain ⟨f, hl, rfl⟩ := Option.map_eq_some_iff.mp hs
    exact orderInv_readyRead h hl hC
  | finished i ok =>
    obtain ⟨f, hl, rfl⟩ := Option.map_eq_some_iff.mp hs
    exact orderInv_finished h hl ok

/-- **One download at a time, in order, on spaced runs.** Whatever files fail to open and whatever
replies end in a network error, in every state at most one download is active, the URLs are
attempted in the order in which they were appended and once each, and every chunk is in the file of
its URL; and every step emits `finished()` once if it drains the queue, and not otherwise. -/
theorem orderly_of_spaced (opens : Nat → Bool) (es : List Event) (m : DownloadManager)
    (h : (machine opens).RunWhere Spaced es m) :
    m.Orderly ∧ ∀ e m', Spaced m e → (machine opens).step m e = some m' → EmitsOnDrain m m' := by
  have hinv : m.OrderInv := h.invariant (by rintro m rfl; exact orderInv_init)
    fun _ _ _ hI hC hs => (orderInv_step hI hC hs).1
  exact ⟨hinv.orderly, fun e m' hC hs => (orderInv_step hinv hC hs).2⟩

/-- The URL of a second archive. -/
def secondUrl : Url := ⟨"https://host", ["second.zip"]⟩

/-- The file of the first URL cannot be opened, and the download of the second one fails. -/
theorem orderly_of_spaced_skip :
    ∃ m m', (machine (· ≠ 0)).RunWhere Spaced
        [.append archiveUrl, .append secondUrl, .timer, .readyRead 1 [7] 1] m ∧ m.Orderly ∧
      (machine (· ≠ 0)).step m (.finished 1 false) = some m' ∧ EmitsOnDrain m m' ∧
      m.emitted = 0 ∧ m'.emitted = 1 := by
  have hrun : (machine (· ≠ 0)).RunWhere Spaced
      [.append archiveUrl, .append secondUrl, .timer, .readyRead 1 [7] 1] _ :=
    .of_execWhere (show (machine (· ≠ 0)).init {} from rfl) rfl
  obtain ⟨horderly, hemits⟩ := orderly_of_spaced (· ≠ 0) _ _ hrun
  exact ⟨_, _, hrun, horderly, rfl, hemits (.finished 1 false) _ trivial rfl, rfl, rfl⟩

/-- A URL that is appended while the last download runs is started beside it. Then two downloads
are active, and a chunk that arrives for the first one is not written to any file. -/
theorem second_download_starts_beside :
    ∃ m, (machine fun _ => true).Run
        [.append archiveUrl, .timer, .append secondUrl, .timer, .readyRead 0 [7] 1] m ∧
      m.fetches.countP Fetch.isActive = 2 ∧ m.fetches.map Fetch.received = [[7], []] ∧
      m.fetches.map Fetch.written = [[], []] ∧ ¬ m.Orderly := by
  have hrun : (machine fun _ => true).Run
      [.append archiveUrl, .timer, .append secondUrl, .timer, .readyRead 0 [7] 1] _ :=
    .of_exec (show (machine fun _ => true).init {} from rfl) rfl
  refine ⟨_, hrun, rfl, rfl, rfl, fun horderly => ?_⟩
  exact absurd horderly.oneActive (by decide)

end DownloadManager

end UsbMaker
