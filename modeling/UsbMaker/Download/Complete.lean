import UsbMaker.Download.Manager

/-!
# When a finished queue is a downloaded queue

`finished()` with `hasError() == false` is read by `DownloadProgressPage::markComplete` as "the
archive is on disk". This file states what that reading needs (`Complete`) and proves it for the
runs in which every output file opens, every write takes all of its bytes, and nothing is appended
between the start of the last queued download and its end (`Careful`). An empty list that is
appended to an empty queue leads to `finished()` by itself; this is harmless once something has been
downloaded, and as long as nothing is appended until the signal has been emitted.

On such a run the manager is always in one of two phases: `Idle`, with no reply pending, and a start
deferred exactly when something is queued, or `Busy`, with one pending reply, which is the current
one and belongs to the last URL taken from the queue. The bookkeeping that both phases share is
`Ledger`; each slot keeps it, and a queue that runs dry in it is complete.

## Main definitions

* `DownloadManager.Complete`, `DownloadManager.Careful`.
* `DownloadManager.Ledger`, `DownloadManager.Idle`, `DownloadManager.Busy`,
  `DownloadManager.Inv`.

## Main results

* `DownloadManager.inv_step`: the invariant is kept by careful steps.
* `DownloadManager.complete_of_finished`: on careful runs, `finished()` without an error means
  that everything was downloaded.
-/

namespace UsbMaker.DownloadManager

/-- A URL fetched without a network error, all of whose bytes were written to its output file. -/
def IsComplete (f : Fetch) : Prop :=
  f.opened = true ∧ f.reply = .ok ∧ f.written = f.received

instance (f : Fetch) : Decidable (IsComplete f) :=
  inferInstanceAs (Decidable (_ ∧ _ ∧ _))

/-- Every URL that was appended has been fetched completely, and the file handed to the
extraction is the one of the last URL. -/
structure Complete (m : DownloadManager) : Prop where
  fetched : m.fetches.map Fetch.url = m.appended
  complete : ∀ f ∈ m.fetches, IsComplete f
  counts : m.downloadedCount = m.totalCount
  unzips : ∃ f ∈ m.fetches.getLast?, m.markComplete = some (saveFileName f.url)

/-- No reply is still pending. -/
def Settled (m : DownloadManager) : Prop := ∀ f ∈ m.fetches, f.reply ≠ .pending

/-- A URL can be appended: the queue is not empty, or no download is pending and no call waits. -/
def Appendable (m : DownloadManager) : Prop :=
  m.downloadQueue = [] → m.Settled ∧ m.deferred = []

/-- The condition on a step: the output file that is about to be opened can be opened, a write
takes the whole chunk, and nothing is appended to an empty queue while a download is pending, or
while `finished()` waits to be emitted for an empty list. An empty list is not appended before
everything else. -/
def Careful (opens : Nat → Bool) (m : DownloadManager) : Event → Prop
  | .append _ => m.Appendable
  | .appendList [] => m.downloadQueue = [] → m.Settled ∧ m.fetches ≠ []
  | .appendList (_ :: _) => m.Appendable
  | .timer => m.downloadQueue ≠ [] → opens m.fetches.length = true
  | .readyRead _ chunk accepted => chunk.length ≤ accepted
  | .finished _ _ => m.downloadQueue ≠ [] → opens m.fetches.length = true

instance (m : DownloadManager) : Decidable m.Settled :=
  inferInstanceAs (Decidable (∀ f ∈ m.fetches, _))

instance (m : DownloadManager) : Decidable m.Appendable := inferInstanceAs (Decidable (_ → _ ∧ _))

instance (opens : Nat → Bool) (m : DownloadManager) : (e : Event) → Decidable (Careful opens m e)
  | .append _ => inferInstanceAs (Decidable m.Appendable)
  | .appendList [] => inferInstanceAs (Decidable (_ → _ ∧ _))
  | .appendList (_ :: _) => inferInstanceAs (Decidable m.Appendable)
  | .timer => inferInstanceAs (Decidable (_ → _))
  | .readyRead _ _ _ => inferInstanceAs (Decidable (_ ≤ _))
  | .finished _ _ => inferInstanceAs (Decidable (_ → _))

/-! ### The invariant -/

/-- The bookkeeping of the manager, whatever it is doing. -/
structure Ledger (m : DownloadManager) : Prop where
  sound : m.dangling = false
  appended : m.appended = m.fetches.map Fetch.url ++ m.downloadQueue
  total : m.totalCount = m.appended.length
  stored : ∀ f ∈ m.fetches, f.opened = true ∧ f.unread = [] ∧ f.written = f.received
  counted : m.downloadedCount = m.fetches.countP fun f => f.reply = .ok
  failed : m.error = m.fetches.any fun f => f.reply = .failed
  output : ∀ f ∈ m.fetches.getLast?, m.outputName = saveFileName f.url

/-- No reply is pending. The next start is deferred when a URL is queued, and otherwise nothing but
`finished()` is, for empty lists that were appended after something else. -/
def Idle (m : DownloadManager) : Prop :=
  m.Settled ∧ ((m.downloadQueue ≠ [] ∧ m.deferred = [.startNextDownload]) ∨
    (m.downloadQueue = [] ∧ ∀ call ∈ m.deferred, call = .finished ∧ m.fetches ≠ []))

/-- The reply of the last fetch is pending and current, its file is open, and no other reply is
pending. -/
def Busy (m : DownloadManager) : Prop :=
  ∃ done f, m.fetches = done ++ [f] ∧ (∀ g ∈ done, g.reply ≠ .pending) ∧ f.reply = .pending ∧
    f.deleted = false ∧ m.currentDownload = some done.length ∧ m.outputOpen = true ∧
    m.deferred = []

/-- The invariant of careful runs. -/
def Inv (m : DownloadManager) : Prop := m.Ledger ∧ (m.Idle ∨ m.Busy)

theorem inv_init : Inv {} := by
  refine ⟨⟨rfl, rfl, rfl, ?_, rfl, rfl, ?_⟩, Or.inl ⟨?_, Or.inr ⟨rfl, ?_⟩⟩⟩ <;> simp [Settled]

/-! ### Appending -/

theorem ledger_append {m : DownloadManager} (h : m.Ledger) (url : Url) : (m.append url).Ledger :=
  { sound := h.sound
    appended := by simp [append, h.appended]
    total := by simp [append, h.total]
    stored := h.stored
    counted := h.counted
    failed := h.failed
    output := h.output }

/-- A pending reply is not settled, so the queue is not empty. -/
theorem Busy.queue_ne_nil {m : DownloadManager} (h : m.Busy)
    (hC : m.downloadQueue = [] → m.Settled) : m.downloadQueue ≠ [] := by
  obtain ⟨done, f, hf, -, hp, -⟩ := h
  exact fun hq => hC hq f (by simp [hf]) hp

theorem inv_append {m : DownloadManager} (h : m.Inv) (url : Url) (hC : m.Appendable) :
    (m.append url).Inv := by
  obtain ⟨hl, ⟨hset, hphase⟩ | hb⟩ := h
  · refine ⟨ledger_append hl url, Or.inl ⟨hset, Or.inl ⟨by simp [append], ?_⟩⟩⟩
    rcases hphase with ⟨hq, hdef⟩ | ⟨hq, -⟩
    · simp [append, hq, hdef]
    · simp [append, hq, (hC hq).2]
  · have hq := hb.queue_ne_nil fun hq => (hC hq).1
    obtain ⟨done, f, hf, hdone, hp, hd, hc, ho, ht⟩ := hb
    exact ⟨ledger_append hl url,
      Or.inr ⟨done, f, hf, hdone, hp, hd, hc, ho, by simp [append, hq, ht]⟩⟩

theorem append_queue_ne_nil (m : DownloadManager) (url : Url) :
    (m.append url).downloadQueue ≠ [] := by
  simp [append]

theorem inv_foldl_append {m : DownloadManager} (h : m.Inv) (urlList : List Url)
    (hq : m.downloadQueue ≠ []) :
    (urlList.foldl append m).Inv ∧ (urlList.foldl append m).downloadQueue ≠ [] := by
  induction urlList generalizing m with
  | nil => exact ⟨h, hq⟩
  | cons url urlList ih =>
    exact ih (inv_append h url fun h0 => absurd h0 hq) (append_queue_ne_nil m url)

theorem inv_appendList_nil {m : DownloadManager} (h : m.Inv)
    (hC : m.downloadQueue = [] → m.Settled ∧ m.fetches ≠ []) : (m.appendList []).Inv := by
  by_cases hq : m.downloadQueue = []
  · obtain ⟨hset, hne⟩ := hC hq
    have heq : m.appendList [] = { m with deferred := m.deferred ++ [.finished] } := by
      simp [appendList, hq]
    rw [heq]
    obtain ⟨hl, ⟨-, hphase⟩ | hb⟩ := h
    · refine ⟨{ hl with sound := hl.sound }, Or.inl ⟨hset, Or.inr ⟨hq, fun call hcall => ?_⟩⟩⟩
      rcases List.mem_append.mp hcall with hmem | hmem
      · exact (hphase.resolve_left fun hwait => hwait.1 hq).2 call hmem
      · exact ⟨List.mem_singleton.mp hmem, hne⟩
    · exact absurd hq (hb.queue_ne_nil fun _ => hset)
  · simpa [appendList, hq] using h

theorem inv_appendList_cons {m : DownloadManager} (h : m.Inv) (url : Url) (rest : List Url)
    (hC : m.Appendable) : (m.appendList (url :: rest)).Inv := by
  obtain ⟨hinv, hq⟩ := inv_foldl_append (inv_append h url hC) rest (append_queue_ne_nil m url)
  simpa [appendList, hq] using hinv

theorem appendList_emitted (m : DownloadManager) (urlList : List Url) :
    (m.appendList urlList).emitted = m.emitted := by
  have hfold : (urlList.foldl append m).emitted = m.emitted := by
    induction urlList generalizing m with
    | nil => rfl
    | cons url urlList ih => exact ih (m.append url)
  unfold appendList
  dsimp only
  split_ifs
  · exact hfold
  · exact hfold

/-! ### Starting the next download -/

/-- With no reply pending and nothing deferred, `startNextDownload` starts the next URL when
there is one, and otherwise emits `finished()`. -/
theorem inv_startNextDownload {opens : Nat → Bool} {m : DownloadManager} (h : m.Ledger)
    (hs : m.Settled) (ht : m.deferred = [])
    (hopen : m.downloadQueue ≠ [] → opens m.fetches.length = true) :
    (startNextDownload opens m).Inv := by
  rw [startNextDownload]
  cases hq : m.downloadQueue with
  | nil =>
    refine ⟨{ h with appended := ?_ }, Or.inl ⟨hs, Or.inr ⟨rfl, ?_⟩⟩⟩
    · simpa [startFrom, hq] using h.appended
    · simp [startFrom, ht]
  | cons url rest =>
    have ho : opens m.fetches.length = true := hopen (by simp [hq])
    rw [startFrom, if_pos ho]
    refine ⟨?_, Or.inr ⟨m.fetches, _, rfl, hs, rfl, rfl, rfl, rfl, ht⟩⟩
    exact
      { sound := h.sound
        appended := by simp [h.appended, hq]
        total := h.total
        stored := by
          intro f hf
          rcases List.mem_append.mp hf with hf | hf
          · exact h.stored f hf
          · obtain rfl := List.mem_singleton.mp hf
            exact ⟨rfl, rfl, rfl⟩
        counted := by simp [h.counted]
        failed := by simp [h.failed]
        output := by simp }

/-- Everything has been downloaded when the queue is empty, no reply is pending, and there was no
error. -/
theorem complete_of_settled {m : DownloadManager} (h : m.Ledger) (hs : m.Settled)
    (hne : m.fetches ≠ []) (hq : m.downloadQueue = []) (herr : m.hasError = false) :
    m.Complete := by
  have hnofail : ∀ f ∈ m.fetches, f.reply ≠ .failed := by
    have hany : (m.fetches.any fun f => f.reply = .failed) = false := h.failed.symm.trans herr
    simpa using hany
  have hok : ∀ f ∈ m.fetches, f.reply = .ok := by
    intro f hf
    cases hr : f.reply with
    | ok => rfl
    | pending => exact absurd hr (hs f hf)
    | failed => exact absurd hr (hnofail f hf)
  have happ : m.fetches.map Fetch.url = m.appended := by simpa [hq] using h.appended.symm
  refine ⟨happ, fun f hf => ⟨(h.stored f hf).1, hok f hf, (h.stored f hf).2.2⟩, ?_, ?_⟩
  · calc m.downloadedCount = m.fetches.countP fun f => f.reply = .ok := h.counted
      _ = m.fetches.length := List.countP_eq_length.mpr (by simpa using hok)
      _ = m.totalCount := by rw [h.total, ← happ, List.length_map]
  · obtain ⟨f, hf⟩ := List.getLast?_isSome.mpr hne |> Option.isSome_iff_exists.mp
    refine ⟨f, hf, ?_⟩
    have hname : m.outputName = saveFileName f.url := h.output f hf
    simp [markComplete, herr, hname]

/-- One more `finished()`. -/
theorem Complete.emit {m : DownloadManager} (h : m.Complete) (deferred : List DeferredCall) :
    Complete { m with deferred := deferred, emitted := m.emitted + 1 } :=
  ⟨h.fetched, h.complete, h.counts, h.unzips⟩

/-- A queue that runs dry without an error has been downloaded. -/
theorem complete_of_dry {opens : Nat → Bool} {m : DownloadManager} (h : m.Ledger) (hs : m.Settled)
    (hne : m.fetches ≠ []) (hem : m.emitted < (startNextDownload opens m).emitted)
    (hopen : m.downloadQueue ≠ [] → opens m.fetches.length = true)
    (herr : (startNextDownload opens m).hasError = false) :
    (startNextDownload opens m).Complete := by
  have hq : m.downloadQueue = [] := by
    by_contra hq
    have ho := hopen hq
    obtain ⟨url, rest, hq⟩ := List.exists_cons_of_ne_nil hq
    simp [startNextDownload, hq, startFrom, ho] at hem
  have hm : startNextDownload opens m = { m with emitted := m.emitted + 1 } := by
    simp only [startNextDownload, hq, startFrom]
  rw [hm] at herr ⊢
  exact (complete_of_settled h hs hne hq herr).emit m.deferred

/-! ### Signals of the network -/

theorem mem_of_live {m : DownloadManager} {i : Nat} {f : Fetch} (h : m.live i = some f) :
    m.fetches[i]? = some f ∧ f.reply = .pending := by
  obtain ⟨hf, hp⟩ := Option.filter_eq_some_iff.mp h
  simp only [Bool.and_eq_true, decide_eq_true_eq] at hp
  exact ⟨hf, hp.1.2⟩

/-- A fetch that is none of those before the last one is the last one. -/
theorem eq_last_of_getElem? {done : List Fetch} {f g : Fetch} {i : Nat}
    (h : (done ++ [g])[i]? = some f) (hnot : f ∉ done) : i = done.length ∧ g = f := by
  rcases Nat.lt_or_ge i done.length with hlt | hge
  · rw [List.getElem?_append_left hlt] at h
    exact absurd (List.mem_of_getElem? h) hnot
  · rw [List.getElem?_append_right hge] at h
    cases hk : i - done.length with
    | zero => exact ⟨by omega, by simpa [hk] using h⟩
    | succ k => simp [hk] at h

/-- A chunk that the file accepts is stored by the current download. -/
theorem downloadReadyRead_eq {m : DownloadManager} {done : List Fetch} {f : Fetch}
    (hf : m.fetches = done ++ [f]) (hc : m.currentDownload = some done.length)
    (hd : f.deleted = false) (ho : m.outputOpen = true) (hunread : f.unread = [])
    {chunk : List UInt8} {accepted : Nat} (hC : chunk.length ≤ accepted) :
    downloadReadyRead accepted (m.setFetch done.length
        { f with unread := f.unread ++ chunk, received := f.received ++ chunk }) =
      { m with fetches := done ++ [{ f with
          unread := []
          received := f.received ++ chunk
          written := f.written ++ chunk }] } := by
  have htake : chunk.take accepted = chunk := List.take_of_length_le hC
  simp [downloadReadyRead, current, setFetch, hf, hc, hd, ho, hunread, htake]

/-- On a careful run only the last fetch can still emit signals, and it is the current one. -/
theorem live_of_inv {m : DownloadManager} (h : m.Inv) {i : Nat} {f : Fetch}
    (hl : m.live i = some f) :
    ∃ done, m.fetches = done ++ [f] ∧ i = done.length ∧ (∀ g ∈ done, g.reply ≠ .pending) ∧
      f.deleted = false ∧ m.currentDownload = some i ∧ m.outputOpen = true ∧ m.deferred = [] := by
  obtain ⟨hf, hp⟩ := mem_of_live hl
  rcases h.2 with hi | ⟨done, g, hg, hdone, -, hd, hc, ho, ht⟩
  · exact absurd hp (hi.1 f (List.mem_of_getElem? hf))
  · rw [hg] at hf
    obtain ⟨hi, rfl⟩ := eq_last_of_getElem? hf fun hmem => hdone f hmem hp
    exact ⟨done, hg, hi, hdone, hd, by rw [hc, hi], ho, ht⟩

theorem inv_readyRead {m : DownloadManager} (h : m.Inv) {i : Nat} {f : Fetch}
    (hl : m.live i = some f) {chunk : List UInt8} {accepted : Nat}
    (hC : chunk.length ≤ accepted) :
    (downloadReadyRead accepted (m.setFetch i
      { f with unread := f.unread ++ chunk, received := f.received ++ chunk })).Inv := by
  obtain ⟨done, hf, rfl, hdone, hd, hc, ho, ht⟩ := live_of_inv h hl
  have hp := (mem_of_live hl).2
  have hL := h.1
  obtain ⟨hopened, hunread, hwritten⟩ := hL.stored f (by simp [hf])
  rw [downloadReadyRead_eq hf hc hd ho hunread hC]
  refine ⟨?_, Or.inr ⟨done, _, rfl, hdone, hp, hd, hc, ho, ht⟩⟩
  exact
    { sound := hL.sound
      appended := by simp [hL.appended, hf]
      total := hL.total
      stored := by
        intro g hg
        rcases List.mem_append.mp hg with hg | hg
        · exact hL.stored g (by simp [hf, hg])
        · obtain rfl := List.mem_singleton.mp hg
          exact ⟨hopened, rfl, by simp [hwritten]⟩
      counted := by simp [hL.counted, hf]
      failed := by simp [hL.failed, hf]
      output := by
        intro g hg
        have hname := hL.output f (by simp [hf])
        simp only [List.getLast?_append, List.getLast?_singleton, Option.some_or,
          Option.mem_def, Option.some.injEq] at hg
        rw [hname, ← hg] }

theorem emitted_readyRead (m : DownloadManager) (i : Nat) (f : Fetch) (accepted : Nat) :
    (downloadReadyRead accepted (m.setFetch i f)).emitted = m.emitted := by
  rw [downloadReadyRead]
  split
  · rfl
  · split_ifs <;> rfl

/-- The manager between the end of a reply and the start of the next download. -/
def closed (m : DownloadManager) (done : List Fetch) (f : Fetch) (ok : Bool) :
    DownloadManager :=
  { m with
    outputOpen := false
    error := m.error || !ok
    downloadedCount := if ok then m.downloadedCount + 1 else m.downloadedCount
    fetches := done ++ [{ f with reply := if ok then .ok else .failed, deleted := true }] }

theorem downloadFinished_eq {opens : Nat → Bool} {m : DownloadManager} {done : List Fetch}
    {f : Fetch} (hf : m.fetches = done ++ [f]) (hd : f.deleted = false)
    (hc : m.currentDownload = some done.length) (ok : Bool) :
    downloadFinished opens (m.setFetch done.length
      { f with reply := if ok then .ok else .failed }) =
      startNextDownload opens (closed m done f ok) := by
  cases ok <;> simp [downloadFinished, current, setFetch, closed, hf, hc, hd]

private theorem ledger_closed {m : DownloadManager} (h : m.Ledger) {done : List Fetch} {f : Fetch}
    (hf : m.fetches = done ++ [f]) (hp : f.reply = .pending) (ok : Bool) :
    (closed m done f ok).Ledger where
  sound := h.sound
  appended := by simp [closed, h.appended, hf]
  total := h.total
  stored := by
    intro g hg
    rcases List.mem_append.mp hg with hg | hg
    · exact h.stored g (by simp [hf, hg])
    · obtain rfl := List.mem_singleton.mp hg
      exact h.stored f (by simp [hf])
  counted := by cases ok <;> simp [closed, h.counted, hf, hp]
  failed := by cases ok <;> simp [closed, h.failed, hf, hp]
  output := by
    intro g hg
    have hname := h.output f (by simp [hf])
    simp only [closed, List.getLast?_append, List.getLast?_singleton, Option.some_or,
      Option.mem_def, Option.some.injEq] at hg
    rw [← hg]
    exact hname

private theorem settled_closed {m : DownloadManager} {done : List Fetch} {f : Fetch}
    (hdone : ∀ g ∈ done, g.reply ≠ .pending) (ok : Bool) : (closed m done f ok).Settled := by
  intro g hg
  rcases List.mem_append.mp hg with hg | hg
  · exact hdone g hg
  · obtain rfl := List.mem_singleton.mp hg
    cases ok <;> simp

/-- What the end of a reply does on a careful run. -/
theorem exists_closed (opens : Nat → Bool) {m : DownloadManager} (h : m.Inv) {i : Nat} {f : Fetch}
    (hl : m.live i = some f) (ok : Bool) :
    ∃ m', downloadFinished opens (m.setFetch i
        { f with reply := if ok then .ok else .failed }) = startNextDownload opens m' ∧
      m'.Ledger ∧ m'.Settled ∧ m'.deferred = [] ∧ m'.fetches ≠ [] ∧ m'.emitted = m.emitted ∧
      m'.downloadQueue = m.downloadQueue ∧ m'.fetches.length = m.fetches.length := by
  obtain ⟨done, hf, rfl, hdone, hd, hc, -, ht⟩ := live_of_inv h hl
  exact ⟨closed m done f ok, downloadFinished_eq hf hd hc ok,
    ledger_closed h.1 hf (mem_of_live hl).2 ok, settled_closed hdone ok, ht, by simp [closed], rfl,
    rfl, by simp [closed, hf]⟩

/-! ### Careful runs -/

/-- Without a deferred call the event loop has nothing to run. -/
theorem step_timer_eq_none {opens : Nat → Bool} {m : DownloadManager} (hdef : m.deferred = []) :
    step opens m .timer = none := by
  simp only [step, hdef, ite_self]

/-- A start that is first in line is made by the event loop. -/
theorem step_timer_start {opens : Nat → Bool} {m : DownloadManager} {rest : List DeferredCall}
    (hsound : m.dangling = false) (hdef : m.deferred = .startNextDownload :: rest) :
    step opens m .timer = some (startNextDownload opens { m with deferred := rest }) := by
  rw [step, if_neg (by simp [hsound])]
  simp only [hdef]

/-- A signal that is first in line is emitted by the event loop. -/
theorem step_timer_finished {opens : Nat → Bool} {m : DownloadManager} {rest : List DeferredCall}
    (hsound : m.dangling = false) (hdef : m.deferred = .finished :: rest) :
    step opens m .timer = some { m with deferred := rest, emitted := m.emitted + 1 } := by
  rw [step, if_neg (by simp [hsound])]
  simp only [hdef]

/-- When a start is deferred exactly if a URL is queued, the event loop starts a download. -/
theorem step_timer {opens : Nat → Bool} {m m' : DownloadManager} (hsound : m.dangling = false)
    (hdef : m.deferred = if m.downloadQueue = [] then [] else [.startNextDownload])
    (hs : step opens m .timer = some m') :
    m.downloadQueue ≠ [] ∧ m' = startNextDownload opens { m with deferred := [] } := by
  by_cases hq : m.downloadQueue = []
  · rw [step_timer_eq_none (by simp [hdef, hq])] at hs
    cases hs
  · rw [if_neg hq] at hdef
    rw [step_timer_start hsound hdef] at hs
    exact ⟨hq, (Option.some.inj hs).symm⟩

/-- Careful steps keep the invariant, and a careful step that emits `finished()` without an
error leaves everything downloaded. -/
theorem inv_step {opens : Nat → Bool} {m m' : DownloadManager} {e : Event} (h : m.Inv)
    (hC : Careful opens m e) (hs : step opens m e = some m') :
    m'.Inv ∧ (m.emitted < m'.emitted → m'.hasError = false → m'.Complete) := by
  have hstep := hs
  simp only [step, h.1.sound, Bool.false_eq_true, ↓reduceIte] at hs
  cases e with
  | append url =>
    obtain rfl := Option.some.inj hs
    exact ⟨inv_append h url hC, fun hlt => absurd hlt (Nat.lt_irrefl _)⟩
  | appendList urlList =>
    obtain rfl := Option.some.inj hs
    refine ⟨?_, fun hlt => ?_⟩
    · cases urlList with
      | nil => exact inv_appendList_nil h hC
      | cons url rest => exact inv_appendList_cons h url rest hC
    · rw [appendList_emitted] at hlt
      exact absurd hlt (Nat.lt_irrefl _)
  | timer =>
    rcases h.2 with ⟨hset, ⟨hq, hdef⟩ | ⟨hq, hdef⟩⟩ | ⟨done, f, hf, -, -, -, -, -, hdef⟩
    · -- the next URL is fetched, so nothing is emitted
      rw [step_timer_start h.1.sound hdef] at hstep
      obtain rfl := Option.some.inj hstep
      refine ⟨inv_startNextDownload { h.1 with sound := h.1.sound } hset rfl hC, fun hlt => ?_⟩
      obtain ⟨url, rest, hcons⟩ := List.exists_cons_of_ne_nil hq
      simp [startNextDownload, hcons, startFrom, hC hq] at hlt
    · cases hcalls : m.deferred with
      | nil =>
        rw [step_timer_eq_none hcalls] at hstep
        cases hstep
      | cons call rest =>
        obtain ⟨rfl, hne⟩ := hdef call (by simp [hcalls])
        rw [step_timer_finished h.1.sound hcalls] at hstep
        obtain rfl := Option.some.inj hstep
        refine ⟨⟨{ h.1 with sound := h.1.sound }, Or.inl ⟨hset, Or.inr ⟨hq, fun call hcall => ?_⟩⟩⟩,
          fun _ herr => (complete_of_settled h.1 hset hne hq herr).emit rest⟩
        exact hdef call (by simp [hcalls, show call ∈ rest from hcall])
    · rw [step_timer_eq_none hdef] at hstep
      cases hstep
  | readyRead i chunk accepted =>
    obtain ⟨f, hl, rfl⟩ := Option.map_eq_some_iff.mp hs
    refine ⟨inv_readyRead h hl hC, fun hlt => ?_⟩
    rw [emitted_readyRead] at hlt
    exact absurd hlt (Nat.lt_irrefl _)
  | finished i ok =>
    obtain ⟨f, hl, rfl⟩ := Option.map_eq_some_iff.mp hs
    obtain ⟨m₁, heq, hled, hset, hdef, hne, hem, hq, hlen⟩ := exists_closed opens h hl ok
    have hopen : m₁.downloadQueue ≠ [] → opens m₁.fetches.length = true := by
      rw [hq, hlen]
      exact hC
    rw [heq, ← hem]
    exact ⟨inv_startNextDownload hled hset hdef hopen,
      fun hlt herr => complete_of_dry hled hset hne hlt hopen herr⟩

theorem inv_of_careful {opens : Nat → Bool} {es : List Event} {m : DownloadManager}
    (h : (machine opens).RunWhere (Careful opens) es m) : m.Inv :=
  h.invariant (by rintro m rfl; exact inv_init) fun _ _ _ hi hC hs => (inv_step hi hC hs).1

/-- **A finished queue is a downloaded queue, on careful runs.** Whenever `finished()` is emitted
with `hasError() == false`, every appended URL was fetched without a network error, all bytes
received for it were written to its output file, the two counters agree, and the file that
`markComplete` hands to the extraction is one of them. -/
theorem complete_of_finished (opens : Nat → Bool) (es : List Event) (e : Event)
    (m m' : DownloadManager) (h : (machine opens).RunWhere (Careful opens) es m)
    (hC : Careful opens m e) (hs : (machine opens).step m e = some m')
    (hem : m.emitted < m'.emitted) (herr : m'.hasError = false) : m'.Complete :=
  (inv_step (inv_of_careful h) hC hs).2 hem herr

/-- An archive that is downloaded in one chunk. -/
def archiveUrl : Url := ⟨"https://host", ["image.zip"]⟩

theorem complete_of_finished_one_chunk :
    ∃ m m', (machine fun _ => true).RunWhere (Careful fun _ => true)
        [.append archiveUrl, .timer, .readyRead 0 [7] 1] m ∧
      (machine fun _ => true).step m (.finished 0 true) = some m' ∧ m'.Complete := by
  have hrun : (machine fun _ => true).RunWhere (Careful fun _ => true)
      [.append archiveUrl, .timer, .readyRead 0 [7] 1] _ :=
    .of_execWhere (show (machine fun _ => true).init {} from rfl) rfl
  exact ⟨_, _, hrun, rfl, complete_of_finished (fun _ => true) _ (.finished 0 true) _ _ hrun
    (fun _ => rfl) rfl (by decide) rfl⟩

/-- A file that cannot be opened is skipped without a trace: `finished()` follows, `hasError()`
is false, and the archive that is handed to the extraction was never downloaded. -/
theorem finished_without_download :
    ∃ m m', (machine fun _ => false).Run [.append archiveUrl] m ∧
      (machine fun _ => false).step m .timer = some m' ∧ m.emitted < m'.emitted ∧
      m'.hasError = false ∧ m'.markComplete = some "image.zip" ∧ m'.appended = [archiveUrl] ∧
      (∀ f ∈ m'.fetches, ¬ IsComplete f) ∧ m'.downloadedCount ≠ m'.totalCount := by
  have hrun : (machine fun _ => false).Run [.append archiveUrl] _ :=
    .of_exec (show (machine fun _ => false).init {} from rfl) rfl
  exact ⟨_, _, hrun, rfl, by decide, rfl, rfl, rfl, by decide, by decide⟩

end UsbMaker.DownloadManager
