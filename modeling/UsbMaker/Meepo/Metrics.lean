import UsbMaker.Meepo.Stale

/-!
# Metrics on the network manager of the login

`Meepo::sendMetric` posts on the same `QNetworkAccessManager` as the login, and the reply goes
through the same `dispatchReply`, which looks at the error of a reply before it looks at its URL. A
metric whose reply is a network error is therefore a failure of the login.

This file compares a run with the run that is left when its metrics are left out
(`MetricsHidden`). A metric whose reply succeeds leaves no trace but in the list of requests, which
`hide` takes out of a state. The two runs agree at every point if and only if no metric is answered
with a network error (`metricsHidden_iff`).

## Main definitions

* `Session.Event.isMetric`, `Session.observed`, `Session.MetricsHidden`.
* `Session.hide`: a state without its metrics.

## Main results

* `Session.hide_step`: the steps of a login do not depend on the metrics.
* `Session.metricsHidden_iff`.
-/

namespace UsbMaker

/-- Whether a request posts a metric. -/
def Request.isMetric : Request → Bool
  | .activity _ => true
  | _ => false

namespace Session

variable {S : Server}

/-- Whether an event posts a metric or is the reply to one. -/
def Event.isMetric : Event → Bool
  | .sendMetric => true
  | .reply p _ => p.request.isMetric
  | .login _ => false

/-- A run without its metrics. -/
def withoutMetrics (es : List Event) : List Event := es.filter fun e => !e.isMetric

/-- What the login shows: the signals of `Meepo`, `error()`, `sites()`, the token, and the flags
of the login page. -/
def observed (s : Session) :
    List Signal × String × List GondarSite × String × Bool × Bool :=
  (s.signals, s.meepo.error, s.meepo.sites, s.meepo.apiToken, s.started, s.finished)

/-- At every point of the run, what the login shows is what it shows without the metrics. -/
def MetricsHidden (S : Server) (es : List Event) : Prop :=
  ∀ fs s, fs <+: es → (machine S).Run fs s →
    ∃ t, (machine S).Run (withoutMetrics fs) t ∧ t.observed = s.observed

/-! ### A state without its metrics -/

/-- The state with the metrics taken out of its requests. -/
def hide (s : Session) : Session :=
  { s with
    pending := s.pending.filter fun p => !p.request.isMetric
    posted := s.posted.filter fun r => !r.isMetric
    answered := s.answered.filter fun r => !r.isMetric }

theorem hide_observed (s : Session) : s.hide.observed = s.observed := rfl

theorem hide_handleSignal (s : Session) (signal : Signal) :
    (s.handleSignal signal).hide = s.hide.handleSignal signal := by
  cases signal with
  | finished => rfl
  | failed google =>
    by_cases h : s.meepo.error = noSitesError
    · have h' : s.hide.meepo.error = noSitesError := h
      simp only [handleSignal, h, h', ↓reduceIte]
      rfl
    · have h' : s.hide.meepo.error ≠ noSitesError := h
      simp only [handleSignal, h, h', ↓reduceIte]
      rfl

theorem hide_foldl_handleSignal (s : Session) (signals : List Signal) :
    (signals.foldl handleSignal s).hide = signals.foldl handleSignal s.hide := by
  induction signals generalizing s with
  | nil => rfl
  | cons signal signals ih => rw [List.foldl_cons, List.foldl_cons, ih, hide_handleSignal]

/-- A handler that posts no metrics does the same without them. -/
theorem hide_apply (s : Session) (attempt : Nat) {o : Outcome}
    (h : ∀ r ∈ o.posts, r.isMetric = false) :
    (s.apply attempt o).hide = s.hide.apply attempt o := by
  have hposts : o.posts.filter (fun r => !r.isMetric) = o.posts :=
    List.filter_eq_self.mpr fun r hr => by simp [h r hr]
  have hpending : (o.posts.map fun request => (⟨request, attempt⟩ : Pending)).filter
      (fun p => !p.request.isMetric) = o.posts.map fun request => ⟨request, attempt⟩ := by
    rw [List.filter_map]
    exact congrArg _ hposts
  rw [apply, apply, hide_foldl_handleSignal]
  congr 1
  simp only [hide, List.filter_append, hposts, hpending]

/-- The reply to a request of the login posts requests of the login. -/
theorem isMetric_of_mem_posts {m : Meepo} {r q : Request} {ok : Bool}
    (h : q ∈ (m.dispatchReply S r ok).posts) : q.isMetric = false := by
  cases ok with
  | false => simp [Meepo.dispatchReply, Meepo.fail] at h
  | true =>
    simp only [Meepo.dispatchReply, Bool.not_true, Bool.false_eq_true, ↓reduceIte] at h
    cases r with
    | auth credentials =>
      simp only [Meepo.handleAuthReply] at h
      split_ifs at h
      · simp [Meepo.fail] at h
      · obtain rfl := List.mem_singleton.mp h
        rfl
    | sites token page =>
      simp only [Meepo.handleSitesReply] at h
      split_ifs at h
      · simp [Meepo.fail] at h
      · rcases List.mem_append.mp h with h | h
        · obtain ⟨site, -, rfl⟩ := List.mem_map.mp h
          rfl
        · obtain rfl := List.mem_singleton.mp h
          rfl
      · rw [List.append_nil] at h
        obtain ⟨site, -, rfl⟩ := List.mem_map.mp h
        rfl
    | downloads token siteId =>
      by_cases hid : siteId = -1
      · simp [Meepo.handleDownloadsReply, hid, Meepo.fail] at h
      · cases hsite : m.siteFromSiteId siteId <;>
          simp [Meepo.handleDownloadsReply, hid, hsite, Meepo.fail] at h
    | activity token => simp [Meepo.handleMetricsReply] at h

theorem hide_login (s : Session) (c : Credentials) : (s.login c).hide = s.hide.login c := by
  have hbegin : (s.begin c).hide = s.hide.begin c := by
    rw [begin, hide_apply]
    · rfl
    · intro r hr
      obtain rfl := List.mem_singleton.mp hr
      rfl
  by_cases hstart : s.Starts c
  · have hstart' : s.hide.Starts c := hstart
    rw [login_eq_of_starts hstart, login_eq_of_starts hstart', ← hbegin]
    rfl
  · have hstart' : ¬ s.hide.Starts c := hstart
    rw [login_eq_self hstart, login_eq_self hstart']

/-- A reply to a request of the login does the same without the metrics. -/
theorem hide_deliver (s : Session) {p : Pending} (hp : p.request.isMetric = false) (ok : Bool) :
    (s.deliver S p ok).hide = s.hide.deliver S p ok := by
  rw [deliver, hide_apply _ _ fun r hr => isMetric_of_mem_posts hr, deliver]
  congr 1
  simp only [hide, List.filter_append, ← List.erase_filter]
  simp [hp]

/-- A metric that is answered without an error leaves only its requests behind. -/
theorem hide_deliver_metric (s : Session) {p : Pending} (hp : p.request.isMetric = true) :
    (s.deliver S p true).hide = s.hide := by
  obtain ⟨token, hr⟩ : ∃ token, p.request = .activity token := by
    cases hr : p.request with
    | activity token => exact ⟨token, rfl⟩
    | _ => simp [hr, Request.isMetric] at hp
  have hnot : p ∉ s.pending.filter fun q => !q.request.isMetric := by simp [hp]
  rw [deliver, hide_apply _ _ fun r hr => isMetric_of_mem_posts hr]
  simp only [hr, Meepo.dispatchReply, Bool.not_true, Bool.false_eq_true, ↓reduceIte,
    Meepo.handleMetricsReply, apply, List.foldl_nil, List.map_nil, List.append_nil, hide,
    List.filter_append, ← List.erase_filter, List.erase_of_not_mem hnot]
  simp [Request.isMetric]

/-- The condition on a step: no metric is answered with a network error. -/
def MetricsAnswered (_ : Session) : Event → Prop
  | .reply p ok => p.request.isMetric = true → ok = true
  | _ => True

/-- **The login does not see the metrics.** A step of the login is a step of the state without its
metrics, and a step of a metric is none. -/
theorem hide_step {s s' : Session} {e : Event} (hC : MetricsAnswered s e)
    (hs : step S s e = some s') :
    if e.isMetric then s'.hide = s.hide else step S s.hide e = some s'.hide := by
  cases e with
  | login c =>
    obtain rfl := Option.some.inj hs
    simp only [Event.isMetric, Bool.false_eq_true, ↓reduceIte, step, hide_login]
  | sendMetric =>
    obtain rfl := Option.some.inj hs
    simp only [Event.isMetric, ↓reduceIte, Meepo.sendMetric, apply, List.foldl_nil, hide,
      List.filter_append, List.map_cons, List.map_nil, List.append_nil]
    simp [Request.isMetric]
  | reply p ok =>
    obtain ⟨hp, rfl⟩ := step_reply hs
    cases hm : p.request.isMetric with
    | true =>
      obtain rfl : ok = true := hC hm
      simp only [Event.isMetric, hm, ↓reduceIte]
      exact hide_deliver_metric s hm
    | false =>
      simp only [Event.isMetric, hm, Bool.false_eq_true, ↓reduceIte, step]
      rw [if_pos (by simpa [hide, hm] using hp), hide_deliver s hm]

theorem metricsHidden_of_answered {es : List Event} {s : Session}
    (h : (machine S).RunWhere MetricsAnswered es s) :
    ∃ t, (machine S).Run (withoutMetrics es) t ∧ t.observed = s.observed := by
  obtain ⟨t, ht, rfl⟩ := h.erase (fun e => !e.isMetric) (fun s t => t = s.hide)
    (fun s hs => ⟨s, hs, by rw [show s = {} from hs]; rfl⟩)
    (fun s e s' t ht hC hk hs => by
      have hstep := hide_step hC hs
      rw [if_pos (by simpa using hk)] at hstep
      rw [ht, hstep])
    (fun s e s' t ht hC hk hs => by
      have hstep := hide_step hC hs
      rw [if_neg (by simpa using hk)] at hstep
      exact ⟨s'.hide, by rw [ht]; exact hstep, rfl⟩)
  exact ⟨s.hide, ht, hide_observed s⟩

/-- A metric that is answered with a network error is a failure of the login. -/
theorem not_metricsHidden_of_error {es fs : List Event} {p : Pending} {s : Session}
    (h : (machine S).Run (es ++ .reply p false :: fs) s) (hp : p.request.isMetric = true) :
    ¬ MetricsHidden S (es ++ .reply p false :: fs) := by
  intro hhidden
  have hsplit : es ++ .reply p false :: fs = es ++ [.reply p false] ++ fs := by simp
  rw [hsplit] at h
  obtain ⟨s₂, hs₂⟩ := h.of_append
  obtain ⟨s₁, hs₁, -, hstep⟩ := hs₂.last
  obtain ⟨-, rfl⟩ := step_reply hstep
  obtain ⟨t₁, ht₁, hobs₁⟩ := hhidden es s₁ (List.prefix_append _ _) hs₁
  obtain ⟨t₂, ht₂, hobs₂⟩ :=
    hhidden (es ++ [Event.reply p false]) (s₁.deliver S p false) ⟨fs, hsplit.symm⟩ hs₂
  -- the reply is left out, so the run without metrics is the same before and after it
  have hsame : withoutMetrics (es ++ [.reply p false]) = withoutMetrics es := by
    simp [withoutMetrics, Event.isMetric, hp]
  rw [hsame] at ht₂
  obtain rfl := ht₁.unique (fun s t hs ht => Eq.trans hs (Eq.symm ht)) ht₂
  have hsig : s₁.signals = (s₁.deliver S p false).signals :=
    congrArg Prod.fst (hobs₁.symm.trans hobs₂)
  rw [deliver_signals] at hsig
  simp [Meepo.dispatchReply, Meepo.fail] at hsig

/-- **The condition under which metrics do no harm.** In every run of `Meepo` and the login page,
with metrics posted and answered at any points, the signals of `Meepo`, its error, its sites and its
token and the flags of the login page are at every point those of the run without the metrics, if
and only if no metric is answered with a network error. -/
theorem metricsHidden_iff (S : Server) (es : List Event) (s : Session)
    (h : (machine S).Run es s) :
    MetricsHidden S es ↔ ∀ p, .reply p false ∈ es → p.request.isMetric = false := by
  constructor
  · intro hhidden p hmem
    by_contra hp
    obtain ⟨fs, gs, rfl⟩ := List.append_of_mem hmem
    exact not_metricsHidden_of_error h (by simpa using hp) hhidden
  · intro hanswered fs t hinit ht
    refine metricsHidden_of_answered (ht.runWhere fun e he u => ?_)
    cases e with
    | reply p ok =>
      intro hp
      by_contra hok
      obtain rfl : ok = false := by simpa using hok
      simp [hanswered p (hinit.subset he)] at hp
    | _ => trivial

/-- A login that sends a metric when it has its token. -/
def loginWithMetric (ok : Bool) : List Event :=
  [.login (.google "id"), .reply ⟨.auth (.google "id"), 1⟩ true, .sendMetric,
    .reply ⟨.activity "token", 1⟩ ok]

theorem metricsHidden_iff_login : MetricsHidden twoSites (loginWithMetric true) := by
  have hrun : (machine twoSites).Run (loginWithMetric true) _ :=
    .of_exec (show (machine twoSites).init {} from rfl) rfl
  refine (metricsHidden_iff twoSites (loginWithMetric true) _ hrun).mpr ?_
  simp [loginWithMetric]

/-- A metric that cannot be delivered makes the login fail: `failed` is emitted, and the login page
lets the user log in again while the sites request of the login is still in flight. -/
theorem undelivered_metric_fails_login :
    ∃ s t, (machine twoSites).Run (loginWithMetric false) s ∧
      (machine twoSites).Run (withoutMetrics (loginWithMetric false)) t ∧
      s.signals = [.failed true] ∧ s.meepo.error = "network error" ∧ s.started = false ∧
      t.signals = [] ∧ t.meepo.error = "" ∧ t.started = true ∧
      ¬ MetricsHidden twoSites (loginWithMetric false) := by
  have hrun : (machine twoSites).Run (loginWithMetric false) _ :=
    .of_exec (show (machine twoSites).init {} from rfl) rfl
  have hrun' : (machine twoSites).Run (withoutMetrics (loginWithMetric false)) _ :=
    .of_exec (show (machine twoSites).init {} from rfl) rfl
  refine ⟨_, _, hrun, hrun', rfl, rfl, rfl, rfl, rfl, rfl, fun hhidden => ?_⟩
  obtain ⟨t, ht, hobs⟩ := hhidden _ _ List.prefix_rfl hrun
  obtain rfl := ht.unique (fun s t hs ht => Eq.trans hs (Eq.symm ht)) hrun'
  exact absurd hobs (by decide)

end Session

end UsbMaker
