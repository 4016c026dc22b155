import UsbMaker.Meepo.Attempt

/-!
# Late replies of a failed login attempt

When a login attempt fails, the login page lets the user start another one. `Meepo::clear` resets
the members of `Meepo`, but the requests of the failed attempt stay in flight, and their replies are
fed to the same handlers. This file compares the new attempt with what it would have been without
these late replies (`Undisturbed`). The two agree if and only if nothing of the failed attempt is in
flight when the new one starts (`undisturbed_iff`).

## Main definitions

* `Session.Starts`: the login page starts an attempt.
* `Session.Undisturbed`.

## Main results

* `Session.attempt_le_of_run`: a request in flight descends from an attempt that has started.
* `Session.undisturbed_iff`.
-/

namespace UsbMaker.Session

variable {S : Server}

/-- The login page starts an attempt when it is asked to log in. -/
def Starts (s : Session) (c : Credentials) : Prop :=
  s.started = false ∧ (s.finished = false ∨ ∃ idToken, c = .google idToken)

/-- Replies arrive, each possibly as a network error. -/
def receive (S : Server) (s : Session) (replies : List (Pending × Bool)) : Option Session :=
  (machine S).exec s (replies.map fun reply => .reply reply.1 reply.2)

/-- The replies to the requests of one attempt. -/
def ofAttempt (attempt : Nat) (replies : List (Pending × Bool)) : List (Pending × Bool) :=
  replies.filter fun reply => reply.1.attempt = attempt

/-- Whatever replies arrive in whatever order, the signals emitted and the sites collected are
those that the replies of the current attempt alone lead to. -/
def Undisturbed (S : Server) (s : Session) : Prop :=
  ∀ replies s₁, receive S s replies = some s₁ →
    ∃ s₂, receive S s (ofAttempt s.attempt replies) = some s₂ ∧ s₂.signals = s₁.signals ∧
      s₂.meepo.sites = s₁.meepo.sites

/-! ### The attempts of the requests in flight -/

theorem login_eq_of_starts {s : Session} {c : Credentials} (h : s.Starts c) :
    s.login c = { s.begin c with started := true } := by
  cases c with
  | password user password =>
    have hfin : s.finished = false := by simpa [Starts] using h.2
    simp [login, hfin, h.1]
  | google idToken => simp [login, h.1]

/-- A login that does not start an attempt changes nothing. -/
theorem login_eq_self {s : Session} {c : Credentials} (h : ¬ s.Starts c) : s.login c = s := by
  cases c with
  | password user password =>
    simp only [login]
    split_ifs with hfin hstarted
    · rfl
    · rfl
    · exact absurd ⟨by simpa using hstarted, Or.inl (by simpa using hfin)⟩ h
  | google idToken =>
    simp only [login]
    split_ifs with hstarted
    · rfl
    · exact absurd ⟨by simpa using hstarted, Or.inr ⟨idToken, rfl⟩⟩ h

theorem begin_pending (s : Session) (c : Credentials) :
    (s.begin c).pending = s.pending ++ [⟨.auth c, s.attempt + 1⟩] := by
  simp [begin, Meepo.start]

theorem begin_attempt (s : Session) (c : Credentials) : (s.begin c).attempt = s.attempt + 1 := by
  simp [begin]

@[simp] theorem deliver_attempt (s : Session) (p : Pending) (ok : Bool) :
    (s.deliver S p ok).attempt = s.attempt := by
  simp [deliver]

/-- The requests posted by the handler of a reply descend from the attempt of the reply. -/
theorem mem_pending_deliver {s : Session} {p q : Pending} {ok : Bool}
    (h : q ∈ (s.deliver S p ok).pending) : q ∈ s.pending ∨ q.attempt = p.attempt := by
  rw [deliver, apply_pending, List.mem_append] at h
  rcases h with h | h
  · exact Or.inl (List.mem_of_mem_erase h)
  · obtain ⟨r, -, rfl⟩ := List.mem_map.mp h
    exact Or.inr rfl

theorem step_reply {s s' : Session} {p : Pending} {ok : Bool}
    (h : step S s (.reply p ok) = some s') : p ∈ s.pending ∧ s' = s.deliver S p ok := by
  by_cases hp : p ∈ s.pending
  · exact ⟨hp, by simpa [step, hp] using h.symm⟩
  · simp [step, hp] at h

theorem attempt_le_step {s s' : Session} {e : Event} (h : ∀ p ∈ s.pending, p.attempt ≤ s.attempt)
    (hs : step S s e = some s') : ∀ p ∈ s'.pending, p.attempt ≤ s'.attempt := by
  cases e with
  | login c =>
    obtain rfl := Option.some.inj hs
    by_cases hstart : s.Starts c
    · rw [login_eq_of_starts hstart]
      intro p hp
      change p ∈ (s.begin c).pending at hp
      change p.attempt ≤ (s.begin c).attempt
      rw [begin_pending, List.mem_append, List.mem_singleton] at hp
      rw [begin_attempt]
      rcases hp with hp | rfl
      · exact Nat.le_succ_of_le (h p hp)
      · exact Nat.le_refl _
    · rwa [login_eq_self hstart]
  | reply p ok =>
    obtain ⟨hp, rfl⟩ := step_reply hs
    intro q hq
    rw [deliver_attempt]
    rcases mem_pending_deliver hq with hq | hq
    · exact h q hq
    · exact hq ▸ h p hp
  | sendMetric =>
    obtain rfl := Option.some.inj hs
    intro q hq
    rw [apply_pending, List.mem_append] at hq
    rw [apply_attempt]
    rcases hq with hq | hq
    · exact h q hq
    · obtain ⟨r, -, rfl⟩ := List.mem_map.mp hq
      exact Nat.le_refl _

/-- A request in flight descends from an attempt that has started. -/
theorem attempt_le_of_run {es : List Event} {s : Session} (h : (machine S).Run es s) :
    ∀ p ∈ s.pending, p.attempt ≤ s.attempt :=
  h.invariant (by rintro s rfl; simp) fun _ _ _ hI _ hs => attempt_le_step hI hs

/-! ### Without late replies -/

/-- If only requests of the current attempt are in flight, only their replies arrive. -/
theorem ofAttempt_eq_self {s s₁ : Session} {replies : List (Pending × Bool)}
    (h : ∀ p ∈ s.pending, p.attempt = s.attempt) (hr : receive S s replies = some s₁) :
    ofAttempt s.attempt replies = replies := by
  induction replies generalizing s with
  | nil => rfl
  | cons reply replies ih =>
    obtain ⟨t, ht, hrest⟩ := Option.bind_eq_some_iff.mp hr
    obtain ⟨hp, rfl⟩ := step_reply ht
    have hnext : ∀ q ∈ (s.deliver S reply.1 reply.2).pending,
        q.attempt = (s.deliver S reply.1 reply.2).attempt := by
      intro q hq
      rw [deliver_attempt]
      rcases mem_pending_deliver hq with hq | hq
      · exact h q hq
      · exact hq.trans (h _ hp)
    have htail := ih hnext hrest
    rw [deliver_attempt, ofAttempt] at htail
    rw [ofAttempt, List.filter_cons_of_pos (by simpa using h _ hp), htail]

theorem undisturbed_of_pending {s : Session} (h : ∀ p ∈ s.pending, p.attempt = s.attempt) :
    Undisturbed S s := by
  intro replies s₁ hr
  refine ⟨s₁, ?_, rfl, rfl⟩
  rwa [ofAttempt_eq_self h hr]

/-! ### With a late reply -/

/-- A late reply that arrives as a network error makes the current attempt fail. -/
theorem not_undisturbed_of_late {s : Session} {p : Pending} (hp : p ∈ s.pending)
    (hlate : p.attempt ≠ s.attempt) : ¬ Undisturbed S s := by
  intro h
  have hr : receive S s [(p, false)] = some (s.deliver S p false) := by
    simp [receive, Machine.exec_cons, machine, step, hp]
  obtain ⟨s₂, hs₂, hsig, -⟩ := h _ _ hr
  have hnone : ofAttempt s.attempt [(p, false)] = [] := by simp [ofAttempt, hlate]
  rw [hnone] at hs₂
  obtain rfl : s = s₂ := Option.some.inj hs₂
  rw [deliver_signals] at hsig
  simp [Meepo.dispatchReply, Meepo.fail] at hsig

/-- **The condition under which late replies do no harm.** In every run, when the user starts a
login attempt, be it after a failed one, the signals emitted during the attempt and the sites it
collects are those without the late replies of earlier attempts, for every order of the replies,
if and only if no request is in flight when it starts. -/
theorem undisturbed_iff (S : Server) (c : Credentials) (es : List Event) (s : Session)
    (h : (machine S).Run es s) (hstart : s.Starts c) :
    Undisturbed S (s.login c) ↔ s.pending = [] := by
  have hpending : (s.login c).pending = s.pending ++ [⟨.auth c, s.attempt + 1⟩] := by
    rw [login_eq_of_starts hstart]
    exact begin_pending s c
  have hattempt : (s.login c).attempt = s.attempt + 1 := by
    rw [login_eq_of_starts hstart]
    exact begin_attempt s c
  constructor
  · intro hund
    refine List.eq_nil_iff_forall_not_mem.mpr fun p hp => ?_
    have hle := attempt_le_of_run h p hp
    refine not_undisturbed_of_late (p := p) ?_ ?_ hund
    · rw [hpending]
      exact List.mem_append_left _ hp
    · rw [hattempt]
      omega
  · intro hnil
    refine undisturbed_of_pending fun p hp => ?_
    rw [hpending, hnil, List.nil_append, List.mem_singleton] at hp
    rw [hattempt, hp]

/-- An account with two sites. -/
def twoSites : Server where
  apiToken _ := "token"
  pages _ := [[⟨1, "first"⟩, ⟨2, "second"⟩]]
  links _ _ := []

/-- A login whose first downloads reply is a network error. -/
def failedLogin : List Event :=
  [.login (.google "id"), .reply ⟨.auth (.google "id"), 1⟩ true,
    .reply ⟨.sites "token" 1, 1⟩ true, .reply ⟨.downloads "token" 1, 1⟩ false]

theorem undisturbed_iff_failed_login :
    ∃ s, (machine twoSites).Run failedLogin s ∧ s.Starts (.google "id") ∧
      ¬ Undisturbed twoSites (s.login (.google "id")) := by
  have hrun : (machine twoSites).Run failedLogin _ :=
    .of_exec (show (machine twoSites).init {} from rfl) rfl
  refine ⟨_, hrun, ⟨rfl, Or.inl rfl⟩, ?_⟩
  exact (undisturbed_iff twoSites (.google "id") failedLogin _ hrun ⟨rfl, Or.inl rfl⟩).not.mpr
    (by decide)

/-- After the failed login the user logs in again. The downloads reply of the second site, which
the first attempt had asked for, arrives before anything else: the new attempt has no sites yet, and
`handleDownloadsReply` makes it fail with "site not found". -/
theorem late_downloads_reply_fails :
    ∃ s s₁, (machine twoSites).Run failedLogin s ∧ s.Starts (.google "id") ∧
      receive twoSites (s.login (.google "id")) [(⟨.downloads "token" 2, 1⟩, true)] = some s₁ ∧
      s₁.meepo.error = "site not found" ∧ s.signals = [.failed true] ∧
      s₁.signals = [.failed true, .failed true] ∧
      ¬ Undisturbed twoSites (s.login (.google "id")) := by
  have hrun : (machine twoSites).Run failedLogin _ :=
    .of_exec (show (machine twoSites).init {} from rfl) rfl
  refine ⟨_, _, hrun, ⟨rfl, Or.inl rfl⟩, rfl, rfl, rfl, rfl, fun h => ?_⟩
  obtain ⟨s₂, hs₂, hsig, -⟩ := h [(⟨.downloads "token" 2, 1⟩, true)] _ rfl
  obtain rfl := Option.some.inj hs₂
  exact absurd hsig (by decide)

end UsbMaker.Session
