import Mathlib.Data.List.Induction

/-!
# Machines driven by events

An event-driven program is a partial step function on states: `step s e` is the state after the
event `e` has been handled in the state `s`, and `none` when `e` cannot happen in `s`. Everything
the program's surroundings can do (a click, a reply, a timer) is an event, so that a list of
events is one order in which they arrive.

`RunWhere C` are the runs in which every step meets a condition `C` on the state before the step
and the event; `Run` is the case without a condition. An invariant of the steps that meet `C`
holds in every state of such a run (`RunWhere.invariant`).

## Main definitions

* `Machine`, `Machine.RunWhere`, `Machine.Run`.
* `Machine.exec`: the state after a list of events, computed.
* `Machine.execWhere`: the same, as long as the steps meet a condition.

## Main results

* `Machine.RunWhere.invariant`: the invariant rule.
* `Machine.exists_exec`: the progress rule.
* `Machine.RunWhere.append`, `Machine.Run.append`: runs extend.
* `Machine.RunWhere.of_execWhere`, `Machine.Run.of_exec`: executions are runs.
* `Machine.RunWhere.unique`: the events of a run determine the state it reaches.
* `Machine.RunWhere.erase`: the rule for leaving events out of a run.
* `Machine.Run.forall_prefix_iff`: the rule for the exact condition of a property of states.
-/

namespace UsbMaker

/-- A machine with states `σ` and events `ε`. -/
structure Machine (σ ε : Type*) where
  /-- The states in which a run may begin. -/
  init : σ → Prop
  /-- The state after an event, `none` when the event cannot happen. -/
  step : σ → ε → Option σ

namespace Machine

variable {σ ε : Type*} (M : Machine σ ε)

/-- The runs of `M` all of whose steps meet `C`, with their events in order of arrival and the
state they reach. -/
inductive RunWhere (C : σ → ε → Prop) : List ε → σ → Prop
  | init {s} (h : M.init s) : RunWhere C [] s
  | step {es s e s'} (h : RunWhere C es s) (hC : C s e) (hs : M.step s e = some s') :
      RunWhere C (es ++ [e]) s'

/-- The runs of `M`. -/
def Run : List ε → σ → Prop := M.RunWhere fun _ _ => True

/-- The state after a list of events. -/
def exec : σ → List ε → Option σ
  | s, [] => some s
  | s, e :: es => (M.step s e).bind fun s' => exec s' es

/-- The state after a list of events all of whose steps meet `C`. -/
def execWhere (C : σ → ε → Prop) [∀ s e, Decidable (C s e)] : σ → List ε → Option σ
  | s, [] => some s
  | s, e :: es => if C s e then (M.step s e).bind fun s' => execWhere C s' es else none

variable {M} {C : σ → ε → Prop}

/-- **Invariant rule.** What holds initially and is kept by every step that meets the condition
holds in every state of a run whose steps all meet it. -/
theorem RunWhere.invariant {I : σ → Prop} {es : List ε} {s : σ} (h : M.RunWhere C es s)
    (h0 : ∀ s, M.init s → I s)
    (hstep : ∀ s e s', I s → C s e → M.step s e = some s' → I s') : I s := by
  induction h with
  | init hs => exact h0 _ hs
  | step _ hC hs ih => exact hstep _ _ _ ih hC hs

/-- The last step of a run. -/
theorem RunWhere.last {es : List ε} {e : ε} {s' : σ} (h : M.RunWhere C (es ++ [e]) s') :
    ∃ s, M.RunWhere C es s ∧ C s e ∧ M.step s e = some s' := by
  generalize hes : es ++ [e] = all at h
  cases h with
  | init hs => simp at hes
  | step h hC hs =>
    obtain ⟨rfl, rfl⟩ : es = _ ∧ e = _ := by simpa using hes
    exact ⟨_, h, hC, hs⟩

/-- A run that goes on was a run before. -/
theorem RunWhere.of_append {es fs : List ε} {s' : σ} (h : M.RunWhere C (es ++ fs) s') :
    ∃ s, M.RunWhere C es s := by
  induction fs using List.reverseRecOn generalizing s' with
  | nil => exact ⟨s', by simpa using h⟩
  | append_singleton fs e ih =>
    rw [← List.append_assoc] at h
    obtain ⟨s, hs, -, -⟩ := h.last
    exact ih hs

/-- A machine with one initial state is deterministic. -/
theorem RunWhere.unique (h0 : ∀ s t, M.init s → M.init t → s = t) {es : List ε} {s t : σ}
    (hs : M.RunWhere C es s) (ht : M.RunWhere C es t) : s = t := by
  induction hs generalizing t with
  | init hs =>
    generalize hes : ([] : List ε) = all at ht
    cases ht with
    | init ht => exact h0 _ _ hs ht
    | step _ _ _ => simp at hes
  | step _ _ hs ih =>
    obtain ⟨t₁, ht₁, -, hstep⟩ := ht.last
    rw [ih ht₁, hstep] at hs
    exact (Option.some.inj hs).symm

/-- The runs under a condition are runs. -/
theorem RunWhere.run {es : List ε} {s : σ} (h : M.RunWhere C es s) : M.Run es s := by
  induction h with
  | init hs => exact .init hs
  | step _ _ hs ih => exact .step ih trivial hs

/-- **Exactness rule.** If a step from a state with a property leads to one exactly when it meets a
condition, the states of a run all have the property exactly when the initial one has it and all
steps meet the condition. -/
theorem Run.forall_prefix_iff {I P : σ → Prop} (h0 : ∀ s t, M.init s → M.init t → s = t)
    (hinit : ∀ s, M.init s → I s) (hkeep : ∀ s e s', I s → M.step s e = some s' → I s')
    (hstep : ∀ s e s', I s → P s → M.step s e = some s' → (P s' ↔ C s e))
    {es : List ε} {s : σ} (h : M.Run es s) :
    (∀ fs t, fs <+: es → M.Run fs t → P t) ↔ (∀ s, M.init s → P s) ∧ M.RunWhere C es s := by
  induction h with
  | init hs =>
    refine ⟨fun hall => ⟨fun t ht => hall [] t List.prefix_rfl (.init ht), .init hs⟩, ?_⟩
    rintro ⟨hP, -⟩ fs t hfs ht
    obtain rfl := List.prefix_nil.mp hfs
    rw [RunWhere.unique h0 ht (.init hs)]
    exact hP _ hs
  | @step es s e s' h _ hs ih =>
    have hI : I s := RunWhere.invariant h hinit fun s e s' hI _ hs => hkeep s e s' hI hs
    have hlast : M.Run (es ++ [e]) s' := .step h trivial hs
    constructor
    · intro hall
      obtain ⟨hP, hwhere⟩ := ih.mp fun fs t hfs => hall fs t (hfs.trans (List.prefix_append _ _))
      refine ⟨hP, .step hwhere ?_ hs⟩
      exact (hstep s e s' hI (hall es s (List.prefix_append _ _) h) hs).mp
        (hall _ s' List.prefix_rfl hlast)
    · rintro ⟨hP, hwhere⟩ fs t hfs ht
      obtain ⟨s₁, hs₁, hC, -⟩ := hwhere.last
      obtain rfl := RunWhere.unique h0 hs₁.run h
      have hall := ih.mpr ⟨hP, hs₁⟩
      rcases List.prefix_concat_iff.mp hfs with rfl | hfs
      · rw [RunWhere.unique h0 ht hlast]
        exact (hstep s₁ e s' hI (hall es s₁ List.prefix_rfl h) hs).mpr hC
      · exact hall fs t hfs ht

/-- A run all of whose events meet a condition in every state is a run under that condition. -/
theorem Run.runWhere {es : List ε} {s : σ} (h : M.Run es s) (hC : ∀ e ∈ es, ∀ s, C s e) :
    M.RunWhere C es s := by
  induction h with
  | init hs => exact .init hs
  | step _ _ hs ih =>
    exact .step (ih fun e he => hC e (List.mem_append_left _ he)) (hC _ (by simp) _) hs

/-- **Erasure rule.** If the steps of the events to be left out keep a relation to the run without
them, and the other steps are matched, then leaving these events out of a run gives a run. -/
theorem RunWhere.erase (keep : ε → Bool) (R : σ → σ → Prop)
    (h0 : ∀ s, M.init s → ∃ t, M.init t ∧ R s t)
    (hdrop : ∀ s e s' t, R s t → C s e → keep e = false → M.step s e = some s' → R s' t)
    (hkeep : ∀ s e s' t, R s t → C s e → keep e = true → M.step s e = some s' →
      ∃ t', M.step t e = some t' ∧ R s' t')
    {es : List ε} {s : σ} (h : M.RunWhere C es s) :
    ∃ t, M.Run (es.filter keep) t ∧ R s t := by
  induction h with
  | init hs =>
    obtain ⟨t, ht, hR⟩ := h0 _ hs
    exact ⟨t, .init ht, hR⟩
  | @step es s e s' _ hC hs ih =>
    obtain ⟨t, ht, hR⟩ := ih
    rw [List.filter_append]
    cases hk : keep e with
    | false => exact ⟨t, by simpa [hk] using ht, hdrop s e s' t hR hC hk hs⟩
    | true =>
      obtain ⟨t', ht', hR'⟩ := hkeep s e s' t hR hC hk hs
      refine ⟨t', ?_, hR'⟩
      rw [List.filter_cons_of_pos hk, List.filter_nil]
      exact .step ht trivial ht'

/-- A run followed by a computed execution whose steps meet the condition is such a run. -/
theorem RunWhere.append [∀ s e, Decidable (C s e)] {es fs : List ε} {s s' : σ}
    (h : M.RunWhere C es s) (hs : M.execWhere C s fs = some s') : M.RunWhere C (es ++ fs) s' := by
  induction fs generalizing es s with
  | nil =>
    obtain rfl : s = s' := Option.some.inj hs
    simpa using h
  | cons e fs ih =>
    rw [execWhere] at hs
    split_ifs at hs with hC
    obtain ⟨t, ht, hrest⟩ := Option.bind_eq_some_iff.mp hs
    simpa using ih (.step h hC ht) hrest

theorem RunWhere.of_execWhere [∀ s e, Decidable (C s e)] {es : List ε} {s s' : σ} (h : M.init s)
    (hs : M.execWhere C s es = some s') : M.RunWhere C es s' := by
  simpa using RunWhere.append (.init h) hs

@[simp] theorem exec_nil (s : σ) : M.exec s [] = some s := rfl

theorem exec_cons (s : σ) (e : ε) (es : List ε) :
    M.exec s (e :: es) = (M.step s e).bind fun s' => M.exec s' es := rfl

/-- Without a condition, every execution counts. -/
theorem execWhere_true (s : σ) (es : List ε) :
    M.execWhere (fun _ _ => True) s es = M.exec s es := by
  induction es generalizing s with
  | nil => rfl
  | cons e es ih =>
    rw [execWhere, if_pos trivial, exec_cons]
    exact congrArg _ (funext ih)

/-- A run followed by a computed execution is a run. -/
theorem Run.append {es fs : List ε} {s s' : σ} (h : M.Run es s) (hs : M.exec s fs = some s') :
    M.Run (es ++ fs) s' :=
  RunWhere.append h ((execWhere_true s fs).trans hs)

theorem Run.of_exec {es : List ε} {s s' : σ} (h : M.init s) (hs : M.exec s es = some s') :
    M.Run es s' := by
  simpa using Run.append (RunWhere.init h) hs

/-- **Progress rule.** If in every state of an invariant that is not yet a goal some event makes a
step that keeps the invariant and lowers a measure, some events lead to a goal. -/
theorem exists_exec {α : Type*} {r : α → α → Prop} (hr : WellFounded r) (μ : σ → α)
    {I Q : σ → Prop}
    (hstep : ∀ s, I s → ¬ Q s → ∃ e s', M.step s e = some s' ∧ I s' ∧ r (μ s') (μ s))
    (s : σ) (hs : I s) : ∃ es s', M.exec s es = some s' ∧ I s' ∧ Q s' := by
  induction hμ : μ s using hr.induction generalizing s with
  | _ x ih =>
    by_cases hQ : Q s
    · exact ⟨[], s, rfl, hs, hQ⟩
    · obtain ⟨e, t, ht, hI, hlt⟩ := hstep s hs hQ
      obtain ⟨es, s', hes, hI', hQ'⟩ := ih (μ t) (hμ ▸ hlt) t hI rfl
      exact ⟨e :: es, s', by rw [exec_cons, ht, Option.bind_some, hes], hI', hQ'⟩

end Machine

end UsbMaker
