import Mathlib.Data.List.Basic
import Mathlib.Order.Bounds.Basic
import Mathlib.Order.Interval.Set.Basic
import UsbMaker.Run.While

/-!
# Searching between intervals

The values of a list lie over intervals of numbers, from `lo a` to `hi a`, in any order. A pass over
the list moves a number that is in one of the intervals behind it, and the search for the first
number that is in none repeats the pass until nothing has moved (`Intervals.skip`). The search for
the last number before the next interval needs one pass (`Intervals.lastBefore`).

The second search looks for an interval that begins before the number it has found, and not for one
that begins there. An interval with one number can therefore be missed, and then the result is this
number.

## Main definitions

* `Intervals.covered`: the numbers in the intervals.
* `Intervals.pass`, `Intervals.skip`, `Intervals.lastBefore`.

## Main results

* `Intervals.isLeast_skip`: the first search ends and finds the least number, in two turns more
  than there are intervals that end later.
* `Intervals.isGreatest_lastBefore_iff`: the second search finds the last number if and only if no
  interval begins there.
-/

namespace UsbMaker.Intervals

variable {α : Type} (lo hi : α → Nat) (l : List α)

/-- The numbers in the intervals. -/
def covered : Set Nat := {n | ∃ a ∈ l, lo a ≤ n ∧ n ≤ hi a}

theorem notMem_covered {n : Nat} : n ∉ covered lo hi l ↔ ∀ a ∈ l, lo a ≤ n → hi a < n := by
  simp [covered]

/-! ### The first number -/

/-- A number behind an interval that it is in, and whether it was moved. -/
def past (found : Nat × Bool) (a : α) : Nat × Bool :=
  if lo a ≤ found.1 ∧ found.1 ≤ hi a then (hi a + 1, true) else found

/-- A pass over the intervals. -/
def pass (n : Nat) : Nat × Bool := l.foldl (past lo hi) (n, false)

/-- The loop around the passes, which makes a pass at least. -/
def skip (turns n : Nat) : Option (Nat × Bool) :=
  While.run (fun found => some found.2) (fun found => pass lo hi l found.1) turns (n, true)

/-- What the passes over the first values keep: all numbers up to the one found are covered, and it
is the first one unless an interval ended before it. -/
structure Passed (n : Nat) (found : Nat × Bool) : Prop where
  le : n ≤ found.1
  covered_of_lt : ∀ m, n ≤ m → m < found.1 → m ∈ covered lo hi l
  moved : found.2 = true → ∃ a ∈ l, n ≤ hi a ∧ hi a < found.1
  stayed : found.2 = false → found.1 = n

theorem passed_foldl {n : Nat} {found : Nat × Bool} (h : Passed lo hi l n found) {rest : List α}
    (hrest : ∀ a ∈ rest, a ∈ l) :
    Passed lo hi l n (rest.foldl (past lo hi) found) := by
  induction rest generalizing found with
  | nil => exact h
  | cons a rest ih =>
    rw [List.forall_mem_cons] at hrest
    refine ih ?_ hrest.2
    rw [past]
    split_ifs with hin
    · have hle := h.le
      refine ⟨by dsimp only; omega, fun m hm hlt => ?_, fun _ => ⟨a, hrest.1, by omega,
        Nat.lt_succ_self _⟩, fun hfalse => Bool.noConfusion hfalse⟩
      rcases Nat.lt_or_ge m found.1 with hbefore | hafter
      · exact h.covered_of_lt m hm hbefore
      · exact ⟨a, hrest.1, hin.1.trans hafter, Nat.le_of_lt_succ hlt⟩
    · exact h

theorem passed_pass (n : Nat) : Passed lo hi l n (pass lo hi l n) := by
  have hfirst : Passed lo hi l n (n, false) :=
    ⟨le_rfl, fun _ hle hlt => absurd hlt (Nat.not_lt.mpr hle),
      fun htrue => Bool.noConfusion htrue, fun _ => rfl⟩
  exact passed_foldl lo hi l hfirst fun _ ha => ha

/-- A number that was not moved is in no interval. -/
theorem notMem_of_stayed {n : Nat} (h : (pass lo hi l n).2 = false) : n ∉ covered lo hi l := by
  rintro ⟨a, ha, hin⟩
  obtain ⟨before, after, rfl⟩ := List.append_of_mem ha
  have hpast (found : Nat × Bool) (b : α) (hfound : found.2 = true) :
      (past lo hi found b).2 = true := by
    rw [past]
    split_ifs
    · rfl
    · exact hfound
  have hmoved (rest : List α) (found : Nat × Bool) (hfound : found.2 = true) :
      (rest.foldl (past lo hi) found).2 = true := by
    induction rest generalizing found with
    | nil => exact hfound
    | cons b rest ih => exact ih _ (hpast found b hfound)
  have hbefore := passed_pass lo hi before n
  have hsplit : (pass lo hi (before ++ a :: after) n) =
      after.foldl (past lo hi) (past lo hi (pass lo hi before n) a) := by
    rw [pass, List.foldl_append, List.foldl_cons]
    rfl
  refine Bool.false_ne_true (h.symm.trans ?_)
  rw [hsplit]
  refine hmoved after _ ?_
  cases hfound : (pass lo hi before n).2 with
  | false =>
    rw [past, hbefore.stayed hfound, if_pos hin]
  | true => exact hpast _ a hfound

/-- The number of intervals that end at a number or later. -/
def ahead (n : Nat) : Nat := l.countP fun a => n ≤ hi a

theorem ahead_anti {n m : Nat} (hle : n ≤ m) : ahead hi l m ≤ ahead hi l n :=
  List.countP_mono_left fun _ _ hb => decide_eq_true (hle.trans (of_decide_eq_true hb))

theorem ahead_lt {n m : Nat} (hle : n ≤ m) (h : ∃ a ∈ l, n ≤ hi a ∧ hi a < m) :
    ahead hi l m < ahead hi l n := by
  obtain ⟨a, ha, hn, hm⟩ := h
  obtain ⟨before, after, rfl⟩ := List.append_of_mem ha
  have hsplit (k : Nat) : ahead hi (before ++ a :: after) k =
      ahead hi before k + (ahead hi after k + if k ≤ hi a then 1 else 0) := by
    simp only [ahead, List.countP_append, List.countP_cons, decide_eq_true_iff]
  have hbefore := ahead_anti hi before hle
  have hafter := ahead_anti hi after hle
  rw [hsplit, hsplit, if_neg (Nat.not_le.mpr hm), if_pos hn]
  omega

theorem ahead_le (n : Nat) : ahead hi l n ≤ l.length := List.countP_le_length

/-- What the loop keeps: all numbers up to the one found are covered, and it is in no interval if
it was not moved. -/
structure Skipped (n : Nat) (found : Nat × Bool) : Prop where
  le : n ≤ found.1
  covered_of_lt : ∀ m, n ≤ m → m < found.1 → m ∈ covered lo hi l
  notMem : found.2 = false → found.1 ∉ covered lo hi l

theorem skipped_pass {n : Nat} {found : Nat × Bool} (h : Skipped lo hi l n found) :
    Skipped lo hi l n (pass lo hi l found.1) := by
  have hpass := passed_pass lo hi l found.1
  refine ⟨h.le.trans hpass.le, fun m hm hlt => ?_, fun hstayed => ?_⟩
  · rcases Nat.lt_or_ge m found.1 with hbefore | hafter
    · exact h.covered_of_lt m hm hbefore
    · exact hpass.covered_of_lt m hafter hlt
  · rw [hpass.stayed hstayed]
    exact notMem_of_stayed lo hi l hstayed

/-- **The first number** that is in no interval. -/
theorem isLeast_skip {turns n : Nat} (h : ahead hi l n + 1 < turns) :
    ∃ found, skip lo hi l turns n = some found ∧
      IsLeast {m | n ≤ m ∧ m ∉ covered lo hi l} found.1 := by
  have hfirst : Skipped lo hi l n (n, true) :=
    ⟨le_rfl, fun _ hle hlt => absurd hlt (Nat.not_lt.mpr hle),
      fun hfalse => Bool.noConfusion hfalse⟩
  -- A pass moves the number past the end of an interval, or is the last one.
  have hkeep (found : Nat × Bool) (hskipped : Skipped lo hi l n found)
      (hmoved : some found.2 = some true) : Skipped lo hi l n (pass lo hi l found.1) ∧
        ahead hi l (pass lo hi l found.1).1 + (pass lo hi l found.1).2.toNat <
          ahead hi l found.1 + found.2.toNat := by
    have hpass := passed_pass lo hi l found.1
    refine ⟨skipped_pass lo hi l hskipped, ?_⟩
    rw [Option.some.inj hmoved]
    cases hagain : (pass lo hi l found.1).2 with
    | true => exact Nat.add_lt_add_right (ahead_lt hi l hpass.le (hpass.moved hagain)) 1
    | false =>
      rw [hpass.stayed hagain]
      exact Nat.lt_succ_self _
  obtain ⟨found, hrun, hskipped, hstayed⟩ := While.run_of_measure
    (fun found => ahead hi l found.1 + found.2.toNat) (fun _ _ => rfl) hkeep hfirst h
  refine ⟨found, hrun, ⟨hskipped.le, hskipped.notMem (Option.some.inj hstayed)⟩, fun m hm => ?_⟩
  by_contra hbefore
  exact hm.2 (hskipped.covered_of_lt m hm.1 (Nat.not_le.mp hbefore))

/-! ### The last number -/

/-- The number before an interval that begins later than `n`. -/
def before (n found : Nat) (a : α) : Nat := if lo a < found ∧ n < lo a then lo a - 1 else found

/-- The number before the next interval that begins later, or the last one. -/
def lastBefore (last n : Nat) : Nat := l.foldl (before lo n) last

/-- What the pass has found: no interval that begins later begins before it, and it is the last
number or the one before an interval. -/
structure Found (last n : Nat) (done : List α) (found : Nat) : Prop where
  le_found : n ≤ found
  found_le : found ≤ last
  found_le_lo : ∀ a ∈ done, n < lo a → found ≤ lo a
  next : found = last ∨ ∃ a ∈ l, n < lo a ∧ found + 1 = lo a

theorem found_lastBefore {last n : Nat} (hle : n ≤ last) :
    Found lo l last n l (lastBefore lo l last n) := by
  have hfold (done rest : List α) (found : Nat) (hall : ∀ a ∈ rest, a ∈ l)
      (h : Found lo l last n done found) :
      Found lo l last n (done ++ rest) (rest.foldl (before lo n) found) := by
    induction rest generalizing done found with
    | nil => rwa [List.append_nil]
    | cons a rest ih =>
      rw [List.forall_mem_cons] at hall
      rw [List.append_cons]
      refine ih _ _ hall.2 ?_
      obtain ⟨hlow, hhigh, hbefore, hnext⟩ := h
      rw [before]
      split_ifs with hin
      · refine ⟨by omega, by omega, fun b hb hlater => ?_, .inr ⟨a, hall.1, hin.2, by omega⟩⟩
        rw [List.mem_append, List.mem_singleton] at hb
        rcases hb with hb | rfl
        · have hle' := hbefore b hb hlater
          omega
        · omega
      · refine ⟨hlow, hhigh, fun b hb hlater => ?_, hnext⟩
        rw [List.mem_append, List.mem_singleton] at hb
        rcases hb with hb | rfl
        · exact hbefore b hb hlater
        · omega
  exact hfold [] l last (fun _ ha => ha) ⟨hle, le_rfl, fun _ ha => absurd ha List.not_mem_nil,
    .inl rfl⟩

section Last

variable {last n : Nat} (hle : n ≤ last) (hfree : n ∉ covered lo hi l)

include hle hfree

/-- Every number before the one found is in no interval. -/
theorem notMem_of_lt_lastBefore {m : Nat} (hm : n ≤ m) (hlt : m < lastBefore lo l last n) :
    m ∉ covered lo hi l := by
  rw [notMem_covered] at hfree ⊢
  intro a ha hlow
  have hbefore := (found_lastBefore lo l hle).found_le_lo a ha
  by_contra hhigh
  have hlater : n < lo a := by
    by_contra hearly
    have hend := hfree a ha (Nat.not_lt.mp hearly)
    omega
  have hfound := hbefore hlater
  omega

/-- The number found is in an interval if and only if one begins there. -/
theorem lastBefore_mem_covered_iff (hvalid : ∀ a ∈ l, lo a ≤ hi a) :
    lastBefore lo l last n ∈ covered lo hi l ↔
      n < lastBefore lo l last n ∧ ∃ a ∈ l, lo a = lastBefore lo l last n := by
  have hfound := found_lastBefore lo l hle
  have hfree' := (notMem_covered lo hi l).mp hfree
  constructor
  · rintro ⟨a, ha, hlow, hhigh⟩
    have hlater : n < lo a := by
      by_contra hearly
      have hend := hfree' a ha (Nat.not_lt.mp hearly)
      have hstart := hfound.le_found
      omega
    have hbegin := hfound.found_le_lo a ha hlater
    exact ⟨by omega, a, ha, by omega⟩
  · rintro ⟨hlt, a, ha, heq⟩
    exact ⟨a, ha, heq.le, heq ▸ hvalid a ha⟩

/-- **The last number** of those from `n` on that are in no interval. -/
theorem isGreatest_lastBefore (hvalid : ∀ a ∈ l, lo a ≤ hi a)
    (hnone : ∀ a ∈ l, lo a ≠ lastBefore lo l last n) :
    IsGreatest {m | n ≤ m ∧ m ≤ last ∧ ∀ k, n ≤ k → k ≤ m → k ∉ covered lo hi l}
      (lastBefore lo l last n) := by
  have hfound := found_lastBefore lo l hle
  have hlast : lastBefore lo l last n ∉ covered lo hi l := fun hin => by
    obtain ⟨-, a, ha, heq⟩ := (lastBefore_mem_covered_iff lo hi l hle hfree hvalid).mp hin
    exact hnone a ha heq
  refine ⟨⟨hfound.le_found, hfound.found_le, fun k hk hkm => ?_⟩, fun m hm => ?_⟩
  · rcases Nat.lt_or_eq_of_le hkm with hlt | rfl
    · exact notMem_of_lt_lastBefore lo hi l hle hfree hk hlt
    · exact hlast
  · obtain ⟨hlow, hhigh, hall⟩ := hm
    by_contra hlater
    rcases hfound.next with heq | ⟨a, ha, hafter, heq⟩
    · omega
    · exact hall (lo a) hafter.le (by omega) ⟨a, ha, le_rfl, hvalid a ha⟩

end Last

/-- The same among the numbers of an interval, with the condition under which it holds. -/
theorem isGreatest_lastBefore_iff {first last n : Nat}
    (hn : n ∈ Set.Icc first last \ covered lo hi l) (hvalid : ∀ a ∈ l, lo a ≤ hi a) :
    IsGreatest {m | n ≤ m ∧ Set.Icc n m ⊆ Set.Icc first last \ covered lo hi l}
        (lastBefore lo l last n) ↔
      ∀ a ∈ l, lo a ≠ lastBefore lo l last n := by
  obtain ⟨hin, hfree⟩ := hn
  obtain ⟨hlow, hhigh⟩ := Set.mem_Icc.mp hin
  have hset : {m | n ≤ m ∧ Set.Icc n m ⊆ Set.Icc first last \ covered lo hi l} =
      {m | n ≤ m ∧ m ≤ last ∧ ∀ k, n ≤ k → k ≤ m → k ∉ covered lo hi l} := by
    ext m
    constructor
    · rintro ⟨hle, hall⟩
      have hend := (Set.mem_Icc.mp (hall (Set.mem_Icc.mpr ⟨hle, le_rfl⟩)).1).2
      exact ⟨hle, hend, fun k hk hkm => (hall (Set.mem_Icc.mpr ⟨hk, hkm⟩)).2⟩
    · rintro ⟨hle, hlast, hall⟩
      refine ⟨hle, fun k hk => ?_⟩
      obtain ⟨hk, hkm⟩ := Set.mem_Icc.mp hk
      exact ⟨Set.mem_Icc.mpr ⟨by omega, by omega⟩, hall k hk hkm⟩
  rw [hset]
  refine ⟨fun hgreatest a ha heq => ?_, isGreatest_lastBefore lo hi l hhigh hfree hvalid⟩
  obtain ⟨hle, -, hall⟩ := hgreatest.1
  exact hall _ hle le_rfl ⟨a, ha, heq.le, heq ▸ hvalid a ha⟩

end UsbMaker.Intervals
