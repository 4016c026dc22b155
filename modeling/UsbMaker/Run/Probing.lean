import Mathlib.Data.Finset.Card
import Mathlib.Data.List.Iterate
import Mathlib.Data.Nat.ModEq
import Mathlib.Data.Nat.Prime.Basic
import Mathlib.Logic.Function.Iterate

/-!
# Tables with probing

A table has places, each of which is free or holds a key. For every key there is a list of places,
and a search for the key looks at them in turn, up to the first one that is free or holds the key.
A key that is not in the table is put there. Keys are never removed.

When every key is where the search for it ends, this stays so as keys are added, and no key is in
two places. A search finds no place only if every place that it looks at holds another key.

## Main definitions

* `Probing.place`: where a search ends; `Probing.add`: the table with a key.
* `Probing.Placed`: every key is where the search for it ends.
* `Probing.Settled`: a search for a key that ends somewhere ends at the key.
* `Probing.back`: the step of double hashing.

## Main results

* `Probing.Placed.add`, `Probing.Placed.injective`.
* `Probing.place_add`, `Probing.place_add_of_none`: searches after a key has been added.
* `Probing.Placed.length_lt`: a search that finds no place has looked at fewer places than there are
  keys.
* `Probing.nodup_iterate_back`, `Probing.iterate_back_size`: the places of double hashing.
-/

namespace UsbMaker.Probing

variable {κ ι : Type} [DecidableEq κ] {probes : κ → List ι} {table : ι → Option κ} {key key' : κ}

/-- A place that is free or holds the key. -/
def accepts (table : ι → Option κ) (key : κ) (i : ι) : Bool :=
  table i == none || table i == some key

/-- The place where the search for a key ends, `none` when there is no such place. -/
def place (probes : κ → List ι) (table : ι → Option κ) (key : κ) : Option ι :=
  (probes key).find? (accepts table key)

/-- Every key is where the search for it ends. -/
def Placed (probes : κ → List ι) (table : ι → Option κ) : Prop :=
  ∀ i key, table i = some key → place probes table key = some i

/-- A search for the key that ends somewhere ends at the key. -/
def Settled (probes : κ → List ι) (table : ι → Option κ) (key : κ) : Prop :=
  ∀ i, place probes table key = some i → table i = some key

theorem accepts_iff {i : ι} : accepts table key i = true ↔ table i = none ∨ table i = some key := by
  rw [accepts, Bool.or_eq_true, beq_iff_eq, beq_iff_eq]

theorem accepts_of_place {i : ι} (h : place probes table key = some i) :
    i ∈ probes key ∧ (table i = none ∨ table i = some key) :=
  ⟨List.mem_of_find?_eq_some h, accepts_iff.1 (List.find?_some h)⟩

/-- A search that finds no place comes to other keys only. -/
theorem place_eq_none_iff :
    place probes table key = none ↔
      ∀ i ∈ probes key, ∃ key', key' ≠ key ∧ table i = some key' := by
  rw [place, List.find?_eq_none]
  refine forall₂_congr fun i _ => ?_
  rw [accepts_iff, not_or]
  cases table i with
  | none => simp
  | some key' => simp

theorem Placed.injective (h : Placed probes table) {i j : ι} (hi : table i = some key)
    (hj : table j = some key) : i = j :=
  Option.some.inj ((h i key hi).symm.trans (h j key hj))

/-- A search that finds no place has looked at fewer places than there are keys. -/
theorem Placed.length_lt (h : Placed probes table) (hnodup : (probes key).Nodup)
    (hnone : place probes table key = none) {keys : Finset κ} (hkey : key ∈ keys)
    (hkeys : ∀ i key', table i = some key' → key' ∈ keys) :
    (probes key).length < keys.card := by
  classical
  rw [place_eq_none_iff] at hnone
  have : Nonempty κ := ⟨key⟩
  choose! other hne hother using hnone
  have hinj : Set.InjOn other ((probes key).toFinset : Set ι) := by
    intro i hi j hj heq
    rw [Finset.mem_coe, List.mem_toFinset] at hi hj
    exact h.injective (hother i hi) (heq ▸ hother j hj)
  rw [← List.toFinset_card_of_nodup hnodup, ← Finset.card_image_of_injOn hinj]
  refine Finset.card_lt_card (Finset.ssubset_iff_of_subset ?_ |>.2 ⟨key, hkey, ?_⟩)
  · intro key' hmem
    obtain ⟨i, hi, rfl⟩ := Finset.mem_image.1 hmem
    exact hkeys i _ (hother i (List.mem_toFinset.1 hi))
  · intro hmem
    obtain ⟨i, hi, heq⟩ := Finset.mem_image.1 hmem
    exact hne i (List.mem_toFinset.1 hi) heq

section Add

variable [DecidableEq ι]

/-- The table with a key, if there is a place for it. -/
def add (probes : κ → List ι) (table : ι → Option κ) (key : κ) : ι → Option κ :=
  match place probes table key with
  | none => table
  | some i => Function.update table i (some key)

theorem add_of_none (h : place probes table key = none) : add probes table key = table := by
  rw [add, h]

theorem add_of_some {i : ι} (h : place probes table key = some i) (hi : table i = some key) :
    add probes table key = table := by
  rw [add, h]
  dsimp only
  rw [← hi, Function.update_eq_self]

theorem add_self {i : ι} (h : place probes table key = some i) :
    add probes table key i = some key := by
  rw [add, h]
  exact Function.update_self _ _ _

/-- What is in the table when a key has been added. -/
theorem add_eq_some_iff {i : ι} :
    add probes table key' i = some key ↔
      table i = some key ∨ key = key' ∧ place probes table key' = some i := by
  cases hplace : place probes table key' with
  | none => simp [add_of_none hplace]
  | some j =>
    by_cases hij : i = j
    · subst hij
      rw [add_self hplace]
      refine ⟨fun heq => Or.inr ⟨(Option.some.inj heq).symm, rfl⟩, ?_⟩
      rintro (hi | ⟨rfl, -⟩)
      · rcases (accepts_of_place hplace).2 with hfree | hkey
        · rw [hi] at hfree
          cases hfree
        · exact hkey.symm.trans hi
      · rfl
    · rw [add, hplace]
      dsimp only
      rw [Function.update_of_ne hij]
      refine ⟨Or.inl, ?_⟩
      rintro (hi | ⟨-, heq⟩)
      · exact hi
      · exact absurd (Option.some.inj heq).symm hij

/-- A search that ends at its key goes on to end there. -/
theorem place_add {i : ι} (hplace : place probes table key = some i)
    (hi : add probes table key' i = some key) :
    place probes (add probes table key') key = some i := by
  rw [place, List.find?_eq_some_iff_append] at hplace ⊢
  obtain ⟨-, before, after, hprobes, hbefore⟩ := hplace
  refine ⟨accepts_iff.2 (Or.inr hi), before, after, hprobes, fun j hj => ?_⟩
  have hother := hbefore j hj
  rw [Bool.not_eq_true', Bool.eq_false_iff, ne_eq, accepts_iff, not_or] at hother ⊢
  obtain ⟨other, hsome⟩ := Option.ne_none_iff_exists'.1 hother.1
  have hsame : add probes table key' j = table j :=
    (add_eq_some_iff.2 (Or.inl hsome)).trans hsome.symm
  rw [hsame]
  exact hother

theorem place_add_of_none (h : place probes table key = none) :
    place probes (add probes table key') key = none := by
  rw [place_eq_none_iff] at h ⊢
  intro i hi
  obtain ⟨other, hne, hother⟩ := h i hi
  exact ⟨other, hne, add_eq_some_iff.2 (Or.inl hother)⟩

theorem Placed.add (h : Placed probes table) : Placed probes (add probes table key') := by
  intro i key hi
  refine place_add ?_ hi
  rcases add_eq_some_iff.1 hi with hi | ⟨rfl, hplace⟩
  · exact h i key hi
  · exact hplace

theorem settled_add_self : Settled probes (add probes table key) key := by
  intro i hi
  cases hplace : place probes table key with
  | none =>
    rw [place_add_of_none hplace] at hi
    cases hi
  | some j =>
    have hj := add_self hplace
    rw [place_add hplace hj, Option.some.injEq] at hi
    exact hi ▸ hj

theorem Settled.add (h : Settled probes table key) :
    Settled probes (add probes table key') key := by
  intro i hi
  cases hplace : place probes table key with
  | none =>
    rw [place_add_of_none hplace] at hi
    cases hi
  | some j =>
    have hj : Probing.add probes table key' j = some key :=
      add_eq_some_iff.2 (Or.inl (h j hplace))
    rw [place_add hplace hj, Option.some.injEq] at hi
    exact hi ▸ hj

end Add

/-! ### Double hashing -/

section DoubleHashing

variable {size d i : ℕ}

/-- A step back by `d`, in places that are counted from one. -/
def back (size d i : ℕ) : ℕ := if i ≤ d then size + i - d else i - d

variable (hd : 0 < d) (hsize : d < size)

include hd hsize

theorem back_spec (hi : 0 < i) (hle : i ≤ size) :
    0 < back size d i ∧ back size d i ≤ size ∧ back size d i + d ≡ i [MOD size] := by
  rw [back]
  split_ifs with h
  · refine ⟨by omega, by omega, ?_⟩
    rw [Nat.sub_add_cancel (by omega), Nat.add_comm]
    exact Nat.add_modEq_right
  · refine ⟨by omega, by omega, ?_⟩
    rw [Nat.sub_add_cancel (by omega)]

theorem iterate_back (hi : 0 < i) (hle : i ≤ size) (n : ℕ) :
    0 < (back size d)^[n] i ∧ (back size d)^[n] i ≤ size ∧
      (back size d)^[n] i + n * d ≡ i [MOD size] := by
  induction n with
  | zero => exact ⟨hi, hle, by rw [Nat.zero_mul]; rfl⟩
  | succ n ih =>
    obtain ⟨hpos, hn, hmod⟩ := ih
    obtain ⟨hpos', hn', hmod'⟩ := back_spec hd hsize hpos hn
    rw [Function.iterate_succ_apply']
    refine ⟨hpos', hn', ?_⟩
    rw [Nat.succ_mul, Nat.add_comm (n * d), ← Nat.add_assoc]
    exact (hmod'.add_right _).trans hmod

/-- A search with steps of a fixed width comes to different places in a table of prime size. -/
theorem nodup_iterate_back (hprime : size.Prime) (hi : 0 < i) (hle : i ≤ size) :
    (List.iterate (back size d) i size).Nodup := by
  rw [← List.range_map_iterate]
  refine List.Nodup.map_on (fun n hn m hm heq => ?_) List.nodup_range
  have hcoprime : size.Coprime d := Nat.coprime_of_lt_prime hd.ne' hsize hprime
  have hsteps : n * d ≡ m * d [MOD size] := by
    refine Nat.ModEq.add_left_cancel' ((back size d)^[n] i) ?_
    conv_rhs => rw [heq]
    exact (iterate_back hd hsize hi hle n).2.2.trans (iterate_back hd hsize hi hle m).2.2.symm
  have hmod := Nat.ModEq.cancel_right_of_coprime hcoprime hsteps
  exact hmod.eq_of_lt_of_lt (List.mem_range.1 hn) (List.mem_range.1 hm)

/-- After as many steps as there are places it is back where it began. -/
theorem iterate_back_size (hi : 0 < i) (hle : i ≤ size) : (back size d)^[size] i = i := by
  obtain ⟨hpos, hn, hmod⟩ := iterate_back hd hsize hi hle size
  have hsame : (back size d)^[size] i ≡ i [MOD size] := Nat.add_modulus_mul_modEq_iff.1 hmod
  have hbefore : (back size d)^[size] i - 1 ≡ i - 1 [MOD size] := by
    refine Nat.ModEq.add_right_cancel' 1 ?_
    rwa [Nat.sub_add_cancel hpos, Nat.sub_add_cancel hi]
  have := hbefore.eq_of_lt_of_lt (by omega) (by omega)
  omega

end DoubleHashing

end UsbMaker.Probing
