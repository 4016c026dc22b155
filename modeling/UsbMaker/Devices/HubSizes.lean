import Mathlib.NumberTheory.Bertrand
import UsbMaker.Devices.HubPrimes
import UsbMaker.Devices.Hubs

/-!
# The size of the hash table in natural numbers

The map of the hubs has `isprime` and the search of `htab_create` in natural numbers, with as many
turns as the number that is tested. These are enough: the test goes no further than the number, and
there is a prime between a number and its double. So the search in natural numbers finds the first
prime, and it finds the same as the one in 32 bits wherever this finds a prime.

## Main results

* `HtabCreate.isprime_iff`, `HtabCreate.isLeast_nextPrime`: the test and the search in natural
  numbers.
* `HtabCreate.htabSize_eq_nextPrime`: the search in 32 bits.
-/

namespace UsbMaker.HtabCreate

open Devices (isprimeFrom nextPrime)

/-! ### The test -/

section Test

variable {n d : Nat}

/-- The last turn: there is no divisor before `d`, and the product of `d` with itself is not below
the number. -/
theorem mod_ne_zero_iff_prime (hodd : n % 2 = 1) (hthree : 3 ≤ d) (hlt : d < n)
    (hno : ∀ e, 3 ≤ e → e < d → e % 2 = 1 → n % e ≠ 0) (hsq : n ≤ d * d) :
    n % d ≠ 0 ↔ n.Prime := by
  constructor
  · intro hmod
    by_contra hprime
    obtain ⟨hmin, hminodd, hminsq, hzero⟩ := minFac_of_not_prime hodd (by omega) hprime
    have hle : n.minFac ≤ d := by
      by_contra hgt
      have hproduct := Nat.mul_lt_mul'' (Nat.not_le.mp hgt) (Nat.not_le.mp hgt)
      omega
    rcases hle.lt_or_eq with hbefore | heq
    · exact hno _ hmin hbefore hminodd hzero
    · exact hmod (heq ▸ hzero)
  · exact fun hprime => mod_ne_zero_of_prime hprime hthree hlt

/-- The test from a divider on, when no odd number before it divides. -/
theorem isprimeFrom_iff {turns : Nat} (hodd : n % 2 = 1) (hthree : 3 ≤ d) (hdodd : d % 2 = 1)
    (hlt : d < n) (hturns : n ≤ d + turns)
    (hno : ∀ e, 3 ≤ e → e < d → e % 2 = 1 → n % e ≠ 0) :
    isprimeFrom n turns d = true ↔ n.Prime := by
  induction turns generalizing d with
  | zero => omega
  | succ turns ih =>
    rw [isprimeFrom]
    split_ifs with hgo
    · have hnext : d + 2 < n := by
        have hthrice : 3 * d ≤ d * d := Nat.mul_le_mul_right d hthree
        omega
      refine ih (by omega) (by omega) hnext (by omega) fun e he hbefore heodd => ?_
      rcases Nat.lt_or_ge e d with hlow | hhigh
      · exact hno e he hlow heodd
      · obtain rfl : e = d := by omega
        exact hgo.2
    · rw [decide_eq_true_iff]
      by_cases hzero : n % d = 0
      · exact ⟨fun hmod => absurd hzero hmod, fun hprime => mod_ne_zero_of_prime hprime hthree hlt⟩
      · exact mod_ne_zero_iff_prime hodd hthree hlt hno
          (Nat.not_lt.mp fun hproduct => hgo ⟨hproduct, hzero⟩)

/-- **The test in natural numbers** is right for all odd numbers from five on. -/
theorem isprime_iff (hodd : n % 2 = 1) (hfive : 5 ≤ n) : Devices.isprime n = true ↔ n.Prime :=
  isprimeFrom_iff hodd (Nat.le_refl 3) rfl (by omega) (by omega) fun e he hlt => by omega

end Test

/-! ### The search -/

/-- The search goes on to the first prime, if it has the turns. -/
theorem nextPrime_eq {n p turns : Nat} (hodd : n % 2 = 1) (hfive : 5 ≤ n)
    (hleast : IsLeast {p | p.Prime ∧ n ≤ p} p) (hturns : p ≤ n + turns) :
    nextPrime turns n = p := by
  obtain ⟨⟨hprime, hge⟩, hfirst⟩ := hleast
  have hpodd : p % 2 = 1 := hprime.eq_two_or_odd.resolve_left (by omega)
  induction turns generalizing n with
  | zero =>
    rw [nextPrime]
    omega
  | succ turns ih =>
    rw [nextPrime]
    split_ifs with hpasses
    · exact hge.antisymm (hfirst ⟨(isprime_iff hodd hfive).mp hpasses, Nat.le_refl n⟩)
    · have hne : n ≠ p := by
        rintro rfl
        exact hpasses ((isprime_iff hodd hfive).mpr hprime)
      refine ih (by omega) (by omega) (by omega) (fun q hq => hfirst ⟨hq.1, ?_⟩) (by omega)
      have hle := hq.2
      omega

/-- **The search in natural numbers** finds the first prime: there is one before the double. -/
theorem isLeast_nextPrime {n : Nat} (hodd : n % 2 = 1) (hfive : 5 ≤ n) :
    IsLeast {p | p.Prime ∧ n ≤ p} (nextPrime n n) := by
  obtain ⟨q, hq, hlt, hle⟩ := Nat.exists_prime_lt_and_le_two_mul n (by omega)
  have hex : ∃ p, p.Prime ∧ n ≤ p := ⟨q, hq, hlt.le⟩
  have hleast : IsLeast {p | p.Prime ∧ n ≤ p} (Nat.find hex) :=
    ⟨Nat.find_spec hex, fun p hp => Nat.find_min' hex hp⟩
  have hbound : Nat.find hex ≤ n + n := (Nat.find_min' hex ⟨hq, hlt.le⟩).trans (by omega)
  rw [nextPrime_eq hodd hfive hleast hbound]
  exact hleast

/-- **The search in 32 bits finds the same**, for all numbers of elements for which it finds a
prime. -/
theorem htabSize_eq_nextPrime {nel : UInt32} (hnel : 4 ≤ nel.toNat)
    (hle : nel.toNat ≤ 4294967279) :
    ∃ turns size, htabSize turns nel = some size ∧
      size.toNat = nextPrime (nel.toNat ||| 1) (nel.toNat ||| 1) := by
  obtain ⟨turns, size, hsize, hleast⟩ := findsPrime_of_le hnel hle
  refine ⟨turns, size, hsize, ?_⟩
  have hstart := or_one_eq nel.toNat
  have hnext := isLeast_nextPrime (n := nel.toNat ||| 1) (by omega) (by omega)
  refine le_antisymm (hleast.2 ⟨hnext.1.1, ?_⟩) (hnext.2 ⟨hleast.1.1, ?_⟩)
  · have hge := hnext.1.2
    omega
  · have hge : nel.toNat ≤ size.toNat := hleast.1.2
    have hpodd : size.toNat % 2 = 1 := hleast.1.1.eq_two_or_odd.resolve_left (by omega)
    omega

end UsbMaker.HtabCreate
