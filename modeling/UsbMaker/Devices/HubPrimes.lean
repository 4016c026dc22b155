import Mathlib.Data.Nat.Bitwise
import Mathlib.Data.Nat.Find
import Mathlib.Data.Nat.Prime.Basic
import Mathlib.Order.Bounds.Basic
import Mathlib.Tactic.IntervalCases
import Mathlib.Tactic.NormNum
import Mathlib.Tactic.NormNum.Prime
import UsbMaker.Run.While

/-!
# The size of the hash table

`htab_create` looks for the first prime that is not smaller than the number of elements. Its numbers
have 32 bits and wrap around, in `divider * divider` and in `nel += 2`.

The product of the divider with itself fits for all dividers up to 65535, and a composite number has
a factor among these. So the test is right for composite numbers. For a prime it has to stop before
the divider is the prime itself. Up to 65535 squared a product that fits does this, and above it one
that wraps around to 4294967289 = 2³² - 7. The only larger prime is 4294967291, and odd squares are
never so near to 2³²: it passes for a composite number, the search goes on from one again, and one
passes for a prime. So the search finds the prime if and only if the number of elements is at most
4294967279, the prime before (`findsPrime_iff`).

## Main definitions

* `HtabCreate.isprime`, `HtabCreate.htabSize`: the test and the search, in a number of turns.
* `HtabCreate.FindsPrime`: the search ends with the first prime.

## Main results

* `HtabCreate.isprime_of_not_prime`, `HtabCreate.isprime_of_prime`, `HtabCreate.isprime_largest`.
* `HtabCreate.htabSize_eq`, `HtabCreate.htabSize_wraps`.
* `HtabCreate.exists_htabSize`, `HtabCreate.findsPrime_iff`.
-/

namespace UsbMaker.HtabCreate

/-- The condition of the loop of `isprime`. -/
def goesOn (number divider : UInt32) : Bool :=
  divider * divider < number && number % divider ≠ 0

/-- `isprime`, in a number of turns. -/
def isprime (turns : Nat) (number : UInt32) : Option Bool :=
  (While.run (fun divider => some (goesOn number divider)) (fun divider => divider + 2) turns
    3).map fun divider => number % divider ≠ 0

/-- The search of `htab_create`, in a number of turns for each loop. -/
def htabSize (turns : Nat) (nel : UInt32) : Option UInt32 :=
  While.run (fun nel => (isprime turns nel).map not) (fun nel => nel + 2) turns (nel ||| 1)

/-! ### Numbers of 32 bits -/

theorem goesOn_eq_true_iff {number divider : UInt32} :
    goesOn number divider = true ↔
      divider.toNat * divider.toNat % 2 ^ 32 < number.toNat ∧
        number.toNat % divider.toNat ≠ 0 := by
  rw [goesOn, Bool.and_eq_true, decide_eq_true_eq, decide_eq_true_eq, UInt32.lt_iff_toNat_lt,
    UInt32.toNat_mul, ne_eq, ← UInt32.toNat_inj, UInt32.toNat_mod]
  rfl

/-- Steps of two that do not wrap around. -/
theorem toNat_iterate {a : UInt32} {j : Nat} (h : a.toNat + 2 * j < 2 ^ 32) :
    ((fun n : UInt32 => n + 2)^[j] a).toNat = a.toNat + 2 * j := by
  induction j with
  | zero => rfl
  | succ j ih =>
    have htwo : (2 : UInt32).toNat = 2 := rfl
    rw [Function.iterate_succ_apply', UInt32.toNat_add, ih (by omega), htwo]
    exact Nat.mod_eq_of_lt (by omega)

theorem or_one_eq (n : Nat) : n ||| 1 = 2 * (n / 2) + 1 := by
  have hdiv : (n ||| 1) / 2 = n / 2 := by
    have h := Nat.or_div_two_pow (n := 1) (a := n) (b := 1)
    simpa using h
  have hmod : (n ||| 1) % 2 = 1 := by
    have h := Nat.or_mod_two_pow (n := 1) (a := n) (b := 1)
    rcases Nat.mod_two_eq_zero_or_one n with hn | hn <;> simp_all
  omega

theorem toNat_or_one (nel : UInt32) : (nel ||| 1).toNat = 2 * (nel.toNat / 2) + 1 := by
  rw [UInt32.toNat_or]
  exact or_one_eq nel.toNat

/-! ### Factors -/

theorem mod_ne_zero_of_prime {n d : Nat} (hprime : n.Prime) (hthree : 3 ≤ d) (hlt : d < n) :
    n % d ≠ 0 := by
  intro hzero
  rcases hprime.eq_one_or_self_of_dvd d (Nat.dvd_of_mod_eq_zero hzero) with hone | hself <;> omega

/-- The least factor of an odd composite number. -/
theorem minFac_of_not_prime {n : Nat} (hodd : n % 2 = 1) (hthree : 3 ≤ n) (h : ¬ n.Prime) :
    3 ≤ n.minFac ∧ n.minFac % 2 = 1 ∧ n.minFac * n.minFac ≤ n ∧ n % n.minFac = 0 := by
  have hdvd := Nat.minFac_dvd n
  have htwo := (Nat.minFac_prime (show n ≠ 1 by omega)).two_le
  have hminodd : n.minFac % 2 = 1 := by
    by_contra heven
    have hdvd' : 2 ∣ n := (Nat.dvd_of_mod_eq_zero (by omega)).trans hdvd
    omega
  refine ⟨by omega, hminodd, ?_, Nat.mod_eq_zero_of_dvd hdvd⟩
  rw [← sq]
  exact Nat.minFac_sq_le_self (by omega) h

/-! ### The test -/

section Test

variable {number : UInt32} {turns : Nat}

/-- Whether the loop of `isprime` goes on, for a divider that is a natural number. -/
def GoesOn (number divider : Nat) : Prop :=
  divider * divider % 2 ^ 32 < number ∧ number % divider ≠ 0

instance (number divider : Nat) : Decidable (GoesOn number divider) :=
  inferInstanceAs (Decidable (_ ∧ _))

/-- The test ends at the first odd divider at which the loop does not go on. -/
theorem isprime_eq (hturns : 2 ^ 32 ≤ turns) {e : Nat} (hthree : 3 ≤ e) (hodd : e % 2 = 1)
    (hlt : e < 2 ^ 32) (hstop : ¬ GoesOn number.toNat e)
    (hgo : ∀ d, 3 ≤ d → d < e → d % 2 = 1 → GoesOn number.toNat d) :
    isprime turns number = some (decide (number.toNat % e ≠ 0)) := by
  obtain ⟨k, rfl⟩ : ∃ k, e = 3 + 2 * k := ⟨(e - 3) / 2, by omega⟩
  have hthree' : (3 : UInt32).toNat = 3 := rfl
  have hdivider {j : Nat} (hj : j ≤ k) :
      ((fun n : UInt32 => n + 2)^[j] 3).toNat = 3 + 2 * j := toNat_iterate (by omega)
  have hrun : While.run (fun divider => some (goesOn number divider)) (fun n => n + 2) turns 3 =
      some ((fun n : UInt32 => n + 2)^[k] 3) := by
    refine While.run_eq_of_first (fun j hj => ?_) ?_ (by omega)
    · rw [Option.some.injEq, goesOn_eq_true_iff, hdivider hj.le]
      exact hgo _ (by omega) (by omega) (by omega)
    · rw [Option.some.injEq, Bool.eq_false_iff, ne_eq, goesOn_eq_true_iff,
        hdivider (Nat.le_refl k)]
      exact hstop
  have hzero : number % (fun n : UInt32 => n + 2)^[k] 3 ≠ 0 ↔
      number.toNat % (3 + 2 * k) ≠ 0 := by
    rw [ne_eq, ← UInt32.toNat_inj, UInt32.toNat_mod, hdivider (Nat.le_refl k)]
    rfl
  rw [isprime, hrun, Option.map_some, decide_eq_decide.mpr hzero]

/-- A loop that stops at an odd divider stops at a first one. -/
theorem exists_first_stop {n e : Nat} (hthree : 3 ≤ e) (hodd : e % 2 = 1) (hstop : ¬ GoesOn n e) :
    ∃ e' ≤ e, 3 ≤ e' ∧ e' % 2 = 1 ∧ ¬ GoesOn n e' ∧
      ∀ d, 3 ≤ d → d < e' → d % 2 = 1 → GoesOn n d := by
  have hex : ∃ e, 3 ≤ e ∧ e % 2 = 1 ∧ ¬ GoesOn n e := ⟨e, hthree, hodd, hstop⟩
  obtain ⟨h3, hmod, hfirst⟩ := Nat.find_spec hex
  refine ⟨Nat.find hex, Nat.find_min' hex ⟨hthree, hodd, hstop⟩, h3, hmod, hfirst, ?_⟩
  intro d hd hlt hdodd
  by_contra hgo
  exact Nat.find_min hex hlt ⟨hd, hdodd, hgo⟩

/-- **A composite number does not pass.** It has a factor up to 65535, and the products up to this
factor fit. -/
theorem isprime_of_not_prime (hturns : 2 ^ 32 ≤ turns) (hodd : number.toNat % 2 = 1)
    (hthree : 3 ≤ number.toNat) (h : ¬ number.toNat.Prime) : isprime turns number = some false := by
  have hn : number.toNat < 2 ^ 32 := number.toNat_lt
  generalize hnumber : number.toNat = n at *
  obtain ⟨hthree', hminodd, hsq, hdvd⟩ := minFac_of_not_prime hodd hthree h
  have hle : n.minFac ≤ n := Nat.minFac_le (by omega)
  have hstop : ¬ GoesOn n n.minFac := fun hgo => hgo.2 hdvd
  have hgo (d : Nat) (hd : 3 ≤ d) (hlt : d < n.minFac) : GoesOn n d := by
    have hprod : d * d < n.minFac * n.minFac := Nat.mul_lt_mul'' hlt hlt
    refine ⟨?_, fun hzero => ?_⟩
    · rw [Nat.mod_eq_of_lt (by omega)]
      omega
    · have hmin := Nat.minFac_le_of_dvd (by omega) (Nat.dvd_of_mod_eq_zero hzero)
      omega
  have hlt : n.minFac < 2 ^ 32 := by omega
  subst hnumber
  rw [isprime_eq hturns hthree' hminodd hlt hstop fun d hd hlt _ => hgo d hd hlt, hdvd]
  rfl

/-- There is an odd divider below the number whose product is not. -/
theorem exists_stop {n : Nat} (hodd : n % 2 = 1) (hfive : 5 ≤ n) (hle : n ≤ 4294967289) :
    ∃ e, 3 ≤ e ∧ e < n ∧ e % 2 = 1 ∧ n ≤ e * e % 2 ^ 32 := by
  rcases Nat.lt_or_ge n 65536 with hsmall | hlarge
  · refine ⟨n - 2, by omega, by omega, by omega, ?_⟩
    obtain ⟨m, rfl⟩ : ∃ m, n = m + 5 := ⟨n - 5, by omega⟩
    have hfits : (m + 5 - 2) * (m + 5 - 2) < 2 ^ 32 :=
      (Nat.mul_le_mul (show m + 5 - 2 ≤ 65533 by omega) (show m + 5 - 2 ≤ 65533 by omega)).trans_lt
        (by norm_num)
    rw [Nat.mod_eq_of_lt hfits]
    have hthrice : (m + 5 - 2) * 3 ≤ (m + 5 - 2) * (m + 5 - 2) := Nat.mul_le_mul_left _ (by omega)
    omega
  · rcases Nat.lt_or_ge 4294836225 n with hbig | hfits
    · exact ⟨479772853, by norm_num, by omega, by norm_num, hle.trans (by norm_num)⟩
    · exact ⟨65535, by norm_num, by omega, by norm_num, hfits.trans (by norm_num)⟩

/-- **A prime up to 4294967289 passes.** -/
theorem isprime_of_prime (hturns : 2 ^ 32 ≤ turns) (h : number.toNat.Prime)
    (hfive : 5 ≤ number.toNat) (hle : number.toNat ≤ 4294967289) :
    isprime turns number = some true := by
  have hodd : number.toNat % 2 = 1 := h.eq_two_or_odd.resolve_left (by omega)
  obtain ⟨e, hthree, hlt, heodd, hproduct⟩ := exists_stop hodd hfive hle
  obtain ⟨e', hle', hthree', hodd', hstop, hgo⟩ :=
    exists_first_stop hthree heodd fun hgo : GoesOn number.toNat e => by
      have := hgo.1
      omega
  rw [isprime_eq hturns hthree' hodd' (by omega) hstop hgo]
  rw [decide_eq_true (mod_ne_zero_of_prime h hthree' (by omega))]

/-- **The number 4294967291 does not pass**, although it is a prime: no odd square comes so near to
2³² that the loop stops before the number itself. -/
theorem isprime_largest (hturns : 2 ^ 32 ≤ turns) : isprime turns 4294967291 = some false := by
  by_cases hprime : (4294967291 : UInt32).toNat.Prime
  · have hnumber : (4294967291 : UInt32).toNat = 4294967291 := rfl
    have hstop : ¬ GoesOn (4294967291 : UInt32).toNat 4294967291 :=
      fun hgo => hgo.2 (Nat.mod_self _)
    have hgo (d : Nat) (hd : 3 ≤ d) (hlt : d < 4294967291) (hodd : d % 2 = 1) :
        GoesOn (4294967291 : UInt32).toNat d := by
      refine ⟨?_, mod_ne_zero_of_prime hprime hd hlt⟩
      have hsquare : d * d % 8 = 1 := by
        have hcases : d % 8 = 1 ∨ d % 8 = 3 ∨ d % 8 = 5 ∨ d % 8 = 7 := by omega
        rcases hcases with h | h | h | h <;> rw [Nat.mul_mod, h]
      rw [hnumber]
      omega
    rw [isprime_eq hturns (by norm_num) (by norm_num) (by norm_num) hstop hgo, hnumber,
      Nat.mod_self]
    rfl
  · exact isprime_of_not_prime hturns (by decide) (by decide) hprime

end Test

/-! ### The search -/

section Search

variable {nel : UInt32} {turns : Nat}

/-- The search ends at the first odd number that passes, if it does not wrap around before. -/
theorem htabSize_of_first {k : Nat} {size : UInt32}
    (hsize : (fun n : UInt32 => n + 2)^[k] (nel ||| 1) = size)
    (hpasses : isprime turns size = some true)
    (hfails : ∀ j < k, isprime turns ((fun n : UInt32 => n + 2)^[j] (nel ||| 1)) = some false)
    (hturns : k < turns) : htabSize turns nel = some size := by
  rw [htabSize, ← hsize]
  refine While.run_eq_of_first (fun j hj => ?_) ?_ hturns
  · rw [hfails j hj]
    rfl
  · rw [hsize, hpasses]
    rfl

/-- **The search finds the first prime** that is not smaller than `nel`, if that is at most
4294967289. -/
theorem htabSize_eq (hturns : 2 ^ 32 ≤ turns) (hnel : 4 ≤ nel.toNat) {size : UInt32}
    (hleast : IsLeast {p | p.Prime ∧ nel.toNat ≤ p} size.toNat)
    (hle : size.toNat ≤ 4294967289) : htabSize turns nel = some size := by
  obtain ⟨⟨hprime, hge⟩, hfirst⟩ := hleast
  have hodd : size.toNat % 2 = 1 := by
    refine hprime.eq_two_or_odd.resolve_left fun htwo => ?_
    omega
  have hstart := toNat_or_one nel
  obtain ⟨k, hk⟩ : ∃ k, size.toNat = (nel ||| 1).toNat + 2 * k :=
    ⟨(size.toNat - (nel ||| 1).toNat) / 2, by omega⟩
  have hnext {j : Nat} (hj : j ≤ k) :
      ((fun n : UInt32 => n + 2)^[j] (nel ||| 1)).toNat = (nel ||| 1).toNat + 2 * j :=
    toNat_iterate (by omega)
  have hlast : (fun n : UInt32 => n + 2)^[k] (nel ||| 1) = size := by
    rw [← UInt32.toNat_inj, hnext (Nat.le_refl k), hk]
  refine htabSize_of_first hlast (isprime_of_prime hturns hprime (by omega) hle)
    (fun j hj => isprime_of_not_prime hturns ?_ ?_ ?_) (by omega)
  · rw [hnext hj.le]
    omega
  · rw [hnext hj.le]
    omega
  · intro hpassed
    rw [hnext hj.le] at hpassed
    have hle' := hfirst ⟨hpassed, by omega⟩
    omega

/-- The odd numbers from 4294967281 on do not pass. -/
theorem isprime_of_large (hturns : 2 ^ 32 ≤ turns) {number : UInt32}
    (hodd : number.toNat % 2 = 1) (hlarge : 4294967280 < number.toNat) :
    isprime turns number = some false := by
  by_cases hmax : number.toNat = 4294967291
  · obtain rfl : number = 4294967291 := UInt32.toNat_inj.mp hmax
    exact isprime_largest hturns
  · refine isprime_of_not_prime hturns hodd (by omega) fun hprime => ?_
    have hlt := number.toNat_lt
    obtain ⟨i, hi, heq⟩ : ∃ i < 8, number.toNat = 4294967281 + 2 * i :=
      ⟨(number.toNat - 4294967281) / 2, by omega, by omega⟩
    rw [heq] at hprime
    interval_cases i <;> revert hprime <;> first | omega | norm_num

/-- One passes. -/
theorem isprime_one (hturns : 0 < turns) : isprime turns 1 = some true := by
  cases turns with
  | zero => omega
  | succ turns =>
    have hstops : goesOn 1 3 = false := by decide
    rw [isprime, While.run_some_of_false hstops]
    rfl

/-- **The search goes on from one again**, and ends there, if there is no prime that passes. -/
theorem htabSize_wraps (hturns : 2 ^ 32 ≤ turns) (hnel : 4294967279 < nel.toNat) :
    htabSize turns nel = some 1 := by
  have hstart := toNat_or_one nel
  have hmax := nel.toNat_lt
  obtain ⟨k, hk⟩ : ∃ k, (nel ||| 1).toNat + 2 * k = 4294967295 :=
    ⟨(4294967295 - (nel ||| 1).toNat) / 2, by omega⟩
  have hnext {j : Nat} (hj : j ≤ k) :
      ((fun n : UInt32 => n + 2)^[j] (nel ||| 1)).toNat = (nel ||| 1).toNat + 2 * j :=
    toNat_iterate (by omega)
  have hlast : (fun n : UInt32 => n + 2)^[k] (nel ||| 1) = 4294967295 := by
    rw [← UInt32.toNat_inj, hnext (Nat.le_refl k), hk]
    rfl
  have hone : (fun n : UInt32 => n + 2)^[k + 1] (nel ||| 1) = 1 := by
    rw [Function.iterate_succ_apply', hlast]
    rfl
  refine htabSize_of_first hone (isprime_one (by omega)) (fun j hj => ?_) (by omega)
  refine isprime_of_large hturns ?_ ?_
  · rw [hnext (Nat.le_of_lt_succ hj)]
    omega
  · rw [hnext (Nat.le_of_lt_succ hj)]
    omega

theorem isprime_mono {turns' : Nat} (hle : turns ≤ turns') {number : UInt32} {b : Bool}
    (h : isprime turns number = some b) : isprime turns' number = some b := by
  obtain ⟨divider, hrun, hb⟩ := Option.map_eq_some_iff.mp h
  rw [isprime, While.run_mono (fun _ _ hguard => hguard) hle hrun, Option.map_some, hb]

/-- More turns do not change the size. -/
theorem htabSize_mono {turns' : Nat} (hle : turns ≤ turns') {size : UInt32}
    (h : htabSize turns nel = some size) : htabSize turns' nel = some size := by
  refine While.run_mono (fun number b hguard => ?_) hle h
  obtain ⟨passes, hpasses, hb⟩ := Option.map_eq_some_iff.mp hguard
  rw [isprime_mono hle hpasses, Option.map_some, hb]

end Search

/-! ### The prime before the largest one -/

/-- Whether a number has no divisor among `2 ^ k` numbers with steps of two, from `d` on. -/
def noDivisor (n : Nat) : Nat → Nat → Bool
  | 0, d => n % d != 0
  | k + 1, d => noDivisor n k d && noDivisor n k (d + 2 * 2 ^ k)

theorem mod_ne_zero_of_noDivisor {n k d : Nat} (h : noDivisor n k d = true) {i : Nat}
    (hi : i < 2 ^ k) : n % (d + 2 * i) ≠ 0 := by
  induction k generalizing d i with
  | zero =>
    obtain rfl : i = 0 := Nat.lt_one_iff.mp hi
    exact bne_iff_ne.mp h
  | succ k ih =>
    rw [noDivisor, Bool.and_eq_true] at h
    rcases Nat.lt_or_ge i (2 ^ k) with hlow | hhigh
    · exact ih h.1 hlow
    · have hsplit : d + 2 * i = d + 2 * 2 ^ k + 2 * (i - 2 ^ k) := by omega
      rw [hsplit]
      exact ih h.2 (by rw [Nat.pow_succ] at hi; omega)

theorem prime_of_noDivisor {n : Nat} (hthree : 3 ≤ n) (hodd : n % 2 = 1) (hlt : n < 2 ^ 32)
    (h : noDivisor n 15 3 = true) : n.Prime := by
  by_contra hnot
  obtain ⟨hmin, hminodd, hsq, hdvd⟩ := minFac_of_not_prime hodd hthree hnot
  have hsmall : n.minFac < 65536 := by
    by_contra hlarge
    have hprod := Nat.mul_le_mul (Nat.not_lt.mp hlarge) (Nat.not_lt.mp hlarge)
    omega
  obtain ⟨i, hi⟩ : ∃ i, n.minFac = 3 + 2 * i := ⟨(n.minFac - 3) / 2, by omega⟩
  exact mod_ne_zero_of_noDivisor h (i := i) (by omega) (hi ▸ hdvd)

theorem prime_4294967279 : Nat.Prime 4294967279 :=
  prime_of_noDivisor (by norm_num) (by norm_num) (by norm_num) (by decide +kernel)

/-! ### Which primes are found -/

/-- The search ends with the first prime that is not smaller than `nel`. -/
def FindsPrime (nel : UInt32) : Prop :=
  ∃ turns size, htabSize turns nel = some size ∧
    IsLeast {p | p.Prime ∧ nel.toNat ≤ p} size.toNat

theorem findsPrime_of_le {nel : UInt32} (hnel : 4 ≤ nel.toNat)
    (hle : nel.toNat ≤ 4294967279) : FindsPrime nel := by
  have hex : ∃ p, p.Prime ∧ nel.toNat ≤ p := ⟨4294967279, prime_4294967279, hle⟩
  have hfind : Nat.find hex ≤ 4294967279 := Nat.find_min' hex ⟨prime_4294967279, hle⟩
  have hsize : (UInt32.ofNat (Nat.find hex)).toNat = Nat.find hex := by
    rw [UInt32.toNat_ofNat']
    exact Nat.mod_eq_of_lt (by omega)
  have hleast : IsLeast {p | p.Prime ∧ nel.toNat ≤ p} (UInt32.ofNat (Nat.find hex)).toNat := by
    rw [hsize]
    exact ⟨Nat.find_spec hex, fun p hp => Nat.find_min' hex hp⟩
  exact ⟨2 ^ 32, _, htabSize_eq (Nat.le_refl _) hnel hleast (by omega), hleast⟩

theorem not_findsPrime_of_gt {nel : UInt32} (hgt : 4294967279 < nel.toNat) :
    ¬ FindsPrime nel := by
  rintro ⟨turns, size, hsize, ⟨hprime, -⟩, -⟩
  have hmax := htabSize_mono (Nat.le_max_left turns (2 ^ 32)) hsize
  rw [htabSize_wraps (Nat.le_max_right turns (2 ^ 32)) hgt, Option.some.injEq] at hmax
  rw [← hmax] at hprime
  exact Nat.not_prime_one hprime

/-- The search ends for all numbers of elements. -/
theorem exists_htabSize {nel : UInt32} (hnel : 4 ≤ nel.toNat) :
    ∃ turns size, htabSize turns nel = some size := by
  rcases Nat.lt_or_ge 4294967279 nel.toNat with hgt | hle
  · exact ⟨2 ^ 32, 1, htabSize_wraps (Nat.le_refl _) hgt⟩
  · obtain ⟨turns, size, hsize, -⟩ := findsPrime_of_le hnel hle
    exact ⟨turns, size, hsize⟩

/-- **The numbers of elements for which the search finds a prime**: those up to 4294967279. -/
theorem findsPrime_iff (nel : UInt32) (h : 4 ≤ nel.toNat ∧ nel.toNat ≤ 4294967291) :
    FindsPrime nel ↔ nel.toNat ≤ 4294967279 := by
  constructor
  · intro hfinds
    by_contra hgt
    exact not_findsPrime_of_gt (Nat.not_le.mp hgt) hfinds
  · exact findsPrime_of_le h.1

theorem findsPrime_iff_257 : FindsPrime 257 ↔ (257 : UInt32).toNat ≤ 4294967279 :=
  findsPrime_iff 257 (by decide)

/-- The largest prime of 32 bits is not found. -/
theorem not_findsPrime_largest : ¬ FindsPrime 4294967291 :=
  not_findsPrime_of_gt (by decide)

end UsbMaker.HtabCreate
