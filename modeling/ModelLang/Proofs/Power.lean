import Mathlib.Algebra.Field.Rat
import Mathlib.Algebra.Order.Ring.Int
import Mathlib.Algebra.Ring.Int.Parity
import Mathlib.Data.Nat.Factorial.Basic
import Mathlib.Data.Rat.Lemmas
import Mathlib.Tactic.Ring
import ModelLang.Number.Power

/-!
# ModelLang.Proofs.Power

Powers with whole exponents and factorials. A result that is given is exact, and the estimate of its
size that is made beforehand is an upper bound, so that nothing of more than `2 ^ 20` binary digits
comes out (`power_factorial_exact`). The powers of `0`, `1` and `-1` are not subject to the estimate,
only to the bound on exponents that is tested before it (`power_small_exact`).
-/

namespace ModelLang

open scoped Nat

/-! ## Binary digits -/

theorem bitLength_le_iff {n k : Nat} : bitLength n ≤ k ↔ n < 2 ^ k := by
  by_cases hn : n = 0
  · simp [bitLength, hn]
  · rw [bitLength, if_neg hn, Nat.add_one_le_iff, Nat.log2_lt hn]

theorem bitLength_mono {m n : Nat} (h : m ≤ n) : bitLength m ≤ bitLength n := by
  have hn : n < 2 ^ bitLength n := bitLength_le_iff.1 le_rfl
  exact bitLength_le_iff.2 (lt_of_le_of_lt h hn)

/-- A power has at most so many binary digits as its factors have together. -/
theorem bitLength_pow_le (n : Nat) {k : Nat} (hk : k ≠ 0) : bitLength (n ^ k) ≤ k * bitLength n := by
  have hn : n < 2 ^ bitLength n := bitLength_le_iff.1 le_rfl
  rw [bitLength_le_iff, mul_comm, pow_mul]
  exact Nat.pow_lt_pow_left hn hk

theorem ratBits_le_iff {q : ℚ} {k : Nat} :
    ratBits q ≤ k ↔ bitLength q.num.natAbs ≤ k ∧ bitLength q.den ≤ k :=
  max_le_iff

theorem ratBits_pow_le (q : ℚ) {n : Nat} (hn : n ≠ 0) : ratBits (q ^ n) ≤ n * ratBits q := by
  obtain ⟨hnum, hden⟩ := ratBits_le_iff.1 (le_refl (ratBits q))
  rw [ratBits_le_iff, Rat.num_pow, Rat.den_pow, Int.natAbs_pow]
  constructor
  · exact (bitLength_pow_le _ hn).trans (Nat.mul_le_mul_left n hnum)
  · exact (bitLength_pow_le _ hn).trans (Nat.mul_le_mul_left n hden)

/-- The reciprocal swaps numerator and denominator. -/
theorem ratBits_inv (q : ℚ) : ratBits q⁻¹ = ratBits q := by
  by_cases hq : q = 0
  · rw [hq, inv_zero]
  · have hsign : q.num.sign.natAbs = 1 := Int.natAbs_sign_of_ne_zero (Rat.num_ne_zero.2 hq)
    have hnum : q⁻¹.num.natAbs = q.den := by
      rw [Rat.num_inv, Int.natAbs_mul, hsign, one_mul, Int.natAbs_natCast]
    rw [ratBits, ratBits, hnum, Rat.den_inv_of_ne_zero hq, max_comm]

theorem ratBits_zpow_le (q : ℚ) {e : ℤ} (he : e ≠ 0) : ratBits (q ^ e) ≤ e.natAbs * ratBits q := by
  have hn : e.natAbs ≠ 0 := Int.natAbs_ne_zero.2 he
  rcases Int.natAbs_eq e with h | h
  · rw [h, zpow_natCast, Int.natAbs_natCast]
    exact ratBits_pow_le q hn
  · rw [h, zpow_neg, zpow_natCast, ratBits_inv, Int.natAbs_neg, Int.natAbs_natCast]
    exact ratBits_pow_le q hn

/-! ## Powers -/

/-- The bases whose powers are all as small as they are. -/
def HasSmallPowers (b : ℚ) : Prop :=
  b = 0 ∨ b = 1 ∨ b = -1

instance (b : ℚ) : Decidable (HasSmallPowers b) :=
  inferInstanceAs (Decidable (b = 0 ∨ b = 1 ∨ b = -1))

theorem ratBits_le_one_iff {b : ℚ} : ratBits b ≤ 1 ↔ HasSmallPowers b := by
  rw [ratBits_le_iff, bitLength_le_iff, bitLength_le_iff]
  constructor
  · rintro ⟨hnum, hden⟩
    have hint : b.den = 1 := by
      have := b.den_pos
      omega
    have hb : b = b.num := ((Rat.den_eq_one_iff b).1 hint).symm
    have hcases : b.num = 0 ∨ b.num = 1 ∨ b.num = -1 := by omega
    rcases hcases with h | h | h
    · exact .inl (by rw [hb, h, Int.cast_zero])
    · exact .inr (.inl (by rw [hb, h, Int.cast_one]))
    · exact .inr (.inr (by rw [hb, h, Int.cast_neg, Int.cast_one]))
  · rintro (rfl | rfl | rfl) <;> decide

/-- Powers of small bases go by the parity of the exponent. -/
theorem natPower_eq (q : ℚ) (n : Nat) : natPower q n = q ^ n := by
  unfold natPower
  split
  · rename_i hsmall
    have hpowers := ratBits_le_one_iff.1 hsmall
    split
    · rename_i hn
      rw [hn, pow_zero]
    · rename_i hn
      split
      · rename_i heven
        obtain ⟨k, rfl⟩ := Nat.even_iff.2 heven
        have hk : k ≠ 0 := by omega
        rcases hpowers with rfl | rfl | rfl
        · rw [zero_pow hn, mul_zero]
        · rw [one_pow, mul_one]
        · rw [Even.neg_one_pow ⟨k, rfl⟩, neg_mul_neg, mul_one]
      · rename_i hodd
        have hodd : Odd n := Nat.odd_iff.2 (by omega)
        rcases hpowers with rfl | rfl | rfl
        · rw [zero_pow hn]
        · rw [one_pow]
        · rw [hodd.neg_one_pow]
  · rfl

/-- What comes of a power with a whole exponent. -/
theorem power_int (b : ℚ) (e : ℤ) :
    power b e =
      if 2 ^ 64 ≤ |e| then .error .exponentTooLarge
      else if ¬ HasSmallPowers b ∧ 2 ^ 20 < e.natAbs * ratBits b then .error .exponentTooLarge
      else if b = 0 ∧ e < 0 then .error .divisionByZero
      else .ok (b ^ e) := by
  have hword : 0x10000000000000000 ≤ e.natAbs ↔ 2 ^ 64 ≤ |e| := by
    rw [Int.abs_eq_natAbs]
    omega
  have hsmall : 1 < ratBits b ↔ ¬ HasSmallPowers b := by
    rw [← ratBits_le_one_iff, not_le]
  have hpos (h : ¬ e < 0) : b ^ e.natAbs = b ^ e := by
    rw [← zpow_natCast, Int.natAbs_of_nonneg (by omega)]
  have hneg (h : e < 0) : (b ^ e.natAbs)⁻¹ = b ^ e := by
    rw [← zpow_natCast, ← zpow_neg, Int.ofNat_natAbs_of_nonpos h.le, neg_neg]
  have hmax : maxBits = 2 ^ 20 := rfl
  rw [power, if_pos (Rat.den_intCast e), Rat.num_intCast, wholePower]
  simp only [hword, hsmall, hmax, natPower_eq]
  by_cases he : e < 0
  · simp only [he, hneg he, if_true, and_true]
  · simp only [he, hpos he, if_false, and_false]

/-- For `0`, `1` and `-1` the exact power comes out for all exponents of fewer than 64 bits, however
large, and for no other exponent. -/
theorem power_small_exact (e : ℤ) :
    (power 0 e =
      if 2 ^ 64 ≤ |e| then .error .exponentTooLarge
      else if e < 0 then .error .divisionByZero
      else .ok (if e = 0 then 1 else 0)) ∧
    (power 1 e = if 2 ^ 64 ≤ |e| then .error .exponentTooLarge else .ok 1) ∧
    (power (-1) e =
      if 2 ^ 64 ≤ |e| then .error .exponentTooLarge else .ok (if Even e then 1 else -1)) := by
  have hzero : HasSmallPowers 0 := .inl rfl
  have hone : HasSmallPowers 1 := .inr (.inl rfl)
  have hminus : HasSmallPowers (-1) := .inr (.inr rfl)
  refine ⟨?_, ?_, ?_⟩
  · rw [power_int]
    simp only [hzero, not_true, false_and, if_false, true_and, zero_zpow_eq]
  · rw [power_int]
    simp only [hone, not_true, false_and, if_false, one_ne_zero, one_zpow]
  · rw [power_int]
    simp only [hminus, not_true, false_and, if_false, neg_eq_zero, one_ne_zero,
      neg_one_zpow_eq_ite]

/-! ## Factorials -/

theorem product_eq (n : Nat) : product n = n ! := by
  induction n with
  | zero => rfl
  | succ n ih => rw [product, ih, Nat.factorial_succ]

theorem bitLength_factorial_le {n : Nat} (hn : n ≠ 0) : bitLength (n !) ≤ n * bitLength n :=
  calc bitLength (n !) ≤ bitLength (n ^ n) := bitLength_mono (Nat.factorial_le_pow n)
    _ ≤ n * bitLength n := bitLength_pow_le n hn

/-- What comes of a factorial. -/
theorem factorial_int (z : ℤ) :
    factorial z =
      if z < 0 then .error (.negativeFactorial z)
      else if 2 ^ 20 < z.natAbs * bitLength z.natAbs then .error (.factorialTooLarge z)
      else .ok (z.natAbs ! : ℕ) := by
  have hint : integer? (z : ℚ) = .ok z := by
    rw [integer?, if_pos (Rat.den_intCast z), Rat.num_intCast]
  have hmax : maxBits = 2 ^ 20 := rfl
  rw [factorial, hint]
  simp only [hmax, product_eq]

theorem factorial_eq_ok_iff {v q : ℚ} :
    factorial v = .ok q ↔ ∃ n : ℕ, v = n ∧ q = n ! ∧ n * bitLength n ≤ 2 ^ 20 := by
  constructor
  · intro h
    by_cases hv : v.den = 1
    · obtain ⟨z, rfl⟩ : ∃ z : ℤ, v = z := ⟨v.num, ((Rat.den_eq_one_iff v).1 hv).symm⟩
      rw [factorial_int] at h
      split at h
      · cases h
      split at h
      · cases h
      · rename_i hnonneg hfits
        cases h
        refine ⟨z.natAbs, ?_, rfl, not_lt.1 hfits⟩
        rw [← Int.cast_natCast, Int.natAbs_of_nonneg (not_lt.1 hnonneg)]
    · rw [factorial, integer?, if_neg hv] at h
      cases h
  · rintro ⟨n, rfl, rfl, hfits⟩
    rw [← Int.cast_natCast, factorial_int, Int.natAbs_natCast, if_neg (by omega),
      if_neg (not_lt.2 hfits)]

/-! ## Exact and bounded -/

/-- Numerator and denominator have at most `2 ^ 20` binary digits. -/
def WithinMaxBits (q : ℚ) : Prop :=
  bitLength q.num.natAbs ≤ 2 ^ 20 ∧ bitLength q.den ≤ 2 ^ 20

/-- The estimate of a power that is admitted bounds the power itself. -/
theorem zpow_withinMaxBits {b : ℚ} {e : ℤ} (h : e.natAbs * ratBits b ≤ 2 ^ 20) :
    WithinMaxBits (b ^ e) := by
  by_cases he : e = 0
  · rw [he, zpow_zero]
    exact ⟨by decide, by decide⟩
  · exact ratBits_le_iff.1 ((ratBits_zpow_le b he).trans h)

theorem factorial_withinMaxBits {n : ℕ} (h : n * bitLength n ≤ 2 ^ 20) :
    WithinMaxBits (n ! : ℕ) := by
  rw [WithinMaxBits, Rat.num_natCast, Rat.den_natCast, Int.natAbs_natCast]
  refine ⟨?_, by decide⟩
  by_cases hn : n = 0
  · rw [hn]
    decide
  · exact (bitLength_factorial_le hn).trans h

theorem power_eq_ok_iff {b q : ℚ} {e : ℤ} :
    power b e = .ok q ↔ |e| < 2 ^ 64 ∧ (HasSmallPowers b ∨ e.natAbs * ratBits b ≤ 2 ^ 20) ∧
      ¬ (b = 0 ∧ e < 0) ∧ q = b ^ e := by
  rw [power_int]
  constructor
  · intro h
    split at h
    · cases h
    split at h
    · cases h
    split at h
    · cases h
    · rename_i hword hbits hzero
      cases h
      refine ⟨not_le.1 hword, ?_, hzero, rfl⟩
      by_cases hb : HasSmallPowers b
      · exact .inl hb
      · exact .inr (not_lt.1 fun hlarge => hbits ⟨hb, hlarge⟩)
  · rintro ⟨hword, hbits, hzero, rfl⟩
    have hadmitted : ¬ (¬ HasSmallPowers b ∧ 2 ^ 20 < e.natAbs * ratBits b) := by
      rintro ⟨hb, hlarge⟩
      rcases hbits with hb' | hfits
      · exact hb hb'
      · exact absurd hlarge (not_lt.2 hfits)
    rw [if_neg (not_le.2 hword), if_neg hadmitted, if_neg hzero]

theorem power_eq_error_iff {b : ℚ} {e : ℤ} (he : |e| < 2 ^ 64) {c : Cause} :
    power b e = .error c ↔
      (c = .divisionByZero ∧ b = 0 ∧ e < 0) ∨
      (c = .exponentTooLarge ∧ ¬ HasSmallPowers b ∧ 2 ^ 20 < e.natAbs * ratBits b) := by
  rw [power_int, if_neg (not_le.2 he)]
  by_cases hlarge : ¬ HasSmallPowers b ∧ 2 ^ 20 < e.natAbs * ratBits b
  · have hb : b ≠ 0 := fun hb => hlarge.1 (.inl hb)
    rw [if_pos hlarge]
    constructor
    · rintro ⟨⟩
      exact .inr ⟨rfl, hlarge⟩
    · rintro (⟨-, hzero, -⟩ | ⟨rfl, -⟩)
      · exact absurd hzero hb
      · rfl
  rw [if_neg hlarge]
  by_cases hzero : b = 0 ∧ e < 0
  · rw [if_pos hzero]
    constructor
    · rintro ⟨⟩
      exact .inl ⟨rfl, hzero⟩
    · rintro (⟨rfl, -⟩ | ⟨-, h⟩)
      · rfl
      · exact absurd h hlarge
  · rw [if_neg hzero]
    constructor
    · intro h
      cases h
    · rintro (⟨-, h⟩ | ⟨-, h⟩)
      · exact absurd h hzero
      · exact absurd h hlarge

/-- Where three powers are admitted, exponents add. -/
theorem power_add {b x y z : ℚ} {m n : ℤ} (hx : power b m = .ok x) (hy : power b n = .ok y)
    (hz : power b (m + n : ℤ) = .ok z) : z = x * y := by
  obtain ⟨-, -, hm, rfl⟩ := power_eq_ok_iff.1 hx
  obtain ⟨-, -, hn, rfl⟩ := power_eq_ok_iff.1 hy
  obtain ⟨-, -, -, rfl⟩ := power_eq_ok_iff.1 hz
  -- Exponents of zero add only if they are natural, which a power without fault vouches for.
  by_cases hb : b = 0
  · lift m to ℕ using not_lt.1 fun h => hm ⟨hb, h⟩
    lift n to ℕ using not_lt.1 fun h => hn ⟨hb, h⟩
    rw [← Nat.cast_add, zpow_natCast, zpow_natCast, zpow_natCast, pow_add]
  · exact zpow_add₀ hb m n

theorem factorial_eq_tooLarge_iff {n : ℕ} :
    factorial n = .error (.factorialTooLarge n) ↔ 2 ^ 20 < n * bitLength n := by
  rw [← Int.cast_natCast (R := ℚ), factorial_int, Int.natAbs_natCast, if_neg (by omega)]
  constructor
  · intro h
    split at h
    · rename_i hlarge
      exact hlarge
    · cases h
  · intro h
    rw [if_pos h]

/-- Powers with whole exponents of fewer than 64 bits, and factorials: what is admitted is exact and of
bounded size, and what is refused is refused for its size, but for a reciprocal of zero and for
factorials of what is no natural number. -/
theorem power_factorial_exact :
    (∀ (b : ℚ) (e : ℤ), |e| < 2 ^ 64 →
      (∀ q, power b e = .ok q → q = b ^ e ∧ (¬ HasSmallPowers b → WithinMaxBits q)) ∧
      (power b e = .error .divisionByZero ↔ b = 0 ∧ e < 0) ∧
      (power b e = .error .exponentTooLarge ↔
        ¬ HasSmallPowers b ∧ 2 ^ 20 < e.natAbs * ratBits b) ∧
      ∀ c, power b e = .error c →
        c = .divisionByZero ∨ c = .exponentTooLarge ∧ c.message = "exponent is too large") ∧
    (∀ (b x y z : ℚ) (m n : ℤ), power b m = .ok x → power b n = .ok y →
      power b (m + n : ℤ) = .ok z → z = x * y) ∧
    (∀ v q : ℚ, factorial v = .ok q ↔ ∃ n : ℕ, v = n ∧ q = n ! ∧ n * bitLength n ≤ 2 ^ 20) ∧
    (∀ v q : ℚ, factorial v = .ok q → WithinMaxBits q) ∧
    ∀ m n : ℕ, m ≤ n → factorial m = .error (.factorialTooLarge m) →
      factorial n = .error (.factorialTooLarge n) := by
  refine ⟨fun b e he => ⟨?_, ?_, ?_, ?_⟩, ?_, ?_, ?_, ?_⟩
  · intro q hq
    obtain ⟨-, hbits, -, rfl⟩ := power_eq_ok_iff.1 hq
    exact ⟨rfl, fun hb => zpow_withinMaxBits (hbits.resolve_left hb)⟩
  · simp [power_eq_error_iff he]
  · simp [power_eq_error_iff he]
  · intro c hc
    rcases (power_eq_error_iff he).1 hc with ⟨rfl, -⟩ | ⟨rfl, -⟩
    · exact .inl rfl
    · exact .inr ⟨rfl, rfl⟩
  · intro b x y z m n hx hy hz
    exact power_add hx hy hz
  · intro v q
    exact factorial_eq_ok_iff
  · intro v q hq
    obtain ⟨n, -, rfl, hfits⟩ := factorial_eq_ok_iff.1 hq
    exact factorial_withinMaxBits hfits
  · intro m n hmn hm
    have hbits : m * bitLength m ≤ n * bitLength n := Nat.mul_le_mul hmn (bitLength_mono hmn)
    rw [factorial_eq_tooLarge_iff] at hm ⊢
    exact lt_of_lt_of_le hm hbits

/-- A reciprocal power of a fraction, and two factorials that are refused. -/
theorem power_factorial_exact_thirds :
    |(-5 : ℤ)| < 2 ^ 64 ∧ power (2 / 3) (-5 : ℤ) = .ok (243 / 32) ∧ ¬ HasSmallPowers (2 / 3) ∧
      (243 / 32 : ℚ) = (2 / 3) ^ (-5 : ℤ) ∧ WithinMaxBits (243 / 32) ∧
      factorial (65536 : ℕ) = .error (.factorialTooLarge (65536 : ℕ)) ∧
      factorial (70000 : ℕ) = .error (.factorialTooLarge (70000 : ℕ)) := by
  have he : |(-5 : ℤ)| < 2 ^ 64 := by decide
  have hpower : power (2 / 3) (-5 : ℤ) = .ok (243 / 32) := by decide +kernel
  have hb : ¬ HasSmallPowers (2 / 3) := by decide +kernel
  have hfactorial : factorial (65536 : ℕ) = .error (.factorialTooLarge (65536 : ℕ)) := by
    decide +kernel
  obtain ⟨hpowers, -, -, -, hlarger⟩ := power_factorial_exact
  obtain ⟨hexact, hbits⟩ := (hpowers _ _ he).1 _ hpower
  exact ⟨he, hpower, hb, hexact, hbits hb, hfactorial, hlarger _ _ (by decide) hfactorial⟩

end ModelLang
