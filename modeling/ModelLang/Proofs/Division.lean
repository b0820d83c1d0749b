import Mathlib.Data.Rat.Floor
import Mathlib.Data.Sign.Basic
import Mathlib.Tactic.Linarith
import ModelLang.Eval.Expr

/-!
# ModelLang.Proofs.Division

Division with a remainder. The fractional part of a fraction is what truncation leaves of it; it is
below one and on the same side of zero (`abs_sub_truncate_lt`, `sign_sub_truncate`). So a fraction
is a multiple of another one and a smaller rest of the sign of the dividend in one way only, which
is the quotient and the remainder of the language (`divides_iff`, `division_truncates`).
-/

namespace ModelLang

/-! ## Truncation -/

theorem truncate_neg (x : Rat) : truncate (-x) = -truncate x := by
  rw [truncate, truncate, Rat.neg_num, Rat.neg_den, Int.neg_tdiv]

theorem truncate_of_nonneg {x : Rat} (h : 0 ≤ x) : truncate x = ⌊x⌋ := by
  rw [truncate, Int.tdiv_eq_ediv_of_nonneg (Rat.num_nonneg.2 h), Rat.floor_def']

theorem abs_sub_truncate_lt (x : Rat) : |x - truncate x| < 1 := by
  have hnonneg {y : Rat} (h : 0 ≤ y) : |y - truncate y| < 1 := by
    rw [truncate_of_nonneg h, Int.self_sub_floor, Int.abs_fract]
    exact Int.fract_lt_one y
  rcases le_total 0 x with h | h
  · exact hnonneg h
  · have hneg := hnonneg (neg_nonneg.2 h)
    rwa [truncate_neg, Int.cast_neg, sub_neg_eq_add, neg_add_eq_sub, abs_sub_comm] at hneg

/-- What truncation cuts off is on the same side of zero. -/
theorem sign_sub_truncate (x : Rat) :
    x - truncate x = 0 ∨ SignType.sign (x - truncate x) = SignType.sign x := by
  have hnonneg {y : Rat} (h : 0 ≤ y) :
      y - truncate y = 0 ∨ SignType.sign (y - truncate y) = SignType.sign y := by
    rw [truncate_of_nonneg h]
    rcases (Int.fract_nonneg y).eq_or_lt with hzero | hpos
    · exact .inl hzero.symm
    · refine .inr ?_
      have hy : 0 < y := hpos.trans_le (sub_le_self y (Int.cast_nonneg (Int.floor_nonneg.2 h)))
      rw [sign_pos hy, Int.self_sub_floor, sign_pos hpos]
  rcases le_total 0 x with h | h
  · exact hnonneg h
  · have hneg := hnonneg (neg_nonneg.2 h)
    rw [truncate_neg, Int.cast_neg, neg_sub_neg, ← neg_sub, neg_eq_zero, Left.sign_neg,
      Left.sign_neg, neg_inj] at hneg
    exact hneg

/-! ## Quotient and remainder -/

/-- Dividing `a` by `b` gives the integer `q` and leaves `r`, which is smaller than `b` and zero or
of the sign of `a`. -/
structure Divides (a b : Rat) (q : Int) (r : Rat) : Prop where
  eq_add : a = b * q + r
  lt : |r| < |b|
  sign : r = 0 ∨ SignType.sign r = SignType.sign a

namespace Divides

variable {a b r r' : Rat} {q q' : Int}

/-- Truncation of the exact quotient divides. -/
theorem of_truncate (a : Rat) (hb : b ≠ 0) :
    Divides a b (truncate (a / b)) (a - b * truncate (a / b)) := by
  have hrest : a - b * truncate (a / b) = b * (a / b - truncate (a / b)) := by
    rw [mul_sub, mul_div_cancel₀ a hb]
  have ha : SignType.sign b * SignType.sign (a / b) = SignType.sign a := by
    rw [← sign_mul, mul_div_cancel₀ a hb]
  refine ⟨by ring, ?_, ?_⟩
  · rw [hrest, abs_mul]
    exact mul_lt_of_lt_one_right (abs_pos.2 hb) (abs_sub_truncate_lt _)
  · rw [hrest, sign_mul, ← ha]
    exact (sign_sub_truncate (a / b)).imp (fun h => by rw [h, mul_zero]) fun h => by rw [h]

theorem nonneg (h : Divides a b q r) (ha : 0 ≤ a) : 0 ≤ r := by
  rcases h.sign with hr | hr
  · exact hr.ge
  · rwa [← sign_nonneg_iff, hr, sign_nonneg_iff]

theorem nonpos (h : Divides a b q r) (ha : a ≤ 0) : r ≤ 0 := by
  rcases h.sign with hr | hr
  · exact hr.le
  · rwa [← sign_nonpos_iff, hr, sign_nonpos_iff]

/-- Two rests are on one side of zero, so that they are less than the divisor apart. -/
theorem abs_sub_lt (h : Divides a b q r) (h' : Divides a b q' r') : |r - r'| < |b| := by
  have hr := abs_lt.1 h.lt
  have hr' := abs_lt.1 h'.lt
  rw [abs_lt]
  rcases le_total 0 a with ha | ha
  · have := h.nonneg ha
    have := h'.nonneg ha
    constructor <;> linarith
  · have := h.nonpos ha
    have := h'.nonpos ha
    constructor <;> linarith

theorem unique (h : Divides a b q r) (h' : Divides a b q' r') : q = q' ∧ r = r' := by
  have hmul : b * ((q' - q : Int) : Rat) = r - r' := by
    have := h.eq_add.symm.trans h'.eq_add
    push_cast
    linarith
  have hlt : |b| * |((q' - q : Int) : Rat)| < |b| * 1 := by
    rw [← abs_mul, hmul, mul_one]
    exact h.abs_sub_lt h'
  have hq : |q' - q| < 1 := by
    have := lt_of_mul_lt_mul_left hlt (abs_nonneg b)
    exact_mod_cast this
  rw [Int.abs_lt_one_iff, sub_eq_zero] at hq
  subst hq
  exact ⟨rfl, by simpa [sub_eq_zero, eq_comm] using hmul⟩

end Divides

theorem divides_iff {a b : Rat} (hb : b ≠ 0) (q : Int) (r : Rat) :
    Divides a b q r ↔ q = truncate (a / b) ∧ r = a - b * truncate (a / b) := by
  constructor
  · intro h
    exact h.unique (.of_truncate a hb)
  · rintro ⟨rfl, rfl⟩
    exact .of_truncate a hb

theorem quotient_of_ne_zero (a : Rat) {b : Rat} (hb : b ≠ 0) :
    quotient a b = .ok (truncate (a / b)) := if_neg hb

theorem remainder_of_ne_zero (a : Rat) {b : Rat} (hb : b ≠ 0) :
    remainder a b = .ok (a - b * truncate (a / b)) := by
  rw [remainder, quotient_of_ne_zero a hb]

namespace Value

theorem onRats_ofRat (op : String) (f : Rat → Rat → Except Cause Rat) (a b : Rat) :
    onRats op f (ofRat a) (ofRat b) = (f a b).map ofRat := rfl

theorem onRats_infinite (op : String) (f : Rat → Rat → Except Cause Rat) {m n : Number}
    (h : m.isFinite = false ∨ n.isFinite = false) :
    onRats op f (.number m) (.number n) = .error (.infinityArithmetic op) := by
  cases m <;> cases n <;> first | rfl | simp [Number.isFinite] at h

/-- What `div` and `mod` give for two fractions: the one quotient and the one remainder that there
are, if the divisor is not zero. A sign of an operand becomes one of the quotient. Infinite operands
are refused before a divisor of zero is. -/
theorem division_truncates (a b : Rat) (m n : Number) :
    (b ≠ 0 → ∃ (q : Int) (r : Rat),
      binary .intDiv (ofRat a) (ofRat b) = .ok (ofRat q) ∧
      binary .mod (ofRat a) (ofRat b) = .ok (ofRat r) ∧
      (∀ q' r', Divides a b q' r' ↔ q' = q ∧ r' = r) ∧
      binary .intDiv (ofRat (-a)) (ofRat b) = .ok (ofRat (-q)) ∧
      binary .intDiv (ofRat a) (ofRat (-b)) = .ok (ofRat (-q))) ∧
    (b = 0 → binary .intDiv (ofRat a) (ofRat b) = .error .divisionByZero ∧
      binary .mod (ofRat a) (ofRat b) = .error .divisionByZero) ∧
    (m.isFinite = false ∨ n.isFinite = false →
      binary .intDiv (.number m) (.number n) = .error (.infinityArithmetic "div") ∧
      binary .mod (.number m) (.number n) = .error (.infinityArithmetic "mod")) := by
  refine ⟨fun hb => ?nonzero, ?zero, fun h => ⟨onRats_infinite _ _ h, onRats_infinite _ _ h⟩⟩
  case nonzero =>
    refine ⟨truncate (a / b), a - b * truncate (a / b), ?_, ?_, divides_iff hb, ?_, ?_⟩
    · rw [binary, onRats_ofRat, quotient_of_ne_zero a hb]
      rfl
    · rw [binary, onRats_ofRat, remainder_of_ne_zero a hb]
      rfl
    · rw [binary, onRats_ofRat, quotient_of_ne_zero (-a) hb, neg_div, truncate_neg, Int.cast_neg]
      rfl
    · rw [binary, onRats_ofRat, quotient_of_ne_zero a (neg_ne_zero.2 hb), div_neg, truncate_neg,
        Int.cast_neg]
      rfl
  case zero =>
    rintro rfl
    exact ⟨rfl, rfl⟩

/-- `-7/2 div 2/3` is `-5` and `-7/2 mod 2/3` is `-1/6`. -/
theorem division_truncates_thirds :
    (2 / 3 : Rat) ≠ 0 ∧ Number.plusInfinity.isFinite = false ∧
      binary .intDiv (ofRat (-7 / 2)) (ofRat (2 / 3)) = .ok (ofRat (-5)) ∧
      binary .mod (ofRat (-7 / 2)) (ofRat (2 / 3)) = .ok (ofRat (-1 / 6)) ∧
      Divides (-7 / 2) (2 / 3) (-5) (-1 / 6) ∧
      binary .mod (ofRat (-7 / 2)) (ofRat 0) = .error .divisionByZero ∧
      binary .intDiv (.number .plusInfinity) (ofRat 0) = .error (.infinityArithmetic "div") := by
  have hb : (2 / 3 : Rat) ≠ 0 := by norm_num
  have hdivides : Divides (-7 / 2) (2 / 3) (-5) (-1 / 6) := by
    refine ⟨by norm_num, by norm_num [abs_of_neg, abs_of_pos], .inr ?_⟩
    rw [sign_neg (by norm_num), sign_neg (by norm_num)]
  obtain ⟨hnonzero, -, hinfinite⟩ :=
    division_truncates (-7 / 2) (2 / 3) .plusInfinity (.finite 0)
  obtain ⟨q, r, hq, hr, hunique, -⟩ := hnonzero hb
  obtain ⟨rfl, rfl⟩ := (hunique _ _).1 hdivides
  have hzero := (division_truncates (-7 / 2) 0 .plusInfinity (.finite 0)).2.1 rfl
  exact ⟨hb, rfl, hq, hr, hdivides, hzero.2, (hinfinite (.inl rfl)).1⟩

end Value

end ModelLang
