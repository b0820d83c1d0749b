import Mathlib.Algebra.Order.Field.Rat
import Mathlib.Algebra.Order.Group.Abs
import Mathlib.Tactic.NormNum
import Mathlib.Tactic.Ring
import ModelLang.Proofs.Rendering

/-!
# ModelLang.Proofs.Decimal

What a numeral denotes, read off its form, and what the arithmetic in 32 bits makes of it
(`Numeral.signed?_exact`): the number that it denotes if the power of ten is at most 10000 either
way, and no number otherwise, but for the one power of ten whose negation does not fit.
-/

namespace ModelLang.Numeral

/-! ## What a numeral denotes -/

/-- A mantissa with the number of digits after its point, and the number it denotes. -/
inductive MantissaDenotes : List Char → Nat → ℚ → Prop where
  | whole {ds : List Char} (hds : Digits ds) : MantissaDenotes ds 0 (Nat.ofDigitChars 10 ds 0)
  | decimal {ds fs : List Char} (hds : Digits ds) (hfs : Digits fs) :
      MantissaDenotes (ds ++ '.' :: fs) fs.length
        (Nat.ofDigitChars 10 ds 0 + Nat.ofDigitChars 10 fs 0 / 10 ^ fs.length)
  | fraction {fs : List Char} (hfs : Digits fs) :
      MantissaDenotes ('.' :: fs) fs.length (Nat.ofDigitChars 10 fs 0 / 10 ^ fs.length)

/-- An exponent, and the integer it denotes. -/
inductive ExponentDenotes : List Char → ℤ → Prop where
  | none : ExponentDenotes [] 0
  | up {e : Char} {sign ds : List Char} (he : e = 'e' ∨ e = 'E') (hsign : sign = [] ∨ sign = ['+'])
      (hds : Digits ds) : ExponentDenotes (e :: sign ++ ds) (Nat.ofDigitChars 10 ds 0)
  | down {e : Char} {ds : List Char} (he : e = 'e' ∨ e = 'E') (hds : Digits ds) :
      ExponentDenotes (e :: '-' :: ds) (-Nat.ofDigitChars 10 ds 0)

/-- The text is a numeral with this exponent and this number of digits after its point, and it
denotes this number. -/
def Denotes (cs : List Char) (e : ℤ) (digits : Nat) (q : ℚ) : Prop :=
  ∃ mantissa exponent m, cs = mantissa ++ exponent ∧ MantissaDenotes mantissa digits m ∧
    ExponentDenotes exponent e ∧ q = m * 10 ^ e

/-- Every numeral denotes a number. -/
theorem exists_denotes {cs : List Char} (h : IsNumeral cs) : ∃ e digits q, Denotes cs e digits q := by
  obtain ⟨mantissa, exponent, rfl, hm, he⟩ := h
  have hmantissa : ∃ digits m, MantissaDenotes mantissa digits m := by
    cases hm with
    | whole hds => exact ⟨_, _, .whole hds⟩
    | decimal hds hfs => exact ⟨_, _, .decimal hds hfs⟩
    | fraction hfs => exact ⟨_, _, .fraction hfs⟩
  have hexponent : ∃ e, ExponentDenotes exponent e := by
    cases he with
    | none => exact ⟨_, .none⟩
    | some he hsign hds =>
      rcases hsign with rfl | rfl | rfl
      · exact ⟨_, .up he (.inl rfl) hds⟩
      · exact ⟨_, .up he (.inr rfl) hds⟩
      · exact ⟨_, .down he hds⟩
  obtain ⟨digits, m, hmantissa⟩ := hmantissa
  obtain ⟨e, hexponent⟩ := hexponent
  exact ⟨e, digits, _, mantissa, exponent, m, rfl, hmantissa, hexponent, rfl⟩

theorem MantissaDenotes.mantissa {cs : List Char} {digits : Nat} {m : ℚ}
    (h : MantissaDenotes cs digits m) : Mantissa cs := by
  cases h with
  | whole hds => exact .whole hds
  | decimal hds hfs => exact .decimal hds hfs
  | fraction hfs => exact .fraction hfs

theorem ExponentDenotes.exponent {cs : List Char} {e : ℤ} (h : ExponentDenotes cs e) :
    Exponent cs := by
  cases h with
  | none => exact .none
  | up he hsign hds => exact .some he (hsign.imp_right .inl) hds
  | @down e ds he hds => exact .some he (.inr (.inr rfl)) hds

theorem Denotes.isNumeral {cs : List Char} {e : ℤ} {digits : Nat} {q : ℚ}
    (h : Denotes cs e digits q) : isNumeral cs = true := by
  obtain ⟨mantissa, exponent, m, rfl, hm, he, -⟩ := h
  rw [Numeral.isNumeral, span?_of_isNumeral ⟨_, _, rfl, hm.mantissa, he.exponent⟩]
  rfl

/-! ## The parts of a text -/

theorem ofDigits_eq (ds : List Char) : ofDigits ds = Nat.ofDigitChars 10 ds 0 := rfl

/-- Digits shift what stands before them. -/
theorem ofDigitChars_append (ds fs : List Char) :
    Nat.ofDigitChars 10 (ds ++ fs) 0 =
      Nat.ofDigitChars 10 ds 0 * 10 ^ fs.length + Nat.ofDigitChars 10 fs 0 := by
  have hinit (n : Nat) :
      Nat.ofDigitChars 10 fs n = n * 10 ^ fs.length + Nat.ofDigitChars 10 fs 0 := by
    induction fs generalizing n with
    | nil => simp
    | cons c fs ih =>
      rw [Nat.ofDigitChars_cons, ih, Nat.ofDigitChars_cons, ih (10 * 0 + _), List.length_cons]
      ring
  rw [Nat.ofDigitChars_append, hinit]

theorem mark_of_isDigit {c : Char} (hc : c.isDigit = true) :
    (! isExponentMark c) = true ∧ (c != '.') = true := by
  have hne (d : Char) (hd : d.isDigit = false) : c ≠ d := by
    rintro rfl
    rw [hc] at hd
    cases hd
  simp [isExponentMark, hne 'e' rfl, hne 'E' rfl, hne '.' rfl]

/-- The exponent mark divides a numeral into mantissa and exponent. -/
theorem apart_of_mantissa {mantissa exponent : List Char} (hm : Mantissa mantissa)
    (he : Exponent exponent) :
    (mantissa ++ exponent).takeWhile (! isExponentMark ·) = mantissa ∧
      (mantissa ++ exponent).dropWhile (! isExponentMark ·) = exponent := by
  have hmarks : ∀ c ∈ mantissa, (! isExponentMark c) = true := by
    have hdigits {ds : List Char} (hds : Digits ds) : ∀ c ∈ ds, (! isExponentMark c) = true :=
      fun c hc => (mark_of_isDigit (hds.digits c hc)).1
    cases hm with
    | whole hds => exact hdigits hds
    | decimal hds hfs =>
      intro c hc
      rcases List.mem_append.1 hc with hc | hc
      · exact hdigits hds c hc
      · rcases List.mem_cons.1 hc with rfl | hc
        · rfl
        · exact hdigits hfs c hc
    | fraction hfs =>
      intro c hc
      rcases List.mem_cons.1 hc with rfl | hc
      · rfl
      · exact hdigits hfs c hc
  have hhead : ∀ c ∈ exponent.head?, (! isExponentMark c) = false := by
    cases he with
    | none => simp
    | some he _ _ =>
      rintro c ⟨⟩
      rcases he with rfl | rfl <;> rfl
  obtain ⟨htake, hdrop⟩ := takeWhile_append_apart mantissa hhead
  rw [htake, hdrop, List.takeWhile_eq_self_iff.2 hmarks, List.dropWhile_eq_nil_iff.2 hmarks]
  exact ⟨rfl, rfl⟩

theorem exponent_denotes {mantissa text : List Char} {e : ℤ} (hm : Mantissa mantissa)
    (he : ExponentDenotes text e) : exponent (mantissa ++ text) = e := by
  rw [Numeral.exponent, (apart_of_mantissa hm he.exponent).2]
  have hdigits {ds : List Char} (hds : Digits ds) : ofSigned ds = Nat.ofDigitChars 10 ds 0 := by
    rw [← ofDigits_eq]
    refine ofSigned.eq_3 _ ?_ ?_
    · rintro rest rfl
      exact absurd (hds.digits '-' List.mem_cons_self) (by decide)
    · rintro rest rfl
      exact absurd (hds.digits '+' List.mem_cons_self) (by decide)
  cases he with
  | none => rfl
  | up he hsign hds =>
    rcases hsign with rfl | rfl
    · exact hdigits hds
    · rfl
  | down he hds => rfl

/-- The digits of a mantissa without its point are its number as many places up as it has digits
after the point. -/
theorem mantissa_denotes {mantissa text : List Char} {digits : Nat} {m : ℚ}
    (hm : MantissaDenotes mantissa digits m) (he : Exponent text) :
    (fraction (mantissa ++ text)).length = digits ∧
      (ofDigits (significand (mantissa ++ text)) : ℚ) = m * 10 ^ digits := by
  rw [fraction, significand, (apart_of_mantissa hm.mantissa he).1]
  have hfilter {ds : List Char} (hds : Digits ds) : ds.filter (· != '.') = ds :=
    List.filter_eq_self.2 fun c hc => (mark_of_isDigit (hds.digits c hc)).2
  have hdrop {ds : List Char} (hds : Digits ds) : ds.dropWhile (· != '.') = [] :=
    List.dropWhile_eq_nil_iff.2 fun c hc => (mark_of_isDigit (hds.digits c hc)).2
  have hpow (n : Nat) : (10 : ℚ) ^ n ≠ 0 := pow_ne_zero n (by norm_num)
  cases hm with
  | whole hds =>
    rw [hdrop hds, hfilter hds, ofDigits_eq]
    simp
  | @decimal ds fs hds hfs =>
    have hpoint : (ds ++ '.' :: fs).dropWhile (· != '.') = '.' :: fs := by
      rw [List.dropWhile_append, hdrop hds]
      rfl
    have hfiltered : (ds ++ '.' :: fs).filter (· != '.') = ds ++ fs := by
      rw [List.filter_append, hfilter hds, List.filter_cons, if_neg (by decide), hfilter hfs]
    rw [hpoint, hfiltered, ofDigits_eq, ofDigitChars_append]
    refine ⟨rfl, ?_⟩
    push_cast
    rw [add_mul, div_mul_cancel₀ _ (hpow _)]
  | @fraction fs hfs =>
    have hfiltered : ('.' :: fs).filter (· != '.') = fs := by
      rw [List.filter_cons, if_neg (by decide), hfilter hfs]
    rw [hfiltered, ofDigits_eq, div_mul_cancel₀ _ (hpow _)]
    exact ⟨rfl, rfl⟩

theorem scaled_eq (n : Nat) (k : ℤ) : scaled n k = n * (10 : ℚ) ^ k := by
  cases k with
  | ofNat k =>
    rw [scaled, Nat.pow_eq, Int.ofNat_eq_natCast, zpow_natCast]
    push_cast
    rfl
  | negSucc k =>
    rw [scaled, Nat.pow_eq, zpow_negSucc, Rat.mkRat_eq_div, div_eq_mul_inv]
    push_cast
    rfl

/-! ## The outcome -/

/-- The digits of a numeral times its power of ten are what it denotes. -/
theorem scaled_significand {cs : List Char} {e : ℤ} {digits : Nat} {q : ℚ}
    (h : Denotes cs e digits q) : scaled (ofDigits (significand cs)) (e - digits) = q := by
  obtain ⟨mantissa, text, m, rfl, hm, he, rfl⟩ := h
  have hten : (10 : ℚ) ≠ 0 := by norm_num
  calc scaled (ofDigits (significand (mantissa ++ text))) (e - digits)
      = m * 10 ^ digits * 10 ^ (e - digits) := by
        rw [scaled_eq, (mantissa_denotes hm he.exponent).2]
    _ = m * 10 ^ e := by
        rw [mul_assoc, ← zpow_natCast, ← zpow_add₀ hten, add_sub_cancel]

/-- What comes of a numeral with the power of ten `e - digits`, in terms of what it denotes. The
bounds on `digits` and `e` hold for every text of fewer than `2 ^ 31 - 10000` characters whose power
of ten is at most 10000. -/
def expected (e : ℤ) (digits : Nat) (q : ℚ) : Outcome :=
  if e - digits = -2 ^ 31 ∧ digits < 2 ^ 31 then .overflow
  else if |e - digits| ≤ 10000 ∧ digits < 2 ^ 31 ∧ e < 2 ^ 31 then .value q
  else .outOfRange

theorem isWord_iff {n : ℤ} : isWord n = true ↔ -2 ^ 31 ≤ n ∧ n < 2 ^ 31 := by
  rw [isWord, Bool.and_eq_true, decide_eq_true_iff, decide_eq_true_iff]
  exact Iff.rfl

theorem unsigned_denotes {cs : List Char} {e : ℤ} {digits : Nat} {q : ℚ}
    (h : Denotes cs e digits q) : unsigned cs = expected e digits q := by
  have hvalue := scaled_significand h
  obtain ⟨mantissa, text, m, rfl, hm, he, -⟩ := h
  have hexponent := exponent_denotes hm.mantissa he
  have hfraction := (mantissa_denotes hm he.exponent).1
  have hscale : scale (mantissa ++ text) = e - digits := by
    rw [scale, hexponent, hfraction]
  have hleast : leastWord = -2 ^ 31 := rfl
  rw [unsigned, hexponent, hfraction, hscale, hvalue, hleast]
  by_cases hword : (isWord e && isWord digits && isWord (e - digits)) = true
  · rw [hword, if_neg (by decide)]
    simp only [Bool.and_eq_true, isWord_iff] at hword
    by_cases hover : e - digits = -2 ^ 31
    · rw [if_pos hover, expected, if_pos (by omega)]
    have hnot : ¬ (e - digits = -2 ^ 31 ∧ digits < 2 ^ 31) := fun h => hover h.1
    by_cases hlarge : (e - digits).natAbs > maxScale
    · rw [if_neg hover, if_pos hlarge, expected, if_neg hnot, if_neg]
      rw [maxScale] at hlarge
      rw [abs_le]
      omega
    · rw [if_neg hover, if_neg hlarge, expected, if_neg hnot, if_pos]
      rw [maxScale] at hlarge
      rw [abs_le]
      omega
  · rw [Bool.eq_false_of_not_eq_true hword, if_pos (by decide), expected]
    simp only [Bool.and_eq_true, isWord_iff] at hword
    rw [if_neg (by omega), if_neg (by rw [abs_le]; omega)]

/-- The outcome for a text that is a numeral after at most one sign. -/
theorem signed?_exact {sign cs : List Char} (hsign : sign = [] ∨ sign = ['+'] ∨ sign = ['-'])
    {e : ℤ} {digits : Nat} {q : ℚ} (h : Denotes cs e digits q) :
    signed? (sign ++ cs) = some (expected e digits (if sign = ['-'] then -q else q)) := by
  have hneg (p : ℚ) : (expected e digits p).neg = expected e digits (-p) := by
    unfold expected
    split_ifs <;> rfl
  have hnumeral := h.isNumeral
  have hunsigned := unsigned_denotes h
  rcases hsign with rfl | rfl | rfl
  · obtain ⟨mantissa, text, m, rfl, hm, -⟩ := h
    obtain ⟨c, rest, rfl, hc⟩ := hm.mantissa.head
    have hsign (d : Char) (hd : d.isDigit = false ∧ d ≠ '.') (cs : List Char) :
        c :: rest ++ text ≠ d :: cs := by
      intro heq
      obtain rfl : c = d := (List.cons.inj heq).1
      simp [hd] at hc
    rw [List.nil_append, signed?.eq_3 _ (hsign '-' (by decide)) (hsign '+' (by decide)),
      if_pos hnumeral, hunsigned, if_neg (by simp)]
  · rw [List.singleton_append, signed?, if_pos hnumeral, hunsigned, if_neg (by simp)]
  · rw [List.singleton_append, signed?, if_pos hnumeral, hunsigned, if_pos rfl, hneg]

/-- The power of ten of `-1.5e-2147483647` is the one that overflows. -/
theorem signed?_exact_least :
    Denotes "1.5e-2147483647".toList (-2147483647) 1
        ((1 + 5 / 10 ^ 1) * 10 ^ (-2147483647 : ℤ)) ∧
      signed? "-1.5e-2147483647".toList = some .overflow := by
  have hdigits (cs : List Char) (hne : cs ≠ []) (hcs : cs.all Char.isDigit = true) : Digits cs :=
    ⟨hne, List.all_eq_true.1 hcs⟩
  have hdenotes : Denotes "1.5e-2147483647".toList (-2147483647) 1
      ((1 + 5 / 10 ^ 1) * 10 ^ (-2147483647 : ℤ)) := by
    refine ⟨['1', '.', '5'], "e-2147483647".toList, 1 + 5 / 10 ^ 1, by decide, ?_, ?_, rfl⟩
    · have hone : (1 : ℚ) = (Nat.ofDigitChars 10 ['1'] 0 : Nat) := by decide
      have hfive : (5 : ℚ) = (Nat.ofDigitChars 10 ['5'] 0 : Nat) := by decide
      rw [hone, hfive]
      exact .decimal (hdigits ['1'] (by decide) (by decide)) (hdigits ['5'] (by decide) (by decide))
    · exact .down (.inl rfl) (hdigits "2147483647".toList (by decide) (by decide))
  refine ⟨hdenotes, ?_⟩
  have h := signed?_exact (.inr (.inr rfl)) hdenotes
  rw [expected, if_pos (by decide)] at h
  exact h

end ModelLang.Numeral
