import ModelLang.TupleSet.Basic

/-!
# ModelLang.TupleSet.Range

Arithmetic progressions: `first`, `first + step`, `first + 2 * step`, ... as far as `last` is not
passed. The numbers are found one after the other (`walk`); each step uses up one of the steps that
fit between a number and `last` (`stepsLeft`), so that the walk ends.
-/

namespace ModelLang.TupleSet

/-- The first `n` terms of a progression. -/
def terms (first step : Rat) (n : Nat) : List Tuple :=
  (List.range n).map fun (i : Nat) => [Elem.number (first + i * step)]

theorem nodup_terms (first : Rat) {step : Rat} (h : step ≠ 0) (n : Nat) :
    (terms first step n).Nodup := by
  unfold terms
  rw [List.nodup_iff_pairwise_ne, List.pairwise_map]
  refine (List.nodup_iff_pairwise_ne.1 List.nodup_range).imp ?_
  intro i j hij he
  apply hij
  simp only [List.cons.injEq, Elem.number.injEq, and_true] at he
  have h₁ : (i : Rat) * step = j * step := Rat.add_left_cancel _ he
  have h₂ : ((i : Rat) - j) * step = 0 := by
    rw [Rat.sub_eq_add_neg, Rat.add_mul, Rat.neg_mul, h₁, Rat.add_neg_cancel]
  rcases Rat.mul_eq_zero.1 h₂ with h₃ | h₃
  · have h₄ : (i : Rat) = j := by
      have := congrArg (· + (j : Rat)) h₃
      simpa [Rat.sub_add_cancel, Rat.zero_add] using this
    exact Rat.natCast_inj.1 h₄
  · exact absurd h₃ h

theorem uniform_terms (first step : Rat) (n : Nat) :
    ∀ s ∈ terms first step n, ∀ t ∈ terms first step n, Tuple.shape s = Tuple.shape t := by
  intro s hs t ht
  simp only [terms, List.mem_map] at hs ht
  obtain ⟨_, _, rfl⟩ := hs
  obtain ⟨_, _, rfl⟩ := ht
  rfl

/-- The numbers from one to `n`. -/
def count (n : Nat) : TupleSet where
  tuples := terms 1 1 n
  nodup := nodup_terms 1 (by decide) n
  uniform := uniform_terms 1 1 n

/-- Whether a progression takes a number that it comes to. It does not if the number is past `last`,
or `last` itself and the progression is not closed. -/
def takes (last step : Rat) (closed : Bool) (q : Rat) : Bool :=
  match decide (0 < step), closed with
  | true, true => decide (q ≤ last)
  | true, false => decide (q < last)
  | false, true => decide (last ≤ q)
  | false, false => decide (last < q)

/-- How many numbers there are on the way from `q` to `last`, both of them included. -/
def stepsLeft (last step q : Rat) : Nat := (((last - q) / step).floor + 1).toNat

section Walk

variable {last step : Rat} {closed : Bool}

theorem div_pos_iff_of_pos {a b : Rat} (hb : 0 < b) : 0 < a / b ↔ 0 < a := by
  rw [Rat.lt_div_iff hb, Rat.zero_mul]

theorem div_nonneg_iff_of_pos {a b : Rat} (hb : 0 < b) : 0 ≤ a / b ↔ 0 ≤ a := by
  rw [← Rat.not_lt, Rat.div_lt_iff hb, Rat.zero_mul, Rat.not_lt]

/-- In both directions, a number is taken by how many steps it is away from `last`. -/
theorem takes_iff (hstep : step ≠ 0) (q : Rat) : takes last step closed q = true ↔
    if closed then 0 ≤ (last - q) / step else 0 < (last - q) / step := by
  by_cases hpos : 0 < step
  · have hdirection : decide (0 < step) = true := decide_eq_true hpos
    cases closed with
    | true =>
      simp only [takes, hdirection, decide_eq_true_eq, if_true]
      rw [div_nonneg_iff_of_pos hpos, ← Rat.le_iff_sub_nonneg]
    | false =>
      simp only [takes, hdirection, decide_eq_true_eq, Bool.false_eq_true, if_false]
      rw [div_pos_iff_of_pos hpos, ← Rat.lt_iff_sub_pos]
  · have hdirection : decide (0 < step) = false := decide_eq_false hpos
    have hneg : 0 < -step := by grind
    have hdiv : (last - q) / step = (q - last) / -step := by grind
    rw [hdiv]
    cases closed with
    | true =>
      simp only [takes, hdirection, decide_eq_true_eq, if_true]
      rw [div_nonneg_iff_of_pos hneg, ← Rat.le_iff_sub_nonneg]
    | false =>
      simp only [takes, hdirection, decide_eq_true_eq, Bool.false_eq_true, if_false]
      rw [div_pos_iff_of_pos hneg, ← Rat.lt_iff_sub_pos]

theorem stepsLeft_lt (hstep : step ≠ 0) {q : Rat} (h : takes last step closed q = true) :
    stepsLeft last step (q + step) < stepsLeft last step q := by
  have hspan : 0 ≤ (last - q) / step := by
    rw [takes_iff hstep] at h
    cases closed with
    | true => simpa using h
    | false => exact Rat.le_of_lt (by simpa using h)
  have hnext : (last - (q + step)) / step = (last - q) / step - 1 := by grind
  have hfloor : 0 ≤ ((last - q) / step).floor := Rat.le_floor_iff.2 (by simpa using hspan)
  unfold stepsLeft
  rw [hnext, Rat.floor_sub_one]
  omega

/-- The numbers that a progression takes from `q` on, behind those found before. -/
def walk (last : Rat) {step : Rat} (hstep : step ≠ 0) (closed : Bool) (found : List Rat)
    (q : Rat) : List Rat :=
  if _ : takes last step closed q = true then
    walk last hstep closed (q :: found) (q + step)
  else found.reverse
termination_by stepsLeft last step q
decreasing_by exact stepsLeft_lt hstep (by assumption)

/-- The walk goes from term to term up to the first that is not taken. -/
theorem exists_walk (last : Rat) (closed : Bool) (hstep : step ≠ 0) (found : List Rat) (q : Rat) :
    ∃ n : Nat, walk last hstep closed found q =
        found.reverse ++ (List.range n).map (fun (i : Nat) => q + i * step) ∧
      (∀ i : Nat, i < n → takes last step closed (q + i * step) = true) ∧
      takes last step closed (q + n * step) = false := by
  fun_induction walk last hstep closed found q with
  | case1 found q h ih =>
    obtain ⟨n, hwalk, htaken, hstop⟩ := ih
    have hfirst : q + (0 : Nat) * step = q := by grind
    have hnext (i : Nat) : q + step + i * step = q + (i + 1 : Nat) * step := by grind
    refine ⟨n + 1, ?_, ?_, ?_⟩
    · rw [hwalk, List.range_succ_eq_map]
      simp only [List.reverse_cons, List.append_assoc, List.singleton_append, List.map_cons,
        List.map_map, Function.comp_def, hfirst, hnext]
    · intro i hi
      cases i with
      | zero => rwa [hfirst]
      | succ i =>
        rw [← hnext]
        exact htaken i (by omega)
    · rw [← hnext]
      exact hstop
  | case2 found q h =>
    have hfirst : q + (0 : Nat) * step = q := by grind
    refine ⟨0, by simp, nofun, ?_⟩
    rw [hfirst]
    exact Bool.eq_false_iff.2 h

theorem exists_terms (first last : Rat) (closed : Bool) (hstep : step ≠ 0) :
    ∃ n, (walk last hstep closed [] first).map (fun q => [Elem.number q]) =
      terms first step n := by
  obtain ⟨n, hwalk, -⟩ := exists_walk last closed hstep [] first
  refine ⟨n, ?_⟩
  rw [hwalk, List.reverse_nil, List.nil_append, List.map_map]
  rfl

end Walk

def range (first last step : Rat) (closed : Bool) : Except Cause TupleSet :=
  if h : step = 0 then .error .zeroStep
  else .ok
    { tuples := (walk last h closed [] first).map fun q => [.number q]
      nodup := by
        obtain ⟨n, hn⟩ := exists_terms first last closed h
        rw [hn]
        exact nodup_terms first h n
      uniform := by
        obtain ⟨n, hn⟩ := exists_terms first last closed h
        rw [hn]
        exact uniform_terms first step n }

end ModelLang.TupleSet
