import ModelLang.TupleSet.Range

/-!
# ModelLang.Proofs.Progression

Which numbers an arithmetic progression consists of, and how many they are. A term is taken if its
index is below a bound (`takes_term_iff`), so that no term behind the first that is not taken could
be taken again, and the walk stops at this bound (`range_terms`).
-/

namespace ModelLang.TupleSet

/-- A set of the terms of a progression that have not passed `last`. -/
structure IsProgression (first last step : Rat) (closed : Bool) (s : TupleSet) : Prop where
  /-- The members are the first terms in their order, and no others. -/
  terms : s.tuples = (List.range s.size).map fun (i : Nat) => [Elem.number (first + i * step)]
  /-- Upwards, a term is a member if it is not above `last`. -/
  up : 0 < step → ∀ i : Nat, i < s.size ↔
    if closed then first + i * step ≤ last else first + i * step < last
  /-- Downwards, a term is a member if it is not below `last`. -/
  down : step < 0 → ∀ i : Nat, i < s.size ↔
    if closed then last ≤ first + i * step else last < first + i * step
  size_closed : closed = true → (s.size : Int) =
    if 0 ≤ (last - first) / step then ((last - first) / step).floor + 1 else 0
  size_open : closed = false → (s.size : Int) =
    if 0 < ((last - first) / step).ceil then ((last - first) / step).ceil else 0

/-- The index behind that of the last term that is taken, or a negative number. -/
def termBound (first last step : Rat) (closed : Bool) : Int :=
  if closed then ((last - first) / step).floor + 1 else ((last - first) / step).ceil

section

variable {first last step : Rat} {closed : Bool}

theorem takes_term_iff (hstep : step ≠ 0) (i : Nat) :
    takes last step closed (first + i * step) = true ↔
      (i : Int) < termBound first last step closed := by
  have hspan : (last - (first + i * step)) / step = (last - first) / step - i := by grind
  have hcast : (((i : Int) : Rat)) = i := Rat.intCast_natCast i
  rw [takes_iff hstep, hspan]
  cases closed with
  | true =>
    have hfloor := Rat.le_floor_iff (x := i) (a := (last - first) / step)
    rw [hcast] at hfloor
    simp only [termBound, if_true]
    rw [← Rat.le_iff_sub_nonneg, ← hfloor]
    omega
  | false =>
    have hceil := Rat.lt_ceil_iff (x := (last - first) / step) (y := i)
    rw [hcast] at hceil
    simp only [termBound, Bool.false_eq_true, if_false]
    rw [← Rat.lt_iff_sub_pos, ← hceil]

/-- The terms up to the bound are those of the progression. -/
theorem range_terms (first last : Rat) (closed : Bool) (hstep : step ≠ 0) :
    ∃ s, range first last step closed = .ok s ∧ s.tuples = terms first step s.size ∧
      s.size = (termBound first last step closed).toNat := by
  obtain ⟨n, hwalk, htaken, hstop⟩ := exists_walk last closed hstep [] first
  have htuples : (walk last hstep closed [] first).map (fun q => [Elem.number q]) =
      terms first step n := by
    rw [hwalk, List.reverse_nil, List.nil_append, List.map_map]
    rfl
  have hstop' : ¬ (n : Int) < termBound first last step closed := by
    rw [← takes_term_iff hstep, hstop]
    exact Bool.false_ne_true
  have hbound : n = (termBound first last step closed).toNat := by
    cases n with
    | zero => omega
    | succ n =>
      have hlast := (takes_term_iff hstep n).1 (htaken n (Nat.lt_succ_self n))
      omega
  have hrange : range first last step closed = _ := dif_neg hstep
  have hlength : (terms first step n).length = n := by
    rw [terms, List.length_map, List.length_range]
  refine ⟨_, hrange, ?_, ?_⟩
  · simp only [size, htuples, hlength]
  · simp only [size, htuples, hlength]
    exact hbound

theorem lt_size_iff {s : TupleSet} (hstep : step ≠ 0)
    (hsize : s.size = (termBound first last step closed).toNat) (i : Nat) :
    i < s.size ↔ takes last step closed (first + i * step) = true := by
  rw [takes_term_iff hstep]
  omega

theorem isProgression_of_terms {s : TupleSet} (hstep : step ≠ 0)
    (hterms : s.tuples = TupleSet.terms first step s.size)
    (hsize : s.size = (termBound first last step closed).toNat) :
    IsProgression first last step closed s where
  terms := hterms
  up hpos i := by
    rw [lt_size_iff hstep hsize]
    cases closed <;> simp [takes, hpos]
  down hneg i := by
    have hnpos : ¬ 0 < step := Rat.not_lt.2 (Rat.le_of_lt hneg)
    rw [lt_size_iff hstep hsize]
    cases closed <;> simp [takes, hnpos]
  size_closed hclosed := by
    have hfloor : 0 ≤ ((last - first) / step).floor ↔ 0 ≤ (last - first) / step :=
      Rat.le_floor_iff
    rw [hsize, termBound, if_pos hclosed]
    split
    · rename_i hspan
      have hnonneg := hfloor.2 hspan
      omega
    · rename_i hspan
      have hnegative := mt hfloor.1 hspan
      omega
  size_open hopen := by
    rw [hsize, termBound, if_neg (by simp [hopen])]
    split <;> omega

end

/-- Without a step there is no progression; with one, whatever its direction, there is the set of
the terms that have not passed `last`, in their order. -/
theorem progressions (first last step : Rat) (closed : Bool) :
    range first last 0 closed = .error .zeroStep ∧
      (step ≠ 0 →
        ∃ s, range first last step closed = .ok s ∧ IsProgression first last step closed s) := by
  refine ⟨dif_pos rfl, fun hstep => ?_⟩
  obtain ⟨s, hrange, hterms, hsize⟩ := range_terms first last closed hstep
  exact ⟨s, hrange, isProgression_of_terms hstep hterms hsize⟩

/-- Upwards to a number that is hit, and down by halves to one that is left out. -/
theorem progressions_hit :
    (3 : Rat) ≠ 0 ∧ (∃ s, range 1 7 3 true = .ok s ∧
      s.tuples = [[.number 1], [.number 4], [.number 7]]) ∧
    (-1 / 2 : Rat) ≠ 0 ∧ (∃ s, range 2 1 (-1 / 2) false = .ok s ∧
      s.tuples = [[.number 2], [.number (3 / 2)]]) := by
  obtain ⟨s, hs, hup⟩ := (progressions 1 7 3 true).2 (by decide)
  obtain ⟨t, ht, hdown⟩ := (progressions 2 1 (-1 / 2) false).2 (by decide +kernel)
  have hsizes : s.size = 3 := by
    rw [← Int.natCast_inj, hup.size_closed rfl]
    decide +kernel
  have hsizet : t.size = 2 := by
    rw [← Int.natCast_inj, hdown.size_open rfl]
    decide +kernel
  refine ⟨by decide, ⟨s, hs, ?_⟩, by decide +kernel, t, ht, ?_⟩
  · rw [hup.terms, hsizes]
    decide +kernel
  · rw [hdown.terms, hsizet]
    decide +kernel

end ModelLang.TupleSet
