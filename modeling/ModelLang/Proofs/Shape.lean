import Mathlib.Data.List.Basic
import ModelLang.TupleSet.Algebra
import ModelLang.TupleSet.Choice
import ModelLang.TupleSet.Range

/-!
# ModelLang.Proofs.Shape

What the operations on sets rely on. All members of a set have one shape, so that any of them tells
what a further tuple or another set has to look like, not only the first (`insert_ok_iff`,
`conflict?_of_mem`), and members of a set can be inserted again in any order (`ofTuples_of_subset`).
The arity of a result is known from the arities of the operands.
-/

namespace ModelLang.TupleSet

theorem eq_of_tuples {s r : TupleSet} (h : s.tuples = r.tuples) : s = r := by
  cases s
  cases r
  cases h
  rfl

/-! ## Insertion -/

section Insertion

variable {s r : TupleSet} {t : Tuple}

theorem push_tuples (h : ∀ a ∈ s.tuples, Tuple.shape a = Tuple.shape t) :
    (s.push t h).tuples = if t ∈ s then s.tuples else s.tuples ++ [t] := by
  unfold push
  split <;> rfl

/-- A tuple goes into a set if its shape is that of the members. -/
theorem insert_eq_push (h : ∀ a ∈ s.tuples, Tuple.shape a = Tuple.shape t) :
    s.insert t = .ok (s.push t h) := by
  unfold insert
  split
  · rfl
  · rename_i first rest hs
    have hfirst : clash? first t = none := clash?_eq_none_iff.2 (h first (by simp [hs]))
    split
    · rename_i cause hc
      rw [hfirst] at hc
      cases hc
    · rfl

theorem insert_ok_iff : s.insert t = .ok r ↔
    ∃ h : ∀ a ∈ s.tuples, Tuple.shape a = Tuple.shape t, r = s.push t h := by
  constructor
  · intro hr
    have h : ∀ a ∈ s.tuples, Tuple.shape a = Tuple.shape t := by
      intro a ha
      unfold insert at hr
      split at hr
      · rename_i hs
        rw [hs] at ha
        cases ha
      · rename_i first rest hs
        split at hr
        · cases hr
        · rename_i hc
          exact (s.uniform a ha first (by simp [hs])).trans (clash?_eq_none_iff.1 hc)
    rw [insert_eq_push h] at hr
    cases hr
    exact ⟨h, rfl⟩
  · rintro ⟨h, rfl⟩
    exact insert_eq_push h

/-- Any member of another shape keeps a tuple out, not only the first one. -/
theorem insert_error_iff :
    (∃ c, s.insert t = .error c) ↔ ∃ a ∈ s, Tuple.shape a ≠ Tuple.shape t := by
  constructor
  · rintro ⟨c, hc⟩
    by_contra hn
    push Not at hn
    rw [insert_eq_push hn] at hc
    cases hc
  · rintro ⟨a, ha, hne⟩
    cases h : s.insert t with
    | error c => exact ⟨c, rfl⟩
    | ok r =>
      obtain ⟨hu, _⟩ := insert_ok_iff.1 h
      exact absurd (hu a ha) hne

end Insertion

/-! ## Insertion of several tuples -/

theorem firsts_of_nodup {ts : List Tuple} (h : ts.Nodup) : firsts ts = ts := by
  induction ts with
  | nil => rfl
  | cons t rest ih =>
    rw [List.nodup_cons] at h
    rw [firsts, ih h.2, List.filter_eq_self.2]
    intro a ha
    simpa using fun he : a = t => h.1 (he ▸ ha)

/-- A tuple that is left out anyway need not be looked at. -/
theorem filter_firsts (t : Tuple) (xs rest : List Tuple) :
    (firsts (xs ++ t :: rest)).filter (· ≠ t) = (firsts (xs ++ rest)).filter (· ≠ t) := by
  induction xs with
  | nil => simp [firsts]
  | cons a xs ih =>
    simp only [List.cons_append, firsts, List.filter_cons]
    rw [List.filter_comm, ih, List.filter_comm]

theorem firsts_append_of_mem {t : Tuple} {xs : List Tuple} (h : t ∈ xs) (rest : List Tuple) :
    firsts (xs ++ t :: rest) = firsts (xs ++ rest) := by
  induction xs with
  | nil => cases h
  | cons a xs ih =>
    simp only [List.cons_append, firsts]
    by_cases ha : t = a
    · rw [← ha, filter_firsts]
    · rw [ih ((List.mem_cons.1 h).resolve_left ha)]

theorem insertAll_eq (s : TupleSet) (ts : List Tuple)
    (h : ∀ a ∈ s.tuples ++ ts, ∀ b ∈ s.tuples ++ ts, Tuple.shape a = Tuple.shape b) :
    ∃ r, s.insertAll ts = .ok r ∧ r.tuples = firsts (s.tuples ++ ts) := by
  induction ts generalizing s with
  | nil => exact ⟨s, rfl, by rw [List.append_nil, firsts_of_nodup s.nodup]⟩
  | cons t rest ih =>
    have ht : ∀ a ∈ s.tuples, Tuple.shape a = Tuple.shape t := by
      intro a ha
      exact h a (by simp [ha]) t (by simp)
    have hp : ∀ a ∈ (s.push t ht).tuples ++ rest, a ∈ s.tuples ++ t :: rest := by
      intro a ha
      rw [push_tuples] at ha
      split at ha
      · simp only [List.mem_append, List.mem_cons] at ha ⊢
        exact ha.imp_right .inr
      · simpa using ha
    obtain ⟨r, hr, hrt⟩ := ih (s.push t ht) fun a ha b hb => h a (hp a ha) b (hp b hb)
    refine ⟨r, ?_, ?_⟩
    · rw [insertAll, insert_eq_push ht]
      exact hr
    · rw [hrt, push_tuples]
      split
      · rename_i hm
        exact (firsts_append_of_mem hm rest).symm
      · rw [List.append_assoc, List.singleton_append]

/-- Members of a set can be inserted again, in any order and any number of times. -/
theorem ofTuples_of_subset (s : TupleSet) {ts : List Tuple} (h : ∀ t ∈ ts, t ∈ s) :
    ∃ r, ofTuples ts = .ok r ∧ r.tuples = firsts ts :=
  insertAll_eq empty ts fun a ha b hb => s.uniform a (h a ha) b (h b hb)

/-- Distinct members become a set in their own order. -/
theorem ofTuples_of_nodup (s : TupleSet) {ts : List Tuple} (h : ∀ t ∈ ts, t ∈ s)
    (hn : ts.Nodup) : ∃ r, ofTuples ts = .ok r ∧ r.tuples = ts := by
  obtain ⟨r, hr, ht⟩ := s.ofTuples_of_subset h
  exact ⟨r, hr, ht.trans (firsts_of_nodup hn)⟩

theorem ofTuples_tuples (s : TupleSet) : ofTuples s.tuples = .ok s := by
  obtain ⟨r, hr, ht⟩ := s.ofTuples_of_nodup (fun _ h => h) s.nodup
  rw [hr, eq_of_tuples ht]

/-! ## Arities -/

section Arity

variable {s r a b : TupleSet} {t : Tuple}

theorem length_of_mem (h : t ∈ s) : t.length = s.arity := by
  unfold arity
  cases hs : s.tuples with
  | nil =>
    rw [← mem_tuples, hs] at h
    cases h
  | cons first rest => exact Tuple.length_eq_of_shape_eq (s.uniform t h first (by simp [hs]))

theorem arity_of_isEmpty (h : s.isEmpty = true) : s.arity = 0 := by
  rw [isEmpty, List.isEmpty_iff] at h
  rw [arity, h]
  rfl

/-- The arity is what the members say, and zero without members. -/
theorem arity_eq {n : Nat} (h : ∀ t ∈ s, t.length = n) :
    s.arity = if s.isEmpty then 0 else n := by
  split
  · rename_i he
    exact arity_of_isEmpty he
  · rename_i he
    obtain ⟨t, ht⟩ : ∃ t, t ∈ s := by
      rw [Bool.not_eq_true, isEmpty, List.isEmpty_eq_false_iff_exists_mem] at he
      exact he
    rw [← length_of_mem ht, h t ht]

/-- Of two sets that go together the one has the arity of the other, unless it is empty. -/
theorem length_eq_max (hab : ∀ x ∈ a.tuples, ∀ y ∈ b.tuples, Tuple.shape x = Tuple.shape y)
    (h : t ∈ a ∨ t ∈ b) : t.length = max a.arity b.arity := by
  have key {c d : TupleSet}
      (hcd : ∀ x ∈ c.tuples, ∀ y ∈ d.tuples, Tuple.shape x = Tuple.shape y) (ht : t ∈ c) :
      d.arity ≤ c.arity := by
    rw [arity_eq fun u hu => (Tuple.length_eq_of_shape_eq (hcd t ht u hu)).symm, length_of_mem ht]
    split <;> omega
  rcases h with h | h
  · rw [Nat.max_eq_left (key hab h), length_of_mem h]
  · rw [Nat.max_eq_right (key (fun x hx y hy => (hab y hy x hx).symm) h), length_of_mem h]

theorem insert_arity (h : s.insert t = .ok r) :
    r.arity = if s.isEmpty then t.length else s.arity := by
  obtain ⟨hu, rfl⟩ := insert_ok_iff.1 h
  have hr : ∃ u ∈ s.push t hu, u.length = if s.isEmpty then t.length else s.arity := by
    cases hs : s.tuples with
    | nil =>
      refine ⟨t, ?_, by simp [isEmpty, hs]⟩
      rw [← mem_tuples, push_tuples]
      split
      · assumption
      · simp
    | cons first rest =>
      have hf : first ∈ s.tuples := by simp [hs]
      refine ⟨first, ?_, ?_⟩
      · rw [← mem_tuples, push_tuples]
        split
        · exact hf
        · simp [hf]
      · rw [length_of_mem (s := s) hf]
        simp [isEmpty, hs]
  obtain ⟨u, hu, hl⟩ := hr
  rw [← length_of_mem hu, hl]

end Arity

/-! ## Two sets -/

section Pairs

variable {a b r : TupleSet}

theorem clash?_congr {s s' t t' : Tuple} (hs : Tuple.shape s = Tuple.shape s')
    (ht : Tuple.shape t = Tuple.shape t') : clash? s t = clash? s' t' := by
  unfold clash? Tuple.shapeText
  rw [Tuple.length_eq_of_shape_eq hs, Tuple.length_eq_of_shape_eq ht, hs, ht]

/-- Whatever members are compared, the verdict on two sets is the same. -/
theorem conflict?_of_mem {s t : Tuple} (hs : s ∈ a) (ht : t ∈ b) :
    conflict? a b = clash? s t := by
  unfold conflict?
  split
  · rename_i s' as t' bs ha hb
    exact clash?_congr (a.uniform s' (by simp [ha]) s hs) (b.uniform t' (by simp [hb]) t ht)
  · rename_i hne
    exfalso
    rw [← mem_tuples] at hs ht
    cases ha : a.tuples with
    | nil =>
      rw [ha] at hs
      cases hs
    | cons s' as =>
      cases hb : b.tuples with
      | nil =>
        rw [hb] at ht
        cases ht
      | cons t' bs => exact hne s' as t' bs ha hb

theorem combine_eq_ok
    {f : (∀ s ∈ a.tuples, ∀ t ∈ b.tuples, Tuple.shape s = Tuple.shape t) → TupleSet}
    (h : combine a b f = .ok r) : ∃ hab, r = f hab := by
  unfold combine at h
  split at h
  · cases h
  · cases h
    exact ⟨_, rfl⟩

/-- What the set operations have in common: the operands go together, and the result consists of
members of them. -/
structure Joins (a b r : TupleSet) : Prop where
  uniform : ∀ s ∈ a.tuples, ∀ t ∈ b.tuples, Tuple.shape s = Tuple.shape t
  mem : ∀ t ∈ r, t ∈ a ∨ t ∈ b

theorem Joins.arity (h : Joins a b r) :
    r.arity = if r.isEmpty then 0 else max a.arity b.arity :=
  arity_eq fun t ht => length_eq_max h.uniform (h.mem t ht)

theorem joins_union (h : a.union b = .ok r) : Joins a b r := by
  obtain ⟨hab, rfl⟩ := combine_eq_ok h
  refine ⟨hab, fun t ht => ?_⟩
  rw [← mem_tuples] at ht
  simp only [append, List.mem_append, List.mem_filter] at ht
  exact ht.imp_right fun ht => ht.1

theorem joins_inter (h : a.inter b = .ok r) : Joins a b r := by
  obtain ⟨hab, rfl⟩ := combine_eq_ok h
  exact ⟨hab, fun t ht => .inl (List.mem_filter.1 ht).1⟩

theorem joins_without (h : a.without b = .ok r) : Joins a b r := by
  obtain ⟨hab, rfl⟩ := combine_eq_ok h
  exact ⟨hab, fun t ht => .inl (List.mem_filter.1 ht).1⟩

theorem joins_symDiff (h : a.symDiff b = .ok r) : Joins a b r := by
  obtain ⟨hab, rfl⟩ := combine_eq_ok h
  refine ⟨hab, fun t ht => ?_⟩
  rw [← mem_tuples] at ht
  simp only [append, filter, ofSublist, List.mem_append, List.mem_filter] at ht
  exact ht.imp (fun ht => ht.1) fun ht => ht.1

theorem cross_arity (a b : TupleSet) :
    (a.cross b).arity = if (a.cross b).isEmpty then 0 else a.arity + b.arity := by
  refine arity_eq fun t ht => ?_
  simp only [← mem_tuples, cross, List.mem_flatMap, List.mem_map] at ht
  obtain ⟨s, hs, u, hu, rfl⟩ := ht
  rw [List.length_append, length_of_mem (s := a) hs, length_of_mem (s := b) hu]

end Pairs

/-! ## Projections, ranges and choices -/

section Others

variable {s r : TupleSet}

/-- Every place that a projection takes exists in every tuple. -/
theorem proj_in_range {positions : List Nat} (h : s.proj positions = .ok r) {t : Tuple}
    (ht : t ∈ s) {p : Nat} (hp : p ∈ positions) : 1 ≤ p ∧ p ≤ t.length := by
  unfold proj at h
  split at h
  · cases h
  · rename_i hn
    rw [List.find?_eq_none] at hn
    have hne : s.isEmpty = false := by
      rw [isEmpty, List.isEmpty_eq_false_iff_exists_mem]
      exact ⟨t, ht⟩
    have hrange := hn p hp
    simp only [hne, Bool.not_false, Bool.true_and, Bool.or_eq_true, decide_eq_true_eq] at hrange
    rw [length_of_mem ht]
    omega

theorem pick_length {positions : List Nat} {t : Tuple}
    (h : ∀ p ∈ positions, 1 ≤ p ∧ p ≤ t.length) : (pick positions t).length = positions.length := by
  induction positions with
  | nil => rfl
  | cons p rest ih =>
    have hp := h p (by simp)
    have hlt : p - 1 < t.length := by omega
    have hrest := ih fun q hq => h q (by simp [hq])
    rw [pick] at hrest
    rw [pick, List.filterMap_cons, List.getElem?_eq_getElem hlt]
    simp only [List.length_cons, hrest]

theorem proj_arity {positions : List Nat} (h : s.proj positions = .ok r) :
    r.arity = if r.isEmpty then 0 else positions.length := by
  have hrange := fun t (ht : t ∈ s) p (hp : p ∈ positions) => proj_in_range h ht hp
  unfold proj at h
  split at h
  · cases h
  · cases h
    refine arity_eq fun t ht => ?_
    simp only [← mem_tuples, ofUniform, mem_firsts, List.mem_map] at ht
    obtain ⟨u, hu, rfl⟩ := ht
    exact pick_length (hrange u hu)

theorem length_of_mem_terms {first step : Rat} {n : Nat} {t : Tuple}
    (h : t ∈ terms first step n) : t.length = 1 := by
  obtain ⟨i, _, rfl⟩ := List.mem_map.1 h
  rfl

theorem count_arity (n : Nat) : (count n).arity = if (count n).isEmpty then 0 else 1 :=
  arity_eq fun _ => length_of_mem_terms

theorem range_arity {first last step : Rat} {closed : Bool}
    (h : range first last step closed = .ok r) : r.arity = if r.isEmpty then 0 else 1 := by
  unfold range at h
  split at h
  · cases h
  · cases h
    refine arity_eq fun t ht => ?_
    obtain ⟨q, _, rfl⟩ := List.mem_map.1 ht
    rfl

theorem powerset_sublist {parts : List TupleSet} (h : s.powerset = .ok parts) {p : TupleSet}
    (hp : p ∈ parts) : p.tuples.Sublist s.tuples := by
  unfold powerset at h
  split at h
  · cases h
  · cases h
    simp only [TupleSet.parts, List.mem_map, List.mem_attach, true_and] at hp
    obtain ⟨⟨picked, hm⟩, rfl⟩ := hp
    exact sublist_of_mem_chooseAny hm

theorem subsets_eq_ok {least most : Nat} {parts : List TupleSet}
    (h : s.subsets least most = .ok parts) :
    parts = (List.range' least (most + 1 - least)).flatMap fun k =>
      (Combination.all s.size k).map s.part := by
  unfold subsets at h
  split at h
  · cases h
  · cases h
    rfl

theorem subsets_sublist {least most : Nat} {parts : List TupleSet}
    (h : s.subsets least most = .ok parts) {p : TupleSet} (hp : p ∈ parts) :
    p.tuples.Sublist s.tuples := by
  obtain rfl := subsets_eq_ok h
  simp only [List.mem_flatMap, List.mem_map] at hp
  obtain ⟨k, _, c, _, rfl⟩ := hp
  exact List.map_getElem_sublist c.places_ascending

end Others

end ModelLang.TupleSet
