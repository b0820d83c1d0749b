import ModelLang.Proofs.SetAlgebra

/-!
# ModelLang.Proofs.Products

Products list the pairs row by row, and projections of them give back the operands
(`TupleSet.products`). No two tuples of a product are equal, since tuples of one length can be taken
apart again. A projection keeps the first of equal tuples, and a further projection may as well be
done before (`firsts_map_firsts`).
-/

namespace ModelLang.TupleSet

/-! ## First occurrences -/

section Firsts

variable {ts rest : List Tuple}

theorem firsts_filter (p : Tuple → Bool) (ts : List Tuple) :
    firsts (ts.filter p) = (firsts ts).filter p := by
  induction ts with
  | nil => rfl
  | cons t rest ih =>
    by_cases ht : p t = true
    · simp only [List.filter_cons_of_pos ht, firsts, ih]
      rw [List.filter_comm]
    · rw [List.filter_cons_of_neg ht, ih, firsts, List.filter_cons_of_neg ht, List.filter_filter]
      refine List.filter_congr fun a _ => ?_
      by_cases ha : a = t
      · simp [ha, ht]
      · simp [ha]

theorem firsts_append_of_subset (h : ∀ t ∈ rest, t ∈ ts) : firsts (ts ++ rest) = firsts ts := by
  induction rest with
  | nil => rw [List.append_nil]
  | cons t rest ih =>
    rw [firsts_append_of_mem (h t (by simp)), ih fun u hu => h u (by simp [hu])]

/-- Tuples that are equal before a map are equal after it, and only the first of them counts. -/
theorem firsts_map_firsts (f : Tuple → Tuple) (ts : List Tuple) :
    firsts ((firsts ts).map f) = firsts (ts.map f) := by
  induction ts with
  | nil => rfl
  | cons t rest ih =>
    have hdrop : ((firsts rest).filter (· ≠ t)).filter (f · ≠ f t) =
        (firsts rest).filter (f · ≠ f t) := by
      rw [List.filter_filter]
      refine List.filter_congr fun a _ => ?_
      by_cases ha : a = t <;> simp [ha]
    have hmap (us : List Tuple) :
        (firsts (us.map f)).filter (· ≠ f t) = firsts ((us.filter (f · ≠ f t)).map f) := by
      rw [← firsts_filter, List.filter_map]
      rfl
    rw [firsts, List.map_cons, List.map_cons, firsts, firsts, ← ih, hmap, hmap, hdrop]

/-- Tuples that are repeated on the spot stand once. -/
theorem firsts_repeated (hrest : rest ≠ []) (ts : List Tuple) :
    firsts (ts.flatMap fun t => rest.map fun _ => t) = firsts ts := by
  induction ts with
  | nil => rfl
  | cons t ts ih =>
    obtain ⟨u, rest, rfl⟩ := List.exists_cons_of_ne_nil hrest
    have hrepeat : (rest.map fun _ => t).filter (· ≠ t) = [] := by simp
    rw [List.flatMap_cons, List.map_cons, List.cons_append, firsts, firsts, ← ih, ← firsts_filter,
      ← firsts_filter, List.filter_append, hrepeat, List.nil_append]

end Firsts

/-! ## Places -/

section Places

variable {s t : Tuple} {positions : List Nat}

theorem pick_eq_map (h : ∀ p ∈ positions, 1 ≤ p ∧ p ≤ t.length) :
    pick positions t = positions.map fun p => t.getD (p - 1) default := by
  rw [pick, ← List.filterMap_eq_map]
  refine List.filterMap_congr fun p hp => ?_
  have hlt : p - 1 < t.length := by
    have := h p hp
    omega
  simp [hlt]

/-- Places that follow one another take a piece of the tuple. -/
theorem pick_range (k n : Nat) (t : Tuple) :
    pick (List.range' (k + 1) n) t = (t.drop k).take n := by
  induction n generalizing k with
  | zero => simp [pick]
  | succ n ih =>
    have hrest : pick (List.range' (k + 2) n) t = (t.drop (k + 1)).take n := ih (k + 1)
    rw [pick] at hrest
    rw [pick, List.range'_succ, List.filterMap_cons, Nat.add_sub_cancel, hrest]
    by_cases hk : k < t.length
    · rw [List.drop_eq_getElem_cons hk, List.getElem?_eq_getElem hk, List.take_succ_cons]
    · have hlong : t.length ≤ k := Nat.le_of_not_lt hk
      rw [List.getElem?_eq_none hlong, List.drop_eq_nil_of_le hlong,
        List.drop_eq_nil_of_le (Nat.le_succ_of_le hlong), List.take_nil, List.take_nil]

theorem pick_left (s t : Tuple) : pick (List.range' 1 s.length) (s ++ t) = s := by
  rw [pick_range]
  simp

theorem pick_right (s t : Tuple) : pick (List.range' (s.length + 1) t.length) (s ++ t) = t := by
  rw [pick_range]
  simp

/-- Places within places. -/
theorem pick_pick (h : ∀ p ∈ positions, 1 ≤ p ∧ p ≤ t.length) (q : List (Fin positions.length)) :
    pick (q.map (·.val + 1)) (pick positions t) = pick (q.map fun j => positions[j]) t := by
  have hget (j : Fin positions.length) :
      (pick positions t)[j.val]? = t[positions[j] - 1]? := by
    have hj := h positions[j] (List.getElem_mem j.isLt)
    have hlt : positions[j.val] - 1 < t.length := by
      rw [Fin.getElem_fin] at hj
      omega
    rw [pick_eq_map h]
    simp [hlt]
  rw [pick, pick.eq_1 (q.map _) t, List.filterMap_map, List.filterMap_map]
  exact List.filterMap_congr fun j _ => hget j

end Places

/-! ## Projections -/

section Projections

variable {s r : TupleSet} {positions : List Nat}

theorem proj_tuples (h : s.proj positions = .ok r) :
    r.tuples = firsts (s.tuples.map (pick positions)) := by
  unfold proj at h
  split at h
  · cases h
  · cases h
    rfl

theorem proj_error_iff : (∃ cause, s.proj positions = .error cause) ↔
    ∃ p ∈ positions, p = 0 ∨ s.isEmpty = false ∧ s.arity < p := by
  unfold proj
  split
  · rename_i p hp
    have hout := List.find?_some hp
    simp only [Bool.or_eq_true, decide_eq_true_eq, Bool.and_eq_true, Bool.not_eq_true'] at hout
    simp only [Except.error.injEq, exists_eq', true_iff]
    exact ⟨p, List.mem_of_find?_eq_some hp, hout⟩
  · rename_i hp
    simp only [reduceCtorEq, exists_false, false_iff]
    rintro ⟨p, hmem, hout⟩
    apply List.find?_eq_none.1 hp p hmem
    simpa using hout

theorem exists_proj_iff : (∃ r, s.proj positions = .ok r) ↔
    ∀ p ∈ positions, 1 ≤ p ∧ (s.isEmpty = false → p ≤ s.arity) := by
  constructor
  · rintro ⟨r, hr⟩ p hp
    have hin : ¬ ∃ p ∈ positions, p = 0 ∨ s.isEmpty = false ∧ s.arity < p := by
      rw [← proj_error_iff, exists_error_iff, not_not]
      exact ⟨r, hr⟩
    constructor
    · by_contra hzero
      exact hin ⟨p, hp, .inl (by omega)⟩
    · intro hne
      by_contra hout
      exact hin ⟨p, hp, .inr ⟨hne, Nat.lt_of_not_le hout⟩⟩
  · intro h
    cases hproj : s.proj positions with
    | ok r => exact ⟨r, rfl⟩
    | error cause =>
      obtain ⟨p, hp, hout⟩ := proj_error_iff.1 ⟨cause, hproj⟩
      obtain ⟨hone, hle⟩ := h p hp
      rcases hout with rfl | ⟨hne, hlt⟩
      · omega
      · have := hle hne
        omega

/-- A projection of a projection takes places within places. -/
theorem proj_proj (h : s.proj positions = .ok r) (q : List (Fin positions.length)) :
    ∃ r', r.proj (q.map (·.val + 1)) = .ok r' ∧ s.proj (q.map fun j => positions[j]) = .ok r' := by
  have hin (t : Tuple) (ht : t ∈ s) (p : Nat) (hp : p ∈ positions) : 1 ≤ p ∧ p ≤ t.length :=
    proj_in_range h ht hp
  obtain ⟨r₁, h₁⟩ : ∃ r', r.proj (q.map (·.val + 1)) = .ok r' := by
    refine exists_proj_iff.2 fun p hp => ?_
    obtain ⟨j, _, rfl⟩ := List.mem_map.1 hp
    refine ⟨by omega, fun hne => ?_⟩
    have harity : r.arity = positions.length := by simp [proj_arity h, hne]
    rw [harity]
    exact j.isLt
  obtain ⟨r₂, h₂⟩ : ∃ r', s.proj (q.map fun j => positions[j]) = .ok r' := by
    refine exists_proj_iff.2 fun p hp => ?_
    obtain ⟨j, _, rfl⟩ := List.mem_map.1 hp
    exact exists_proj_iff.1 ⟨r, h⟩ _ (List.getElem_mem j.isLt)
  have heq : r₁ = r₂ := by
    apply eq_of_tuples
    rw [proj_tuples h₁, proj_tuples h₂, proj_tuples h, firsts_map_firsts, List.map_map]
    refine congrArg firsts (List.map_congr_left fun t ht => ?_)
    exact pick_pick (hin t ht) q
  exact ⟨r₁, h₁, heq ▸ h₂⟩

end Projections

/-! ## Products -/

section Products

variable {a b c r : TupleSet}

theorem mem_cross {t : Tuple} : t ∈ a.cross b ↔ ∃ s ∈ a, ∃ u ∈ b, s ++ u = t := by
  simp [← mem_tuples, cross]

theorem size_cross (a b : TupleSet) : (a.cross b).size = a.size * b.size := by
  simp [size, cross, List.length_flatMap]

theorem cross_assoc (a b c : TupleSet) : (a.cross b).cross c = a.cross (b.cross c) := by
  apply eq_of_tuples
  simp only [cross, List.flatMap_assoc, List.map_flatMap, List.flatMap_map, List.map_map,
    Function.comp_def, List.append_assoc]

/-- The pairs with an element of the list come after those with the elements before it. -/
theorem getElem?_rows (xs ys : List Tuple) (i : Nat) {j : Nat} (hj : j < ys.length) :
    (xs.flatMap fun s => ys.map (s ++ ·))[i * ys.length + j]? =
      xs[i]?.bind fun s => ys[j]?.map (s ++ ·) := by
  induction xs generalizing i with
  | nil => rfl
  | cons s rest ih =>
    rw [List.flatMap_cons]
    cases i with
    | zero =>
      rw [List.getElem?_append_left (by simpa using hj)]
      simp
    | succ i =>
      have hlong : (ys.map (s ++ ·)).length ≤ (i + 1) * ys.length + j := by
        rw [List.length_map, Nat.succ_mul]
        omega
      have hindex : (i + 1) * ys.length + j - ys.length = i * ys.length + j := by
        rw [Nat.succ_mul]
        omega
      rw [List.getElem?_append_right hlong, List.length_map, hindex, ih, List.getElem?_cons_succ]

theorem cross_nth? {i j : Nat} {s t : Tuple} (hs : a.nth? (i + 1) = some s)
    (ht : b.nth? (j + 1) = some t) :
    (a.cross b).nth? (i * b.size + j + 1) = some (s ++ t) := by
  have hj : j < b.tuples.length := (List.getElem?_eq_some_iff.1 ht).1
  have hrow := getElem?_rows a.tuples b.tuples i hj
  simp only [nth?] at hs ht
  rw [hs, ht] at hrow
  exact hrow

/-- No tuple is dropped when the tuples of a product are inserted one after the other. -/
theorem ofTuples_cross (a b : TupleSet) :
    ofTuples (a.tuples.flatMap fun s => b.tuples.map (s ++ ·)) = .ok (a.cross b) :=
  ofTuples_tuples (a.cross b)

/-- A projection of a product, told by what becomes of each row. -/
theorem proj_cross {positions : List Nat} {g : Tuple → Tuple → Tuple}
    (hrange : ∀ p ∈ positions, 1 ≤ p ∧ p ≤ a.arity + b.arity)
    (hrow : ∀ s ∈ a, ∀ t ∈ b, pick positions (s ++ t) = g s t)
    (hfirsts : firsts (a.tuples.flatMap fun s => b.tuples.map (g s)) = c.tuples) :
    (a.cross b).proj positions = .ok c := by
  obtain ⟨r, hr⟩ : ∃ r, (a.cross b).proj positions = .ok r := by
    refine exists_proj_iff.2 fun p hp => ⟨(hrange p hp).1, fun hne => ?_⟩
    rw [cross_arity, hne]
    simpa using (hrange p hp).2
  have hrows : (a.cross b).tuples.map (pick positions) =
      a.tuples.flatMap fun s => b.tuples.map (g s) := by
    rw [cross, List.map_flatMap]
    refine List.flatMap_congr fun s hs => ?_
    rw [List.map_map]
    exact List.map_congr_left (hrow s hs)
  have heq : r = c := by
    apply eq_of_tuples
    rw [proj_tuples hr, hrows, hfirsts]
  rw [hr, heq]

/-- The components of `a` are left of every row, and each row repeats them. -/
theorem proj_cross_left (hb : b.isEmpty = false) :
    (a.cross b).proj (List.range' 1 a.arity) = .ok a := by
  refine proj_cross (g := fun s _ => s) ?_ ?_ ?_
  · intro p hp
    rw [List.mem_range'_1] at hp
    omega
  · intro s hs t _
    rw [← length_of_mem hs]
    exact pick_left s t
  · have hne : b.tuples ≠ [] := by
      intro hnil
      simp [isEmpty, hnil] at hb
    rw [firsts_repeated hne, firsts_of_nodup a.nodup]

/-- The components of `b` are right of each row, and every row repeats all of them. -/
theorem proj_cross_right (ha : a.isEmpty = false) :
    (a.cross b).proj (List.range' (a.arity + 1) b.arity) = .ok b := by
  refine proj_cross (g := fun _ t => t) ?_ ?_ ?_
  · intro p hp
    rw [List.mem_range'_1] at hp
    omega
  · intro s hs t ht
    rw [← length_of_mem hs, ← length_of_mem ht]
    exact pick_right s t
  · obtain ⟨s, hs⟩ := exists_mem_of_isEmpty ha
    obtain ⟨first, rest, hcons⟩ := List.exists_cons_of_ne_nil (List.ne_nil_of_mem hs)
    have hrest : ∀ t ∈ rest.flatMap fun _ => b.tuples, t ∈ b.tuples := by
      intro t ht
      obtain ⟨_, _, ht⟩ := List.mem_flatMap.1 ht
      exact ht
    simp only [List.map_id_fun', id_eq]
    rw [hcons, List.flatMap_cons, firsts_append_of_subset hrest, firsts_of_nodup b.nodup]

end Products

/-- What makes a set the product of two: the pairs stand row by row, none of them is lost, and the
operands can be had back from the rows. -/
structure IsProduct (a b p : TupleSet) : Prop where
  size : p.size = a.size * b.size
  rows (i j : Nat) (s t : Tuple) : a.nth? (i + 1) = some s → b.nth? (j + 1) = some t →
    p.nth? (i * b.size + j + 1) = some (s ++ t)
  inserted : ofTuples (a.tuples.flatMap fun s => b.tuples.map (s ++ ·)) = .ok p
  left : b.isEmpty = false → p.proj (List.range' 1 a.arity) = .ok a
  right : a.isEmpty = false → p.proj (List.range' (a.arity + 1) b.arity) = .ok b

theorem isProduct_cross (a b : TupleSet) : IsProduct a b (a.cross b) where
  size := size_cross a b
  rows _ _ _ _ := cross_nth?
  inserted := ofTuples_cross a b
  left := proj_cross_left
  right := proj_cross_right

/-- Products of all sets, the empty set and the set of the empty tuple among them, are associative
and can be projected to their operands. A projection fails for places that do not exist only, and a
projection of a projection is one projection. -/
theorem products :
    (∀ a b : TupleSet, IsProduct a b (a.cross b)) ∧
    (∀ a b c : TupleSet, (a.cross b).cross c = a.cross (b.cross c)) ∧
    (∀ (s : TupleSet) (positions : List Nat), (∃ cause, s.proj positions = .error cause) ↔
      ∃ p ∈ positions, p = 0 ∨ s.isEmpty = false ∧ s.arity < p) ∧
    ∀ (s r : TupleSet) (positions : List Nat), s.proj positions = .ok r →
      ∀ q : List (Fin positions.length), ∃ r', r.proj (q.map (·.val + 1)) = .ok r' ∧
        s.proj (q.map fun j => positions[j]) = .ok r' :=
  ⟨isProduct_cross, cross_assoc, fun _ _ => proj_error_iff, fun _ _ _ h => proj_proj h⟩

/-- The set of the empty tuple alone. -/
def unit : TupleSet := ofUniform [[]] (by simp)

/-- Pairs of numbers with a component taken twice, and rows that are numbers again. -/
theorem products_numbers :
    (∃ r r', ((count 2).cross (count 3)).proj [2, 2, 1] = .ok r ∧ r.proj [3, 1] = .ok r' ∧
      ((count 2).cross (count 3)).proj [1, 2] = .ok r') ∧
    (count 3).isEmpty = false ∧ (unit.cross (count 3)).proj [] = .ok unit ∧
    unit.isEmpty = false ∧ (unit.cross (count 3)).proj [1] = .ok (count 3) := by
  obtain ⟨r', h₁, h₂⟩ := products.2.2.2 ((count 2).cross (count 3)) _ [2, 2, 1] rfl [2, 0]
  have hunit : IsProduct unit (count 3) (unit.cross (count 3)) := products.1 unit (count 3)
  exact ⟨⟨_, r', rfl, h₁, h₂⟩, rfl, hunit.left rfl, rfl, hunit.right rfl⟩

end ModelLang.TupleSet
