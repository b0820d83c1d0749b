import Mathlib.Data.List.Perm.Subperm
import ModelLang.Proofs.Shape

/-!
# ModelLang.Proofs.SetAlgebra

Unions, intersections and differences as Boolean operations on members, in the order of the
operands (`TupleSet.Combines`), and the laws that follow from those of the Boolean operations
(`TupleSet.algebra`). Sets go together if all their members have one shape; what is made of such
sets has members of this shape again, so that no step of a longer calculation can fail.
-/

namespace ModelLang.TupleSet

/-! ## Members -/

section Members

variable {a b : TupleSet} {t : Tuple}

theorem contains_iff : a.contains t = true ↔ t ∈ a := decide_eq_true_iff

theorem subset_iff : a.subset b = true ↔ ∀ t ∈ a, t ∈ b := by
  simp only [subset, List.all_eq_true, contains_iff, mem_tuples]

/-- Sets of one size are the same if the one is a part of the other, for no member stands twice. -/
theorem same_iff : a.same b = true ↔ ∀ t, t ∈ a ↔ t ∈ b := by
  rw [same, Bool.and_eq_true, decide_eq_true_iff, subset_iff]
  constructor
  · rintro ⟨hsize, hsub⟩ t
    have hperm : a.tuples.Perm b.tuples :=
      (a.nodup.subperm hsub).perm_of_length_le (Nat.le_of_eq hsize.symm)
    exact hperm.mem_iff
  · intro h
    have hperm : a.tuples.Perm b.tuples := (List.perm_ext_iff_of_nodup a.nodup b.nodup).2 h
    exact ⟨hperm.length_eq, fun t ht => (h t).1 ht⟩

theorem same_iff_contains : a.same b = true ↔ ∀ t, a.contains t = b.contains t := by
  rw [same_iff]
  exact forall_congr' fun t => by rw [Bool.eq_iff_iff, contains_iff, contains_iff]

end Members

/-! ## Sets that go together -/

/-- What the components of the members are. -/
def kinds (s : TupleSet) : List Elem.Kind := (s.tuples.head?.map Tuple.shape).getD []

/-- Both sets have members, and those of the one are of another length than those of the other or
have other components. -/
def Clashes (a b : TupleSet) : Prop :=
  a.isEmpty = false ∧ b.isEmpty = false ∧ (a.arity ≠ b.arity ∨ a.kinds ≠ b.kinds)

instance (a b : TupleSet) : Decidable (a.Clashes b) :=
  inferInstanceAs (Decidable (_ ∧ _ ∧ (_ ∨ _)))

def Compatible (a b : TupleSet) : Prop := ¬ a.Clashes b

instance (a b : TupleSet) : Decidable (a.Compatible b) := inferInstanceAs (Decidable (¬ _))

/-- All members have one shape. -/
def Shaped (σ : List Elem.Kind) (s : TupleSet) : Prop := ∀ t ∈ s, Tuple.shape t = σ

section Compatible

variable {a b c : TupleSet}

theorem exists_mem_of_isEmpty (h : a.isEmpty = false) : ∃ t, t ∈ a := by
  rwa [isEmpty, List.isEmpty_eq_false_iff_exists_mem] at h

theorem kinds_of_mem {t : Tuple} (h : t ∈ a) : a.kinds = Tuple.shape t := by
  unfold kinds
  cases hs : a.tuples with
  | nil =>
    rw [← mem_tuples, hs] at h
    cases h
  | cons first rest => exact a.uniform first (by simp [hs]) t h

theorem compatible_iff :
    a.Compatible b ↔ ∀ s ∈ a, ∀ t ∈ b, Tuple.shape s = Tuple.shape t := by
  constructor
  · intro h s hs t ht
    by_contra hne
    refine h ⟨?_, ?_, .inr ?_⟩
    · exact List.isEmpty_eq_false_iff_exists_mem.2 ⟨s, hs⟩
    · exact List.isEmpty_eq_false_iff_exists_mem.2 ⟨t, ht⟩
    · rwa [kinds_of_mem hs, kinds_of_mem ht]
  · rintro h ⟨ha, hb, hne⟩
    obtain ⟨s, hs⟩ := exists_mem_of_isEmpty ha
    obtain ⟨t, ht⟩ := exists_mem_of_isEmpty hb
    rw [kinds_of_mem hs, kinds_of_mem ht, ← length_of_mem hs, ← length_of_mem ht] at hne
    have hst := h s hs t ht
    exact hne.elim (· (Tuple.length_eq_of_shape_eq hst)) (· hst)

theorem conflict?_eq_none_iff : conflict? a b = none ↔ a.Compatible b := by
  rw [compatible_iff]
  refine ⟨uniform_of_conflict?_eq_none, fun h => ?_⟩
  unfold conflict?
  split
  · rename_i s as t bs ha hb
    exact clash?_eq_none_iff.2 (h s (by simp [← mem_tuples, ha]) t (by simp [← mem_tuples, hb]))
  · rfl

theorem conflict?_eq_some_iff {cause : Cause} :
    conflict? a b = some cause ↔ ∃ s ∈ a, ∃ t ∈ b, clash? s t = some cause := by
  constructor
  · intro h
    unfold conflict? at h
    split at h
    · rename_i s as t bs ha hb
      exact ⟨s, by simp [← mem_tuples, ha], t, by simp [← mem_tuples, hb], h⟩
    · cases h
  · rintro ⟨s, hs, t, ht, h⟩
    rw [conflict?_of_mem hs ht, h]

theorem Shaped.compatible {σ : List Elem.Kind} (ha : a.Shaped σ) (hb : b.Shaped σ) :
    a.Compatible b :=
  compatible_iff.2 fun s hs t ht => (ha s hs).trans (hb t ht).symm

/-- Sets that go together in pairs go together as a whole. -/
theorem exists_shaped (hab : a.Compatible b) (hac : a.Compatible c) (hbc : b.Compatible c) :
    ∃ σ, a.Shaped σ ∧ b.Shaped σ ∧ c.Shaped σ := by
  rw [compatible_iff] at hab hac hbc
  by_cases ha : ∃ s, s ∈ a
  · obtain ⟨s, hs⟩ := ha
    exact ⟨Tuple.shape s, fun t ht => a.uniform t ht s hs, fun t ht => (hab s hs t ht).symm,
      fun t ht => (hac s hs t ht).symm⟩
  · have hempty (σ : List Elem.Kind) : a.Shaped σ := fun t ht => (ha ⟨t, ht⟩).elim
    by_cases hb : ∃ s, s ∈ b
    · obtain ⟨s, hs⟩ := hb
      exact ⟨Tuple.shape s, hempty _, fun t ht => b.uniform t ht s hs,
        fun t ht => (hbc s hs t ht).symm⟩
    · exact ⟨c.kinds, hempty _, fun t ht => (hb ⟨t, ht⟩).elim, fun t ht => (kinds_of_mem ht).symm⟩

end Compatible

/-! ## Boolean operations -/

/-- The members of `a` that are kept, given whether `b` has them too, and then the members of `b`
alone if those are kept, both in their order. -/
def keptTuples (keeps : Bool → Bool → Bool) (a b : TupleSet) : List Tuple :=
  a.tuples.filter (fun t => keeps true (b.contains t)) ++
    b.tuples.filter fun t => ! a.contains t && keeps false true

/-- The operation keeps members by whether each of the two sets has them, and fails for sets that
do not go together. -/
structure Combines (f : TupleSet → TupleSet → Except Cause TupleSet)
    (keeps : Bool → Bool → Bool) : Prop where
  error_iff (a b : TupleSet) : (∃ cause, f a b = .error cause) ↔ a.Clashes b
  conflict {a b : TupleSet} {cause : Cause} (h : f a b = .error cause) :
    conflict? a b = some cause
  tuples {a b r : TupleSet} (h : f a b = .ok r) : r.tuples = keptTuples keeps a b
  contains {a b r : TupleSet} (h : f a b = .ok r) (t : Tuple) :
    r.contains t = keeps (a.contains t) (b.contains t)

section Combines

variable {keeps : Bool → Bool → Bool}

theorem decide_mem_keptTuples (hnone : keeps false false = false) (a b : TupleSet) (t : Tuple) :
    decide (t ∈ keptTuples keeps a b) = keeps (a.contains t) (b.contains t) := by
  have hfilter (s : TupleSet) (p : Tuple → Bool) :
      decide (t ∈ s.tuples.filter p) = (s.contains t && p t) := by
    rw [Bool.eq_iff_iff, decide_eq_true_iff, List.mem_filter, Bool.and_eq_true, contains_iff,
      mem_tuples]
  rw [keptTuples]
  simp only [List.mem_append, Bool.decide_or, hfilter]
  cases a.contains t <;> cases b.contains t <;> simp [hnone]

theorem combines_of_tuples (hnone : keeps false false = false)
    (f : ∀ a b : TupleSet,
      (∀ s ∈ a.tuples, ∀ t ∈ b.tuples, Tuple.shape s = Tuple.shape t) → TupleSet)
    (hf : ∀ a b h, (f a b h).tuples = keptTuples keeps a b) :
    Combines (fun a b => combine a b (f a b)) keeps where
  error_iff a b := by
    rw [← not_iff_not, ← Compatible, ← conflict?_eq_none_iff]
    unfold combine
    split
    · rename_i cause h
      simp [h]
    · rename_i h
      simp [h]
  conflict := by
    intro a b cause h
    unfold combine at h
    split at h
    · rename_i hcause
      cases h
      exact hcause
    · cases h
  tuples := by
    intro a b r h
    obtain ⟨hab, rfl⟩ := combine_eq_ok h
    exact hf a b hab
  contains := by
    intro a b r h t
    obtain ⟨hab, rfl⟩ := combine_eq_ok h
    rw [← decide_mem_keptTuples hnone, ← hf a b hab]
    rfl

end Combines

theorem union_combines : Combines union (· || ·) :=
  combines_of_tuples rfl (fun a b h => a.append b (fun t => ! a.contains t) (by simp [contains]) h)
    fun a b h => by simp [append, keptTuples]

theorem inter_combines : Combines inter (· && ·) :=
  combines_of_tuples rfl (fun a b _ => a.filter b.contains)
    fun a b h => by simp [filter, ofSublist, keptTuples]

theorem without_combines : Combines without fun x y => x && ! y :=
  combines_of_tuples rfl (fun a b _ => a.filter fun t => ! b.contains t)
    fun a b h => by simp [filter, ofSublist, keptTuples]

theorem symDiff_combines : Combines symDiff (· ^^ ·) :=
  combines_of_tuples rfl _
    fun a b h => by simp [append, filter, ofSublist, keptTuples]

/-! ## Longer calculations -/

/-- An operation on what two calculations come to. -/
def both (f : TupleSet → TupleSet → Except Cause TupleSet) (x y : Except Cause TupleSet) :
    Except Cause TupleSet := do
  let a ← x
  let b ← y
  f a b

/-- Both calculations come to a set, and these are the same up to order. -/
def SameResult (x y : Except Cause TupleSet) : Prop :=
  ∃ r s, x = .ok r ∧ y = .ok s ∧ r.same s = true

/-- The calculation comes to a set of members of one shape, those with `m`. -/
def Yields (σ : List Elem.Kind) (x : Except Cause TupleSet) (m : Tuple → Bool) : Prop :=
  ∃ r, x = .ok r ∧ r.Shaped σ ∧ ∀ t, r.contains t = m t

section Calculations

variable {f : TupleSet → TupleSet → Except Cause TupleSet} {keeps : Bool → Bool → Bool}
  {σ : List Elem.Kind} {x y : Except Cause TupleSet} {m n : Tuple → Bool} {a b r : TupleSet}

theorem Combines.compatible (hf : Combines f keeps) (h : f a b = .ok r) : a.Compatible b := by
  intro hclash
  obtain ⟨cause, herror⟩ := (hf.error_iff a b).2 hclash
  rw [h] at herror
  cases herror

theorem Combines.exists_ok (hf : Combines f keeps) (h : a.Compatible b) : ∃ r, f a b = .ok r := by
  cases hab : f a b with
  | ok r => exact ⟨r, rfl⟩
  | error cause => exact absurd ((hf.error_iff a b).1 ⟨cause, hab⟩) h

theorem Combines.error_eq_iff (hf : Combines f keeps) {cause : Cause} :
    f a b = .error cause ↔ conflict? a b = some cause := by
  refine ⟨hf.conflict, fun h => ?_⟩
  cases hab : f a b with
  | ok r =>
    rw [conflict?_eq_none_iff.2 (hf.compatible hab)] at h
    cases h
  | error other =>
    rw [hf.conflict hab] at h
    cases h
    rfl

theorem yields_ok (h : a.Shaped σ) : Yields σ (.ok a) a.contains := ⟨a, rfl, h, fun _ => rfl⟩

theorem Combines.yields (hf : Combines f keeps) (hnone : keeps false false = false)
    (hx : Yields σ x m) (hy : Yields σ y n) :
    Yields σ (both f x y) fun t => keeps (m t) (n t) := by
  obtain ⟨a, rfl, ha, hm⟩ := hx
  obtain ⟨b, rfl, hb, hn⟩ := hy
  obtain ⟨r, hr⟩ := hf.exists_ok (ha.compatible hb)
  refine ⟨r, hr, fun t ht => ?_, fun t => ?_⟩
  · -- what is in neither operand is not in the result
    rw [← contains_iff, hf.contains hr t] at ht
    by_cases hta : t ∈ a
    · exact ha t hta
    by_cases htb : t ∈ b
    · exact hb t htb
    · rw [← contains_iff, Bool.not_eq_true] at hta htb
      rw [hta, htb, hnone] at ht
      cases ht
  · rw [hf.contains hr, hm, hn]

theorem Yields.same (hx : Yields σ x m) (hy : Yields σ y n) (h : ∀ t, m t = n t) :
    SameResult x y := by
  obtain ⟨r, rfl, -, hm⟩ := hx
  obtain ⟨s, rfl, -, hn⟩ := hy
  exact ⟨r, s, rfl, rfl, same_iff_contains.2 fun t => by rw [hm, hn, h]⟩

end Calculations

/-! ## Laws -/

/-- The laws for sets that go together. -/
structure Laws (a b c : TupleSet) : Prop where
  union_comm : SameResult (union a b) (union b a)
  inter_comm : SameResult (inter a b) (inter b a)
  symDiff_comm : SameResult (symDiff a b) (symDiff b a)
  union_assoc : SameResult (both union (union a b) (.ok c)) (both union (.ok a) (union b c))
  inter_assoc : SameResult (both inter (inter a b) (.ok c)) (both inter (.ok a) (inter b c))
  symDiff_assoc :
    SameResult (both symDiff (symDiff a b) (.ok c)) (both symDiff (.ok a) (symDiff b c))
  inter_union :
    SameResult (both inter (.ok a) (union b c)) (both union (inter a b) (inter a c))
  /-- What `a` has in common with `b` and what it does not are disjoint parts of it. -/
  disjoint : SameResult (both inter (inter a b) (without a b)) (.ok empty)
  partition : SameResult (both union (inter a b) (without a b)) (.ok a)
  symDiff_eq : SameResult (symDiff a b) (both union (without a b) (without b a))

/-- Each law is one of the Boolean operations that decide on members. -/
theorem laws {a b c : TupleSet} (hab : a.Compatible b) (hac : a.Compatible c)
    (hbc : b.Compatible c) : Laws a b c := by
  obtain ⟨σ, ha, hb, hc⟩ := exists_shaped hab hac hbc
  replace ha := yields_ok ha
  replace hb := yields_ok hb
  replace hc := yields_ok hc
  have hempty : Yields σ (.ok empty) fun _ => false :=
    ⟨empty, rfl, fun t ht => absurd ht List.not_mem_nil, fun _ => rfl⟩
  have union {x y m n} := @Combines.yields _ _ σ x y m n union_combines rfl
  have inter {x y m n} := @Combines.yields _ _ σ x y m n inter_combines rfl
  have without {x y m n} := @Combines.yields _ _ σ x y m n without_combines rfl
  have symDiff {x y m n} := @Combines.yields _ _ σ x y m n symDiff_combines rfl
  constructor
  case union_comm => exact (union ha hb).same (union hb ha) fun _ => Bool.or_comm _ _
  case inter_comm => exact (inter ha hb).same (inter hb ha) fun _ => Bool.and_comm _ _
  case symDiff_comm => exact (symDiff ha hb).same (symDiff hb ha) fun _ => Bool.xor_comm _ _
  case union_assoc =>
    exact (union (union ha hb) hc).same (union ha (union hb hc)) fun _ => Bool.or_assoc _ _ _
  case inter_assoc =>
    exact (inter (inter ha hb) hc).same (inter ha (inter hb hc)) fun _ => Bool.and_assoc _ _ _
  case symDiff_assoc =>
    exact (symDiff (symDiff ha hb) hc).same (symDiff ha (symDiff hb hc))
      fun _ => Bool.xor_assoc _ _ _
  case inter_union =>
    exact (inter ha (union hb hc)).same (union (inter ha hb) (inter ha hc))
      fun _ => Bool.and_or_distrib_left _ _ _
  case disjoint =>
    refine (inter (inter ha hb) (without ha hb)).same hempty fun t => ?_
    cases a.contains t <;> cases b.contains t <;> rfl
  case partition =>
    refine (union (inter ha hb) (without ha hb)).same ha fun t => ?_
    cases a.contains t <;> cases b.contains t <;> rfl
  case symDiff_eq =>
    refine (symDiff ha hb).same (union (without ha hb) (without hb ha)) fun t => ?_
    cases a.contains t <;> cases b.contains t <;> rfl

section Union

variable {a b c u r s : TupleSet}

/-- A set goes with a union exactly if it goes with both sets. -/
theorem compatible_union (h : union a b = .ok u) :
    u.Compatible c ↔ a.Compatible c ∧ b.Compatible c := by
  have hmem (t : Tuple) : t ∈ u ↔ t ∈ a ∨ t ∈ b := by
    rw [← contains_iff, union_combines.contains h, Bool.or_eq_true, contains_iff, contains_iff]
  simp only [compatible_iff, hmem]
  exact ⟨fun hu => ⟨fun t ht => hu t (.inl ht), fun t ht => hu t (.inr ht)⟩,
    fun hu t ht => ht.elim (hu.1 t) (hu.2 t)⟩

theorem compatible_comm : a.Compatible b ↔ b.Compatible a := by
  simp only [compatible_iff]
  exact ⟨fun h s hs t ht => (h t ht s hs).symm, fun h s hs t ht => (h t ht s hs).symm⟩

theorem union_left_ok_iff : (∃ r, both union (union a b) (.ok c) = .ok r) ↔
    a.Compatible b ∧ a.Compatible c ∧ b.Compatible c := by
  constructor
  · rintro ⟨r, h⟩
    cases hu : union a b with
    | error cause =>
      rw [hu] at h
      cases h
    | ok u =>
      rw [hu] at h
      exact ⟨union_combines.compatible hu, (compatible_union hu).1 (union_combines.compatible h)⟩
  · rintro ⟨hab, hcs⟩
    obtain ⟨u, hu⟩ := union_combines.exists_ok hab
    obtain ⟨r, hr⟩ := union_combines.exists_ok ((compatible_union hu).2 hcs)
    exact ⟨r, by rw [hu]; exact hr⟩

theorem union_right_ok_iff : (∃ r, both union (.ok a) (union b c) = .ok r) ↔
    a.Compatible b ∧ a.Compatible c ∧ b.Compatible c := by
  constructor
  · rintro ⟨r, h⟩
    cases hu : union b c with
    | error cause =>
      rw [hu] at h
      cases h
    | ok u =>
      rw [hu] at h
      have hau := compatible_comm.1 (union_combines.compatible h)
      obtain ⟨hba, hca⟩ := (compatible_union hu).1 hau
      exact ⟨compatible_comm.1 hba, compatible_comm.1 hca, union_combines.compatible hu⟩
  · rintro ⟨hab, hac, hbc⟩
    obtain ⟨u, hu⟩ := union_combines.exists_ok hbc
    have hua := (compatible_union hu).2 ⟨compatible_comm.1 hab, compatible_comm.1 hac⟩
    obtain ⟨r, hr⟩ := union_combines.exists_ok (compatible_comm.1 hua)
    exact ⟨r, by rw [hu]; exact hr⟩

theorem both_eq_ok {f : TupleSet → TupleSet → Except Cause TupleSet}
    {x y : Except Cause TupleSet} (h : both f x y = .ok r) :
    ∃ a b, x = .ok a ∧ y = .ok b ∧ f a b = .ok r := by
  cases x with
  | error cause => cases h
  | ok a =>
    cases y with
    | error cause => cases h
    | ok b => exact ⟨a, b, rfl, rfl, h⟩

/-- Both ways list the members of `a`, then those that `b` adds, then those that `c` adds. -/
theorem union_assoc_eq (hl : both union (union a b) (.ok c) = .ok r)
    (hr : both union (.ok a) (union b c) = .ok s) : r = s := by
  obtain ⟨ab, _, hab, ⟨⟩, hl⟩ := both_eq_ok hl
  obtain ⟨_, bc, ⟨⟩, hbc, hr⟩ := both_eq_ok hr
  apply eq_of_tuples
  rw [union_combines.tuples hl, union_combines.tuples hr, keptTuples, keptTuples,
    union_combines.tuples hab, union_combines.tuples hbc, keptTuples, keptTuples]
  simp only [union_combines.contains hab, Bool.true_or, Bool.false_or, Bool.and_true, Bool.true_and,
    Bool.not_or, List.filter_true, List.filter_append, List.filter_filter, List.append_assoc]

theorem exists_error_iff {x : Except Cause TupleSet} :
    (∃ cause, x = .error cause) ↔ ¬ ∃ r, x = .ok r := by
  cases x <;> simp

end Union

/-- Each operation keeps members by a Boolean operation, in the order of the operands. Sets that go
together obey the laws of sets, and any three sets can be united one way exactly if they can be
united the other way. -/
theorem algebra :
    (Combines union (· || ·) ∧ Combines inter (· && ·) ∧ Combines without (fun x y => x && ! y) ∧
      Combines symDiff (· ^^ ·)) ∧
    (∀ a b c : TupleSet, a.Compatible b → a.Compatible c → b.Compatible c → Laws a b c) ∧
    ∀ a b c : TupleSet,
      ((∃ cause, both union (union a b) (.ok c) = .error cause) ↔
        ∃ cause, both union (.ok a) (union b c) = .error cause) ∧
      ∀ r s, both union (union a b) (.ok c) = .ok r → both union (.ok a) (union b c) = .ok s →
        r = s := by
  refine ⟨⟨union_combines, inter_combines, without_combines, symDiff_combines⟩,
    fun a b c => laws, fun a b c => ⟨?_, fun r s => union_assoc_eq⟩⟩
  rw [exists_error_iff, exists_error_iff, union_left_ok_iff, union_right_ok_iff]

/-- Three sets of numbers that overlap in part. -/
theorem algebra_numbers :
    (count 2).Compatible (count 3) ∧ (count 2).Compatible ((count 4).filter (· ≠ [.number 2])) ∧
      (count 3).Compatible ((count 4).filter (· ≠ [.number 2])) ∧
      Laws (count 2) (count 3) ((count 4).filter (· ≠ [.number 2])) := by
  have hab : (count 2).Compatible (count 3) := by decide +kernel
  have hac : (count 2).Compatible ((count 4).filter (· ≠ [.number 2])) := by decide +kernel
  have hbc : (count 3).Compatible ((count 4).filter (· ≠ [.number 2])) := by decide +kernel
  exact ⟨hab, hac, hbc, algebra.2.1 _ _ _ hab hac hbc⟩

end ModelLang.TupleSet
