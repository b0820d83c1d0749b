import Mathlib.Algebra.BigOperators.Group.Finset.Basic
import Mathlib.Order.Interval.Finset.Nat
import ModelLang.Proofs.Choices

/-!
# ModelLang.Proofs.Enumeration

The subsets of given sizes, in the order in which they are listed: a subset is known by the places
of its members (`places_part`), and the subsets of one size are in the order of their places since
the combinations are (`part_sorted`).
-/

namespace ModelLang.TupleSet

/-- A list of the subsets of `s` with `least` to `most` members, each of them once. -/
structure Enumerates (s : TupleSet) (least most : Nat) (sets : List TupleSet) : Prop where
  /-- The members of a subset are in the order of the set. -/
  sublist : ∀ p ∈ sets, p.tuples.Sublist s.tuples
  /-- Inserted one after the other, they make up the subset. -/
  inserted : ∀ p ∈ sets, ofTuples p.tuples = .ok p
  once : (sets.map members).Nodup
  mem : ∀ F, F ∈ sets.map members ↔ F ⊆ s.members ∧ least ≤ F.card ∧ F.card ≤ most
  /-- Smaller subsets come first, those of one size in the lexicographic order of the places. -/
  sorted : sets.Pairwise fun p q => p.size < q.size ∨ p.size = q.size ∧
    List.Lex (· < ·) (p.tuples.map s.place) (q.tuples.map s.place)
  length : sets.length = ∑ k ∈ Finset.Icc least most, s.size.choose k
  /-- No step from a subset to the next is out of range. -/
  inRange : ∀ p ∈ sets, ∃ next?, Picks.next s.size (p.tuples.map s.place) = .ok next?

variable {s : TupleSet} {k least most : Nat} {sets : List TupleSet}

theorem part_size (c : Combination s.size k) : (s.part c).size = k := part_length c

/-- The subsets of one size are in the order of their combinations. -/
theorem part_sorted (s : TupleSet) (k : Nat) :
    ((Combination.all s.size k).map s.part).Pairwise fun p q =>
      List.Lex (· < ·) (p.tuples.map s.place) (q.tuples.map s.place) := by
  rw [List.pairwise_map]
  refine (Combination.all_sorted s.size k).imp fun hlt => ?_
  rw [places_part, places_part]
  exact hlt

theorem subsets_eq (hmin : least ≤ most) (hmax : most ≤ s.size) :
    s.subsets least most = .ok ((List.range' least (most + 1 - least)).flatMap fun k =>
      (Combination.all s.size k).map s.part) :=
  if_neg (by omega)

theorem mem_subsets_iff (h : s.subsets least most = .ok sets) {p : TupleSet} :
    p ∈ sets ↔ ∃ k, (least ≤ k ∧ k ≤ most) ∧ ∃ c : Combination s.size k, s.part c = p := by
  rw [subsets_eq_ok h, List.mem_flatMap]
  refine exists_congr fun k => and_congr ?_ ?_
  · rw [List.mem_range'_1]
    omega
  · rw [List.mem_map]
    exact exists_congr fun c => and_iff_right (Combination.mem_all c)

theorem subsets_sorted (h : s.subsets least most = .ok sets) :
    sets.Pairwise fun p q => p.size < q.size ∨ p.size = q.size ∧
      List.Lex (· < ·) (p.tuples.map s.place) (q.tuples.map s.place) := by
  have hsize {k : Nat} {p : TupleSet} (hp : p ∈ (Combination.all s.size k).map s.part) :
      p.size = k := by
    obtain ⟨c, _, rfl⟩ := List.mem_map.1 hp
    exact part_size c
  have hsizes : (List.range' least (most + 1 - least)).Pairwise (· < ·) :=
    List.pairwise_lt_range'
  rw [subsets_eq_ok h, List.pairwise_flatMap]
  constructor
  · intro k _
    refine (part_sorted s k).imp_of_mem fun hp hq hlex => ?_
    exact .inr ⟨(hsize hp).trans (hsize hq).symm, hlex⟩
  · refine hsizes.imp fun hkl p hp q hq => ?_
    rw [hsize hp, hsize hq]
    exact .inl hkl

theorem subsets_length (h : s.subsets least most = .ok sets) :
    sets.length = ∑ k ∈ Finset.Icc least most, s.size.choose k := by
  have hsizes : (List.range' least (most + 1 - least)).toFinset = Finset.Icc least most := by
    ext k
    rw [List.mem_toFinset, List.mem_range'_1, Finset.mem_Icc]
    omega
  have hlength (k : Nat) : ((Combination.all s.size k).map s.part).length = s.size.choose k := by
    rw [List.length_map, Combination.length_all]
  rw [subsets_eq_ok h]
  simp only [List.length_flatMap, hlength]
  rw [← hsizes, List.sum_toFinset _ List.nodup_range']

theorem subsets_inRange (h : s.subsets least most = .ok sets) {p : TupleSet} (hp : p ∈ sets) :
    ∃ next?, Picks.next s.size (p.tuples.map s.place) = .ok next? := by
  obtain ⟨k, _, c, rfl⟩ := (mem_subsets_iff h).1 hp
  rw [places_part]
  rcases c.next_cases with ⟨hnone, _⟩ | ⟨picks, hsome, _⟩
  · exact ⟨none, hnone⟩
  · exact ⟨some picks, hsome⟩

/-- Subsets can be listed if there are such sizes; then all of them are, in their order. -/
theorem enumerations (s : TupleSet) (least most : Nat) :
    (∀ cause, s.subsets least most = .error cause ↔
      (most < least ∨ s.size < most) ∧ .subsetSizes least most s.size = cause) ∧
    (least ≤ most → most ≤ s.size →
      ∃ sets, s.subsets least most = .ok sets ∧ Enumerates s least most sets) := by
  refine ⟨fun _ => subsets_error_iff, fun hmin hmax => ?_⟩
  have h := subsets_eq hmin hmax
  obtain ⟨honce, hmem⟩ := subsets_members h
  exact ⟨_, h,
    { sublist := fun _ => subsets_sublist h
      inserted := fun p _ => ofTuples_tuples p
      once := honce
      mem := hmem
      sorted := subsets_sorted h
      length := subsets_length h
      inRange := fun _ => subsets_inRange h }⟩

/-- All but the empty and the full subset of three members. -/
theorem enumerations_three :
    1 ≤ 2 ∧ 2 ≤ (count 3).size ∧
      ∃ sets, (count 3).subsets 1 2 = .ok sets ∧ Enumerates (count 3) 1 2 sets ∧
        sets.length = 6 := by
  obtain ⟨sets, hsets, henum⟩ := (enumerations (count 3) 1 2).2 (by decide) (by decide)
  refine ⟨by decide, by decide, sets, hsets, henum, ?_⟩
  rw [henum.length]
  decide

end ModelLang.TupleSet
