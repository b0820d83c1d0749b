import Mathlib.Data.Finset.Powerset
import Mathlib.Data.List.Sublists
import ModelLang.Proofs.SetAlgebra
import ModelLang.Proofs.Successor

/-!
# ModelLang.Proofs.Choices

The subsets that are listed are all there are, each of them once. Choices of any size are the
sublists in some order (`chooseAny_eq`), combinations those of one length (`mem_map_part`), and a
sublist of distinct elements is known by its elements (`eq_of_sublist`), so that the parts of a set
are its subsets (`TupleSet.powerset_members`, `TupleSet.subsets_members`).
-/

namespace ModelLang

section Lists

variable {α : Type}

theorem chooseAny_eq (as : List α) : chooseAny as = as.sublists := by
  induction as with
  | nil => rfl
  | cons a rest ih =>
    rw [chooseAny, ih, List.sublists_cons]
    rfl

variable [DecidableEq α] {as picked other : List α}

theorem eq_filter_of_sublist (h : as.Nodup) (hp : picked.Sublist as) :
    picked = as.filter (· ∈ picked) := by
  have hsub : picked.Sublist (as.filter (· ∈ picked)) := by
    have hall : picked.filter (· ∈ picked) = picked := by simp
    have hfilter := hp.filter (· ∈ picked)
    rwa [hall] at hfilter
  have hperm : picked.Perm (as.filter (· ∈ picked)) := by
    refine (List.perm_ext_iff_of_nodup (hp.nodup h) (h.filter _)).2 fun a => ?_
    have hin : a ∈ picked → a ∈ as := fun ha => hp.subset ha
    simpa using hin
  exact hsub.eq_of_length hperm.length_eq

/-- Of distinct elements, a choice is known by what it has. -/
theorem eq_of_sublist (h : as.Nodup) (hp : picked.Sublist as) (ho : other.Sublist as)
    (hmem : ∀ a, a ∈ picked ↔ a ∈ other) : picked = other := by
  rw [eq_filter_of_sublist h hp, eq_filter_of_sublist h ho]
  simp only [hmem]

end Lists

namespace TupleSet

/-- The members without their order. -/
def members (s : TupleSet) : Finset Tuple := s.tuples.toFinset

variable {a b s : TupleSet} {sets : List TupleSet}

theorem mem_members {t : Tuple} : t ∈ s.members ↔ t ∈ s := List.mem_toFinset

theorem card_members (s : TupleSet) : s.members.card = s.size :=
  List.toFinset_card_of_nodup s.nodup

theorem same_iff_members : a.same b = true ↔ a.members = b.members := by
  simp [same_iff, Finset.ext_iff, mem_members]

/-- Sets of different choices of members have different members. -/
theorem members_of_sublists (hsub : ∀ p ∈ sets, p.tuples.Sublist s.tuples)
    (hnodup : (sets.map tuples).Nodup) :
    (sets.map members).Nodup ∧
      ∀ F, F ∈ sets.map members ↔ ∃ picked ∈ sets.map tuples, picked.toFinset = F := by
  have hmap : sets.map members = (sets.map tuples).map List.toFinset := by
    rw [List.map_map]
    rfl
  rw [hmap]
  refine ⟨hnodup.map_on ?_, fun F => List.mem_map⟩
  simp only [List.mem_map]
  rintro _ ⟨p, hp, rfl⟩ _ ⟨q, hq, rfl⟩ hpq
  refine eq_of_sublist s.nodup (hsub p hp) (hsub q hq) fun t => ?_
  rw [← List.mem_toFinset, hpq, List.mem_toFinset]

theorem exists_sublist_iff {F : Finset Tuple} :
    (∃ picked : List Tuple, picked.Sublist s.tuples ∧ picked.toFinset = F) ↔ F ⊆ s.members := by
  constructor
  · rintro ⟨picked, hsub, rfl⟩ t ht
    exact mem_members.2 (hsub.subset (List.mem_toFinset.1 ht))
  · intro hF
    refine ⟨s.tuples.filter (· ∈ F), List.filter_sublist, ?_⟩
    have hin (t : Tuple) : t ∈ F → t ∈ s := fun ht => mem_members.1 (hF ht)
    ext t
    simpa using hin t

theorem powerset_error_iff {cause : Cause} : s.powerset = .error cause ↔
    maxPowersetBase < s.size ∧ .powersetTooLarge s.size = cause := by
  unfold powerset
  split
  · rename_i hlarge
    simp [hlarge]
  · rename_i hlarge
    simp [hlarge]

theorem subsets_error_iff {least most : Nat} {cause : Cause} :
    s.subsets least most = .error cause ↔
      (most < least ∨ s.size < most) ∧ .subsetSizes least most s.size = cause := by
  unfold subsets
  split
  · rename_i hrange
    simp [hrange]
  · rename_i hrange
    simp [hrange]

theorem parts_tuples {choices : List (List Tuple)}
    (h : ∀ picked ∈ choices, picked.Sublist s.tuples) :
    (s.parts choices h).map tuples = choices := by
  rw [parts, List.map_map]
  exact List.attach_map_subtype_val choices

theorem powerset_tuples (h : s.powerset = .ok sets) : sets.map tuples = s.tuples.sublists := by
  unfold powerset at h
  split at h
  · cases h
  · cases h
    rw [parts_tuples, chooseAny_eq]

theorem nodup_powerset_tuples (h : s.powerset = .ok sets) : (sets.map tuples).Nodup := by
  rw [powerset_tuples h]
  exact List.nodup_sublists.2 s.nodup

/-- All subsets are listed, each of them once. -/
theorem powerset_members (h : s.powerset = .ok sets) :
    (sets.map members).Nodup ∧ ∀ F, F ∈ sets.map members ↔ F ⊆ s.members := by
  obtain ⟨hdistinct, hmem⟩ :=
    members_of_sublists (fun _ => powerset_sublist h) (nodup_powerset_tuples h)
  refine ⟨hdistinct, fun F => (hmem F).trans ?_⟩
  simp only [powerset_tuples h, List.mem_sublists]
  exact exists_sublist_iff

/-! ## Combinations of places -/

/-- The place of a member, counted from zero. -/
def place (s : TupleSet) (t : Tuple) : Nat := s.tuples.idxOf t

theorem place_member (s : TupleSet) (i : Fin s.size) : s.place (s.member i) = i :=
  s.nodup.idxOf_getElem i.val i.isLt

theorem places_part {k : Nat} (c : Combination s.size k) :
    (s.part c).tuples.map s.place = c.picks := by
  show (c.places.map s.member).map s.place = c.picks
  rw [List.map_map, ← c.places_val]
  exact List.map_congr_left fun i _ => s.place_member i

theorem part_injective {k : Nat} {c d : Combination s.size k}
    (h : (s.part c).tuples = (s.part d).tuples) : c = d := by
  apply Combination.eq_of_picks
  rw [← places_part c, ← places_part d, h]

theorem exists_part {k : Nat} {picked : List Tuple} (hsub : picked.Sublist s.tuples)
    (hlength : picked.length = k) : ∃ c : Combination s.size k, (s.part c).tuples = picked := by
  obtain ⟨places, rfl, hasc⟩ := List.sublist_eq_map_getElem hsub
  rw [List.length_map] at hlength
  let c : Combination s.size k :=
    { picks := places.map Fin.val
      length_eq := by rw [List.length_map, hlength]
      ascending := List.pairwise_map.2 hasc
      below := by
        intro p hp
        obtain ⟨i, _, rfl⟩ := List.mem_map.1 hp
        exact i.isLt }
  have hplaces : c.places = places :=
    List.map_injective_iff.2 Fin.val_injective c.places_val
  refine ⟨c, ?_⟩
  show c.places.map s.member = _
  rw [hplaces]
  rfl

theorem part_length {k : Nat} (c : Combination s.size k) : (s.part c).tuples.length = k := by
  rw [← List.length_map (f := s.place), places_part, c.length_eq]

theorem mem_map_part {k : Nat} {picked : List Tuple} :
    picked ∈ ((Combination.all s.size k).map s.part).map tuples ↔
      picked.Sublist s.tuples ∧ picked.length = k := by
  rw [List.map_map, List.mem_map]
  constructor
  · rintro ⟨c, _, rfl⟩
    exact ⟨List.map_getElem_sublist c.places_ascending, part_length c⟩
  · rintro ⟨hsub, hlength⟩
    obtain ⟨c, rfl⟩ := exists_part hsub hlength
    exact ⟨c, Combination.mem_all c, rfl⟩

theorem nodup_map_part (s : TupleSet) (k : Nat) :
    (((Combination.all s.size k).map s.part).map tuples).Nodup := by
  rw [List.map_map]
  exact (Combination.nodup_all s.size k).map fun _ _ => part_injective

section Subsets

variable {least most : Nat} (h : s.subsets least most = .ok sets)

include h

theorem subsets_tuples :
    sets.map tuples = (List.range' least (most + 1 - least)).flatMap fun k =>
      ((Combination.all s.size k).map s.part).map tuples := by
  rw [subsets_eq_ok h, List.map_flatMap]

theorem mem_subsets_tuples {picked : List Tuple} :
    picked ∈ sets.map tuples ↔
      picked.Sublist s.tuples ∧ least ≤ picked.length ∧ picked.length ≤ most := by
  simp only [subsets_tuples h, List.mem_flatMap, mem_map_part, List.mem_range'_1]
  constructor
  · rintro ⟨k, hk, hp, rfl⟩
    exact ⟨hp, hk.1, by omega⟩
  · rintro ⟨hp, hleast, hmost⟩
    exact ⟨picked.length, by omega, hp, rfl⟩

theorem nodup_subsets_tuples : (sets.map tuples).Nodup := by
  rw [subsets_tuples h, List.nodup_flatMap]
  refine ⟨fun k _ => nodup_map_part s k, ?_⟩
  -- lists for two sizes share no choice, since a choice has one length
  refine (List.nodup_iff_pairwise_ne.1 List.nodup_range').imp ?_
  intro k l hne picked hk hl
  exact hne ((mem_map_part.1 hk).2.symm.trans (mem_map_part.1 hl).2)

/-- The subsets with a number of members within the bounds are listed, each of them once. -/
theorem subsets_members :
    (sets.map members).Nodup ∧
      ∀ F, F ∈ sets.map members ↔ F ⊆ s.members ∧ least ≤ F.card ∧ F.card ≤ most := by
  have hcard {picked : List Tuple} (hp : picked.Sublist s.tuples) :
      picked.toFinset.card = picked.length :=
    List.toFinset_card_of_nodup (hp.nodup s.nodup)
  obtain ⟨hdistinct, hmem⟩ :=
    members_of_sublists (fun _ => subsets_sublist h) (nodup_subsets_tuples h)
  refine ⟨hdistinct, fun F => (hmem F).trans ?_⟩
  simp only [mem_subsets_tuples h]
  rw [← exists_sublist_iff]
  constructor
  · rintro ⟨picked, ⟨hp, hleast, hmost⟩, rfl⟩
    rw [hcard hp]
    exact ⟨⟨picked, hp, rfl⟩, hleast, hmost⟩
  · rintro ⟨⟨picked, hp, rfl⟩, hleast, hmost⟩
    rw [hcard hp] at hleast hmost
    exact ⟨picked, ⟨hp, hleast, hmost⟩, rfl⟩

end Subsets

end TupleSet

end ModelLang
