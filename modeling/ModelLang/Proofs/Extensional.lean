import Mathlib.Data.List.Perm.Basic
import ModelLang.Proofs.Choices
import ModelLang.Proofs.Products
import ModelLang.Value

/-!
# ModelLang.Proofs.Extensional

Comparisons of sets are about members only: they are those of the finite sets of their members
(`Comparison.onValues_sets`), inclusion is a partial order and `==` its equality. No operation tells
sets that are equal apart, whatever the order in which their members were inserted
(`TupleSet.extensional`). The operations look at the first member of a set, but only at its shape,
which all members have.
-/

namespace ModelLang

namespace Comparison

/-- What the comparison says of the members. -/
def OnMembers (op : Comparison) (a b : Finset Tuple) : Prop :=
  match op with
  | eq => a = b
  | ne => a ≠ b
  | le => a ⊆ b
  | lt => a ⊆ b ∧ a ≠ b
  | ge => b ⊆ a
  | gt => b ⊆ a ∧ b ≠ a

/-- The comparison of two sets yields true. -/
def Holds (op : Comparison) (a b : TupleSet) : Prop :=
  op.onValues (.set a) (.set b) = .ok true

variable {a b c : TupleSet}

theorem holds_iff_onSets {op : Comparison} : op.Holds a b ↔ op.onSets a b = true := by
  simp [Holds, onValues]

instance (op : Comparison) (a b : TupleSet) : Decidable (op.Holds a b) :=
  decidable_of_iff _ holds_iff_onSets.symm

theorem holds_eq : eq.Holds a b ↔ a.same b = true := holds_iff_onSets

theorem subset_iff_members : a.subset b = true ↔ a.members ⊆ b.members := by
  simp [TupleSet.subset_iff, Finset.subset_iff, TupleSet.mem_members]

/-- A part of a set that has fewer members is not the whole set. -/
theorem subset_and_size_lt_iff :
    (a.subset b && decide (a.size < b.size)) = true ↔
      a.members ⊆ b.members ∧ a.members ≠ b.members := by
  rw [Bool.and_eq_true, subset_iff_members, decide_eq_true_iff, ← TupleSet.card_members,
    ← TupleSet.card_members]
  refine and_congr_right fun hsub => ?_
  constructor
  · intro hlt heq
    rw [heq] at hlt
    exact Nat.lt_irrefl _ hlt
  · intro hne
    exact Finset.card_lt_card (hsub.ssubset_of_ne hne)

theorem onSets_iff (op : Comparison) (a b : TupleSet) :
    op.onSets a b = true ↔ op.OnMembers a.members b.members := by
  cases op with
  | eq => exact TupleSet.same_iff_members
  | ne => simp [onSets, OnMembers, ← TupleSet.same_iff_members]
  | le => exact subset_iff_members
  | lt => exact subset_and_size_lt_iff
  | ge => exact subset_iff_members
  | gt => exact subset_and_size_lt_iff

/-- A comparison of sets always has an answer. -/
theorem onValues_sets (op : Comparison) (a b : TupleSet) :
    ∃ r, op.onValues (.set a) (.set b) = .ok r ∧
      (r = true ↔ op.OnMembers a.members b.members) :=
  ⟨op.onSets a b, rfl, onSets_iff op a b⟩

theorem holds_iff {op : Comparison} : op.Holds a b ↔ op.OnMembers a.members b.members := by
  rw [holds_iff_onSets, onSets_iff]

theorem holds_le_refl (a : TupleSet) : le.Holds a a := by
  rw [holds_iff]
  exact Finset.Subset.refl _

theorem holds_le_trans (hab : le.Holds a b) (hbc : le.Holds b c) : le.Holds a c := by
  rw [holds_iff] at hab hbc ⊢
  exact Finset.Subset.trans hab hbc

theorem holds_eq_iff_le : eq.Holds a b ↔ le.Holds a b ∧ le.Holds b a := by
  simp only [holds_iff]
  exact Finset.Subset.antisymm_iff

end Comparison

/-! ## Equal operands -/

/-- Both calculations fail, for the same cause, or both come to something, related by `R`. -/
def Agree {α : Type} (R : α → α → Prop) (x y : Except Cause α) : Prop :=
  match x, y with
  | .ok r, .ok s => R r s
  | .error c, .error d => c = d
  | _, _ => False

theorem agree_of_error_iff {α : Type} {R : α → α → Prop} {x y : Except Cause α}
    (herror : ∀ cause, x = .error cause ↔ y = .error cause)
    (hok : ∀ r s, x = .ok r → y = .ok s → R r s) : Agree R x y := by
  cases x with
  | error cause =>
    rw [(herror cause).1 rfl]
    rfl
  | ok r =>
    cases y with
    | error cause => cases (herror cause).2 rfl
    | ok s => exact hok r s rfl rfl

namespace TupleSet

/-- The same sets up to the order in which they stand and to `==`. -/
def SameSets (xs ys : List TupleSet) : Prop :=
  ∃ zs, xs.Forall₂ Comparison.eq.Holds zs ∧ zs.Perm ys

section Equal

variable {a a' b b' : TupleSet}

theorem mem_congr (h : Comparison.eq.Holds a a') (t : Tuple) : t ∈ a ↔ t ∈ a' :=
  same_iff.1 (Comparison.holds_eq.1 h) t

theorem contains_congr (h : Comparison.eq.Holds a a') (t : Tuple) :
    a.contains t = a'.contains t :=
  same_iff_contains.1 (Comparison.holds_eq.1 h) t

theorem holds_of_mem (h : ∀ t, t ∈ a ↔ t ∈ a') : Comparison.eq.Holds a a' :=
  Comparison.holds_eq.2 (same_iff.2 h)

theorem members_congr (h : Comparison.eq.Holds a a') : a.members = a'.members :=
  Comparison.holds_iff.1 h

theorem size_congr (h : Comparison.eq.Holds a a') : a.size = a'.size := by
  rw [← card_members, ← card_members, members_congr h]

theorem isEmpty_congr (h : Comparison.eq.Holds a a') : a.isEmpty = a'.isEmpty := by
  have hsize := size_congr h
  rw [size, size] at hsize
  rw [isEmpty, isEmpty, Bool.eq_iff_iff, List.isEmpty_iff_length_eq_zero,
    List.isEmpty_iff_length_eq_zero, hsize]

/-- The first members may differ, but not in their lengths. -/
theorem arity_congr (h : Comparison.eq.Holds a a') : a.arity = a'.arity := by
  have hlength : ∀ t ∈ a, t.length = a'.arity := fun t ht => length_of_mem ((mem_congr h t).1 ht)
  rw [arity_eq hlength]
  split
  · rename_i he
    rw [isEmpty_congr h] at he
    rw [arity_of_isEmpty he]
  · rfl

theorem conflict?_congr (ha : Comparison.eq.Holds a a') (hb : Comparison.eq.Holds b b') :
    conflict? a b = conflict? a' b' := by
  ext cause
  simp only [conflict?_eq_some_iff, mem_congr ha, mem_congr hb]

theorem Combines.agree {f : TupleSet → TupleSet → Except Cause TupleSet}
    {keeps : Bool → Bool → Bool} (hf : Combines f keeps) (ha : Comparison.eq.Holds a a')
    (hb : Comparison.eq.Holds b b') : Agree Comparison.eq.Holds (f a b) (f a' b') := by
  refine agree_of_error_iff (fun cause => ?_) fun r r' hr hr' => ?_
  · rw [hf.error_eq_iff, hf.error_eq_iff, conflict?_congr ha hb]
  · have hcontains (t : Tuple) : r.contains t = r'.contains t := by
      rw [hf.contains hr, hf.contains hr', contains_congr ha, contains_congr hb]
    exact Comparison.holds_eq.2 (same_iff_contains.2 hcontains)

theorem cross_congr (ha : Comparison.eq.Holds a a') (hb : Comparison.eq.Holds b b') :
    Comparison.eq.Holds (a.cross b) (a'.cross b') := by
  refine holds_of_mem fun t => ?_
  simp only [mem_cross, mem_congr ha, mem_congr hb]

theorem proj_agree (ha : Comparison.eq.Holds a a') (positions : List Nat) :
    Agree Comparison.eq.Holds (a.proj positions) (a'.proj positions) := by
  unfold proj
  rw [isEmpty_congr ha, arity_congr ha]
  split
  · rfl
  · refine holds_of_mem fun t => ?_
    simp only [← mem_tuples, ofUniform, mem_firsts, List.mem_map]
    simp only [mem_tuples, mem_congr ha]

/-! ## Lists of sets -/

section Listed

variable {xs ys : List TupleSet}

/-- Lists of different sets are the same if they have the same sets of members. -/
theorem sameSets_of_members (hxs : (xs.map members).Nodup) (hys : (ys.map members).Nodup)
    (h : ∀ F, F ∈ xs.map members ↔ F ∈ ys.map members) : SameSets xs ys := by
  have hperm : (xs.map members).Perm (ys.map members) :=
    (List.perm_ext_iff_of_nodup hxs hys).2 h
  have hself : (ys.map members).Forall₂ (fun F y => F = y.members) ys :=
    List.forall₂_map_left_iff.2 (List.forall₂_same.2 fun _ _ => rfl)
  obtain ⟨zs, hzs, hys⟩ := List.perm_comp_forall₂ hperm hself
  rw [List.forall₂_map_left_iff] at hzs
  exact ⟨zs, hzs.imp fun _ _ => Comparison.holds_iff.2, hys⟩

end Listed

theorem powerset_agree (ha : Comparison.eq.Holds a a') :
    Agree SameSets a.powerset a'.powerset := by
  refine agree_of_error_iff (fun cause => ?_) fun xs ys hxs hys => ?_
  · rw [powerset_error_iff, powerset_error_iff, size_congr ha]
  · refine sameSets_of_members (powerset_members hxs).1 (powerset_members hys).1 fun F => ?_
    rw [(powerset_members hxs).2, (powerset_members hys).2, members_congr ha]

theorem subsets_agree (ha : Comparison.eq.Holds a a') (least most : Nat) :
    Agree SameSets (a.subsets least most) (a'.subsets least most) := by
  refine agree_of_error_iff (fun cause => ?_) fun xs ys hxs hys => ?_
  · rw [subsets_error_iff, subsets_error_iff, size_congr ha]
  · refine sameSets_of_members (subsets_members hxs).1 (subsets_members hys).1 fun F => ?_
    rw [(subsets_members hxs).2, (subsets_members hys).2, members_congr ha]

end Equal

/-- No operation tells `a` and `a'`, or `b` and `b'`, apart. -/
structure Alike (a a' b b' : TupleSet) : Prop where
  union : Agree Comparison.eq.Holds (a.union b) (a'.union b')
  inter : Agree Comparison.eq.Holds (a.inter b) (a'.inter b')
  without : Agree Comparison.eq.Holds (a.without b) (a'.without b')
  symDiff : Agree Comparison.eq.Holds (a.symDiff b) (a'.symDiff b')
  cross : Comparison.eq.Holds (a.cross b) (a'.cross b')
  proj (positions : List Nat) :
    Agree Comparison.eq.Holds (a.proj positions) (a'.proj positions)
  powerset : Agree SameSets a.powerset a'.powerset
  subsets (least most : Nat) : Agree SameSets (a.subsets least most) (a'.subsets least most)

theorem alike {a a' b b' : TupleSet} (ha : Comparison.eq.Holds a a')
    (hb : Comparison.eq.Holds b b') : Alike a a' b b' where
  union := union_combines.agree ha hb
  inter := inter_combines.agree ha hb
  without := without_combines.agree ha hb
  symDiff := symDiff_combines.agree ha hb
  cross := cross_congr ha hb
  proj := proj_agree ha
  powerset := powerset_agree ha
  subsets := subsets_agree ha

/-- Comparisons of sets are those of their members; `<=` is a partial order whose equality is `==`,
and operations on equal sets have equal results. -/
theorem extensional :
    (∀ (op : Comparison) (a b : TupleSet), ∃ r, op.onValues (.set a) (.set b) = .ok r ∧
      (r = true ↔ op.OnMembers a.members b.members)) ∧
    (∀ a : TupleSet, Comparison.le.Holds a a) ∧
    (∀ a b c : TupleSet, Comparison.le.Holds a b → Comparison.le.Holds b c →
      Comparison.le.Holds a c) ∧
    (∀ a b : TupleSet, Comparison.eq.Holds a b ↔
      Comparison.le.Holds a b ∧ Comparison.le.Holds b a) ∧
    ∀ a a' b b' : TupleSet, Comparison.eq.Holds a a' → Comparison.eq.Holds b b' →
      Alike a a' b b' :=
  ⟨Comparison.onValues_sets, Comparison.holds_le_refl, fun _ _ _ => Comparison.holds_le_trans,
    fun _ _ => Comparison.holds_eq_iff_le, fun _ _ _ _ => alike⟩

/-- The numbers two and one, in this order. -/
def twoOne : TupleSet := ofUniform [[.number 2], [.number 1]] (by simp [Tuple.shape, Elem.kind])

/-- Two orders of the same numbers. -/
theorem extensional_numbers :
    (Comparison.le.Holds (count 1) (count 2) ∧ Comparison.le.Holds (count 2) twoOne ∧
      Comparison.le.Holds (count 1) twoOne) ∧
    Comparison.eq.Holds (count 2) twoOne ∧ Comparison.eq.Holds (count 3) (count 3) ∧
      Alike (count 2) twoOne (count 3) (count 3) := by
  have hle : Comparison.le.Holds (count 1) (count 2) := by decide +kernel
  have hle' : Comparison.le.Holds (count 2) twoOne := by decide +kernel
  have ha : Comparison.eq.Holds (count 2) twoOne := by decide +kernel
  have hb : Comparison.eq.Holds (count 3) (count 3) := by decide +kernel
  exact ⟨⟨hle, hle', extensional.2.2.1 _ _ _ hle hle'⟩, ha, hb,
    extensional.2.2.2.2 _ _ _ _ ha hb⟩

end TupleSet

end ModelLang
