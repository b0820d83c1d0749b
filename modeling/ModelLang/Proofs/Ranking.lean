import Mathlib.Algebra.Order.Field.Rat
import Mathlib.Data.List.FinRange
import Mathlib.Order.WithBot
import ModelLang.Eval.Expr

/-!
# ModelLang.Proofs.Ranking

The best of a list of scored tuples. Sorting rearranges places: one comes before another if its
entry is better, or if both are as good and it is the earlier one (`exists_places`). The best tuples
are those at the first places of this ranking (`bestTuples_selects`), and the very first is the
first one with the best score (`Selects.find?_best`).
-/

namespace ModelLang

/-! ## The order of numbers -/

namespace Number

variable {a b c : Number} {greatest : Bool}

/-- A number among the fractions with a least and a greatest element. -/
def rank : Number → WithBot (WithTop Rat)
  | minusInfinity => ⊥
  | finite q => ((q : WithTop Rat) : WithBot (WithTop Rat))
  | plusInfinity => ((⊤ : WithTop Rat) : WithBot (WithTop Rat))

theorem lt_iff_rank : a < b ↔ a.rank < b.rank := by
  rw [lt_iff_below]
  cases a <;> cases b <;> simp [below, rank, -WithBot.coe_top, WithBot.coe_lt_coe]

theorem le_iff_rank : a ≤ b ↔ a.rank ≤ b.rank := by
  rw [← not_lt, ← lt_iff_rank, lt_iff_below, Bool.not_eq_true]
  exact le_iff_below

theorem le_of_lt (h : a < b) : a ≤ b := le_iff_rank.2 (lt_iff_rank.1 h).le

theorem le_of_not_lt (h : ¬ a < b) : b ≤ a := by
  rw [lt_iff_rank, not_lt] at h
  exact le_iff_rank.2 h

theorem rank_injective : Function.Injective rank := by
  intro a b h
  cases a <;> cases b <;> simp_all [rank]

/-- `a` is as good as `b` or better, where the greatest or the least numbers are the best. -/
def AsGood (greatest : Bool) (a b : Number) : Prop :=
  if greatest then b ≤ a else a ≤ b

instance (a b : Number) : Decidable (AsGood greatest a b) :=
  inferInstanceAs (Decidable (if greatest then b ≤ a else a ≤ b))

/-- `a` is better than `b`. -/
def Better (greatest : Bool) (a b : Number) : Prop :=
  if greatest then b < a else a < b

theorem asGood_least : AsGood false a b ↔ a.rank ≤ b.rank := le_iff_rank

theorem asGood_greatest : AsGood true a b ↔ b.rank ≤ a.rank := le_iff_rank

theorem not_better : ¬ Better greatest b a ↔ AsGood greatest a b := by
  cases greatest with
  | false => rw [asGood_least, ← not_lt, ← lt_iff_rank]; rfl
  | true => rw [asGood_greatest, ← not_lt, ← lt_iff_rank]; rfl

namespace AsGood

theorem refl (a : Number) : AsGood greatest a a := by
  cases greatest with
  | false => exact asGood_least.2 (le_refl _)
  | true => exact asGood_greatest.2 (le_refl _)

theorem total (a b : Number) : AsGood greatest a b ∨ AsGood greatest b a := by
  cases greatest with
  | false => exact (le_total a.rank b.rank).imp asGood_least.2 asGood_least.2
  | true => exact (le_total b.rank a.rank).imp asGood_greatest.2 asGood_greatest.2

theorem trans (hab : AsGood greatest a b) (hbc : AsGood greatest b c) : AsGood greatest a c := by
  cases greatest with
  | false => exact asGood_least.2 (le_trans (asGood_least.1 hab) (asGood_least.1 hbc))
  | true => exact asGood_greatest.2 (le_trans (asGood_greatest.1 hbc) (asGood_greatest.1 hab))

theorem antisymm (hab : AsGood greatest a b) (hba : AsGood greatest b a) : a = b := by
  apply rank_injective
  cases greatest with
  | false => exact le_antisymm (asGood_least.1 hab) (asGood_least.1 hba)
  | true => exact le_antisymm (asGood_greatest.1 hba) (asGood_greatest.1 hab)

end AsGood

/-- One of the numbers, and as good as each of them. -/
def IsBest (greatest : Bool) (n : Number) (ns : List Number) : Prop :=
  n ∈ ns ∧ ∀ m ∈ ns, AsGood greatest n m

namespace IsBest

variable {m n : Number} {ns ms : List Number}

theorem singleton (n : Number) : IsBest greatest n [n] := by
  refine ⟨List.mem_singleton_self n, fun m hm => ?_⟩
  rw [List.mem_singleton.1 hm]
  exact .refl n

theorem unique (hm : IsBest greatest m ns) (hn : IsBest greatest n ns) : m = n :=
  (hm.2 n hn.1).antisymm (hn.2 m hm.1)

theorem perm (h : IsBest greatest n ns) (hp : ms.Perm ns) : IsBest greatest n ms :=
  ⟨hp.mem_iff.2 h.1, fun m hm => h.2 m (hp.mem_iff.1 hm)⟩

end IsBest

end Number

/-! ## Stable sorting -/

/-- Numbered elements that are as good as one another are in the order of their numbers. -/
theorem of_zipIdxLE {α : Type} {le : α → α → Bool} {a b : α × Nat}
    (h : List.zipIdxLE le a b = true) :
    le a.1 b.1 = true ∧ (le b.1 a.1 = true → a.2 ≤ b.2) := by
  unfold List.zipIdxLE at h
  split at h
  · rename_i hle
    refine ⟨hle, fun hge => ?_⟩
    rwa [if_pos hge, decide_eq_true_eq] at h
  · cases h

/-- Sorting puts the places of a list in another order, in which of entries that are as good as one
another the earlier one comes first. -/
theorem exists_places {α : Type} (le : α → α → Bool)
    (htrans : ∀ a b c, le a b = true → le b c = true → le a c = true)
    (htotal : ∀ a b, (le a b || le b a) = true) (as : List α) :
    ∃ places : List (Fin as.length), places.Perm (List.finRange as.length) ∧
      as.mergeSort le = places.map as.get ∧
      places.Pairwise fun i j =>
        le (as.get i) (as.get j) = true ∧ (le (as.get j) (as.get i) = true → i < j) := by
  let entry (i : Fin as.length) : α × Nat := (as.get i, i.val)
  let before (i j : Fin as.length) : Bool := List.zipIdxLE le (entry i) (entry j)
  have hentries : (List.finRange as.length).map entry = as.zipIdx := by
    apply List.ext_getElem
    · simp
    · intro i _ _
      simp [entry]
  have hperm : ((List.finRange as.length).mergeSort before).Perm (List.finRange as.length) :=
    List.mergeSort_perm _ _
  refine ⟨(List.finRange as.length).mergeSort before, hperm, ?_, ?_⟩
  · have hmap : ((List.finRange as.length).mergeSort before).map entry =
        as.zipIdx.mergeSort (List.zipIdxLE le) := by
      rw [← hentries]
      exact List.map_mergeSort fun _ _ _ _ => rfl
    rw [← List.mergeSort_zipIdx, ← hmap, List.map_map]
    rfl
  · have hsorted : ((List.finRange as.length).mergeSort before).Pairwise (before · · = true) :=
      List.pairwise_mergeSort
        (fun i j k => List.zipIdxLE_trans htrans (entry i) (entry j) (entry k))
        (fun i j => List.zipIdxLE_total htotal (entry i) (entry j)) _
    have hnodup := hperm.nodup_iff.2 (List.nodup_finRange as.length)
    refine (hsorted.and hnodup).imp ?_
    rintro i j ⟨hbefore, hne⟩
    obtain ⟨hle, hplace⟩ := of_zipIdxLE hbefore
    exact ⟨hle, fun hge => lt_of_le_of_ne (hplace hge) hne⟩

/-! ## Selection -/

section Selection

variable {greatest : Bool} {k : Nat} {scored : List (Tuple × Number)}

/-- The entry at one place ranks before that at another: by its score, or if the scores are equal by
its place. -/
def Ahead (greatest : Bool) (scored : List (Tuple × Number)) (i j : Fin scored.length) : Prop :=
  Number.Better greatest (scored.get i).2 (scored.get j).2 ∨
    (scored.get i).2 = (scored.get j).2 ∧ i < j

/-- The tuples at the `k` first places, or at all places if there are fewer, in the order of their
rank; every place that is left out ranks behind them. -/
def Selects (greatest : Bool) (k : Nat) (scored : List (Tuple × Number)) (tuples : List Tuple) :
    Prop :=
  ∃ places : List (Fin scored.length), tuples = places.map (fun i => (scored.get i).1) ∧
    places.length = min k scored.length ∧ places.Pairwise (Ahead greatest scored) ∧
    ∀ i ∈ places, ∀ j, j ∉ places → Ahead greatest scored i j

theorem bestTuples_swap (greatest : Bool) (k : Nat) (scored : List (Tuple × Number)) :
    bestTuples greatest k (scored.map Prod.swap) =
      ((scored.mergeSort fun a b => decide (Number.AsGood greatest a.2 b.2)).take k).map
        Prod.fst := by
  have hsort : (scored.mergeSort fun a b => decide (Number.AsGood greatest a.2 b.2)).map Prod.swap =
      (scored.map Prod.swap).mergeSort fun a b =>
        if greatest then decide (b.1 ≤ a.1) else decide (a.1 ≤ b.1) := by
    refine List.map_mergeSort fun a _ b _ => ?_
    cases greatest <;> rfl
  rw [bestTuples, ← hsort, ← List.map_take, List.map_map]
  rfl

theorem bestTuples_selects (greatest : Bool) (k : Nat) (scored : List (Tuple × Number)) :
    Selects greatest k scored (bestTuples greatest k (scored.map Prod.swap)) := by
  obtain ⟨places, hperm, hsort, hsorted⟩ :=
    exists_places (fun a b : Tuple × Number => decide (Number.AsGood greatest a.2 b.2))
      (fun a b c hab hbc => by
        rw [decide_eq_true_eq] at hab hbc ⊢
        exact hab.trans hbc)
      (fun a b => by
        rw [Bool.or_eq_true, decide_eq_true_eq, decide_eq_true_eq]
        exact Number.AsGood.total _ _)
      scored
  have hahead : places.Pairwise (Ahead greatest scored) := by
    refine hsorted.imp ?_
    rintro i j ⟨hle, hlt⟩
    rw [decide_eq_true_eq] at hle
    rw [decide_eq_true_eq] at hlt
    by_cases hge : Number.AsGood greatest (scored.get j).2 (scored.get i).2
    · exact .inr ⟨hle.antisymm hge, hlt hge⟩
    · rw [← Number.not_better, not_not] at hge
      exact .inl hge
  have hlength : places.length = scored.length := by
    rw [hperm.length_eq, List.length_finRange]
  refine ⟨places.take k, ?_, ?_, hahead.take, fun i hi j hj => ?_⟩
  · rw [bestTuples_swap, hsort, ← List.map_take, List.map_map]
    rfl
  · rw [List.length_take, hlength]
  · have hall : j ∈ places.take k ++ places.drop k := by
      rw [List.take_append_drop]
      exact hperm.mem_iff.2 (List.mem_finRange j)
    have hdrop : j ∈ places.drop k := (List.mem_append.1 hall).resolve_left hj
    rw [← List.take_append_drop k places, List.pairwise_append] at hahead
    exact hahead.2.2 i hi j hdrop

/-- The best tuple is the first with the best score. -/
theorem Selects.find?_best {tuples : List Tuple} {n : Number}
    (h : Selects greatest 1 scored tuples)
    (hbest : Number.IsBest greatest n (scored.map Prod.snd)) :
    ∃ t, tuples = [t] ∧ scored.find? (fun e => e.2 = n) = some (t, n) := by
  obtain ⟨places, rfl, hlength, _, hout⟩ := h
  obtain ⟨hmem, hgood⟩ := hbest
  obtain ⟨e, he, rfl⟩ := List.mem_map.1 hmem
  obtain ⟨j, rfl⟩ := List.get_of_mem he
  obtain ⟨i, rfl⟩ : ∃ i, places = [i] := by
    have hpos : 1 ≤ scored.length := Nat.one_le_of_lt j.isLt
    rw [Nat.min_eq_left hpos] at hlength
    exact List.length_eq_one_iff.1 hlength
  have hother (l : Fin scored.length) (hl : l ≠ i) : Ahead greatest scored i l :=
    hout i (List.mem_singleton_self i) l (by simpa using hl)
  have hscore : (scored.get i).2 = (scored.get j).2 := by
    by_cases hj : j = i
    · rw [hj]
    · rcases hother j hj with hbetter | ⟨heq, _⟩
      · have hi := hgood _ (List.mem_map_of_mem (List.get_mem scored i))
        exact absurd hbetter (Number.not_better.2 hi)
      · exact heq
  refine ⟨(scored.get i).1, rfl, List.find?_eq_some_iff_getElem.2 ⟨by simp, i, i.isLt, ?_, ?_⟩⟩
  · rw [← hscore]
    rfl
  · intro l hl
    have hlt : l < scored.length := hl.trans i.isLt
    have hbehind := hother ⟨l, hlt⟩ (Fin.ne_of_val_ne hl.ne)
    have hne : (scored.get ⟨l, hlt⟩).2 ≠ (scored.get j).2 := by
      intro heq
      rcases hbehind with hbetter | ⟨_, hil⟩
      · rw [heq, hscore] at hbetter
        exact absurd hbetter (Number.not_better.2 (Number.AsGood.refl _))
      · exact absurd hil (not_lt.2 (Fin.le_of_lt hl))
    simpa using hne

end Selection

end ModelLang
