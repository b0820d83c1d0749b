import ModelLang.TupleSet.Basic

/-!
# ModelLang.TupleSet.Algebra

Unions, intersections and differences of sets of one shape, products and projections. The tuples
of the left operand come first and each operand keeps its order. The empty set goes with every
shape.
-/

namespace ModelLang.TupleSet

/-- How two sets keep each other from being combined: by their shapes, if both have members. -/
def conflict? (a b : TupleSet) : Option Cause :=
  match a.tuples, b.tuples with
  | s :: _, t :: _ => clash? s t
  | _, _ => none

theorem uniform_of_conflict?_eq_none {a b : TupleSet} (h : conflict? a b = none) :
    ∀ s ∈ a.tuples, ∀ t ∈ b.tuples, Tuple.shape s = Tuple.shape t := by
  intro s hs t ht
  unfold conflict? at h
  split at h
  · rename_i s' as t' bs ha hb
    rw [clash?_eq_none_iff] at h
    exact (a.uniform s hs s' (by simp [ha])).trans (h.trans (b.uniform t' (by simp [hb]) t ht))
  · rename_i hne
    match ha : a.tuples, hb : b.tuples with
    | [], _ => simp [ha] at hs
    | _ :: _, [] => simp [hb] at ht
    | s' :: as, t' :: bs => exact (hne s' as t' bs ha hb).elim

/-- The tuples of `a` followed by those tuples of `b` that `p` keeps, none of them in `a`. -/
def append (a b : TupleSet) (p : Tuple → Bool) (hp : ∀ t ∈ b.tuples, p t → t ∉ a.tuples)
    (h : ∀ s ∈ a.tuples, ∀ t ∈ b.tuples, Tuple.shape s = Tuple.shape t) : TupleSet where
  tuples := a.tuples ++ b.tuples.filter p
  nodup := by
    rw [List.nodup_append]
    refine ⟨a.nodup, List.filter_sublist.nodup b.nodup, ?_⟩
    intro s hs t ht hst
    rw [List.mem_filter] at ht
    exact hp t ht.1 ht.2 (hst ▸ hs)
  uniform := by
    intro s hs t ht
    rw [List.mem_append, List.mem_filter] at hs ht
    rcases hs with hs | hs <;> rcases ht with ht | ht
    · exact a.uniform s hs t ht
    · exact h s hs t ht.1
    · exact (h t ht s hs.1).symm
    · exact b.uniform s hs.1 t ht.1

/-- Combines two sets unless they conflict. -/
def combine (a b : TupleSet)
    (f : (∀ s ∈ a.tuples, ∀ t ∈ b.tuples, Tuple.shape s = Tuple.shape t) → TupleSet) :
    Except Cause TupleSet :=
  match h : conflict? a b with
  | some cause => .error cause
  | none => .ok (f (uniform_of_conflict?_eq_none h))

def union (a b : TupleSet) : Except Cause TupleSet :=
  combine a b fun h => a.append b (fun t => ! a.contains t) (by simp [contains]) h

def inter (a b : TupleSet) : Except Cause TupleSet :=
  combine a b fun _ => a.filter b.contains

def without (a b : TupleSet) : Except Cause TupleSet :=
  combine a b fun _ => a.filter fun t => ! b.contains t

def symDiff (a b : TupleSet) : Except Cause TupleSet :=
  combine a b fun h =>
    (a.filter fun t => ! b.contains t).append b (fun t => ! a.contains t)
      (by
        intro t _ hp ht
        simp only [filter, ofSublist, List.mem_filter] at ht
        simp [contains] at hp
        exact hp ht.1)
      (fun s hs t ht => h s ((List.mem_filter.1 hs).1) t ht)

theorem append_nodup_of_uniform {as bs : List Tuple} (ha : as.Nodup) (hb : bs.Nodup)
    (hu : ∀ s ∈ as, ∀ t ∈ as, s.length = t.length) :
    (as.flatMap fun a => bs.map (a ++ ·)).Nodup := by
  induction as with
  | nil => simp
  | cons a rest ih =>
    rw [List.nodup_cons] at ha
    rw [List.flatMap_cons, List.nodup_append]
    refine ⟨?_, ih ha.2 fun s hs t ht => hu s (by simp [hs]) t (by simp [ht]), ?_⟩
    · rw [List.nodup_iff_pairwise_ne, List.pairwise_map]
      exact (List.nodup_iff_pairwise_ne.1 hb).imp fun hne he => hne (List.append_cancel_left he)
    · intro x hx y hy hxy
      simp only [List.mem_map, List.mem_flatMap] at hx hy
      obtain ⟨b, _, rfl⟩ := hx
      obtain ⟨a', ha', b', _, rfl⟩ := hy
      have hl : a.length = a'.length := hu a (by simp) a' (by simp [ha'])
      exact ha.1 ((List.append_inj_left hxy hl) ▸ ha')

/-- Every tuple of `a` before every tuple of `b`; `b` runs through its members first. -/
def cross (a b : TupleSet) : TupleSet where
  tuples := a.tuples.flatMap fun s => b.tuples.map (s ++ ·)
  nodup := append_nodup_of_uniform a.nodup b.nodup fun s hs t ht =>
    Tuple.length_eq_of_shape_eq (a.uniform s hs t ht)
  uniform := by
    intro s hs t ht
    simp only [List.mem_flatMap, List.mem_map] at hs ht
    obtain ⟨s₁, hs₁, s₂, hs₂, rfl⟩ := hs
    obtain ⟨t₁, ht₁, t₂, ht₂, rfl⟩ := ht
    have h₁ := a.uniform s₁ hs₁ t₁ ht₁
    have h₂ := b.uniform s₂ hs₂ t₂ ht₂
    simp only [Tuple.shape] at h₁ h₂
    simp [Tuple.shape, h₁, h₂]

/-- The components of a tuple at the given places, counted from one. -/
def pick (positions : List Nat) (t : Tuple) : Tuple :=
  positions.filterMap fun p => t[p - 1]?

theorem shape_pick {s t : Tuple} (positions : List Nat) (h : Tuple.shape s = Tuple.shape t) :
    Tuple.shape (pick positions s) = Tuple.shape (pick positions t) := by
  have h' (n : Nat) : (s[n]?).map Elem.kind = (t[n]?).map Elem.kind := by
    simpa [Tuple.shape] using congrArg (·[n]?) h
  induction positions with
  | nil => simp [pick]
  | cons p rest ih =>
    have hp := h' (p - 1)
    simp only [pick, List.filterMap_cons] at ih ⊢
    cases hs : s[p - 1]? <;> cases ht : t[p - 1]? <;> simp_all [Tuple.shape]

/-- The tuples cut down to the given places. A place has to exist, and in the empty set only not
to be zero. -/
def proj (s : TupleSet) (positions : List Nat) : Except Cause TupleSet :=
  match positions.find? fun p => p = 0 || (! s.isEmpty && s.arity < p) with
  | some p => .error (.projection p s.arity)
  | none => .ok (ofUniform (s.tuples.map (pick positions)) (by
      intro a ha b hb
      simp only [List.mem_map] at ha hb
      obtain ⟨a', ha', rfl⟩ := ha
      obtain ⟨b', hb', rfl⟩ := hb
      exact shape_pick positions (s.uniform a' ha' b' hb')))

end ModelLang.TupleSet
