import ModelLang.Cause

/-!
# ModelLang.TupleSet.Basic

Finite sets of tuples of one shape. The tuples are kept in the order in which they were inserted,
which is the order of every iteration; two sets are equal if they have the same members, in
whatever order.
-/

namespace ModelLang

structure TupleSet where
  tuples : List Tuple
  nodup : tuples.Nodup
  uniform : ∀ s ∈ tuples, ∀ t ∈ tuples, Tuple.shape s = Tuple.shape t

namespace TupleSet

def empty : TupleSet := ⟨[], by simp, by simp⟩

instance : Inhabited TupleSet := ⟨empty⟩

instance : Membership Tuple TupleSet := ⟨fun s t => t ∈ s.tuples⟩

@[simp] theorem mem_tuples {s : TupleSet} {t : Tuple} : t ∈ s.tuples ↔ t ∈ s := Iff.rfl

instance (t : Tuple) (s : TupleSet) : Decidable (t ∈ s) :=
  inferInstanceAs (Decidable (t ∈ s.tuples))

def size (s : TupleSet) : Nat := s.tuples.length

def isEmpty (s : TupleSet) : Bool := s.tuples.isEmpty

def contains (s : TupleSet) (t : Tuple) : Bool := decide (t ∈ s)

/-- The length of the tuples; the empty set counts as one of tuples of length zero. -/
def arity (s : TupleSet) : Nat := (s.tuples.head?.map List.length).getD 0

/-- The `n`-th tuple, counting from one. -/
def nth? (s : TupleSet) (n : Nat) : Option Tuple :=
  match n with
  | 0 => none
  | n + 1 => s.tuples[n]?

/-- How two tuples keep each other from standing in one set. -/
def clash? (a b : Tuple) : Option Cause :=
  if a.length ≠ b.length then some (.arityMismatch a.length b.length)
  else if Tuple.shape a ≠ Tuple.shape b then
    some (.typeMismatch "set" (Tuple.shapeText a) (Tuple.shapeText b))
  else none

theorem clash?_eq_none_iff {a b : Tuple} : clash? a b = none ↔ Tuple.shape a = Tuple.shape b := by
  unfold clash?
  constructor
  · intro h
    split at h
    · simp at h
    · split at h
      · simp at h
      · rename_i h'
        simpa using h'
  · intro h
    simp [Tuple.length_eq_of_shape_eq h, h]

/-- A part of a set, in the same order. -/
def ofSublist (s : TupleSet) (tuples : List Tuple) (h : tuples.Sublist s.tuples) : TupleSet where
  tuples := tuples
  nodup := h.nodup s.nodup
  uniform a ha b hb := s.uniform a (h.subset ha) b (h.subset hb)

def filter (s : TupleSet) (p : Tuple → Bool) : TupleSet :=
  s.ofSublist (s.tuples.filter p) List.filter_sublist

/-- Adds a tuple of fitting shape at the end, unless it is a member. -/
def push (s : TupleSet) (t : Tuple) (h : ∀ a ∈ s.tuples, Tuple.shape a = Tuple.shape t) :
    TupleSet :=
  if ht : t ∈ s then s
  else
    { tuples := s.tuples ++ [t]
      nodup := by
        rw [List.nodup_append]
        refine ⟨s.nodup, by simp, ?_⟩
        intro a ha b hb hab
        simp only [List.mem_singleton] at hb
        exact ht (hb ▸ hab ▸ ha)
      uniform := by
        intro a ha b hb
        simp only [List.mem_append, List.mem_singleton] at ha hb
        rcases ha with ha | rfl <;> rcases hb with hb | rfl
        · exact s.uniform a ha b hb
        · exact h a ha
        · exact (h b hb).symm
        · rfl }

/-- Adds a tuple, unless its shape differs from that of the members. -/
def insert (s : TupleSet) (t : Tuple) : Except Cause TupleSet :=
  match hs : s.tuples with
  | [] => .ok (s.push t (by simp [hs]))
  | first :: _ =>
    match h : clash? first t with
    | some cause => .error cause
    | none => .ok (s.push t fun a ha =>
        (s.uniform a ha first (by simp [hs])).trans (clash?_eq_none_iff.1 h))

/-- Inserts the tuples of a list one after the other. -/
def insertAll (s : TupleSet) : List Tuple → Except Cause TupleSet
  | [] => .ok s
  | t :: rest =>
    match s.insert t with
    | .ok s => s.insertAll rest
    | .error cause => .error cause

def ofTuples (tuples : List Tuple) : Except Cause TupleSet :=
  empty.insertAll tuples

/-- The first occurrence of each tuple of a list. -/
def firsts : List Tuple → List Tuple
  | [] => []
  | t :: rest => t :: (firsts rest).filter (· ≠ t)

theorem mem_firsts {t : Tuple} {ts : List Tuple} : t ∈ firsts ts ↔ t ∈ ts := by
  induction ts with
  | nil => simp [firsts]
  | cons a rest ih =>
    by_cases h : t = a <;> simp [firsts, ih, h]

theorem nodup_firsts (ts : List Tuple) : (firsts ts).Nodup := by
  induction ts with
  | nil => simp [firsts]
  | cons a rest ih =>
    rw [firsts, List.nodup_cons]
    exact ⟨by simp, List.filter_sublist.nodup ih⟩

/-- The set of the tuples in a list of one shape. -/
def ofUniform (tuples : List Tuple)
    (h : ∀ s ∈ tuples, ∀ t ∈ tuples, Tuple.shape s = Tuple.shape t) : TupleSet where
  tuples := firsts tuples
  nodup := nodup_firsts tuples
  uniform s hs t ht := h s (mem_firsts.1 hs) t (mem_firsts.1 ht)

def subset (a b : TupleSet) : Bool :=
  a.tuples.all b.contains

/-- Whether two sets have the same members. -/
def same (a b : TupleSet) : Bool :=
  a.size = b.size && a.subset b

/-- The members in braces; a tuple of one component stands without its brackets. -/
def shown (s : TupleSet) : String :=
  "\x7b" ++ String.intercalate "," (s.tuples.map fun t =>
    match t with
    | [e] => e.shown
    | t => Tuple.shown t) ++ "\x7d"

end TupleSet

end ModelLang
