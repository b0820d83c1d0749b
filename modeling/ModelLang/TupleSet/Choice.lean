import ModelLang.TupleSet.Basic
import ModelLang.TupleSet.Combination

/-!
# ModelLang.TupleSet.Choice

The subsets of a set: all of them, or those with a given number of members.
-/

namespace ModelLang

/-- All choices of elements; the first element of the list comes and goes the fastest. -/
def chooseAny {α : Type} : List α → List (List α)
  | [] => [[]]
  | a :: rest => (chooseAny rest).flatMap fun picked => [picked, a :: picked]

theorem sublist_of_mem_chooseAny {α : Type} {as picked : List α} (h : picked ∈ chooseAny as) :
    picked.Sublist as := by
  induction as generalizing picked with
  | nil => simp_all [chooseAny]
  | cons a rest ih =>
    simp only [chooseAny, List.mem_flatMap, List.mem_cons, List.not_mem_nil, or_false] at h
    obtain ⟨p, hp, rfl | rfl⟩ := h
    · exact (ih hp).cons a
    · exact (ih hp).cons_cons a

namespace TupleSet

/-- The parts of a set that choices of its tuples make. -/
def parts (s : TupleSet) (choices : List (List Tuple))
    (h : ∀ picked ∈ choices, picked.Sublist s.tuples) : List TupleSet :=
  choices.attach.map fun picked => s.ofSublist picked.1 (h picked.1 picked.2)

/-- The largest set whose subsets are all enumerated. -/
def maxPowersetBase : Nat := 24

/-- All subsets. Seen as a binary number, the position of a subset tells its members: the first
tuple of the set stands for the lowest digit. -/
def powerset (s : TupleSet) : Except Cause (List TupleSet) :=
  if maxPowersetBase < s.size then .error (.powersetTooLarge s.size)
  else .ok (s.parts (chooseAny s.tuples) fun _ => sublist_of_mem_chooseAny)

/-- The tuple at a place. -/
def member (s : TupleSet) (i : Fin s.size) : Tuple := s.tuples.get i

/-- The part of a set that consists of the tuples at some places. -/
def part {k : Nat} (s : TupleSet) (c : Combination s.size k) : TupleSet :=
  s.ofSublist (c.places.map s.member) (List.map_getElem_sublist c.places_ascending)

/-- The subsets with `least` to `most` members, smaller ones first. -/
def subsets (s : TupleSet) (least most : Nat) : Except Cause (List TupleSet) :=
  if most < least ∨ s.size < most then .error (.subsetSizes least most s.size)
  else .ok ((List.range' least (most + 1 - least)).flatMap fun k =>
    (Combination.all s.size k).map s.part)

end TupleSet

end ModelLang
