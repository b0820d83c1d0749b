/-!
# ModelLang.Text.CharClass

A class of characters given by its boundaries: the ascending code points at which membership
starts and stops in turn. A character belongs to the class when an odd number of boundaries are
at or below it. Classes are closed under the operations of sets, which merge the boundaries.

The versions that tables name are those of Unicode. Patterns and clusters go by version 16.0, the
text of messages and the names of groups by version 17.0.
-/

namespace ModelLang.Text

structure CharClass where
  boundaries : List Nat
deriving DecidableEq, Inhabited

namespace CharClass

/-- Whether `n` lies in a range that the ascending list opens, `inside` telling the state so far. -/
def toggles (n : Nat) (inside : Bool) : List Nat → Bool
  | [] => inside
  | b :: rest => if n < b then inside else toggles n (!inside) rest

def contains (cls : CharClass) (c : Char) : Bool :=
  toggles c.toNat false cls.boundaries

/-! ## Small classes -/

def empty : CharClass := ⟨[]⟩

def range (first last : Char) : CharClass := ⟨[first.toNat, last.toNat + 1]⟩

def single (c : Char) : CharClass := range c c

/-- The class of code points that lie in ascending ranges with gaps between them. -/
def ofRanges (rs : List (Char × Char)) : CharClass :=
  ⟨rs.flatMap fun r => [r.1.toNat, r.2.toNat + 1]⟩

/-! ## Operations of sets -/

/-- The boundary `p` before `rest`, if membership changes there. -/
def mark (p : Nat) (before after : Bool) (rest : List Nat) : List Nat :=
  if before = after then rest else p :: rest

/-- The boundaries of the class whose members `f` decides from the membership in two classes;
`a` and `b` tell this membership before the first boundary. -/
def merge (f : Bool → Bool → Bool) (a b : Bool) : List Nat → List Nat → List Nat
  | [], [] => []
  | x :: xs, [] => mark x (f a b) (f (!a) b) (merge f (!a) b xs [])
  | [], y :: ys => mark y (f a b) (f a (!b)) (merge f a (!b) [] ys)
  | x :: xs, y :: ys =>
    if x < y then mark x (f a b) (f (!a) b) (merge f (!a) b xs (y :: ys))
    else if y < x then mark y (f a b) (f a (!b)) (merge f a (!b) (x :: xs) ys)
    else mark x (f a b) (f (!a) (!b)) (merge f (!a) (!b) xs ys)
termination_by xs ys => xs.length + ys.length

def union (a b : CharClass) : CharClass := ⟨merge or false false a.boundaries b.boundaries⟩

def inter (a b : CharClass) : CharClass := ⟨merge and false false a.boundaries b.boundaries⟩

def without (a b : CharClass) : CharClass :=
  ⟨merge (fun x y => x && ! y) false false a.boundaries b.boundaries⟩

def symmDiff (a b : CharClass) : CharClass := ⟨merge xor false false a.boundaries b.boundaries⟩

def compl (a : CharClass) : CharClass :=
  match a.boundaries with
  | 0 :: rest => ⟨rest⟩
  | bs => ⟨0 :: bs⟩

def unionAll (classes : List CharClass) : CharClass := classes.foldr union empty

/-- The class that holds `n + d` for each of its code points `n`. -/
def shift (d : Int) (a : CharClass) : CharClass := ⟨a.boundaries.map fun (b : Nat) => (b + d).toNat⟩

/-! ## Ranges -/

/-- The ranges that boundaries enclose; one that does not end goes up to the last code point. -/
def pairs : List Nat → List (Nat × Nat)
  | first :: stop :: rest => (first, stop - 1) :: pairs rest
  | [first] => [(first, 0x10FFFF)]
  | [] => []

/-- The ranges of the class, in ascending order. -/
def ranges (a : CharClass) : List (Nat × Nat) :=
  (pairs a.boundaries).filter (·.1 ≤ 0x10FFFF)

def isEmpty (a : CharClass) : Bool := a.ranges.isEmpty

end CharClass

end ModelLang.Text
