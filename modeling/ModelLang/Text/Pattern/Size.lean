import ModelLang.Text.Pattern.Basic

/-!
# ModelLang.Text.Pattern.Size

The room that a pattern takes as an automaton on bytes, which is limited: 32 bytes for a state, and
more for its transitions. A class of characters is a tree of ranges of bytes, and what a repetition
counts is copied.
-/

namespace ModelLang.Text

namespace ByteRanges

/-- The ranges of bytes, one after the other, that encode the numbers from `first` to `last`. The
last `k` bytes have six bits each; `lead` is added to the byte before them. -/
def sequences (lead : Nat) : Nat → Nat → Nat → List (List (Nat × Nat))
  | 0, first, last => [[(lead + first, lead + last)]]
  | k + 1, first, last =>
    let unit := Nat.pow 64 (k + 1)
    let low := first / unit
    let high := last / unit
    let under (b : Nat) (rest : List (List (Nat × Nat))) := rest.map ((lead + b, lead + b) :: ·)
    if low = high then under low (sequences 0 k (first % unit) (last % unit))
    else
      let cutLow := first % unit ≠ 0
      let cutHigh := last % unit ≠ unit - 1
      let firstFull := if cutLow then low + 1 else low
      let pastFull := if cutHigh then high else high + 1
      let below := if cutLow then under low (sequences 0 k (first % unit) (unit - 1)) else []
      let full :=
        if firstFull < pastFull then
          [(lead + firstFull, lead + pastFull - 1) :: List.replicate (k + 1) (0, 63)]
        else []
      let above := if cutHigh then under high (sequences 0 k 0 (last % unit)) else []
      below ++ full ++ above

/-- The code points that take one to four bytes, the number of bytes after the first, and what is
added to the first. -/
def blocks : List (Nat × Nat × Nat × Nat) := [
  (0, 0x7F, 0, 0), (0x80, 0x7FF, 1, 0xC0), (0x800, 0xD7FF, 2, 0xE0), (0xE000, 0xFFFF, 2, 0xE0),
  (0x10000, 0x10FFFF, 3, 0xF0)]

/-- The sequences of ranges of bytes that encode the characters from `first` to `last`. -/
def ofRange (first last : Nat) : List (List (Nat × Nat)) :=
  blocks.flatMap fun (low, high, k, lead) =>
    let a := max first low
    let b := min last high
    if a ≤ b then sequences lead k a b else []

/-- How many elements two lists have in common at their front. -/
def common : List (Nat × Nat) → List (Nat × Nat) → Nat
  | a :: as, b :: bs => if a = b then common as bs + 1 else 0
  | _, _ => 0

/-- The number of edges of the tree of ascending sequences, the first standing after `before`. -/
def edges (before : List (Nat × Nat)) : List (List (Nat × Nat)) → Nat
  | [] => 0
  | s :: rest => s.length - common before s + edges s rest

end ByteRanges

namespace Pattern

def stateSize : Nat := 32

/-- The room for a class of characters. One character is a row of states; ASCII needs one state and
its end; else every edge of the tree is a state. -/
def setSize (s : CharClass) : Nat :=
  let ranges := s.ranges
  let sequences := ranges.flatMap fun r => ByteRanges.ofRange r.1 r.2
  match ranges with
  | [(first, last)] =>
    if first = last then stateSize * ByteRanges.edges [] sequences else wide ranges sequences
  | _ => wide ranges sequences
where
  wide (ranges : List (Nat × Nat)) (sequences : List (List (Nat × Nat))) : Nat :=
    if ranges.all (·.2 < 128) then 2 * stateSize + 8 * ranges.length
    else 2 * stateSize + 4 * sequences.length + stateSize * ByteRanges.edges [] sequences

/-- The room for a repetition of what takes the room `a`. -/
def repSize (a least : Nat) (most : Option Nat) : Nat :=
  let branch := stateSize + 8
  match most with
  | none => max least 1 * a + branch
  | some most =>
    if least = most then least * a
    else least * a + stateSize + (most - least) * (a + branch)

/-- The number of alternatives and the room for all of them. -/
def branches : Pattern → Nat × Nat
  | empty => (1, stateSize)
  | set s => (1, setSize s)
  | seq a b => (1, whole (branches a) + whole (branches b))
  | alt a b => ((branches a).1 + (branches b).1, (branches a).2 + (branches b).2)
  | rep a least most => (1, repSize (whole (branches a)) least most)
  | look _ => (1, stateSize)
  | group a => (1, 2 * stateSize + whole (branches a))
where
  /-- The room for alternatives together with the choice between them. -/
  whole (b : Nat × Nat) : Nat :=
    if b.1 = 1 then b.2 else 2 * stateSize + 4 * b.1 + b.2

/-- The room for the pattern, with the states that find where a match starts and keep it. -/
def size (p : Pattern) : Nat :=
  208 + branches.whole (branches p)

def sizeLimit : Nat := 10485760

/-- Whether only the empty text can match, so that a second match in a row changes nothing. -/
def isEmptyOnly : Pattern → Bool
  | empty => true
  | set _ => false
  | seq a b | alt a b => isEmptyOnly a && isEmptyOnly b
  | rep a _ _ => isEmptyOnly a
  | look _ => true
  | group a => isEmptyOnly a

end Pattern

end ModelLang.Text
