import ModelLang.Text.CharClass

/-!
# ModelLang.Text.Pattern.Basic

Regular expressions as data, and the search for a place in a text that one matches. A pattern is
run on many places at once: it takes the places where matches start to those where they can end.
-/

namespace ModelLang.Text

/-- How a place lies to the words around it. -/
inductive WordEdge where
  /-- Between a character of a word and something else. -/
  | edge
  /-- Anywhere but at an edge. -/
  | noEdge
  | start
  | stop
  /-- Not after a character of a word. -/
  | startHalf
  /-- Not before a character of a word. -/
  | stopHalf

/-- What is asked of a place without taking a character. -/
inductive Assertion where
  | textStart
  | textEnd
  /-- A line ends at a line feed and, if `returns`, at a carriage return too. -/
  | lineStart (returns : Bool)
  | lineEnd (returns : Bool)
  /-- The place lies so to words of the given characters. -/
  | word (place : WordEdge) (letters : CharClass)

inductive Pattern where
  /-- Matches the empty text. -/
  | empty
  | set (s : CharClass)
  | seq (a b : Pattern)
  | alt (a b : Pattern)
  /-- At least `least` and at most `most` matches of `a` in a row. -/
  | rep (a : Pattern) (least : Nat) (most : Option Nat)
  | look (a : Assertion)
  /-- Matches as `a` does; where it matched is kept. -/
  | group (a : Pattern)

namespace WordEdge

/-- Whether a place lies so, given whether characters of a word stand before and after it. -/
def holds : WordEdge → Bool → Bool → Bool
  | edge, before, after => before != after
  | noEdge, before, after => before == after
  | start, before, after => ! before && after
  | stop, before, after => before && ! after
  | startHalf, before, _ => ! before
  | stopHalf, _, after => ! after

end WordEdge

namespace Assertion

/-- The character before a place. -/
def before? (text : Array Char) (p : Nat) : Option Char :=
  if p = 0 then none else text[p - 1]?

def holds (text : Array Char) (p : Nat) : Assertion → Bool
  | textStart => p = 0
  | textEnd => p = text.size
  | lineStart false => p = 0 || before? text p = some '\n'
  | lineStart true =>
    p = 0 || before? text p = some '\n' ||
      (before? text p = some '\r' && text[p]? ≠ some '\n')
  | lineEnd false => p = text.size || text[p]? = some '\n'
  | lineEnd true =>
    p = text.size || text[p]? = some '\r' ||
      (text[p]? = some '\n' && before? text p ≠ some '\r')
  | word place letters =>
    place.holds ((before? text p).any letters.contains) (text[p]?.any letters.contains)

end Assertion

namespace Pattern

/-! ## Places

Places are kept in ascending order, each of them once. -/

/-- The places in one list or the other. -/
def bothPlaces : List Nat → List Nat → List Nat
  | [], ys => ys
  | xs, [] => xs
  | x :: xs, y :: ys =>
    if x < y then x :: bothPlaces xs (y :: ys)
    else if y < x then y :: bothPlaces (x :: xs) ys
    else x :: bothPlaces xs ys
termination_by xs ys => xs.length + ys.length

/-- The places in the first list that the second one lacks. -/
def newPlaces : List Nat → List Nat → List Nat
  | [], _ => []
  | xs, [] => xs
  | x :: xs, y :: ys =>
    if x < y then x :: newPlaces xs (y :: ys)
    else if y < x then newPlaces (x :: xs) ys
    else newPlaces xs ys
termination_by xs ys => xs.length + ys.length

/-- `f` applied `n` times. Further applications do nothing once one does nothing. -/
def times (f : List Nat → List Nat) : Nat → List Nat → List Nat
  | 0, places => places
  | n + 1, places =>
    let next := f places
    if next = places then places else times f n next

/-- All places that at most `n` applications of `f` reach from `last`, with those reached before. -/
def upTo (f : List Nat → List Nat) : Nat → List Nat → List Nat → List Nat
  | 0, _, reached => reached
  | n + 1, last, reached =>
    let next := newPlaces (f last) reached
    if next.isEmpty then reached else upTo f n next (bothPlaces reached next)

/-! ## Matching -/

/-- The places where a match ends that starts at one of the given places. More rounds of a
repetition than the text has places reach nothing new. -/
def ends (text : Array Char) : Pattern → List Nat → List Nat
  | empty, places => places
  | set s, places =>
    places.filterMap fun p =>
      match text[p]? with
      | some c => if s.contains c then some (p + 1) else none
      | none => none
  | seq a b, places => b.ends text (a.ends text places)
  | alt a b, places => bothPlaces (a.ends text places) (b.ends text places)
  | rep a least most, places =>
    let rounds :=
      match most with
      | some n => min (n - least) text.size
      | none => text.size
    let first := times (a.ends text) least places
    upTo (a.ends text) rounds first first
  | look a, places => places.filter (a.holds text)
  | group a, places => a.ends text places

/-- Whether the pattern matches some part of a text. -/
def occursIn (pattern : Pattern) (text : List Char) : Bool :=
  ! (pattern.ends text.toArray (List.range (text.length + 1))).isEmpty

end Pattern

end ModelLang.Text
