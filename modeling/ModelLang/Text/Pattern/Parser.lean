import ModelLang.Number.Numeral
import ModelLang.Text.CharClass.Newer
import ModelLang.Text.Pattern.Bracket
import ModelLang.Text.Pattern.Size

/-!
# ModelLang.Text.Pattern.Parser

Patterns from their text, which is read once from left to right with a stack of the groups that are
open. How deep expressions are nested is limited, and so is the room that a pattern takes.
-/

namespace ModelLang.Text.Pattern

/-! ## Building -/

/-- One pattern after the other. -/
def join : List Pattern → Pattern
  | [] => .empty
  | [p] => p
  | .empty :: rest => join rest
  | p :: rest =>
    match join rest with
    | .empty => p
    | q => .seq p q

/-- The class that all patterns of a list together stand for, if each is a class. -/
def sets? : List Pattern → Option CharClass
  | [] => some .empty
  | .set s :: rest => (sets? rest).map s.union
  | _ => none

/-- One pattern or another; a choice between classes is a class. -/
def choose (ps : List Pattern) : Pattern :=
  match sets? ps with
  | some s => .set s
  | none =>
    match ps with
    | [] => .empty
    | p :: rest => rest.foldl .alt p

/-- A repetition. More than one match of the empty text is as good as one. -/
def repeated (p : Pattern) (least : Nat) (most : Option Nat) : Pattern :=
  let (least, most) :=
    if p.isEmptyOnly then (min least 1, some (min (most.getD 1) 1)) else (least, most)
  if most = some 0 then .empty else if least = 1 ∧ most = some 1 then p else .rep p least most

/-- A part of a pattern that has been read. -/
structure Item where
  pattern : Pattern
  /-- How deep expressions are nested in it. -/
  depth : Nat
  /-- Whether a repetition may follow. -/
  repeatable : Bool

namespace Item

/-- A part without further parts. -/
def leaf (p : Pattern) : Item := ⟨p, 0, true⟩

def maxDepth (items : List Item) : Nat := items.foldl (fun d i => max d i.depth) 0

/-- Parts one after the other, given in reverse. Several form one more level. -/
def concat : List Item → Item
  | [] => leaf .empty
  | [i] => i
  | items => ⟨join (items.reverse.map (·.pattern)), maxDepth items + 1, true⟩

/-- Alternatives, given in reverse. Several form one more level. -/
def alternation : List Item → Item
  | [i] => i
  | items => ⟨choose (items.reverse.map (·.pattern)), maxDepth items + 1, true⟩

end Item

/-- A group that is being read. -/
structure Scope where
  flags : Flags
  /-- Whether it is kept where the group matched. -/
  kept : Bool
  /-- The finished alternatives, in reverse. -/
  alternatives : List Item
  /-- The parts of the current alternative, in reverse. -/
  items : List Item

namespace Scope

def start (flags : Flags) (kept : Bool) : Scope := ⟨flags, kept, [], []⟩

def push (s : Scope) (i : Item) : Scope := { s with items := i :: s.items }

/-- What has been read of the group. -/
def content (s : Scope) : Item := .alternation (.concat s.items :: s.alternatives)

def nextAlternative (s : Scope) : Scope :=
  { s with alternatives := .concat s.items :: s.alternatives, items := [] }

/-- The whole group. -/
def toItem (s : Scope) : Item :=
  let c := s.content
  ⟨if s.kept then .group c.pattern else c.pattern, c.depth + 1, true⟩

/-- Repeats the last part. -/
def repeatLast? (s : Scope) (least : Nat) (most : Option Nat) : Option Scope :=
  match s.items with
  | i :: items =>
    if i.repeatable then
      some { s with items := ⟨repeated i.pattern least most, i.depth + 1, true⟩ :: items }
    else none
  | [] => none

end Scope

structure Reader where
  scope : Scope
  /-- The groups around, the innermost first. -/
  outer : List Scope
  /-- The names of groups so far. -/
  names : List (List Char)

namespace Reader

def start : Reader := ⟨.start .plain true, [], []⟩

def flags (r : Reader) : Flags := r.scope.flags

def push (r : Reader) (i : Item) : Reader := { r with scope := r.scope.push i }

def pushLeaf (r : Reader) (p : Pattern) : Reader := r.push (.leaf p)

def openGroup (r : Reader) (flags : Flags) (kept : Bool) : Reader :=
  { r with scope := .start flags kept, outer := r.scope :: r.outer }

def closeGroup? (r : Reader) : Option Reader :=
  match r.outer with
  | s :: outer => some { r with scope := s.push r.scope.toItem, outer := outer }
  | [] => none

/-! ## Groups -/

/-- The letters and digits of names, those that version 17.0 added included. -/
def isNameChar (isFirst : Bool) (c : Char) : Bool :=
  c = '_' || CharClass.isAlphabetic c ||
    (! isFirst && (c = '.' || c = '[' || c = ']' || CharClass.isNumeric c))

/-- A named group after the mark that starts its name. Each name may stand once. -/
def namedGroup? (r : Reader) (cs : List Char) : Option (Reader × List Char) :=
  let name := cs.takeWhile (· ≠ '>')
  match name, cs.dropWhile (· ≠ '>') with
  | first :: others, _ :: rest =>
    if isNameChar true first ∧ others.all (isNameChar false) ∧ ! r.names.contains name then
      some ({ r.openGroup r.flags true with names := name :: r.names }, rest)
    else none
  | _, _ => none

/-- What starts with a parenthesis: a group, or a switch of flags up to the end of the group. -/
def group? (r : Reader) (cs : List Char) : Option (Reader × List Char) :=
  match r.flags.skip cs with
  | '?' :: 'P' :: '<' :: rest => r.namedGroup? rest
  | '?' :: '<' :: rest => r.namedGroup? rest
  | '?' :: rest =>
    match r.flags.read? [] rest with
    | none => none
    | some (flags, letters, mark, rest) =>
      if mark = ':' then some (r.openGroup flags false, rest)
      else if letters.isEmpty then none
      else
        let r := r.push ⟨.empty, 0, false⟩
        some ({ r with scope := { r.scope with flags := flags } }, rest)
  | rest => some (r.openGroup r.flags true, rest)

/-! ## Repetitions -/

def repeatLast? (r : Reader) (least : Nat) (most : Option Nat) (rest : List Char) :
    Option (Reader × List Char) :=
  (r.scope.repeatLast? least most).map fun s => ({ r with scope := s }, rest)

/-- A repetition may be marked as reluctant, which changes nothing in what matches. -/
def skipReluctant : List Char → List Char
  | '?' :: rest => rest
  | rest => rest

/-- A number of 32 bits, perhaps with blanks around it, and the rest. -/
def count? (f : Flags) (cs : List Char) : Option (Nat × List Char) :=
  let (digits, rest) := f.span Char.isDigit false (cs.dropWhile CharClass.isBlank)
  let n := Numeral.ofDigits digits
  if digits.isEmpty ∨ 0x100000000 ≤ n then none
  else some (n, rest.dropWhile CharClass.isBlank)

/-- The counts of a repetition after its brace, and the rest after the closing one. -/
def counts? (f : Flags) (cs : List Char) : Option (Nat × Option Nat × List Char) :=
  match count? f (f.skip cs) with
  | none => none
  | some (least, '\x7d' :: rest) => some (least, some least, rest)
  | some (least, ',' :: rest) =>
    match f.skip rest with
    | '\x7d' :: rest => some (least, none, rest)
    | rest =>
      match count? f rest with
      | some (most, '\x7d' :: rest) =>
        if least ≤ most then some (least, some most, rest) else none
      | _ => none
  | some _ => none

/-! ## Steps -/

def escape? (r : Reader) (cs : List Char) : Option (Reader × List Char) :=
  (Pattern.escape? r.flags cs).map fun (e, rest) =>
    match e with
    | .char c => (r.pushLeaf (.set (r.flags.fold (.single c))), rest)
    | .set s => (r.pushLeaf (.set s), rest)
    | .look a => (r.pushLeaf (.look a), rest)

/-- What a dot matches; beyond ASCII it would take a part of a character. -/
def dot? (f : Flags) : Option CharClass :=
  if f.ascii then none
  else if f.dotAll then some (CharClass.compl .empty)
  else if f.returns then some (CharClass.compl (.ofRanges [('\n', '\n'), ('\r', '\r')]))
  else some (CharClass.compl (.single '\n'))

/-- Reads what starts with the character `c`. -/
def step? (r : Reader) (c : Char) (rest : List Char) : Option (Reader × List Char) :=
  let f := r.flags
  match c with
  | '(' => r.group? rest
  | ')' => r.closeGroup?.map (·, rest)
  | '|' => some ({ r with scope := r.scope.nextAlternative }, rest)
  | '[' =>
    (bracket? f (2 * rest.length + 2) rest).map fun (n, rest) =>
      (r.push ⟨.set n.set, n.depth, true⟩, rest)
  | '?' => r.repeatLast? 0 (some 1) (skipReluctant rest)
  | '*' => r.repeatLast? 0 none (skipReluctant rest)
  | '+' => r.repeatLast? 1 none (skipReluctant rest)
  | '\x7b' =>
    match counts? f rest with
    | some (least, most, rest) => r.repeatLast? least most (skipReluctant (f.skip rest))
    | none => none
  | '\\' => r.escape? rest
  | '.' => (dot? f).map fun s => (r.pushLeaf (.set s), rest)
  | '^' =>
    some (r.pushLeaf (.look (if f.multiLine then .lineStart f.returns else .textStart)), rest)
  | '$' =>
    some (r.pushLeaf (.look (if f.multiLine then .lineEnd f.returns else .textEnd)), rest)
  | c => some (r.pushLeaf (.set (f.fold (.single c))), rest)

/-- Reads the whole text, in at most so many steps. -/
def run? (r : Reader) : Nat → List Char → Option Item
  | 0, _ => none
  | steps + 1, cs =>
    match r.flags.skip cs with
    | [] => if r.outer.isEmpty then some r.scope.content else none
    | c :: rest =>
      match r.step? c rest with
      | some (r, rest) => r.run? steps rest
      | none => none

end Reader

def depthLimit : Nat := 250

/-- The pattern that a text writes, if it writes one within the limits. Every step takes a
character. -/
def ofText? (text : List Char) : Option Pattern :=
  match Reader.start.run? (text.length + 1) text with
  | some i => if i.depth ≤ depthLimit ∧ i.pattern.size ≤ sizeLimit then some i.pattern else none
  | none => none

end ModelLang.Text.Pattern
