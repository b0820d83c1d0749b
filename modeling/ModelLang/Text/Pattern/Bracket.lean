import ModelLang.Text.Pattern.Escape

/-!
# ModelLang.Text.Pattern.Bracket

Classes of characters in brackets: members, ranges, classes in classes, and operations on them. The
operations apply from left to right to all members between them.
-/

namespace ModelLang.Text.Pattern

/-- A class that has been read, and how deep others are nested in it. -/
structure Nested where
  set : CharClass
  depth : Nat

/-- The members of a class between two operations. -/
structure Members where
  set : CharClass
  count : Nat
  /-- How deep classes are nested in one of them. -/
  depth : Nat

namespace Members

def empty : Members := ⟨.empty, 0, 0⟩

def add (m : Members) (n : Nested) : Members :=
  ⟨n.set.union m.set, m.count + 1, max n.depth m.depth⟩

/-- Several members form one more level. -/
def toNested (m : Members) : Nested :=
  ⟨m.set, if m.count ≤ 1 then m.depth else m.depth + 1⟩

end Members

/-! ## Members -/

/-- The class of ASCII of a name such as `alpha`. -/
def asciiClass? : String → Option CharClass
  | "alnum" => some (.ofRanges [('0', '9'), ('A', 'Z'), ('a', 'z')])
  | "alpha" => some (.ofRanges [('A', 'Z'), ('a', 'z')])
  | "ascii" => some (.range '\x00' '\x7f')
  | "blank" => some (.ofRanges [('\t', '\t'), (' ', ' ')])
  | "cntrl" => some (.ofRanges [('\x00', '\x1f'), ('\x7f', '\x7f')])
  | "digit" => some asciiDigit
  | "graph" => some (.range '!' '~')
  | "lower" => some (.range 'a' 'z')
  | "print" => some (.range ' ' '~')
  | "punct" => some (.ofRanges [('!', '/'), (':', '@'), ('[', '\x60'), ('\x7b', '~')])
  | "space" => some asciiBlank
  | "upper" => some (.range 'A' 'Z')
  | "word" => some asciiWord
  | "xdigit" => some (.ofRanges [('0', '9'), ('A', 'F'), ('a', 'f')])
  | _ => none

/-- A class folded and, if so asked, negated. What is negated holds characters beyond ASCII. -/
def Flags.close? (f : Flags) (negated : Bool) (s : CharClass) : Option CharClass :=
  if negated then if f.ascii then none else some (f.fold s).compl else some (f.fold s)

/-- The text of `[:name:]` after its first bracket: the class, whether it is negated, and the
rest. -/
def asciiClassText? (cs : List Char) : Option (CharClass × Bool × List Char) :=
  let named? (negated : Bool) (cs : List Char) : Option (CharClass × Bool × List Char) :=
    match cs.dropWhile (· ≠ ':') with
    | ':' :: ']' :: rest =>
      (asciiClass? (String.ofList (cs.takeWhile (· ≠ ':')))).map (·, negated, rest)
    | _ => none
  match cs with
  | ':' :: '^' :: cs => named? true cs
  | ':' :: cs => named? false cs
  | _ => none

/-- One member other than a class in brackets. -/
def member? (f : Flags) : List Char → Option (Escape × List Char)
  | [] => none
  | c :: rest => if c = '\\' then escape? f rest else some (.char c, rest)

/-- A character that a class may hold under the flags. -/
def Flags.admits (f : Flags) (c : Char) : Bool :=
  ! f.ascii || c.toNat < 128

/-- The class of one member; an assertion is none. -/
def memberSet? (f : Flags) : Escape → Option CharClass
  | .char c => if f.admits c then some (.single c) else none
  | .set s => some s
  | .look _ => none

/-- The range between two members, which must be characters in order. -/
def rangeSet? (f : Flags) : Escape → Escape → Option CharClass
  | .char low, .char high =>
    if f.admits low ∧ f.admits high ∧ low ≤ high then some (.range low high) else none
  | _, _ => none

/-- The character that decides whether a hyphen before `cs` stands for itself. In a verbose pattern
blanks and the hash of a comment are passed over. -/
def afterHyphen? (f : Flags) (cs : List Char) : Option Char :=
  if f.verbose then
    let visible :=
      match cs.dropWhile CharClass.isBlank with
      | '#' :: rest => rest.dropWhile CharClass.isBlank
      | rest => rest
    visible.head?.or cs.head?
  else cs.head?

/-- A member or a range of two at the front. -/
def memberOrRange? (f : Flags) (cs : List Char) : Option (CharClass × List Char) :=
  match member? f cs with
  | none => none
  | some (first, rest) =>
    match f.skip rest with
    | '-' :: rest =>
      let next := afterHyphen? f rest
      if next = some ']' ∨ next = some '-' then (memberSet? f first).map (·, '-' :: rest)
      else
        match member? f (f.skip rest) with
        | some (last, rest) => (rangeSet? f first last).map (·, rest)
        | none => none
    | rest => (memberSet? f first).map (·, rest)

/-! ## Operations -/

inductive SetOp where
  | inter
  | without
  | symmDiff

/-- The operation at the front, and the rest. -/
def setOp? : List Char → Option (SetOp × List Char)
  | '&' :: '&' :: rest => some (.inter, rest)
  | '-' :: '-' :: rest => some (.without, rest)
  | '~' :: '~' :: rest => some (.symmDiff, rest)
  | _ => none

def SetOp.apply : SetOp → CharClass → CharClass → CharClass
  | inter => CharClass.inter
  | without => CharClass.without
  | symmDiff => CharClass.symmDiff

/-- An operation that waits for its second class. -/
abbrev Pending := Option (SetOp × Nested)

/-- The class after the operation that waits, both sides folded first. -/
def Pending.apply (f : Flags) (p : Pending) (m : Members) : Nested :=
  match p with
  | none => m.toNested
  | some (op, a) =>
    let b := m.toNested
    ⟨op.apply (f.fold a.set) (f.fold b.set), max a.depth b.depth + 1⟩

/-! ## The class -/

/-- What a class starts with: hyphens stand for themselves, and so does a closing bracket that
comes first. -/
def leading (f : Flags) (cs : List Char) : Members × List Char :=
  let (hyphens, rest) := f.span (· = '-') false cs
  match hyphens, rest with
  | [], ']' :: rest => (Members.empty.add ⟨.single ']', 0⟩, f.skip rest)
  | hyphens, rest => (hyphens.foldl (fun m _ => m.add ⟨.single '-', 0⟩) .empty, rest)

mutual

/-- A class after its opening bracket. The first argument limits the number of steps. -/
def bracket? (f : Flags) : Nat → List Char → Option (Nested × List Char)
  | 0, _ => none
  | steps + 1, cs =>
    let (negated, cs) :=
      match f.skip cs with
      | '^' :: cs => (true, f.skip cs)
      | cs => (false, cs)
    let (start, cs) := leading f cs
    match members? f steps none start cs with
    | none => none
    | some (n, rest) => (f.close? negated n.set).map fun s => (⟨s, n.depth + 1⟩, rest)

/-- The members up to the closing bracket, after those of `m` and the operation that waits. -/
def members? (f : Flags) : Nat → Pending → Members → List Char → Option (Nested × List Char)
  | 0, _, _, _ => none
  | steps + 1, p, m, cs =>
    match f.skip cs with
    | [] => none
    | ']' :: rest => some (p.apply f m, rest)
    | '[' :: rest =>
      match asciiClassText? rest with
      | some (s, negated, rest) =>
        match f.close? negated s with
        | some s => members? f steps p (m.add ⟨s, 0⟩) rest
        | none => none
      | none =>
        match bracket? f steps rest with
        | some (n, rest) => members? f steps p (m.add n) rest
        | none => none
    | cs =>
      match setOp? cs with
      | some (op, rest) => members? f steps (some (op, p.apply f m)) .empty rest
      | none =>
        match memberOrRange? f cs with
        | some (s, rest) => members? f steps p (m.add ⟨s, 0⟩) rest
        | none => none

end

end ModelLang.Text.Pattern
