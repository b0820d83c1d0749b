import ModelLang.Text.CharClass.Property
import ModelLang.Text.Pattern.Basic
import ModelLang.Text.Pattern.Flags

/-!
# ModelLang.Text.Pattern.Escape

What stands after a backslash in a pattern: a character, a class of characters or an assertion.
-/

namespace ModelLang.Text.Pattern

inductive Escape where
  | char (c : Char)
  | set (s : CharClass)
  | look (a : Assertion)

/-! ## Characters by code point -/

def hexValue? (c : Char) : Option Nat :=
  if c.isDigit then some (c.toNat - '0'.toNat)
  else if 'a' ≤ c ∧ c ≤ 'f' then some (c.toNat - 'a'.toNat + 10)
  else if 'A' ≤ c ∧ c ≤ 'F' then some (c.toNat - 'A'.toNat + 10)
  else none

/-- The character that hexadecimal digits denote. -/
def ofHex? (digits : List Char) : Option Char :=
  match digits.foldl (fun n c => do return 16 * (← n) + (← hexValue? c)) (some 0) with
  | some n => if h : n.isValidChar ∧ digits ≠ [] then some (Char.ofNatAux n h.1) else none
  | none => none

/-- So many characters from the front, and the rest. -/
def takeVisible? (f : Flags) : Nat → List Char → Option (List Char × List Char)
  | 0, rest => some ([], rest)
  | _ + 1, [] => none
  | n + 1, c :: rest => (takeVisible? f n (f.skip rest)).map fun (cs, rest) => (c :: cs, rest)

/-- What stands between braces, after the first one. -/
def braced? (f : Flags) (cs : List Char) : Option (List Char × List Char) :=
  match f.span (· ≠ '\x7d') false cs with
  | (inner, _ :: rest) => some (inner, rest)
  | (_, []) => none

/-- The character after `\x`, `\u` or `\U`: so many hexadecimal digits, or some in braces. Two
digits stand for a byte, which is to be a character of ASCII if classes hold these only. -/
def hexEscape? (f : Flags) (width : Nat) (cs : List Char) : Option (Escape × List Char) :=
  match f.skip cs with
  | '\x7b' :: rest =>
    match braced? f rest with
    | some (digits, rest) => (ofHex? digits).map (.char ·, rest)
    | none => none
  | rest =>
    match takeVisible? f width rest with
    | none => none
    | some (digits, rest) =>
      match ofHex? digits with
      | some c => if f.ascii ∧ width = 2 ∧ 128 ≤ c.toNat then none else some (.char c, rest)
      | none => none

/-! ## Classes by property -/

/-- The text before and after the first occurrence of a mark. -/
def splitAt? (mark : List Char) : List Char → Option (List Char × List Char)
  | [] => none
  | c :: rest =>
    if mark.isPrefixOf (c :: rest) then some ([], (c :: rest).drop mark.length)
    else (splitAt? mark rest).map fun (before, after) => (c :: before, after)

/-- The class of the text between the braces of `\p`: a name, or a property and its value with `=`
or `:` between them. Whether the other values are asked for, with `!=`, is told too. -/
def property? (text : List Char) : Option (CharClass × Bool) :=
  match splitAt? ['!', '='] text with
  | some (name, value) => (CharClass.ofValue? name value).map (·, true)
  | none =>
    match (splitAt? [':'] text).or (splitAt? ['='] text) with
    | some (name, value) => (CharClass.ofValue? name value).map (·, false)
    | none => (CharClass.ofName? text).map (·, false)

/-- The text that names the class after `\p`: one character, or what stands in braces. -/
def propertyText? (f : Flags) (cs : List Char) : Option (List Char × List Char) :=
  match f.skip cs with
  | '\x7b' :: rest => braced? f rest
  | c :: rest => if c = '\\' then none else some ([c], rest)
  | [] => none

/-- The class after `\p`, or after `\P`, which negates it. -/
def propertyEscape? (f : Flags) (negated : Bool) (cs : List Char) :
    Option (Escape × List Char) :=
  match propertyText? f cs with
  | none => none
  | some (text, rest) =>
    if f.ascii then none
    else (property? text).map fun (s, others) =>
      (.set (if negated != others then (f.fold s).compl else f.fold s), rest)

/-! ## Classes of one letter -/

/-- The white space of ASCII. -/
def asciiBlank : CharClass := ⟨[9, 0xe, 0x20, 0x21]⟩

def asciiDigit : CharClass := .range '0' '9'

def asciiWord : CharClass := .ofRanges [('0', '9'), ('A', 'Z'), ('_', '_'), ('a', 'z')]

/-- The characters of words under the flags. -/
def Flags.word (f : Flags) : CharClass := if f.ascii then asciiWord else CharClass.word

/-- The class of a letter. An upper case letter negates the class, which leaves characters beyond
ASCII. -/
def letterClass? (f : Flags) : Char → Option CharClass
  | 'd' => some (if f.ascii then asciiDigit else .digit)
  | 's' => some (if f.ascii then asciiBlank else .blank)
  | 'w' => some f.word
  | 'D' => if f.ascii then none else some (CharClass.compl .digit)
  | 'S' => if f.ascii then none else some (CharClass.compl .blank)
  | 'W' => if f.ascii then none else some (CharClass.compl .word)
  | _ => none

/-! ## Assertions -/

/-- The edge of a word that a name in braces asks for. -/
def edgeOfName? : String → Option WordEdge
  | "start" => some .start
  | "end" => some .stop
  | "start-half" => some .startHalf
  | "end-half" => some .stopHalf
  | _ => none

/-- The edge after `\b`. Braces that start like a name are to hold one; others are left to be read
as a repetition. -/
def edge? (cs : List Char) (f : Flags) : Option (WordEdge × List Char) :=
  let inName (c : Char) : Bool := c.isAlpha || c = '-'
  match cs with
  | '\x7b' :: inner =>
    match f.skip inner with
    | [] => none
    | c :: _ =>
      if inName c then
        match f.span inName false inner with
        | (name, '\x7d' :: rest) => (edgeOfName? (String.ofList name)).map (·, rest)
        | _ => none
      else some (.edge, cs)
  | _ => some (.edge, cs)

/-! ## All escapes -/

/-- What the text after a backslash stands for, and the rest. -/
def escape? (f : Flags) : List Char → Option (Escape × List Char)
  | [] => none
  | c :: rest =>
    let word (e : WordEdge) : Escape := .look (.word e f.word)
    match c with
    | 'x' => hexEscape? f 2 rest
    | 'u' => hexEscape? f 4 rest
    | 'U' => hexEscape? f 8 rest
    | 'p' => propertyEscape? f false rest
    | 'P' => propertyEscape? f true rest
    | 'a' => some (.char '\x07', rest)
    | 'f' => some (.char '\x0c', rest)
    | 't' => some (.char '\t', rest)
    | 'n' => some (.char '\n', rest)
    | 'r' => some (.char '\r', rest)
    | 'v' => some (.char '\x0b', rest)
    | 'A' => some (.look .textStart, rest)
    | 'z' => some (.look .textEnd, rest)
    | 'b' => (edge? rest f).map fun (e, rest) => (word e, rest)
    | 'B' => some (word .noEdge, rest)
    | '<' => some (word .start, rest)
    | '>' => some (word .stop, rest)
    | c =>
      if c.isAlpha then (letterClass? f c).map (.set ·, rest)
      else if c.toNat < 128 ∧ ! c.isDigit then some (.char c, rest)
      else none

end ModelLang.Text.Pattern
