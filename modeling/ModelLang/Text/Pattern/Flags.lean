import ModelLang.Text.CharClass.Blank
import ModelLang.Text.CharClass.CaseFolding

/-!
# ModelLang.Text.Pattern.Flags

The flags under which a pattern is read, and how they are switched.
-/

namespace ModelLang.Text.Pattern

structure Flags where
  /-- Whether characters stand for those that differ in case only. -/
  caseless : Bool
  /-- Whether `^` and `$` match at lines too. -/
  multiLine : Bool
  /-- Whether a dot matches the end of a line too. -/
  dotAll : Bool
  /-- Whether a carriage return ends a line too. -/
  returns : Bool
  /-- Whether classes hold characters of ASCII only. -/
  ascii : Bool
  /-- Whether blanks and comments are left out. -/
  verbose : Bool

namespace Flags

def plain : Flags := ⟨false, false, false, false, false, false⟩

/-- Switches the flag of a letter. Whether repetitions are greedy does not matter here. -/
def switch? (f : Flags) (on : Bool) : Char → Option Flags
  | 'i' => some { f with caseless := on }
  | 'm' => some { f with multiLine := on }
  | 's' => some { f with dotAll := on }
  | 'R' => some { f with returns := on }
  | 'u' => some { f with ascii := ! on }
  | 'x' => some { f with verbose := on }
  | 'U' => some f
  | _ => none

/-- Reads the letters of flags up to the mark `:` or `)` and gives the flags, the letters, the mark
and the rest. Letters after a minus sign are switched off; each of these characters may stand once,
and a letter follows the sign. `seen` are the characters before, in reverse. -/
def read? (f : Flags) (seen : List Char) :
    List Char → Option (Flags × List Char × Char × List Char)
  | [] => none
  | c :: rest =>
    if c = ':' ∨ c = ')' then
      if seen.head? = some '-' then none else some (f, seen, c, rest)
    else if seen.contains c then none
    else if c = '-' then read? f (c :: seen) rest
    else
      match f.switch? (! seen.contains '-') c with
      | some f => read? f (c :: seen) rest
      | none => none

/-- The class that stands for a class of the text. -/
def fold (f : Flags) (s : CharClass) : CharClass :=
  if f.caseless then s.foldClosure (if f.ascii then CharClass.asciiFoldRuns else CharClass.foldRuns)
  else s

end Flags

/-! ## Blanks and comments -/

/-- Leaves out blanks and comments at the front; a comment goes from a hash to the end of the
line. -/
def skipFrom (comment : Bool) : List Char → List Char
  | [] => []
  | c :: rest =>
    if comment then skipFrom (c ≠ '\n') rest
    else if CharClass.isBlank c then skipFrom false rest
    else if c = '#' then skipFrom true rest
    else c :: rest

/-- What is left out at the front if the pattern is verbose. -/
def Flags.skip (f : Flags) (cs : List Char) : List Char :=
  if f.verbose then skipFrom false cs else cs

/-- The characters at the front that satisfy `p`, and the rest; in a verbose pattern blanks and
comments between them are left out. -/
def Flags.span (f : Flags) (p : Char → Bool) (comment : Bool) :
    List Char → List Char × List Char
  | [] => ([], [])
  | c :: rest =>
    if comment then f.span p (c ≠ '\n') rest
    else if f.verbose && CharClass.isBlank c then f.span p false rest
    else if f.verbose && c = '#' then f.span p true rest
    else if p c then
      let (run, rest) := f.span p false rest
      (c :: run, rest)
    else ([], c :: rest)

end ModelLang.Text.Pattern
