import ModelLang.Number.Numeral
import ModelLang.Text.Lines
import ModelLang.Text.Quoted
import ModelLang.Token

/-!
# ModelLang.Token.Lexer

From a source text to its tokens. A token lies on one line. Between tokens stand blanks, and a
`#` outside a string starts a comment that goes on to the end of the line. A word that is not
reserved is a name. The tokens of a text end with the end mark, one past the last line.
-/

namespace ModelLang.Token

/-- Why a text has no tokens. -/
inductive LexError where
  | unexpectedCharacter (c : Char) (place : Location)
  | unterminatedString (start : Location)
deriving DecidableEq

def LexError.message : LexError → String
  | .unexpectedCharacter c place => s!"unexpected character {Text.quoteChar c} at {place.text}"
  | .unterminatedString start => s!"unterminated string starting at {start.text}"

def isBlank (c : Char) : Bool :=
  c = ' ' || c = '\x0c' || c = '\t' || c = '\r'

def isNameStart (c : Char) : Bool :=
  c.isAlpha || c = '_'

def isNamePart (c : Char) : Bool :=
  c.isAlphanum || c = '_'

/-- The character that a backslash and `c` stand for. -/
def unescape (c : Char) : Char :=
  if c = 'n' then '\n' else if c = 't' then '\t' else c

/-- The content of a string after its opening quote, and the characters up to and with its closing
quote. -/
def scanString : List Char → Option (List Char × Nat)
  | [] => none
  | '"' :: _ => some ([], 1)
  | '\\' :: c :: rest =>
    match scanString rest with
    | some (content, n) => some (unescape c :: content, n + 2)
    | none => none
  | c :: rest =>
    match scanString rest with
    | some (content, n) => some (c :: content, n + 1)
    | none => none

/-- What stands at the front of a line. Lexemes come with the number of characters they take. -/
inductive Front where
  | lexeme (l : Lexeme) (taken : Nat)
  | blank
  | comment
  | openString
  | unexpected

/-- The mark at the front, if there is one. -/
def frontMark? (cs : List Char) : Option String :=
  marks.find? fun m => m.toList.isPrefixOf cs

/-- The longest lexeme at the front of the line `c :: rest`. -/
def front (c : Char) (rest : List Char) : Front :=
  if c = '#' then .comment
  else if isBlank c then .blank
  else if c = '"' then
    match scanString rest with
    | some (content, n) => .lexeme (.string (String.ofList content)) (n + 1)
    | none => .openString
  else if isNameStart c then
    let run := c :: rest.takeWhile isNamePart
    let text := String.ofList run
    .lexeme (if text ∈ reserved then .word text else .name text) run.length
  else
    match Numeral.span? (c :: rest) with
    | some (numeral, _) => .lexeme (.numeral (String.ofList numeral)) numeral.length
    | none =>
      match frontMark? (c :: rest) with
      | some m => .lexeme (.mark m) m.length
      | none => .unexpected

/-- The tokens of the rest of a line that goes on at `column`, after `skip` more characters that
belong to the token before. -/
def scanLine (line skip column : Nat) : List Char → Except LexError (List Token)
  | [] => .ok []
  | c :: rest =>
    match skip with
    | skip + 1 => scanLine line skip (column + c.utf8Size) rest
    | 0 =>
      match front c rest with
      | .comment => .ok []
      | .blank => scanLine line 0 (column + c.utf8Size) rest
      | .openString => .error (.unterminatedString ⟨line, column⟩)
      | .unexpected => .error (.unexpectedCharacter c ⟨line, column⟩)
      | .lexeme l taken =>
        let stop := column + Text.utf8Length ((c :: rest).take taken)
        match scanLine line (taken - 1) (column + c.utf8Size) rest with
        | .ok tokens => .ok (⟨l, .determined ⟨line, column⟩ ⟨line, stop⟩⟩ :: tokens)
        | .error e => .error e

/-- The tokens of the lines from number `line` on, after a line that ends at `last`. -/
def scanLines (line : Nat) (last : Location) : List (List Char) → Except LexError (List Token)
  | [] => .ok [⟨.endOfInput, .determined last last⟩]
  | cs :: rest =>
    match scanLine line 0 1 cs with
    | .error e => .error e
    | .ok tokens =>
      match scanLines (line + 1) ⟨line, Text.utf8Length cs + 1⟩ rest with
      | .ok more => .ok (tokens ++ more)
      | .error e => .error e

/-- The tokens of a text. -/
def scan (text : List Char) : Except LexError (List Token) :=
  scanLines 1 ⟨0, 0⟩ (Text.lines text)

end ModelLang.Token
