import ModelLang.Grammar.Cached
import ModelLang.Grammar.Rules

/-!
# ModelLang.Grammar.Program

From tokens to statements. Each statement is read on its own, in a turn. One that cannot be read
gives an error at the furthest place that some alternative reached, and reading goes on after the
next semicolon. The memory of the kept rules goes on from turn to turn.
-/

namespace ModelLang

/-- What stands where a statement cannot go on, and what could stand there instead. -/
structure SyntaxError where
  span : Span
  found : Lexeme
  expected : List Terminal

namespace SyntaxError

/-- The expected terminals as they are shown, in alphabetical order. -/
def expectedTexts (e : SyntaxError) : List String :=
  (e.expected.map Terminal.shown).mergeSort fun a b => decide (a ≤ b)

def message (e : SyntaxError) : String :=
  s!"syntax error at {e.span.text}: unexpected {e.found.shown}, expected one of " ++
    String.intercalate ", " e.expectedTexts

/-- Whether the statement stopped at a numeral as an operand, of which only an overflow came. A
numeral stands nowhere else, and where it is tried as an operand a string is too. -/
def isOverflow (e : SyntaxError) : Bool :=
  match e.found with
  | .numeral s => e.expected.contains .string && Numeral.unsigned s.toList == .overflow
  | _ => false

/-- The error for a statement that starts at a place and was read as far as a given reach. -/
def ofReach (c : Cursor) (reach : Reach) : SyntaxError :=
  match (c.rest[reach.position - c.position]?).or c.rest.getLast? with
  | some t => ⟨t.span, t.lexeme, reach.expected⟩
  | none => ⟨default, .endOfInput, reach.expected⟩

end SyntaxError

namespace Grammar

/-- Whether the tokens hold no further statement. -/
def atEnd : List Token → Bool
  | [] => true
  | t :: _ => t.isEnd

/-- The place after the next semicolon, or at the end mark, in tokens that start at a position. -/
def recover (position : Nat) : List Token → Cursor
  | [] => .ofTokens position []
  | t :: rest =>
    if t.isEnd then .ofTokens position (t :: rest)
    else if t.lexeme = .mark ";" then .ofTokens (position + 1) rest
    else recover (position + 1) rest

/-- How many rules can stand inside one another: each of them once between two tokens. -/
def depth (tokens : List Token) : Nat :=
  11 * (tokens.length + 1)

/-- Rules that are often read again at one place. -/
def kept : Rule → Bool
  | .expr | .unionExpr | .additive | .indexSet => true
  | _ => false

/-- One attempt to read a statement: where it starts, what was read, and how far it reached. -/
structure Turn where
  start : Cursor
  answer : Answer Statement
  reach : Reach

namespace Turn

/-- One statement or one error. -/
def result (turn : Turn) : Except SyntaxError Statement :=
  match turn.answer with
  | some (s, _) => .ok s
  | none => .error (.ofReach turn.start turn.reach)

/-- Where the next turn starts. -/
def next (turn : Turn) : Cursor :=
  match turn.answer with
  | some (_, c) => .ofTokens c.position c.rest
  | none => recover turn.start.position turn.start.rest

end Turn

/-- The turns of a reader from a place on; each takes a token, so that `bound` limits their
number. -/
def turnsOf {σ : Type} (reader : Reader σ Statement) : List Token → Cursor → σ → List Turn
  | [], _, _ => []
  | _ :: bound, c, memory =>
    if atEnd c.rest then []
    else
      match reader c (.start c.position, memory) with
      | (answer, reach, memory) =>
        let turn : Turn := ⟨c, answer, reach⟩
        turn :: turnsOf reader bound turn.next memory

/-- The turns of tokens by the rules alone, at most `depth` of them inside one another. -/
def plainTurns (depth : Nat) (tokens : List Token) : List Turn :=
  turnsOf (statement.run (Peg.runRule form depth)) tokens (.ofTokens 0 tokens) ()

/-- The turns of tokens with a memory for the kept rules. -/
def turns (tokens : List Token) : List Turn :=
  turnsOf (statement.run (Peg.runCached form kept (depth tokens))) tokens (.ofTokens 0 tokens) ∅

end Grammar

/-- The statements of a program that could be read, and an error for each of the others. -/
structure Program where
  statements : List Statement
  errors : List SyntaxError

namespace Program

def ofTurns (turns : List Grammar.Turn) : Program where
  statements := turns.filterMap fun turn =>
    match turn.result with
    | .ok s => some s
    | .error _ => none
  errors := turns.filterMap fun turn =>
    match turn.result with
    | .ok _ => none
    | .error e => some e

/-- Whether the arithmetic on a numeral overflows. Then the program is not read, and its statements
and errors say nothing. -/
def overflows (p : Program) : Bool :=
  p.errors.any SyntaxError.isOverflow

/-- The program that tokens are the text of. -/
def ofTokens (tokens : List Token) : Program :=
  ofTurns (Grammar.turns tokens)

end Program

end ModelLang
