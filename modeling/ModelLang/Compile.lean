import ModelLang.Grammar.Program
import ModelLang.Session
import ModelLang.Token.Lexer

/-!
# ModelLang.Compile

From the text of a program to its model. A program with an error in its tokens or in any of its
statements is not executed at all.
-/

namespace ModelLang

/-- The statements of a text, and its syntax errors. -/
def Program.ofText (text : List Char) : Except Token.LexError Program :=
  (Token.scan text).map Program.ofTokens

/-- Why a text has no model. -/
inductive CompileError where
  | tokens (e : Token.LexError)
  | statements (errors : List SyntaxError)
  | overflow
  | execution (f : Failure)

namespace CompileError

/-- The messages of the error, one for each fault. -/
def messages : CompileError → List String
  | tokens e => [e.message]
  | statements errors => errors.map SyntaxError.message
  | overflow => [Cause.overflow.message]
  | execution f => [f.message]

def message (e : CompileError) : String :=
  String.intercalate "\n" e.messages

end CompileError

/-- The program of a text without errors. -/
def Program.check (text : List Char) : Except CompileError Program :=
  match Program.ofText text with
  | .error e => .error (.tokens e)
  | .ok program =>
    if program.errors.isEmpty then .ok program
    else if program.overflows then .error .overflow
    else .error (.statements program.errors)

/-- Executes a program in a new session, and gives this session also if the program fails. -/
def Program.run (p : Program) (tables : Table.Source) (random : Random) :
    Except CompileError Unit × Session :=
  match Statement.executeAll tables p.statements (.start random) with
  | (.ok (), s) => (.ok (), s)
  | (.error f, s) => (.error (.execution f), s)

/-- The model of a text. -/
def compile (tables : Table.Source) (random : Random) (text : List Char) :
    Except CompileError Model :=
  match Program.check text with
  | .error e => .error e
  | .ok program =>
    match program.run tables random with
    | (.ok (), s) => .ok s.model
    | (.error e, _) => .error e

end ModelLang
