import ModelLang.Compile
import ModelLang.Text.CharClass.Blank
import ModelLang.Text.Erasure
import ModelLang.Tree.Statement

/-!
# ModelLang.Console

The interactive mode. Lines collect until one ends in a semicolon, blanks aside; what has collected
is then executed as a text of its own. Errors are reported and leave the session as it is.
-/

namespace ModelLang

structure Console where
  session : Session
  /-- The lines collected so far, each with its line feed. -/
  pending : List Char
  /-- What has been written, apart from messages. -/
  out : String
  /-- The messages that have been written. -/
  err : String
  /-- The causes of the failures of the last chunk. -/
  causes : List Cause
deriving Inhabited

namespace Console

def start (random : Random) : Console := ⟨.start random, [], "", "", []⟩

def report (c : Console) (message : String) : Console :=
  { c with err := c.err ++ message ++ "\n" }

/-- Executes a statement, after its tree is written if this is asked for. -/
def execute (tables : Table.Source) (tree : Bool) (c : Console) (s : Statement) : Console :=
  let shown := if tree then s.tree ++ "\n" else ""
  let before := c.session.printed.length
  let (result, session) := s.execute tables c.session
  let lines := String.join ((session.printed.drop before).map (· ++ "\n"))
  let c := { c with session := session, out := c.out ++ shown ++ lines }
  match result with
  | .ok () => c
  | .error f => { c.report f.message with causes := f.cause :: c.causes }

/-- Executes a text. A statement that cannot be read does not keep the others from execution. -/
def executeText (tables : Table.Source) (tree : Bool) (c : Console) (text : List Char) : Console :=
  match Program.ofText text with
  | .error e => c.report e.message
  | .ok program =>
    let c := program.errors.foldl (fun c e => c.report e.message) c
    program.statements.foldl (execute tables tree) c

/-- Whether the collected lines are to be executed. -/
def isComplete (text : List Char) : Bool :=
  (text.reverse.dropWhile Text.CharClass.isBlank).head? = some ';'

/-- Takes one more line as it was typed, backspaces included. -/
def feed (tables : Table.Source) (tree : Bool) (c : Console) (line : List Char) : Console :=
  let text := c.pending ++ Text.erase line ++ ['\n']
  if isComplete text then
    { c with pending := [], causes := [] }.executeText tables tree text
  else { c with pending := text, causes := [] }

/-- Writes the model at the end of the input. Lines that are still collected are dropped. -/
def finish (c : Console) : Console :=
  { c with out := c.out ++ c.session.model.text ++ "\n" }

end Console

end ModelLang
