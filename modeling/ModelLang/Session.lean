import ModelLang.Eval.Constraint
import ModelLang.Eval.Line

/-!
# ModelLang.Session

The execution of statements. A session keeps what its statements have declared, added to the model
and printed; a statement that fails leaves what it had done before.
-/

namespace ModelLang

structure Session where
  symbols : Symbols
  work : Workspace
  /-- The printed lines. -/
  printed : List String
  /-- How many checks have failed. -/
  failedChecks : Nat
deriving Inhabited

namespace Session

def start (random : Random) : Session := ⟨[], ⟨.empty, random⟩, [], 0⟩

def model (s : Session) : Model := s.work.model

/-- Everything printed, each line with its line feed. -/
def output (s : Session) : String :=
  String.join (s.printed.map (· ++ "\n"))

end Session

/-- Work on a session. -/
abbrev Exec := Step Session Failure

namespace Exec

/-- Evaluates with the symbols declared so far. -/
def eval {α : Type} (tables : Table.Source) (x : Context → Eval α) : Exec α := fun s =>
  (x (.ofSymbols s.symbols tables)).onPart Session.work (fun w s => { s with work := w }) s

/-- Refuses a name that is declared already. -/
def requireNew (x : Name) : Exec Unit := fun s =>
  if s.symbols.declares x.text then (.error ⟨.duplicateSymbol x.text, x.span⟩, s) else (.ok (), s)

/-- Declares a symbol. -/
def declare (x : Name) (symbol : Symbol) : Exec Unit := fun s =>
  match s.symbols.declare x.text symbol with
  | .ok symbols => (.ok (), { s with symbols := symbols })
  | .error cause => (.error ⟨cause, x.span⟩, s)

def printLine (line : String) : Exec Unit :=
  Step.modify fun s => { s with printed := s.printed ++ [line] }

def countFailedCheck : Exec Unit :=
  Step.modify fun s => { s with failedChecks := s.failedChecks + 1 }

end Exec

namespace Statement

/-- Executes a statement inside loops over the tuples of `path`. -/
def run (tables : Table.Source) : Statement → List Tuple → Scope → Exec Unit
  | .set d, _, scope => do
    Exec.requireNew d.name
    let f ← Exec.eval tables fun ctx => d.eval ctx scope
    Exec.declare d.name (.set f)
  | .param d, _, scope => do
    Exec.requireNew d.name
    let s ← Exec.eval tables fun ctx => d.eval ctx scope
    Exec.declare d.name s
  | .var d, _, scope => do
    Exec.requireNew d.name
    let f ← Exec.eval tables fun ctx => d.eval ctx scope
    Exec.declare d.name (.var f)
  | .objective d, _, scope => Exec.eval tables fun ctx => d.set ctx scope
  | .subto d, path, scope => Exec.eval tables fun ctx => d.body.add ctx d.name.text path scope
  | .sos d, path, scope => Exec.eval tables fun ctx => d.add ctx path scope
  | .define d, _, _ => do
    let f ← Exec.eval tables fun _ => d.eval
    Exec.declare d.name (.define f)
  | .print items _, _, scope => do
    let line ← Exec.eval tables fun ctx => Expr.evalLine ctx scope items
    Exec.printLine line
  | .check condition _, _, scope => do
    let holds ← Exec.eval tables fun ctx => condition.evalTruth ctx scope "check"
    if holds then return () else Exec.countFailedCheck
  | .each index body _, path, scope => do
    let s ← Exec.eval tables fun ctx => index.evalSet ctx scope
    foldTuples (fun t => Exec.eval tables fun ctx => index.enter ctx scope t)
      (fun _ frame t => body.run tables (path ++ [t]) frame) s.tuples ()

/-- Executes a statement of a program. -/
def execute (tables : Table.Source) (s : Statement) : Exec Unit :=
  s.run tables [] []

/-- Executes statements up to the first that fails. -/
def executeAll (tables : Table.Source) : List Statement → Exec Unit
  | [] => return ()
  | s :: rest => do
    s.execute tables
    executeAll tables rest

end Statement

end ModelLang
