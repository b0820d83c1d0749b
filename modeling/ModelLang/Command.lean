import ModelLang.Console

/-!
# ModelLang.Command

The command line. With a file the program in it is compiled and its model written; without one the
statements are read interactively.
-/

namespace ModelLang

structure Command where
  file : Option String
  seed : Nat
  /-- Whether the syntax tree is written before a statement is executed. -/
  tree : Bool
deriving DecidableEq, Inhabited

/-- What a run takes from libraries: a generator for each seed, and a reader of patterns. -/
structure Libraries where
  generator : Nat → Random
  patterns : Table.Patterns

/-- What a run of the command leaves. -/
structure Outcome where
  code : Nat
  out : String
  err : String
deriving DecidableEq, Inhabited

namespace Command

/-! ## Arguments -/

/-- What the arguments ask for. -/
inductive Request where
  | run (c : Command)
  | version
  | invalid (argument : String)
deriving DecidableEq

/-- The seed unless another one is asked for. -/
def defaultSeed : Nat := 13021967

def default : Command := ⟨none, defaultSeed, false⟩

def versionText : String := "mmlc 0.1.0\n"

/-- A seed of 64 bits: digits, with or without a plus sign. -/
def seed? (text : String) : Option Nat :=
  let digits :=
    match text.toList with
    | '+' :: rest => rest
    | cs => cs
  let n := Numeral.ofDigits digits
  if digits.isEmpty || ! digits.all Char.isDigit || 0x10000000000000000 ≤ n then none else some n

/-- Whether an argument consists of letters that ask for more messages. -/
def isVerbose (argument : String) : Bool :=
  argument = "--verbose" ||
    (argument.startsWith "-v" && (argument.toList.drop 1).all (· = 'v'))

/-- Whether an argument asks for the version; the letter may follow letters that ask for more
messages. -/
def isVersion (argument : String) : Bool :=
  argument = "--version" ||
    (argument.startsWith "-" &&
      ((argument.toList.drop 1).dropWhile (· = 'v')).head? = some 'V')

/-- Takes the arguments after those that gave `c`. After two dashes no options follow. -/
def ofArgs (c : Command) (options : Bool) : List String → Request
  | [] => .run c
  | a :: rest =>
    if options && a = "--" then ofArgs c false rest
    else if options && a = "--tree" then ofArgs { c with tree := true } options rest
    else if options && isVerbose a then ofArgs c options rest
    else if options && isVersion a then .version
    else if options && a = "--seed" then
      match rest with
      | [] => .invalid a
      | n :: rest =>
        match seed? n with
        | some n => ofArgs { c with seed := n } options rest
        | none => .invalid n
    else if options && a.startsWith "--seed=" then
      match seed? (String.ofList (a.toList.drop 7)) with
      | some n => ofArgs { c with seed := n } options rest
      | none => .invalid a
    else if options && a.startsWith "-" && a ≠ "-" then .invalid a
    else if c.file.isSome then .invalid a
    else ofArgs { c with file := some a } options rest

/-! ## Compiling a file -/

/-- A path in reverse without the slashes at its end and the names `.` that follow a slash there. -/
def trimEnd : List Char → List Char
  | '/' :: rest => trimEnd rest
  | '.' :: '/' :: rest => trimEnd rest
  | path => path

/-- The directory that a path lies in; empty for a bare name. -/
def directory (path : String) : String :=
  let body := trimEnd path.toList.reverse
  let parent := body.dropWhile (· ≠ '/')
  let trimmed := trimEnd parent
  if body.isEmpty then "."
  else if trimmed.isEmpty && ! parent.isEmpty then "/"
  else String.ofList trimmed.reverse

section Run

variable (libraries : Libraries) (c : Command)

/-- Where the tables of a command come from: names are relative to the directory of the file. -/
def tables (disk : Table.Source.Disk) : Table.Source :=
  Table.Source.ofDirectory libraries.patterns disk ((c.file.map directory).getD ".")

/-- The outcome of a run that stops at an error; each message starts with the path. -/
def stopped (path out : String) (e : CompileError) : Outcome :=
  ⟨1, out, String.join (e.messages.map fun m => s!"{path}: {m}\n")⟩

/-- What is written before the execution. -/
def trees (p : Program) : String :=
  if c.tree then String.join (p.statements.map fun s => s.tree ++ "\n") else ""

/-- Compiles the text of a file. A failed check is only reported. -/
def compileFile (tables : Table.Source) (path : String) (text : List Char) :
    Outcome × List Cause :=
  match Program.check text with
  | .error e => (stopped path "" e, [])
  | .ok program =>
    match program.run tables (libraries.generator c.seed) with
    | (.error e, s) =>
      let causes :=
        match e with
        | .execution f => [f.cause]
        | _ => []
      (stopped path (c.trees program ++ s.output) e, causes)
    | (.ok (), s) =>
      let checks := if s.failedChecks = 0 then "" else s!"{s.failedChecks} check(s) failed\n"
      (⟨0, c.trees program ++ s.output ++ s.model.text ++ "\n", checks⟩, [])

/-- The outcome for a file that cannot be opened. -/
def unopened (path reason : String) : Outcome :=
  ⟨1, "", s!"{path}: {reason}\n"⟩

/-! ## The whole run -/

/-- Reads the statements of an input interactively. -/
def converse (tables : Table.Source) (input : List Char) : Outcome :=
  let start := Console.start (libraries.generator c.seed)
  let console := ((Text.lines input).foldl (Console.feed tables c.tree) start).finish
  ⟨0, console.out, console.err⟩

/-- Runs a command. `source` gives the text of the program's file and `disk` that of a table. -/
def run (source : String → Except String (List Char)) (disk : Table.Source.Disk)
    (input : List Char) : Outcome :=
  match c.file with
  | none => c.converse libraries (c.tables libraries disk) input
  | some path =>
    match source path with
    | .error reason => unopened path reason
    | .ok text => (c.compileFile libraries (c.tables libraries disk) path text).1

end Run

end Command

end ModelLang
