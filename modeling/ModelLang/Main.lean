import ModelLang.Standard
import ModelLang.Text.Lines

/-!
# ModelLang.Main

The program. It reads and writes; what is written is up to `Command` and `Console`. A table is read
when an evaluation has asked for it, and the evaluation is then repeated.
-/

namespace ModelLang.Main

def libraries : Libraries := .standard

/-- The tables read so far, or why they could not be read. -/
abbrev Tables := List (String × Except String String)

def reason : IO.Error → String
  | .noFileOrDirectory .. => "No such file or directory (os error 2)"
  | .permissionDenied .. => "Permission denied (os error 13)"
  | .inappropriateType _ 20 _ => "Not a directory (os error 20)"
  | .inappropriateType .. => "Is a directory (os error 21)"
  | .invalidArgument _ 36 _ => "File name too long (os error 36)"
  | e => toString e

def readBytes (path : String) : IO (Except IO.Error ByteArray) := do
  try
    let bytes ← IO.FS.readBinFile path
    return .ok bytes
  catch e => return .error e

def readTable (path : String) : IO (Except String String) := do
  match ← readBytes path with
  | .error e => return .error (reason e)
  | .ok bytes =>
    match String.fromUTF8? bytes with
    | some text => return .ok text
    | none => return .error "stream did not contain valid UTF-8"

def disk (tables : Tables) : Table.Source.Disk := fun path =>
  match tables.find? fun t => t.1 = path with
  | some (_, text) => text
  | none => .error "not read yet"

/-- The tables that failures ask for and that have not been read. -/
def wanted (tables : Tables) (causes : List Cause) : List String :=
  causes.filterMap fun
    | .unreadable path _ => if tables.any fun t => t.1 = path then none else some path
    | _ => none

/-- Makes an attempt, and makes it again as long as it asks for further tables. -/
partial def settle {α : Type} (tables : Tables)
    (attempt : Table.Source.Disk → α × List Cause) : IO (α × Tables) := do
  let (a, causes) := attempt (disk tables)
  match wanted tables causes with
  | [] => return (a, tables)
  | paths =>
    let texts ← paths.mapM fun path => do
      let text ← readTable path
      return (path, text)
    settle (texts ++ tables) attempt

def write (out err : String) : IO Unit := do
  let stdout ← IO.getStdout
  stdout.putStr out
  stdout.flush
  let stderr ← IO.getStderr
  stderr.putStr err
  stderr.flush

def compileFile (c : Command) (path : String) : IO UInt32 := do
  let attempt (text : List Char) (d : Table.Source.Disk) : Outcome × List Cause :=
    c.compileFile libraries (c.tables libraries d) path text
  let outcome ←
    match ← readBytes path with
    | .error (.inappropriateType _ 21 _) => pure (attempt [] (disk [])).1
    | .error e => pure (Command.unopened path (reason e))
    | .ok bytes => do
      let (outcome, _) ← settle [] (attempt (Text.ofBytes bytes))
      pure outcome
  write outcome.out outcome.err
  return outcome.code.toUInt32

partial def converse (c : Command) (console : Console) (tables : Tables) : IO Unit := do
  let line ← (← IO.getStdin).getLine
  if line.isEmpty then
    write console.finish.out ""
  else
    let line := ((Text.lines line.toList).head?).getD []
    let (console, tables) ← settle tables fun d =>
      let console := console.feed (c.tables libraries d) c.tree line
      (console, console.causes)
    write console.out console.err
    converse c { console with out := "", err := "" } tables

end ModelLang.Main

open ModelLang in
def main (args : List String) : IO UInt32 := do
  match Command.ofArgs Command.default true args with
  | .invalid argument =>
    Main.write "" s!"error: unexpected argument '{argument}'\n"
    return 2
  | .version =>
    Main.write Command.versionText ""
    return 0
  | .run c =>
    match c.file with
    | some path => Main.compileFile c path
    | none =>
      Main.converse c (.start (Main.libraries.generator c.seed)) []
      return 0
