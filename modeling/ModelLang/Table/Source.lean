import ModelLang.Cause

/-!
# ModelLang.Table.Source

Where tables come from: their texts, and what decides which lines of them a pattern matches.
-/

namespace ModelLang.Table

/-- A reader of patterns. What it makes of a pattern tells the lines that the pattern matches; of
any other text it makes nothing. -/
abbrev Patterns := List Char → Option (List Char → Bool)

/-- What reading tables takes from outside. -/
structure Source where
  /-- The text of each table by its name, or why there is none. -/
  text : String → Except Cause String
  patterns : Patterns

namespace Source

/-- The text of a file, or the reason why it cannot be read. -/
abbrev Disk := String → Except String String

/-- The path of a file in a directory. An absolute name stands for itself. -/
def join (directory name : String) : String :=
  if directory.isEmpty || name.startsWith "/" then name
  else if directory.endsWith "/" then directory ++ name
  else directory ++ "/" ++ name

/-- The files of a directory. -/
def ofDirectory (patterns : Patterns) (disk : Disk) (directory : String) : Source where
  text name :=
    let path := join directory name
    match disk path with
    | .ok text => .ok text
    | .error reason => .error (.unreadable path reason)
  patterns := patterns

/-- Tables kept in memory, with their names. -/
def ofList (patterns : Patterns) (tables : List (String × String)) : Source where
  text name :=
    match tables.find? fun t => t.1 = name with
    | some (_, text) => .ok text
    | none => .error (.unreadable name "no such table")
  patterns := patterns

/-- No tables and no patterns. -/
def empty : Source := ofList (fun _ => none) []

end Source

end ModelLang.Table
