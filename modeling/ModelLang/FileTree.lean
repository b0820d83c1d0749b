import ModelLang.Table.Source

/-!
# ModelLang.FileTree

Files kept in memory under relative paths, and what opening a path gives.
-/

namespace ModelLang

/-- The text of each file, by the names of its directories and its own. -/
abbrev FileTree := List (List String × String)

namespace FileTree

/-- What stands at a place of the tree. -/
inductive Item where
  | file (text : String)
  | directory
  | nothing

def item (files : FileTree) (place : List String) : Item :=
  match files.find? fun f => f.1 = place with
  | some (_, text) => .file text
  | none =>
    if place.isEmpty || files.any fun f => place.isPrefixOf f.1 then .directory else .nothing

/-- Why a path leads to no file. -/
inductive Fault where
  | missing
  | notDirectory
  | isDirectory
  /-- A name takes more than 255 bytes, or a path more than 4095. -/
  | tooLong
  /-- No path holds the character of code 0. -/
  | holdsNull

def Fault.message : Fault → String
  | missing => "No such file or directory (os error 2)"
  | notDirectory => "Not a directory (os error 20)"
  | isDirectory => "Is a directory (os error 21)"
  | tooLong => "File name too long (os error 36)"
  | holdsNull => "file name contained an unexpected NUL byte"

/-- Follows names from a directory above the tree, which holds nothing that is known. -/
def outside : List String → Except Fault Item
  | [] => .ok .directory
  | name :: rest =>
    if name = "" || name = "." || name = ".." then outside rest
    else if 255 < name.utf8ByteSize then .error .tooLong
    else .error .missing

/-- Follows names from a place on. A name that goes on from a file is a fault. -/
def walk (files : FileTree) (place : List String) : List String → Except Fault Item
  | [] => .ok (files.item place)
  | name :: rest =>
    match files.item place with
    | .file _ => .error .notDirectory
    | .nothing => .error .missing
    | .directory =>
      if name = "" || name = "." then files.walk place rest
      else if name = ".." then
        if place.isEmpty then outside rest else files.walk place.dropLast rest
      else if 255 < name.utf8ByteSize then .error .tooLong
      else files.walk (place ++ [name]) rest

/-- What stands at a path, which starts at the root of the tree unless it is absolute. -/
def resolve (files : FileTree) (path : String) : Except Fault Item :=
  let names := (path.toList.splitOn '/').map String.ofList
  if path.contains '\x00' then .error .holdsNull
  else if path.isEmpty then .error .missing
  else if 4095 < path.utf8ByteSize then .error .tooLong
  else if path.startsWith "/" then outside names
  else files.walk [] names

/-- The files with the given paths. -/
def ofList (files : List (String × String)) : FileTree :=
  files.map fun f =>
    (((f.1.toList.splitOn '/').map String.ofList).filter fun n => n ≠ "" && n ≠ ".", f.2)

/-- The text of the file at a path, or the reason why it cannot be read. -/
def disk (files : FileTree) : Table.Source.Disk := fun path =>
  match files.resolve path with
  | .ok (.file text) => .ok text
  | .ok .directory => .error Fault.isDirectory.message
  | .ok .nothing => .error Fault.missing.message
  | .error fault => .error fault.message

/-- The text of a program at a path. A directory can be opened too, and has no lines. -/
def source (files : FileTree) (path : String) : Except String (List Char) :=
  match files.resolve path with
  | .ok (.file text) => .ok text.toList
  | .ok .directory => .ok []
  | .ok .nothing => .error Fault.missing.message
  | .error fault => .error fault.message

end FileTree

end ModelLang
