import ModelLang.Text.Quoted

/-!
# ModelLang.Tree.Node

How a syntax tree is written: a node by name with its parts in parentheses, or with named parts in
braces; lists in brackets, pairs in parentheses.
-/

namespace ModelLang.Tree

def join (parts : List String) : String :=
  String.intercalate ", " parts

/-- `Name(part, part)`. -/
def node (name : String) (parts : List String) : String :=
  name ++ "(" ++ join parts ++ ")"

/-- A node whose parts have names. -/
def record (name : String) (fields : List (String × String)) : String :=
  name ++ " \x7b " ++ join (fields.map fun f => f.1 ++ ": " ++ f.2) ++ " \x7d"

def list (items : List String) : String :=
  "[" ++ join items ++ "]"

def pair (a b : String) : String :=
  "(" ++ a ++ ", " ++ b ++ ")"

def optional : Option String → String
  | none => "None"
  | some s => node "Some" [s]

end ModelLang.Tree
