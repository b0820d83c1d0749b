import ModelLang.Number.Basic

/-!
# ModelLang.Elem

The components of tuples: exact numbers and strings. A tuple is a list of them; its shape is the
list of their kinds.
-/

namespace ModelLang

inductive Elem where
  | number (value : Rat)
  | text (content : String)
deriving DecidableEq, Inhabited

namespace Elem

/-- Whether a component is a number or a string. -/
inductive Kind where
  | number
  | text
deriving DecidableEq

def kind : Elem → Kind
  | .number _ => .number
  | .text _ => .text

def Kind.name : Kind → String
  | .number => "number"
  | .text => "string"

/-- The component as it stands inside a generated name. -/
def bare : Elem → String
  | .number q => ratText q
  | .text s => s

/-- The component as it is printed, strings in quotes. -/
def shown : Elem → String
  | .number q => ratText q
  | .text s => "\"" ++ s ++ "\""

end Elem

abbrev Tuple := List Elem

namespace Tuple

def shape (t : Tuple) : List Elem.Kind :=
  t.map Elem.kind

/-- The tuple in angle brackets. -/
def shown (t : Tuple) : String :=
  "<" ++ String.intercalate "," (t.map Elem.shown) ++ ">"

/-- The components as they stand inside a generated name such as `c[1,a]`. -/
def bare (t : Tuple) : String :=
  String.intercalate "," (t.map Elem.bare)

/-- The kinds of the components in angle brackets. -/
def shapeText (t : Tuple) : String :=
  "<" ++ String.intercalate "," (t.shape.map Elem.Kind.name) ++ ">"

theorem length_eq_of_shape_eq {s t : Tuple} (h : shape s = shape t) : s.length = t.length := by
  simpa [shape] using congrArg List.length h

end Tuple

end ModelLang
