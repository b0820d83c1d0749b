import ModelLang.Location

/-!
# ModelLang.Expr

Expressions and index sets. Every node carries the span of the source it was read from.
-/

namespace ModelLang

inductive Comparison where
  | eq | ne | lt | le | gt | ge
deriving DecidableEq, Inhabited

inductive SetOp where
  | union | inter | without | symDiff | cross
deriving DecidableEq, Inhabited

inductive BinaryOp where
  | add | sub | mul | div | mod | intDiv | pow
  | set (op : SetOp)
  | and | or | xor
  | compare (op : Comparison)
  | mem
deriving DecidableEq, Inhabited

inductive UnaryOp where
  | neg | not | factorial
deriving DecidableEq, Inhabited

inductive Aggregate where
  | sum | prod | min | max
deriving DecidableEq, Inhabited

inductive Builtin where
  | card | abs | sgn | round | floor | ceil
  | log | ln | exp | sqrt | sin | cos | tan | asin | acos | atan
  | length | substr | random | ord | min | max | vabs
deriving DecidableEq, Inhabited

/-- What an option of a table says: lines to skip, rows to use, characters that start a comment,
or a pattern that lines have to match. -/
inductive ReadKey where
  | skip | use | comment | matching
deriving DecidableEq, Inhabited

structure Name where
  text : String
  span : Span
deriving DecidableEq, Inhabited

mutual

inductive Expr where
  | number (value : Rat) (span : Span)
  | infinity (span : Span)
  | string (content : String) (span : Span)
  | name (name : String) (span : Span)
  | subscript (name : String) (args : List Expr) (span : Span)
  | call (name : String) (args : List Expr) (span : Span)
  | builtin (function : Builtin) (args : List Expr) (span : Span)
  | tuple (items : List Expr) (span : Span)
  | setLiteral (items : List Expr) (span : Span)
  /-- From `first` in steps up or down to `last`, which is itself a member only if `closed`. -/
  | range (first last : Expr) (step : Option Expr) (closed : Bool) (span : Span)
  | setBuilder (index : IndexSet) (member : Option Expr) (span : Span)
  | proj (set positions : Expr) (span : Span)
  | indexSetOf (name : Name) (span : Span)
  | binary (op : BinaryOp) (lhs rhs : Expr) (span : Span)
  | unary (op : UnaryOp) (arg : Expr) (span : Span)
  | aggregate (kind : Aggregate) (index : IndexSet) (body : Expr) (span : Span)
  | nonempty (index : IndexSet) (span : Span)
  /-- The tuples with the best values of `body`, one of them or `count`. -/
  | argExtremum (maximize : Bool) (count : Option Expr) (index : IndexSet) (body : Expr)
      (span : Span)
  | indexedSetOp (op : SetOp) (index : IndexSet) (body : Expr) (span : Span)
  | conditional (condition yes no : Expr) (span : Span)
  | read (table : ReadSpec) (span : Span)

/-- `<i, 2> in S with c`: the tuples of `S` that match the pattern and satisfy the condition. A
bare name in the pattern binds the component, any other expression has to equal it. -/
inductive IndexSet where
  | mk (pattern : Option (List Expr)) (set : Expr) (condition : Option Expr) (span : Span)

/-- A table to read and the template of its columns. -/
inductive ReadSpec where
  | mk (file template : Expr) (options : List ReadOption)

inductive ReadOption where
  | mk (key : ReadKey) (value : Expr)

end

instance : Inhabited Expr := ⟨.infinity default⟩

instance : Inhabited IndexSet := ⟨.mk none default none default⟩

instance : Inhabited ReadSpec := ⟨.mk default default []⟩

namespace Expr

def span : Expr → Span
  | number _ s | infinity s | string _ s | name _ s | subscript _ _ s | call _ _ s
  | builtin _ _ s | tuple _ s | setLiteral _ s | range _ _ _ _ s | setBuilder _ _ s | proj _ _ s
  | indexSetOf _ s | binary _ _ _ s | unary _ _ s | aggregate _ _ _ s | nonempty _ s
  | argExtremum _ _ _ _ s | indexedSetOp _ _ _ s | conditional _ _ _ s | read _ s => s

/-- An operation spans from its first operand to its last. -/
def binaryOf (op : BinaryOp) (lhs rhs : Expr) : Expr :=
  .binary op lhs rhs (lhs.span.till rhs.span)

/-- The text of a bare name. -/
def name? : Expr → Option String
  | name s _ => some s
  | _ => none

end Expr

namespace IndexSet

def pattern : IndexSet → Option (List Expr)
  | mk p _ _ _ => p

def set : IndexSet → Expr
  | mk _ s _ _ => s

def condition : IndexSet → Option Expr
  | mk _ _ c _ => c

def span : IndexSet → Span
  | mk _ _ _ s => s

end IndexSet

def ReadSpec.file : ReadSpec → Expr
  | mk f _ _ => f

end ModelLang
