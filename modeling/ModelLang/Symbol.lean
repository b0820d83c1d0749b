import ModelLang.Statement
import ModelLang.Value

/-!
# ModelLang.Symbol

What a program has declared: sets, parameters and variables, each a family of values over index
tuples, and defines.
-/

namespace ModelLang

/-- One value for each index tuple. A family without index has its value at the empty tuple. -/
structure Family (α : Type) where
  domain : Option TupleSet
  entries : List (Tuple × α)
  /-- The value at every tuple that has no entry. -/
  fallback : Option α

namespace Family

variable {α : Type}

def scalar (a : α) : Family α := ⟨none, [([], a)], none⟩

/-- Whether the family has one value, and no index. -/
def isScalar (f : Family α) : Bool :=
  match f.domain, f.entries with
  | none, [([], _)] => true
  | _, _ => false

/-- The entry for an index. -/
def entry? (f : Family α) (index : Tuple) : Option α :=
  (f.entries.find? fun e => e.1 = index).map Prod.snd

/-- The value at an index; `name` is what faults call the family. -/
def get (f : Family α) (name : String) (index : Tuple) : Except Cause α :=
  match (f.entry? index).or f.fallback with
  | some a => .ok a
  | none => .error (.unknownIndex name index)

/-- The tuples that the family is indexed over. -/
def indexSet (f : Family α) : Except Cause TupleSet :=
  match f.domain with
  | some s => .ok s
  | none => TupleSet.ofTuples (f.entries.map Prod.fst)

end Family

/-- An expression with parameters, to be called by name. -/
structure Define where
  kind : DefineKind
  params : List String
  body : Expr

inductive Symbol where
  | set (f : Family TupleSet)
  | number (f : Family Number)
  | string (f : Family String)
  | var (f : Family VarId)
  | define (d : Define)

namespace Symbol

def kindName : Symbol → String
  | set _ => "set"
  | number _ => "numeric parameter"
  | string _ => "string parameter"
  | var _ => "variable"
  | define _ => "define"

/-- The value at an index. -/
def lookup (s : Symbol) (name : String) (index : Tuple) : Except Cause Value :=
  match s with
  | set f => (f.get name index).map .set
  | number f => (f.get name index).map .number
  | string f => (f.get name index).map .string
  | var f => (f.get name index).map fun v => .term (.ofVar v)
  | define _ => .error (.uncalledDefine name)

def indexSet (s : Symbol) (name : String) : Except Cause TupleSet :=
  match s with
  | set f => f.indexSet
  | number f => f.indexSet
  | string f => f.indexSet
  | var f => f.indexSet
  | define _ => .error (.defineIndexSet name)

end Symbol

/-- The declared symbols with their names, in the order of their declaration. -/
abbrev Symbols := List (String × Symbol)

namespace Symbols

def get? (symbols : Symbols) (name : String) : Option Symbol :=
  (symbols.find? fun e => e.1 = name).map Prod.snd

def get (symbols : Symbols) (name : String) : Except Cause Symbol :=
  match symbols.get? name with
  | some s => .ok s
  | none => .error (.unknownSymbol name)

def declares (symbols : Symbols) (name : String) : Bool :=
  (symbols.get? name).isSome

/-- Adds a symbol, unless its name is taken. -/
def declare (symbols : Symbols) (name : String) (s : Symbol) : Except Cause Symbols :=
  if symbols.declares name then .error (.duplicateSymbol name) else .ok (symbols ++ [(name, s)])

end Symbols

/-- The names bound by index patterns and by parameters of defines, the innermost first. -/
abbrev Scope := List (String × Value)

namespace Scope

def lookup? (scope : Scope) (name : String) : Option Value :=
  (scope.find? fun e => e.1 = name).map Prod.snd

def bind (scope : Scope) (name : String) (v : Value) : Scope :=
  (name, v) :: scope

/-- Binds names to values one after the other. -/
def bindAll (scope : Scope) : List String → List Value → Scope
  | name :: names, v :: vs => (scope.bind name v).bindAll names vs
  | _, _ => scope

end Scope

end ModelLang
