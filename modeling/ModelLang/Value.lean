import ModelLang.Expr
import ModelLang.Number.Arithmetic
import ModelLang.Number.Power
import ModelLang.Term
import ModelLang.TupleSet.Algebra

/-!
# ModelLang.Value

What expressions evaluate to, and the operators on values. Numbers and terms mix in arithmetic; a
result without variables is a number again.
-/

namespace ModelLang

inductive Value where
  | number (n : Number)
  | string (s : String)
  | truth (b : Bool)
  | tuple (t : Tuple)
  | set (s : TupleSet)
  | term (t : Term)
deriving Inhabited

namespace Elem

def toValue : Elem → Value
  | number q => .number (.finite q)
  | text s => .string s

end Elem

namespace Value

def ofRat (q : Rat) : Value := .number (.finite q)

def ofNat (n : Nat) : Value := ofRat n

def typeName : Value → String
  | number _ => "number"
  | string _ => "string"
  | truth _ => "boolean"
  | tuple _ => "tuple"
  | set _ => "set"
  | term _ => "term"

/-- A term as a value; without variables it is a number. -/
def ofTerm (t : Term) : Value :=
  if t.isConstant then ofRat t.constant else .term t

/-! ## Values of one type -/

def asNumber (op : String) : Value → Except Cause Number
  | number n => .ok n
  | v => .error (.typeMismatch op "number" v.typeName)

def asRat (op : String) (v : Value) : Except Cause Rat :=
  match v.asNumber op with
  | .ok n => n.finite? op
  | .error e => .error e

def asString (op : String) : Value → Except Cause String
  | string s => .ok s
  | v => .error (.typeMismatch op "string" v.typeName)

def asTruth (op : String) : Value → Except Cause Bool
  | truth b => .ok b
  | v => .error (.typeMismatch op "boolean" v.typeName)

def asSet (op : String) : Value → Except Cause TupleSet
  | set s => .ok s
  | v => .error (.typeMismatch op "set" v.typeName)

/-- Numbers and terms both take part in linear expressions. -/
def asTerm (op : String) : Value → Except Cause Term
  | term t => .ok t
  | number n => (n.finite? op).map Term.ofConstant
  | v => .error (.typeMismatch op "term" v.typeName)

def asElem (op : String) : Value → Except Cause Elem
  | number n => (n.finite? op).map Elem.number
  | string s => .ok (.text s)
  | v => .error (.typeMismatch op "number or string" v.typeName)

/-- A tuple as it is, a single component as a tuple of one. -/
def asTuple (op : String) : Value → Except Cause Tuple
  | tuple t => .ok t
  | v => (v.asElem op).map fun e => [e]

/-! ## Operators -/

def mismatch {α : Type} (op : String) (a b : Value) : Except Cause α :=
  .error (.typeMismatch op a.typeName b.typeName)

/-- Applies an operation on terms to two values that are numbers or terms. -/
def linear (op : String) (f : Term → Term → Except Cause Term) (a b : Value) : Except Cause Value :=
  match a.asTerm op with
  | .error e => .error e
  | .ok s =>
    match b.asTerm op with
    | .error e => .error e
    | .ok t => (f s t).map ofTerm

def add : Value → Value → Except Cause Value
  | number a, number b => (a.add b).map number
  | string a, string b => .ok (string (a ++ b))
  | set a, set b => (a.union b).map set
  | a@(term _), b@(term _) | a@(term _), b@(number _) | a@(number _), b@(term _) =>
    linear "+" (fun s t => .ok (s.add t)) a b
  | a, b => mismatch "+" a b

def sub : Value → Value → Except Cause Value
  | number a, number b => (a.sub b).map number
  | set a, set b => (a.without b).map set
  | a@(term _), b@(term _) | a@(term _), b@(number _) | a@(number _), b@(term _) =>
    linear "-" (fun s t => .ok (s.sub t)) a b
  | a, b => mismatch "-" a b

def mul : Value → Value → Except Cause Value
  | number a, number b => (a.mul b).map number
  | set a, set b => .ok (set (a.cross b))
  | a@(term _), b@(term _) | a@(term _), b@(number _) | a@(number _), b@(term _) =>
    linear "*" Term.mul a b
  | a, b => mismatch "*" a b

def div : Value → Value → Except Cause Value
  | number a, number b => (a.div b).map number
  | term a, number b =>
    match b.finite? "/" with
    | .ok q => (a.div q).map ofTerm
    | .error e => .error e
  | term _, term _ | number _, term _ => .error .nonlinear
  | a, b => mismatch "/" a b

def neg : Value → Except Cause Value
  | number n => .ok (number n.neg)
  | term t => .ok (term t.neg)
  | v => .error (.typeMismatch "unary -" "number" v.typeName)

/-- Applies an operation on fractions to two numbers. -/
def onRats (op : String) (f : Rat → Rat → Except Cause Rat) (a b : Value) : Except Cause Value :=
  match a.asNumber op with
  | .error e => .error e
  | .ok m =>
    match b.asNumber op with
    | .error e => .error e
    | .ok n =>
      match m.finite? op with
      | .error e => .error e
      | .ok q =>
        match n.finite? op with
        | .error e => .error e
        | .ok r => (f q r).map ofRat

/-- A term has no powers but itself. -/
def pow : Value → Value → Except Cause Value
  | term t, number n => if n = 1 then .ok (term t) else .error .nonlinear
  | term _, _ => .error .nonlinear
  | a, b => onRats "^" power a b

def setOp (op : SetOp) (a b : Value) : Except Cause Value :=
  match a.asSet "set operation" with
  | .error e => .error e
  | .ok s =>
    match b.asSet "set operation" with
    | .error e => .error e
    | .ok t =>
      match op with
      | .union => (s.union t).map set
      | .inter => (s.inter t).map set
      | .without => (s.without t).map set
      | .symDiff => (s.symDiff t).map set
      | .cross => .ok (set (s.cross t))

end Value

namespace Comparison

def symbol : Comparison → String
  | eq => "==" | ne => "!=" | lt => "<" | le => "<=" | gt => ">" | ge => ">="

/-- Whether the comparison holds of two values, given whether the first is below or equal. -/
def holds (op : Comparison) (below equal : Bool) : Bool :=
  match op with
  | eq => equal
  | ne => ! equal
  | lt => below
  | le => below || equal
  | gt => ! below && ! equal
  | ge => ! below

/-- Sets are ordered by inclusion. -/
def onSets (op : Comparison) (a b : TupleSet) : Bool :=
  match op with
  | eq => a.same b
  | ne => ! a.same b
  | le => a.subset b
  | lt => a.subset b && a.size < b.size
  | ge => b.subset a
  | gt => b.subset a && b.size < a.size

/-- Compares two values of one type. Truth values and tuples can only be equal or not. -/
def onValues (op : Comparison) : Value → Value → Except Cause Bool
  | .set a, .set b => .ok (op.onSets a b)
  | .number a, .number b => .ok (op.holds (a < b) (a = b))
  | .string a, .string b => .ok (op.holds (a < b) (a = b))
  | .truth a, .truth b =>
    if op = eq ∨ op = ne then .ok (op.holds false (a = b))
    else Value.mismatch op.symbol (.truth a) (.truth b)
  | .tuple a, .tuple b =>
    if op = eq ∨ op = ne then .ok (op.holds false (a = b))
    else Value.mismatch op.symbol (.tuple a) (.tuple b)
  | .term _, _ | _, .term _ => .error (.comparedTerm op.symbol)
  | a, b => Value.mismatch op.symbol a b

end Comparison

/-- The text that printing shows, with the given names of variables. -/
def Value.shownWith (name : VarId → String) : Value → String
  | number n => n.text
  | string s => s
  | truth b => if b then "true" else "false"
  | tuple t => Tuple.shown t
  | set s => s.shown
  | term t => t.shownWith name

end ModelLang
