import ModelLang.Eval.Basic
import ModelLang.Number.Real

/-!
# ModelLang.Eval.Builtin

The functions of the language on values.
-/

namespace ModelLang

namespace Builtin

def name : Builtin → String
  | card => "card" | abs => "abs" | sgn => "sgn" | round => "round" | floor => "floor"
  | ceil => "ceil" | log => "log" | ln => "ln" | exp => "exp" | sqrt => "sqrt" | sin => "sin"
  | cos => "cos" | tan => "tan" | asin => "asin" | acos => "acos" | atan => "atan"
  | length => "length" | substr => "substr" | random => "random" | ord => "ord" | min => "min"
  | max => "max" | vabs => "vabs"

/-- How many arguments a function takes. The least and the greatest take as many as are given, but
at least one. -/
def arity (given : Nat) : Builtin → Nat
  | substr | ord => 3
  | random => 2
  | min | max => Nat.max given 1
  | _ => 1

def real? : Builtin → Option RealFunction
  | log => some .log | ln => some .ln | exp => some .exp | sqrt => some .sqrt
  | sin => some .sin | cos => some .cos | tan => some .tan
  | asin => some .asin | acos => some .acos | atan => some .atan
  | _ => none

end Builtin

namespace Value

/-- A count that an argument gives. -/
def asCount (op : String) (v : Value) : Except Cause Nat :=
  match v.asRat op with
  | .ok q => count? q
  | .error e => .error e

def absolute (op : String) (v : Value) : Except Cause Value :=
  (v.asNumber op).map fun n => .number n.abs

/-- A fraction computed from a fraction. -/
def onRat (op : String) (f : Rat → Rat) (v : Value) : Except Cause Value :=
  (v.asRat op).map fun q => ofRat (f q)

def real (f : RealFunction) (v : Value) : Except Cause Value :=
  match v.asRat f.name with
  | .ok q => (f.apply q).map ofRat
  | .error e => .error e

/-- `count` characters of a string after the first `start`. -/
def substring (s start count : Value) : Except Cause Value := do
  let s ← s.asString "substr"
  let start ← start.asCount "substr"
  let count ← count.asCount "substr"
  return .string (String.ofList ((s.toList.drop start).take count))

/-- A component of the `n`-th tuple of a set, both counted from one. -/
def component (set n component : Value) : Except Cause Value := do
  let set ← set.asSet "ord"
  let n ← n.asCount "ord"
  let component ← component.asCount "ord"
  match set.nth? n with
  | none => .error (.noElement n)
  | some t =>
    match component with
    | 0 => .error (.noComponent t 0)
    | i + 1 =>
      match t[i]? with
      | some e => return e.toValue
      | none => .error (.noComponent t (i + 1))

end Value

/-- The least of some numbers, or the greatest. -/
def Number.extreme? (greatest : Bool) : List Number → Option Number
  | [] => none
  | n :: rest =>
    match Number.extreme? greatest rest with
    | none => some n
    | some best => if (if greatest then n < best else best < n) then some best else some n

namespace Builtin

/-- The number that a tuple of one component is. -/
def memberNumber (op : String) : Tuple → Except Cause Number
  | [.number q] => .ok (.finite q)
  | _ => .error (.typeMismatch op "set of numbers" "set of tuples")

/-- The numbers to compare: the members of a single set, or the arguments. -/
def candidates (op : String) : List Value → Except Cause (List Number)
  | [.set s] => s.tuples.mapM (memberNumber op)
  | vs => vs.mapM (Value.asNumber op)

def extremum (greatest : Bool) (vs : List Value) : Except Cause Value :=
  let op := if greatest then "max" else "min"
  match candidates op vs with
  | .error e => .error e
  | .ok ns =>
    match Number.extreme? greatest ns with
    | some n => .ok (.number n)
    | none => .error (.emptyDomain op)

/-- What a function is of values, unless it needs more than its values. -/
def onValues (f : Builtin) (args : List Value) : Except Cause Value :=
  match f, args with
  | card, [v] => (v.asSet "card").map fun s => .ofNat s.size
  | abs, [v] => v.absolute "abs"
  | sgn, [v] => v.onRat "sgn" fun q => q.num.sign
  | floor, [v] => v.onRat "floor" fun q => q.floor
  | ceil, [v] => v.onRat "ceil" fun q => q.ceil
  | round, [v] => v.onRat "round" fun q => roundAway q
  | length, [v] => (v.asString "length").map fun s => .ofNat s.length
  | substr, [s, start, count] => Value.substring s start count
  | ord, [set, n, component] => Value.component set n component
  | min, v :: vs => extremum false (v :: vs)
  | max, v :: vs => extremum true (v :: vs)
  | vabs, [v] => v.absolute "vabs"
  | f, [v] =>
    match f.real? with
    | some g => v.real g
    | none => .error (.argumentCount f.name (f.arity 1) 1)
  | f, args => .error (.argumentCount f.name (f.arity args.length) args.length)

/-- The ends of the range of a random number. -/
def randomBounds (low high : Value) : Except Cause (Rat × Rat) := do
  let low ← low.asRat "random"
  let high ← high.asRat "random"
  if Double.ofRat high < Double.ofRat low then .error (.randomRange low high)
  else return (low, high)

/-- A number from `low` up to `high`, which itself is not drawn. -/
def drawn (low high : Rat) (sample : Float) : Except Cause Rat :=
  ofDouble "random" (Double.ofRat low + sample * (Double.ofRat high - Double.ofRat low))

/-- Calls a function. -/
def call (f : Builtin) (args : List Value) (span : Span) : Eval Value :=
  match f, args with
  | random, [low, high] => do
    let (low, high) ← Eval.located span (randomBounds low high)
    let sample ← Eval.nextRandom
    let q ← Eval.located span (drawn low high sample)
    return .ofRat q
  | vabs, [.term t] => do
    let u ← Eval.onModel span (Build.absolute t)
    return .ofTerm u
  | f, args => Eval.located span (f.onValues args)

end Builtin

end ModelLang
