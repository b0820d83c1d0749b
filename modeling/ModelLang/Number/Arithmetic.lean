import ModelLang.Cause

/-!
# ModelLang.Number.Arithmetic

Arithmetic on numbers. Infinities absorb fractions; what has no limit, such as
`infinity - infinity`, fails. Division by zero is tested before all else.
-/

namespace ModelLang.Number

/-- The fraction that a number is, for operations that know no infinity. -/
def finite? (op : String) : Number → Except Cause Rat
  | .finite q => .ok q
  | _ => .error (.infinityArithmetic op)

def sign : Number → Int
  | .minusInfinity => -1
  | .plusInfinity => 1
  | .finite q => q.num.sign

/-- The infinity of the given sign. -/
def infinity (s : Int) : Number :=
  if 0 < s then .plusInfinity else .minusInfinity

def neg : Number → Number
  | .minusInfinity => .plusInfinity
  | .finite q => .finite (-q)
  | .plusInfinity => .minusInfinity

def add : Number → Number → Except Cause Number
  | .finite a, .finite b => .ok (.finite (a + b))
  | .plusInfinity, .minusInfinity | .minusInfinity, .plusInfinity =>
    .error (.infinityArithmetic "infinity - infinity")
  | .finite _, b => .ok b
  | a, _ => .ok a

def sub (a b : Number) : Except Cause Number :=
  a.add b.neg

def mul : Number → Number → Except Cause Number
  | .finite a, .finite b => .ok (.finite (a * b))
  | a, b =>
    let s := a.sign * b.sign
    if s = 0 then .error (.infinityArithmetic "infinity * 0") else .ok (infinity s)

def div (a b : Number) : Except Cause Number :=
  if b = 0 then .error .divisionByZero
  else
    match a, b with
    | .finite a, .finite b => .ok (.finite (a / b))
    | .finite _, _ => .ok 0
    | a, .finite b => .ok (infinity (a.sign * b.num.sign))
    | _, _ => .error (.infinityArithmetic "infinity / infinity")

def abs : Number → Number
  | .finite q => .finite q.abs
  | _ => .plusInfinity

end ModelLang.Number
