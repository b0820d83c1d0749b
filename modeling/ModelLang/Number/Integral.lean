import ModelLang.Cause

/-!
# ModelLang.Number.Integral

From fractions to integers: rounding, division with a remainder, and the ranges that counts and
priorities have to keep to.
-/

namespace ModelLang

/-- The integer next to `q` on the side of zero. -/
def truncate (q : Rat) : Int :=
  q.num.tdiv q.den

/-- The nearest integer, a half away from zero. -/
def roundAway (q : Rat) : Int :=
  if q < 0 then - (-q + 1 / 2).floor else (q + 1 / 2).floor

/-- The quotient of `a` and `b` without its fractional part. -/
def quotient (a b : Rat) : Except Cause Rat :=
  if b = 0 then .error .divisionByZero else .ok (truncate (a / b))

/-- What the truncated quotient leaves of `a`, so that the result has the sign of `a`. -/
def remainder (a b : Rat) : Except Cause Rat :=
  match quotient a b with
  | .ok q => .ok (a - b * q)
  | .error e => .error e

def integer? (q : Rat) : Except Cause Int :=
  if q.den = 1 then .ok q.num else .error (.notInteger q)

/-- An integer of at most 64 bits with sign. -/
def signed64? (q : Rat) : Except Cause Int :=
  match integer? q with
  | .ok z =>
    if -0x8000000000000000 ≤ z ∧ z < 0x8000000000000000 then .ok z else .error (.outOfRange q)
  | .error e => .error e

/-- A natural number below `2 ^ 64`. -/
def count? (q : Rat) : Except Cause Nat :=
  match integer? q with
  | .ok z => if 0 ≤ z ∧ z < 0x10000000000000000 then .ok z.toNat else .error (.notCount q)
  | .error e => .error e

/-- The number of binary digits; zero has none. -/
def bitLength (n : Nat) : Nat :=
  if n = 0 then 0 else n.log2 + 1

end ModelLang
