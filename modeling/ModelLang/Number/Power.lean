import ModelLang.Number.Integral

/-!
# ModelLang.Number.Power

Powers and factorials. Whole exponents and factorials are exact, and refused before they are
computed if the result could need more than `maxBits` binary digits; `0`, `1` and `-1` stay small
under every exponent. A fractional exponent goes through floats, as the functions of
`Real.lean` do.
-/

namespace ModelLang

/-- The largest size of an exact power or factorial, in binary digits. -/
def maxBits : Nat := 0x100000

/-- The exact value of a float that an operation computed. -/
def ofDouble (op : String) (x : Float) : Except Cause Rat :=
  match Double.toRat? x with
  | some q => .ok q
  | none => .error (.noFiniteResult op)

/-- The larger of the binary sizes of numerator and denominator. -/
def ratBits (q : Rat) : Nat :=
  max (bitLength q.num.natAbs) (bitLength q.den)

/-- `q ^ n`; a base that stays small is not multiplied out. -/
def natPower (q : Rat) (n : Nat) : Rat :=
  if ratBits q ≤ 1 then
    if n = 0 then 1 else if n % 2 = 0 then q * q else q
  else q ^ n

/-- `base ^ exponent` for a whole exponent. -/
def wholePower (base : Rat) (exponent : Int) : Except Cause Rat :=
  let n := exponent.natAbs
  if 0x10000000000000000 ≤ n then .error .exponentTooLarge
  else if 1 < ratBits base ∧ maxBits < n * ratBits base then .error .exponentTooLarge
  else if exponent < 0 then
    if base = 0 then .error .divisionByZero else .ok (natPower base n)⁻¹
  else .ok (natPower base n)

def power (base exponent : Rat) : Except Cause Rat :=
  if exponent.den = 1 then wholePower base exponent.num
  else ofDouble "^" ((Double.ofRat base).pow (Double.ofRat exponent))

/-- `n` factorial. -/
def product : Nat → Nat
  | 0 => 1
  | n + 1 => (n + 1) * product n

/-- The factorial of `n` has fewer than `n` times the binary digits of `n`. -/
def factorial (q : Rat) : Except Cause Rat :=
  match integer? q with
  | .error e => .error e
  | .ok z =>
    if z < 0 then .error (.negativeFactorial z)
    else if maxBits < z.natAbs * bitLength z.natAbs then .error (.factorialTooLarge z)
    else .ok (product z.natAbs : Nat)

end ModelLang
