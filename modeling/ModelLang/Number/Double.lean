/-!
# ModelLang.Number.Double

Exact numbers and 64-bit floats. A natural number becomes the nearest float, a tie the one with
the even significand, and one above the range becomes infinity. A fraction becomes the float
quotient of its numerator and its denominator. The way back is exact.
-/

namespace ModelLang.Double

/-- `n / 2 ^ shift`, rounded to the nearest natural number, a tie to the even one. -/
def roundShift (n shift : Nat) : Nat :=
  let whole := n >>> shift
  let twice := 2 * (n - whole <<< shift)
  let unit := 1 <<< shift
  if twice < unit || (twice = unit && whole % 2 = 0) then whole else whole + 1

/-- The bits of the float nearest to `n`. A significand that rounds up to the next power of two
carries into the exponent by itself. -/
def bitsOfNat (n : Nat) : Nat :=
  if n = 0 then 0
  else
    let top := n.log2
    let significand := if top ≤ 52 then n <<< (52 - top) else roundShift n (top - 52)
    min (((top + 1022) <<< 52) + significand) (2047 <<< 52)

def ofNat (n : Nat) : Float :=
  Float.ofBits (bitsOfNat n).toUInt64

def ofInt (z : Int) : Float :=
  if z < 0 then - ofNat z.natAbs else ofNat z.natAbs

def ofRat (q : Rat) : Float :=
  ofInt q.num / ofNat q.den

/-- A finite float other than zero as `significand * 2 ^ exponent`. `narrow` marks a power of two
whose lower neighbour is only half as far away as its upper one. -/
structure Parts where
  significand : Nat
  exponent : Int
  narrow : Bool

/-- The sign bit, and the magnitude unless it is infinite or not a number. -/
def decode (x : Float) : Bool × Option Parts :=
  let bits := x.toBits.toNat
  let biased := bits >>> 52 &&& 0x7ff
  let fraction := bits &&& 0xfffffffffffff
  let negative := bits >>> 63 = 1
  if biased = 0x7ff then (negative, none)
  else if biased = 0 then (negative, some ⟨fraction, -1074, false⟩)
  else (negative, some ⟨fraction + 0x10000000000000, biased - 1075, fraction = 0 && biased > 1⟩)

/-- `m * 2 ^ e`. -/
def scaled (m : Int) (e : Int) : Rat :=
  match e with
  | .ofNat k => ((m * (1 <<< k : Nat) : Int) : Rat)
  | .negSucc k => mkRat m (1 <<< (k + 1))

/-- The exact value of a finite float. -/
def toRat? (x : Float) : Option Rat :=
  match decode x with
  | (_, none) => none
  | (negative, some p) =>
    some (scaled (if negative then -p.significand else p.significand) p.exponent)

end ModelLang.Double
