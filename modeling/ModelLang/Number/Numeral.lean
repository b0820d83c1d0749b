/-!
# ModelLang.Number.Numeral

Unsigned decimal numerals such as `12`, `.25` and `1.5e-3`, and their exact values. A point needs
a digit after it, so that `1..5` starts with the numeral `1`. A numeral denotes its digits times
a power of ten, and has a value only if that power is at most 10000 either way. The power is
counted in 32 bits with a sign. The least such integer has no negation, and a numeral with this
power of ten does not get as far as the comparison with 10000.
-/

namespace ModelLang.Numeral

/-- The largest power of ten, up or down, that a numeral with a value may carry. -/
def maxScale : Nat := 10000

/-- The digits at the front, and the rest. -/
def spanDigits (cs : List Char) : List Char × List Char :=
  (cs.takeWhile Char.isDigit, cs.dropWhile Char.isDigit)

/-- Digits with at most one point between or before them. -/
def spanMantissa? (cs : List Char) : Option (List Char × List Char) :=
  let (whole, rest) := spanDigits cs
  let plain := if whole.isEmpty then none else some (whole, rest)
  match rest with
  | '.' :: tail =>
    let (fraction, rest) := spanDigits tail
    if fraction.isEmpty then plain else some (whole ++ '.' :: fraction, rest)
  | _ => plain

/-- The exponent at the front if there is a whole one, and the rest. -/
def spanExponent (cs : List Char) : List Char × List Char :=
  match cs with
  | e :: rest =>
    if e = 'e' || e = 'E' then
      let (sign, rest) :=
        match rest with
        | '+' :: rest => (['+'], rest)
        | '-' :: rest => (['-'], rest)
        | rest => ([], rest)
      let (digits, rest) := spanDigits rest
      if digits.isEmpty then ([], cs) else (e :: sign ++ digits, rest)
    else ([], cs)
  | [] => ([], [])

/-- The longest numeral at the front, and the rest. -/
def span? (cs : List Char) : Option (List Char × List Char) :=
  match spanMantissa? cs with
  | none => none
  | some (mantissa, rest) =>
    let (exponent, rest) := spanExponent rest
    some (mantissa ++ exponent, rest)

/-- Whether the whole text is one numeral. -/
def isNumeral (cs : List Char) : Bool :=
  match span? cs with
  | some (_, rest) => rest.isEmpty
  | none => false

/-- The natural number that digits denote. -/
def ofDigits (digits : List Char) : Nat :=
  digits.foldl (fun n c => 10 * n + (c.toNat - '0'.toNat)) 0

/-- The integer that digits after an optional sign denote. -/
def ofSigned : List Char → Int
  | '-' :: digits => - ofDigits digits
  | '+' :: digits => ofDigits digits
  | digits => ofDigits digits

/-- `n * 10 ^ scale`. -/
def scaled (n : Nat) (scale : Int) : Rat :=
  match scale with
  | .ofNat k => ((n * Nat.pow 10 k : Nat) : Rat)
  | .negSucc k => mkRat n (Nat.pow 10 (k + 1))

def isExponentMark (c : Char) : Bool := c = 'e' || c = 'E'

/-- The digits of a numeral without the point. -/
def significand (cs : List Char) : List Char :=
  (cs.takeWhile (! isExponentMark ·)).filter (· != '.')

/-- The digits after the point. -/
def fraction (cs : List Char) : List Char :=
  ((cs.takeWhile (! isExponentMark ·)).dropWhile (· != '.')).drop 1

/-- The exponent as it is written, zero if there is none. -/
def exponent (cs : List Char) : Int :=
  ofSigned ((cs.dropWhile (! isExponentMark ·)).drop 1)

/-- The power of ten that the digits are multiplied by. -/
def scale (cs : List Char) : Int :=
  exponent cs - (fraction cs).length

/-- The least integer of 32 bits with a sign. -/
def leastWord : Int := -2147483648

/-- Whether an integer fits into 32 bits with a sign. -/
def isWord (n : Int) : Bool :=
  leastWord ≤ n && n < - leastWord

/-- What comes of a numeral: its value, no value because its power of ten is too large, or an
overflow in the comparison of the power with its bound. -/
inductive Outcome where
  | value (q : Rat)
  | outOfRange
  | overflow
deriving DecidableEq

namespace Outcome

/-- The value, if there is one. -/
def value? : Outcome → Option Rat
  | value q => some q
  | _ => none

/-- The outcome for the numeral with a minus sign before it. -/
def neg : Outcome → Outcome
  | value q => value (-q)
  | other => other

end Outcome

/-- What comes of a numeral without a sign. -/
def unsigned (cs : List Char) : Outcome :=
  if ! (isWord (exponent cs) && isWord (fraction cs).length && isWord (scale cs)) then .outOfRange
  else if scale cs = leastWord then .overflow
  else if (scale cs).natAbs > maxScale then .outOfRange
  else .value (scaled (ofDigits (significand cs)) (scale cs))

/-- The value of a numeral. -/
def value? (cs : List Char) : Option Rat :=
  (unsigned cs).value?

/-- What comes of a text that is a numeral after at most one sign, and nothing for any other. -/
def signed? : List Char → Option Outcome
  | '-' :: cs => if isNumeral cs then some (unsigned cs).neg else none
  | '+' :: cs => if isNumeral cs then some (unsigned cs) else none
  | cs => if isNumeral cs then some (unsigned cs) else none

end ModelLang.Numeral
