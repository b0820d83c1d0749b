import ModelLang.Number.Double

/-!
# ModelLang.Number.Shortest

The shortest decimal text of a float: the fewest digits that read back as the same float, of
those the nearest to its value, a tie going up. The text is positional at every size, without an
exponent.
-/

namespace ModelLang.Double

/-- The decimal number `digits * 10 ^ exponent`. -/
structure Decimal where
  digits : Nat
  exponent : Int

/-- A value and the ends of the interval of reals that round to it, over one denominator. -/
structure Interval where
  low : Nat
  value : Nat
  high : Nat
  denominator : Nat
  closed : Bool

def Parts.interval (p : Parts) : Interval :=
  let m := 4 * p.significand
  let below := if p.narrow then 1 else 2
  let up := 1 <<< (p.exponent - 2).toNat
  ⟨(m - below) * up, m * up, (m + 2) * up, 1 <<< (2 - p.exponent).toNat, p.significand % 2 = 0⟩

/-- Whether `n * 10 ^ e` lies in the interval. -/
def Interval.contains (i : Interval) (n : Nat) (e : Int) : Bool :=
  let x := n * Nat.pow 10 e.toNat * i.denominator
  let unit := Nat.pow 10 (-e).toNat
  if i.closed then i.low * unit ≤ x && x ≤ i.high * unit else i.low * unit < x && x < i.high * unit

/-- The nearest point of the grid of multiples of `10 ^ e` that lies in the interval. -/
def Interval.nearest? (i : Interval) (e : Int) : Option Nat :=
  let grid := Nat.pow 10 e.toNat * i.denominator
  let value := i.value * Nat.pow 10 (-e).toNat
  let below := value / grid
  let rest := value - below * grid
  let first := if 2 * rest < grid then below else below + 1
  let second := if 2 * rest < grid then below + 1 else below
  if i.contains first e then some first else if i.contains second e then some second else none

/-- The least `k` from `guess` on with `value < 10 ^ k`, given that one of the next few is. -/
def Interval.magnitude (i : Interval) (guess : Int) : Nat → Int
  | 0 => guess
  | steps + 1 =>
    if i.value * Nat.pow 10 (-guess).toNat < Nat.pow 10 guess.toNat * i.denominator then guess
    else magnitude i (guess + 1) steps

/-- Tries grids of `count` and more digits below `10 ^ k`, `left` of them in all. -/
def Interval.search (i : Interval) (k : Int) (count : Nat) : Nat → Decimal
  | 0 => ⟨0, 0⟩
  | left + 1 =>
    match i.nearest? (k - count) with
    | some n => ⟨n, k - count⟩
    | none => search i k (count + 1) left

/-- The fewest digits that lie between the neighbours of the value. -/
def Parts.shortest (p : Parts) : Decimal :=
  let i := p.interval
  let guess := (p.significand.log2 + p.exponent) * 30103 / 100000
  i.search (i.magnitude guess 3) 1 18

/-- Removes zeros at the end of the digits, which are given in reverse. -/
def dropZeros (exponent : Int) : List Char → List Char × Int
  | '0' :: rest => dropZeros (exponent + 1) rest
  | digits => (digits.reverse, exponent)

/-- A decimal in positional notation, without zeros after the last digit of a fraction. -/
def Decimal.text (d : Decimal) : List Char :=
  let (digits, exponent) := dropZeros d.exponent (Nat.toDigits 10 d.digits).reverse
  match exponent with
  | .ofNat k => digits ++ List.replicate k '0'
  | .negSucc k =>
    let places := k + 1
    if digits.length ≤ places then
      ['0', '.'] ++ List.replicate (places - digits.length) '0' ++ digits
    else
      digits.take (digits.length - places) ++ ['.'] ++ digits.drop (digits.length - places)

/-- The text of a float; infinity and the undefined number have names. -/
def text (x : Float) : List Char :=
  match decode x with
  | (negative, none) =>
    if x.isNaN then ['N', 'a', 'N']
    else if negative then ['-', 'i', 'n', 'f']
    else ['i', 'n', 'f']
  | (negative, some p) =>
    let sign := if negative then ['-'] else []
    if p.significand = 0 then sign ++ ['0'] else sign ++ p.shortest.text

end ModelLang.Double
