/-!
# ModelLang.Number.Digits

The decimal digits of an integer. A number is split at a power of ten into a front and a back half
of its digits, and so on down to single digits, which keeps large factorials printable.
-/

namespace ModelLang

/-- The last `2 ^ level` digits of `n`, zeros included, in front of `after`. -/
def lastDigits : Nat → Nat → List Char → List Char
  | 0, n, after => Nat.digitChar (n % 10) :: after
  | level + 1, n, after =>
    let half := Nat.pow 10 (1 <<< level)
    lastDigits level (n / half) (lastDigits level (n % half) after)

/-- A level whose number of digits is enough for `n`: each binary digit counts as one digit. -/
def digitLevel (n : Nat) : Nat :=
  (n.log2 + 1).log2 + 1

def natDigits (n : Nat) : List Char :=
  match (lastDigits (digitLevel n) n []).dropWhile (· = '0') with
  | [] => ['0']
  | digits => digits

def intText (z : Int) : String :=
  String.ofList (if z < 0 then '-' :: natDigits z.natAbs else natDigits z.natAbs)

end ModelLang
