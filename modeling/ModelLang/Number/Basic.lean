import ModelLang.Number.Digits
import ModelLang.Number.Shortest

/-!
# ModelLang.Number.Basic

The numbers of the language: exact fractions and the two infinities, with minus infinity below
and plus infinity above every fraction.
-/

namespace ModelLang

inductive Number where
  | minusInfinity
  | finite (value : Rat)
  | plusInfinity
deriving DecidableEq, Inhabited

/-- A fraction as text: an integer in full, any other fraction as the nearest float. -/
def ratText (q : Rat) : String :=
  if q.den = 1 then intText q.num else String.ofList (Double.text (Double.ofRat q))

namespace Number

instance : Zero Number := ⟨.finite 0⟩

instance : One Number := ⟨.finite 1⟩

def isFinite : Number → Bool
  | .finite _ => true
  | _ => false

/-- Applies a function to a fraction, and leaves an infinity as it is. -/
def onFinite (f : Rat → Rat) : Number → Number
  | .finite q => .finite (f q)
  | n => n

def text : Number → String
  | .minusInfinity => "-infinity"
  | .finite q => ratText q
  | .plusInfinity => "infinity"

/-- Strictly below. -/
def below : Number → Number → Bool
  | .minusInfinity, .minusInfinity => false
  | .minusInfinity, _ => true
  | .finite a, .finite b => decide (a < b)
  | .finite _, .plusInfinity => true
  | _, _ => false

instance : LT Number := ⟨fun a b => a.below b = true⟩

instance : LE Number := ⟨fun a b => b.below a = false⟩

instance (a b : Number) : Decidable (a < b) := inferInstanceAs (Decidable (_ = true))

instance (a b : Number) : Decidable (a ≤ b) := inferInstanceAs (Decidable (_ = false))

theorem lt_iff_below {a b : Number} : a < b ↔ a.below b = true := Iff.rfl

theorem le_iff_below {a b : Number} : a ≤ b ↔ b.below a = false := Iff.rfl

end Number

end ModelLang
