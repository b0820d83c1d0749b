import ModelLang.Number.Power

/-!
# ModelLang.Number.Real

Roots, logarithms and trigonometry. A fraction is converted to a float, the function applied, and
the result taken as the exact fraction that the float is.
-/

namespace ModelLang

inductive RealFunction where
  | log | ln | exp | sqrt | sin | cos | tan | asin | acos | atan
deriving DecidableEq

namespace RealFunction

def name : RealFunction → String
  | log => "log" | ln => "ln" | exp => "exp" | sqrt => "sqrt" | sin => "sin" | cos => "cos"
  | tan => "tan" | asin => "asin" | acos => "acos" | atan => "atan"

/-- `log` is to the base ten, `ln` to the base e. -/
def onDouble : RealFunction → Float → Float
  | log => Float.log10 | ln => Float.log | exp => Float.exp | sqrt => Float.sqrt
  | sin => Float.sin | cos => Float.cos | tan => Float.tan
  | asin => Float.asin | acos => Float.acos | atan => Float.atan

def apply (f : RealFunction) (q : Rat) : Except Cause Rat :=
  ofDouble f.name (f.onDouble (Double.ofRat q))

end RealFunction

end ModelLang
