/-!
# ModelLang.Number.Random

Random numbers. Of a generator only the floats are known that it gives, one after another.
-/

namespace ModelLang

/-- The floats of a generator, and how many of them have been taken. -/
structure Random where
  floats : Nat → Float
  taken : Nat
deriving Inhabited

/-- The next float. -/
def Random.next (r : Random) : Float × Random :=
  (r.floats r.taken, { r with taken := r.taken + 1 })

end ModelLang
