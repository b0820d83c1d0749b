import ModelLang.Number.Random

/-!
# ModelLang.Number.SplitMix

A generator of floats that look random. Equal seeds give equal floats.
-/

namespace ModelLang.SplitMix

/-- Spreads the bits of a state, so that neighbouring states give unrelated results. -/
def mix (z : UInt64) : UInt64 :=
  let z := (z ^^^ (z >>> 30)) * 0xbf58476d1ce4e5b9
  let z := (z ^^^ (z >>> 27)) * 0x94d049bb133111eb
  z ^^^ (z >>> 31)

/-- The float of a state, at least zero and below one. -/
def float (state : UInt64) : Float :=
  (mix state >>> 11).toFloat / 9007199254740992

/-- The generator of a seed. Its state grows by the same from float to float. -/
def generator (seed : Nat) : Random :=
  ⟨fun n => float (seed.toUInt64 + (n + 1).toUInt64 * 0x9e3779b97f4a7c15), 0⟩

end ModelLang.SplitMix
