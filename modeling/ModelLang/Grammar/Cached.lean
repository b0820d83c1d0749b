import Std.Data.DHashMap
import ModelLang.Grammar.Peg

/-!
# ModelLang.Grammar.Cached

Reading by rules with a memory. Ordered choice reads some rules again and again at one place; what
such a rule gave there is kept and given again. A kept answer records no reach, since the reading
that gave it did.
-/

namespace ModelLang.Peg

variable {R : Type} [DecidableEq R] [Hashable R] {Result : R → Type}

/-- The answers kept so far, by position and rule. -/
abbrev Memory (Result : R → Type) :=
  Std.DHashMap (Nat × R) fun k => Answer (Result k.2)

/-- Reads by the rules of a grammar and keeps the answers of the rules that `keep` names. -/
def runCached (grammar : (r : R) → Peg Result (Result r)) (keep : R → Bool) :
    Nat → (r : R) → Reader (Memory Result) (Result r)
  | 0, _, _, s => (none, s)
  | depth + 1, r, c, (reach, memory) =>
    if keep r then
      match memory.get? (c.position, r) with
      | some answer => (answer, reach, memory)
      | none =>
        match (grammar r).run (runCached grammar keep depth) c (reach, memory) with
        | (answer, reach, memory) => (answer, reach, memory.insert (c.position, r) answer)
    else (grammar r).run (runCached grammar keep depth) c (reach, memory)

end ModelLang.Peg
