import ModelLang.Text.Cluster
import ModelLang.Text.Lines

/-!
# ModelLang.Text.Erasure

Backspaces in a typed line: each removes the cluster before it.
-/

namespace ModelLang.Text

namespace Erasure

/-- A line as typed so far. -/
structure Typed where
  /-- Its characters in reverse. -/
  text : List Char
  /-- The lengths in bytes of its clusters, the last one first. -/
  lengths : List Nat

/-- Removes characters of so many bytes from the front. -/
def dropBytes (bytes : Nat) : List Char → List Char
  | [] => []
  | c :: rest => if bytes < c.utf8Size then c :: rest else dropBytes (bytes - c.utf8Size) rest

/-- Takes one more cluster. A length is kept in one byte, so that of an oversize cluster only a
part is removed. -/
def Typed.type (t : Typed) (cluster : List Char) : Typed :=
  if cluster = ['\x08'] then
    match t.lengths with
    | [] => t
    | n :: lengths => ⟨dropBytes n t.text, lengths⟩
  else ⟨cluster.reverse ++ t.text, utf8Length cluster % 256 :: t.lengths⟩

end Erasure

/-- A line after its backspaces have removed what they stand behind. -/
def erase (line : List Char) : List Char :=
  ((clusters line).foldl Erasure.Typed.type ⟨[], []⟩).text.reverse

end ModelLang.Text
