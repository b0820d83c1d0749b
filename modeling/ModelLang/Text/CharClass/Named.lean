import ModelLang.Text.CharClass

/-!
# ModelLang.Text.CharClass.Named

Classes that are known by names. Names are compared loosely: case, blanks, hyphens and underscores
do not count, nor do characters beyond ASCII, nor a leading `is`.
-/

namespace ModelLang.Text.CharClass

/-- What of a name counts in a comparison. The name `isc` is not taken for `c` with a leading
`is`. -/
def loose (name : List Char) : List Char :=
  let letters (cs : List Char) :=
    (cs.filter fun c => c.toNat < 128 && c ≠ ' ' && c ≠ '_' && c ≠ '-').map Char.toLower
  match name with
  | i :: s :: rest =>
    if i.toLower = 'i' ∧ s.toLower = 's' then
      if letters rest = ['c'] then ['i', 's', 'c'] else letters rest
    else letters name
  | _ => letters name

structure Named where
  names : List String
  cls : CharClass

namespace Named

/-- Whether one of the names is `name`, which is loose already. -/
def matchesName (name : List Char) (n : Named) : Bool :=
  n.names.any fun m => loose m.toList = name

/-- The class of a name in a table. -/
def find? (table : List Named) (name : List Char) : Option CharClass :=
  (table.find? (matchesName name)).map (·.cls)

end Named

end ModelLang.Text.CharClass
