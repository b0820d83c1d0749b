import ModelLang.Text.CharClass

/-!
# ModelLang.Text.CharClass.Blank

The white space of Unicode.
-/

namespace ModelLang.Text.CharClass

def blank : CharClass where
  boundaries := [
    9, 0xe, 0x20, 0x21, 0x85, 0x86, 0xa0, 0xa1, 0x1680, 0x1681, 0x2000, 0x200b, 0x2028, 0x202a,
    0x202f, 0x2030, 0x205f, 0x2060, 0x3000, 0x3001]

/-- White space, the space and the line breaks included. -/
def isBlank (c : Char) : Bool :=
  blank.contains c

/-- The text without the white space at its ends. -/
def trim (cs : List Char) : List Char :=
  ((cs.dropWhile isBlank).reverse.dropWhile isBlank).reverse

end ModelLang.Text.CharClass
