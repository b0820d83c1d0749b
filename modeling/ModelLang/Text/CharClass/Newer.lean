import ModelLang.Text.CharClass.Word

/-!
# ModelLang.Text.CharClass.Newer

Letters and numbers of version 17.0.
-/

namespace ModelLang.Text.CharClass

/-- Letters in the wide sense that version 17.0 added. -/
def newerAlphabetic : CharClass where
  boundaries := [
    0x88f, 0x890, 0xc5c, 0xc5d, 0xcdc, 0xcdd, 0xa7ce, 0xa7d0, 0xa7d2, 0xa7d3, 0xa7d4, 0xa7d5,
    0xa7f1, 0xa7f2, 0x10940, 0x1095a, 0x10ec5, 0x10ec8, 0x10efa, 0x10efc, 0x11b60, 0x11b68, 0x11db0,
    0x11ddc, 0x16ea0, 0x16eb9, 0x16ebb, 0x16ed4, 0x16ff2, 0x16ff7, 0x187f8, 0x18800, 0x18d09,
    0x18d1f, 0x18d80, 0x18df3, 0x1e6c0, 0x1e6df, 0x1e6e0, 0x1e6f6, 0x1e6fe, 0x1e700, 0x2b73a,
    0x2b740, 0x2cea2, 0x2ceae, 0x323b0, 0x3347a]

/-- Numbers that version 17.0 added. -/
def newerNumber : CharClass where
  boundaries := [0x11de0, 0x11dea, 0x16ff4, 0x16ff7]

/-- A letter in the wide sense. -/
def isAlphabetic (c : Char) : Bool :=
  alphabetic.contains c || newerAlphabetic.contains c

/-- A digit or another number. -/
def isNumeric (c : Char) : Bool :=
  number.contains c || newerNumber.contains c

end ModelLang.Text.CharClass
