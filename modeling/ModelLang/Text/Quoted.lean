import ModelLang.Text.CharClass.Combining
import ModelLang.Text.CharClass.Unprintable

/-!
# ModelLang.Text.Quoted

Characters and strings in quotes, so that every character can be told from the written form.
Controls, combining characters and other characters that do not show are written by code point.
-/

namespace ModelLang.Text

/-- A character inside quotes of the kind `quote`. -/
def escape (quote c : Char) : List Char :=
  if c = '\x00' then ['\\', '0']
  else if c = '\t' then ['\\', 't']
  else if c = '\r' then ['\\', 'r']
  else if c = '\n' then ['\\', 'n']
  else if c = '\\' || c = quote then ['\\', c]
  else if CharClass.isCombining c || CharClass.isUnprintable c then
    ['\\', 'u', '\x7b'] ++ Nat.toDigits 16 c.toNat ++ ['\x7d']
  else [c]

/-- A character in single quotes. -/
def quoteChar (c : Char) : String :=
  String.ofList (['\x27'] ++ escape '\x27' c ++ ['\x27'])

/-- A string in double quotes. -/
def quote (s : String) : String :=
  String.ofList (['"'] ++ s.toList.flatMap (escape '"') ++ ['"'])

end ModelLang.Text
