/-!
# ModelLang.Text.Lines

Cutting a text into lines. A line ends at a line feed, and one carriage return directly before
that line feed belongs to the line break. The last line needs no line feed, but then keeps a
carriage return at its end. A text that ends in a line break has no empty line after it.
-/

namespace ModelLang.Text

/-- Removes one carriage return from the front of a reversed line. -/
def dropReturn : List Char → List Char
  | '\r' :: line => line
  | line => line

/-- The lines of a text whose current line so far is `line`, kept in reverse. -/
def linesFrom (line : List Char) : List Char → List (List Char)
  | [] => if line.isEmpty then [] else [line.reverse]
  | '\n' :: rest => (dropReturn line).reverse :: linesFrom [] rest
  | c :: rest => linesFrom (c :: line) rest

/-- The lines of a text, without their line breaks. -/
def lines (text : List Char) : List (List Char) :=
  linesFrom [] text

/-- The pieces of a byte sequence between line feeds; each piece but the last keeps its line
feed. -/
def byteLinesFrom (line : List UInt8) : List UInt8 → List (List UInt8)
  | [] => if line.isEmpty then [] else [line.reverse]
  | b :: rest =>
    if b = 10 then (b :: line).reverse :: byteLinesFrom [] rest else byteLinesFrom (b :: line) rest

/-- Decodes the longest run of leading pieces that are valid UTF-8. -/
def decodeWhileValid : List (List UInt8) → List Char
  | [] => []
  | piece :: rest =>
    match String.fromUTF8? ⟨piece.toArray⟩ with
    | some text => text.toList ++ decodeWhileValid rest
    | none => []

/-- The text of a file: reading stops before the first line that is not valid UTF-8. -/
def ofBytes (bytes : ByteArray) : List Char :=
  decodeWhileValid (byteLinesFrom [] bytes.toList)

/-- The bytes a list of characters takes in UTF-8. -/
def utf8Length : List Char → Nat
  | [] => 0
  | c :: cs => c.utf8Size + utf8Length cs

@[simp] theorem utf8Length_nil : utf8Length [] = 0 := rfl

@[simp] theorem utf8Length_cons (c : Char) (cs : List Char) :
    utf8Length (c :: cs) = c.utf8Size + utf8Length cs := rfl

@[simp] theorem utf8Length_append (as bs : List Char) :
    utf8Length (as ++ bs) = utf8Length as + utf8Length bs := by
  induction as with
  | nil => simp
  | cons c as ih => simp [ih, Nat.add_assoc]

end ModelLang.Text
