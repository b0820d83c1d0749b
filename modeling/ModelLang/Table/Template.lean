import ModelLang.Cause
import ModelLang.Number.Numeral
import ModelLang.Text.CharClass.Blank
import ModelLang.Text.CharClass.Digit

/-!
# ModelLang.Table.Template

Which columns of a table make up its data. In `<1n,2s> 3n` the columns in angle brackets give the
key and the column after them gives the value. Columns count from one; `n` stands for a column of
numbers and `s` for one of strings.
-/

namespace ModelLang.Table

open Text.CharClass (isBlank isDigit trim)

structure Column where
  position : Nat
  kind : Elem.Kind
deriving DecidableEq

structure Template where
  key : List Column
  value : Option Column
deriving DecidableEq

namespace Template

/-- The digits of a column and the letter of its kind, in a text like ` 12 n`. -/
def cutField? (field : List Char) : Option (List Char × Elem.Kind) :=
  let field := trim field
  let digits := field.takeWhile isDigit
  if digits.isEmpty then none
  else
    match (field.dropWhile isDigit).dropWhile isBlank with
    | ['n'] => some (digits, .number)
    | ['s'] => some (digits, .text)
    | _ => none

/-- The column of one field. Its number has to be written in ASCII and to fit 64 bits. -/
def column (field : List Char) : Except Cause Column :=
  let shown := String.ofList (trim field)
  match cutField? field with
  | none => .error (.malformedField shown)
  | some (digits, kind) =>
    let position := Numeral.ofDigits digits
    if ! digits.all Char.isDigit || 0x10000000000000000 ≤ position then .error (.badColumn shown)
    else if position = 0 then .error .zeroColumn
    else .ok ⟨position, kind⟩

/-- The columns of several fields, or the first fault. -/
def columns : List (List Char) → Except Cause (List Column)
  | [] => .ok []
  | field :: rest =>
    match column field with
    | .error cause => .error cause
    | .ok c => (columns rest).map (c :: ·)

/-- The text between the angle brackets and the word after them. -/
def cut? (text : List Char) : Option (List Char × List Char) :=
  match text.dropWhile isBlank with
  | '<' :: rest =>
    match rest.dropWhile (· ≠ '>') with
    | _ :: after =>
      let after := trim after
      if after.any isBlank then none else some (rest.takeWhile (· ≠ '>'), after)
    | [] => none
  | _ => none

/-- The template that a text writes. Empty fields of the key do not count. -/
def ofText (text : String) : Except Cause Template :=
  match cut? text.toList with
  | none => .error (.malformedTemplate text)
  | some (key, value) =>
    match columns ((key.splitOn ',').filter fun field => ! field.all isBlank) with
    | .error cause => .error cause
    | .ok [] => .error (.emptyTemplate text)
    | .ok key =>
      if value.isEmpty then .ok ⟨key, none⟩
      else (column value).map fun c => ⟨key, some c⟩

end Template

end ModelLang.Table
