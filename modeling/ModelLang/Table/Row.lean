import ModelLang.Table.Template
import ModelLang.Text.Lines

/-!
# ModelLang.Table.Row

The rows of a table given as text. A line is cut at the first character that starts a comment. A
line that is then blank holds no row, nor does one that the pattern of the options does not match.
The fields of a row stand between blanks, commas, colons and semicolons, or in double quotes.
-/

namespace ModelLang.Table

open Text.CharClass (isBlank)

/-- How a table is read: lines to skip at the start, the number of rows to use, the characters that
start a comment, and what a line has to match. -/
structure Options where
  skip : Nat
  limit : Option Nat
  comment : List Char
  pattern : Option (List Char → Bool)

def Options.default : Options := ⟨0, none, ['#'], none⟩

/-- A key, and a value if the template has a column for it. -/
abbrev Row := Tuple × Option Elem

/-! ## Fields -/

def isSeparator (c : Char) : Bool :=
  isBlank c || c = ',' || c = ';' || c = ':'

/-- Whether a character can stand in a field without quotes. -/
def isPlain (c : Char) : Bool :=
  ! isSeparator c && c ≠ '"'

/-- The fields of a line. A quote that is never closed is passed over. -/
def fields : List Char → List (List Char)
  | [] => []
  | c :: rest =>
    if c = '"' then
      match _h : rest.dropWhile (· ≠ '"') with
      | _ :: after => rest.takeWhile (· ≠ '"') :: fields after
      | [] => fields rest
    else if isSeparator c then fields rest
    else (c :: rest.takeWhile isPlain) :: fields (rest.dropWhile isPlain)
termination_by cs => cs.length
decreasing_by
  · have := (List.dropWhile_sublist (l := rest) (· ≠ '"')).length_le
    simp only [_h, List.length_cons] at this ⊢
    omega
  · simp
  · simp
  · have := (List.dropWhile_sublist (l := rest) isPlain).length_le
    simp only [List.length_cons]
    omega

/-! ## Rows -/

variable (table : String)

/-- A field of a line as a component of its kind. -/
def convert (line : Nat) (kind : Elem.Kind) (field : List Char) : Except Cause Elem :=
  match kind with
  | .number =>
    match Numeral.signed? field with
    | some (.value q) => .ok (.number q)
    | some .overflow => .error .overflow
    | some .outOfRange | none => .error (.notNumeral table line (String.ofList field))
  | .text => .ok (.text (String.ofList field))

/-- The component that a column takes from the fields of a line. -/
def pick (line : Nat) (fields : List (List Char)) (c : Column) : Except Cause Elem :=
  match fields[c.position - 1]? with
  | none => .error (.missingField table line fields.length c.position)
  | some field => convert table line c.kind field

/-- The components that columns take from the fields of a line, or the first fault. -/
def pickAll (line : Nat) (fields : List (List Char)) : List Column → Except Cause Tuple
  | [] => .ok []
  | c :: rest =>
    match pick table line fields c with
    | .error cause => .error cause
    | .ok e => (pickAll line fields rest).map (e :: ·)

/-- The row that a template selects from the fields of a line. -/
def row (template : Template) (line : Nat) (fields : List (List Char)) : Except Cause Row :=
  match pickAll table line fields template.key with
  | .error cause => .error cause
  | .ok key =>
    match template.value with
    | none => .ok (key, none)
    | some c => (pick table line fields c).map fun e => (key, some e)

/-- What is left of a line without its comment, if it is to be read. -/
def Options.content? (options : Options) (line : List Char) : Option (List Char) :=
  let content := line.takeWhile fun c => ! options.comment.contains c
  let wanted :=
    match options.pattern with
    | some p => p content
    | none => true
  if ! content.all isBlank && wanted then some content else none

/-- The rows of lines, the first of which has the number `line`; at most `limit` of them if there
is a limit. Lines after the last row that is used are not looked at. -/
def rowsFrom (template : Template) (options : Options) (line : Nat) (limit : Option Nat) :
    List (List Char) → Except Cause (List Row)
  | [] => .ok []
  | cs :: rest =>
    if limit = some 0 then .ok []
    else
      match options.content? cs with
      | none => rowsFrom template options (line + 1) limit rest
      | some content =>
        match row table template line (fields content) with
        | .error cause => .error cause
        | .ok r => (rowsFrom template options (line + 1) (limit.map (· - 1)) rest).map (r :: ·)

/-- The rows of a text; `table` names it in faults. -/
def rows (template : Template) (options : Options) (text : List Char) : Except Cause (List Row) :=
  rowsFrom table template options (options.skip + 1) options.limit
    ((Text.lines text).drop options.skip)

end ModelLang.Table
