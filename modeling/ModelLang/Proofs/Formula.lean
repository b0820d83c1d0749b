import ModelLang.Eval.Builtin
import ModelLang.Number.Numeral
import ModelLang.Proofs.Bare
import ModelLang.Token

/-!
# ModelLang.Proofs.Formula

How formulas are written. A formula is an expression of names, natural numbers, strings, subscripts,
calls and operators. Operators bind at levels, the loosest at level 0. In a text of a formula
(`Formula.Written`) an operand stands in parentheses if it binds too loosely for its place; other
parentheses are allowed. The text with the parentheses that the levels require, and no others, is
one of them (`Formula.written_lexemes`).
-/

namespace ModelLang

inductive Formula where
  | name (x : String)
  | number (n : Nat)
  | string (s : String)
  | subscript (x : String) (first : Formula) (more : List Formula)
  | call (f : String) (args : List Formula)
  | builtin (f : Builtin) (args : List Formula)
  | neg (a : Formula)
  | not (a : Formula)
  | factorial (a : Formula)
  | binary (op : BinaryOp) (a b : Formula)

/-! ## Levels -/

namespace BinaryOp

def level : BinaryOp → Nat
  | .or | .xor => 0
  | .and => 1
  | .compare _ | .mem => 3
  | .set .union | .set .symDiff | .set .without => 4
  | .set .inter | .set .cross => 5
  | .add | .sub => 6
  | .mul | .div | .mod | .intDiv => 7
  | .pow => 9

/-- The least level of an operand on the left. Comparisons do not chain, and powers group from the
right. -/
def left : BinaryOp → Nat
  | .compare _ | .mem => 4
  | .pow => 10
  | op => op.level

/-- The least level of an operand on the right. -/
def right : BinaryOp → Nat
  | .pow => 9
  | op => op.level + 1

/-- How the operator is written. -/
def spelling : BinaryOp → Lexeme
  | .or => .word "or"
  | .xor => .word "xor"
  | .and => .word "and"
  | .compare op => .mark op.symbol
  | .mem => .word "in"
  | .set .union => .word "union"
  | .set .symDiff => .word "symdiff"
  | .set .without => .word "without"
  | .set .inter => .word "inter"
  | .set .cross => .word "cross"
  | .add => .mark "+"
  | .sub => .mark "-"
  | .mul => .mark "*"
  | .div => .mark "/"
  | .mod => .word "mod"
  | .intDiv => .word "div"
  | .pow => .mark "^"

/-- All ways to write the operator. -/
def spellings : BinaryOp → List Lexeme
  | .compare .ne => [.mark "!=", .mark "<>"]
  | .pow => [.mark "^", .mark "**"]
  | op => [op.spelling]

end BinaryOp

namespace Formula

/-- The level of the operator at the root. What has none binds closest. -/
def level : Formula → Nat
  | .binary op _ _ => op.level
  | .not _ => 2
  | .neg _ => 8
  | .factorial _ => 10
  | _ => 11

/-! ## The expression -/

mutual

/-- The formula as an expression without spans. -/
def expr : Formula → Expr
  | .name x => .name x default
  | .number n => .number n default
  | .string s => .string s default
  | .subscript x first more => .subscript x (first.expr :: exprs more) default
  | .call f args => .call f (exprs args) default
  | .builtin f args => .builtin f (exprs args) default
  | .neg a => .unary .neg a.expr default
  | .not a => .unary .not a.expr default
  | .factorial a => .unary .factorial a.expr default
  | .binary op a b => .binary op a.expr b.expr default

def exprs : List Formula → List Expr
  | [] => []
  | a :: rest => a.expr :: exprs rest

end

/-! ## Texts -/

mutual

/-- The lexemes are a text of the formula that binds at a level. -/
inductive Written : Formula → Nat → List Lexeme → Prop where
  | parens {a : Formula} {l : Nat} {ts : List Lexeme} (h : Written a l ts) :
    Written a 11 (.mark "(" :: (ts ++ [.mark ")"]))
  | name (x : String) : Written (.name x) 11 [.name x]
  | number {n : Nat} {ds : List Char} (hne : ds ≠ []) (hds : ∀ d ∈ ds, d.isDigit = true)
    (hn : Numeral.ofDigits ds = n) : Written (.number n) 11 [.numeral (String.ofList ds)]
  | string (s : String) : Written (.string s) 11 [.string s]
  | subscript (x : String) {first : Formula} {more : List Formula} {l : Nat}
    {ts us : List Lexeme} (h : Written first l ts) (hmore : WrittenMore more us) :
    Written (.subscript x first more) 11 (.name x :: .mark "[" :: (ts ++ us ++ [.mark "]"]))
  | call (f : String) {args : List Formula} {ts : List Lexeme} (h : WrittenArgs args ts) :
    Written (.call f args) 11 (.name f :: .mark "(" :: (ts ++ [.mark ")"]))
  | builtin (f : Builtin) {args : List Formula} {ts : List Lexeme} (h : WrittenArgs args ts) :
    Written (.builtin f args) 11 (.word f.name :: .mark "(" :: (ts ++ [.mark ")"]))
  | neg {a : Formula} {l : Nat} {ts : List Lexeme} (h : Written a l ts) (hl : 8 ≤ l) :
    Written (.neg a) 8 (.mark "-" :: ts)
  | not {a : Formula} {l : Nat} {ts : List Lexeme} (h : Written a l ts) (hl : 2 ≤ l) :
    Written (.not a) 2 (.word "not" :: ts)
  | factorial {a : Formula} {l : Nat} {ts : List Lexeme} (h : Written a l ts) (hl : 10 ≤ l) :
    Written (.factorial a) 10 (ts ++ [.mark "!"])
  /-- A sign at the start of an operand on the right may do without parentheses. -/
  | binary {op : BinaryOp} {w : Lexeme} {a b : Formula} {k l : Nat} {ts us : List Lexeme}
    (hw : w ∈ op.spellings) (ha : Written a k ts) (hk : op.left ≤ k) (hb : Written b l us)
    (hl : min op.right 8 ≤ l) : Written (.binary op a b) op.level (ts ++ w :: us)

/-- The lexemes are texts of the formulas, each after a comma. -/
inductive WrittenMore : List Formula → List Lexeme → Prop where
  | nil : WrittenMore [] []
  | cons {a : Formula} {rest : List Formula} {l : Nat} {ts us : List Lexeme} (h : Written a l ts)
    (hrest : WrittenMore rest us) : WrittenMore (a :: rest) (.mark "," :: (ts ++ us))

/-- The lexemes are texts of the formulas with commas between them. -/
inductive WrittenArgs : List Formula → List Lexeme → Prop where
  | nil : WrittenArgs [] []
  | cons {a : Formula} {rest : List Formula} {l : Nat} {ts us : List Lexeme} (h : Written a l ts)
    (hrest : WrittenMore rest us) : WrittenArgs (a :: rest) (ts ++ us)

end

/-! ## The text with the fewest parentheses -/

/-- A text in parentheses, if it binds more loosely than its place requires. -/
def fenced (least level : Nat) (ts : List Lexeme) : List Lexeme :=
  if level < least then .mark "(" :: (ts ++ [.mark ")"]) else ts

mutual

def lexemes : Formula → List Lexeme
  | .name x => [.name x]
  | .number n => [.numeral (toString n)]
  | .string s => [.string s]
  | .subscript x first more =>
    .name x :: .mark "[" :: (first.lexemes ++ moreLexemes more ++ [.mark "]"])
  | .call f args => .name f :: .mark "(" :: (argLexemes args ++ [.mark ")"])
  | .builtin f args => .word f.name :: .mark "(" :: (argLexemes args ++ [.mark ")"])
  | .neg a => .mark "-" :: fenced 8 a.level a.lexemes
  | .not a => .word "not" :: fenced 2 a.level a.lexemes
  | .factorial a => fenced 10 a.level a.lexemes ++ [.mark "!"]
  | .binary op a b =>
    fenced op.left a.level a.lexemes ++ op.spelling :: fenced op.right b.level b.lexemes

def moreLexemes : List Formula → List Lexeme
  | [] => []
  | a :: rest => .mark "," :: (a.lexemes ++ moreLexemes rest)

def argLexemes : List Formula → List Lexeme
  | [] => []
  | a :: rest => a.lexemes ++ moreLexemes rest

end

theorem written_fenced {a : Formula} {l least : Nat} {ts : List Lexeme} (h : Written a l ts)
    (hleast : least ≤ 11) : ∃ k, Written a k (fenced least l ts) ∧ least ≤ k := by
  unfold fenced
  split
  · exact ⟨11, .parens h, hleast⟩
  · exact ⟨l, h, by omega⟩

theorem spelling_mem (op : BinaryOp) : op.spelling ∈ op.spellings := by
  cases op with
  | compare op => cases op <;> exact List.mem_cons_self
  | _ => exact List.mem_cons_self

/-- In parentheses every operand binds closely enough. -/
theorem left_le (op : BinaryOp) : op.left ≤ 11 ∧ op.right ≤ 11 := by
  cases op with
  | set op | compare op => cases op <;> decide
  | _ => decide

theorem written_number (n : Nat) : Written (.number n) 11 [.numeral (toString n)] := by
  rw [Nat.toString_eq_ofList_toDigits]
  refine .number Nat.toDigits_ne_nil (fun d hd => ?_) Nat.ofDigitChars_ten_toDigits
  exact Nat.isDigit_of_mem_toDigits (by decide) (by decide) hd

mutual

theorem written_lexemes : ∀ a : Formula, Written a a.level a.lexemes
  | .name x => .name x
  | .number n => written_number n
  | .string s => .string s
  | .subscript x first more => .subscript x (written_lexemes first) (written_moreLexemes more)
  | .call f args => .call f (written_argLexemes args)
  | .builtin f args => .builtin f (written_argLexemes args)
  | .neg a => by
    obtain ⟨k, h, hk⟩ := written_fenced (written_lexemes a) (show 8 ≤ 11 by decide)
    exact .neg h hk
  | .not a => by
    obtain ⟨k, h, hk⟩ := written_fenced (written_lexemes a) (show 2 ≤ 11 by decide)
    exact .not h hk
  | .factorial a => by
    obtain ⟨k, h, hk⟩ := written_fenced (written_lexemes a) (show 10 ≤ 11 by decide)
    exact .factorial h hk
  | .binary op a b => by
    obtain ⟨k, ha, hk⟩ := written_fenced (written_lexemes a) (left_le op).1
    obtain ⟨l, hb, hl⟩ := written_fenced (written_lexemes b) (left_le op).2
    exact .binary (spelling_mem op) ha hk hb (Nat.le_trans (Nat.min_le_left _ _) hl)

theorem written_moreLexemes : ∀ as : List Formula, WrittenMore as (moreLexemes as)
  | [] => .nil
  | a :: rest => .cons (written_lexemes a) (written_moreLexemes rest)

theorem written_argLexemes : ∀ as : List Formula, WrittenArgs as (argLexemes as)
  | [] => .nil
  | a :: rest => .cons (written_lexemes a) (written_moreLexemes rest)

end

end Formula

end ModelLang
