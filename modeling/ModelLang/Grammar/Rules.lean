import ModelLang.Grammar.Peg
import ModelLang.Number.Numeral
import ModelLang.Statement

/-!
# ModelLang.Grammar.Rules

The grammar of the language. Rules that refer to one another are named by `Rule`; all others are
parsing expressions that stand inside them. Binary operators bind in this order, the loosest
first:

* `or`, `xor`; then `and`; then `not`;
* comparisons and `in`, which do not chain;
* `union`, `symdiff`, `without`; then `inter`, `cross`;
* `+`, `-`; then `*`, `/`, `mod`, `div`; then the signs;
* `^`, whose exponent may have a sign and a further exponent; then `!`.
-/

namespace ModelLang

inductive Rule where
  | command | forallCommand | constraintList | sosBody | indexSet
  | expr | notExpr | unionExpr | additive | multiplicative | unary
deriving DecidableEq, Hashable

/-- What a rule reads. -/
@[reducible] def Rule.Result : Rule → Type
  | command | forallCommand => Statement
  | constraintList => Constraint
  | sosBody => SosBody
  | indexSet => IndexSet
  | expr | notExpr | unionExpr | additive | multiplicative | unary => Expr

namespace Grammar

open Peg (opt many spanned sepBy oneOf filterMap)

abbrev Form (α : Type) := Peg Rule.Result α

def word (w : String) : Form Token := .token (.word w)

def mark (m : String) : Form Token := .token (.mark m)

def expr : Form Expr := .rule Rule.expr
def unionExpr : Form Expr := .rule Rule.unionExpr
def additive : Form Expr := .rule Rule.additive
def multiplicative : Form Expr := .rule Rule.multiplicative
def unary : Form Expr := .rule Rule.unary
def indexSet : Form IndexSet := .rule Rule.indexSet
def constraintList : Form Constraint := .rule Rule.constraintList

/-- One or more with commas between them. -/
def commaList {α : Type} (p : Form α) : Form (List α) :=
  sepBy p (mark ",")

/-- Reserved words, each with what it stands for. -/
def words {α : Type} (table : List (String × α)) : Form α :=
  oneOf (table.map fun e => (.word e.1, e.2))

/-- The text of a name or a numeral or the content of a string. -/
def content (t : Token) : String :=
  match t.lexeme with
  | .name s | .numeral s | .string s | .word s | .mark s => s
  | .endOfInput => ""

def name : Form Name :=
  (fun t => ⟨content t, t.span⟩) <$> .token .name

/-! ## Expressions -/

/-- Operands with operators of one level between them, grouped from the left. -/
def chain (operand : Form Expr) (ops : List (Terminal × BinaryOp)) : Form Expr :=
  (fun first rest => rest.foldl (fun lhs step => .binaryOf step.1 lhs step.2) first)
    <$> operand <*> many (Prod.mk <$> oneOf ops <*> operand)

/-- An operand, with at most one more after an operator. -/
def atMostOne (ops : List (Terminal × BinaryOp)) (first second : Form Expr) : Form Expr :=
  (fun lhs rest =>
    match rest with
    | some (op, rhs) => .binaryOf op lhs rhs
    | none => lhs)
    <$> first <*> opt (Prod.mk <$> oneOf ops <*> second)

def orOps : List (Terminal × BinaryOp) := [(.word "or", .or), (.word "xor", .xor)]

def andOps : List (Terminal × BinaryOp) := [(.word "and", .and)]

def compareOps : List (Terminal × BinaryOp) := [
  (.mark "==", .compare .eq), (.mark "!=", .compare .ne), (.mark "<>", .compare .ne),
  (.mark "<=", .compare .le), (.mark ">=", .compare .ge), (.mark "<", .compare .lt),
  (.mark ">", .compare .gt), (.word "in", .mem)]

def unionOps : List (Terminal × BinaryOp) := [
  (.word "union", .set .union), (.word "symdiff", .set .symDiff), (.word "without", .set .without)]

def interOps : List (Terminal × BinaryOp) :=
  [(.word "inter", .set .inter), (.word "cross", .set .cross)]

def additiveOps : List (Terminal × BinaryOp) := [(.mark "+", .add), (.mark "-", .sub)]

def multiplicativeOps : List (Terminal × BinaryOp) := [
  (.mark "*", .mul), (.mark "/", .div), (.word "mod", .mod), (.word "div", .intDiv)]

def powerOps : List (Terminal × BinaryOp) := [(.mark "^", .pow), (.mark "**", .pow)]

/-- An operator before its operand; the operation spans both. -/
def signed (op : UnaryOp) (sign : Form Token) (operand : Form Expr) : Form Expr :=
  (fun t e => .unary op e (t.span.till e.span)) <$> sign <*> operand

/-- What a form makes of its parts and their span. -/
def withSpan {α : Type} (p : Form (Span → α)) : Form α :=
  (fun x => x.1 x.2) <$> spanned p

/-- A numeral whose value is in range. -/
def numeral : Form Expr :=
  filterMap (fun t => (Numeral.value? (content t).toList).map (.number · t.span)) (.token .numeral)

def string : Form Expr :=
  (fun t => .string (content t) t.span) <$> .token .string

def infinity : Form Expr :=
  (fun t => .infinity t.span) <$> word "infinity"

def nameExpr : Form Expr :=
  (fun t => .name (content t) t.span) <$> .token .name

def parenthesized : Form Expr :=
  mark "(" *> expr <* mark ")"

def arguments : Form (List Expr) :=
  (·.getD []) <$> (mark "(" *> opt (commaList expr) <* mark ")")

/-- The components of a tuple; `<>` is one mark. -/
def tupleItems : Form (List Expr) :=
  ((·.getD []) <$> (mark "<" *> opt (commaList additive) <* mark ">"))
    <|> ((fun _ => []) <$> mark "<>")

def tuple : Form Expr :=
  withSpan (Expr.tuple <$> tupleItems)

/-- Between an index set and what it indexes. -/
def doSeparator : Form Token :=
  word "do" <|> mark ":"

/-- Whether a range has its last element. -/
def rangeOps : List (Terminal × Bool) :=
  [(.mark "..", true), (.word "to", true), (.word "until", false)]

def rangeContents : Form (Span → Expr) :=
  (fun first closed last step => .range first last step closed)
    <$> additive <*> oneOf rangeOps <*> additive <*> opt (word "by" *> additive)

/-- An index set whose tuples a pattern takes apart. -/
def patternedIndexSet : Form IndexSet :=
  filterMap (fun index => if index.pattern.isSome then some index else none) indexSet

def builderContents : Form (Span → Expr) :=
  (fun index member => .setBuilder index member)
    <$> patternedIndexSet <*> opt (doSeparator *> expr)

def listContents : Form (Span → Expr) :=
  (fun items => .setLiteral (items.getD [])) <$> opt (commaList additive)

def braces : Form Expr :=
  withSpan (mark "\x7b" *> (rangeContents <|> builderContents <|> listContents) <* mark "\x7d")

def conditional : Form Expr :=
  withSpan ((fun c a b => .conditional c a b)
    <$> (word "if" *> expr) <*> (word "then" *> expr) <*> (word "else" *> expr <* word "end"))

def builtins : List (String × Builtin) := [
  ("card", .card), ("abs", .abs), ("sgn", .sgn), ("round", .round), ("floor", .floor),
  ("ceil", .ceil), ("log", .log), ("ln", .ln), ("exp", .exp), ("sqrt", .sqrt), ("sin", .sin),
  ("cos", .cos), ("tan", .tan), ("asin", .asin), ("acos", .acos), ("atan", .atan),
  ("length", .length), ("substr", .substr), ("random", .random), ("ord", .ord), ("min", .min),
  ("max", .max), ("vabs", .vabs)]

def builtinCall : Form Expr :=
  withSpan ((fun f args => .builtin f args) <$> words builtins <*> arguments)

def aggregates : List (String × Aggregate) :=
  [("sum", .sum), ("prod", .prod), ("min", .min), ("max", .max)]

def aggregate : Form Expr :=
  withSpan ((fun kind index body => .aggregate kind index body)
    <$> words aggregates <*> (indexSet <* doSeparator) <*> multiplicative)

def argExtremum : Form Expr :=
  withSpan ((fun maximize count index body => .argExtremum maximize count index body)
    <$> words [("argmin", false), ("argmax", true)] <*> opt parenthesized
    <*> (indexSet <* doSeparator) <*> multiplicative)

def indexedSetOp : Form Expr :=
  withSpan ((fun op index body => .indexedSetOp op index body)
    <$> words [("union", .union), ("inter", .inter)] <*> (indexSet <* doSeparator) <*> unionExpr)

def nonempty : Form Expr :=
  withSpan (Expr.nonempty <$> (word "exists" *> mark "(" *> indexSet <* mark ")"))

def proj : Form Expr :=
  withSpan ((fun set positions => .proj set positions)
    <$> (word "proj" *> mark "(" *> expr) <*> (mark "," *> expr <* mark ")"))

def indexSetOf : Form Expr :=
  withSpan (Expr.indexSetOf <$> (word "indexset" *> mark "(" *> name <* mark ")"))

def readOption (w : String) (key : ReadKey) : Form ReadOption :=
  ReadOption.mk key <$> (word w *> additive)

def readSpec : Form ReadSpec :=
  ReadSpec.mk <$> (word "read" *> additive) <*> (word "as" *> additive)
    <*> many (readOption "skip" .skip <|> readOption "use" .use
      <|> readOption "comment" .comment <|> readOption "match" .matching)

def call : Form Expr :=
  withSpan ((fun t args => .call (content t) args) <$> .token .name <*> arguments)

def subscript : Form Expr :=
  withSpan ((fun t args => .subscript (content t) args)
    <$> .token .name <*> (mark "[" *> commaList expr <* mark "]"))

def primary : Form Expr :=
  numeral <|> string <|> infinity <|> parenthesized <|> tuple <|> braces <|> conditional
    <|> builtinCall <|> aggregate <|> argExtremum <|> indexedSetOp <|> nonempty <|> proj
    <|> indexSetOf <|> withSpan (Expr.read <$> readSpec) <|> call <|> subscript <|> nameExpr

/-- An operand with any number of `!` after it. -/
def postfixed : Form Expr :=
  (fun e bangs => bangs.foldl (fun e t => .unary .factorial e (e.span.till t.span)) e)
    <$> primary <*> many (mark "!")

def comparison : Form Expr :=
  atMostOne compareOps unionExpr unionExpr

/-! ## Index sets -/

def pattern : Form (List Expr) :=
  tupleItems <|> ((fun e => [e]) <$> nameExpr)

def indexSetForm : Form IndexSet :=
  withSpan ((fun pattern set condition => IndexSet.mk pattern set condition)
    <$> opt (pattern <* word "in") <*> unionExpr <*> opt (word "with" *> expr))

/-! ## Declarations -/

/-- The index set of a declared family. Brackets may be empty. -/
def declIndex : Form (Option IndexSet) :=
  Option.join <$> opt (mark "[" *> opt indexSet <* mark "]")

def subsets : Form SetBody :=
  (fun set least most => .subsets set least most)
    <$> (word "subsets" *> mark "(" *> expr) <*> (mark "," *> expr)
    <*> (opt (mark "," *> expr) <* mark ")")

def setBody : Form SetBody :=
  subsets <|> (SetBody.powerset <$> (word "powerset" *> parenthesized))
    <|> (SetBody.entries <$> commaList (Prod.mk <$> tuple <*> unionExpr))
    <|> (SetBody.value <$> expr)

def setDecl : Form Statement :=
  withSpan ((fun name index body span => .set ⟨name, index, body, span⟩)
    <$> (word "set" *> name) <*> (declIndex <* mark ":=") <*> setBody)

def bar : Form Token := mark "|"

def matrixRow : Form (List Expr × List Expr) :=
  Prod.mk <$> (bar *> commaList additive <* bar) <*> (commaList additive <* bar)

def matrix : Form ParamBody :=
  (fun columns first rest => .matrix columns (first :: rest))
    <$> (bar *> commaList additive <* bar) <*> matrixRow <*> many matrixRow

def paramBody : Form ParamBody :=
  (ParamBody.read <$> readSpec) <|> matrix
    <|> (ParamBody.entries <$> commaList (Prod.mk <$> tuple <*> additive))
    <|> (ParamBody.value <$> expr)

def paramDecl : Form Statement :=
  withSpan ((fun name index body fallback span =>
      .param ⟨name, index, body.getD .empty, fallback, span⟩)
    <$> (word "param" *> name) <*> declIndex <*> opt (mark ":=" *> paramBody)
    <*> opt (word "default" *> expr))

def varType : Form VarType :=
  words [("real", .real), ("integer", .integer), ("binary", .binary)]
    <|> (word "implicit" *> words [("integer", .implicitInteger), ("binary", .implicitBinary)])

/-- An attribute of a variable changes its declaration; of two alike the later one counts. -/
def varAttribute : Form (VarDecl → VarDecl) :=
  ((fun e d => { d with lower := some e }) <$> (mark ">=" *> additive))
    <|> ((fun e d => { d with upper := some e }) <$> (mark "<=" *> additive))
    <|> ((fun e d => { d with priority := some e }) <$> (word "priority" *> additive))
    <|> ((fun e d => { d with startval := some e }) <$> (word "startval" *> additive))

def varDecl : Form Statement :=
  withSpan ((fun name index type attributes span =>
      .var (attributes.foldl (fun d change => change d)
        ⟨name, index, type.getD .real, none, none, none, none, span⟩))
    <$> (word "var" *> name) <*> declIndex <*> opt varType <*> many varAttribute)

def objective : Form Statement :=
  withSpan ((fun sense name term span => .objective ⟨sense, name, term, span⟩)
    <$> words [("minimize", .minimize), ("min", .minimize), ("maximize", .maximize),
      ("max", .maximize)]
    <*> (name <* mark ":") <*> unionExpr)

/-! ## Constraints -/

def conRel : Form ConRel :=
  oneOf [(.mark "<=", .le), (.mark ">=", .ge), (.mark "==", .eq)]

def conFlag : Form ConFlags :=
  words [("scale", { ConFlags.empty with scale := true }),
    ("separate", { ConFlags.empty with separate := true }),
    ("checkonly", { ConFlags.empty with checkonly := true }),
    ("indicator", { ConFlags.empty with indicator := true })]

def conFlags : Form ConFlags :=
  (fun flags => flags.foldl ConFlags.union .empty) <$> many (mark "," *> conFlag)

def eachConstraint : Form Constraint :=
  Constraint.each <$> (word "forall" *> indexSet <* doSeparator) <*> constraintList

def conditionalConstraint : Form Constraint :=
  Constraint.cond <$> (word "if" *> expr <* word "then") <*> constraintList
    <*> (opt (word "else" *> constraintList) <* word "end")

def branch : Form Branch :=
  Branch.mk <$> unionExpr <*> conRel <*> unionExpr

def vif : Form Constraint :=
  Constraint.vif <$> (word "vif" *> expr <* word "then") <*> branch
    <*> (opt (word "else" *> branch) <* word "end") <*> conFlags

def relation : Form Constraint :=
  (fun lhs rel middle rest flags =>
    match rest with
    | none => .plain lhs rel middle flags
    | some (upperRel, high) => .range lhs rel middle upperRel high flags)
    <$> unionExpr <*> conRel <*> unionExpr <*> opt (Prod.mk <$> conRel <*> unionExpr) <*> conFlags

def constraintItem : Form Constraint :=
  eachConstraint <|> conditionalConstraint <|> vif <|> relation

/-- A list of one constraint is that constraint. -/
def constraintListForm : Form Constraint :=
  (fun parts =>
    match parts with
    | [part] => part
    | parts => .all parts)
    <$> sepBy constraintItem (word "and")

def subtoDecl : Form Statement :=
  withSpan ((fun name body span => .subto ⟨name, body, span⟩)
    <$> (word "subto" *> name <* mark ":") <*> constraintList)

def sosTypes : Form SosType :=
  words [("type1", .one), ("type2", .two)]

def sosBodyForm : Form SosBody :=
  (SosBody.each <$> (word "forall" *> indexSet <* doSeparator) <*> .rule Rule.sosBody)
    <|> (SosBody.weighted <$> commaList (Prod.mk <$> additive <*> (mark ":" *> additive)))
    <|> (SosBody.term <$> unionExpr)

def namedSos : Form (Span → Statement) :=
  (fun name type priority body span => .sos ⟨name, type.getD .one, priority, body, span⟩)
    <$> (name <* mark ":") <*> opt sosTypes <*> opt (word "priority" *> additive)
    <*> (opt (mark ":") *> .rule Rule.sosBody)

def typedSos : Form (Span → Statement) :=
  (fun type name body span => .sos ⟨name, type, none, body, span⟩)
    <$> (sosTypes <* mark ":") <*> (name <* mark ":") <*> .rule Rule.sosBody

def sosDecl : Form Statement :=
  withSpan (word "sos" *> (namedSos <|> typedSos))

def defineDecl : Form Statement :=
  withSpan ((fun kind name params body span =>
      .define ⟨kind, name, params.getD [], body, span⟩)
    <$> words [("defnumb", .numb), ("defstrg", .strg), ("defbool", .bool), ("defset", .set)]
    <*> name <*> (mark "(" *> opt (commaList name) <* mark ")" <* mark ":=") <*> expr)

/-! ## Commands -/

def printCommand : Form Statement :=
  withSpan (Statement.print <$> (word "print" *> commaList expr))

def checkCommand : Form Statement :=
  withSpan (Statement.check <$> (word "check" *> expr))

def forallCommandForm : Form Statement :=
  (fun t index body => .each index body (t.span.till body.span))
    <$> word "forall" <*> (indexSet <* doSeparator)
    <*> (.rule Rule.forallCommand <|> .rule Rule.command)

def commandForm : Form Statement :=
  setDecl <|> paramDecl <|> varDecl <|> objective <|> subtoDecl <|> sosDecl <|> defineDecl
    <|> (word "do" *> (.rule Rule.forallCommand <|> printCommand <|> checkCommand))
    <|> printCommand <|> checkCommand

/-- A statement ends in a semicolon. -/
def statement : Form Statement :=
  .rule Rule.command <* mark ";"

/-- The form of each rule. -/
def form : (r : Rule) → Form r.Result
  | .command => commandForm
  | .forallCommand => forallCommandForm
  | .constraintList => constraintListForm
  | .sosBody => sosBodyForm
  | .indexSet => indexSetForm
  | .expr => chain (chain (.rule Rule.notExpr) andOps) orOps
  | .notExpr => signed .not (word "not") (.rule Rule.notExpr) <|> comparison
  | .unionExpr => chain (chain additive interOps) unionOps
  | .additive => chain multiplicative additiveOps
  | .multiplicative => chain unary multiplicativeOps
  | .unary =>
    signed .neg (mark "-") unary <|> (mark "+" *> unary) <|> atMostOne powerOps postfixed unary

end Grammar

end ModelLang
