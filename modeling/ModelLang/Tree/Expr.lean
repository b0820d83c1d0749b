import ModelLang.Expr
import ModelLang.Number.Digits
import ModelLang.Tree.Node

/-!
# ModelLang.Tree.Expr

The syntax tree of an expression as text, without its spans.
-/

namespace ModelLang

open ModelLang.Tree

def Comparison.tree : Comparison → String
  | eq => "Eq" | ne => "Ne" | lt => "Lt" | le => "Le" | gt => "Gt" | ge => "Ge"

def SetOp.tree : SetOp → String
  | union => "Union" | inter => "Inter" | without => "Without" | symDiff => "SymDiff"
  | cross => "Cross"

def BinaryOp.tree : BinaryOp → String
  | add => "Add" | sub => "Sub" | mul => "Mul" | div => "Div" | mod => "Mod" | intDiv => "IntDiv"
  | pow => "Pow" | set op => op.tree | and => "And" | or => "Or" | xor => "Xor"
  | compare op => op.tree | mem => "In"

def UnaryOp.tree : UnaryOp → String
  | neg => "Neg" | not => "Not" | factorial => "Factorial"

def Aggregate.tree : Aggregate → String
  | sum => "Sum" | prod => "Prod" | min => "Min" | max => "Max"

def Builtin.tree : Builtin → String
  | card => "Card" | abs => "Abs" | sgn => "Sgn" | round => "Round" | floor => "Floor"
  | ceil => "Ceil" | log => "Log" | ln => "Ln" | exp => "Exp" | sqrt => "Sqrt" | sin => "Sin"
  | cos => "Cos" | tan => "Tan" | asin => "Asin" | acos => "Acos" | atan => "Atan"
  | length => "Length" | substr => "Substr" | random => "Random" | ord => "Ord" | min => "Min"
  | max => "Max" | vabs => "Vabs"

def ReadKey.tree : ReadKey → String
  | skip => "Skip" | use => "Use" | comment => "Comment" | matching => "Match"

def Name.tree (n : Name) : String :=
  node "Name" [Text.quote n.text]

def ratTree (q : Rat) : String :=
  record "Ratio" [("numer", intText q.num), ("denom", intText q.den)]

mutual

def Expr.tree : Expr → String
  | .number q _ => node "Number" [ratTree q]
  | .infinity _ => "Infinity"
  | .string s _ => node "Str" [Text.quote s]
  | .name s _ => node "Name" [Text.quote s]
  | .subscript s args _ => node "Subscript" [Text.quote s, list (Expr.trees args)]
  | .call s args _ => node "Call" [Text.quote s, list (Expr.trees args)]
  | .builtin f args _ => node "Builtin" [f.tree, list (Expr.trees args)]
  | .tuple items _ => node "Tuple" [list (Expr.trees items)]
  | .setLiteral items _ => node "SetLiteral" [list (Expr.trees items)]
  | .range first last step closed _ =>
    record "Range" [("from", first.tree), ("to", last.tree), ("step", optional (Expr.optTree step)),
      ("kind", if closed then "Inclusive" else "Exclusive")]
  | .setBuilder index member _ =>
    node "SetBuilder" [index.tree, optional (Expr.optTree member)]
  | .proj set positions _ => node "Proj" [set.tree, positions.tree]
  | .indexSetOf n _ => node "IndexSetOf" [n.tree]
  | .binary op a b _ => node "Binary" [op.tree, a.tree, b.tree]
  | .unary op a _ => node "Unary" [op.tree, a.tree]
  | .aggregate kind index body _ => node "Aggregate" [kind.tree, index.tree, body.tree]
  | .nonempty index _ => node "Exists" [index.tree]
  | .argExtremum maximize count index body _ =>
    record "ArgExtremum" [("maximize", if maximize then "true" else "false"),
      ("count", optional (Expr.optTree count)), ("index", index.tree), ("body", body.tree)]
  | .indexedSetOp op index body _ => node "IndexedSetOp" [op.tree, index.tree, body.tree]
  | .conditional c a b _ => node "If" [c.tree, a.tree, b.tree]
  | .read table _ => node "Read" [table.tree]

def IndexSet.tree : IndexSet → String
  | .mk none set condition _ =>
    record "IndexSet" [("pattern", "None"), ("set", set.tree),
      ("condition", optional (Expr.optTree condition))]
  | .mk (some items) set condition _ =>
    record "IndexSet" [("pattern", optional (some (list (Expr.trees items)))), ("set", set.tree),
      ("condition", optional (Expr.optTree condition))]

def ReadSpec.tree : ReadSpec → String
  | .mk file template options =>
    record "ReadSpec" [("file", file.tree), ("template", template.tree),
      ("options", list (ReadOption.trees options))]

def ReadOption.trees : List ReadOption → List String
  | [] => []
  | .mk key value :: rest => node key.tree [value.tree] :: ReadOption.trees rest

def Expr.trees : List Expr → List String
  | [] => []
  | e :: rest => e.tree :: Expr.trees rest

def Expr.optTree : Option Expr → Option String
  | none => none
  | some e => some e.tree

end

end ModelLang
