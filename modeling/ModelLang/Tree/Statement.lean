import ModelLang.Statement
import ModelLang.Tree.Expr

/-!
# ModelLang.Tree.Statement

The syntax tree of a statement as text. Only printing, checks and loops show their spans.
-/

namespace ModelLang

open ModelLang.Tree

def Location.tree (l : Location) : String :=
  record "Location" [("line", toString l.line), ("column", toString l.column)]

def Span.tree : Span → String
  | indetermined => "Indetermined"
  | determined start stop =>
    node "Determined" [record "_Span" [("start", start.tree), ("end", stop.tree)]]

def indexTree (index : Option IndexSet) : String :=
  optional (index.map IndexSet.tree)

def entryTrees (items : List (Expr × Expr)) : String :=
  list (items.map fun (a, b) => pair a.tree b.tree)

def SetBody.tree : SetBody → String
  | value e => node "Expr" [e.tree]
  | entries items => node "Entries" [entryTrees items]
  | subsets set least most =>
    record "Subsets" [("set", set.tree), ("size", least.tree),
      ("max_size", optional (most.map Expr.tree))]
  | powerset set => node "Powerset" [set.tree]

def ParamBody.tree : ParamBody → String
  | value e => node "Expr" [e.tree]
  | entries items => node "Entries" [entryTrees items]
  | matrix columns rows =>
    record "Matrix" [("columns", list (columns.map Expr.tree)),
      ("rows", list (rows.map fun (keys, values) =>
        pair (list (keys.map Expr.tree)) (list (values.map Expr.tree))))]
  | read table => node "Read" [table.tree]
  | empty => "Empty"

def VarType.tree : VarType → String
  | real => "Real" | integer => "Integer" | binary => "Binary"
  | implicitInteger => "ImplicitInteger" | implicitBinary => "ImplicitBinary"

def Sense.tree : Sense → String
  | minimize => "Minimize" | maximize => "Maximize"

def ConRel.tree : ConRel → String
  | le => "Le" | ge => "Ge" | eq => "Eq"

def ConFlags.tree (f : ConFlags) : String :=
  node "ConFlags" [toString f.bits]

def Branch.tree (b : Branch) : String :=
  record "VifBranch" [("lhs", b.lhs.tree), ("rel", b.rel.tree), ("rhs", b.rhs.tree)]

mutual

def Constraint.tree : Constraint → String
  | .plain lhs rel rhs flags =>
    record "Plain" [("lhs", lhs.tree), ("rel", rel.tree), ("rhs", rhs.tree), ("flags", flags.tree)]
  | .range low lowerRel term upperRel high flags =>
    record "Range" [("low", low.tree), ("lower_rel", lowerRel.tree), ("term", term.tree),
      ("upper_rel", upperRel.tree), ("high", high.tree), ("flags", flags.tree)]
  | .vif condition yes no flags =>
    record "Vif" [("condition", condition.tree), ("then", yes.tree),
      ("otherwise", optional (no.map Branch.tree)), ("flags", flags.tree)]
  | .all parts => node "And" [list (Constraint.trees parts)]
  | .each index body => node "Forall" [index.tree, body.tree]
  | .cond condition yes none =>
    record "If" [("condition", condition.tree), ("then", yes.tree), ("otherwise", optional none)]
  | .cond condition yes (some no) =>
    record "If" [("condition", condition.tree), ("then", yes.tree),
      ("otherwise", optional (some no.tree))]

def Constraint.trees : List Constraint → List String
  | [] => []
  | c :: rest => c.tree :: Constraint.trees rest

end

def SosType.tree : SosType → String
  | one => "One" | two => "Two"

def SosBody.tree : SosBody → String
  | weighted items => node "Weighted" [entryTrees items]
  | term e => node "Term" [e.tree]
  | each index body => node "Forall" [index.tree, body.tree]

def DefineKind.tree : DefineKind → String
  | numb => "Numb" | strg => "Strg" | bool => "Bool" | set => "Set"

def exprTree (e : Option Expr) : String :=
  optional (e.map Expr.tree)

def Statement.tree : Statement → String
  | .set d => node "Set" [record "SetDecl" [("name", d.name.tree), ("index", indexTree d.index),
      ("body", d.body.tree)]]
  | .param d => node "Param" [record "ParamDecl" [("name", d.name.tree),
      ("index", indexTree d.index), ("body", d.body.tree), ("default", exprTree d.fallback)]]
  | .var d => node "Var" [record "VarDecl" [("name", d.name.tree), ("index", indexTree d.index),
      ("typ", d.type.tree), ("lower", exprTree d.lower), ("upper", exprTree d.upper),
      ("priority", exprTree d.priority), ("startval", exprTree d.startval)]]
  | .objective d => node "Objective" [record "ObjectiveDecl" [("sense", d.sense.tree),
      ("name", d.name.tree), ("term", d.term.tree)]]
  | .subto d => node "Subto" [record "SubtoDecl" [("name", d.name.tree), ("body", d.body.tree)]]
  | .sos d => node "Sos" [record "SosDecl" [("name", d.name.tree), ("typ", d.type.tree),
      ("priority", exprTree d.priority), ("body", d.body.tree)]]
  | .define d => node "Define" [record "DefineDecl" [("kind", d.kind.tree), ("name", d.name.tree),
      ("params", list (d.params.map Name.tree)), ("body", d.body.tree)]]
  | .print items span => node "Print" [list (items.map Expr.tree), span.tree]
  | .check condition span => node "Check" [condition.tree, span.tree]
  | .each index body span => node "Forall" [index.tree, body.tree, span.tree]

end ModelLang
