import ModelLang.Eval.Expr

/-!
# ModelLang.Eval.Line

What printing shows.
-/

namespace ModelLang

/-- The names of the variables of a family, if an item to print is the bare name of one. -/
def Expr.family? (e : Expr) (ctx : Context) (scope : Scope) : Option (Family VarId) :=
  match e.name? with
  | none => none
  | some x =>
    match scope.lookup? x, ctx.symbols.get? x with
    | none, some (.var f) => if f.isScalar then none else some f
    | _, _ => none

/-- What printing shows of an item: the names of all members for an indexed variable, and the
value for anything else. -/
def Expr.evalShown (e : Expr) (ctx : Context) (scope : Scope) : Eval String := do
  match e.family? ctx scope with
  | some f => do
    let w ← Step.get
    return String.intercalate " " (f.entries.map fun x => w.model.variableName x.2)
  | none => do
    let v ← e.eval ctx scope
    let w ← Step.get
    return v.shownWith w.model.variableName

/-- The line that items print. -/
def Expr.evalLine (ctx : Context) (scope : Scope) : List Expr → Eval String
  | [] => return ""
  | e :: rest => do
    let s ← e.evalShown ctx scope
    let line ← Expr.evalLine ctx scope rest
    return s ++ line

end ModelLang
