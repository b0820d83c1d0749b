import ModelLang.Eval.Declaration

/-!
# ModelLang.Eval.Constraint

The rows and special ordered sets that constraints add to the model. Names carry the tuples of the
enclosing loops, which are passed along with the scope, the outermost first.
-/

namespace ModelLang

open Eval

/-- A name followed by the tuples of the enclosing loops. -/
def qualified (base : String) (path : List Tuple) : String :=
  if path.isEmpty then base
  else base ++ "[" ++ String.intercalate "," (path.map Tuple.bare) ++ "]"

/-! ## Sides and conditions -/

/-- A side of a relation, which has to be finite. -/
def Value.asSide : Value → Except Cause Term
  | number .minusInfinity => .error (.infiniteSide .minusInfinity)
  | number .plusInfinity => .error (.infiniteSide .plusInfinity)
  | v => v.asTerm "constraint"

def Expr.evalSide (e : Expr) (ctx : Context) (scope : Scope) : Eval Term := do
  let v ← e.eval ctx scope
  located e.span v.asSide

/-- The difference of two sides. -/
def difference (lhs rhs : Expr) (ctx : Context) (scope : Scope) : Eval Term := do
  let a ← lhs.evalSide ctx scope
  let b ← rhs.evalSide ctx scope
  return a.sub b

/-- A condition on variables. Its comparisons are not decided now, but by the solution. -/
def Expr.evalCondition (ctx : Context) : Expr → Scope → Eval Condition
  | .binary op a b span, scope =>
    match op with
    | .and => do
      let x ← a.evalCondition ctx scope
      let y ← b.evalCondition ctx scope
      return .and x y
    | .or => do
      let x ← a.evalCondition ctx scope
      let y ← b.evalCondition ctx scope
      return .or x y
    | .xor => do
      let x ← a.evalCondition ctx scope
      let y ← b.evalCondition ctx scope
      return .xor x y
    | .compare op => do
      let t ← difference a b ctx scope
      return .atom t op
    | _ => fail .conditionForm span
  | .unary .not a _, scope => do
    let x ← a.evalCondition ctx scope
    return .not x
  | e, _ => fail .conditionForm e.span

/-! ## Ranges -/

/-- Which sides of a range between two numbers bound its term. -/
def Relation.between? : Number → Number → Except Cause Relation
  | .minusInfinity, .plusInfinity => .error .unboundedRange
  | .minusInfinity, _ => .ok .atMost
  | _, .plusInfinity => .ok .atLeast
  | l, r => .ok (if l = r then .equal else .between)

/-- The row that keeps a term between two numbers. The constant of the term moves to the sides. -/
def Row.range (name : String) (t : Term) (low high : Number) (flags : ConFlags) :
    Except Cause Row := do
  let lhs ← low.sub (.finite t.constant)
  let rhs ← high.sub (.finite t.constant)
  let relation ← Relation.between? lhs rhs
  return ⟨name, t.linearPart, relation, lhs, rhs, flags⟩

/-! ## Constraints -/

/-- What a branch requires of the variables. -/
def Branch.eval (b : Branch) (ctx : Context) (scope : Scope) : Eval Requirement := do
  let t ← difference b.lhs b.rhs ctx scope
  return ⟨t, b.rel⟩

/-- Calls `visit` for each tuple that an index set admits. -/
def IndexSet.forEach (index : IndexSet) (ctx : Context) (scope : Scope)
    (visit : Scope → Tuple → Eval Unit) : Eval Unit := do
  let s ← index.evalSet ctx scope
  foldTuples (index.enter ctx scope) (fun _ frame t => visit frame t) s.tuples ()

mutual

/-- Adds the rows of a constraint. -/
def Constraint.add (ctx : Context) (base : String) :
    Constraint → List Tuple → Scope → Eval Unit
  | .plain lhs rel rhs flags, path, scope => do
    let t ← difference lhs rhs ctx scope
    onModel lhs.span (Build.addLinear (qualified base path) t rel flags)
  | .range low lowerRel term upperRel high flags, path, scope => do
    if lowerRel ≠ upperRel ∨ lowerRel = .eq then fail .rangeDirections term.span
    else
      let a ← low.evalNumber ctx scope "range constraint"
      let b ← high.evalNumber ctx scope "range constraint"
      let (a, b) := if lowerRel = .ge then (b, a) else (a, b)
      let t ← term.evalTerm ctx scope "range constraint"
      let row ← located term.span (Row.range (qualified base path) t a b flags)
      onModel term.span (Build.addRow row)
  | .vif condition yes no flags, path, scope => do
    let c ← condition.evalCondition ctx scope
    let y ← yes.eval ctx scope
    let n ← evalOption no fun b => b.eval ctx scope
    onModel condition.span (Build.conditional ⟨qualified base path, c, y, n, flags⟩)
  | .all parts, path, scope => Constraint.addAll ctx base parts path scope
  | .each index body, path, scope =>
    index.forEach ctx scope fun frame t => body.add ctx base (path ++ [t]) frame
  | .cond condition yes no, path, scope => do
    let c ← condition.evalTruth ctx scope "if"
    if c then yes.add ctx base path scope
    else
      match no with
      | none => return ()
      | some no => no.add ctx base path scope

def Constraint.addAll (ctx : Context) (base : String) :
    List Constraint → List Tuple → Scope → Eval Unit
  | [], _, _ => return ()
  | c :: rest, path, scope => do
    c.add ctx base path scope
    Constraint.addAll ctx base rest path scope

end

/-! ## Special ordered sets -/

/-- The weighted variables of a list. -/
def SosBody.evalWeighted (ctx : Context) (scope : Scope) :
    List (Expr × Expr) → Eval (List (VarId × Rat))
  | [] => return []
  | (var, weight) :: rest => do
    let t ← var.evalTerm ctx scope "sos"
    match t.var? with
    | none => fail .sosEntry var.span
    | some v => do
      let q ← weight.evalRat ctx scope "sos weight"
      let entries ← SosBody.evalWeighted ctx scope rest
      return (v, q) :: entries

/-- Adds the special ordered sets of a body. -/
def SosBody.add (ctx : Context) (d : SosDecl) (priority : Int) :
    SosBody → List Tuple → Scope → Eval Unit
  | .each index body, path, scope =>
    index.forEach ctx scope fun frame t => body.add ctx d priority (path ++ [t]) frame
  | .weighted items, path, scope => do
    let entries ← SosBody.evalWeighted ctx scope items
    onModel d.span (Build.addSos ⟨qualified d.name.text path, d.type, priority, entries⟩)
  | .term e, path, scope => do
    let t ← e.evalTerm ctx scope "sos"
    if t.constant ≠ 0 then fail .sosConstant e.span
    else onModel d.span (Build.addSos ⟨qualified d.name.text path, d.type, priority, t.coefs⟩)

/-- Adds the special ordered sets of a declaration. -/
def SosDecl.add (d : SosDecl) (ctx : Context) (path : List Tuple) (scope : Scope) : Eval Unit := do
  let priority ← evalOption d.priority fun e => e.evalInteger ctx scope "priority"
  d.body.add ctx d (priority.getD 0) path scope

/-! ## The objective -/

def ObjectiveDecl.set (d : ObjectiveDecl) (ctx : Context) (scope : Scope) : Eval Unit := do
  let t ← d.term.evalTerm ctx scope "objective"
  onModel d.span (Build.setObjective ⟨d.sense, d.name.text, t⟩)

end ModelLang
