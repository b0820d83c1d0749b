import ModelLang.Eval.Line
import ModelLang.Proofs.Machine.Declaration

/-!
# ModelLang.Proofs.Machine.Constraint

Constraints and special ordered sets on the machine. A loop pushes each of its tuples before its
body runs and pops it afterwards, and names are read off the stack. `Constraint.acts_addStacked` and
`SosBody.acts_addStacked` say that the machine adds what is added when the tuples are passed along.
-/

namespace ModelLang

open Eval Stacked

def Expr.evalSideStacked (e : Expr) (expand : Expansion) (scope : Scope) : Stacked Term := do
  let v ← e.evalStacked expand scope
  located e.span v.asSide

/-- The difference of two sides. -/
def differenceStacked (lhs rhs : Expr) (expand : Expansion) (scope : Scope) : Stacked Term := do
  let a ← lhs.evalSideStacked expand scope
  let b ← rhs.evalSideStacked expand scope
  return a.sub b

/-- A condition on variables. -/
def Expr.evalConditionStacked (expand : Expansion) : Expr → Scope → Stacked Condition
  | .binary op a b span, scope =>
    match op with
    | .and => do
      let x ← a.evalConditionStacked expand scope
      let y ← b.evalConditionStacked expand scope
      return .and x y
    | .or => do
      let x ← a.evalConditionStacked expand scope
      let y ← b.evalConditionStacked expand scope
      return .or x y
    | .xor => do
      let x ← a.evalConditionStacked expand scope
      let y ← b.evalConditionStacked expand scope
      return .xor x y
    | .compare op => do
      let t ← differenceStacked a b expand scope
      return .atom t op
    | _ => liftM (Eval.fail .conditionForm span : Eval Condition)
  | .unary .not a _, scope => do
    let x ← a.evalConditionStacked expand scope
    return .not x
  | e, _ => liftM (Eval.fail .conditionForm e.span : Eval Condition)

/-- What a branch requires of the variables. -/
def Branch.evalStacked (b : Branch) (expand : Expansion) (scope : Scope) :
    Stacked Requirement := do
  let t ← differenceStacked b.lhs b.rhs expand scope
  return ⟨t, b.rel⟩

/-- Runs the body of a loop for each tuple that the index set admits. -/
def IndexSet.forEachStacked (index : IndexSet) (expand : Expansion) (scope : Scope)
    (body : Scope → Stacked Unit) : Stacked Unit := do
  let s ← index.evalSetStacked expand scope
  foldTuples (index.enterStacked expand scope) (fun _ frame t => under t (body frame)) s.tuples ()

mutual

/-- Adds the rows of a constraint. -/
def Constraint.addStacked (expand : Expansion) (base : String) :
    Constraint → Scope → Stacked Unit
  | .plain lhs rel rhs flags, scope => do
    let t ← differenceStacked lhs rhs expand scope
    let name ← pathName base
    onModel lhs.span (Build.addLinear name t rel flags)
  | .range low lowerRel term upperRel high flags, scope => do
    if lowerRel ≠ upperRel ∨ lowerRel = .eq then fail .rangeDirections term.span
    else
      let a ← low.takeStacked expand scope (Value.asNumber "range constraint")
      let b ← high.takeStacked expand scope (Value.asNumber "range constraint")
      let (a, b) := if lowerRel = .ge then (b, a) else (a, b)
      let t ← term.takeStacked expand scope (Value.asTerm "range constraint")
      let name ← pathName base
      let row ← located term.span (Row.range name t a b flags)
      onModel term.span (Build.addRow row)
  | .vif condition yes no flags, scope => do
    let c ← condition.evalConditionStacked expand scope
    let y ← yes.evalStacked expand scope
    let n ← evalOptionStacked no fun b => b.evalStacked expand scope
    let name ← pathName base
    onModel condition.span (Build.conditional ⟨name, c, y, n, flags⟩)
  | .all parts, scope => Constraint.addAllStacked expand base parts scope
  | .each index body, scope => index.forEachStacked expand scope (body.addStacked expand base)
  | .cond condition yes no, scope => do
    let c ← condition.takeStacked expand scope (Value.asTruth "if")
    if c then yes.addStacked expand base scope
    else
      match no with
      | none => return ()
      | some no => no.addStacked expand base scope

def Constraint.addAllStacked (expand : Expansion) (base : String) :
    List Constraint → Scope → Stacked Unit
  | [], _ => return ()
  | c :: rest, scope => do
    c.addStacked expand base scope
    Constraint.addAllStacked expand base rest scope

end

/-- The weighted variables of a list. -/
def SosBody.evalWeightedStacked (expand : Expansion) (scope : Scope) :
    List (Expr × Expr) → Stacked (List (VarId × Rat))
  | [] => return []
  | (var, weight) :: rest => do
    let t ← var.takeStacked expand scope (Value.asTerm "sos")
    match t.var? with
    | none => fail .sosEntry var.span
    | some v => do
      let q ← weight.takeStacked expand scope (Value.asRat "sos weight")
      let entries ← SosBody.evalWeightedStacked expand scope rest
      return (v, q) :: entries

/-- Adds the special ordered sets of a body. -/
def SosBody.addStacked (expand : Expansion) (d : SosDecl) (priority : Int) :
    SosBody → Scope → Stacked Unit
  | .each index body, scope =>
    index.forEachStacked expand scope (body.addStacked expand d priority)
  | .weighted items, scope => do
    let entries ← SosBody.evalWeightedStacked expand scope items
    let name ← pathName d.name.text
    onModel d.span (Build.addSos ⟨name, d.type, priority, entries⟩)
  | .term e, scope => do
    let t ← e.takeStacked expand scope (Value.asTerm "sos")
    if t.constant ≠ 0 then fail .sosConstant e.span
    else
      let name ← pathName d.name.text
      onModel d.span (Build.addSos ⟨name, d.type, priority, t.coefs⟩)

/-- Adds the special ordered sets of a declaration. -/
def SosDecl.addStacked (d : SosDecl) (expand : Expansion) (scope : Scope) : Stacked Unit := do
  let priority ← evalOptionStacked d.priority fun e => e.evalIntegerStacked expand scope "priority"
  d.body.addStacked expand d (priority.getD 0) scope

def ObjectiveDecl.setStacked (d : ObjectiveDecl) (expand : Expansion) (scope : Scope) :
    Stacked Unit := do
  let t ← d.term.takeStacked expand scope (Value.asTerm "objective")
  onModel d.span (Build.setObjective ⟨d.sense, d.name.text, t⟩)

/-- What printing shows of an item. -/
def Expr.evalShownStacked (e : Expr) (expand : Expansion) (scope : Scope) : Stacked String := do
  let family ← look fun m => e.family? m.context scope
  match family with
  | some f => do
    let w ← liftM (Step.get : Eval Workspace)
    return String.intercalate " " (f.entries.map fun x => w.model.variableName x.2)
  | none => do
    let v ← e.evalStacked expand scope
    let w ← liftM (Step.get : Eval Workspace)
    return v.shownWith w.model.variableName

/-- The line that items print. -/
def Expr.evalLineStacked (expand : Expansion) (scope : Scope) : List Expr → Stacked String
  | [] => return ""
  | e :: rest => do
    let s ← e.evalShownStacked expand scope
    let line ← Expr.evalLineStacked expand scope rest
    return s ++ line

/-! ## Evaluation with a context -/

section Evaluation

variable {m : Machine} {expand : Expansion} {ctx : Context}

theorem acts_differenceStacked (h : m.Provides expand ctx) (lhs rhs : Expr) (scope : Scope) :
    (differenceStacked lhs rhs expand scope).Acts m.withWork (difference lhs rhs ctx scope) := by
  refine .bind (lhs.acts_takeStacked h scope Value.asSide) fun a => ?_
  exact .bind (rhs.acts_takeStacked h scope Value.asSide) fun b => .pure _

theorem Expr.acts_evalConditionStacked (h : m.Provides expand ctx) :
    ∀ (e : Expr) (scope : Scope),
    (e.evalConditionStacked expand scope).Acts m.withWork (e.evalCondition ctx scope)
  | .binary op a b span, scope => by
    have ha := a.acts_evalConditionStacked h scope
    have hb := b.acts_evalConditionStacked h scope
    unfold Expr.evalConditionStacked Expr.evalCondition
    cases op with
    | and | or | xor => exact .bind ha fun x => .bind hb fun y => .pure _
    | compare op => exact .bind (acts_differenceStacked h a b scope) fun t => .pure _
    | add | sub | mul | div | mod | intDiv | pow | set _ | mem => exact acts_lift _
  | .unary op a span, scope => by
    cases op with
    | not => exact .bind (a.acts_evalConditionStacked h scope) fun x => .pure _
    | neg | factorial => exact acts_lift _
  | .number _ _, _ | .infinity _, _ | .string _ _, _ | .name _ _, _ | .subscript _ _ _, _
  | .call _ _ _, _ | .builtin _ _ _, _ | .tuple _ _, _ | .setLiteral _ _, _
  | .range _ _ _ _ _, _ | .setBuilder _ _ _, _ | .proj _ _ _, _ | .indexSetOf _ _, _
  | .aggregate _ _ _ _, _ | .nonempty _ _, _ | .argExtremum _ _ _ _ _, _
  | .indexedSetOp _ _ _ _, _ | .conditional _ _ _ _, _ | .read _ _, _ => acts_lift _

theorem Branch.acts_evalStacked (h : m.Provides expand ctx) (b : Branch) (scope : Scope) :
    (b.evalStacked expand scope).Acts m.withWork (b.eval ctx scope) :=
  .bind (acts_differenceStacked h b.lhs b.rhs scope) fun _ => .pure _

theorem acts_pathName {g : String → Stacked Unit} {y : Eval Unit} (base : String)
    (h : (g (qualified base m.stack.path)).Acts m.withWork y) :
    (pathName base >>= g).Acts m.withWork y :=
  acts_look (fun _ => rfl) h

/-- Inside of a loop, the tuple is on the stack instead of at the end of what is passed along. -/
theorem IndexSet.acts_forEachStacked (h : m.Provides expand ctx) (index : IndexSet)
    (scope : Scope) {body : Scope → Stacked Unit} {visit : Scope → Tuple → Eval Unit}
    (hb : ∀ frame t, (body frame).Acts (m.mapStacks (.pushTuple t)).withWork (visit frame t)) :
    (index.forEachStacked expand scope body).Acts m.withWork (index.forEach ctx scope visit) := by
  refine .bind (index.acts_evalSetStacked h scope) fun s => ?_
  refine .foldTuples (index.acts_enterStacked h scope) ?_ s.tuples ()
  exact fun _ frame t => acts_under (hb frame t)

end Evaluation

section Rows

variable {expand : Expansion} {ctx : Context}

mutual

theorem Constraint.acts_addStacked (base : String) : ∀ (c : Constraint) (m : Machine)
    (_ : m.Provides expand ctx) (scope : Scope),
    (c.addStacked expand base scope).Acts m.withWork (c.add ctx base m.stack.path scope)
  | .plain lhs rel rhs flags, m, h, scope => by
    unfold Constraint.addStacked Constraint.add
    refine .bind (acts_differenceStacked h lhs rhs scope) fun t => ?_
    exact acts_pathName base (acts_lift _)
  | .range low lowerRel term upperRel high flags, m, h, scope => by
    unfold Constraint.addStacked Constraint.add
    split
    · exact acts_lift _
    · refine .bind (low.acts_takeStacked h scope _) fun a => ?_
      refine .bind (high.acts_takeStacked h scope _) fun b => ?_
      refine .bind (term.acts_takeStacked h scope _) fun t => ?_
      exact acts_pathName base (.bind (acts_lift _) fun row => acts_lift _)
  | .vif condition yes no flags, m, h, scope => by
    unfold Constraint.addStacked Constraint.add
    refine .bind (condition.acts_evalConditionStacked h scope) fun c => ?_
    refine .bind (yes.acts_evalStacked h scope) fun y => ?_
    refine .bind (acts_evalOptionStacked no fun b => b.acts_evalStacked h scope) fun n => ?_
    exact acts_pathName base (acts_lift _)
  | .all parts, m, h, scope => Constraint.acts_addAllStacked base parts m h scope
  | .each index body, m, h, scope => by
    unfold Constraint.addStacked Constraint.add
    refine index.acts_forEachStacked h scope fun frame t => ?_
    exact body.acts_addStacked base (m.mapStacks (.pushTuple t)) (h.pushTuple t) frame
  | .cond condition yes no, m, h, scope => by
    unfold Constraint.addStacked Constraint.add
    refine .bind (condition.acts_takeStacked h scope _) fun c => ?_
    cases c with
    | true => exact yes.acts_addStacked base m h scope
    | false =>
      cases no with
      | none => exact .pure _
      | some no => exact no.acts_addStacked base m h scope

theorem Constraint.acts_addAllStacked (base : String) : ∀ (cs : List Constraint) (m : Machine)
    (_ : m.Provides expand ctx) (scope : Scope),
    (Constraint.addAllStacked expand base cs scope).Acts m.withWork
      (Constraint.addAll ctx base cs m.stack.path scope)
  | [], _, _, _ => .pure _
  | c :: rest, m, h, scope => by
    unfold Constraint.addAllStacked Constraint.addAll
    refine .bind (c.acts_addStacked base m h scope) fun _ => ?_
    exact Constraint.acts_addAllStacked base rest m h scope

end

theorem SosBody.acts_evalWeightedStacked {m : Machine} (h : m.Provides expand ctx)
    (scope : Scope) (items : List (Expr × Expr)) :
    (SosBody.evalWeightedStacked expand scope items).Acts m.withWork
      (SosBody.evalWeighted ctx scope items) := by
  induction items with
  | nil => exact .pure _
  | cons item items ih =>
    refine .bind (item.1.acts_takeStacked h scope _) fun t => ?_
    cases t.var? with
    | none => exact acts_lift _
    | some v =>
      refine .bind (item.2.acts_takeStacked h scope _) fun q => ?_
      exact .bind ih fun entries => .pure _

theorem SosBody.acts_addStacked (d : SosDecl) (priority : Int) (body : SosBody) {m : Machine}
    (h : m.Provides expand ctx) (scope : Scope) :
    (body.addStacked expand d priority scope).Acts m.withWork
      (body.add ctx d priority m.stack.path scope) := by
  induction body generalizing m scope with
  | weighted items =>
    refine .bind (SosBody.acts_evalWeightedStacked h scope items) fun entries => ?_
    exact acts_pathName d.name.text (acts_lift _)
  | term e =>
    refine .bind (e.acts_takeStacked h scope _) fun t => ?_
    split
    · exact acts_lift _
    · exact acts_pathName d.name.text (acts_lift _)
  | each index body ih =>
    exact index.acts_forEachStacked h scope fun frame t => ih (h.pushTuple t) frame

theorem SosDecl.acts_addStacked {m : Machine} (h : m.Provides expand ctx) (d : SosDecl)
    (scope : Scope) :
    (d.addStacked expand scope).Acts m.withWork (d.add ctx m.stack.path scope) := by
  refine .bind (acts_evalOptionStacked d.priority fun e => e.acts_evalIntegerStacked h scope _) ?_
  exact fun priority => d.body.acts_addStacked d _ h scope

theorem ObjectiveDecl.acts_setStacked {m : Machine} (h : m.Provides expand ctx)
    (d : ObjectiveDecl) (scope : Scope) :
    (d.setStacked expand scope).Acts m.withWork (d.set ctx scope) :=
  .bind (d.term.acts_takeStacked h scope _) fun _ => acts_lift _

end Rows

/-! ## Printed lines -/

section Lines

variable {m : Machine} {expand : Expansion} {ctx : Context}

theorem Expr.acts_evalShownStacked (h : m.Provides expand ctx) (e : Expr) (scope : Scope) :
    (e.evalShownStacked expand scope).Acts m.withWork (e.evalShown ctx scope) := by
  have hfamily : ∀ w, e.family? (m.withWork w).context scope = e.family? ctx scope := by
    intro w
    rw [Expr.family?, Expr.family?, h.symbols]
    rfl
  refine acts_look hfamily ?_
  unfold Expr.evalShown
  cases e.family? ctx scope with
  | some f => exact .bind (acts_lift _) fun w => .pure _
  | none =>
    refine .bind (e.acts_evalStacked h scope) fun v => ?_
    exact .bind (acts_lift _) fun w => .pure _

theorem Expr.acts_evalLineStacked (h : m.Provides expand ctx) (scope : Scope)
    (items : List Expr) :
    (Expr.evalLineStacked expand scope items).Acts m.withWork
      (Expr.evalLine ctx scope items) := by
  induction items with
  | nil => exact .pure _
  | cons item items ih =>
    exact .bind (item.acts_evalShownStacked h scope) fun s => .bind ih fun line => .pure _

end Lines

end ModelLang
