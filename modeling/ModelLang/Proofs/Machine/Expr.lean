import ModelLang.Proofs.Machine.Basic

/-!
# ModelLang.Proofs.Machine.Expr

The evaluation of expressions on the machine. A call pushes its define before the body runs and pops
it afterwards, so that the check for recursion finds on the stack what evaluation gets as its
context. `Expr.acts_evalStacked` says that the machine evaluates every expression as it is evaluated
in the context of its symbols and of its stack, whatever is on the stack and however it ends.
-/

namespace ModelLang

open Eval Stacked

/-- Runs the body of a define in a scope. -/
abbrev Expansion := String → Define → Scope → Stacked Value

mutual

/-- The value of an expression. -/
def Expr.evalStacked (expand : Expansion) : Expr → Scope → Stacked Value
  | .number q _, _ => return .ofRat q
  | .infinity _, _ => return .number .plusInfinity
  | .string s _, _ => return .string s
  | .name x span, scope =>
    match scope.lookup? x with
    | some v => return v
    | none => consult span fun ctx => ctx.lookup x []
  | .subscript x args span, scope => do
    let index ← Expr.concatStacked expand (Value.asTuple "subscript") args scope
    consult span fun ctx => ctx.lookup x index
  | .call x args span, scope => do
    let d ← consult span fun ctx => ctx.callee x args.length
    let vs ← Expr.valuesStacked expand args scope
    let v ← inside x (expand x d (scope.bindAll d.params vs))
    if d.kind.accepts v then return v
    else fail (.typeMismatch x d.kind.typeName v.typeName) span
  | .builtin f args span, scope => do
    let vs ← Expr.valuesStacked expand args scope
    f.call vs span
  | .tuple items _, scope => do
    let t ← Expr.concatStacked expand (fun v => (v.asElem "tuple").map fun e => [e]) items scope
    return .tuple t
  | .setLiteral items _, scope => do
    let s ← Expr.membersStacked expand items scope .empty
    return .set s
  | .range first last step closed span, scope => do
    let a ← first.evalStacked expand scope
    let a ← located first.span (a.asRat "range")
    let b ← last.evalStacked expand scope
    let b ← located last.span (b.asRat "range")
    let s ← Expr.optionalStacked expand step scope
    let s ← convertOr 1 (Value.asRat "range") s
    let r ← located span (TupleSet.range a b s closed)
    return .set r
  | .setBuilder index member _, scope => do
    let s ← index.evalSetStacked expand scope
    let r ← foldTuples (index.enterStacked expand scope)
      (fun acc frame t => do
        let m ← Expr.optionalStacked expand member frame
        let m ← convertOr t (Value.asTuple "set") m
        located index.span (acc.insert m))
      s.tuples TupleSet.empty
    return .set r
  | .proj set positions span, scope => do
    let s ← set.evalStacked expand scope
    let s ← located set.span (s.asSet "set")
    let ps ← positions.evalStacked expand scope
    let ps ← located positions.span ps.asPositions
    let r ← located span (s.proj ps)
    return .set r
  | .indexSetOf x _, _ =>
    consult x.span fun ctx =>
      match ctx.symbols.get x.text with
      | .ok s => (s.indexSet x.text).map .set
      | .error e => .error e
  | .binary op lhs rhs span, scope =>
    match op.deciding? with
    | some decisive => do
      let name := if decisive then "or" else "and"
      let a ← lhs.evalStacked expand scope
      let a ← located lhs.span (a.asTruth name)
      if a = decisive then return .truth a
      else do
        let b ← rhs.evalStacked expand scope
        let b ← located rhs.span (b.asTruth name)
        return .truth b
    | none => do
      let a ← lhs.evalStacked expand scope
      let b ← rhs.evalStacked expand scope
      located span (a.binary op b)
  | .unary op arg span, scope => do
    let v ← arg.evalStacked expand scope
    located span (v.unary op)
  | .aggregate kind index body span, scope => do
    let s ← index.evalSetStacked expand scope
    let r ← foldTuples (index.enterStacked expand scope)
      (fun acc frame _ => do
        let v ← body.evalStacked expand frame
        let acc ← located body.span (kind.step acc v)
        return some acc)
      s.tuples kind.start?
    match r with
    | some v => return v
    | none => fail (.emptyDomain kind.name) span
  | .nonempty index _, scope => do
    let s ← index.evalSetStacked expand scope
    let found ← anyTuple (index.enterStacked expand scope) s.tuples
    return .truth found
  | .argExtremum greatest count index body span, scope => do
    let op := if greatest then "argmax" else "argmin"
    let k ← Expr.optionalStacked expand count scope
    let k ← convertOr 1 (Value.asCount op) k
    let s ← index.evalSetStacked expand scope
    let scored ← foldTuples (index.enterStacked expand scope)
      (fun acc frame t => do
        let v ← body.evalStacked expand frame
        let n ← located body.span (v.asNumber op)
        return (n, t) :: acc)
      s.tuples []
    let r ← located span (TupleSet.ofTuples (bestTuples greatest k scored.reverse))
    return .set r
  | .indexedSetOp op index body _, scope => do
    let s ← index.evalSetStacked expand scope
    let r ← foldTuples (index.enterStacked expand scope)
      (fun (acc : Option TupleSet) frame _ => do
        let v ← body.evalStacked expand frame
        let b ← located body.span (v.asSet "set")
        match acc with
        | none => return some b
        | some a => do
          let c ← located body.span (if op = .inter then a.inter b else a.union b)
          return some c)
      s.tuples none
    return .set (r.getD .empty)
  | .conditional condition yes no _, scope => do
    let c ← condition.evalStacked expand scope
    let c ← located condition.span (c.asTruth "if")
    if c then yes.evalStacked expand scope else no.evalStacked expand scope
  | .read table span, scope => do
    let rows ← table.rowsStacked expand false scope
    let r ← located span (TupleSet.ofTuples (rows.map Prod.fst))
    return .set r

/-- The values of several expressions. -/
def Expr.valuesStacked (expand : Expansion) : List Expr → Scope → Stacked (List Value)
  | [], _ => return []
  | e :: rest, scope => do
    let v ← e.evalStacked expand scope
    let vs ← Expr.valuesStacked expand rest scope
    return v :: vs

/-- The tuples that `convert` makes of several expressions, joined into one. -/
def Expr.concatStacked (expand : Expansion) (convert : Value → Except Cause Tuple) :
    List Expr → Scope → Stacked Tuple
  | [], _ => return []
  | e :: rest, scope => do
    let v ← e.evalStacked expand scope
    let t ← located e.span (convert v)
    let ts ← Expr.concatStacked expand convert rest scope
    return t ++ ts

/-- The value of an optional expression, with its place. -/
def Expr.optionalStacked (expand : Expansion) :
    Option Expr → Scope → Stacked (Option (Value × Span))
  | none, _ => return none
  | some e, scope => do
    let v ← e.evalStacked expand scope
    return some (v, e.span)

/-- A set with further members. -/
def Expr.membersStacked (expand : Expansion) : List Expr → Scope → TupleSet → Stacked TupleSet
  | [], _, s => return s
  | e :: rest, scope, s => do
    let v ← e.evalStacked expand scope
    let t ← located e.span (v.asTuple "set")
    let s ← located e.span (s.insert t)
    Expr.membersStacked expand rest scope s

/-- Matches a pattern with the components of a tuple of the same length. The result is the scope
with the names that the pattern binds; later items see them. -/
def Expr.matchTupleStacked (expand : Expansion) :
    List Expr → Tuple → Scope → Stacked (Option Scope)
  | item :: items, c :: cs, scope =>
    match item.name? with
    | some x => Expr.matchTupleStacked expand items cs (scope.bind x c.toValue)
    | none => do
      let v ← item.evalStacked expand scope
      let e ← located item.span (v.asElem "tuple")
      if e = c then Expr.matchTupleStacked expand items cs scope else return none
  | _, _, scope => return some scope

/-- The set that an index set ranges over, before its pattern and its condition. -/
def IndexSet.evalSetStacked (expand : Expansion) : IndexSet → Scope → Stacked TupleSet
  | .mk _ set _ _, scope => do
    let s ← set.evalStacked expand scope
    located set.span (s.asSet "set")

/-- Matches an optional pattern with a tuple, which has to be of the same length. -/
def Expr.matchPatternStacked (expand : Expansion) :
    Option (List Expr) → Span → Tuple → Scope → Stacked (Option Scope)
  | none, _, _, scope => return some scope
  | some items, span, t, scope =>
    if items.length ≠ t.length then fail (.arityMismatch items.length t.length) span
    else Expr.matchTupleStacked expand items t scope

/-- The scope in which a tuple is visited, if the index set admits it. -/
def IndexSet.enterStacked (expand : Expansion) :
    IndexSet → Scope → Tuple → Stacked (Option Scope)
  | .mk pattern _ condition span, scope, t => do
    match ← Expr.matchPatternStacked expand pattern span t scope with
    | none => return none
    | some frame => do
      let c ← Expr.optionalStacked expand condition frame
      let c ← convertOr true (Value.asTruth "with") c
      return if c then some frame else none

/-- The rows of a table, with or without values. -/
def ReadSpec.rowsStacked (expand : Expansion) (withValue : Bool) :
    ReadSpec → Scope → Stacked (List Table.Row)
  | .mk file template options, scope => do
    let name ← file.evalStacked expand scope
    let name ← located file.span (name.asString "read")
    let text ← template.evalStacked expand scope
    let text ← located template.span (text.asString "read")
    let columns ← located template.span (Table.templateFor text withValue)
    let options ← ReadOption.setAllStacked expand options scope .default
    consult file.span fun ctx => Table.load ctx.tables name columns options

/-- The options of a table after those that are still to be evaluated. -/
def ReadOption.setAllStacked (expand : Expansion) :
    List ReadOption → Scope → Table.Options → Stacked Table.Options
  | [], _, options => return options
  | .mk key e :: rest, scope, options => do
    let v ← e.evalStacked expand scope
    let options ← consult e.span fun ctx => options.set ctx.tables.patterns key v
    ReadOption.setAllStacked expand rest scope options

end

namespace Stacked

/-- Runs the bodies of defines, with so many of them inside one another. -/
def expansion : Nat → Expansion
  | 0, x, d, _ => liftM (Eval.fail (.recursiveDefine x) d.body.span : Eval Value)
  | depth + 1, _, d, scope => d.body.evalStacked (expansion depth) scope

end Stacked

/-! ## Evaluation with a context -/

/-- The machine finds what the context gives, and runs the defines that the context runs, inside of
whatever loops. -/
structure Machine.Provides (m : Machine) (expand : Expansion) (ctx : Context) : Prop where
  symbols : ctx.symbols = m.session.symbols
  tables : ctx.tables = m.tables
  active : ctx.active = m.stack.defines
  expand (x : String) (d : Define) (scope : Scope) (path : List Tuple) :
    (inside x (expand x d scope)).Acts (m.withPath path).withWork (ctx.expand x d scope)

section Evaluation

variable {m : Machine} {expand : Expansion} {ctx : Context}

/-- Loops make no difference to expressions. -/
theorem Machine.Provides.pushTuple (h : m.Provides expand ctx) (t : Tuple) :
    (m.mapStacks (.pushTuple t)).Provides expand ctx where
  symbols := h.symbols
  tables := h.tables
  active := h.active
  expand := h.expand

theorem Machine.Provides.acts_lookup (h : m.Provides expand ctx) (x : String) (index : Tuple)
    (span : Span) :
    (consult span fun ctx => ctx.lookup x index).Acts m.withWork
      (located span (ctx.lookup x index)) := by
  refine acts_consult fun w => ?_
  rw [Context.lookup, Context.lookup, h.symbols]
  rfl

theorem Machine.Provides.acts_callee (h : m.Provides expand ctx) (x : String) (given : Nat)
    (span : Span) :
    (consult span fun ctx => ctx.callee x given).Acts m.withWork
      (located span (ctx.callee x given)) := by
  refine acts_consult fun w => ?_
  rw [Context.callee, Context.callee, h.symbols, h.active]
  rfl

mutual

theorem Expr.acts_evalStacked (h : m.Provides expand ctx) : ∀ (e : Expr) (scope : Scope),
    (e.evalStacked expand scope).Acts m.withWork (e.eval ctx scope)
  | .number q _, _ => .pure _
  | .infinity _, _ => .pure _
  | .string s _, _ => .pure _
  | .name x span, scope => by
    unfold Expr.evalStacked Expr.eval
    cases scope.lookup? x with
    | some v => exact .pure v
    | none => exact h.acts_lookup x [] span
  | .subscript x args span, scope => by
    unfold Expr.evalStacked Expr.eval
    refine .bind (Expr.acts_concatStacked h _ args scope) fun index => ?_
    exact h.acts_lookup x index span
  | .call x args span, scope => by
    unfold Expr.evalStacked Expr.eval
    -- The check for recursion comes before the arguments, which are evaluated outside of the define.
    refine .bind (h.acts_callee x args.length span) fun d => ?_
    refine .bind (Expr.acts_valuesStacked h args scope) fun vs => ?_
    refine .bind (h.expand x d _ m.stack.path) fun v => ?_
    split
    · exact .pure v
    · exact acts_lift _
  | .builtin f args span, scope => by
    unfold Expr.evalStacked Expr.eval
    exact .bind (Expr.acts_valuesStacked h args scope) fun vs => acts_lift _
  | .tuple items _, scope => by
    unfold Expr.evalStacked Expr.eval
    exact .bind (Expr.acts_concatStacked h _ items scope) fun t => .pure _
  | .setLiteral items _, scope => by
    unfold Expr.evalStacked Expr.eval
    exact .bind (Expr.acts_membersStacked h items scope .empty) fun s => .pure _
  | .range first last step closed span, scope => by
    unfold Expr.evalStacked Expr.eval
    refine .bind (first.acts_evalStacked h scope) fun a => .bind (acts_lift _) fun a => ?_
    refine .bind (last.acts_evalStacked h scope) fun b => .bind (acts_lift _) fun b => ?_
    refine .bind (Expr.acts_optionalStacked h step scope) fun s => .bind (acts_lift _) fun s => ?_
    exact .bind (acts_lift _) fun r => .pure _
  | .setBuilder index member _, scope => by
    unfold Expr.evalStacked Expr.eval
    refine .bind (index.acts_evalSetStacked h scope) fun s => ?_
    refine .bind (.foldTuples (index.acts_enterStacked h scope) ?_ s.tuples _) fun r => .pure _
    intro acc frame t
    refine .bind (Expr.acts_optionalStacked h member frame) fun v => ?_
    exact .bind (acts_lift _) fun u => acts_lift _
  | .proj set positions span, scope => by
    unfold Expr.evalStacked Expr.eval
    refine .bind (set.acts_evalStacked h scope) fun s => .bind (acts_lift _) fun s => ?_
    refine .bind (positions.acts_evalStacked h scope) fun ps => .bind (acts_lift _) fun ps => ?_
    exact .bind (acts_lift _) fun r => .pure _
  | .indexSetOf x _, _ => by
    unfold Expr.evalStacked Expr.eval
    refine acts_consult fun w => ?_
    rw [h.symbols]
    rfl
  | .binary op lhs rhs span, scope => by
    unfold Expr.evalStacked Expr.eval
    cases op.deciding? with
    | some decisive =>
      refine .bind (lhs.acts_evalStacked h scope) fun a => .bind (acts_lift _) fun a => ?_
      split
      · exact .pure _
      · refine .bind (rhs.acts_evalStacked h scope) fun b => ?_
        exact .bind (acts_lift _) fun b => .pure _
    | none =>
      refine .bind (lhs.acts_evalStacked h scope) fun a => ?_
      exact .bind (rhs.acts_evalStacked h scope) fun b => acts_lift _
  | .unary op arg span, scope => by
    unfold Expr.evalStacked Expr.eval
    exact .bind (arg.acts_evalStacked h scope) fun v => acts_lift _
  | .aggregate kind index body span, scope => by
    unfold Expr.evalStacked Expr.eval
    refine .bind (index.acts_evalSetStacked h scope) fun s => ?_
    refine .bind (.foldTuples (index.acts_enterStacked h scope) ?_ s.tuples _) fun r => ?_
    · intro acc frame _
      refine .bind (body.acts_evalStacked h frame) fun v => ?_
      exact .bind (acts_lift _) fun acc => .pure _
    · cases r with
      | some v => exact .pure v
      | none => exact acts_lift _
  | .nonempty index _, scope => by
    unfold Expr.evalStacked Expr.eval
    refine .bind (index.acts_evalSetStacked h scope) fun s => ?_
    exact .bind (.anyTuple (index.acts_enterStacked h scope) s.tuples) fun found => .pure _
  | .argExtremum greatest count index body span, scope => by
    unfold Expr.evalStacked Expr.eval
    refine .bind (Expr.acts_optionalStacked h count scope) fun k => .bind (acts_lift _) fun k => ?_
    refine .bind (index.acts_evalSetStacked h scope) fun s => ?_
    refine .bind (.foldTuples (index.acts_enterStacked h scope) ?_ s.tuples _) fun scored => ?_
    · intro acc frame t
      refine .bind (body.acts_evalStacked h frame) fun v => ?_
      exact .bind (acts_lift _) fun n => .pure _
    · exact .bind (acts_lift _) fun r => .pure _
  | .indexedSetOp op index body _, scope => by
    unfold Expr.evalStacked Expr.eval
    refine .bind (index.acts_evalSetStacked h scope) fun s => ?_
    refine .bind (.foldTuples (index.acts_enterStacked h scope) ?_ s.tuples _) fun r => .pure _
    intro acc frame _
    refine .bind (body.acts_evalStacked h frame) fun v => .bind (acts_lift _) fun b => ?_
    cases acc with
    | none => exact .pure _
    | some a => exact .bind (acts_lift _) fun c => .pure _
  | .conditional condition yes no _, scope => by
    unfold Expr.evalStacked Expr.eval
    refine .bind (condition.acts_evalStacked h scope) fun c => .bind (acts_lift _) fun c => ?_
    cases c with
    | true => exact yes.acts_evalStacked h scope
    | false => exact no.acts_evalStacked h scope
  | .read table span, scope => by
    unfold Expr.evalStacked Expr.eval
    refine .bind (table.acts_rowsStacked h false scope) fun rows => ?_
    exact .bind (acts_lift _) fun r => .pure _

theorem Expr.acts_valuesStacked (h : m.Provides expand ctx) : ∀ (es : List Expr) (scope : Scope),
    (Expr.valuesStacked expand es scope).Acts m.withWork (Expr.values ctx es scope)
  | [], _ => .pure _
  | e :: rest, scope => by
    unfold Expr.valuesStacked Expr.values
    refine .bind (e.acts_evalStacked h scope) fun v => ?_
    exact .bind (Expr.acts_valuesStacked h rest scope) fun vs => .pure _

theorem Expr.acts_concatStacked (h : m.Provides expand ctx)
    (convert : Value → Except Cause Tuple) : ∀ (es : List Expr) (scope : Scope),
    (Expr.concatStacked expand convert es scope).Acts m.withWork (Expr.concat ctx convert es scope)
  | [], _ => .pure _
  | e :: rest, scope => by
    unfold Expr.concatStacked Expr.concat
    refine .bind (e.acts_evalStacked h scope) fun v => .bind (acts_lift _) fun t => ?_
    exact .bind (Expr.acts_concatStacked h convert rest scope) fun ts => .pure _

theorem Expr.acts_optionalStacked (h : m.Provides expand ctx) :
    ∀ (e : Option Expr) (scope : Scope),
    (Expr.optionalStacked expand e scope).Acts m.withWork (Expr.optional ctx e scope)
  | none, _ => .pure _
  | some e, scope => by
    unfold Expr.optionalStacked Expr.optional
    exact .bind (e.acts_evalStacked h scope) fun v => .pure _

theorem Expr.acts_membersStacked (h : m.Provides expand ctx) :
    ∀ (es : List Expr) (scope : Scope) (s : TupleSet),
    (Expr.membersStacked expand es scope s).Acts m.withWork (Expr.members ctx es scope s)
  | [], _, _ => .pure _
  | e :: rest, scope, s => by
    unfold Expr.membersStacked Expr.members
    refine .bind (e.acts_evalStacked h scope) fun v => .bind (acts_lift _) fun t => ?_
    exact .bind (acts_lift _) fun s => Expr.acts_membersStacked h rest scope s

theorem Expr.acts_matchTupleStacked (h : m.Provides expand ctx) :
    ∀ (items : List Expr) (t : Tuple) (scope : Scope),
    (Expr.matchTupleStacked expand items t scope).Acts m.withWork
      (Expr.matchTuple ctx items t scope)
  | [], _, _ => .pure _
  | _ :: _, [], _ => .pure _
  | item :: items, c :: cs, scope => by
    unfold Expr.matchTupleStacked Expr.matchTuple
    cases item.name? with
    | some x => exact Expr.acts_matchTupleStacked h items cs _
    | none =>
      refine .bind (item.acts_evalStacked h scope) fun v => .bind (acts_lift _) fun e => ?_
      split
      · exact Expr.acts_matchTupleStacked h items cs scope
      · exact .pure _

theorem IndexSet.acts_evalSetStacked (h : m.Provides expand ctx) :
    ∀ (index : IndexSet) (scope : Scope),
    (index.evalSetStacked expand scope).Acts m.withWork (index.evalSet ctx scope)
  | .mk _ set _ _, scope => by
    unfold IndexSet.evalSetStacked IndexSet.evalSet
    exact .bind (set.acts_evalStacked h scope) fun s => acts_lift _

theorem Expr.acts_matchPatternStacked (h : m.Provides expand ctx) :
    ∀ (pattern : Option (List Expr)) (span : Span) (t : Tuple) (scope : Scope),
    (Expr.matchPatternStacked expand pattern span t scope).Acts m.withWork
      (Expr.matchPattern ctx pattern span t scope)
  | none, _, _, _ => .pure _
  | some items, span, t, scope => by
    unfold Expr.matchPatternStacked Expr.matchPattern
    split
    · exact acts_lift _
    · exact Expr.acts_matchTupleStacked h items t scope

theorem IndexSet.acts_enterStacked (h : m.Provides expand ctx) :
    ∀ (index : IndexSet) (scope : Scope) (t : Tuple),
    (index.enterStacked expand scope t).Acts m.withWork (index.enter ctx scope t)
  | .mk pattern _ condition span, scope, t => by
    unfold IndexSet.enterStacked IndexSet.enter
    refine .bind (Expr.acts_matchPatternStacked h pattern span t scope) fun r => ?_
    cases r with
    | none => exact .pure _
    | some frame =>
      refine .bind (Expr.acts_optionalStacked h condition frame) fun c => ?_
      exact .bind (acts_lift _) fun c => .pure _

theorem ReadSpec.acts_rowsStacked (h : m.Provides expand ctx) (withValue : Bool) :
    ∀ (table : ReadSpec) (scope : Scope),
    (table.rowsStacked expand withValue scope).Acts m.withWork (table.rows ctx withValue scope)
  | .mk file template options, scope => by
    unfold ReadSpec.rowsStacked ReadSpec.rows
    refine .bind (file.acts_evalStacked h scope) fun name => .bind (acts_lift _) fun name => ?_
    refine .bind (template.acts_evalStacked h scope) fun text => .bind (acts_lift _) fun text => ?_
    refine .bind (acts_lift _) fun columns => ?_
    refine .bind (ReadOption.acts_setAllStacked h options scope .default) fun options => ?_
    refine acts_consult fun w => ?_
    rw [h.tables]
    rfl

theorem ReadOption.acts_setAllStacked (h : m.Provides expand ctx) :
    ∀ (os : List ReadOption) (scope : Scope) (options : Table.Options),
    (ReadOption.setAllStacked expand os scope options).Acts m.withWork
      (ReadOption.setAll ctx os scope options)
  | [], _, _ => .pure _
  | .mk key e :: rest, scope, options => by
    unfold ReadOption.setAllStacked ReadOption.setAll
    refine .bind (e.acts_evalStacked h scope) fun v => ?_
    refine .bind (acts_consult fun w => ?_) fun options => ?_
    · rw [h.tables]
      rfl
    · exact ReadOption.acts_setAllStacked h rest scope options

end

end Evaluation

/-- The induction is on the number of expansions: inside a define there is one left fewer, and its
name is on the stack. -/
theorem Machine.provides_nested (m : Machine) (depth : Nat) :
    m.Provides (expansion depth)
      (.nested m.session.symbols m.tables depth m.stack.defines) := by
  induction depth generalizing m with
  | zero =>
    refine ⟨rfl, rfl, rfl, fun x d scope path => ?_⟩
    exact acts_inside fun _ => rfl
  | succ depth ih =>
    refine ⟨rfl, rfl, rfl, fun x d scope path => ?_⟩
    have hm := ih ((m.withPath path).mapStacks (.pushDefine x))
    exact acts_inside (d.body.acts_evalStacked hm scope)

end ModelLang
