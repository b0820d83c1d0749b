import ModelLang.Proofs.Bare

/-!
# ModelLang.Proofs.Blameless

Where expressions stand in a source has no influence on what they evaluate to, nor on the cause of
their failures. A computation is `blameless` when its failures no longer tell their place. Then
an expression and the expression without spans are the same computation (`Expr.eval_bare`), in
contexts that differ at most in the spans of their defines (`Context.Beside`).
-/

namespace ModelLang

/-! ## Failures without places -/

theorem Step.ofExcept_ok_bind {σ ε α β : Type} (a : α) (f : α → Step σ ε β) :
    Step.ofExcept (.ok a) >>= f = f a := rfl

namespace Eval

variable {α β : Type}

/-- The computation with the causes of its failures only. -/
def blameless (x : Eval α) : Step Workspace Cause α :=
  x.mapError Failure.cause

@[simp] theorem blameless_pure (a : α) : blameless (Pure.pure a) = Pure.pure a := rfl

@[simp] theorem blameless_bind (x : Eval α) (f : α → Eval β) :
    blameless (x >>= f) = blameless x >>= fun a => blameless (f a) := by
  funext w
  simp only [blameless, Step.mapError, Step.bind_apply]
  rcases x w with ⟨_ | a, w'⟩ <;> rfl

@[simp] theorem blameless_map (f : α → β) (x : Eval α) :
    blameless (f <$> x) = f <$> blameless x := by
  funext w
  show (blameless (x >>= fun a => Pure.pure (f a)) : Step Workspace Cause β) w = _
  rw [blameless_bind]
  rfl

@[simp] theorem blameless_ite (c : Prop) [Decidable c] (x y : Eval α) :
    blameless (if c then x else y) = if c then blameless x else blameless y :=
  apply_ite blameless c x y

@[simp] theorem blameless_fail (cause : Cause) (span : Span) :
    blameless (fail cause span : Eval α) = Step.fail cause := rfl

@[simp] theorem blameless_located (span : Span) (x : Except Cause α) :
    blameless (located span x) = Step.ofExcept x := by
  cases x <;> rfl

@[simp] theorem blameless_onModel (span : Span) (x : Build α) :
    blameless (onModel span x) = x.onPart Workspace.model fun m w => { w with model := m } := by
  funext w
  simp only [blameless, onModel, Step.mapError, Step.onPart]
  rcases x w.model with ⟨_ | a, m⟩ <;> rfl

/-- What `convert` makes of a value, or the fallback if there is no value. -/
def converted (fallback : α) (convert : Value → Except Cause α) : Option Value → Except Cause α
  | none => .ok fallback
  | some v => convert v

@[simp] theorem blameless_convertOr (fallback : α) (convert : Value → Except Cause α)
    (v : Option (Value × Span)) :
    blameless (convertOr fallback convert v) =
      Step.ofExcept (converted fallback convert (v.map Prod.fst)) := by
  rcases v with _ | ⟨v, span⟩
  · rfl
  · exact blameless_located span (convert v)

/-- An optional value without its place. -/
def valueOf (x : Eval (Option (Value × Span))) : Step Workspace Cause (Option Value) :=
  Option.map Prod.fst <$> blameless x

/-- Only the value goes on. -/
@[simp] theorem blameless_bind_converted {γ : Type} (x : Eval (Option (Value × Span)))
    (fallback : α) (convert : Value → Except Cause α) (f : α → Step Workspace Cause γ) :
    (blameless x >>= fun v =>
      Step.ofExcept (converted fallback convert (v.map Prod.fst)) >>= f) =
      valueOf x >>= fun v => Step.ofExcept (converted fallback convert v) >>= f := by
  rw [valueOf, bind_map_left]

@[simp] theorem blameless_foldTuples (enter : Tuple → Eval (Option Scope))
    (visit : β → Scope → Tuple → Eval β) (ts : List Tuple) (acc : β) :
    blameless (foldTuples enter visit ts acc) =
      foldTuples (fun t => blameless (enter t)) (fun acc frame t => blameless (visit acc frame t))
        ts acc := by
  induction ts generalizing acc with
  | nil => rfl
  | cons t ts ih =>
    simp only [foldTuples, blameless_bind]
    congr 1
    funext frame
    cases frame with
    | none => exact ih acc
    | some frame => simp only [blameless_bind, ih]

@[simp] theorem blameless_anyTuple (enter : Tuple → Eval (Option Scope)) (ts : List Tuple) :
    blameless (anyTuple enter ts) = anyTuple (fun t => blameless (enter t)) ts := by
  induction ts with
  | nil => rfl
  | cons t ts ih =>
    simp only [anyTuple, blameless_bind]
    congr 1
    funext frame
    cases frame with
    | none => exact ih
    | some frame => rfl

end Eval

theorem Builtin.blameless_call (f : Builtin) (args : List Value) (span span' : Span) :
    Eval.blameless (f.call args span) = Eval.blameless (f.call args span') := by
  unfold Builtin.call
  split <;> simp

/-! ## Look-ups -/

namespace Symbol

@[simp] theorem lookup_bare (s : Symbol) (name : String) (index : Tuple) :
    s.bare.lookup name index = s.lookup name index := by
  cases s <;> rfl

@[simp] theorem indexSet_bare (s : Symbol) (name : String) :
    s.bare.indexSet name = s.indexSet name := by
  cases s <;> rfl

end Symbol

namespace Symbols

theorem get?_bare (symbols : Symbols) (name : String) :
    (Symbols.bare symbols).get? name = (symbols.get? name).map Symbol.bare := by
  unfold get? Symbols.bare
  rw [List.find?_map, Option.map_map, Option.map_map]
  rfl

theorem get_bare (symbols : Symbols) (name : String) :
    (Symbols.bare symbols).get name = (symbols.get name).map Symbol.bare := by
  unfold get
  rw [get?_bare]
  cases symbols.get? name <;> rfl

end Symbols

namespace Context

open Eval

/-- The second context has the same symbols without spans, and its defines expand to the same
computations. -/
structure Beside (ctx ctx' : Context) : Prop where
  symbols : ctx'.symbols = Symbols.bare ctx.symbols
  tables : ctx'.tables = ctx.tables
  active : ctx'.active = ctx.active
  expand : ∀ x d scope,
    blameless (ctx'.expand x (Define.bare d) scope) = blameless (ctx.expand x d scope)

namespace Beside

variable {ctx ctx' : Context} (h : ctx.Beside ctx')

include h

theorem lookup (name : String) (index : Tuple) :
    ctx'.lookup name index = ctx.lookup name index := by
  unfold Context.lookup
  rw [h.symbols, Symbols.get_bare]
  cases ctx.symbols.get name with
  | error e => rfl
  | ok s => exact s.lookup_bare name index

theorem callee (name : String) (given : Nat) :
    ctx'.callee name given = (ctx.callee name given).map Define.bare := by
  unfold Context.callee
  rw [h.symbols, h.active, Symbols.get_bare]
  cases ctx.symbols.get name with
  | error e => rfl
  | ok s =>
    cases s with
    | define d =>
      simp only [Except.map, Symbol.bare, Define.bare]
      split
      · rfl
      split <;> rfl
    | set | number | string | var => rfl

end Beside

end Context

/-! ## Expressions -/

section Expressions

open Eval

variable {ctx ctx' : Context}

mutual

theorem Expr.eval_bare (h : ctx.Beside ctx') (e : Expr) (scope : Scope) :
    blameless (e.bare.eval ctx' scope) = blameless (e.eval ctx scope) := by
  cases e with
  | number | infinity | string => rfl
  | name x span =>
    simp only [Expr.bare, Expr.eval]
    cases scope.lookup? x with
    | some v => rfl
    | none => simp [h.lookup]
  | subscript x args span =>
    simp [Expr.eval, h.lookup, Expr.concat_bare h _ args scope]
  | call x args span =>
    simp only [Expr.bare, Expr.bareAll_eq_map, Expr.eval, blameless_bind, blameless_located,
      blameless_ite, blameless_fail, h.callee, List.length_map, Expr.values_bare h args scope]
    cases ctx.callee x args.length with
    | error e => rfl
    | ok d =>
      simp only [Except.map, Step.ofExcept_ok_bind]
      refine bind_congr fun vs => ?_
      exact congrArg (· >>= _) (h.expand x d (scope.bindAll d.params vs))
  | builtin f args span =>
    simp [Expr.eval, Expr.values_bare h args scope, f.blameless_call _ default span]
  | tuple items span => simp [Expr.eval, Expr.concat_bare h _ items scope]
  | setLiteral items span => simp [Expr.eval, Expr.members_bare h items scope]
  | range first last step closed span =>
    simp [Expr.eval, Expr.eval_bare h first scope, Expr.eval_bare h last scope,
      Expr.optional_bare h step scope]
  | setBuilder index member span =>
    simp [Expr.eval, IndexSet.evalSet_bare h index scope, IndexSet.enter_bare h index scope,
      fun frame => Expr.optional_bare h member frame]
  | proj set positions span =>
    simp [Expr.eval, Expr.eval_bare h set scope, Expr.eval_bare h positions scope]
  | indexSetOf x span =>
    simp only [Expr.bare, Expr.eval, blameless_located, h.symbols, Symbols.get_bare]
    cases ctx.symbols.get x.text <;> simp [Except.map]
  | binary op a b span =>
    simp only [Expr.bare, Expr.eval]
    cases op.deciding? <;> simp [Expr.eval_bare h a scope, Expr.eval_bare h b scope]
  | unary op a span => simp [Expr.eval, Expr.eval_bare h a scope]
  | aggregate kind index body span =>
    simp only [Expr.bare, Expr.eval, bind_pure_comp, blameless_bind, blameless_map,
      blameless_foldTuples, blameless_located, IndexSet.evalSet_bare h index scope,
      IndexSet.enter_bare h index scope, fun frame => Expr.eval_bare h body frame]
    refine bind_congr fun s => bind_congr fun r => ?_
    cases r <;> rfl
  | nonempty index span =>
    simp [Expr.eval, IndexSet.evalSet_bare h index scope, IndexSet.enter_bare h index scope]
  | argExtremum greatest count index body span =>
    simp [Expr.eval, IndexSet.evalSet_bare h index scope, IndexSet.enter_bare h index scope,
      Expr.optional_bare h count scope, fun frame => Expr.eval_bare h body frame]
  | indexedSetOp op index body span =>
    simp only [Expr.bare, Expr.eval, bind_pure_comp, blameless_bind, blameless_map,
      blameless_foldTuples, blameless_located, IndexSet.evalSet_bare h index scope,
      IndexSet.enter_bare h index scope, fun frame => Expr.eval_bare h body frame]
    refine bind_congr fun s => congrArg _ (congrArg (foldTuples _ · s.tuples none) ?_)
    funext acc frame t
    refine bind_congr fun v => bind_congr fun b => ?_
    cases acc <;> simp
  | conditional c a b span =>
    simp [Expr.eval, Expr.eval_bare h c scope, Expr.eval_bare h a scope, Expr.eval_bare h b scope]
  | read table span => simp [Expr.eval, ReadSpec.rows_bare h false table scope]

theorem Expr.values_bare (h : ctx.Beside ctx') (es : List Expr) (scope : Scope) :
    blameless (Expr.values ctx' (es.map Expr.bare) scope) =
      blameless (Expr.values ctx es scope) := by
  cases es with
  | nil => rfl
  | cons e es => simp [Expr.values, Expr.eval_bare h e scope, Expr.values_bare h es scope]

theorem Expr.concat_bare (h : ctx.Beside ctx') (convert : Value → Except Cause Tuple)
    (es : List Expr) (scope : Scope) :
    blameless (Expr.concat ctx' convert (es.map Expr.bare) scope) =
      blameless (Expr.concat ctx convert es scope) := by
  cases es with
  | nil => rfl
  | cons e es => simp [Expr.concat, Expr.eval_bare h e scope, Expr.concat_bare h convert es scope]

theorem Expr.optional_bare (h : ctx.Beside ctx') (e : Option Expr) (scope : Scope) :
    valueOf (Expr.optional ctx' (e.map Expr.bare) scope) =
      valueOf (Expr.optional ctx e scope) := by
  cases e with
  | none => rfl
  | some e => simp [valueOf, Expr.optional, Expr.eval_bare h e scope]

theorem Expr.members_bare (h : ctx.Beside ctx') (es : List Expr) (scope : Scope) (s : TupleSet) :
    blameless (Expr.members ctx' (es.map Expr.bare) scope s) =
      blameless (Expr.members ctx es scope s) := by
  cases es with
  | nil => rfl
  | cons e es =>
    simp [Expr.members, Expr.eval_bare h e scope, fun s => Expr.members_bare h es scope s]

theorem Expr.matchTuple_bare (h : ctx.Beside ctx') (items : List Expr) (t : Tuple) (scope : Scope) :
    blameless (Expr.matchTuple ctx' (items.map Expr.bare) t scope) =
      blameless (Expr.matchTuple ctx items t scope) := by
  cases items with
  | nil => rfl
  | cons item items =>
    cases t with
    | nil => rfl
    | cons c cs =>
      simp only [List.map_cons, Expr.matchTuple, Expr.name?_bare]
      cases item.name? with
      | some x => exact Expr.matchTuple_bare h items cs _
      | none => simp [Expr.eval_bare h item scope, Expr.matchTuple_bare h items cs scope]

theorem IndexSet.evalSet_bare (h : ctx.Beside ctx') (index : IndexSet) (scope : Scope) :
    blameless (index.bare.evalSet ctx' scope) = blameless (index.evalSet ctx scope) := by
  cases index with
  | mk pattern set condition span =>
    simp [IndexSet.evalSet, Expr.eval_bare h set scope]

theorem Expr.matchPattern_bare (h : ctx.Beside ctx') (pattern : Option (List Expr)) (span : Span)
    (t : Tuple) (scope : Scope) :
    blameless (Expr.matchPattern ctx' (pattern.map (List.map Expr.bare)) default t scope) =
      blameless (Expr.matchPattern ctx pattern span t scope) := by
  cases pattern with
  | none => rfl
  | some items => simp [Expr.matchPattern, Expr.matchTuple_bare h items t scope]

theorem IndexSet.enter_bare (h : ctx.Beside ctx') (index : IndexSet) (scope : Scope) (t : Tuple) :
    blameless (index.bare.enter ctx' scope t) = blameless (index.enter ctx scope t) := by
  cases index with
  | mk pattern set condition span =>
    simp only [IndexSet.bare_mk, IndexSet.enter, blameless_bind,
      Expr.matchPattern_bare h pattern span t scope]
    refine bind_congr fun frame => ?_
    cases frame with
    | none => rfl
    | some frame =>
      simp only [blameless_bind, blameless_convertOr, blameless_bind_converted, blameless_pure,
        Expr.optional_bare h condition frame]

theorem ReadSpec.rows_bare (h : ctx.Beside ctx') (withValue : Bool) (table : ReadSpec)
    (scope : Scope) :
    blameless (table.bare.rows ctx' withValue scope) =
      blameless (table.rows ctx withValue scope) := by
  cases table with
  | mk file template options =>
    simp [ReadSpec.rows, h.tables, Expr.eval_bare h file scope, Expr.eval_bare h template scope,
      ReadOption.setAll_bare h options scope]

theorem ReadOption.setAll_bare (h : ctx.Beside ctx') (items : List ReadOption) (scope : Scope)
    (options : Table.Options) :
    blameless (ReadOption.setAll ctx' (items.map ReadOption.bare) scope options) =
      blameless (ReadOption.setAll ctx items scope options) := by
  match items with
  | [] => rfl
  | .mk key e :: items =>
    simp [ReadOption.bare, ReadOption.setAll, h.tables, Expr.eval_bare h e scope,
      fun options => ReadOption.setAll_bare h items scope options]

end

end Expressions

end ModelLang
