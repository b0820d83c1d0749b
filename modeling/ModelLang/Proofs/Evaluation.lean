import ModelLang.Proofs.Worlds

/-!
# ModelLang.Proofs.Evaluation

Properties of evaluations that look at no workspace: what is kept of values is the same everywhere,
so that there is one world only. `Reasoning` collects what such a property needs;
`Expr.eval_ensures` and its companions give it for expressions within a vocabulary, and
`Reasoning.ensures_nested` for the bodies of defines.
-/

namespace ModelLang

/-- A property of computations together with their results, which evaluation within a vocabulary
builds up: `V` is kept of values, and `E` of the causes of failure. Of the latter only those are of
interest that few operations have. -/
structure Reasoning (symbols : Symbols) (tables : Table.Source) (L : Vocabulary) (V : Value → Prop)
    (E : Cause → Prop) (P : (α : Type) → (α → Prop) → Eval α → Prop) : Prop where
  located {α : Type} {Q : α → Prop} {x : Except Cause α} (span : Span) :
    Yields E Q x → P α Q (Eval.located span x)
  bind {α β : Type} {Q : α → Prop} {R : β → Prop} {x : Eval α} {f : α → Eval β} :
    P α Q x → (∀ a, Q a → P β R (f a)) → P β R (x >>= f)
  harmless (c : Cause) : c.Usual → E c
  noTerm {v : Value} : v.NoTerm → V v
  binary {a b : Value} (op : BinaryOp) : V a → V b → Yields E V (a.binary op b)
  unary {a : Value} (op : UnaryOp) : V a → Yields E V (a.unary op)
  step {acc : Option Value} {v : Value} (kind : Aggregate) :
    (∀ a ∈ acc, V a) → V v → Yields E V (kind.step acc v)
  lookup {x : String} {s : Symbol} {index : Tuple} {v : Value} :
    L.names x → symbols.get x = .ok s → s.lookup x index = .ok v → V v
  load (name : String) (template : Table.Template) (options : Table.Options) (c : Cause) :
    Table.load tables name template options = .error c → E c
  call {f : Builtin} {vs : List Value} (span : Span) :
    L.builtins f → (∀ v ∈ vs, V v) → P Value V (f.call vs span)

/-- The property holds for what the context evaluates, and so for the defines that it runs. -/
structure Ensures (ctx : Context) (L : Vocabulary) (V : Value → Prop) (E : Cause → Prop)
    (P : (α : Type) → (α → Prop) → Eval α → Prop) : Prop
    extends Reasoning ctx.symbols ctx.tables L V E P where
  expand {x : String} {n : Nat} {d : Define} {bound : List String} {scope : Scope} :
    L.defines x bound → ctx.callee x n = .ok d → scope.Fits L V (d.params ++ bound) →
    P Value V (ctx.expand x d scope)

/-! ## One world -/

/-- Nothing changes in the only world that there is. -/
abbrev Still (_ _ : Unit) : Prop := True

section OneWorld

variable {symbols : Symbols} {tables : Table.Source} {L : Vocabulary} {V : Value → Prop}
  {E : Cause → Prop} {P : (α : Type) → (α → Prop) → Eval α → Prop}

theorem Reasoning.inWorlds (R : Reasoning symbols tables L V E P) :
    ReasoningIn Still symbols tables L (fun _ => V) E fun _ α Q => P α (Q ()) where
  refl _ := trivial
  trans _ _ := trivial
  mono _ hv := hv
  located span h := R.located span h
  bind hx hf := R.bind hx fun a ha => hf () a trivial ha
  harmless := R.harmless
  noTerm := R.noTerm
  binary op ha hb := R.binary op ha hb
  unary op ha := R.unary op ha
  step kind ha hv := R.step kind ha hv
  lookup := by
    intro _ x s index span hx hs
    refine R.located span ⟨fun v hv => R.lookup hx hs hv, ?_⟩
    exact fun c hc => R.harmless c ((Symbol.lookup_usual s x index).cause hc)
  load := R.load
  call span hf hvs := R.call span hf hvs

theorem Reasoning.result {α : Type} (R : Reasoning symbols tables L V E P) {x : Except Cause α}
    (span : Span) (h : Usual x) :
    P α (fun _ => True) (Eval.located span x) :=
  R.inWorlds.result (w := ()) span h

theorem Reasoning.convertOr {α : Type} (R : Reasoning symbols tables L V E P) (fallback : α)
    {convert : Value → Except Cause α} (h : ∀ v, Usual (convert v))
    (v : Option (Value × Span)) :
    P α (fun _ => True) (Eval.convertOr fallback convert v) :=
  R.inWorlds.convertOr (w := ()) fallback h v

variable {ctx : Context}

theorem Ensures.inWorlds (R : Ensures ctx L V E P) :
    EnsuresIn Still ctx L (fun _ => V) E fun _ α Q => P α (Q ()) :=
  { R.toReasoning.inWorlds with expand := fun hx hd hs => R.expand hx hd hs }

/-- What a context of declared symbols needs is the vocabulary of its defines. -/
theorem Reasoning.ensures_nested (R : Reasoning symbols tables L V E P) (hL : L.Closed symbols)
    (depth : Nat) (active : List String) :
    Ensures (.nested symbols tables depth active) L V E P := by
  have A := R.inWorlds.ensures_nested hL depth active
  cases depth with
  | zero => exact { R with expand := fun hx hd hs => A.expand (w := ()) hx hd hs }
  | succ depth => exact { R with expand := fun hx hd hs => A.expand (w := ()) hx hd hs }

theorem Reasoning.ensures_ofSymbols (R : Reasoning symbols tables L V E P)
    (hL : L.Closed symbols) : Ensures (.ofSymbols symbols tables) L V E P :=
  R.ensures_nested hL symbols.length []

variable (R : Ensures ctx L V E P)

include R

theorem Expr.eval_ensures (e : Expr) (scope : Scope) (bound : List String) (h : e.Within L bound)
    (hs : scope.Fits L V bound) : P Value V (e.eval ctx scope) :=
  e.eval_ensuresIn R.inWorlds scope bound () h hs

theorem Expr.concat_ensures {convert : Value → Except Cause Tuple}
    (hc : ∀ v, Usual (convert v)) (es : List Expr) (scope : Scope)
    (bound : List String) (h : Expr.AllWithin L es bound) (hs : scope.Fits L V bound) :
    P _ (fun _ => True) (Expr.concat ctx convert es scope) :=
  Expr.concat_ensuresIn R.inWorlds hc es scope bound () h hs

theorem Expr.optional_ensures (e : Option Expr) (scope : Scope) (bound : List String)
    (h : Expr.OptionWithin L e bound) (hs : scope.Fits L V bound) :
    P _ (fun _ => True) (Expr.optional ctx e scope) :=
  Expr.optional_ensuresIn R.inWorlds e scope bound () h hs

theorem Expr.matchPattern_ensures (pattern : Option (List Expr)) (span : Span) (t : Tuple)
    (scope : Scope) (bound : List String) (h : Expr.PatternWithin L pattern bound)
    (hs : scope.Fits L V bound) :
    P _ (fun r => ∀ frame ∈ r, frame.Fits L V (Expr.bindItems (pattern.getD []) bound))
      (Expr.matchPattern ctx pattern span t scope) :=
  Expr.matchPattern_ensuresIn R.inWorlds pattern span t scope bound () h hs

theorem IndexSet.evalSet_ensures (index : IndexSet) (scope : Scope) (bound : List String)
    (h : index.Within L bound) (hs : scope.Fits L V bound) :
    P _ (fun _ => True) (index.evalSet ctx scope) :=
  index.evalSet_ensuresIn R.inWorlds scope bound () h hs

theorem IndexSet.enter_ensures (index : IndexSet) (scope : Scope) (t : Tuple)
    (bound : List String) (h : index.Within L bound) (hs : scope.Fits L V bound) :
    P _ (fun r => ∀ frame ∈ r, frame.Fits L V (index.bind bound)) (index.enter ctx scope t) :=
  index.enter_ensuresIn R.inWorlds scope t bound () h hs

end OneWorld

end ModelLang
