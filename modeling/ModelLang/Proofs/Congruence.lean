import Mathlib.Logic.Basic
import ModelLang.Proofs.Worlds

/-!
# ModelLang.Proofs.Congruence

One induction for two evaluations of the same expression, in scopes that correspond to each other
and in contexts that run the bodies of defines alike in such scopes (`Context.Mirrors`): they have
the same result and leave the same workspace (`Expr.eval_mirrors`). What patterns bind on the way is
the same for both, so that the scopes of a visit correspond again (`IndexSet.enter_related`).

An evaluation runs the body of a define only for a call that may run it. What a context would do for
any other call does not matter (`Expr.eval_congr`).
-/

namespace ModelLang

/-! ## Related results -/

/-- Both computations change the state in the same way, and fail in the same way or have related
results. -/
def Step.Related {σ ε α β : Type} (R : α → β → Prop) (x : Step σ ε α) (y : Step σ ε β) : Prop :=
  ∀ s, (∃ e t, x s = (.error e, t) ∧ y s = (.error e, t)) ∨
    ∃ a b t, x s = (.ok a, t) ∧ y s = (.ok b, t) ∧ R a b

namespace Step.Related

variable {σ ε α β γ δ : Type} {R : α → β → Prop} {x : Step σ ε α} {y : Step σ ε β}

theorem refl (x : Step σ ε α) : Related Eq x x := by
  intro s
  rcases hx : x s with ⟨e | a, t⟩
  · exact .inl ⟨e, t, rfl, rfl⟩
  · exact .inr ⟨a, a, t, rfl, rfl, rfl⟩

theorem pure {a : α} {b : β} (h : R a b) :
    Related R (Pure.pure a : Step σ ε α) (Pure.pure b : Step σ ε β) :=
  fun s => .inr ⟨a, b, s, rfl, rfl, h⟩

theorem bind {Q : γ → δ → Prop} {f : α → Step σ ε γ} {g : β → Step σ ε δ} (h : Related R x y)
    (hfg : ∀ a b, R a b → Related Q (f a) (g b)) : Related Q (x >>= f) (y >>= g) := by
  intro s
  rcases h s with ⟨e, t, hx, hy⟩ | ⟨a, b, t, hx, hy, hab⟩
  · exact .inl ⟨e, t, bind_of_error hx f, bind_of_error hy g⟩
  · rw [bind_of_ok hx, bind_of_ok hy]
    exact hfg a b hab t

/-- From related results both go on in the same way. -/
theorem bind_eq {f : α → Step σ ε γ} {g : β → Step σ ε γ} (h : Related R x y)
    (hfg : ∀ a b, R a b → f a = g b) : x >>= f = y >>= g := by
  funext s
  rcases h s with ⟨e, t, hx, hy⟩ | ⟨a, b, t, hx, hy, hab⟩
  · rw [bind_of_error hx, bind_of_error hy]
  · rw [bind_of_ok hx, bind_of_ok hy, hfg a b hab]

end Step.Related

section Iteration

variable {σ ε β : Type} {R : Scope → Scope → Prop} {enter enter' : Tuple → Step σ ε (Option Scope)}
  (henter : ∀ t, Step.Related (Option.Rel R) (enter t) (enter' t))

include henter

theorem foldTuples_related {visit visit' : β → Scope → Tuple → Step σ ε β}
    (hvisit : ∀ acc frame frame' t, R frame frame' → visit acc frame t = visit' acc frame' t)
    (ts : List Tuple) (acc : β) :
    foldTuples enter visit ts acc = foldTuples enter' visit' ts acc := by
  induction ts generalizing acc with
  | nil => rfl
  | cons t ts ih =>
    refine (henter t).bind_eq ?_
    rintro _ _ (hframe | -)
    · exact congrArg₂ (· >>= ·) (hvisit acc _ _ t hframe) (funext ih)
    · exact ih acc

theorem anyTuple_related (ts : List Tuple) : anyTuple enter ts = anyTuple enter' ts := by
  induction ts with
  | nil => rfl
  | cons t ts ih =>
    refine (henter t).bind_eq ?_
    rintro _ _ (hframe | -)
    · rfl
    · exact ih

end Iteration

/-! ## Corresponding scopes -/

/-- Scopes that correspond to each other where some names are bound: both look up the same for
these and for the names in the vocabulary, and still correspond when they bind one more. -/
structure Scope.Correspondence (L : Vocabulary) (R : List String → Scope → Scope → Prop) :
    Prop where
  lookup {bound : List String} {scope scope' : Scope} {x : String} : R bound scope scope' →
    x ∈ bound ∨ L.names x → scope'.lookup? x = scope.lookup? x
  bind {bound : List String} {scope scope' : Scope} (x : String) (v : Value) :
    R bound scope scope' → R (x :: bound) (scope.bind x v) (scope'.bind x v)
  mono {bound bound' : List String} {scope scope' : Scope} : bound' ⊆ bound →
    R bound scope scope' → R bound' scope scope'

namespace Scope.Correspondence

variable {L : Vocabulary} {R : List String → Scope → Scope → Prop}

theorem eq : Correspondence L fun _ => Eq where
  lookup h _ := h ▸ rfl
  bind _ _ h := h ▸ rfl
  mono _ h := h

theorem bindAll (h : Correspondence L R) {names : List String} {vs : List Value}
    (hl : names.length = vs.length) {bound : List String} {scope scope' : Scope}
    (hs : R bound scope scope') :
    R (names ++ bound) (scope.bindAll names vs) (scope'.bindAll names vs) := by
  induction names generalizing scope scope' vs bound with
  | nil => exact hs
  | cons name names ih =>
    cases vs with
    | nil => cases hl
    | cons v vs =>
      exact h.mono List.perm_middle.symm.subset (ih (Nat.succ.inj hl) (h.bind name v hs))

end Scope.Correspondence

/-- Both contexts look up the same, and run a define in the same way wherever a call may run it, in
corresponding scopes. -/
structure Context.Mirrors (ctx ctx' : Context) (L : Vocabulary)
    (R : List String → Scope → Scope → Prop) : Prop where
  symbols : ctx'.symbols = ctx.symbols
  tables : ctx'.tables = ctx.tables
  active : ctx'.active = ctx.active
  scopes : Scope.Correspondence L R
  expand {x : String} {n : Nat} {d : Define} {bound : List String} {scope scope' : Scope} :
    L.defines x bound → ctx.callee x n = .ok d → R (d.params ++ bound) scope scope' →
    ctx'.expand x d scope' = ctx.expand x d scope

namespace Context.Mirrors

variable {ctx ctx' : Context} {L : Vocabulary} {R : List String → Scope → Scope → Prop}
  (h : ctx.Mirrors ctx' L R)

include h

theorem lookup (x : String) (index : Tuple) : ctx'.lookup x index = ctx.lookup x index := by
  rw [Context.lookup, Context.lookup, h.symbols]

theorem callee (x : String) (n : Nat) : ctx'.callee x n = ctx.callee x n := by
  rw [Context.callee, Context.callee, h.symbols, h.active]

end Context.Mirrors

open Eval

/-- Only the result that there is goes on. -/
theorem located_bind_congr {α β : Type} {span : Span} {x : Except Cause α} {f g : α → Eval β}
    (h : ∀ a, x = .ok a → f a = g a) : located span x >>= f = located span x >>= g := by
  cases x with
  | error cause => rfl
  | ok a => exact h a rfl

/-- There is a value for every expression. -/
theorem Expr.values_length {ctx : Context} {es : List Expr} {scope : Scope} {w w' : Workspace}
    {vs : List Value} (h : Expr.values ctx es scope w = (.ok vs, w')) : vs.length = es.length := by
  induction es generalizing w vs with
  | nil =>
    cases h
    rfl
  | cons e es ih =>
    rw [Expr.values] at h
    obtain ⟨v, w₁, _, h⟩ := Step.bind_eq_ok.1 h
    obtain ⟨us, w₂, hus, h⟩ := Step.bind_eq_ok.1 h
    cases h
    rw [List.length_cons, List.length_cons, ih hus]

theorem Expr.values_bind_congr {α : Type} {ctx : Context} {es : List Expr} {scope : Scope}
    {f g : List Value → Eval α} (h : ∀ vs, vs.length = es.length → f vs = g vs) :
    Expr.values ctx es scope >>= f = Expr.values ctx es scope >>= g := by
  funext w
  rcases hvs : Expr.values ctx es scope w with ⟨e | vs, w'⟩
  · rw [Step.bind_of_error hvs, Step.bind_of_error hvs]
  · rw [Step.bind_of_ok hvs, Step.bind_of_ok hvs, h vs (Expr.values_length hvs)]

section Induction

variable {ctx ctx' : Context} {L : Vocabulary} {R : List String → Scope → Scope → Prop}

mutual

theorem Expr.eval_mirrors (h : ctx.Mirrors ctx' L R) (e : Expr) {bound : List String}
    (he : e.Within L bound) {scope scope' : Scope} (hs : R bound scope scope') :
    e.eval ctx' scope' = e.eval ctx scope := by
  cases e with
  | number | infinity | string => rfl
  | name x span => simp only [Expr.eval, h.lookup, h.scopes.lookup hs he]
  | subscript x args span =>
    simp only [Expr.eval, h.lookup, Expr.concat_mirrors h _ args he.2 hs]
  | call x args span =>
    simp only [Expr.eval, h.callee, Expr.values_mirrors h args he.2 hs]
    refine located_bind_congr fun d hd => Expr.values_bind_congr fun vs hl => ?_
    have hparams := (Context.callee_eq_ok hd).2.trans hl.symm
    rw [h.expand he.1 hd (h.scopes.bindAll hparams hs)]
  | builtin f args span => simp only [Expr.eval, Expr.values_mirrors h args he.2 hs]
  | tuple items span => simp only [Expr.eval, Expr.concat_mirrors h _ items he hs]
  | setLiteral items span => simp only [Expr.eval, Expr.members_mirrors h items he hs]
  | range first last step closed span =>
    simp only [Expr.eval, Expr.eval_mirrors h first he.1 hs, Expr.eval_mirrors h last he.2.1 hs,
      Expr.optional_mirrors h step he.2.2 hs]
  | setBuilder index member span =>
    rw [Expr.eval, Expr.eval, IndexSet.evalSet_mirrors h index he.1 hs]
    refine bind_congr fun s => congrArg (· >>= _) ?_
    refine (foldTuples_related (IndexSet.enter_related h index he.1 hs) ?_ _ _).symm
    intro acc frame frame' t hframe
    rw [Expr.optional_mirrors h member he.2 hframe]
  | proj set positions span =>
    simp only [Expr.eval, Expr.eval_mirrors h set he.1 hs, Expr.eval_mirrors h positions he.2 hs]
  | indexSetOf x span => simp only [Expr.eval, h.symbols]
  | binary op a b span =>
    simp only [Expr.eval, Expr.eval_mirrors h a he.1 hs, Expr.eval_mirrors h b he.2 hs]
  | unary op a span => simp only [Expr.eval, Expr.eval_mirrors h a he hs]
  | aggregate kind index body span =>
    rw [Expr.eval, Expr.eval, IndexSet.evalSet_mirrors h index he.1 hs]
    refine bind_congr fun s => congrArg (· >>= _) ?_
    refine (foldTuples_related (IndexSet.enter_related h index he.1 hs) ?_ _ _).symm
    intro acc frame frame' t hframe
    rw [Expr.eval_mirrors h body he.2 hframe]
  | nonempty index span =>
    rw [Expr.eval, Expr.eval, IndexSet.evalSet_mirrors h index he hs]
    refine bind_congr fun s => congrArg (· >>= _) ?_
    exact (anyTuple_related (IndexSet.enter_related h index he hs) _).symm
  | argExtremum greatest count index body span =>
    rw [Expr.eval, Expr.eval, Expr.optional_mirrors h count he.1 hs,
      IndexSet.evalSet_mirrors h index he.2.1 hs]
    refine bind_congr fun k => bind_congr fun k => bind_congr fun s => congrArg (· >>= _) ?_
    refine (foldTuples_related (IndexSet.enter_related h index he.2.1 hs) ?_ _ _).symm
    intro acc frame frame' t hframe
    rw [Expr.eval_mirrors h body he.2.2 hframe]
  | indexedSetOp op index body span =>
    rw [Expr.eval, Expr.eval, IndexSet.evalSet_mirrors h index he.1 hs]
    refine bind_congr fun s => congrArg (· >>= _) ?_
    refine (foldTuples_related (IndexSet.enter_related h index he.1 hs) ?_ _ _).symm
    intro acc frame frame' t hframe
    rw [Expr.eval_mirrors h body he.2 hframe]
  | conditional c a b span =>
    simp only [Expr.eval, Expr.eval_mirrors h c he.1 hs, Expr.eval_mirrors h a he.2.1 hs,
      Expr.eval_mirrors h b he.2.2 hs]
  | read table span => simp only [Expr.eval, ReadSpec.rows_mirrors h false table he hs]

theorem Expr.values_mirrors (h : ctx.Mirrors ctx' L R) (es : List Expr) {bound : List String}
    (hes : Expr.AllWithin L es bound) {scope scope' : Scope} (hs : R bound scope scope') :
    Expr.values ctx' es scope' = Expr.values ctx es scope := by
  cases es with
  | nil => rfl
  | cons e es =>
    simp only [Expr.values, Expr.eval_mirrors h e hes.1 hs, Expr.values_mirrors h es hes.2 hs]

theorem Expr.concat_mirrors (h : ctx.Mirrors ctx' L R) (convert : Value → Except Cause Tuple)
    (es : List Expr) {bound : List String} (hes : Expr.AllWithin L es bound) {scope scope' : Scope}
    (hs : R bound scope scope') :
    Expr.concat ctx' convert es scope' = Expr.concat ctx convert es scope := by
  cases es with
  | nil => rfl
  | cons e es =>
    simp only [Expr.concat, Expr.eval_mirrors h e hes.1 hs,
      Expr.concat_mirrors h convert es hes.2 hs]

theorem Expr.optional_mirrors (h : ctx.Mirrors ctx' L R) (e : Option Expr) {bound : List String}
    (he : Expr.OptionWithin L e bound) {scope scope' : Scope} (hs : R bound scope scope') :
    Expr.optional ctx' e scope' = Expr.optional ctx e scope := by
  cases e with
  | none => rfl
  | some e => simp only [Expr.optional, Expr.eval_mirrors h e he hs]

theorem Expr.members_mirrors (h : ctx.Mirrors ctx' L R) (es : List Expr) {bound : List String}
    (hes : Expr.AllWithin L es bound) {scope scope' : Scope} (hs : R bound scope scope')
    (s : TupleSet) : Expr.members ctx' es scope' s = Expr.members ctx es scope s := by
  cases es with
  | nil => rfl
  | cons e es =>
    simp only [Expr.members, Expr.eval_mirrors h e hes.1 hs,
      fun s => Expr.members_mirrors h es hes.2 hs s]

/-- What a pattern binds is the same for both scopes. -/
theorem Expr.matchTuple_related (h : ctx.Mirrors ctx' L R) (items : List Expr)
    {bound : List String} (hi : Expr.ItemsWithin L items bound) {t : Tuple}
    (hl : items.length = t.length) {scope scope' : Scope} (hs : R bound scope scope') :
    Step.Related (Option.Rel (R (Expr.bindItems items bound))) (Expr.matchTuple ctx items t scope)
      (Expr.matchTuple ctx' items t scope') := by
  cases items with
  | nil => exact .pure (.some hs)
  | cons item items =>
    cases t with
    | nil => cases hl
    | cons c cs =>
      have hl : items.length = cs.length := Nat.succ.inj hl
      unfold Expr.matchTuple Expr.bindItems
      cases hn : item.name? with
      | some x => exact Expr.matchTuple_related h items (hn ▸ hi.2) hl (h.scopes.bind x _ hs)
      | none =>
        rw [Expr.eval_mirrors h item (hi.1 hn) hs]
        refine .bind (.refl _) ?_
        rintro v _ rfl
        refine .bind (.refl _) ?_
        rintro e _ rfl
        split
        · exact Expr.matchTuple_related h items (hn ▸ hi.2) hl hs
        · exact .pure .none

theorem IndexSet.evalSet_mirrors (h : ctx.Mirrors ctx' L R) (index : IndexSet)
    {bound : List String} (hi : index.Within L bound) {scope scope' : Scope}
    (hs : R bound scope scope') : index.evalSet ctx' scope' = index.evalSet ctx scope := by
  cases index with
  | mk pattern set condition span =>
    simp only [IndexSet.evalSet, Expr.eval_mirrors h set hi.2.1 hs]

theorem Expr.matchPattern_related (h : ctx.Mirrors ctx' L R) (pattern : Option (List Expr))
    (span : Span) (t : Tuple) {bound : List String} (hp : Expr.PatternWithin L pattern bound)
    {scope scope' : Scope} (hs : R bound scope scope') :
    Step.Related (Option.Rel (R (Expr.bindItems (pattern.getD []) bound)))
      (Expr.matchPattern ctx pattern span t scope)
      (Expr.matchPattern ctx' pattern span t scope') := by
  cases pattern with
  | none => exact .pure (.some hs)
  | some items =>
    unfold Expr.matchPattern
    split
    · exact fun w => .inl ⟨_, w, rfl, rfl⟩
    · rename_i hl
      exact Expr.matchTuple_related h items hp (not_not.1 hl) hs

/-- A tuple is admitted for both scopes or for none, and the scopes of the visit correspond. -/
theorem IndexSet.enter_related (h : ctx.Mirrors ctx' L R) (index : IndexSet) {bound : List String}
    (hi : index.Within L bound) {scope scope' : Scope} (hs : R bound scope scope') (t : Tuple) :
    Step.Related (Option.Rel (R (index.bind bound))) (index.enter ctx scope t)
      (index.enter ctx' scope' t) := by
  cases index with
  | mk pattern set condition span =>
    refine .bind (Expr.matchPattern_related h pattern span t hi.1 hs) ?_
    rintro _ _ (hframe | -)
    · dsimp only
      rw [Expr.optional_mirrors h condition hi.2.2 hframe]
      refine .bind (.refl _) ?_
      rintro c _ rfl
      refine .bind (.refl _) ?_
      rintro b _ rfl
      refine .pure ?_
      split
      · exact .some hframe
      · exact .none
    · exact .pure .none

theorem ReadSpec.rows_mirrors (h : ctx.Mirrors ctx' L R) (withValue : Bool) (table : ReadSpec)
    {bound : List String} (ht : table.Within L bound) {scope scope' : Scope}
    (hs : R bound scope scope') :
    table.rows ctx' withValue scope' = table.rows ctx withValue scope := by
  cases table with
  | mk file template options =>
    simp only [ReadSpec.rows, h.tables, Expr.eval_mirrors h file ht.1 hs,
      Expr.eval_mirrors h template ht.2.1 hs, ReadOption.setAll_mirrors h options ht.2.2 hs]

theorem ReadOption.setAll_mirrors (h : ctx.Mirrors ctx' L R) (items : List ReadOption)
    {bound : List String} (hi : ReadOption.AllWithin L items bound) {scope scope' : Scope}
    (hs : R bound scope scope') (options : Table.Options) :
    ReadOption.setAll ctx' items scope' options = ReadOption.setAll ctx items scope options := by
  cases items with
  | nil => rfl
  | cons item items =>
    cases item with
    | mk key e =>
      simp only [ReadOption.setAll, h.tables, Expr.eval_mirrors h e hi.1 hs,
        fun options => ReadOption.setAll_mirrors h items hi.2 hs options]

end

end Induction

/-! ## Contexts that agree -/

/-- Both contexts look up the same, and run a define in the same way wherever a call may run it. -/
structure Context.Agrees (ctx ctx' : Context) : Prop where
  symbols : ctx'.symbols = ctx.symbols
  tables : ctx'.tables = ctx.tables
  active : ctx'.active = ctx.active
  expand {x : String} {n : Nat} {d : Define} : ctx.callee x n = .ok d → ∀ scope,
    ctx'.expand x d scope = ctx.expand x d scope

theorem Expr.eval_congr {ctx ctx' : Context} (h : ctx.Agrees ctx') (e : Expr) (scope : Scope) :
    e.eval ctx' scope = e.eval ctx scope := by
  have hmirrors : ctx.Mirrors ctx' .all fun _ => Eq :=
    ⟨h.symbols, h.tables, h.active, .eq, fun _ hd hs => hs ▸ h.expand hd _⟩
  exact Expr.eval_mirrors hmirrors e (e.within_all []) rfl

end ModelLang
