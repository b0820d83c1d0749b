import ModelLang.Proofs.Evaluation

/-!
# ModelLang.Proofs.Settled

Evaluations that neither look at the workspace nor change it. All evaluations are such that call
neither `vabs` nor `random`, defines included (`Reasoning.settled`). Then an expression has one
value in a scope, whatever the workspace (`Expr.Denotes`), and which tuples an index set admits can
be said without reference to the order of evaluation (`IndexSet.enter_eq_pure`).
-/

namespace ModelLang

open Eval

/-- The result does not depend on the workspace, which stays as it is. -/
def Settled {α : Type} (x : Eval α) : Prop :=
  ∃ r, x = Step.ofExcept r

namespace Settled

variable {α β : Type} {x : Eval α} {f : α → Eval β}

theorem ofExcept (r : Except Failure α) : Settled (Step.ofExcept r) := ⟨r, rfl⟩

/-- A run that succeeds shows the result of every other run. -/
theorem of_run (hx : Settled x) {w w' : Workspace} {a : α} (h : x w = (.ok a, w')) :
    x = pure a ∧ w' = w := by
  obtain ⟨r, rfl⟩ := hx
  cases h
  exact ⟨rfl, rfl⟩

theorem bind (hx : Settled x) (hf : ∀ a, Settled (f a)) : Settled (x >>= f) := by
  obtain ⟨r, rfl⟩ := hx
  cases r with
  | ok a => exact hf a
  | error e => exact ⟨.error e, rfl⟩

theorem bind_eq_pure (hx : Settled x) {b : β} (h : (x >>= f) = pure b) :
    ∃ a, x = pure a ∧ f a = pure b := by
  obtain ⟨r, rfl⟩ := hx
  cases r with
  | ok a => exact ⟨a, rfl, h⟩
  | error e => exact absurd (congrFun h default) nofun

end Settled

theorem Eval.pure_inj {α : Type} {a b : α} : (pure a : Eval α) = pure b ↔ a = b := by
  constructor
  · intro h
    have := congrFun h default
    cases this
    rfl
  · rintro rfl
    rfl

/-- All names, but neither of the two functions that need a workspace. -/
structure Vocabulary.IsPure (L : Vocabulary) : Prop where
  names (x : String) : L.names x
  vabs : ¬ L.builtins .vabs
  random : ¬ L.builtins .random

theorem Builtin.call_settled {f : Builtin} (hv : f ≠ .vabs) (hr : f ≠ .random) (vs : List Value)
    (span : Span) : Settled (f.call vs span) := by
  unfold call
  split
  · exact absurd rfl hr
  · exact absurd rfl hv
  · exact .ofExcept _

/-- Results of settled evaluations. -/
def SettledWith (α : Type) (Q : α → Prop) (x : Eval α) : Prop :=
  Settled x ∧ ∀ a, x = pure a → Q a

/-- Without those functions all evaluations are settled. -/
theorem Reasoning.settled {L : Vocabulary} (hL : L.IsPure) (symbols : Symbols)
    (tables : Table.Source) :
    Reasoning symbols tables L (fun _ => True) (fun _ => True) SettledWith where
  located := by
    intro α Q x span h
    refine ⟨.ofExcept _, ?_⟩
    intro a ha
    cases x with
    | ok b =>
      have hb : b = a := Eval.pure_inj.1 ha
      exact h.1 a (hb ▸ rfl)
    | error c => exact absurd (congrFun ha default) nofun
  bind := by
    intro α β Q R x f hx hf
    obtain ⟨⟨r, rfl⟩, hQ⟩ := hx
    cases r with
    | ok a => exact hf a (hQ a rfl)
    | error e => exact ⟨⟨.error e, rfl⟩, fun a ha => absurd (congrFun ha default) nofun⟩
  harmless := fun _ _ => trivial
  noTerm := fun _ => trivial
  binary := fun _ _ _ => ⟨fun _ _ => trivial, fun _ _ => trivial⟩
  unary := fun _ _ => ⟨fun _ _ => trivial, fun _ _ => trivial⟩
  step := fun _ _ _ => ⟨fun _ _ => trivial, fun _ _ => trivial⟩
  lookup := fun _ _ _ => trivial
  load := fun _ _ _ _ _ => trivial
  call := by
    intro f vs span hf _
    refine ⟨Builtin.call_settled ?_ ?_ vs span, fun _ _ => trivial⟩
    · rintro rfl
      exact hL.vabs hf
    · rintro rfl
      exact hL.random hf

/-- All evaluations within the vocabulary are settled. -/
structure Context.Settles (ctx : Context) (L : Vocabulary) : Prop
    extends Ensures ctx L (fun _ => True) (fun _ => True) SettledWith where
  names (x : String) : L.names x

theorem Context.settles_nested {L : Vocabulary} {symbols : Symbols} (hL : L.IsPure)
    (hc : L.Closed symbols) (tables : Table.Source) (depth : Nat) (active : List String) :
    (nested symbols tables depth active).Settles L :=
  ⟨(Reasoning.settled hL symbols tables).ensures_nested hc depth active, hL.names⟩

theorem Context.settles_ofSymbols {L : Vocabulary} {symbols : Symbols} (hL : L.IsPure)
    (hc : L.Closed symbols) (tables : Table.Source) : (ofSymbols symbols tables).Settles L :=
  settles_nested hL hc tables symbols.length []

namespace Context.Settles

variable {ctx : Context} {L : Vocabulary} (h : ctx.Settles L) {bound : List String}

include h

theorem fits (scope : Scope) (bound : List String) : scope.Fits L (fun _ => True) bound :=
  ⟨fun _ _ => trivial, fun _ _ => h.names _⟩

theorem eval {e : Expr} (he : e.Within L bound) (scope : Scope) : Settled (e.eval ctx scope) :=
  (e.eval_ensures h.toEnsures scope bound he (h.fits scope bound)).1

theorem evalSet {index : IndexSet} (hi : index.Within L bound) (scope : Scope) :
    Settled (index.evalSet ctx scope) :=
  (index.evalSet_ensures h.toEnsures scope bound hi (h.fits scope bound)).1

theorem enter {index : IndexSet} (hi : index.Within L bound) (scope : Scope) (t : Tuple) :
    Settled (index.enter ctx scope t) :=
  (index.enter_ensures h.toEnsures scope t bound hi (h.fits scope bound)).1

end Context.Settles

/-! ## What expressions and index sets denote -/

/-- The value of the expression in every workspace. -/
def Expr.Denotes (ctx : Context) (scope : Scope) (e : Expr) (v : Value) : Prop :=
  e.eval ctx scope = pure v

/-- The components of a tuple match the items of a pattern one by one: a bare name is bound to the
component, any other expression has it as its value. The second scope is the result. -/
inductive Expr.Matches (ctx : Context) : List Expr → Tuple → Scope → Scope → Prop where
  | nil {scope : Scope} : Matches ctx [] [] scope scope
  | bound {item : Expr} {items : List Expr} {c : Elem} {cs : Tuple} {scope frame : Scope}
      {x : String} (hn : item.name? = some x)
      (h : Matches ctx items cs (scope.bind x c.toValue) frame) :
      Matches ctx (item :: items) (c :: cs) scope frame
  | equal {item : Expr} {items : List Expr} {c : Elem} {cs : Tuple} {scope frame : Scope}
      {v : Value} (hn : item.name? = none) (hv : item.Denotes ctx scope v)
      (hc : v.asElem "tuple" = .ok c) (h : Matches ctx items cs scope frame) :
      Matches ctx (item :: items) (c :: cs) scope frame

/-- Without a pattern, every tuple matches and nothing is bound. -/
def Expr.PatternMatches (ctx : Context) (t : Tuple) (scope frame : Scope) :
    Option (List Expr) → Prop
  | none => frame = scope
  | some items => Expr.Matches ctx items t scope frame

/-- The tuple matches the pattern, which gives `frame`, and there the condition is true. -/
def IndexSet.Admits (ctx : Context) (scope : Scope) (index : IndexSet) (t : Tuple)
    (frame : Scope) : Prop :=
  Expr.PatternMatches ctx t scope frame index.pattern ∧
    ∀ c ∈ index.condition, c.Denotes ctx frame (.truth true)

theorem Eval.located_eq_pure {α : Type} {x : Except Cause α} {span : Span} {a : α} :
    located span x = pure a ↔ x = .ok a := by
  cases x with
  | ok b => exact Eval.pure_inj.trans (by simp)
  | error c => exact ⟨fun h => absurd (congrFun h default) nofun, nofun⟩

theorem Eval.located_bind_eq_pure {α β : Type} {x : Except Cause α} {span : Span}
    {f : α → Eval β} {b : β} (h : (located span x >>= f) = pure b) :
    ∃ a, x = .ok a ∧ f a = pure b := by
  obtain ⟨a, ha, hb⟩ := Settled.bind_eq_pure (.ofExcept _) h
  exact ⟨a, located_eq_pure.1 ha, hb⟩

theorem Expr.Denotes.unique {scope : Scope} {e : Expr} {ctx : Context} {u v : Value}
    (hu : e.Denotes ctx scope u) (hv : e.Denotes ctx scope v) : u = v :=
  Eval.pure_inj.1 (hu.symm.trans hv)

theorem Expr.denotes_iff {scope : Scope} {e : Expr} {ctx : Context} {v : Value}
    (hv : e.Denotes ctx scope v) {u : Value} : e.Denotes ctx scope u ↔ u = v :=
  ⟨fun hu => hu.unique hv, fun hu => hu ▸ hv⟩

section Declarative

variable {ctx : Context} {L : Vocabulary} (h : ctx.Settles L)

include h

theorem Expr.matchTuple_eq_pure {items : List Expr} {bound : List String}
    (hi : Expr.ItemsWithin L items bound) {t : Tuple} (hl : items.length = t.length)
    {scope : Scope} {r : Option Scope}
    (he : Expr.matchTuple ctx items t scope = pure r) (frame : Scope) :
    Expr.Matches ctx items t scope frame ↔ r = some frame := by
  induction items generalizing t scope bound with
  | nil =>
    obtain rfl : t = [] := List.length_eq_zero_iff.1 hl.symm
    unfold Expr.matchTuple at he
    cases Eval.pure_inj.1 he
    constructor
    · rintro ⟨⟩
      rfl
    · rintro ⟨⟩
      exact .nil
  | cons item items ih =>
    cases t with
    | nil => cases hl
    | cons c cs =>
      have hl : items.length = cs.length := Nat.succ.inj hl
      unfold Expr.matchTuple at he
      split at he
      · rename_i x hn
        rw [← ih hi.2 hl he]
        constructor
        · intro hm
          cases hm with
          | bound hn' hm =>
            cases hn.symm.trans hn'
            exact hm
          | equal hn' => cases hn.symm.trans hn'
        · exact .bound hn
      · rename_i hn
        obtain ⟨v, hv, he⟩ := (h.eval (hi.1 hn) scope).bind_eq_pure he
        obtain ⟨e, hc, he⟩ := Eval.located_bind_eq_pure he
        split at he
        · rename_i hec
          rw [← ih hi.2 hl he]
          constructor
          · intro hm
            cases hm with
            | bound hn' => cases hn.symm.trans hn'
            | equal _ _ _ hm => exact hm
          · exact .equal hn hv (hec ▸ hc)
        · rename_i hec
          cases Eval.pure_inj.1 he
          constructor
          · intro hm
            cases hm with
            | bound hn' => cases hn.symm.trans hn'
            | equal _ hv' hc' =>
              cases Expr.Denotes.unique hv hv'
              cases hc.symm.trans hc'
              exact absurd rfl hec
          · rintro ⟨⟩

theorem Expr.matchPattern_eq_pure {pattern : Option (List Expr)} {bound : List String}
    (hi : Expr.PatternWithin L pattern bound) {span : Span} {t : Tuple} {scope : Scope}
    {r : Option Scope} (he : Expr.matchPattern ctx pattern span t scope = pure r) (frame : Scope) :
    Expr.PatternMatches ctx t scope frame pattern ↔ r = some frame := by
  unfold Expr.matchPattern at he
  split at he
  · cases Eval.pure_inj.1 he
    exact ⟨fun he => he ▸ rfl, fun he => (Option.some.inj he).symm⟩
  · split at he
    · cases congrFun he default
    · rename_i hl
      exact Expr.matchTuple_eq_pure h hi (Decidable.not_not.1 hl) he frame

theorem Expr.condition_eq_pure {condition : Option Expr} {bound : List String}
    (hi : Expr.OptionWithin L condition bound) {scope : Scope} {c : Option (Value × Span)}
    {b : Bool}
    (hc : Expr.optional ctx condition scope = pure c)
    (hb : convertOr true (Value.asTruth "with") c = pure b) :
    (∀ e ∈ condition, e.Denotes ctx scope (.truth true)) ↔ b = true := by
  cases condition with
  | none =>
    cases Eval.pure_inj.1 hc
    cases Eval.pure_inj.1 hb
    simp
  | some e =>
    obtain ⟨v, hv, hc⟩ := (h.eval hi scope).bind_eq_pure hc
    cases Eval.pure_inj.1 hc
    have hv' : v = .truth b := by
      have := Eval.located_eq_pure.1 hb
      cases v <;> simp [Value.asTruth] at this
      rw [this]
    constructor
    · intro ha
      have := (ha e rfl).unique hv
      rw [hv'] at this
      injection this with this
      exact this.symm
    · rintro rfl e' ⟨⟩
      exact hv' ▸ hv

/-- Whether an index set admits a tuple, and in which scope, as evaluation finds it. -/
theorem IndexSet.enter_eq_pure {index : IndexSet} {bound : List String}
    (hi : index.Within L bound) {scope : Scope} {t : Tuple} {r : Option Scope}
    (he : index.enter ctx scope t = pure r) (frame : Scope) :
    index.Admits ctx scope t frame ↔ r = some frame := by
  obtain ⟨pattern, set, condition, span⟩ := index
  unfold IndexSet.enter at he
  have hs : Settled (Expr.matchPattern ctx pattern span t scope) :=
    (Expr.matchPattern_ensures h.toEnsures pattern span t scope bound hi.1 (h.fits _ _)).1
  obtain ⟨m, hm, he⟩ := hs.bind_eq_pure he
  simp only [Admits, IndexSet.pattern, IndexSet.condition]
  rw [Expr.matchPattern_eq_pure h hi.1 hm frame]
  cases m with
  | none =>
    cases Eval.pure_inj.1 he
    simp
  | some frame' =>
    have hs' : Settled (Expr.optional ctx condition frame') :=
      (Expr.optional_ensures h.toEnsures condition frame' _ hi.2.2 (h.fits _ _)).1
    obtain ⟨c, hc, he⟩ := hs'.bind_eq_pure he
    have hs'' : Settled (convertOr true (Value.asTruth "with") c) :=
      (h.convertOr true (Value.asTruth_usual _) c).1
    obtain ⟨b, hb, he⟩ := hs''.bind_eq_pure he
    cases Eval.pure_inj.1 he
    have hcond := Expr.condition_eq_pure h hi.2.2 hc hb
    constructor
    · rintro ⟨⟨⟩, ha⟩
      simp [hcond.1 ha]
    · intro hr
      split at hr
      · rename_i hb
        cases hr
        exact ⟨rfl, hcond.2 hb⟩
      · cases hr

end Declarative

end ModelLang
