import ModelLang.Eval.Line
import ModelLang.Proofs.Arithmetic
import ModelLang.Proofs.Canonical

/-!
# ModelLang.Proofs.Proper

Evaluated terms have variables. Sums, products and quotients without variables become numbers where
they are formed, and everything else that makes a term of one keeps its variables, so that the
property goes through every expression and every call (`Reasoning.proper`). An expression whose
variables cancel is therefore a number, and as good as one anywhere (`Expr.eval_isProper`).
-/

namespace ModelLang

open Eval

namespace Value

/-- A term has a variable with a coefficient other than zero. -/
def IsProper : Value → Prop
  | term t => ∃ x, t.coef x ≠ 0
  | _ => True

variable {a b v : Value}

theorem NoTerm.isProper (h : v.NoTerm) : v.IsProper := by
  cases v with
  | term t => exact absurd rfl (h t)
  | number _ | string _ | truth _ | tuple _ | set _ => trivial

theorem isProper_term_iff {t : Term} : (term t).IsProper ↔ t.coefs ≠ [] := by
  constructor
  · rintro ⟨x, hx⟩ hnil
    rw [Term.coef, hnil] at hx
    exact hx rfl
  · intro h
    obtain ⟨⟨x, q⟩, cs, hcs⟩ := List.exists_cons_of_ne_nil h
    refine ⟨x, ?_⟩
    have hcanonical := t.canonical
    rw [hcs, Coefs.canonical_cons] at hcanonical
    rw [Term.coef, hcs, Coefs.get_head]
    exact hcanonical.2.1

theorem ofVar_isProper (x : VarId) : (term (.ofVar x)).IsProper := by
  rw [isProper_term_iff]
  intro h
  cases h

theorem ofTerm_isProper (t : Term) : (ofTerm t).IsProper := by
  unfold ofTerm
  split
  · trivial
  · rename_i h
    rwa [isProper_term_iff, ne_eq, ← Term.isConstant_iff_coefs]

/-- A proper value that is the same at every assignment is a number. -/
theorem IsProper.eq_ofRat (hv : v.IsProper) {q : Rat} (h : ∀ s, v.under s = some q) :
    v = ofRat q := by
  rcases isLinear_iff.1 (isLinear_of_under (h 0)) with ⟨p, rfl⟩ | ⟨t, rfl⟩
  · cases h 0
    rfl
  · have hvalue : ∀ s, t.value s = q := fun s => Option.some.inj (h s)
    have hconstant : t.isConstant = true :=
      Term.isConstant_iff.2 fun s => (hvalue s).trans (hvalue 0).symm
    exact absurd (Term.isConstant_iff_coefs.1 hconstant) (isProper_term_iff.1 hv)

/-! ## Operators -/

theorem linear_isProper {op : String} {f : Term → Term → Except Cause Term}
    (h : linear op f a b = .ok v) : v.IsProper := by
  unfold linear at h
  split at h
  · cases h
  · split at h
    · cases h
    · obtain ⟨t, -, rfl⟩ := (map_eq_ok _ _ _).1 h
      exact ofTerm_isProper t

theorem add_isProper (h : a.add b = .ok v) : v.IsProper := by
  unfold add at h
  split at h
  · obtain ⟨_, -, rfl⟩ := (map_eq_ok _ _ _).1 h
    trivial
  · cases h
    trivial
  · obtain ⟨_, -, rfl⟩ := (map_eq_ok _ _ _).1 h
    trivial
  · exact linear_isProper h
  · exact linear_isProper h
  · exact linear_isProper h
  · cases h

theorem sub_isProper (h : a.sub b = .ok v) : v.IsProper := by
  unfold sub at h
  split at h
  · obtain ⟨_, -, rfl⟩ := (map_eq_ok _ _ _).1 h
    trivial
  · obtain ⟨_, -, rfl⟩ := (map_eq_ok _ _ _).1 h
    trivial
  · exact linear_isProper h
  · exact linear_isProper h
  · exact linear_isProper h
  · cases h

theorem mul_isProper (h : a.mul b = .ok v) : v.IsProper := by
  unfold mul at h
  split at h
  · obtain ⟨_, -, rfl⟩ := (map_eq_ok _ _ _).1 h
    trivial
  · cases h
    trivial
  · exact linear_isProper h
  · exact linear_isProper h
  · exact linear_isProper h
  · cases h

theorem div_isProper (h : a.div b = .ok v) : v.IsProper := by
  unfold div at h
  split at h
  · obtain ⟨_, -, rfl⟩ := (map_eq_ok _ _ _).1 h
    trivial
  · split at h
    · obtain ⟨t, -, rfl⟩ := (map_eq_ok _ _ _).1 h
      exact ofTerm_isProper t
    · cases h
  · cases h
  · cases h
  · cases h

/-- A negated term is not collapsed, and need not be: it has the variables of the term. -/
theorem neg_isProper (ha : a.IsProper) (h : a.neg = .ok v) : v.IsProper := by
  cases a with
  | number n =>
    cases h
    trivial
  | term t =>
    cases h
    rw [isProper_term_iff] at ha ⊢
    intro hnil
    exact ha (List.map_eq_nil_iff.1 hnil)
  | string _ | truth _ | tuple _ | set _ => cases h

/-- Nor is a first power, which is the term itself. -/
theorem pow_isProper (ha : a.IsProper) (h : a.pow b = .ok v) : v.IsProper := by
  unfold pow at h
  split at h
  · split at h
    · cases h
      exact ha
    · cases h
  · cases h
  · exact NoTerm.isProper ((onRats_plain "^" power_usual).2 v h)

theorem binary_isProper (op : BinaryOp) (ha : a.IsProper) (h : a.binary op b = .ok v) :
    v.IsProper := by
  cases op with
  | add => exact add_isProper h
  | sub => exact sub_isProper h
  | mul => exact mul_isProper h
  | div => exact div_isProper h
  | pow => exact pow_isProper ha h
  | mod => exact NoTerm.isProper ((onRats_plain "mod" remainder_usual).2 v h)
  | intDiv => exact NoTerm.isProper ((onRats_plain "div" quotient_usual).2 v h)
  | set op => exact NoTerm.isProper ((setOp_plain op).2 v h)
  | and => exact NoTerm.isProper ((connective_plain "and" _).2 v h)
  | or => exact NoTerm.isProper ((connective_plain "or" _).2 v h)
  | xor => exact NoTerm.isProper ((connective_plain "xor" _).2 v h)
  | compare op =>
    obtain ⟨_, -, rfl⟩ := (map_eq_ok _ _ _).1 h
    trivial
  | mem =>
    simp only [binary] at h
    split at h
    · cases h
    · obtain ⟨_, -, rfl⟩ := (map_eq_ok _ _ _).1 h
      trivial

theorem unary_isProper (op : UnaryOp) (ha : a.IsProper) (h : a.unary op = .ok v) :
    v.IsProper := by
  cases op with
  | neg => exact neg_isProper ha h
  | not =>
    obtain ⟨_, -, rfl⟩ := (map_eq_ok _ _ _).1 h
    trivial
  | factorial =>
    simp only [unary] at h
    split at h
    · obtain ⟨_, -, rfl⟩ := (map_eq_ok _ _ _).1 h
      trivial
    · cases h

end Value

theorem Aggregate.step_isProper (kind : Aggregate) {acc : Option Value} {v r : Value}
    (ha : ∀ a ∈ acc, a.IsProper) (hv : v.IsProper) (h : kind.step acc v = .ok r) :
    r.IsProper := by
  unfold step at h
  split at h
  · exact Value.add_isProper h
  · exact Value.mul_isProper h
  · rename_i acc _ _
    unfold better at h
    obtain ⟨_, -, h⟩ := (bind_eq_ok _ _ _).1 h
    obtain ⟨_, -, h⟩ := (bind_eq_ok _ _ _).1 h
    cases h
    split
    · exact hv
    · exact ha acc rfl
  · obtain ⟨_, -, rfl⟩ := (map_eq_ok _ _ _).1 h
    exact hv

theorem Symbol.lookup_isProper {s : Symbol} {x : String} {index : Tuple} {v : Value}
    (h : s.lookup x index = .ok v) : v.IsProper := by
  by_cases hvar : ∃ f, s = .var f
  · obtain ⟨f, rfl⟩ := hvar
    obtain ⟨x, -, rfl⟩ := (map_eq_ok _ _ _).1 h
    exact Value.ofVar_isProper _
  · exact (Symbol.lookup_noTerm (fun f hf => hvar ⟨f, hf⟩) h).isProper

/-! ## Evaluation -/

/-- Proper values are all that evaluation makes of proper values. -/
theorem Reasoning.proper (symbols : Symbols) (tables : Table.Source) (L : Vocabulary) :
    Reasoning symbols tables L Value.IsProper (fun _ => True) (Meets fun _ => True) where
  located := Meets.located
  bind := Meets.bind
  harmless _ _ := trivial
  noTerm h := h.isProper
  binary op ha _ := ⟨fun _ h => Value.binary_isProper op ha h, fun _ _ => trivial⟩
  unary op ha := ⟨fun _ h => Value.unary_isProper op ha h, fun _ _ => trivial⟩
  step kind ha hv := ⟨fun _ h => kind.step_isProper ha hv h, fun _ _ => trivial⟩
  lookup _ _ h := Symbol.lookup_isProper h
  load _ _ _ _ _ := trivial
  call span _ _ :=
    Builtin.call_meets (fun _ _ => trivial) (fun _ h => h.isProper) span fun _ _ =>
      .bind (.onModel span fun _ _ _ _ => trivial) fun u _ => .pure (Value.ofTerm_isProper u)

section Numbers

variable {ctx : Context} {e : Expr} {scope : Scope} {w w' : Workspace} {q : Rat}

/-- Evaluated from `w` on, the expression is as good as the number `q`: in comparisons, when it is
printed, as an index, as a bound of a variable and as a factor. -/
structure Expr.ServesAs (ctx : Context) (e : Expr) (scope : Scope) (w w' : Workspace) (q : Rat) :
    Prop where
  compared {e' : Expr} {n : Number} {w₂ : Workspace} (op : Comparison) (span : Span) :
    e'.eval ctx scope w' = (.ok (.number n), w₂) →
    (Expr.binary (.compare op) e e' span).eval ctx scope w =
      (.ok (.truth (op.holds (Number.finite q < n) (Number.finite q = n))), w₂)
  printed : e.evalShown ctx scope w = (.ok (Number.finite q).text, w')
  index (x : String) (span : Span) :
    (Expr.subscript x [e] span).eval ctx scope w = located span (ctx.lookup x [.number q]) w'
  bound {type : VarType} (x : Name) (name : String) (span : Span) : type.isBinary = false →
    (VarDecl.mk x none type (some e) none none none span).add ctx scope name w =
      onModel span (Build.addVariable
        ⟨name, type.kind, (VarDecl.bounds type (some (.finite q)) none).1,
          (VarDecl.bounds type (some (.finite q)) none).2, none, none, 0⟩) w'
  factor {e' : Expr} {t : Term} {w₂ : Workspace} (span : Span) :
    e'.eval ctx scope w' = (.ok (.term t), w₂) →
    (Expr.binary .mul e e' span).eval ctx scope w = (.ok (.ofTerm (t.scale q)), w₂)

/-- Printing looks up the names of a whole family only for what has no value. -/
theorem Expr.family?_eq_none (h : e.eval ctx scope w = (.ok (.ofRat q), w')) :
    e.family? ctx scope = none := by
  unfold family?
  split
  · rfl
  · rename_i x hx
    split
    · rename_i f hscope hget
      obtain ⟨span, rfl⟩ : ∃ span, e = .name x span := by
        cases e <;> grind [Expr.name?]
      have hsymbol : ctx.symbols.get x = .ok (.var f) := by
        rw [Symbols.get, hget]
      simp only [Expr.eval, hscope, Context.lookup, hsymbol] at h
      obtain ⟨_, -, hterm⟩ := (map_eq_ok _ _ _).1 (located_ok h).1
      cases hterm
    · rfl

theorem Value.mul_term (q : Rat) {t : Term} :
    (Value.ofRat q).mul (.term t) = .ok (.ofTerm (t.scale q)) := by
  show ((Term.ofConstant q).mul t).map Value.ofTerm = _
  rw [Term.mul_comm]
  rfl

theorem Expr.servesAs_of_eval (h : e.eval ctx scope w = (.ok (.ofRat q), w')) :
    e.ServesAs ctx scope w w' q where
  compared op span h' := by
    simp only [Expr.eval, BinaryOp.deciding?, Step.bind_of_ok h, Step.bind_of_ok h']
    rfl
  printed := by
    simp only [evalShown, family?_eq_none h, Step.bind_of_ok h]
    rfl
  index x span := by
    have hindex : Expr.concat ctx (Value.asTuple "subscript") [e] scope w =
        (.ok [.number q], w') := by
      simp only [Expr.concat, Step.bind_of_ok h]
      rfl
    rw [Expr.eval, Step.bind_of_ok hindex]
  bound x name span htype := by
    have hnumber : e.evalNumber ctx scope "bound" w = (.ok (.finite q), w') := by
      rw [evalNumber, Step.bind_of_ok h]
      rfl
    have hlower : evalOption (some e) (fun e => e.evalNumber ctx scope "bound") w =
        (.ok (some (.finite q)), w') := by
      rw [evalOption, Step.bind_of_ok hnumber]
      rfl
    rw [VarDecl.add, Step.bind_of_ok hlower]
    simp [htype, evalOption]
  factor span h' := by
    simp only [Expr.eval, BinaryOp.deciding?, Step.bind_of_ok h, Step.bind_of_ok h',
      Value.binary, Value.mul_term]
    rfl

end Numbers

/-- In a scope of proper values, an expression has a proper value, whatever it calls. It is a number
if it is the same at every assignment, as it is for arithmetic whose variables cancel, and then it
serves as that number. -/
theorem Expr.eval_isProper {symbols : Symbols} {tables : Table.Source} {depth : Nat}
    {active : List String} {ctx : Context} (hctx : ctx = .nested symbols tables depth active)
    {e : Expr} {scope : Scope} (hs : ∀ x v, scope.lookup? x = some v → v.IsProper)
    {w w' : Workspace} {v : Value} (h : e.eval ctx scope w = (.ok v, w')) :
    v.IsProper ∧
    (∀ q, (∀ s, v.under s = some q) → v = .ofRat q ∧ e.ServesAs ctx scope w w' q) ∧
    ∀ (L : Vocabulary) (bound : List String), e.Arithmetic L bound →
      e.Visits ctx (Resolves ctx) scope w → ∀ q, (∀ s, e.valueAt ctx s scope w = (.ok q, w')) →
      v = .ofRat q := by
  subst hctx
  have R := (Reasoning.proper symbols tables .all).ensures_nested (Vocabulary.closed_all symbols)
    depth active
  have hv : v.IsProper :=
    (e.eval_ensures R scope [] (e.within_all []) (Scope.fits_all hs) w).1 v w' h
  refine ⟨hv, ?number, ?arithmetic⟩
  case number =>
    intro q hq
    obtain rfl := hv.eq_ofRat hq
    exact ⟨rfl, Expr.servesAs_of_eval h⟩
  case arithmetic =>
    intro L bound he hr q hq
    refine hv.eq_ofRat fun s => ?_
    obtain ⟨p, hp, hvalue⟩ := Expr.eval_under (s := s) he hr h
    cases hvalue.symm.trans (hq s)
    exact hp

/-- A variable, and a define that takes it away from its argument: `f(a) := a - x + 3`. -/
def cancellingSymbols : Symbols :=
  [("x", .var (.scalar 0)),
    ("f", .define ⟨.numb, ["a"],
      .binary .add (.binary .sub (.name "a" default) (.name "x" default) default)
        (.number 3 default) default⟩)]

/-- `-(f(z) / 2)`, where `z` is bound to the variable. -/
def cancelling : Expr :=
  .unary .neg
    (.binary .div (.call "f" [.name "z" default] default) (.number 2 default) default) default

theorem Expr.eval_isProper_cancelling :
    let ctx := Context.ofSymbols cancellingSymbols .empty
    let scope : Scope := [("z", .term (.ofVar 0))]
    ∃ v w', cancelling.eval ctx scope default = (.ok v, w') ∧
      (∀ s, v.under s = some (-3 / 2)) ∧ v = .ofRat (-3 / 2) ∧
      cancelling.ServesAs ctx scope default w' (-3 / 2) := by
  intro ctx scope
  have hs : ∀ x v, scope.lookup? x = some v → v.IsProper := by
    intro x v hv
    obtain ⟨_, hb, rfl⟩ := Option.map_eq_some_iff.1 hv
    obtain rfl := List.mem_singleton.1 (List.mem_of_find?_eq_some hb)
    exact Value.ofVar_isProper _
  have hvalue : ((cancelling.eval ctx scope default).1.toOption.bind fun v =>
      (v.asRat "-").toOption) = some (-3 / 2) := by
    decide +kernel
  rcases h : cancelling.eval ctx scope default with ⟨_ | v, w'⟩
  · rw [h] at hvalue
    cases hvalue
  · rw [h] at hvalue
    have hunder : ∀ s, v.under s = some (-3 / 2) := by
      intro s
      cases v with
      | number n =>
        cases n with
        | finite q =>
          cases hvalue
          rfl
        | minusInfinity | plusInfinity => cases hvalue
      | string _ | truth _ | tuple _ | set _ | term _ => cases hvalue
    obtain ⟨-, hnumber, -⟩ := Expr.eval_isProper rfl hs h
    exact ⟨v, w', rfl, hunder, hnumber _ hunder⟩

end ModelLang
