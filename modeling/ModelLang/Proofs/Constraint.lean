import ModelLang.Eval.Constraint
import ModelLang.Proofs.Growth
import ModelLang.Proofs.Linear
import ModelLang.Proofs.Settled

/-!
# ModelLang.Proofs.Constraint

The rows of a constraint say what the constraint says. `Constraint.Satisfied` reads a constraint
directly at an assignment: relations between the values of its sides, chains between two numbers,
every part of a list, the body for every tuple that an index set admits, the branch that a condition
selects. `Constraint.add_constrains` is the invariant of adding its rows, by induction on the
constraint; `row_range_iff` and `relates_iff` are its cases at the leaves.
-/

namespace ModelLang

open Eval

/-! ## Constraints read directly -/

/-- The value of the expression is `q` at the assignment. -/
def Expr.ValueIs (ctx : Context) (scope : Scope) (s : Assignment) (e : Expr) (q : Rat) : Prop :=
  ∃ v, e.Denotes ctx scope v ∧ v.under s = some q

theorem Expr.valueIs_iff {ctx : Context} {scope : Scope} {e : Expr} {v : Value}
    (hv : e.Denotes ctx scope v) {s : Assignment} {x : Rat} (hx : v.under s = some x) (q : Rat) :
    e.ValueIs ctx scope s q ↔ q = x := by
  constructor
  · rintro ⟨u, hu, hq⟩
    rw [hu.unique hv, hx] at hq
    exact (Option.some.inj hq).symm
  · rintro rfl
    exact ⟨v, hv, hx⟩

def ConRel.Relates {α : Type} [LE α] (a b : α) : ConRel → Prop
  | le => a ≤ b
  | ge => b ≤ a
  | eq => a = b

mutual

def Constraint.Satisfied (ctx : Context) (s : Assignment) : Constraint → Scope → Prop
  | .plain lhs rel rhs _, scope =>
    ∃ a b, lhs.ValueIs ctx scope s a ∧ rhs.ValueIs ctx scope s b ∧ rel.Relates a b
  | .range low lowerRel term upperRel high _, scope =>
    ∃ a x b, low.Denotes ctx scope (.number a) ∧ term.ValueIs ctx scope s x ∧
      high.Denotes ctx scope (.number b) ∧
      lowerRel.Relates a (.finite x) ∧ upperRel.Relates (.finite x) b
  | .vif _ _ _ _, _ => False
  | .all parts, scope => Constraint.AllSatisfied ctx s parts scope
  | .each index body, scope =>
    ∃ S, index.set.Denotes ctx scope (.set S) ∧
      ∀ t ∈ S, ∀ frame, index.Admits ctx scope t frame → body.Satisfied ctx s frame
  | .cond condition yes no, scope =>
    condition.Denotes ctx scope (.truth true) ∧ yes.Satisfied ctx s scope ∨
      condition.Denotes ctx scope (.truth false) ∧ Constraint.OptionSatisfied ctx s no scope

def Constraint.AllSatisfied (ctx : Context) (s : Assignment) : List Constraint → Scope → Prop
  | [], _ => True
  | c :: rest, scope => c.Satisfied ctx s scope ∧ Constraint.AllSatisfied ctx s rest scope

def Constraint.OptionSatisfied (ctx : Context) (s : Assignment) : Option Constraint → Scope → Prop
  | none, _ => True
  | some c, scope => c.Satisfied ctx s scope

end

mutual

/-- No part is a conditional constraint on variables, and all expressions are within the
vocabulary, apart from the names that are bound. -/
def Constraint.Within (L : Vocabulary) : Constraint → List String → Prop
  | .plain lhs _ rhs _, bound => lhs.Within L bound ∧ rhs.Within L bound
  | .range low _ term _ high _, bound =>
    low.Within L bound ∧ term.Within L bound ∧ high.Within L bound
  | .vif _ _ _ _, _ => False
  | .all parts, bound => Constraint.AllWithin L parts bound
  | .each index body, bound => index.Within L bound ∧ body.Within L (index.bind bound)
  | .cond condition yes no, bound =>
    condition.Within L bound ∧ yes.Within L bound ∧ Constraint.OptionWithin L no bound

def Constraint.AllWithin (L : Vocabulary) : List Constraint → List String → Prop
  | [], _ => True
  | c :: rest, bound => c.Within L bound ∧ Constraint.AllWithin L rest bound

def Constraint.OptionWithin (L : Vocabulary) : Option Constraint → List String → Prop
  | none, _ => True
  | some c, bound => c.Within L bound

end

/-! ## Sides -/

theorem relates_iff (rel : ConRel) (a b : Rat) : rel.Relates a b ↔ rel.Holds (a - b) := by
  cases rel with
  | le => exact sub_nonpos.symm
  | ge => exact sub_nonneg.symm
  | eq => exact sub_eq_zero.symm

theorem Value.asSide_under {v : Value} {t : Term} (h : v.asSide = .ok t) (s : Assignment) :
    v.under s = some (t.value s) := by
  unfold asSide at h
  split at h
  · cases h
  · cases h
  · exact asTerm_under h s

/-- An infinite side absorbs the constant of the term, and to a finite one it moves. -/
theorem row_range_iff {name : String} {t : Term} {low high : Number} {flags : ConFlags} {r : Row}
    (h : Row.range name t low high flags = .ok r) (s : Assignment) :
    r.Holds s ↔ low ≤ .finite (t.value s) ∧ .finite (t.value s) ≤ high := by
  have hv := Term.value_linearPart s t
  have hlow : ∀ q, q + -t.constant ≤ t.linearPart.value s ↔ q ≤ t.value s := by
    intro q
    rw [hv]
    constructor <;> intro h <;> linarith
  have hhigh : ∀ q, t.linearPart.value s ≤ q + -t.constant ↔ t.value s ≤ q := by
    intro q
    rw [hv]
    constructor <;> intro h <;> linarith
  cases low <;> cases high
  case minusInfinity.plusInfinity => cases h
  case finite.finite a b =>
    simp only [Row.range, Number.sub, Number.neg, Number.add, Relation.between?, Bind.bind,
      Except.bind] at h
    split at h
    · rename_i hab
      cases h
      simp only [Row.Holds, Number.finite_le_finite, ← hlow a, ← hhigh b, Number.finite.injEq,
        Number.finite.inj hab]
      rw [le_antisymm_iff, and_comm]
    · cases h
      simp only [Row.Holds, Number.finite_le_finite, hlow, hhigh]
  all_goals
    cases h
    simp [Row.Holds, hlow, hhigh]

/-! ## Runs -/

/-- The rows that `w'` has beyond `w` hold for the assignments that satisfy `P`. -/
def Constrains (w w' : Workspace) (P : Assignment → Prop) : Prop :=
  ∃ rs, w.model.Grows w'.model [] rs ∧ ∀ s, AllHold rs s ↔ P s

namespace Constrains

variable {w w₁ w₂ : Workspace} {P Q : Assignment → Prop}

theorem refl (w : Workspace) (hP : ∀ s, P s) : Constrains w w P :=
  ⟨[], .refl _, fun s => by simp [AllHold, hP s]⟩

theorem trans (h : Constrains w w₁ P) (h' : Constrains w₁ w₂ Q) :
    Constrains w w₂ fun s => P s ∧ Q s := by
  obtain ⟨rs, hg, hP⟩ := h
  obtain ⟨qs, hg', hQ⟩ := h'
  refine ⟨rs ++ qs, hg.trans hg', ?_⟩
  intro s
  rw [allHold_append, hP, hQ]

theorem congr (h : Constrains w w₁ P) (hPQ : ∀ s, P s ↔ Q s) : Constrains w w₁ Q := by
  obtain ⟨rs, hg, hP⟩ := h
  exact ⟨rs, hg, fun s => (hP s).trans (hPQ s)⟩

end Constrains

theorem addLinear_constrains {span : Span} {name : String} {t : Term} {rel : ConRel}
    {flags : ConFlags} {w w' : Workspace}
    (h : onModel span (Build.addLinear name t rel flags) w = (.ok (), w')) :
    Constrains w w' fun s => rel.Holds (t.value s) := by
  have hm : w'.model = w.model.addLinear name t rel flags := (Prod.ext_iff.1 (onModel_ok h)).2.symm
  obtain ⟨rs, hi⟩ := w.model.addLinear_imposes name t rel flags
  refine ⟨rs, hm ▸ hi.grows, ?_⟩
  intro s
  rw [hi.holds, List.forall_mem_singleton, Requirement.Holds]

theorem addRow_constrains {span : Span} {r : Row} {w w' : Workspace}
    (h : onModel span (Build.addRow r) w = (.ok (), w')) :
    Constrains w w' fun s => r.Holds s := by
  have hm : w'.model = w.model.addRow r := (Prod.ext_iff.1 (onModel_ok h)).2.symm
  refine ⟨_, hm ▸ w.model.addRow_grows r, ?_⟩
  intro s
  simp [AllHold, Row.Holds]

section Runs

variable {ctx : Context} {L : Vocabulary} (hctx : ctx.Settles L) {scope : Scope}
  {bound : List String} {w w' : Workspace}

include hctx

theorem Expr.eval_ok {e : Expr} (he : e.Within L bound) {v : Value}
    (h : e.eval ctx scope w = (.ok v, w')) : e.Denotes ctx scope v ∧ w' = w :=
  (hctx.eval he scope).of_run h

/-- A conversion of the value of an expression. -/
theorem Expr.converted_ok {e : Expr} (he : e.Within L bound) {α : Type}
    {convert : Value → Except Cause α} {a : α}
    (h : (do
      let v ← e.eval ctx scope
      located e.span (convert v)) w = (.ok a, w')) :
    ∃ v, e.Denotes ctx scope v ∧ convert v = .ok a ∧ w' = w := by
  rw [Step.bind_eq_ok] at h
  obtain ⟨v, w₁, hv, h⟩ := h
  obtain ⟨hd, rfl⟩ := Expr.eval_ok hctx he hv
  obtain ⟨ha, rfl⟩ := located_ok h
  exact ⟨v, hd, ha, rfl⟩

theorem Expr.evalSide_ok {e : Expr} (he : e.Within L bound) {t : Term}
    (h : e.evalSide ctx scope w = (.ok t, w')) :
    (∀ s q, e.ValueIs ctx scope s q ↔ q = t.value s) ∧ w' = w := by
  obtain ⟨v, hd, ht, rfl⟩ := Expr.converted_ok hctx he h
  exact ⟨fun s => Expr.valueIs_iff hd (Value.asSide_under ht s), rfl⟩

theorem Expr.evalTerm_ok {e : Expr} (he : e.Within L bound) {op : String} {t : Term}
    (h : e.evalTerm ctx scope op w = (.ok t, w')) :
    (∀ s q, e.ValueIs ctx scope s q ↔ q = t.value s) ∧ w' = w := by
  obtain ⟨v, hd, ht, rfl⟩ := Expr.converted_ok hctx he h
  exact ⟨fun s => Expr.valueIs_iff hd (Value.asTerm_under ht s), rfl⟩

theorem Expr.evalNumber_ok {e : Expr} (he : e.Within L bound) {op : String} {n : Number}
    (h : e.evalNumber ctx scope op w = (.ok n, w')) :
    e.Denotes ctx scope (.number n) ∧ w' = w := by
  obtain ⟨v, hd, hn, rfl⟩ := Expr.converted_ok hctx he h
  refine ⟨?_, rfl⟩
  cases v <;> cases hn
  exact hd

theorem Expr.evalTruth_ok {e : Expr} (he : e.Within L bound) {op : String} {b : Bool}
    (h : e.evalTruth ctx scope op w = (.ok b, w')) :
    e.Denotes ctx scope (.truth b) ∧ w' = w := by
  obtain ⟨v, hd, hb, rfl⟩ := Expr.converted_ok hctx he h
  refine ⟨?_, rfl⟩
  cases v <;> cases hb
  exact hd

theorem IndexSet.evalSet_ok {index : IndexSet} (hi : index.Within L bound) {S : TupleSet}
    (h : index.evalSet ctx scope w = (.ok S, w')) :
    index.set.Denotes ctx scope (.set S) ∧ w' = w := by
  obtain ⟨pattern, set, condition, span⟩ := index
  unfold evalSet at h
  obtain ⟨v, hd, hS, rfl⟩ := Expr.converted_ok hctx hi.2.1 h
  refine ⟨?_, rfl⟩
  cases v <;> cases hS
  exact hd

/-- Visiting tuples imposes what each visit does, for those tuples that are admitted. -/
theorem IndexSet.foldTuples_constrains {index : IndexSet} (hi : index.Within L bound)
    {visit : Scope → Tuple → Eval Unit} {P : Scope → Assignment → Prop}
    (hv : ∀ frame t w w', visit frame t w = (.ok (), w') → Constrains w w' (P frame))
    {ts : List Tuple}
    (h : foldTuples (index.enter ctx scope) (fun _ frame t => visit frame t) ts () w
      = (.ok (), w')) :
    Constrains w w' fun s => ∀ t ∈ ts, ∀ frame, index.Admits ctx scope t frame → P frame s := by
  induction ts generalizing w with
  | nil =>
    cases h
    exact .refl _ fun s => by simp
  | cons t ts ih =>
    unfold foldTuples at h
    rw [Step.bind_eq_ok] at h
    obtain ⟨r, w₁, hr, h⟩ := h
    obtain ⟨he, rfl⟩ := (hctx.enter hi scope t).of_run hr
    have hadmits := IndexSet.enter_eq_pure hctx hi he
    cases r with
    | none =>
      refine (ih h).congr fun s => ?_
      simp [hadmits]
    | some frame =>
      simp only [Step.bind_eq_ok] at h
      obtain ⟨⟨⟩, w₂, h₁, h₂⟩ := h
      refine ((hv frame t _ _ h₁).trans (ih h₂)).congr fun s => ?_
      simp [hadmits]

theorem IndexSet.forEach_constrains {index : IndexSet} (hi : index.Within L bound)
    {visit : Scope → Tuple → Eval Unit} {P : Scope → Assignment → Prop}
    (hv : ∀ frame t w w', visit frame t w = (.ok (), w') → Constrains w w' (P frame))
    (h : index.forEach ctx scope visit w = (.ok (), w')) :
    Constrains w w' fun s => ∃ S, index.set.Denotes ctx scope (.set S) ∧
      ∀ t ∈ S, ∀ frame, index.Admits ctx scope t frame → P frame s := by
  unfold forEach at h
  rw [Step.bind_eq_ok] at h
  obtain ⟨S, w₁, hS, h⟩ := h
  obtain ⟨hd, rfl⟩ := IndexSet.evalSet_ok hctx hi hS
  refine (IndexSet.foldTuples_constrains hctx hi hv h).congr fun s => ?_
  constructor
  · intro ha
    exact ⟨S, hd, ha⟩
  · rintro ⟨S', hd', ha⟩
    cases hd.unique hd'
    exact ha

end Runs

/-! ## Constraints -/

variable {ctx : Context} {L : Vocabulary} {base : String}

mutual

/-- The rows of a constraint hold exactly if it is satisfied. -/
theorem Constraint.add_constrains (hctx : ctx.Settles L) : ∀ (c : Constraint) {bound : List String}
    {path : List Tuple} {scope : Scope} {w w' : Workspace}, c.Within L bound →
    c.add ctx base path scope w = (.ok (), w') →
    Constrains w w' fun s => c.Satisfied ctx s scope
  | .plain lhs rel rhs flags, bound, path, scope, w, w', hc, h => by
    simp only [Constraint.add, difference, Step.bind_eq_ok, Step.pure_apply] at h
    obtain ⟨t, w₁, ⟨a, w₂, ha, b, w₃, hb, ht⟩, h⟩ := h
    cases ht
    obtain ⟨hva, rfl⟩ := Expr.evalSide_ok hctx hc.1 ha
    obtain ⟨hvb, rfl⟩ := Expr.evalSide_ok hctx hc.2 hb
    refine (addLinear_constrains h).congr fun s => ?_
    simp only [Constraint.Satisfied, hva, hvb, exists_and_left, exists_eq_left, relates_iff,
      Term.value_sub]
  | .range low lowerRel term upperRel high flags, bound, path, scope, w, w', hc, h => by
    unfold Constraint.add at h
    split at h
    · cases h
    · rename_i hrel
      simp only [Step.bind_eq_ok] at h
      obtain ⟨a, w₁, ha, b, w₂, hb, t, w₃, ht, row, w₄, hrow, h⟩ := h
      obtain ⟨hda, rfl⟩ := Expr.evalNumber_ok hctx hc.1 ha
      obtain ⟨hdb, rfl⟩ := Expr.evalNumber_ok hctx hc.2.2 hb
      obtain ⟨hvt, rfl⟩ := Expr.evalTerm_ok hctx hc.2.1 ht
      obtain ⟨hr, rfl⟩ := located_ok hrow
      refine (addRow_constrains h).congr fun s => ?_
      rw [row_range_iff hr]
      simp only [Constraint.Satisfied, Expr.denotes_iff hda, Expr.denotes_iff hdb, hvt,
        Value.number.injEq, exists_and_left, exists_eq_left]
      rw [not_or, not_not] at hrel
      obtain ⟨rfl, heq⟩ := hrel
      cases lowerRel with
      | le => rfl
      | ge => exact and_comm
      | eq => exact absurd rfl heq
  | .vif _ _ _ _, _, _, _, _, _, hc, _ => hc.elim
  | .all parts, bound, path, scope, w, w', hc, h => by
    unfold Constraint.add at h
    simp only [Constraint.Satisfied]
    exact Constraint.addAll_constrains hctx parts hc h
  | .each index body, bound, path, scope, w, w', hc, h => by
    unfold Constraint.add at h
    simp only [Constraint.Satisfied]
    refine IndexSet.forEach_constrains hctx hc.1 ?_ h
    intro frame t w w' h
    exact body.add_constrains hctx hc.2 h
  | .cond condition yes no, bound, path, scope, w, w', hc, h => by
    unfold Constraint.add at h
    rw [Step.bind_eq_ok] at h
    obtain ⟨b, w₁, ht, h⟩ := h
    obtain ⟨hd, rfl⟩ := Expr.evalTruth_ok hctx hc.1 ht
    simp only [Constraint.Satisfied, Expr.denotes_iff hd, Value.truth.injEq]
    split at h
    · rename_i hb
      refine (yes.add_constrains hctx hc.2.1 h).congr fun s => ?_
      simp [hb]
    · rename_i hb
      cases no with
      | none =>
        cases h
        exact .refl _ fun s => by simp [hb, Constraint.OptionSatisfied]
      | some no =>
        refine (no.add_constrains hctx hc.2.2 h).congr fun s => ?_
        simp [hb, Constraint.OptionSatisfied]

theorem Constraint.addAll_constrains (hctx : ctx.Settles L) : ∀ (cs : List Constraint)
    {bound : List String} {path : List Tuple} {scope : Scope} {w w' : Workspace},
    Constraint.AllWithin L cs bound →
    Constraint.addAll ctx base cs path scope w = (.ok (), w') →
    Constrains w w' fun s => Constraint.AllSatisfied ctx s cs scope
  | [], _, _, _, _, _, _, h => by
    cases h
    exact .refl _ fun s => trivial
  | c :: rest, bound, path, scope, w, w', hc, h => by
    simp only [Constraint.addAll, Step.bind_eq_ok] at h
    obtain ⟨⟨⟩, w₁, h₁, h₂⟩ := h
    exact (c.add_constrains hctx hc.1 h₁).trans (Constraint.addAll_constrains hctx rest hc.2 h₂)

end

/-- Whatever has been declared, and whatever the workspace and the scope are: the rows that a
constraint appends hold for the assignments that satisfy it. -/
theorem Constraint.add_exact {symbols : Symbols} {tables : Table.Source} (hL : L.IsPure)
    (hclosed : L.Closed symbols) {c : Constraint} {bound : List String}
    (hc : c.Within L bound) {path : List Tuple}
    {scope : Scope} {w w' : Workspace}
    (h : c.add (.ofSymbols symbols tables) base path scope w = (.ok (), w')) :
    ∃ rs, w.model.Grows w'.model [] rs ∧
      ∀ s, AllHold rs s ↔ c.Satisfied (.ofSymbols symbols tables) s scope :=
  c.add_constrains (Context.settles_ofSymbols hL hclosed tables) hc h

/-- `forall <i> in {1..3} with i < 3 do x <= i and 0 <= x <= infinity`, in one list. -/
def bounded : Constraint :=
  .all
    [.each (.mk (some [.name "i" default])
        (.range (.number 1 default) (.number 3 default) none true default)
        (some (.binary (.compare .lt) (.name "i" default) (.number 3 default) default)) default)
      (.plain (.name "x" default) .le (.name "i" default) .empty),
    .range (.number 0 default) .le (.name "x" default) .le (.infinity default) .empty]

def boundedSymbols : Symbols := [("x", .var (.scalar 0))]

theorem Constraint.add_exact_bounded :
    ∃ w' rs, bounded.add (.ofSymbols boundedSymbols .empty) "c" [] [] default = (.ok (), w') ∧
      Model.Grows default w'.model [] rs ∧
      ∀ s, AllHold rs s ↔
        bounded.Satisfied (.ofSymbols boundedSymbols .empty) s [] := by
  have hok : (bounded.add (.ofSymbols boundedSymbols .empty) "c" [] [] default).1.isOk := by
    decide +kernel
  obtain ⟨⟨⟩, w', h⟩ := Step.exists_of_isOk hok
  let L : Vocabulary := ⟨fun _ => True, fun _ => False, fun _ _ => False⟩
  have hL : L.IsPure := ⟨fun _ => trivial, nofun, nofun⟩
  have hclosed : L.Closed boundedSymbols := nofun
  have hc : bounded.Within L [] := by
    simp [bounded, L, Constraint.Within, Constraint.AllWithin, IndexSet.Within, Expr.Within,
      Expr.PatternWithin, Expr.ItemsWithin, Expr.OptionWithin, Expr.name?]
  obtain ⟨rs, hg, hrs⟩ := Constraint.add_exact hL hclosed hc h
  exact ⟨w', rs, h, hg, hrs⟩

end ModelLang
