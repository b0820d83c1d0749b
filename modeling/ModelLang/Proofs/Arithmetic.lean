import ModelLang.Eval.Declaration
import ModelLang.Proofs.Constant
import ModelLang.Proofs.Linear

/-!
# ModelLang.Proofs.Arithmetic

Arithmetic on variables evaluates to the linear function that it denotes. `Expr.valueAt` computes
with fractions throughout, variables replaced by what an assignment gives them. Where evaluation
succeeds its value at the assignment is that fraction (`Expr.eval_under`), and as long as no two
terms are multiplied and no term divides, linearity is not what it fails for (`Expr.eval_routine`).
-/

namespace ModelLang

open Eval

/-! ## Arithmetic -/

/-- The operation on fractions that an arithmetic operator stands for. -/
def BinaryOp.onFractions? : BinaryOp → Option (Rat → Rat → Rat)
  | add => some (· + ·)
  | sub => some (· - ·)
  | mul => some (· * ·)
  | div => some (· / ·)
  | _ => none

theorem BinaryOp.deciding?_eq_none {op : BinaryOp} {f : Rat → Rat → Rat}
    (h : op.onFractions? = some f) : op.deciding? = none := by
  cases op <;> first | rfl | cases h

/-- Sums, differences, products, quotients, negations, choices and indexed sums of numbers, names
and subscripts. What selects, indexes or is ranged over is any expression within the vocabulary. -/
inductive Expr.Arithmetic (L : Vocabulary) : Expr → List String → Prop where
  | number (q : Rat) (span : Span) {bound : List String} : Arithmetic L (.number q span) bound
  | name (x : String) (span : Span) {bound : List String} : Arithmetic L (.name x span) bound
  | subscript (x : String) {args : List Expr} (span : Span) {bound : List String} :
    Expr.AllWithin L args bound → Arithmetic L (.subscript x args span) bound
  | binary {op : BinaryOp} {f : Rat → Rat → Rat} {lhs rhs : Expr} (span : Span)
      {bound : List String} :
    op.onFractions? = some f → Arithmetic L lhs bound → Arithmetic L rhs bound →
    Arithmetic L (.binary op lhs rhs span) bound
  | neg {arg : Expr} (span : Span) {bound : List String} :
    Arithmetic L arg bound → Arithmetic L (.unary .neg arg span) bound
  | conditional {condition yes no : Expr} (span : Span) {bound : List String} :
    condition.Within L bound → Arithmetic L yes bound → Arithmetic L no bound →
    Arithmetic L (.conditional condition yes no span) bound
  | sum {index : IndexSet} {body : Expr} (span : Span) {bound : List String} :
    index.Within L bound → Arithmetic L body (index.bind bound) →
    Arithmetic L (.aggregate .sum index body span) bound

/-- What an evaluated expression is at an assignment. -/
def Expr.leafAt (ctx : Context) (s : Assignment) (e : Expr) (scope : Scope) : Eval Rat := do
  let v ← e.eval ctx scope
  match v.under s with
  | some q => return q
  | none => fail (.typeMismatch "term" "number" v.typeName) e.span

/-- The value of an arithmetic expression with every variable replaced by a fraction. -/
def Expr.valueAt (ctx : Context) (s : Assignment) : Expr → Scope → Eval Rat
  | .number q _, _ => return q
  | .binary op lhs rhs span, scope =>
    match op.onFractions? with
    | some f => do
      let x ← lhs.valueAt ctx s scope
      let y ← rhs.valueAt ctx s scope
      return f x y
    | none => (Expr.binary op lhs rhs span).leafAt ctx s scope
  | .unary .neg arg _, scope => do
    let x ← arg.valueAt ctx s scope
    return -x
  | .conditional condition yes no _, scope => do
    let c ← condition.evalTruth ctx scope "if"
    if c then yes.valueAt ctx s scope else no.valueAt ctx s scope
  | .aggregate .sum index body _, scope => do
    let S ← index.evalSet ctx scope
    foldTuples (index.enter ctx scope)
      (fun x frame _ => do
        let y ← body.valueAt ctx s frame
        return x + y)
      S.tuples 0
  | e, scope => e.leafAt ctx s scope

/-! ## Parts that evaluation comes to -/

/-- What holds after the computation, in case that it succeeds. -/
def Eval.After {α : Type} (x : Eval α) (w : Workspace) (Q : α → Workspace → Prop) : Prop :=
  ∀ a w', x w = (.ok a, w') → Q a w'

instance {α : Type} {x : Eval α} {w : Workspace} {Q : α → Workspace → Prop}
    [∀ a w', Decidable (Q a w')] : Decidable (After x w Q) :=
  match h : x w with
  | (.ok a, w') =>
    decidable_of_iff (Q a w')
      ⟨fun hq _ _ he => by cases h.symm.trans he; exact hq, fun ha => ha a w' h⟩
  | (.error _, _) => .isTrue fun _ _ he => by cases h.symm.trans he

/-- `Q` holds in every scope that is entered, in the workspace that evaluation has then reached. -/
def AlongTuples (enter : Tuple → Eval (Option Scope)) (body : Scope → Eval Value)
    (Q : Scope → Workspace → Prop) : List Tuple → Workspace → Prop
  | [], _ => True
  | t :: ts, w => After (enter t) w fun r w =>
    match r with
    | none => AlongTuples enter body Q ts w
    | some frame => Q frame w ∧ After (body frame) w fun _ w => AlongTuples enter body Q ts w

/-- `P` holds of the arithmetic expression and of its parts, wherever evaluation comes to them. -/
def Expr.Visits (ctx : Context) (P : Expr → Scope → Workspace → Prop) :
    Expr → Scope → Workspace → Prop
  | .binary op lhs rhs span, scope, w =>
    P (.binary op lhs rhs span) scope w ∧ lhs.Visits ctx P scope w ∧
      After (lhs.eval ctx scope) w fun _ w => rhs.Visits ctx P scope w
  | .unary op arg span, scope, w => P (.unary op arg span) scope w ∧ arg.Visits ctx P scope w
  | .conditional condition yes no span, scope, w =>
    P (.conditional condition yes no span) scope w ∧
      After (condition.evalTruth ctx scope "if") w fun c w =>
        if c then yes.Visits ctx P scope w else no.Visits ctx P scope w
  | .aggregate kind index body span, scope, w =>
    P (.aggregate kind index body span) scope w ∧
      After (index.evalSet ctx scope) w fun S w =>
        AlongTuples (index.enter ctx scope) (body.eval ctx) (body.Visits ctx P) S.tuples w
  | e, scope, w => P e scope w

/-- Names and subscripts are finite numbers or terms. -/
def Expr.Resolves (ctx : Context) (e : Expr) (scope : Scope) (w : Workspace) : Prop :=
  match e with
  | .name _ _ | .subscript _ _ _ => After (e.eval ctx scope) w fun v _ => v.IsLinear
  | _ => True

/-- At most one factor of a product is a term, and a divisor is a number other than zero. -/
def Expr.IsLinear (ctx : Context) (e : Expr) (scope : Scope) (w : Workspace) : Prop :=
  match e with
  | .binary .mul lhs rhs _ => After (lhs.eval ctx scope) w fun a w =>
    After (rhs.eval ctx scope) w fun b _ => ¬ (a.IsTerm ∧ b.IsTerm)
  | .binary .div lhs rhs _ => After (lhs.eval ctx scope) w fun _ w =>
    After (rhs.eval ctx scope) w fun b _ => ∃ n, b = .number n ∧ n ≠ 0
  | _ => True

section Decisions

instance : DecidablePred Value.IsLinear
  | .number (.finite _) | .term _ => .isTrue trivial
  | .number .minusInfinity | .number .plusInfinity | .string _ | .truth _ | .tuple _ | .set _ =>
    .isFalse id

instance : DecidablePred Value.IsTerm
  | .term t => .isTrue ⟨t, rfl⟩
  | .number _ | .string _ | .truth _ | .tuple _ | .set _ => .isFalse nofun

instance : DecidablePred fun v : Value => ∃ n, v = .number n ∧ n ≠ 0
  | .number n => decidable_of_iff (n ≠ 0) (by simp)
  | .term _ | .string _ | .truth _ | .tuple _ | .set _ => .isFalse (by simp)

section Tuples

variable {enter : Tuple → Eval (Option Scope)} {body : Scope → Eval Value}
  {Q : Scope → Workspace → Prop} [∀ frame w, Decidable (Q frame w)]

instance AlongTuples.decide : ∀ ts w, Decidable (AlongTuples enter body Q ts w)
  | [], _ => .isTrue trivial
  | _ :: ts, _ =>
    have := AlongTuples.decide ts
    have (r : Option Scope) (w : Workspace) : Decidable (match r with
        | none => AlongTuples enter body Q ts w
        | some frame =>
          Q frame w ∧ After (body frame) w fun _ w => AlongTuples enter body Q ts w) :=
      match r with
      | none => this w
      | some _ => inferInstanceAs (Decidable (_ ∧ _))
    inferInstanceAs (Decidable (After _ _ _))

end Tuples

variable {ctx : Context} {P : Expr → Scope → Workspace → Prop}
  [∀ e scope w, Decidable (P e scope w)]

instance Expr.decideVisits : ∀ e scope w, Decidable (Expr.Visits ctx P e scope w)
  | .binary _ lhs rhs _, scope, w =>
    have := lhs.decideVisits scope w
    have := rhs.decideVisits scope
    inferInstanceAs (Decidable (_ ∧ _ ∧ After _ _ _))
  | .unary _ arg _, scope, w =>
    have := arg.decideVisits scope w
    inferInstanceAs (Decidable (_ ∧ _))
  | .conditional _ yes no _, scope, _ =>
    have := yes.decideVisits scope
    have := no.decideVisits scope
    inferInstanceAs (Decidable (_ ∧ After _ _ _))
  | .aggregate _ _ body _, _, _ =>
    have := body.decideVisits
    inferInstanceAs (Decidable (_ ∧ After _ _ _))
  | .number _ _, scope, w | .infinity _, scope, w | .string _ _, scope, w | .name _ _, scope, w
  | .subscript _ _ _, scope, w | .call _ _ _, scope, w | .builtin _ _ _, scope, w
  | .tuple _ _, scope, w | .setLiteral _ _, scope, w | .range _ _ _ _ _, scope, w
  | .setBuilder _ _ _, scope, w | .proj _ _ _, scope, w | .indexSetOf _ _, scope, w
  | .nonempty _ _, scope, w | .argExtremum _ _ _ _ _, scope, w
  | .indexedSetOp _ _ _ _, scope, w | .read _ _, scope, w =>
    inferInstanceAs (Decidable (P _ scope w))

instance (e : Expr) (scope : Scope) (w : Workspace) : Decidable (e.Resolves ctx scope w) := by
  unfold Expr.Resolves
  split <;> infer_instance

instance (e : Expr) (scope : Scope) (w : Workspace) : Decidable (e.IsLinear ctx scope w) := by
  unfold Expr.IsLinear
  split <;> infer_instance

end Decisions

/-! ## Results -/

theorem Value.binary_under {op : BinaryOp} {f : Rat → Rat → Rat} (hop : op.onFractions? = some f)
    {s : Assignment} {u v r : Value} {x y : Rat} (hu : u.under s = some x)
    (hv : v.under s = some y) (h : u.binary op v = .ok r) : r.under s = some (f x y) := by
  cases op with
  | add =>
    cases hop
    exact Lifts.add.under hu hv h
  | sub =>
    cases hop
    exact Lifts.sub.under hu hv h
  | mul =>
    cases hop
    exact Lifts.mul.under hu hv h
  | div =>
    cases hop
    exact div_under hu hv h
  | mod | intDiv | pow | set _ | and | or | xor | compare _ | mem => cases hop

theorem Expr.eval_conditional (ctx : Context) (condition yes no : Expr) (span : Span)
    (scope : Scope) :
    (Expr.conditional condition yes no span).eval ctx scope = (do
      let c ← condition.evalTruth ctx scope "if"
      if c then yes.eval ctx scope else no.eval ctx scope) := by
  rw [Expr.eval, evalTruth, bind_assoc]

section Results

variable {ctx : Context} {s : Assignment} {scope : Scope} {w w' : Workspace}

theorem Expr.leafAt_ok {e : Expr} {v : Value} (hv : v.IsLinear)
    (h : e.eval ctx scope w = (.ok v, w')) :
    ∃ q, v.under s = some q ∧ e.leafAt ctx s scope w = (.ok q, w') := by
  obtain ⟨q, hq⟩ := Value.exists_under hv s
  refine ⟨q, hq, ?_⟩
  unfold leafAt
  rw [Step.bind_eq_ok]
  refine ⟨v, w', h, ?_⟩
  rw [hq]
  rfl

/-- Summing values and summing what they are at the assignment keep in step. -/
theorem foldTuples_under {enter : Tuple → Eval (Option Scope)} {body : Scope → Eval Value}
    {plain : Scope → Eval Rat} {Q : Scope → Workspace → Prop} {span : Span}
    (hb : ∀ frame w v w', Q frame w → body frame w = (.ok v, w') →
      ∃ q, v.under s = some q ∧ plain frame w = (.ok q, w'))
    {ts : List Tuple} {acc : Value} {x : Rat} {r : Option Value} {w : Workspace}
    (hq : AlongTuples enter body Q ts w) (hx : acc.under s = some x)
    (h : foldTuples enter
      (fun acc frame _ => do
        let v ← body frame
        let acc ← located span (Aggregate.sum.step acc v)
        return some acc) ts (some acc) w = (.ok r, w')) :
    ∃ v q, r = some v ∧ v.under s = some q ∧
      foldTuples enter
        (fun x frame _ => do
          let y ← plain frame
          return x + y) ts x w = (.ok q, w') := by
  induction ts generalizing acc x w with
  | nil =>
    cases h
    exact ⟨acc, x, rfl, hx, rfl⟩
  | cons t ts ih =>
    unfold foldTuples at h ⊢
    simp only [Step.bind_eq_ok] at h ⊢
    obtain ⟨o, w₁, ho, h⟩ := h
    cases o with
    | none =>
      obtain ⟨v, q, hr, hv, hplain⟩ := ih (hq none w₁ ho) hx h
      exact ⟨v, q, hr, hv, none, w₁, ho, hplain⟩
    | some frame =>
      obtain ⟨hQ, hrest⟩ := hq (some frame) w₁ ho
      simp only [Step.bind_eq_ok] at h
      obtain ⟨_, _, ⟨u, w₂, hu, acc', w₃, hacc, hsome⟩, h⟩ := h
      cases hsome
      obtain ⟨hadd, rfl⟩ := located_ok hacc
      obtain ⟨y, hy, hp⟩ := hb frame w₁ u _ hQ hu
      have hsum := Value.Lifts.add.under hx hy hadd
      obtain ⟨v, q, hr, hv, hplain⟩ := ih (hrest u _ hu) hsum h
      refine ⟨v, q, hr, hv, some frame, w₁, ho, ?_⟩
      simp only [Step.bind_eq_ok]
      exact ⟨x + y, _, ⟨y, _, hp, rfl⟩, hplain⟩

/-- The value of an arithmetic expression at the assignment is what arithmetic on fractions
gives. -/
theorem Expr.eval_under {L : Vocabulary} {e : Expr} {bound : List String}
    (he : e.Arithmetic L bound) {v : Value}
    (hr : e.Visits ctx (Resolves ctx) scope w) (h : e.eval ctx scope w = (.ok v, w')) :
    ∃ q, v.under s = some q ∧ e.valueAt ctx s scope w = (.ok q, w') := by
  induction he generalizing scope w w' v with
  | number q span =>
    cases h
    exact ⟨q, rfl, rfl⟩
  | name x span => exact Expr.leafAt_ok (hr v w' h) h
  | subscript x span _ => exact Expr.leafAt_ok (hr v w' h) h
  | @binary op f lhs rhs span bound hf _ _ ihl ihr =>
    simp only [Expr.eval, BinaryOp.deciding?_eq_none hf, Step.bind_eq_ok] at h
    obtain ⟨a, w₁, ha, b, w₂, hb, h⟩ := h
    obtain ⟨hv, rfl⟩ := located_ok h
    obtain ⟨x, hx, hpx⟩ := ihl hr.2.1 ha
    obtain ⟨y, hy, hpy⟩ := ihr (hr.2.2 a w₁ ha) hb
    refine ⟨f x y, Value.binary_under hf hx hy hv, ?_⟩
    simp only [Expr.valueAt, hf, Step.bind_eq_ok]
    exact ⟨x, w₁, hpx, y, _, hpy, rfl⟩
  | neg span _ ih =>
    simp only [Expr.eval, Step.bind_eq_ok] at h
    obtain ⟨a, w₁, hv, h⟩ := h
    obtain ⟨hneg, rfl⟩ := located_ok h
    obtain ⟨x, hx, hp⟩ := ih hr.2 hv
    refine ⟨-x, Value.neg_under hx hneg, ?_⟩
    simp only [Expr.valueAt, Step.bind_eq_ok]
    exact ⟨x, _, hp, rfl⟩
  | conditional span _ _ _ ihy ihn =>
    simp only [Expr.eval_conditional, Expr.valueAt, Step.bind_eq_ok] at h ⊢
    obtain ⟨c, w₁, hc, h⟩ := h
    have hbranch := hr.2 c w₁ hc
    cases c with
    | true =>
      obtain ⟨q, hq, hp⟩ := ihy hbranch h
      exact ⟨q, hq, true, w₁, hc, hp⟩
    | false =>
      obtain ⟨q, hq, hp⟩ := ihn hbranch h
      exact ⟨q, hq, false, w₁, hc, hp⟩
  | sum span _ _ ih =>
    simp only [Expr.eval, Expr.valueAt, Step.bind_eq_ok] at h ⊢
    obtain ⟨S, w₁, hS, r, w₂, hfold, h⟩ := h
    obtain ⟨u, q, rfl, hq, hp⟩ := foldTuples_under (fun frame w v w' hf hv => ih hf hv)
      (hr.2 S w₁ hS) rfl hfold
    cases h
    exact ⟨q, hq, S, w₁, hS, hp⟩

end Results

/-! ## Failures -/

theorem Value.binary_routine {op : BinaryOp} {f : Rat → Rat → Rat}
    (hop : op.onFractions? = some f) {u v : Value}
    (hmul : op = .mul → ¬ (u.IsTerm ∧ v.IsTerm)) (hdiv : op = .div → ¬ v.IsTerm) :
    u.binary op v ≠ .error .nonlinear := by
  cases op with
  | add => exact (add_usual u v).1
  | sub => exact (sub_usual u v).1
  | mul => exact mul_routine (hmul rfl)
  | div => exact div_routine (hdiv rfl)
  | mod | intDiv | pow | set _ | and | or | xor | compare _ | mem => cases hop

section Failures

variable {ctx : Context} {L : Vocabulary}

/-- Adding up values does not fail for want of linearity if none of the values does. -/
theorem foldTuples_routine {enter : Tuple → Eval (Option Scope)} {body : Scope → Eval Value}
    {F : Scope → Prop} {Q : Scope → Workspace → Prop} {span : Span}
    (he : ∀ t, Routine _ (fun r => ∀ frame ∈ r, F frame) (enter t))
    (hb : ∀ frame w f w', F frame → Q frame w → body frame w = (.error f, w') →
      f.cause ≠ .nonlinear)
    {ts : List Tuple} {acc : Value} {w w' : Workspace} {f : Failure}
    (hq : AlongTuples enter body Q ts w)
    (h : foldTuples enter
      (fun acc frame _ => do
        let v ← body frame
        let acc ← located span (Aggregate.sum.step acc v)
        return some acc) ts (some acc) w = (.error f, w')) : f.cause ≠ .nonlinear := by
  induction ts generalizing acc w with
  | nil => cases h
  | cons t ts ih =>
    unfold foldTuples at h
    rcases Step.bind_eq_error.1 h with h | ⟨o, w₁, ho, h⟩
    · exact (he t w).2 f w' h
    · cases o with
      | none => exact ih (hq none w₁ ho) h
      | some frame =>
        have hF := (he t w).1 _ w₁ ho frame rfl
        obtain ⟨hQ, hrest⟩ := hq (some frame) w₁ ho
        rcases Step.bind_eq_error.1 h with h | ⟨acc', w₂, hacc, h⟩
        · rcases Step.bind_eq_error.1 h with h | ⟨v, w₃, hv, h⟩
          · exact hb frame w₁ f w' hF hQ h
          · rcases Step.bind_eq_error.1 h with h | ⟨_, _, _, h⟩
            · exact (Routine.result _ (Value.add_usual acc v).1 w₃).2 f w' h
            · cases h
        · obtain ⟨v, w₃, hv, hacc⟩ := Step.bind_eq_ok.1 hacc
          obtain ⟨u, w₄, hu, hsome⟩ := Step.bind_eq_ok.1 hacc
          cases hsome
          obtain ⟨_, rfl⟩ := located_ok hu
          exact ih (hrest v _ hv) h

/-- Linear arithmetic does not fail for want of linearity. -/
theorem Expr.eval_routine (R : Ensures ctx L Value.NoTerm (· ≠ .nonlinear) Routine) {e : Expr}
    {bound : List String} (he : e.Arithmetic L bound) {scope : Scope} {w w' : Workspace}
    {f : Failure} (hs : scope.Fits L Value.NoTerm bound) (hl : e.Visits ctx (IsLinear ctx) scope w)
    (h : e.eval ctx scope w = (.error f, w')) : f.cause ≠ .nonlinear := by
  induction he generalizing scope w w' f with
  | number q span => cases h
  | name x span =>
    simp only [Expr.eval] at h
    cases hx : scope.lookup? x with
    | some v =>
      rw [hx] at h
      cases h
    | none =>
      rw [hx] at h
      exact (Routine.result _ (Context.lookup_usual ctx x []).1 w).2 f w' h
  | @subscript x args span bound hargs =>
    unfold Expr.eval at h
    rcases Step.bind_eq_error.1 h with h | ⟨index, w₁, _, h⟩
    · exact (Expr.concat_ensures R (Value.asTuple_usual _) args scope _ hargs hs w).2 f w' h
    · exact (Routine.result _ (Context.lookup_usual ctx x index).1 w₁).2 f w' h
  | @binary op g lhs rhs span bound hop _ _ ihl ihr =>
    simp only [Expr.eval, BinaryOp.deciding?_eq_none hop] at h
    rcases Step.bind_eq_error.1 h with h | ⟨a, w₁, ha, h⟩
    · exact ihl hs hl.2.1 h
    · rcases Step.bind_eq_error.1 h with h | ⟨b, w₂, hb, h⟩
      · exact ihr hs (hl.2.2 a w₁ ha) h
      · refine (Routine.result _ (Value.binary_routine hop ?_ ?_) w₂).2 f w' h
        · rintro rfl
          exact hl.1 a w₁ ha b w₂ hb
        · rintro rfl ⟨t, rfl⟩
          obtain ⟨n, hn, _⟩ := hl.1 a w₁ ha _ w₂ hb
          cases hn
  | neg span _ ih =>
    simp only [Expr.eval] at h
    rcases Step.bind_eq_error.1 h with h | ⟨a, w₁, ha, h⟩
    · exact ih hs hl.2 h
    · exact (Routine.result _ (Value.neg_usual a).1 w₁).2 f w' h
  | @conditional condition yes no span bound hc _ _ ihy ihn =>
    rw [Expr.eval_conditional] at h
    rcases Step.bind_eq_error.1 h with h | ⟨c, w₁, hcond, h⟩
    · have htruth : Routine Bool (fun _ => True) (condition.evalTruth ctx scope "if") :=
        R.bind (condition.eval_ensures R scope _ hc hs) fun v _ =>
          R.result _ (Value.asTruth_usual "if" v)
      exact (htruth w).2 f w' h
    · have hbranch := hl.2 c w₁ hcond
      cases c with
      | true => exact ihy hs hbranch h
      | false => exact ihn hs hbranch h
  | @sum index body span bound hi _ ih =>
    simp only [Expr.eval] at h
    rcases Step.bind_eq_error.1 h with h | ⟨S, w₁, hS, h⟩
    · exact (index.evalSet_ensures R scope _ hi hs w).2 f w' h
    · rcases Step.bind_eq_error.1 h with h | ⟨r, w₂, _, h⟩
      · exact foldTuples_routine (fun t => index.enter_ensures R scope t _ hi hs)
          (fun frame w f w' hF hQ h => ih hF hQ h) (hl.2 S w₁ hS) h
      · cases r with
        | none =>
          cases h
          exact Cause.noConfusion
        | some v => cases h

end Failures

/-- Whatever has been declared, and whatever is being expanded: evaluated arithmetic is the linear
function that it denotes, and linear arithmetic does not fail for want of linearity. -/
theorem Expr.eval_exact {symbols : Symbols} {tables : Table.Source} {depth : Nat}
    {active : List String} {ctx : Context} (hctx : ctx = .nested symbols tables depth active)
    {L : Vocabulary} (hL : L.IsConstant symbols) (hclosed : L.Closed symbols)
    (ht : tables.FailsUnreadable) {e : Expr} {bound : List String} (he : e.Arithmetic L bound)
    {scope : Scope} (hs : scope.Fits L Value.NoTerm bound) (w : Workspace) :
    (e.Visits ctx (Resolves ctx) scope w → ∀ v w', e.eval ctx scope w = (.ok v, w') →
      ∀ s, ∃ q, v.under s = some q ∧ e.valueAt ctx s scope w = (.ok q, w')) ∧
    (e.Visits ctx (IsLinear ctx) scope w → ∀ f w', e.eval ctx scope w = (.error f, w') →
      f.cause ≠ .nonlinear) := by
  subst hctx
  refine ⟨?_, ?_⟩
  · intro hr v w' h s
    exact Expr.eval_under he hr h
  · intro hl f w' h
    have R := (Reasoning.routine hL ht).ensures_nested hclosed depth active
    exact Expr.eval_routine R he hs hl h

/-- `sum <x> in {1..2} with x < 3 : if x < 2 then p[x] * y - y else y / x end`, where `x` is a
variable as well. -/
def weighted : Expr :=
  .aggregate .sum
    (.mk (some [.name "x" default])
      (.range (.number 1 default) (.number 2 default) none true default)
      (some (.binary (.compare .lt) (.name "x" default) (.number 3 default) default)) default)
    (.conditional (.binary (.compare .lt) (.name "x" default) (.number 2 default) default)
      (.binary .sub
        (.binary .mul (.subscript "p" [.name "x" default] default) (.name "y" default) default)
        (.name "y" default) default)
      (.binary .div (.name "y" default) (.name "x" default) default) default)
    default

def weightedSymbols : Symbols :=
  [("x", .var (.scalar 0)), ("y", .var (.scalar 1)),
    ("p", .number ⟨none, [([.number 1], .finite 5), ([.number 2], .finite 3)], none⟩)]

def weightedContext : Context := .ofSymbols weightedSymbols .empty

theorem Expr.eval_exact_weighted :
    ∃ v w', weighted.eval weightedContext [] default = (.ok v, w') ∧
      (∀ s, ∃ q, v.under s = some q ∧ weighted.valueAt weightedContext s [] default = (.ok q, w')) ∧
      ∀ f w', weighted.eval weightedContext [] default = (.error f, w') → f.cause ≠ .nonlinear := by
  let L : Vocabulary := ⟨(· = "p"), fun _ => False, fun _ _ => False⟩
  have hL : L.IsConstant weightedSymbols := by
    rintro x f rfl
    simp [weightedSymbols, Symbols.get?]
  have he : weighted.Arithmetic L [] := by
    refine .sum default ?_ (.conditional default ?_ ?_ ?_)
    · simp [L, IndexSet.Within, Expr.PatternWithin, Expr.ItemsWithin, Expr.OptionWithin,
        Expr.Within, Expr.name?, IndexSet.bind, IndexSet.pattern, Expr.bindItems]
    · simp [L, Expr.Within, Expr.name?, IndexSet.bind, IndexSet.pattern, Expr.bindItems]
    · refine .binary default rfl (.binary default rfl (.subscript "p" default ?_) (.name ..))
        (.name ..)
      simp [Expr.AllWithin, Expr.Within, Expr.name?, IndexSet.bind, IndexSet.pattern,
        Expr.bindItems]
    · exact .binary default rfl (.name ..) (.name ..)
  have hs : Scope.Fits L Value.NoTerm [] [] := ⟨fun _ => nofun, nofun⟩
  have hresolves : weighted.Visits weightedContext (Resolves weightedContext) [] default := by
    decide +kernel
  have hlinear : weighted.Visits weightedContext (IsLinear weightedContext) [] default := by
    decide +kernel
  have hok : (weighted.eval weightedContext [] default).1.isOk = true := by
    decide +kernel
  obtain ⟨hvalue, hfail⟩ := Expr.eval_exact rfl hL nofun (Table.Source.ofList_failsUnreadable _ [])
    he hs default
  obtain ⟨v, w', h⟩ := Step.exists_of_isOk hok
  exact ⟨v, w', h, hvalue hresolves v w' h, hfail hlinear⟩

end ModelLang
