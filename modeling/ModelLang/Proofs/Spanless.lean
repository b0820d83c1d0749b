import ModelLang.Proofs.Blameless

/-!
# ModelLang.Proofs.Spanless

Statements without spans do the same as the statements themselves: they change a session without
spans as the statements change the session, and fail with the same cause (`Statement.run_beside`).
So programs that are the same without spans run alike (`Statement.executeAll_congr`).
-/

namespace ModelLang

open Eval

/-! ## Contexts of declared symbols -/

namespace Context

theorem nested_beside (symbols : Symbols) (tables : Table.Source) (depth : Nat)
    (active : List String) :
    (nested symbols tables depth active).Beside
      (nested (Symbols.bare symbols) tables depth active) := by
  induction depth generalizing active with
  | zero => exact ⟨rfl, rfl, rfl, fun _ _ _ => rfl⟩
  | succ depth ih =>
    exact ⟨rfl, rfl, rfl, fun x d scope => Expr.eval_bare (ih (x :: active)) d.body scope⟩

theorem ofSymbols_beside (symbols : Symbols) (tables : Table.Source) :
    (ofSymbols symbols tables).Beside (ofSymbols (Symbols.bare symbols) tables) := by
  unfold ofSymbols
  rw [show (Symbols.bare symbols).length = symbols.length from List.length_map ..]
  exact nested_beside symbols tables symbols.length []

end Context

/-! ## Declarations -/

@[simp] theorem evalOption_map {α β γ : Type} (f : γ → β) (eval : β → Eval α) (c : Option γ) :
    evalOption (c.map f) eval = evalOption c fun c => eval (f c) := by
  cases c <;> rfl

@[simp] theorem blameless_evalOption {α β : Type} (eval : β → Eval α) (b : Option β) :
    blameless (evalOption b eval) = b.mapM fun b => blameless (eval b) := by
  cases b with
  | none => rfl
  | some b => simp [evalOption]

namespace ParamDecl

theorem addRows_bare (d : ParamDecl) (domain : Option TupleSet) (rows : List Table.Row)
    (entries : List (Tuple × Value)) :
    d.bare.addRows domain rows entries = d.addRows domain rows entries := by
  induction rows generalizing entries with
  | nil => rfl
  | cons row rows ih =>
    rcases row with ⟨key, _ | e⟩
    · exact ih entries
    · simp only [addRows, ParamDecl.name_bare, Name.text_bare, ih]

/-- A parameter is no define. -/
theorem symbol_bare (domain : Option TupleSet) (entries : List (Tuple × Value))
    (fallback : Option Value) :
    (symbol domain entries fallback).map Symbol.bare = symbol domain entries fallback := by
  unfold symbol
  split
  · cases familyOf Value.asString domain entries fallback <;> rfl
  · cases familyOf Value.asNumber domain entries fallback <;> rfl

end ParamDecl

theorem repeatedName?_bare (seen : List String) (names : List Name) :
    repeatedName? seen (names.map Name.bare) = (repeatedName? seen names).map Name.bare := by
  induction names generalizing seen with
  | nil => rfl
  | cons x names ih =>
    simp only [List.map_cons, repeatedName?, Name.text_bare, ih]
    split <;> rfl

theorem DefineDecl.eval_bare (d : DefineDecl) :
    blameless d.bare.eval = Define.bare <$> blameless d.eval := by
  unfold DefineDecl.eval DefineDecl.bare
  rw [repeatedName?_bare]
  cases repeatedName? [] d.params with
  | none => simp [Define.bare, Function.comp_def]
  | some x => rfl

section Declarations

variable {α : Type} {ctx ctx' : Context} (h : ctx.Beside ctx') (scope : Scope)

include h

namespace IndexSet

variable (index : IndexSet) {visit visit' : Scope → Tuple → Eval α}

theorem collect_bare (hvisit : ∀ frame t, blameless (visit' frame t) = blameless (visit frame t)) :
    blameless (index.bare.collect ctx' scope visit') =
      blameless (index.collect ctx scope visit) := by
  simp [collect, index.evalSet_bare h scope, index.enter_bare h scope, hvisit]

theorem domain_bare :
    blameless (index.bare.domain ctx' scope) = blameless (index.domain ctx scope) := by
  simp [domain, index.collect_bare h scope fun _ _ => rfl]

theorem domain?_bare (index : Option IndexSet) :
    blameless (domain? (index.map IndexSet.bare) ctx' scope) =
      blameless (domain? index ctx scope) := by
  simp [domain?, IndexSet.domain_bare h scope]

theorem family_bare (hvisit : ∀ frame t, blameless (visit' frame t) = blameless (visit frame t)) :
    blameless (index.bare.family ctx' scope visit') =
      blameless (index.family ctx scope visit) := by
  simp [family, index.collect_bare h scope hvisit]

theorem forEach_bare {visit visit' : Scope → Tuple → Eval Unit}
    (hvisit : ∀ frame t, blameless (visit' frame t) = blameless (visit frame t)) :
    blameless (index.bare.forEach ctx' scope visit') =
      blameless (index.forEach ctx scope visit) := by
  simp [forEach, index.evalSet_bare h scope, index.enter_bare h scope, hvisit]

end IndexSet

namespace Expr

variable (e : Expr) (op : String)

theorem evalSet_bare :
    blameless (e.bare.evalSet ctx' scope) = blameless (e.evalSet ctx scope) := by
  simp [evalSet, e.eval_bare h scope]

theorem evalCount_bare :
    blameless (e.bare.evalCount ctx' scope op) = blameless (e.evalCount ctx scope op) := by
  simp [evalCount, e.eval_bare h scope]

theorem evalNumber_bare :
    blameless (e.bare.evalNumber ctx' scope op) = blameless (e.evalNumber ctx scope op) := by
  simp [evalNumber, e.eval_bare h scope]

theorem evalRat_bare :
    blameless (e.bare.evalRat ctx' scope op) = blameless (e.evalRat ctx scope op) := by
  simp [evalRat, e.eval_bare h scope]

theorem evalInteger_bare :
    blameless (e.bare.evalInteger ctx' scope op) = blameless (e.evalInteger ctx scope op) := by
  simp [evalInteger, e.evalRat_bare h scope]

theorem evalTerm_bare :
    blameless (e.bare.evalTerm ctx' scope op) = blameless (e.evalTerm ctx scope op) := by
  simp [evalTerm, e.eval_bare h scope]

theorem evalTruth_bare :
    blameless (e.bare.evalTruth ctx' scope op) = blameless (e.evalTruth ctx scope op) := by
  simp [evalTruth, e.eval_bare h scope]

theorem evalElems_bare (es : List Expr) :
    blameless (evalElems (es.map Expr.bare) ctx' scope) = blameless (evalElems es ctx scope) :=
  concat_bare h _ es scope

end Expr

namespace SetDecl

theorem addEntries_bare (d : SetDecl) (domain : Option TupleSet) (items : List (Expr × Expr))
    (entries : List (Tuple × TupleSet)) :
    blameless (d.bare.addEntries ctx' scope domain (items.map bareEntry) entries) =
      blameless (d.addEntries ctx scope domain items entries) := by
  induction items generalizing entries with
  | nil => rfl
  | cons item items ih =>
    simp [addEntries, bareEntry, item.1.eval_bare h scope, item.2.evalSet_bare h scope, ih]

theorem eval_bare (d : SetDecl) :
    blameless (d.bare.eval ctx' scope) = blameless (d.eval ctx scope) := by
  obtain ⟨name, index, body, span⟩ := d
  cases body with
  | value e =>
    cases index with
    | none => simp [SetDecl.bare, SetBody.bare, eval, e.evalSet_bare h scope]
    | some index =>
      exact index.family_bare h scope fun frame t => e.evalSet_bare h frame
  | entries items =>
    have hentries := addEntries_bare h scope ⟨name, index, .entries items, span⟩
    have hdomain := IndexSet.domain?_bare h scope index
    simp only [SetDecl.bare, SetBody.bare] at hentries
    cases index <;> simp_all [SetDecl.bare, SetBody.bare, eval]
  | subsets set least most =>
    simp [SetDecl.bare, SetBody.bare, eval, set.evalSet_bare h scope,
      Expr.evalCount_bare h scope]
  | powerset set => simp [SetDecl.bare, SetBody.bare, eval, set.evalSet_bare h scope]

end SetDecl

namespace ParamDecl

variable (d : ParamDecl)

theorem addEntries_bare (domain : Option TupleSet) (items : List (Expr × Expr))
    (entries : List (Tuple × Value)) :
    blameless (d.bare.addEntries ctx' scope domain (items.map bareEntry) entries) =
      blameless (d.addEntries ctx scope domain items entries) := by
  induction items generalizing entries with
  | nil => rfl
  | cons item items ih =>
    simp [addEntries, bareEntry, item.1.eval_bare h scope, item.2.eval_bare h scope, ih]

theorem addCells_bare (domain : Option TupleSet) (row : Tuple) (cells : List (Elem × Expr))
    (entries : List (Tuple × Value)) :
    blameless (d.bare.addCells ctx' scope domain row (cells.map (Prod.map id Expr.bare)) entries) =
      blameless (d.addCells ctx scope domain row cells entries) := by
  induction cells generalizing entries with
  | nil => rfl
  | cons cell cells ih => simp [addCells, cell.2.eval_bare h scope, ih]

theorem addMatrix_bare (domain : Option TupleSet) (columns : List Elem)
    (rows : List (List Expr × List Expr)) (entries : List (Tuple × Value)) :
    blameless (d.bare.addMatrix ctx' scope domain columns (rows.map bareRow) entries) =
      blameless (d.addMatrix ctx scope domain columns rows entries) := by
  induction rows generalizing entries with
  | nil => rfl
  | cons row rows ih =>
    simp [addMatrix, bareRow, List.zip_map_right, Expr.evalElems_bare h scope,
      d.addCells_bare h scope, ih]

theorem entries_bare :
    blameless (d.bare.entries ctx' scope) = blameless (d.entries ctx scope) := by
  have hentries := d.addEntries_bare h scope
  have hmatrix := d.addMatrix_bare h scope
  have hrows := d.addRows_bare
  obtain ⟨name, index, body, fallback, span⟩ := d
  have hdomain := IndexSet.domain?_bare h scope index
  cases body with
  | value e =>
    cases index with
    | none => simp [ParamDecl.bare, ParamBody.bare, entries, e.eval_bare h scope]
    | some index =>
      simp [ParamDecl.bare, ParamBody.bare, entries,
        index.family_bare h scope fun frame t => e.eval_bare h frame]
  | entries items =>
    simp only [ParamDecl.bare, ParamBody.bare] at hentries
    cases index <;> simp_all [ParamDecl.bare, ParamBody.bare, entries]
  | matrix columns rows =>
    simp only [ParamDecl.bare, ParamBody.bare] at hmatrix
    cases index <;>
      simp_all [ParamDecl.bare, ParamBody.bare, entries, Expr.evalElems_bare h scope]
  | read table =>
    simp only [ParamDecl.bare, ParamBody.bare] at hrows
    cases index <;>
      simp_all [ParamDecl.bare, ParamBody.bare, entries, ReadSpec.rows_bare h true table scope]
  | empty => cases index <;> simp_all [ParamDecl.bare, ParamBody.bare, entries]

theorem eval_bare :
    blameless (d.bare.eval ctx' scope) = Symbol.bare <$> blameless (d.eval ctx scope) := by
  have hsymbol (domain : Option TupleSet) (entries : List (Tuple × Value))
      (fallback : Option Value) : Symbol.bare <$> (Step.ofExcept (symbol domain entries fallback) :
        Step Workspace Cause Symbol) = Step.ofExcept (symbol domain entries fallback) := by
    have hbare := symbol_bare domain entries fallback
    revert hbare
    cases symbol domain entries fallback with
    | error e => exact fun _ => rfl
    | ok s => exact fun hbare => congrArg Step.ofExcept hbare
  have hfallback : d.bare.fallback = d.fallback.map Expr.bare := rfl
  simp [eval, d.entries_bare h scope, hfallback, hsymbol, Expr.eval_bare h]

end ParamDecl

namespace VarDecl

theorem add_bare (d : VarDecl) (name : String) :
    blameless (d.bare.add ctx' scope name) = blameless (d.add ctx scope name) := by
  simp [add, VarDecl.bare, Expr.evalNumber_bare h scope, Expr.evalInteger_bare h scope,
    Expr.evalRat_bare h scope]

theorem eval_bare (d : VarDecl) :
    blameless (d.bare.eval ctx' scope) = blameless (d.eval ctx scope) := by
  have hadd := d.add_bare h
  obtain ⟨name, index, type, lower, upper, priority, startval, span⟩ := d
  cases index with
  | none =>
    show blameless (_ >>= _) = blameless (_ >>= _)
    rw [blameless_bind, blameless_bind]
    exact congrArg (· >>= _) (hadd scope name.text)
  | some index => exact index.family_bare h scope fun frame t => hadd frame _

end VarDecl

/-! ## Constraints -/

namespace Expr

theorem evalSide_bare (e : Expr) :
    blameless (e.bare.evalSide ctx' scope) = blameless (e.evalSide ctx scope) := by
  simp [evalSide, e.eval_bare h scope]

end Expr

theorem difference_bare (a b : Expr) :
    blameless (difference a.bare b.bare ctx' scope) = blameless (difference a b ctx scope) := by
  simp [difference, a.evalSide_bare h scope, b.evalSide_bare h scope]

theorem Expr.evalCondition_bare (e : Expr) :
    blameless (e.bare.evalCondition ctx' scope) = blameless (e.evalCondition ctx scope) := by
  cases e with
  | binary op a b span =>
    cases op <;> simp [Expr.evalCondition, difference_bare h scope, Expr.evalCondition_bare a,
      Expr.evalCondition_bare b]
  | unary op a span => cases op <;> simp [Expr.evalCondition, Expr.evalCondition_bare a]
  | _ => rfl

theorem Branch.eval_bare (b : Branch) :
    blameless (b.bare.eval ctx' scope) = blameless (b.eval ctx scope) := by
  simp [Branch.eval, Branch.bare, difference_bare h scope]

end Declarations

section Constraints

variable {ctx ctx' : Context}

mutual

theorem Constraint.add_bare (h : ctx.Beside ctx') (base : String) (c : Constraint)
    (path : List Tuple) (scope : Scope) :
    blameless (c.bare.add ctx' base path scope) = blameless (c.add ctx base path scope) := by
  cases c with
  | plain lhs rel rhs flags => simp [Constraint.bare, Constraint.add, difference_bare h scope]
  | range low lowerRel term upperRel high flags =>
    simp [Constraint.bare, Constraint.add, Expr.evalNumber_bare h scope, Expr.evalTerm_bare h scope]
  | vif condition yes no flags =>
    simp [Constraint.bare, Constraint.add, condition.evalCondition_bare h scope,
      Branch.eval_bare h scope]
  | all parts =>
    simp [Constraint.bare, Constraint.add, Constraint.addAll_bare h base parts path scope]
  | each index body =>
    simp only [Constraint.bare, Constraint.add]
    exact index.forEach_bare h scope fun frame t =>
      Constraint.add_bare h base body (path ++ [t]) frame
  | cond condition yes no =>
    cases no with
    | none =>
      simp [Constraint.bare, Constraint.add, condition.evalTruth_bare h scope,
        Constraint.add_bare h base yes path scope]
    | some no =>
      simp [Constraint.bare, Constraint.add, condition.evalTruth_bare h scope,
        Constraint.add_bare h base yes path scope, Constraint.add_bare h base no path scope]

theorem Constraint.addAll_bare (h : ctx.Beside ctx') (base : String) (cs : List Constraint)
    (path : List Tuple) (scope : Scope) :
    blameless (Constraint.addAll ctx' base (Constraint.bareAll cs) path scope) =
      blameless (Constraint.addAll ctx base cs path scope) := by
  cases cs with
  | nil => rfl
  | cons c cs =>
    simp [Constraint.bareAll, Constraint.addAll, Constraint.add_bare h base c path scope,
      Constraint.addAll_bare h base cs path scope]

end

end Constraints

/-! ## Special ordered sets, the objective and printed lines -/

section Lines

variable {ctx ctx' : Context} (h : ctx.Beside ctx') (scope : Scope)

include h

theorem SosBody.evalWeighted_bare (items : List (Expr × Expr)) :
    blameless (SosBody.evalWeighted ctx' scope (items.map bareEntry)) =
      blameless (SosBody.evalWeighted ctx scope items) := by
  induction items with
  | nil => rfl
  | cons item items ih =>
    simp only [List.map_cons, bareEntry, SosBody.evalWeighted, blameless_bind,
      item.1.evalTerm_bare h scope]
    refine bind_congr fun t => ?_
    cases t.var? with
    | none => rfl
    | some v => simp [item.2.evalRat_bare h scope, ih]

theorem SosBody.add_bare (d : SosDecl) (priority : Int) (body : SosBody) (path : List Tuple) :
    blameless (body.bare.add ctx' d.bare priority path scope) =
      blameless (body.add ctx d priority path scope) := by
  induction body generalizing path scope with
  | weighted items =>
    simp [SosBody.bare, SosBody.add, SosDecl.bare, SosBody.evalWeighted_bare h scope]
  | term e => simp [SosBody.bare, SosBody.add, SosDecl.bare, e.evalTerm_bare h scope]
  | each index body ih => exact index.forEach_bare h scope fun frame t => ih frame (path ++ [t])

theorem SosDecl.add_bare (d : SosDecl) (path : List Tuple) :
    blameless (d.bare.add ctx' path scope) = blameless (d.add ctx path scope) := by
  have hbody (priority : Int) := SosBody.add_bare h scope d priority d.body path
  have hpriority : d.bare.priority = d.priority.map Expr.bare := rfl
  have hbare : d.bare.body = d.body.bare := rfl
  simp [SosDecl.add, hpriority, hbare, Expr.evalInteger_bare h scope, hbody]

theorem ObjectiveDecl.set_bare (d : ObjectiveDecl) :
    blameless (d.bare.set ctx' scope) = blameless (d.set ctx scope) := by
  simp [ObjectiveDecl.set, ObjectiveDecl.bare, d.term.evalTerm_bare h scope]

theorem Expr.family?_bare (e : Expr) : e.bare.family? ctx' scope = e.family? ctx scope := by
  unfold Expr.family?
  rw [Expr.name?_bare, h.symbols]
  cases e.name? with
  | none => rfl
  | some x =>
    simp only [Symbols.get?_bare]
    rcases scope.lookup? x with _ | v
    · rcases ctx.symbols.get? x with _ | s
      · rfl
      · cases s <;> rfl
    · rfl

theorem Expr.evalShown_bare (e : Expr) :
    blameless (e.bare.evalShown ctx' scope) = blameless (e.evalShown ctx scope) := by
  unfold Expr.evalShown
  rw [e.family?_bare h scope]
  cases e.family? ctx scope with
  | none => simp [e.eval_bare h scope]
  | some f => rfl

theorem Expr.evalLine_bare (items : List Expr) :
    blameless (Expr.evalLine ctx' scope (items.map Expr.bare)) =
      blameless (Expr.evalLine ctx scope items) := by
  induction items with
  | nil => rfl
  | cons e items ih => simp [Expr.evalLine, e.evalShown_bare h scope, ih]

end Lines

/-! ## Sessions -/

theorem Step.map_apply {σ ε α β : Type} (f : α → β) (x : Step σ ε α) (s : σ) :
    (f <$> x) s = ((x s).1.map f, (x s).2) := by
  show (x >>= fun a => Pure.pure (f a)) s = _
  rw [Step.bind_apply]
  rcases x s with ⟨_ | a, s'⟩ <;> rfl

theorem Symbols.declares_bare (symbols : Symbols) (name : String) :
    Symbols.declares (Symbols.bare symbols) name = symbols.declares name := by
  rw [Symbols.declares, Symbols.declares, Symbols.get?_bare, Option.isSome_map]

theorem Symbols.declare_bare (symbols : Symbols) (name : String) (s : Symbol) :
    Symbols.declare (Symbols.bare symbols) name s.bare =
      (symbols.declare name s).map Symbols.bare := by
  unfold Symbols.declare
  simp only [Symbols.declares_bare]
  split
  · rfl
  · simp [Except.map, Symbols.bare]

namespace Exec

variable {α β γ δ : Type}

/-- What can be seen of the outcome of an execution when places do not count. `bare` takes the
spans out of a result. -/
def outcome (bare : α → β) : Except Failure α × Session → Except Cause β × Session
  | (.ok a, s) => (.ok (bare a), s.bare)
  | (.error f, s) => (.error f.cause, s.bare)

/-- In a session without spans, the second execution has the outcome that can be seen of the first
one. -/
def Beside (bare : α → β) (x : Exec α) (y : Exec β) : Prop :=
  ∀ s, y.mapError Failure.cause s.bare = outcome bare (x s)

namespace Beside

variable {bare : α → β}

theorem pure (a : α) : Beside bare (Pure.pure a) (Pure.pure (bare a)) :=
  fun _ => rfl

theorem bind {bare' : γ → δ} {x : Exec α} {y : Exec β} {f : α → Exec γ} {g : β → Exec δ}
    (h : Beside bare x y) (hf : ∀ a, Beside bare' (f a) (g (bare a))) :
    Beside bare' (x >>= f) (y >>= g) := by
  intro s
  have hs := h s
  simp only [Step.mapError] at hs ⊢
  rw [Step.bind_apply, Step.bind_apply]
  rcases hx : x s with ⟨e | a, s₁⟩ <;> rcases hy : y s.bare with ⟨e' | b, s₂⟩ <;>
    rw [hx, hy] at hs
  · obtain ⟨he, hs₂⟩ := Prod.mk.inj hs
    show (Except.error e'.cause, s₂) = (Except.error e.cause, s₁.bare)
    rw [hs₂, Except.error.inj he]
  · cases hs
  · cases hs
  · obtain ⟨hb, hs₂⟩ := Prod.mk.inj hs
    obtain rfl := Except.ok.inj hb
    rw [hs₂]
    exact hf a s₁

theorem ite {c : Prop} [Decidable c] {x x' : Exec α} {y y' : Exec β} (h : Beside bare x y)
    (h' : Beside bare x' y') : Beside bare (if c then x else x') (if c then y else y') := by
  split
  · exact h
  · exact h'

theorem eval (tables : Table.Source) {x : Context → Eval α} {y : Context → Eval β}
    (h : ∀ ctx ctx', ctx.Beside ctx' → blameless (y ctx') = bare <$> blameless (x ctx)) :
    Beside bare (Exec.eval tables x) (Exec.eval tables y) := by
  intro s
  have hwork := congrFun (h _ _ (Context.ofSymbols_beside s.symbols tables)) s.work
  rw [blameless, Step.mapError, Step.map_apply, blameless, Step.mapError] at hwork
  simp only [Step.mapError, Exec.eval, Step.onPart]
  rw [show s.bare.symbols = Symbols.bare s.symbols from rfl, show s.bare.work = s.work from rfl]
  rcases hx : x (.ofSymbols s.symbols tables) s.work with ⟨f | a, w⟩ <;>
    rcases hy : y (.ofSymbols (Symbols.bare s.symbols) tables) s.work with ⟨f' | b, w'⟩ <;>
    rw [hx, hy] at hwork
  · obtain ⟨hf, rfl⟩ := Prod.mk.inj hwork
    exact congrArg (·, _) hf
  · cases hwork
  · cases hwork
  · obtain ⟨hb, rfl⟩ := Prod.mk.inj hwork
    exact congrArg (·, _) hb

theorem foldTuples {σ : Type} {enter enter' : Tuple → Exec (Option Scope)}
    {visit visit' : σ → Scope → Tuple → Exec σ} (henter : ∀ t, Beside id (enter t) (enter' t))
    (hvisit : ∀ acc frame t, Beside id (visit acc frame t) (visit' acc frame t))
    (ts : List Tuple) (acc : σ) :
    Beside id (foldTuples enter visit ts acc) (foldTuples enter' visit' ts acc) := by
  induction ts generalizing acc with
  | nil => exact .pure acc
  | cons t ts ih =>
    refine .bind (henter t) fun frame => ?_
    cases frame with
    | none => exact ih acc
    | some frame => exact .bind (hvisit acc frame t) fun acc => ih acc

end Beside

theorem requireNew_beside (x : Name) : Beside id (requireNew x) (requireNew x.bare) := by
  intro s
  have hdeclares : s.bare.symbols.declares x.text = s.symbols.declares x.text :=
    Symbols.declares_bare s.symbols x.text
  simp only [Step.mapError, requireNew, Name.text_bare, hdeclares]
  cases s.symbols.declares x.text <;> rfl

theorem declare_beside (x : Name) (symbol : Symbol) :
    Beside id (declare x symbol) (declare x.bare symbol.bare) := by
  intro s
  have hdeclare : s.bare.symbols.declare x.text symbol.bare =
      (s.symbols.declare x.text symbol).map Symbols.bare :=
    Symbols.declare_bare s.symbols x.text symbol
  simp only [Step.mapError, declare, Name.text_bare, hdeclare]
  cases s.symbols.declare x.text symbol <;> rfl

theorem printLine_beside (line : String) : Beside id (printLine line) (printLine line) :=
  fun _ => rfl

theorem countFailedCheck_beside : Beside id countFailedCheck countFailedCheck :=
  fun _ => rfl

end Exec

namespace Statement

open Exec (Beside)

theorem run_beside (tables : Table.Source) (st : Statement) (path : List Tuple) (scope : Scope) :
    Beside id (st.run tables path scope) (st.bare.run tables path scope) := by
  have heval {α : Type} {x y : Context → Eval α}
      (h : ∀ ctx ctx', ctx.Beside ctx' → blameless (y ctx') = blameless (x ctx)) :
      Beside id (Exec.eval tables x) (Exec.eval tables y) :=
    .eval tables fun ctx ctx' hctx => (h ctx ctx' hctx).trans (id_map _).symm
  induction st generalizing path scope with
  | set d =>
    refine .bind (Exec.requireNew_beside d.name) fun _ => ?_
    exact .bind (heval fun _ _ h => d.eval_bare h scope) fun f =>
      Exec.declare_beside d.name (.set f)
  | param d =>
    refine .bind (Exec.requireNew_beside d.name) fun _ => ?_
    exact .bind (.eval tables fun _ _ h => d.eval_bare h scope) fun s =>
      Exec.declare_beside d.name s
  | var d =>
    refine .bind (Exec.requireNew_beside d.name) fun _ => ?_
    exact .bind (heval fun _ _ h => d.eval_bare h scope) fun f =>
      Exec.declare_beside d.name (.var f)
  | objective d => exact heval fun _ _ h => d.set_bare h scope
  | subto d => exact heval fun _ _ h => d.body.add_bare h d.name.text path scope
  | sos d => exact heval fun _ _ h => d.add_bare h scope path
  | define d =>
    exact .bind (.eval tables fun _ _ _ => d.eval_bare) fun f =>
      Exec.declare_beside d.name (.define f)
  | print items span =>
    exact .bind (heval fun _ _ h => Expr.evalLine_bare h scope items) Exec.printLine_beside
  | check condition span =>
    refine .bind (heval fun _ _ h => condition.evalTruth_bare h scope "check") fun holds => ?_
    exact .ite (.pure ()) Exec.countFailedCheck_beside
  | each index body span ih =>
    refine .bind (heval fun _ _ h => index.evalSet_bare h scope) fun s => ?_
    exact .foldTuples (fun t => heval fun _ _ h => index.enter_bare h scope t)
      (fun _ frame t => ih (path ++ [t]) frame) s.tuples ()

theorem executeAll_beside (tables : Table.Source) (ss : List Statement) :
    Beside id (executeAll tables ss) (executeAll tables (ss.map Statement.bare)) := by
  induction ss with
  | nil => exact .pure ()
  | cons s ss ih => exact .bind (s.run_beside tables [] []) fun _ => ih

/-- Statements that are the same without spans, executed in sessions that are the same without
spans, succeed alike and leave sessions that are the same without spans. -/
theorem executeAll_congr (tables : Table.Source) {ss ss' : List Statement}
    (hss : ss.map Statement.bare = ss'.map Statement.bare) {s s' t : Session}
    (hs : s.bare = s'.bare) (h : executeAll tables ss s = (.ok (), t)) :
    ∃ t', executeAll tables ss' s' = (.ok (), t') ∧ t.bare = t'.bare := by
  have hfirst := executeAll_beside tables ss s
  have hsecond := executeAll_beside tables ss' s'
  rw [← hss, ← hs, hfirst, h] at hsecond
  rcases ht' : executeAll tables ss' s' with ⟨_ | _, t'⟩ <;> rw [ht'] at hsecond
  · cases hsecond
  · exact ⟨t', rfl, (Prod.mk.inj hsecond).2⟩

end Statement

end ModelLang
