import ModelLang.Eval.Expr
import ModelLang.Proofs.Outline

/-!
# ModelLang.Proofs.Blame

What evaluation blames for its failures. A failing evaluation of an expression reports a span of the
expression, or of the body of a define that was expanded meanwhile (`Expr.eval_blames`).
-/

namespace ModelLang

/-! ## Computations -/

namespace Step

variable {σ α β : Type} {I : σ → Prop} {S : Span → Prop}

/-- Some run of the computation has this result. -/
def Returns {ε : Type} (x : Step σ ε α) (a : α) : Prop :=
  ∃ s s', x s = (.ok a, s')

/-- From states with `I` the computation leads to such states again, and every failure of it there
lies at a span with `S`. -/
structure Guards (I : σ → Prop) (S : Span → Prop) (x : Step σ Failure α) : Prop where
  keeps : ∀ s, I s → I (x s).2
  blames : ∀ s f s', I s → x s = (.error f, s') → S f.span

namespace Guards

theorem pure (a : α) : (Pure.pure a : Step σ Failure α).Guards I S where
  keeps _ hs := hs
  blames s f s' _ h := by cases h

theorem fail {cause : Cause} {span : Span} (h : S span) :
    (Step.fail ⟨cause, span⟩ : Step σ Failure α).Guards I S where
  keeps _ hs := hs
  blames s f s' _ hf := by
    cases hf
    exact h

theorem bind {x : Step σ Failure α} {f : α → Step σ Failure β} (hx : x.Guards I S)
    (hf : ∀ a, x.Returns a → (f a).Guards I S) : (x >>= f).Guards I S where
  keeps s hs := by
    have hkept := hx.keeps s hs
    rw [bind_apply]
    rcases h : x s with ⟨e | a, s₁⟩
    · rw [h] at hkept
      exact hkept
    · rw [h] at hkept
      exact (hf a ⟨s, s₁, h⟩).keeps s₁ hkept
  blames s e s' hs h := by
    rcases bind_eq_error.1 h with hfails | ⟨a, s₁, ha, hfails⟩
    · exact hx.blames s e s' hs hfails
    · have hkept := hx.keeps s hs
      rw [ha] at hkept
      exact (hf a ⟨s, s₁, ha⟩).blames s₁ e s' hkept hfails

/-- Nothing but the first part can fail. -/
theorem bind_pure {x : Step σ Failure α} (hx : x.Guards I S) (f : α → β) :
    (x >>= fun a => Pure.pure (f a)).Guards I S :=
  hx.bind fun _ _ => pure _

theorem foldTuples {enter : Tuple → Step σ Failure (Option Scope)}
    {visit : β → Scope → Tuple → Step σ Failure β} (he : ∀ t, (enter t).Guards I S)
    (hv : ∀ acc frame t, (visit acc frame t).Guards I S) (ts : List Tuple) (acc : β) :
    (ModelLang.foldTuples enter visit ts acc).Guards I S := by
  induction ts generalizing acc with
  | nil => exact pure acc
  | cons t ts ih =>
    refine (he t).bind fun r _ => ?_
    cases r with
    | none => exact ih acc
    | some frame => exact (hv acc frame t).bind fun acc _ => ih acc

theorem anyTuple {enter : Tuple → Step σ Failure (Option Scope)} (he : ∀ t, (enter t).Guards I S)
    (ts : List Tuple) : (ModelLang.anyTuple enter ts).Guards I S := by
  induction ts with
  | nil => exact pure false
  | cons t ts ih =>
    refine (he t).bind fun r _ => ?_
    cases r with
    | none => exact ih
    | some frame => exact pure true

end Guards

end Step

namespace Eval

variable {α : Type} {S : Span → Prop} {span : Span}

/-- Every failure of the evaluation lies at a span with `S`. -/
abbrev Blames (S : Span → Prop) (x : Eval α) : Prop :=
  x.Guards (fun _ => True) S

theorem located_blames (h : S span) (x : Except Cause α) : (located span x).Blames S := by
  cases x with
  | ok a => exact .pure a
  | error cause => exact .fail h

theorem fail_blames (h : S span) (cause : Cause) : (fail cause span : Eval α).Blames S :=
  .fail h

theorem onModel_blames (h : S span) (x : Build α) : (onModel span x).Blames S where
  keeps _ _ := trivial
  blames w f w' _ hf := by
    unfold onModel Step.mapError Step.onPart at hf
    rcases hx : x w.model with ⟨cause | a, m⟩ <;> rw [hx] at hf <;> cases hf
    exact h

theorem nextRandom_blames : nextRandom.Blames S where
  keeps _ _ := trivial
  blames w f w' _ hf := by cases hf

/-- The span of a value is to blame for what becomes of the value. -/
theorem convertOr_blames {v : Option (Value × Span)} (h : ∀ x ∈ v, S x.2) (fallback : α)
    (convert : Value → Except Cause α) : (convertOr fallback convert v).Blames S := by
  cases v with
  | none => exact .pure fallback
  | some x => exact located_blames (h x rfl) (convert x.1)

end Eval

theorem Builtin.call_blames {S : Span → Prop} {span : Span} (h : S span) (f : Builtin)
    (args : List Value) : (f.call args span).Blames S := by
  unfold Builtin.call
  split
  · refine .bind (Eval.located_blames h _) fun bounds _ => ?_
    refine .bind Eval.nextRandom_blames fun sample _ => ?_
    exact .bind_pure (Eval.located_blames h _) _
  · exact .bind_pure (Eval.onModel_blames h _) _
  · exact Eval.located_blames h _

/-! ## Expressions -/

/-- The bodies of the defines that the context expands fail at spans with `S`. -/
def Context.Blames (S : Span → Prop) (ctx : Context) : Prop :=
  ∀ x n d scope, ctx.callee x n = .ok d → (ctx.expand x d scope).Blames S

theorem Outline.All.root {S : Span → Prop} {o : Outline} (h : o.All S) : S o.root := by
  cases o with
  | node span parts => exact (Outline.all_node.1 h).1

section Expressions

open Eval

variable {S : Span → Prop} {ctx : Context}

theorem Expr.all_span {e : Expr} (h : e.outline.All S) : S e.span :=
  e.root_outline ▸ h.root

theorem IndexSet.all_span {index : IndexSet} (h : index.outline.All S) : S index.span :=
  index.root_outline ▸ h.root

theorem IndexSet.all_mk {pattern : Option (List Expr)} {set : Expr} {condition : Option Expr}
    {span : Span} : (IndexSet.mk pattern set condition span).outline.All S ↔
      S span ∧ (∀ items ∈ pattern, ∀ e ∈ items, e.outline.All S) ∧ set.outline.All S ∧
        ∀ c ∈ condition, c.outline.All S := by
  cases pattern with
  | none => simp [IndexSet.outline, Outline.all_node]
  | some items =>
    simp only [IndexSet.outline, Outline.all_node, List.forall_mem_append, List.forall_mem_cons,
      Expr.forall_outlines, Expr.forall_optOutlines, Option.mem_some_iff, forall_eq']

/-- The span that comes with an optional value is that of the expression. -/
theorem Expr.optional_returns {e : Option Expr} {scope : Scope} {v : Option (Value × Span)}
    (hv : (Expr.optional ctx e scope).Returns v) (h : ∀ a ∈ e, a.outline.All S) :
    ∀ x ∈ v, S x.2 := by
  obtain ⟨w, w', hw⟩ := hv
  cases e with
  | none =>
    cases hw
    intro x hx
    cases hx
  | some e =>
    obtain ⟨a, w₁, _, hpure⟩ := Step.bind_eq_ok.1 hw
    cases hpure
    intro x hx
    cases hx
    exact Expr.all_span (h e rfl)

mutual

theorem Expr.eval_blames (hctx : ctx.Blames S) (e : Expr) (scope : Scope) (h : e.outline.All S) :
    (e.eval ctx scope).Blames S := by
  cases e with
  | number q span | infinity span | string s span => exact .pure _
  | name x span =>
    unfold Expr.eval
    split
    · exact .pure _
    · exact located_blames h.root _
  | subscript x args span =>
    obtain ⟨hspan, hargs⟩ := Outline.all_node.1 h
    rw [Expr.forall_outlines] at hargs
    refine .bind (Expr.concat_blames hctx _ args scope hargs) fun index _ => ?_
    exact located_blames hspan _
  | call x args span =>
    obtain ⟨hspan, hargs⟩ := Outline.all_node.1 h
    refine .bind (located_blames hspan _) fun d hd => ?_
    refine .bind (Expr.values_blames hctx args scope (Expr.forall_outlines.1 hargs)) fun vs _ => ?_
    obtain ⟨w, w', hd⟩ := hd
    refine .bind (hctx x _ d _ (located_ok hd).1) fun v _ => ?_
    split
    · exact .pure v
    · exact fail_blames hspan _
  | builtin f args span =>
    obtain ⟨hspan, hargs⟩ := Outline.all_node.1 h
    refine .bind (Expr.values_blames hctx args scope (Expr.forall_outlines.1 hargs)) fun vs _ => ?_
    exact f.call_blames hspan vs
  | tuple items span =>
    obtain ⟨_, hitems⟩ := Outline.all_node.1 h
    exact .bind_pure (Expr.concat_blames hctx _ items scope (Expr.forall_outlines.1 hitems)) _
  | setLiteral items span =>
    obtain ⟨_, hitems⟩ := Outline.all_node.1 h
    rw [Expr.forall_outlines] at hitems
    exact .bind_pure (Expr.members_blames hctx items scope .empty hitems) _
  | range first last step closed span =>
    rw [Expr.outline, Outline.all_node, List.forall_mem_cons, List.forall_mem_cons,
      Expr.forall_optOutlines] at h
    obtain ⟨hspan, hfirst, hlast, hstep⟩ := h
    refine .bind (first.eval_blames hctx scope hfirst) fun a _ => ?_
    refine .bind (located_blames (Expr.all_span hfirst) _) fun a _ => ?_
    refine .bind (last.eval_blames hctx scope hlast) fun b _ => ?_
    refine .bind (located_blames (Expr.all_span hlast) _) fun b _ => ?_
    refine .bind (Expr.optional_blames hctx step scope hstep) fun s hs => ?_
    refine .bind (convertOr_blames (Expr.optional_returns hs hstep) _ _) fun s _ => ?_
    exact .bind_pure (located_blames hspan _) _
  | setBuilder index member span =>
    rw [Expr.outline, Outline.all_node, List.forall_mem_cons, Expr.forall_optOutlines] at h
    obtain ⟨_, hindex, hmember⟩ := h
    refine .bind (index.evalSet_blames hctx scope hindex) fun s _ => ?_
    refine .bind_pure (.foldTuples (fun t => index.enter_blames hctx scope t hindex) ?_ _ _) _
    intro acc frame t
    refine .bind (Expr.optional_blames hctx member frame hmember) fun m hm => ?_
    refine .bind (convertOr_blames (Expr.optional_returns hm hmember) _ _) fun m _ => ?_
    exact located_blames (IndexSet.all_span hindex) _
  | proj set positions span =>
    rw [Expr.outline, Outline.all_node, List.forall_mem_cons, List.forall_mem_singleton] at h
    obtain ⟨hspan, hset, hpositions⟩ := h
    refine .bind (set.eval_blames hctx scope hset) fun s _ => ?_
    refine .bind (located_blames (Expr.all_span hset) _) fun s _ => ?_
    refine .bind (positions.eval_blames hctx scope hpositions) fun ps _ => ?_
    refine .bind (located_blames (Expr.all_span hpositions) _) fun ps _ => ?_
    exact .bind_pure (located_blames hspan _) _
  | indexSetOf x span =>
    rw [Expr.outline, Outline.all_node, List.forall_mem_singleton] at h
    exact located_blames h.2.root _
  | binary op lhs rhs span =>
    rw [Expr.outline, Outline.all_node, List.forall_mem_cons, List.forall_mem_singleton] at h
    obtain ⟨hspan, hlhs, hrhs⟩ := h
    unfold Expr.eval
    split
    · refine .bind (lhs.eval_blames hctx scope hlhs) fun a _ => ?_
      refine .bind (located_blames (Expr.all_span hlhs) _) fun a _ => ?_
      split
      · exact .pure _
      · refine .bind (rhs.eval_blames hctx scope hrhs) fun b _ => ?_
        exact .bind_pure (located_blames (Expr.all_span hrhs) _) _
    · refine .bind (lhs.eval_blames hctx scope hlhs) fun a _ => ?_
      refine .bind (rhs.eval_blames hctx scope hrhs) fun b _ => ?_
      exact located_blames hspan _
  | unary op arg span =>
    rw [Expr.outline, Outline.all_node, List.forall_mem_singleton] at h
    refine .bind (arg.eval_blames hctx scope h.2) fun v _ => ?_
    exact located_blames h.1 _
  | aggregate kind index body span =>
    rw [Expr.outline, Outline.all_node, List.forall_mem_cons, List.forall_mem_singleton] at h
    obtain ⟨hspan, hindex, hbody⟩ := h
    refine .bind (index.evalSet_blames hctx scope hindex) fun s _ => ?_
    refine .bind (.foldTuples (fun t => index.enter_blames hctx scope t hindex) ?_ _ _)
      fun r _ => ?_
    · intro acc frame t
      refine .bind (body.eval_blames hctx frame hbody) fun v _ => ?_
      exact .bind_pure (located_blames (Expr.all_span hbody) _) _
    · cases r with
      | none => exact fail_blames hspan _
      | some v => exact .pure v
  | nonempty index span =>
    rw [Expr.outline, Outline.all_node, List.forall_mem_singleton] at h
    refine .bind (index.evalSet_blames hctx scope h.2) fun s _ => ?_
    exact .bind_pure (.anyTuple (fun t => index.enter_blames hctx scope t h.2) _) _
  | argExtremum greatest count index body span =>
    rw [Expr.outline, Outline.all_node, List.forall_mem_append, Expr.forall_optOutlines,
      List.forall_mem_cons, List.forall_mem_singleton] at h
    obtain ⟨hspan, hcount, hindex, hbody⟩ := h
    refine .bind (Expr.optional_blames hctx count scope hcount) fun k hk => ?_
    refine .bind (convertOr_blames (Expr.optional_returns hk hcount) _ _) fun k _ => ?_
    refine .bind (index.evalSet_blames hctx scope hindex) fun s _ => ?_
    refine .bind (.foldTuples (fun t => index.enter_blames hctx scope t hindex) ?_ _ _)
      fun r _ => ?_
    · intro acc frame t
      refine .bind (body.eval_blames hctx frame hbody) fun v _ => ?_
      exact .bind_pure (located_blames (Expr.all_span hbody) _) _
    · exact .bind_pure (located_blames hspan _) _
  | indexedSetOp op index body span =>
    rw [Expr.outline, Outline.all_node, List.forall_mem_cons, List.forall_mem_singleton] at h
    obtain ⟨_, hindex, hbody⟩ := h
    have hspan := Expr.all_span hbody
    refine .bind (index.evalSet_blames hctx scope hindex) fun s _ => ?_
    refine .bind_pure (.foldTuples (fun t => index.enter_blames hctx scope t hindex) ?_ _ _) _
    intro acc frame t
    refine .bind (body.eval_blames hctx frame hbody) fun v _ => ?_
    refine .bind (located_blames hspan _) fun b _ => ?_
    cases acc with
    | none => exact .pure _
    | some a => exact .bind_pure (located_blames hspan _) _
  | conditional condition yes no span =>
    rw [Expr.outline, Outline.all_node, List.forall_mem_cons, List.forall_mem_cons,
      List.forall_mem_singleton] at h
    obtain ⟨_, hcondition, hyes, hno⟩ := h
    refine .bind (condition.eval_blames hctx scope hcondition) fun c _ => ?_
    refine .bind (located_blames (Expr.all_span hcondition) _) fun c _ => ?_
    split
    · exact yes.eval_blames hctx scope hyes
    · exact no.eval_blames hctx scope hno
  | read table span =>
    rw [Expr.outline, Outline.all_node] at h
    refine .bind (table.rows_blames hctx false scope h.2) fun rows _ => ?_
    exact .bind_pure (located_blames h.1 _) _

theorem Expr.values_blames (hctx : ctx.Blames S) (es : List Expr) (scope : Scope)
    (h : ∀ e ∈ es, e.outline.All S) : (Expr.values ctx es scope).Blames S := by
  cases es with
  | nil => exact .pure []
  | cons e es =>
    obtain ⟨he, hes⟩ := List.forall_mem_cons.1 h
    refine .bind (e.eval_blames hctx scope he) fun v _ => ?_
    exact .bind_pure (Expr.values_blames hctx es scope hes) _

theorem Expr.concat_blames (hctx : ctx.Blames S) (convert : Value → Except Cause Tuple)
    (es : List Expr) (scope : Scope) (h : ∀ e ∈ es, e.outline.All S) :
    (Expr.concat ctx convert es scope).Blames S := by
  cases es with
  | nil => exact .pure []
  | cons e es =>
    obtain ⟨he, hes⟩ := List.forall_mem_cons.1 h
    refine .bind (e.eval_blames hctx scope he) fun v _ => ?_
    refine .bind (located_blames (Expr.all_span he) _) fun t _ => ?_
    exact .bind_pure (Expr.concat_blames hctx convert es scope hes) _

theorem Expr.optional_blames (hctx : ctx.Blames S) (e : Option Expr) (scope : Scope)
    (h : ∀ a ∈ e, a.outline.All S) : (Expr.optional ctx e scope).Blames S := by
  cases e with
  | none => exact .pure none
  | some e => exact .bind_pure (e.eval_blames hctx scope (h e rfl)) _

theorem Expr.members_blames (hctx : ctx.Blames S) (es : List Expr) (scope : Scope) (s : TupleSet)
    (h : ∀ e ∈ es, e.outline.All S) : (Expr.members ctx es scope s).Blames S := by
  cases es with
  | nil => exact .pure s
  | cons e es =>
    obtain ⟨he, hes⟩ := List.forall_mem_cons.1 h
    have hspan := Expr.all_span he
    refine .bind (e.eval_blames hctx scope he) fun v _ => ?_
    refine .bind (located_blames hspan _) fun t _ => ?_
    refine .bind (located_blames hspan _) fun s _ => ?_
    exact Expr.members_blames hctx es scope s hes

theorem Expr.matchTuple_blames (hctx : ctx.Blames S) (items : List Expr) (t : Tuple) (scope : Scope)
    (h : ∀ e ∈ items, e.outline.All S) : (Expr.matchTuple ctx items t scope).Blames S := by
  cases items with
  | nil => exact .pure _
  | cons item items =>
    obtain ⟨hitem, hitems⟩ := List.forall_mem_cons.1 h
    cases t with
    | nil => exact .pure _
    | cons c cs =>
      unfold Expr.matchTuple
      split
      · exact Expr.matchTuple_blames hctx items cs _ hitems
      · refine .bind (item.eval_blames hctx scope hitem) fun v _ => ?_
        refine .bind (located_blames (Expr.all_span hitem) _) fun e _ => ?_
        split
        · exact Expr.matchTuple_blames hctx items cs scope hitems
        · exact .pure none

theorem IndexSet.evalSet_blames (hctx : ctx.Blames S) (index : IndexSet) (scope : Scope)
    (h : index.outline.All S) : (index.evalSet ctx scope).Blames S := by
  cases index with
  | mk pattern set condition span =>
    obtain ⟨_, _, hset, _⟩ := IndexSet.all_mk.1 h
    refine .bind (set.eval_blames hctx scope hset) fun s _ => ?_
    exact located_blames (Expr.all_span hset) _

theorem Expr.matchPattern_blames (hctx : ctx.Blames S) (pattern : Option (List Expr)) (span : Span)
    (t : Tuple) (scope : Scope) (hspan : S span)
    (h : ∀ items ∈ pattern, ∀ e ∈ items, e.outline.All S) :
    (Expr.matchPattern ctx pattern span t scope).Blames S := by
  cases pattern with
  | none => exact .pure _
  | some items =>
    unfold Expr.matchPattern
    split
    · exact fail_blames hspan _
    · exact Expr.matchTuple_blames hctx items t scope (h items rfl)

theorem IndexSet.enter_blames (hctx : ctx.Blames S) (index : IndexSet) (scope : Scope) (t : Tuple)
    (h : index.outline.All S) : (index.enter ctx scope t).Blames S := by
  cases index with
  | mk pattern set condition span =>
    obtain ⟨hspan, hpattern, _, hcondition⟩ := IndexSet.all_mk.1 h
    refine .bind (Expr.matchPattern_blames hctx pattern span t scope hspan hpattern) fun r _ => ?_
    cases r with
    | none => exact .pure none
    | some frame =>
      refine .bind (Expr.optional_blames hctx condition frame hcondition) fun c hc => ?_
      exact .bind_pure (convertOr_blames (Expr.optional_returns hc hcondition) _ _) _

theorem ReadSpec.rows_blames (hctx : ctx.Blames S) (withValue : Bool) (table : ReadSpec)
    (scope : Scope) (h : ∀ o ∈ table.outlines, o.All S) :
    (table.rows ctx withValue scope).Blames S := by
  cases table with
  | mk file template options =>
    rw [ReadSpec.outlines, List.forall_mem_cons, List.forall_mem_cons,
      ReadOption.forall_outlines] at h
    obtain ⟨hfile, htemplate, hoptions⟩ := h
    have hspan := Expr.all_span hfile
    have hspan' := Expr.all_span htemplate
    refine .bind (file.eval_blames hctx scope hfile) fun name _ => ?_
    refine .bind (located_blames hspan _) fun name _ => ?_
    refine .bind (template.eval_blames hctx scope htemplate) fun text _ => ?_
    refine .bind (located_blames hspan' _) fun text _ => ?_
    refine .bind (located_blames hspan' _) fun columns _ => ?_
    refine .bind (ReadOption.setAll_blames hctx options scope .default hoptions) fun options _ => ?_
    exact located_blames hspan _

theorem ReadOption.setAll_blames (hctx : ctx.Blames S) (items : List ReadOption) (scope : Scope)
    (options : Table.Options) (h : ∀ a ∈ items, a.value.outline.All S) :
    (ReadOption.setAll ctx items scope options).Blames S := by
  cases items with
  | nil => exact .pure options
  | cons item items =>
    cases item with
    | mk key e =>
      obtain ⟨he, hitems⟩ := List.forall_mem_cons.1 h
      refine .bind (e.eval_blames hctx scope he) fun v _ => ?_
      refine .bind (located_blames (Expr.all_span he) _) fun options _ => ?_
      exact ReadOption.setAll_blames hctx items scope options hitems

end

end Expressions

end ModelLang
