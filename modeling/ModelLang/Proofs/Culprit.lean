import ModelLang.Eval.Constraint
import ModelLang.Eval.Line
import ModelLang.Proofs.Blame

/-!
# ModelLang.Proofs.Culprit

What declarations, constraints and prints blame for their failures: a span of their own, or one in
the body of a define that was expanded meanwhile.
-/

namespace ModelLang

open Eval

variable {S : Span → Prop} {ctx : Context}

theorem evalOption_blames {α β : Type} {b : Option β} {eval : β → Eval α}
    (h : ∀ a ∈ b, (eval a).Blames S) : (evalOption b eval).Blames S := by
  cases b with
  | none => exact .pure none
  | some b => exact .bind_pure (h b rfl) _

/-! ## Indexed families -/

namespace IndexSet

variable {index : IndexSet} {α : Type} {visit : Scope → Tuple → Eval α}

theorem collect_blames (hctx : ctx.Blames S) (h : index.outline.All S) (scope : Scope)
    (hvisit : ∀ frame t, (visit frame t).Blames S) :
    (index.collect ctx scope visit).Blames S := by
  refine .bind (index.evalSet_blames hctx scope h) fun s _ => ?_
  refine .bind_pure (.foldTuples (fun t => index.enter_blames hctx scope t h) ?_ _ _) _
  intro acc frame t
  exact .bind_pure (hvisit frame t) _

theorem domain_blames (hctx : ctx.Blames S) (h : index.outline.All S) (scope : Scope) :
    (index.domain ctx scope).Blames S := by
  refine .bind (collect_blames hctx h scope fun _ _ => .pure ()) fun entries _ => ?_
  exact located_blames (all_span h) _

theorem optDomain_blames {index : Option IndexSet} (hctx : ctx.Blames S)
    (h : ∀ a ∈ index, a.outline.All S) (scope : Scope) :
    (IndexSet.domain? index ctx scope).Blames S :=
  evalOption_blames fun a ha => domain_blames hctx (h a ha) scope

theorem family_blames (hctx : ctx.Blames S) (h : index.outline.All S) (scope : Scope)
    (hvisit : ∀ frame t, (visit frame t).Blames S) :
    (index.family ctx scope visit).Blames S := by
  refine .bind (collect_blames hctx h scope hvisit) fun entries _ => ?_
  exact .bind_pure (located_blames (all_span h) _) _

theorem forEach_blames {visit : Scope → Tuple → Eval Unit} (hctx : ctx.Blames S)
    (h : index.outline.All S) (scope : Scope) (hvisit : ∀ frame t, (visit frame t).Blames S) :
    (index.forEach ctx scope visit).Blames S := by
  refine .bind (index.evalSet_blames hctx scope h) fun s _ => ?_
  exact .foldTuples (fun t => index.enter_blames hctx scope t h) (fun _ => hvisit) _ _

end IndexSet

/-! ## Values of a kind -/

namespace Expr

variable {e : Expr}

/-- The span of an expression is to blame for what becomes of its value. -/
theorem eval_located_blames {α : Type} (hctx : ctx.Blames S) (h : e.outline.All S) (scope : Scope)
    (convert : Value → Except Cause α) :
    (e.eval ctx scope >>= fun v => located e.span (convert v)).Blames S :=
  .bind (e.eval_blames hctx scope h) fun _ _ => located_blames (all_span h) _

theorem evalInteger_blames (hctx : ctx.Blames S) (h : e.outline.All S) (scope : Scope)
    (op : String) : (e.evalInteger ctx scope op).Blames S :=
  .bind (eval_located_blames hctx h scope _) fun _ _ => located_blames (all_span h) _

end Expr

theorem ReadSpec.all_file {table : ReadSpec} (h : ∀ o ∈ table.outlines, o.All S) :
    S table.file.span := by
  cases table with
  | mk file template options => exact Expr.all_span (List.forall_mem_cons.1 h).1

/-! ## Declarations -/

namespace SetDecl

variable {d : SetDecl} {items : List (Expr × Expr)}

theorem addEntries_blames (hctx : ctx.Blames S)
    (h : ∀ e ∈ items, e.1.outline.All S ∧ e.2.outline.All S) (scope : Scope)
    (domain : Option TupleSet) (entries : List (Tuple × TupleSet)) :
    (d.addEntries ctx scope domain items entries).Blames S := by
  induction items generalizing entries with
  | nil => exact .pure entries
  | cons item items ih =>
    obtain ⟨⟨hkey, hvalue⟩, hitems⟩ := List.forall_mem_cons.1 h
    have hspan := Expr.all_span hkey
    refine .bind (item.1.eval_blames hctx scope hkey) fun k _ => ?_
    refine .bind (located_blames hspan _) fun k _ => ?_
    refine .bind (Expr.eval_located_blames hctx hvalue scope _) fun s _ => ?_
    refine .bind (located_blames hspan _) fun entries _ => ?_
    exact ih hitems entries

theorem eval_blames (hctx : ctx.Blames S) (h : (Statement.set d).outline.All S) (scope : Scope) :
    (d.eval ctx scope).Blames S := by
  rw [Statement.outline, Outline.all_node, parts, List.forall_mem_cons, List.forall_mem_append,
    IndexSet.forall_optOutlines] at h
  obtain ⟨hspan, _, hindex, hbody⟩ := h
  unfold eval
  split
  · rename_i e _ hb
    rw [hb, SetBody.outlines, List.forall_mem_singleton] at hbody
    exact .bind_pure (Expr.eval_located_blames hctx hbody scope _) _
  · rename_i index e hi hb
    rw [hb, SetBody.outlines, List.forall_mem_singleton] at hbody
    exact IndexSet.family_blames hctx (hindex index hi) scope fun frame _ =>
      Expr.eval_located_blames hctx hbody frame _
  · rename_i items hb
    rw [hb, SetBody.outlines, forall_entryOutlines] at hbody
    refine .bind (IndexSet.optDomain_blames hctx hindex scope) fun domain _ => ?_
    exact .bind_pure (addEntries_blames hctx hbody scope domain []) _
  · rename_i set least most hb
    rw [hb, SetBody.outlines, List.forall_mem_cons, List.forall_mem_cons,
      Expr.forall_optOutlines] at hbody
    obtain ⟨hset, hleast, hmost⟩ := hbody
    refine .bind (Expr.eval_located_blames hctx hset scope _) fun s _ => ?_
    refine .bind (Expr.eval_located_blames hctx hleast scope _) fun a _ => ?_
    refine .bind (evalOption_blames fun e he =>
      Expr.eval_located_blames hctx (hmost e he) scope _) fun b _ => ?_
    exact .bind_pure (located_blames hspan _) _
  · rename_i set hb
    rw [hb, SetBody.outlines, List.forall_mem_singleton] at hbody
    refine .bind (Expr.eval_located_blames hctx hbody scope _) fun s _ => ?_
    exact .bind_pure (located_blames hspan _) _

end SetDecl

namespace ParamDecl

variable {d : ParamDecl} {items : List (Expr × Expr)}

theorem addEntries_blames (hctx : ctx.Blames S)
    (h : ∀ e ∈ items, e.1.outline.All S ∧ e.2.outline.All S) (scope : Scope)
    (domain : Option TupleSet) (entries : List (Tuple × Value)) :
    (d.addEntries ctx scope domain items entries).Blames S := by
  induction items generalizing entries with
  | nil => exact .pure entries
  | cons item items ih =>
    obtain ⟨⟨hkey, hvalue⟩, hitems⟩ := List.forall_mem_cons.1 h
    have hspan := Expr.all_span hkey
    refine .bind (item.1.eval_blames hctx scope hkey) fun k _ => ?_
    refine .bind (located_blames hspan _) fun k _ => ?_
    refine .bind (item.2.eval_blames hctx scope hvalue) fun v _ => ?_
    refine .bind (located_blames hspan _) fun entries _ => ?_
    exact ih hitems entries

theorem addCells_blames {cells : List (Elem × Expr)} (hctx : ctx.Blames S)
    (h : ∀ c ∈ cells, c.2.outline.All S) (scope : Scope) (domain : Option TupleSet) (row : Tuple)
    (entries : List (Tuple × Value)) :
    (d.addCells ctx scope domain row cells entries).Blames S := by
  induction cells generalizing entries with
  | nil => exact .pure entries
  | cons cell cells ih =>
    obtain ⟨hvalue, hcells⟩ := List.forall_mem_cons.1 h
    refine .bind (cell.2.eval_blames hctx scope hvalue) fun v _ => ?_
    refine .bind (located_blames (Expr.all_span hvalue) _) fun entries _ => ?_
    exact ih hcells entries

theorem addMatrix_blames {rows : List (List Expr × List Expr)} (hctx : ctx.Blames S)
    (hspan : S d.span) (h : ∀ r ∈ rows, ∀ o ∈ rowOutlines r, o.All S) (scope : Scope)
    (domain : Option TupleSet) (columns : List Elem) (entries : List (Tuple × Value)) :
    (d.addMatrix ctx scope domain columns rows entries).Blames S := by
  induction rows generalizing entries with
  | nil => exact .pure entries
  | cons row rows ih =>
    obtain ⟨hrow, hrows⟩ := List.forall_mem_cons.1 h
    obtain ⟨hkeys, hvalues⟩ := List.forall_mem_append.1 hrow
    rw [Expr.forall_outlines] at hkeys hvalues
    unfold addMatrix
    split
    · exact fail_blames hspan _
    · refine .bind (Expr.concat_blames hctx _ _ scope hkeys) fun key _ => ?_
      have hcells : ∀ c ∈ columns.zip row.2, c.2.outline.All S :=
        fun c hc => hvalues c.2 (List.of_mem_zip hc).2
      refine .bind (addCells_blames hctx hcells scope domain key entries) fun entries _ => ?_
      exact ih hrows entries

/-- A table that adds an entry twice, or one outside the index set, is blamed on the name of its
file. -/
theorem entries_blames (hctx : ctx.Blames S) (hspan : S d.span)
    (hindex : ∀ a ∈ d.index, a.outline.All S) (hbody : ∀ o ∈ d.body.outlines, o.All S)
    (scope : Scope) : (d.entries ctx scope).Blames S := by
  have hdomain := IndexSet.optDomain_blames hctx hindex scope
  unfold entries
  split
  · rename_i e _ hb
    rw [hb, ParamBody.outlines, List.forall_mem_singleton] at hbody
    exact .bind_pure (e.eval_blames hctx scope hbody) _
  · rename_i index e hi hb
    rw [hb, ParamBody.outlines, List.forall_mem_singleton] at hbody
    exact .bind_pure (IndexSet.family_blames hctx (hindex index hi) scope fun frame _ =>
      e.eval_blames hctx frame hbody) _
  · rename_i items hb
    rw [hb, ParamBody.outlines, forall_entryOutlines] at hbody
    refine .bind hdomain fun domain _ => ?_
    exact .bind_pure (addEntries_blames hctx hbody scope domain []) _
  · rename_i columns rows hb
    rw [hb, ParamBody.outlines, List.forall_mem_append, Expr.forall_outlines] at hbody
    have hrows : ∀ r ∈ rows, ∀ o ∈ rowOutlines r, o.All S :=
      fun r hr o ho => hbody.2 o (List.mem_flatMap.2 ⟨r, hr, ho⟩)
    refine .bind hdomain fun domain _ => ?_
    refine .bind (Expr.concat_blames hctx _ _ scope hbody.1) fun columns _ => ?_
    exact .bind_pure (addMatrix_blames hctx hspan hrows scope domain columns []) _
  · rename_i table hb
    rw [hb, ParamBody.outlines] at hbody
    refine .bind hdomain fun domain _ => ?_
    refine .bind (table.rows_blames hctx true scope hbody) fun rows _ => ?_
    exact .bind_pure (located_blames (ReadSpec.all_file hbody) _) _
  · exact .bind_pure hdomain _

theorem eval_blames (hctx : ctx.Blames S) (h : (Statement.param d).outline.All S) (scope : Scope) :
    (d.eval ctx scope).Blames S := by
  rw [Statement.outline, Outline.all_node, parts, List.forall_mem_cons, List.forall_mem_append,
    List.forall_mem_append, IndexSet.forall_optOutlines, Expr.forall_optOutlines] at h
  obtain ⟨hspan, _, ⟨hindex, hbody⟩, hfallback⟩ := h
  refine .bind (evalOption_blames fun e he =>
    e.eval_blames hctx scope (hfallback e he)) fun fallback _ => ?_
  refine .bind (entries_blames hctx hspan hindex hbody scope) fun r _ => ?_
  exact located_blames hspan _

end ParamDecl

namespace VarDecl

variable {d : VarDecl}

theorem all_outline (h : (Statement.var d).outline.All S) :
    S d.span ∧ (∀ a ∈ d.index, a.outline.All S) ∧ (∀ e ∈ d.lower, e.outline.All S) ∧
      (∀ e ∈ d.upper, e.outline.All S) ∧ (∀ e ∈ d.priority, e.outline.All S) ∧
      ∀ e ∈ d.startval, e.outline.All S := by
  simp only [Statement.outline, Outline.all_node, parts, List.forall_mem_cons,
    List.forall_mem_append, IndexSet.forall_optOutlines, Expr.forall_optOutlines] at h
  obtain ⟨hspan, _, ⟨⟨⟨hindex, hlower⟩, hupper⟩, hpriority⟩, hstartval⟩ := h
  exact ⟨hspan, hindex, hlower, hupper, hpriority, hstartval⟩

theorem add_blames (hctx : ctx.Blames S) (h : (Statement.var d).outline.All S) (scope : Scope)
    (name : String) : (d.add ctx scope name).Blames S := by
  obtain ⟨hspan, _, hlower, hupper, hpriority, hstartval⟩ := all_outline h
  refine .bind (evalOption_blames fun e he =>
    Expr.eval_located_blames hctx (hlower e he) scope _) fun lower _ => ?_
  refine .bind (evalOption_blames fun e he =>
    Expr.eval_located_blames hctx (hupper e he) scope _) fun upper _ => ?_
  split
  · exact fail_blames hspan _
  · refine .bind (evalOption_blames fun e he =>
      Expr.evalInteger_blames hctx (hpriority e he) scope _) fun priority _ => ?_
    refine .bind (evalOption_blames fun e he =>
      Expr.eval_located_blames hctx (hstartval e he) scope _) fun startval _ => ?_
    exact onModel_blames hspan _

theorem eval_blames (hctx : ctx.Blames S) (h : (Statement.var d).outline.All S) (scope : Scope) :
    (d.eval ctx scope).Blames S := by
  obtain ⟨_, hindex, _⟩ := all_outline h
  unfold eval
  split
  · exact .bind_pure (add_blames hctx h scope _) _
  · rename_i index hi
    exact IndexSet.family_blames hctx (hindex index hi) scope fun frame _ =>
      add_blames hctx h frame _

end VarDecl

theorem repeatedName?_mem {x : Name} {names : List Name} {seen : List String}
    (h : repeatedName? seen names = some x) : x ∈ names := by
  induction names generalizing seen with
  | nil => cases h
  | cons y names ih =>
    unfold repeatedName? at h
    split at h
    · cases h
      exact List.mem_cons_self
    · exact List.mem_cons_of_mem y (ih h)

theorem DefineDecl.eval_blames {d : DefineDecl} (h : (Statement.define d).outline.All S) :
    d.eval.Blames S := by
  rw [Statement.outline, Outline.all_node, parts, List.forall_mem_cons, List.forall_mem_append,
    List.forall_mem_map] at h
  unfold eval
  split
  · rename_i x hx
    exact fail_blames (h.2.2.1 x (repeatedName?_mem hx)).root _
  · exact .pure _

/-! ## Constraints -/

theorem difference_blames {lhs rhs : Expr} (hctx : ctx.Blames S) (hl : lhs.outline.All S)
    (hr : rhs.outline.All S) (scope : Scope) : (difference lhs rhs ctx scope).Blames S :=
  .bind (Expr.eval_located_blames hctx hl scope _) fun _ _ =>
    .bind_pure (Expr.eval_located_blames hctx hr scope _) _

theorem Branch.eval_blames {b : Branch} (hctx : ctx.Blames S) (h : ∀ o ∈ b.outlines, o.All S)
    (scope : Scope) : (b.eval ctx scope).Blames S := by
  rw [Branch.outlines, List.forall_mem_cons, List.forall_mem_singleton] at h
  exact .bind_pure (difference_blames hctx h.1 h.2 scope) _

/-- Conditions are combined by connectives; anything but a comparison below them is refused. -/
theorem Expr.evalCondition_blames (hctx : ctx.Blames S) (e : Expr) (scope : Scope)
    (h : e.outline.All S) : (e.evalCondition ctx scope).Blames S := by
  have hspan := Expr.all_span h
  cases e with
  | binary op a b span =>
    rw [Expr.outline, Outline.all_node, List.forall_mem_cons, List.forall_mem_singleton] at h
    obtain ⟨_, ha, hb⟩ := h
    have hboth (c : Condition → Condition → Condition) : Eval.Blames S (do
        let x ← a.evalCondition ctx scope
        let y ← b.evalCondition ctx scope
        return c x y) :=
      .bind (a.evalCondition_blames hctx scope ha) fun x _ =>
        .bind_pure (b.evalCondition_blames hctx scope hb) _
    unfold Expr.evalCondition
    split
    · exact hboth .and
    · exact hboth .or
    · exact hboth .xor
    · exact .bind_pure (difference_blames hctx ha hb scope) _
    · exact fail_blames hspan _
  | unary op a span =>
    rw [Expr.outline, Outline.all_node, List.forall_mem_singleton] at h
    cases op with
    | not =>
      unfold Expr.evalCondition
      exact .bind_pure (a.evalCondition_blames hctx scope h.2) _
    | neg | factorial => exact fail_blames hspan _
  | number | infinity | string | name | subscript | call | builtin | tuple | setLiteral | range
  | setBuilder | proj | indexSetOf | aggregate | nonempty | argExtremum | indexedSetOp
  | conditional | read => exact fail_blames hspan _

mutual

theorem Constraint.add_blames (hctx : ctx.Blames S) (base : String) (c : Constraint)
    (path : List Tuple) (scope : Scope) (h : ∀ o ∈ c.outlines, o.All S) :
    (c.add ctx base path scope).Blames S := by
  cases c with
  | plain lhs rel rhs flags =>
    rw [Constraint.outlines, List.forall_mem_cons, List.forall_mem_singleton] at h
    unfold Constraint.add
    refine .bind (difference_blames hctx h.1 h.2 scope) fun t _ => ?_
    exact onModel_blames (Expr.all_span h.1) _
  | range low lowerRel term upperRel high flags =>
    rw [Constraint.outlines, List.forall_mem_cons, List.forall_mem_cons,
      List.forall_mem_singleton] at h
    obtain ⟨hlow, hterm, hhigh⟩ := h
    have hspan := Expr.all_span hterm
    unfold Constraint.add
    split
    · exact fail_blames hspan _
    · refine .bind (Expr.eval_located_blames hctx hlow scope _) fun a _ => ?_
      refine .bind (Expr.eval_located_blames hctx hhigh scope _) fun b _ => ?_
      refine .bind (Expr.eval_located_blames hctx hterm scope _) fun t _ => ?_
      refine .bind (located_blames hspan _) fun row _ => ?_
      exact onModel_blames hspan _
  | vif condition yes no flags =>
    rw [Constraint.outlines, List.forall_mem_cons, List.forall_mem_append] at h
    obtain ⟨hcondition, hyes, hno⟩ := h
    unfold Constraint.add
    refine .bind (condition.evalCondition_blames hctx scope hcondition) fun c _ => ?_
    refine .bind (Branch.eval_blames hctx hyes scope) fun y _ => ?_
    refine .bind (evalOption_blames fun b hb => Branch.eval_blames hctx ?_ scope) fun n _ => ?_
    · intro o ho
      exact hno o (List.mem_flatMap.2 ⟨b, Option.mem_toList.2 hb, ho⟩)
    · exact onModel_blames (Expr.all_span hcondition) _
  | all parts =>
    rw [Constraint.outlines, Constraint.forall_allOutlines] at h
    unfold Constraint.add
    exact Constraint.addAll_blames hctx base parts path scope h
  | each index body =>
    rw [Constraint.outlines, List.forall_mem_cons] at h
    unfold Constraint.add
    exact IndexSet.forEach_blames hctx h.1 scope fun frame t =>
      body.add_blames hctx base (path ++ [t]) frame h.2
  | cond condition yes no =>
    rw [Constraint.outlines, List.forall_mem_cons, List.forall_mem_append] at h
    obtain ⟨hcondition, hyes, hno⟩ := h
    cases no with
    | none =>
      unfold Constraint.add
      refine .bind (Expr.eval_located_blames hctx hcondition scope _) fun c _ => ?_
      split
      · exact yes.add_blames hctx base path scope hyes
      · exact .pure ()
    | some no =>
      unfold Constraint.add
      refine .bind (Expr.eval_located_blames hctx hcondition scope _) fun c _ => ?_
      split
      · exact yes.add_blames hctx base path scope hyes
      · exact no.add_blames hctx base path scope hno

theorem Constraint.addAll_blames (hctx : ctx.Blames S) (base : String) (parts : List Constraint)
    (path : List Tuple) (scope : Scope) (h : ∀ c ∈ parts, ∀ o ∈ c.outlines, o.All S) :
    (Constraint.addAll ctx base parts path scope).Blames S := by
  cases parts with
  | nil =>
    unfold Constraint.addAll
    exact .pure ()
  | cons c parts =>
    obtain ⟨hc, hparts⟩ := List.forall_mem_cons.1 h
    unfold Constraint.addAll
    refine .bind (c.add_blames hctx base path scope hc) fun _ _ => ?_
    exact Constraint.addAll_blames hctx base parts path scope hparts

end

/-! ## Special ordered sets -/

namespace SosBody

theorem evalWeighted_blames {items : List (Expr × Expr)} (hctx : ctx.Blames S)
    (h : ∀ e ∈ items, e.1.outline.All S ∧ e.2.outline.All S) (scope : Scope) :
    (SosBody.evalWeighted ctx scope items).Blames S := by
  induction items with
  | nil => exact .pure []
  | cons item items ih =>
    obtain ⟨⟨hvar, hweight⟩, hitems⟩ := List.forall_mem_cons.1 h
    refine .bind (Expr.eval_located_blames hctx hvar scope _) fun t _ => ?_
    split
    · exact fail_blames (Expr.all_span hvar) _
    · refine .bind (Expr.eval_located_blames hctx hweight scope _) fun q _ => ?_
      exact .bind_pure (ih hitems) _

theorem add_blames {d : SosDecl} (hctx : ctx.Blames S) (hspan : S d.span) (priority : Int)
    (body : SosBody) (path : List Tuple) (scope : Scope) (h : ∀ o ∈ body.outlines, o.All S) :
    (body.add ctx d priority path scope).Blames S := by
  induction body generalizing path scope with
  | weighted items =>
    rw [SosBody.outlines, forall_entryOutlines] at h
    refine .bind (evalWeighted_blames hctx h scope) fun entries _ => ?_
    exact onModel_blames hspan _
  | term e =>
    rw [SosBody.outlines, List.forall_mem_singleton] at h
    refine .bind (Expr.eval_located_blames hctx h scope _) fun t _ => ?_
    split
    · exact fail_blames (Expr.all_span h) _
    · exact onModel_blames hspan _
  | each index body ih =>
    rw [SosBody.outlines, List.forall_mem_cons] at h
    exact IndexSet.forEach_blames hctx h.1 scope fun frame t => ih (path ++ [t]) frame h.2

end SosBody

theorem SosDecl.add_blames {d : SosDecl} (hctx : ctx.Blames S)
    (h : (Statement.sos d).outline.All S) (path : List Tuple) (scope : Scope) :
    (d.add ctx path scope).Blames S := by
  rw [Statement.outline, Outline.all_node, parts, List.forall_mem_cons, List.forall_mem_append,
    Expr.forall_optOutlines] at h
  obtain ⟨hspan, _, hpriority, hbody⟩ := h
  refine .bind (evalOption_blames fun e he =>
    Expr.evalInteger_blames hctx (hpriority e he) scope _) fun priority _ => ?_
  exact d.body.add_blames hctx hspan _ path scope hbody

theorem ObjectiveDecl.set_blames {d : ObjectiveDecl} (hctx : ctx.Blames S)
    (h : (Statement.objective d).outline.All S) (scope : Scope) :
    (d.set ctx scope).Blames S := by
  rw [Statement.outline, Outline.all_node, parts, List.forall_mem_cons,
    List.forall_mem_singleton] at h
  refine .bind (Expr.eval_located_blames hctx h.2.2 scope _) fun t _ => ?_
  exact onModel_blames h.1 _

/-! ## Printed lines -/

theorem Expr.evalLine_blames {items : List Expr} (hctx : ctx.Blames S)
    (h : ∀ e ∈ items, e.outline.All S) (scope : Scope) :
    (Expr.evalLine ctx scope items).Blames S := by
  have hget : Eval.Blames S Step.get :=
    { keeps := fun _ _ => trivial, blames := fun _ _ _ _ hf => by cases hf }
  induction items with
  | nil => exact .pure ""
  | cons e items ih =>
    obtain ⟨he, hitems⟩ := List.forall_mem_cons.1 h
    have hshown : (e.evalShown ctx scope).Blames S := by
      unfold Expr.evalShown
      split
      · exact .bind_pure hget _
      · refine .bind (e.eval_blames hctx scope he) fun v _ => ?_
        exact .bind_pure hget _
    refine .bind hshown fun s _ => ?_
    exact .bind_pure (ih hitems) _

end ModelLang
