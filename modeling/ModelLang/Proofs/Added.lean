import ModelLang.Eval.Constraint
import ModelLang.Eval.Line
import ModelLang.Proofs.Declared

/-!
# ModelLang.Proofs.Added

What constraints and special ordered sets add to the model, and how the objective is set: edits of
it, and nothing else. Their terms are values of expressions, and so they are about variables of the
model; the relation of a range is found from its sides.
-/

namespace ModelLang

open Eval

/-! ## Rows -/

/-- The constants of the sides tell how they bound a term. -/
theorem Relation.sides_of_between? {l r : Number} {rel : Relation}
    (h : Relation.between? l r = .ok rel) : rel.Sides l r := by
  unfold between? at h
  split at h
  · cases h
  · cases h
    rfl
  · cases h
    rfl
  · rename_i hl hr _
    cases h
    split
    · rename_i he
      subst he
      refine ⟨rfl, ?_⟩
      cases l with
      | finite q => exact ⟨q, rfl⟩
      | minusInfinity => exact (hl rfl).elim
      | plusInfinity => exact (hr rfl).elim
    · rename_i hne
      exact ⟨hne, hl, hr⟩

theorem Row.range_wellFormed {n : Nat} {name : String} {t : Term} {low high : Number}
    {flags : ConFlags} {r : Row} (ht : t.Below n) (h : Row.range name t low high flags = .ok r) :
    r.WellFormed n := by
  unfold range at h
  obtain ⟨lhs, _, h⟩ := (bind_eq_ok _ _ _).1 h
  obtain ⟨rhs, _, h⟩ := (bind_eq_ok _ _ _).1 h
  obtain ⟨rel, hrel, h⟩ := (bind_eq_ok _ _ _).1 h
  cases h
  exact ⟨ht, rfl, t.canonical.2, Relation.sides_of_between? hrel⟩

/-! ## Constraints -/

section Statements

variable {symbols : Symbols} {tables : Table.Source} {w : Workspace} {scope : Scope}

theorem Value.below_asSide {n : Nat} {v : Value} {t : Term} (hv : v.Below n)
    (h : v.asSide = .ok t) : t.Below n := by
  unfold asSide at h
  split at h
  · cases h
  · cases h
  · exact below_asTerm hv h

theorem difference_sound (hs : scope.Below w.size) (lhs rhs : Expr) :
    Sound symbols w Term (fun w' t => t.Below w'.size)
      (difference lhs rhs (.ofSymbols symbols tables) scope) := by
  refine .bind (lhs.convert_sound hs lhs.span fun _ _ _ hv ha => Value.below_asSide hv ha) ?_
  intro w₁ a h₁ ha
  refine .bind (rhs.convert_sound (hs.mono h₁.size_le) rhs.span fun _ _ _ hv hb =>
    Value.below_asSide hv hb) ?_
  intro w₂ b h₂ hb
  exact .pure (Term.below_sub (Term.Below.mono ha h₂.size_le) hb)

/-- By recursion along the connectives; every comparison evaluates its sides. -/
theorem Expr.evalCondition_sound : ∀ (e : Expr) {w : Workspace}, scope.Below w.size →
    Sound symbols w Condition (fun _ _ => True)
      (e.evalCondition (.ofSymbols symbols tables) scope)
  | .binary op a b span, w, hs => by
    have hboth (c : Condition → Condition → Condition) :
        Sound symbols w Condition (fun _ _ => True) (do
          let x ← a.evalCondition (.ofSymbols symbols tables) scope
          let y ← b.evalCondition (.ofSymbols symbols tables) scope
          return c x y) :=
      .bind (a.evalCondition_sound hs) fun w₁ x h₁ _ =>
        .bind (b.evalCondition_sound (hs.mono h₁.size_le)) fun w₂ y _ _ => .pure trivial
    unfold Expr.evalCondition
    split
    · exact hboth .and
    · exact hboth .or
    · exact hboth .xor
    · exact .bind (difference_sound hs a b) fun w₁ t _ _ => .pure trivial
    · exact .fail _ _
  | .unary .not a _, w, hs => by
    unfold Expr.evalCondition
    exact .bind (a.evalCondition_sound hs) fun w₁ x _ _ => .pure trivial
  | .unary .neg _ _, _, _ | .unary .factorial _ _, _, _ | .number _ _, _, _ | .infinity _, _, _
  | .string _ _, _, _ | .name _ _, _, _ | .subscript _ _ _, _, _ | .call _ _ _, _, _
  | .builtin _ _ _, _, _ | .tuple _ _, _, _ | .setLiteral _ _, _, _ | .range _ _ _ _ _, _, _
  | .setBuilder _ _ _, _, _ | .proj _ _ _, _, _ | .indexSetOf _ _, _, _
  | .aggregate _ _ _ _, _, _ | .nonempty _ _, _, _ | .argExtremum _ _ _ _ _, _, _
  | .indexedSetOp _ _ _ _, _, _ | .conditional _ _ _ _, _, _ | .read _ _, _, _ => .fail _ _

theorem Branch.eval_sound (b : Branch) (hs : scope.Below w.size) :
    Sound symbols w Requirement (fun _ _ => True) (b.eval (.ofSymbols symbols tables) scope) :=
  .bind (difference_sound hs b.lhs b.rhs) fun _ _ _ _ => .pure trivial

/-- Work for each tuple of an index set. -/
theorem IndexSet.forEach_sound (index : IndexSet) (hs : scope.Below w.size)
    {visit : Scope → Tuple → Eval Unit}
    (hv : ∀ w₁ frame t, w.Changes w₁ → frame.Below w₁.size →
      Sound symbols w₁ Unit (fun _ _ => True) (visit frame t)) :
    Sound symbols w Unit (fun _ _ => True)
      (index.forEach (.ofSymbols symbols tables) scope visit) := by
  refine .bind (index.evalSet_sound hs) fun w₁ s h₁ _ => ?_
  have hs₁ := hs.mono h₁.size_le
  exact (Eval.sound_reasoning symbols tables).foldTuples (fun _ _ => True) (fun _ _ => trivial)
    (fun w₂ t h₂ => index.enter_sound (hs₁.mono h₂.size_le) t)
    (fun _ w₂ frame t h₂ _ hf => hv w₂ frame t (h₁.trans h₂) hf) s.tuples trivial

mutual

theorem Constraint.add_sound (base : String) : ∀ (c : Constraint) (path : List Tuple)
    {scope : Scope} {w : Workspace}, scope.Below w.size →
    Sound symbols w Unit (fun _ _ => True)
      (c.add (.ofSymbols symbols tables) base path scope)
  | .plain lhs rel rhs flags, path, scope, w, hs => by
    unfold Constraint.add
    exact .bind (difference_sound hs lhs rhs) fun w₁ t _ ht =>
      .onModel lhs.span (Build.addLinear_ends _ rel flags ht) fun _ _ _ => trivial
  | .range low lowerRel term upperRel high flags, path, scope, w, hs => by
    unfold Constraint.add
    split
    · exact .fail _ _
    · refine .bind (low.evalNumber_sound hs "range constraint") fun w₁ a h₁ _ => ?_
      have hs₁ := hs.mono h₁.size_le
      refine .bind (high.evalNumber_sound hs₁ "range constraint") fun w₂ b h₂ _ => ?_
      have hs₂ := hs₁.mono h₂.size_le
      refine .bind (term.evalTerm_sound hs₂ "range constraint") fun w₃ t _ ht => ?_
      refine .bind (Q := fun w' r => r.WellFormed w'.size)
        (.located term.span fun _ hr => Row.range_wellFormed ht hr) fun w₄ r _ hr => ?_
      exact .onModel term.span (Build.addRow_ends hr) fun _ _ _ => trivial
  | .vif condition yes no flags, path, scope, w, hs => by
    unfold Constraint.add
    refine .bind (condition.evalCondition_sound hs) fun w₁ c h₁ _ => ?_
    have hs₁ := hs.mono h₁.size_le
    refine .bind (yes.eval_sound hs₁) fun w₂ y h₂ _ => ?_
    have hs₂ := hs₁.mono h₂.size_le
    refine .bind (evalOption_sound no fun b => b.eval_sound hs₂) fun w₃ n _ _ => ?_
    exact .onModel condition.span (Build.conditional_ends _) fun _ _ _ => trivial
  | .all parts, path, scope, w, hs => by
    unfold Constraint.add
    exact Constraint.addAll_sound base parts path hs
  | .each index body, path, scope, w, hs => by
    unfold Constraint.add
    exact index.forEach_sound hs fun w₁ frame t _ hf => body.add_sound base (path ++ [t]) hf
  | .cond condition yes no, path, scope, w, hs => by
    unfold Constraint.add
    refine .bind (condition.evalTruth_sound hs "if") fun w₁ c h₁ _ => ?_
    have hs₁ := hs.mono h₁.size_le
    cases c with
    | true => exact yes.add_sound base path hs₁
    | false =>
      cases no with
      | none => exact .pure trivial
      | some no => exact no.add_sound base path hs₁

theorem Constraint.addAll_sound (base : String) : ∀ (cs : List Constraint) (path : List Tuple)
    {scope : Scope} {w : Workspace}, scope.Below w.size →
    Sound symbols w Unit (fun _ _ => True)
      (Constraint.addAll (.ofSymbols symbols tables) base cs path scope)
  | [], _, _, _, _ => .pure trivial
  | c :: rest, path, scope, w, hs => by
    unfold Constraint.addAll
    refine .bind (c.add_sound base path hs) fun w₁ _ h₁ _ => ?_
    exact Constraint.addAll_sound base rest path (hs.mono h₁.size_le)

end

/-! ## Special ordered sets -/

theorem Term.lt_of_var? {n v : Nat} {t : Term} (ht : t.Below n) (h : t.var? = some v) : v < n := by
  unfold var? at h
  split at h
  · rename_i w q hc
    split at h
    · cases h
      exact ht (v, q) (by simp [hc])
    · cases h
  · cases h

theorem SosBody.evalWeighted_sound (items : List (Expr × Expr)) (hs : scope.Below w.size) :
    Sound symbols w (List (VarId × Rat)) (fun w' es => ∀ e ∈ es, e.1 < w'.size)
      (SosBody.evalWeighted (.ofSymbols symbols tables) scope items) := by
  induction items generalizing w with
  | nil => exact .pure nofun
  | cons item rest ih =>
    obtain ⟨var, weight⟩ := item
    refine .bind (var.evalTerm_sound hs "sos") fun w₁ t h₁ ht => ?_
    have hs₁ := hs.mono h₁.size_le
    split
    · exact .fail _ _
    · rename_i v hv
      refine .bind (weight.evalRat_sound hs₁ "sos weight") fun w₂ q h₂ _ => ?_
      refine .bind (ih (hs₁.mono h₂.size_le)) fun w₃ es h₃ he => .pure ?_
      have hlt : v < w₃.size :=
        (Term.lt_of_var? ht hv).trans_le (Workspace.Changes.size_le (h₂.trans h₃))
      exact List.forall_mem_cons.2 ⟨hlt, he⟩

theorem SosBody.add_sound (d : SosDecl) (priority : Int) (body : SosBody) (path : List Tuple)
    (hs : scope.Below w.size) :
    Sound symbols w Unit (fun _ _ => True)
      (body.add (.ofSymbols symbols tables) d priority path scope) := by
  induction body generalizing w scope path with
  | each index body ih => exact index.forEach_sound hs fun w₁ frame t _ hf => ih (path ++ [t]) hf
  | weighted items =>
    exact .bind (SosBody.evalWeighted_sound items hs) fun w₁ es _ he =>
      .onModel d.span (Build.addSos_ends he) fun _ _ _ => trivial
  | term e =>
    refine .bind (e.evalTerm_sound hs "sos") fun w₁ t _ ht => ?_
    split
    · exact .fail _ _
    · exact .onModel d.span (Build.addSos_ends ht) fun _ _ _ => trivial

theorem SosDecl.add_sound (d : SosDecl) (path : List Tuple) (hs : scope.Below w.size) :
    Sound symbols w Unit (fun _ _ => True)
      (d.add (.ofSymbols symbols tables) path scope) := by
  refine .bind (evalOption_sound d.priority fun e => e.evalInteger_sound hs "priority") ?_
  intro w₁ priority h₁ _
  exact d.body.add_sound d _ path (hs.mono h₁.size_le)

/-! ## The objective and what is printed -/

/-- Setting the objective is an edit, but not an addition. -/
theorem ObjectiveDecl.set_ends (d : ObjectiveDecl) (hsymbols : symbols.Below w.size)
    (hs : scope.Below w.size) :
    (d.set (.ofSymbols symbols tables) scope).Ends Workspace.Revision w fun _ _ => True := by
  have hterm : (d.term.evalTerm (.ofSymbols symbols tables) scope "objective").Ends
      Workspace.Revision w fun w' t => t.Below w'.size :=
    (d.term.evalTerm_sound hs "objective" hsymbols).mono fun _ _ h => h.revision
  refine hterm.bind fun w₁ t _ ht => Step.Ends.mapError ?_
  have hset : (Build.setObjective ⟨d.sense, d.name.text, t⟩).Ends Model.Edit w₁.model
      fun _ _ => True := Build.setObjective_ends ht
  exact hset.onPart rfl (fun _ _ h => Relation.ReflGen.single h) fun _ _ h => h

theorem Expr.evalShown_sound (e : Expr) (hs : scope.Below w.size) :
    Sound symbols w String (fun _ _ => True)
      (e.evalShown (.ofSymbols symbols tables) scope) := by
  have hget {w : Workspace} : Sound symbols w Workspace (fun _ _ => True) Step.get :=
    fun _ => ⟨.refl, fun _ _ => trivial⟩
  unfold evalShown
  split
  · exact .bind hget fun w₁ _ _ _ => .pure trivial
  · refine .bind (e.eval_sound hs) fun w₁ v _ _ => ?_
    exact .bind hget fun w₂ _ _ _ => .pure trivial

theorem Expr.evalLine_sound (es : List Expr) (hs : scope.Below w.size) :
    Sound symbols w String (fun _ _ => True)
      (Expr.evalLine (.ofSymbols symbols tables) scope es) := by
  induction es generalizing w with
  | nil => exact .pure trivial
  | cons e rest ih =>
    refine .bind (e.evalShown_sound hs) fun w₁ s h₁ _ => ?_
    exact .bind (ih (hs.mono h₁.size_le)) fun w₂ line _ _ => .pure trivial

end Statements

end ModelLang
