import ModelLang.Proofs.Run

/-!
# ModelLang.Proofs.WellFormed

Models stay well formed. Rows, special ordered sets and the objective mention variables of the
model only, the sides of a row go with its relation and the bounds of a variable with its kind, and
the coefficients that the variables know are those of the objective, whether they were added before
it or after. Every edit of a model keeps this (`Model.Edit.wellFormed`), and so does every run of
statements.
-/

namespace ModelLang

namespace Model

/-- The coefficient of a variable in the objective, zero as long as none is set. -/
def objectiveCoef (m : Model) (v : VarId) : Rat :=
  match m.objective with
  | none => 0
  | some o => o.term.coef v

structure WellFormed (m : Model) : Prop where
  rows : ∀ r ∈ m.rows, r.WellFormed m.vars.size
  sos : ∀ s ∈ m.sos, ∀ e ∈ s.entries, e.1 < m.vars.size
  objective : ∀ o ∈ m.objective, o.term.Below m.vars.size
  vars : ∀ v x, m.get? v = some x → x.WellFormed ∧ x.objective = m.objectiveCoef v

theorem wellFormed_empty : WellFormed .empty where
  rows _ hr := absurd hr List.not_mem_nil
  sos _ hs := absurd hs List.not_mem_nil
  objective _ ho := absurd ho (Option.not_mem_none _)
  vars v x h := by simp [get?, empty] at h

variable {m m' : Model}

/-- A variable that is not there yet has no coefficient. -/
theorem WellFormed.objectiveCoef_size (h : m.WellFormed) : m.objectiveCoef m.vars.size = 0 := by
  unfold objectiveCoef
  split
  · rfl
  · rename_i o ho
    refine Coefs.get_of_absent fun c hc => ?_
    exact (h.objective o ho c hc).ne

theorem Edit.wellFormed (h : m.Edit m') (hm : m.WellFormed) : m'.WellFormed := by
  cases h with
  | @«variable» x hx ho =>
    have hle : m.vars.size ≤ (m.addVariable x).2.vars.size := by
      rw [addVariable_size]
      omega
    refine ⟨fun r hr => (hm.rows r hr).mono hle, fun s hs e he => (hm.sos s hs e he).trans_le hle,
      fun o ho => (hm.objective o ho).mono hle, fun v y hy => ?_⟩
    change (m.vars.push _)[v]? = some y at hy
    change _ ∧ y.objective = m.objectiveCoef v
    rw [Array.getElem?_push] at hy
    split at hy
    · rename_i hv
      cases hy
      subst hv
      exact ⟨⟨hx.binary, hx.whole⟩, ho.trans hm.objectiveCoef_size.symm⟩
    · exact hm.vars v y hy
  | @row r hr =>
    refine ⟨?_, hm.sos, hm.objective, hm.vars⟩
    refine List.forall_mem_append.2 ⟨hm.rows, List.forall_mem_singleton.2 ?_⟩
    exact ⟨hr.below, hr.constant, hr.nonzero, hr.sides⟩
  | @sos s hs =>
    refine ⟨hm.rows, ?_, hm.objective, hm.vars⟩
    exact List.forall_mem_append.2 ⟨hm.sos, List.forall_mem_singleton.2 hs⟩
  | @objective _ o ht h =>
    obtain ⟨hnone, rfl⟩ := setObjective_ok h
    have hsize := addObjective_size o.term.coefs m.vars
    refine ⟨?_, ?_, ?_, fun v y hy => ?_⟩
    · intro r hr
      exact (hm.rows r hr).mono hsize.ge
    · intro s hs e he
      exact (hm.sos s hs e he).trans_le hsize.ge
    · rintro _ ⟨⟩
      exact ht.mono hsize.ge
    · change (addObjective o.term.coefs m.vars)[v]? = some y at hy
      rw [addObjective_getElem? o.term.canonical] at hy
      obtain ⟨x, hx, rfl⟩ := Option.map_eq_some_iff.1 hy
      obtain ⟨hw, hzero⟩ := hm.vars v x hx
      refine ⟨⟨hw.binary, hw.whole⟩, ?_⟩
      have hx0 : x.objective = 0 := by
        rw [hzero, objectiveCoef, hnone]
      show x.objective + o.term.coefs.get v = o.term.coef v
      rw [hx0, zero_add]
      rfl

end Model

theorem Session.after_model_wellFormed (random : Random)
    (history : List (Table.Source × Statement)) : (after random history).model.WellFormed :=
  preserved_of_changes (fun _ _ h => h.wellFormed) (after_edits random history)
    Model.wellFormed_empty

/-- What a text compiles to is well formed. -/
theorem compile_wellFormed {tables : Table.Source} {random : Random} {text : List Char} {m : Model}
    (h : compile tables random text = .ok m) : m.WellFormed := by
  rw [compile] at h
  split at h
  · cases h
  · rename_i program _
    obtain ⟨k, hk⟩ := program.run_after tables random
    rcases hrun : program.run tables random with ⟨e | _, s⟩
    · rw [hrun] at h
      cases h
    · rw [hrun] at h hk
      cases h
      rw [show s = _ from hk]
      exact Session.after_model_wellFormed random _

/-- After any statements, each of which may have failed, the model is well formed, the members of
families are variables of it, and expressions have values about variables of it; the model that
their evaluation leaves is well formed again. -/
theorem Session.after_wellFormed (random : Random) (history : List (Table.Source × Statement)) :
    (after random history).model.WellFormed ∧
      (∀ x f, (x, Symbol.var f) ∈ (after random history).symbols →
        f.All (· < (after random history).model.vars.size)) ∧
      ∀ (tables : Table.Source) (e : Expr) (scope : Scope) (r : Except Failure Value)
        (w : Workspace), scope.Below (after random history).model.vars.size →
        e.eval (.ofSymbols (after random history).symbols tables) scope
          (after random history).work = (r, w) →
        w.model.WellFormed ∧ ∀ v, r = .ok v → v.Below w.model.vars.size := by
  have hwf := after_model_wellFormed random history
  refine ⟨hwf, fun x f hf => after_below random history _ hf, ?_⟩
  intro tables e scope r w hs he
  have hends : (e.eval (.ofSymbols (after random history).symbols tables) scope).Ends
      Workspace.Change (after random history).work fun w' v => v.Below w'.size :=
    e.eval_sound hs (after_below random history)
  have hedits := Workspace.Changes.edits hends.changes
  have hvalue := hends.result
  rw [he] at hedits hvalue
  exact ⟨preserved_of_changes (fun _ _ h => h.wellFormed) hedits hwf, hvalue⟩

end ModelLang
