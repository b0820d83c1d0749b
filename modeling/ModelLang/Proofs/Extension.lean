import Mathlib.Data.List.Infix
import ModelLang.Proofs.Families

/-!
# ModelLang.Proofs.Extension

Statements only extend a session, whether they succeed or fail. What one change adds to the model
stands behind what was there (`Model.Edit.extends`); of the variables that were there only the
coefficients in the objective may differ, in the change that sets it. A statement that is not a loop
declares, prints or counts as the last thing that it does, and sets the objective as the last thing
as well, so that one that fails has at most added to the model (`Session.Grown`).
-/

namespace ModelLang

/-! ## Models -/

namespace Model

/-- The later model has all that the earlier one had, and in the same places. Coefficients in the
objective differ only if the objective was set in between. -/
structure Extends (m m' : Model) : Prop where
  vars : ∀ v x, m.get? v = some x → ∃ q, m'.get? v = some { x with objective := q } ∧
    (q = x.objective ∨ m.objective = none ∧ m'.objective ≠ none)
  rows : m.rows <+: m'.rows
  sos : m.sos <+: m'.sos
  objective : ∀ o, m.objective = some o → m'.objective = some o

namespace Extends

variable {m m' m'' : Model}

theorem refl (m : Model) : m.Extends m where
  vars _ x hx := ⟨x.objective, hx, .inl rfl⟩
  rows := List.prefix_rfl
  sos := List.prefix_rfl
  objective _ ho := ho

theorem trans (h : m.Extends m') (h' : m'.Extends m'') : m.Extends m'' where
  vars v x hx := by
    obtain ⟨q, hq, hsame⟩ := h.vars v x hx
    obtain ⟨r, hr, hsame'⟩ := h'.vars v _ hq
    refine ⟨r, hr, ?_⟩
    rcases hsame with rfl | ⟨hnone, hset⟩
    · rcases hsame' with hr | ⟨hnone', hset'⟩
      · exact .inl hr
      · refine .inr ⟨?_, hset'⟩
        -- an objective that had been set would still be there in between
        cases ho : m.objective with
        | none => rfl
        | some o =>
          rw [h.objective o ho] at hnone'
          cases hnone'
    · refine .inr ⟨hnone, ?_⟩
      obtain ⟨o, ho⟩ := Option.ne_none_iff_exists'.1 hset
      rw [h'.objective o ho]
      exact Option.some_ne_none o
  rows := h.rows.trans h'.rows
  sos := h.sos.trans h'.sos
  objective o ho := h'.objective o (h.objective o ho)

end Extends

/-- One edit adds at the end, or sets an objective where none was. -/
theorem Edit.extends {m m' : Model} (h : m.Edit m') : m.Extends m' := by
  cases h with
  | @«variable» x hx ho =>
    refine ⟨fun v y hy => ⟨y.objective, ?_, .inl rfl⟩, List.prefix_rfl, List.prefix_rfl,
      fun _ ho => ho⟩
    obtain ⟨hv, rfl⟩ := Array.getElem?_eq_some_iff.1 hy
    exact (Array.getElem?_push_lt hv).trans rfl
  | row hr =>
    exact ⟨fun v y hy => ⟨y.objective, hy, .inl rfl⟩, List.prefix_append _ _, List.prefix_rfl,
      fun _ ho => ho⟩
  | sos hs =>
    exact ⟨fun v y hy => ⟨y.objective, hy, .inl rfl⟩, List.prefix_rfl, List.prefix_append _ _,
      fun _ ho => ho⟩
  | @objective _ o ht h =>
    obtain ⟨hnone, rfl⟩ := setObjective_ok h
    refine ⟨fun v y hy => ?_, List.prefix_rfl, List.prefix_rfl, fun p hp => ?_⟩
    · refine ⟨y.objective + o.term.coefs.get v, ?_, .inr ⟨hnone, Option.some_ne_none o⟩⟩
      have hvars := addObjective_getElem? o.term.canonical m.vars v
      rw [show m.vars[v]? = some y from hy] at hvars
      exact hvars
    · rw [hnone] at hp
      cases hp

theorem Additions.objective {m m' : Model} (h : m.Additions m') : m'.objective = m.objective :=
  preserved_of_changes (I := fun m' => m'.objective = m.objective)
    (fun _ _ h hs => h.2.trans hs) h rfl

end Model

/-! ## Sessions -/

namespace Session

/-- The later session has all that the earlier one had. -/
structure Extends (s s' : Session) : Prop where
  model : s.model.Extends s'.model
  symbols : s.symbols <+: s'.symbols
  printed : s.printed <+: s'.printed
  failedChecks : s.failedChecks ≤ s'.failedChecks

theorem Extends.refl (s : Session) : s.Extends s :=
  ⟨.refl _, List.prefix_rfl, List.prefix_rfl, le_refl _⟩

theorem Extends.trans {s s' s'' : Session} (h : s.Extends s') (h' : s'.Extends s'') :
    s.Extends s'' :=
  ⟨h.model.trans h'.model, h.symbols.trans h'.symbols, h.printed.trans h'.printed,
    h.failedChecks.trans h'.failedChecks⟩

theorem Change.extends {d : Statement} {s s' : Session} (h : Change d s s') : s.Extends s' := by
  cases h with
  | @work w h =>
    have hmodel : s.model.Extends w.model := by
      rcases (Relation.reflGen_iff _ _ _).1 h with hsame | hedit
      · rw [hsame]
        exact .refl _
      · exact hedit.extends
    exact ⟨hmodel, List.prefix_rfl, List.prefix_rfl, le_refl _⟩
  | declare hd h hf =>
    obtain ⟨_, rfl⟩ := Symbols.declare_ok h
    exact ⟨.refl _, List.prefix_append _ _, List.prefix_rfl, le_refl _⟩
  | print line => exact ⟨.refl _, List.prefix_rfl, List.prefix_append _ _, le_refl _⟩
  | check => exact ⟨.refl _, List.prefix_rfl, List.prefix_rfl, Nat.le_succ _⟩

theorem Changes.extends {d : Statement} {s s' : Session} (h : Changes d s s') : s.Extends s' :=
  preserved_of_changes (I := s.Extends) (fun _ _ h hs => hs.trans h.extends) h (.refl s)

/-- At most one symbol is new, and it has the name that the statement declares. -/
def DeclaresAtMost (d : Statement) (s s' : Session) : Prop :=
  s'.symbols = s.symbols ∨
    ∃ x symbol, d.declared? = some x ∧ s.symbols.get? x = none ∧
      s'.symbols = s.symbols ++ [(x, symbol)]

/-- A second declaration would declare the same name again. -/
theorem Change.declaresAtMost {d : Statement} {s₀ s s' : Session} (h : Change d s s')
    (hs : DeclaresAtMost d s₀ s) : DeclaresAtMost d s₀ s' := by
  cases h with
  | work | print | check => exact hs
  | @declare x symbol symbols hd h hf =>
    obtain ⟨hnew, rfl⟩ := Symbols.declare_ok h
    rcases hs with hsame | ⟨y, _, hy, _, hone⟩
    · rw [hsame] at hnew
      exact .inr ⟨x, symbol, hd, hnew, congrArg (· ++ [(x, symbol)]) hsame⟩
    · obtain rfl : x = y := Option.some.inj (hd.symm.trans hy)
      rw [hone, Symbols.get?_append, if_pos rfl, Option.or_eq_none_iff] at hnew
      cases hnew.2

theorem Changes.declaresAtMost {d : Statement} {s s' : Session} (h : Changes d s s') :
    DeclaresAtMost d s s' :=
  preserved_of_changes (I := DeclaresAtMost d s) (fun _ _ h hs => h.declaresAtMost hs) h (.inl rfl)

/-! ### Failures -/

/-- All that is new is in the model, and it is not the objective. -/
structure Grown (s s' : Session) : Prop where
  symbols : s'.symbols = s.symbols
  objective : s'.model.objective = s.model.objective
  failedChecks : s'.failedChecks = s.failedChecks
  printed : s'.printed = s.printed

theorem Grown.refl (s : Session) : s.Grown s :=
  ⟨rfl, rfl, rfl, rfl⟩

theorem Grown.trans {s s' s'' : Session} (h : s.Grown s') (h' : s'.Grown s'') : s.Grown s'' :=
  ⟨h'.symbols.trans h.symbols, h'.objective.trans h.objective,
    h'.failedChecks.trans h.failedChecks, h'.printed.trans h.printed⟩

end Session

namespace Exec

open Session (Grown)

variable {α β : Type} {tables : Table.Source} {s s' : Session} {f : Failure}

/-- If the execution fails, it has done no more than to add to the model. -/
def FailsGrown (s : Session) (x : Exec α) : Prop :=
  ∀ f s', x s = (.error f, s') → s.Grown s'

theorem eval_grown {x : Context → Eval α} {P : Workspace → α → Prop} (hb : s.Below)
    (h : Eval.Sound s.symbols s.work α P (x (.ofSymbols s.symbols tables))) :
    s.Grown (Exec.eval tables x s).2 :=
  ⟨rfl, Model.Additions.objective (Workspace.Changes.additions (h hb).changes), rfl, rfl⟩

namespace FailsGrown

theorem of_grown {x : Exec α} (h : s.Grown (x s).2) : FailsGrown s x := by
  intro f s' hx
  rwa [hx] at h

/-- Only what comes first may go on after it has succeeded. -/
theorem bind {x : Exec α} {g : α → Exec β} (hx : s.Grown (x s).2)
    (hg : ∀ a, FailsGrown (x s).2 (g a)) : FailsGrown s (x >>= g) := by
  intro f s' h
  rcases Step.bind_eq_error.1 h with h | ⟨a, s₁, h₁, h⟩
  · rwa [h] at hx
  · rw [h₁] at hx hg
    exact hx.trans (hg a f s' h)

theorem pure {a : α} : FailsGrown s (Pure.pure a : Exec α) := by
  intro f s' h
  cases h

theorem modify (g : Session → Session) : FailsGrown s (Step.modify g) := by
  intro f s' h
  cases h

theorem declare (x : Name) (symbol : Symbol) : FailsGrown s (Exec.declare x symbol) := by
  intro f s' h
  unfold Exec.declare at h
  split at h
  · cases h
  · cases h
    exact .refl s

end FailsGrown

/-- A new name is required before anything is done. -/
theorem FailsGrown.afterNew {x : Name} {g : Unit → Exec β} (hg : FailsGrown s (g ())) :
    FailsGrown s (Exec.requireNew x >>= g) := by
  have hstay : (Exec.requireNew x s).2 = s := by
    unfold Exec.requireNew
    split <;> rfl
  refine .bind ?_ fun _ => ?_
  · rw [hstay]
    exact .refl s
  · rw [hstay]
    exact hg

end Exec

/-- The objective is set after all else has succeeded. -/
theorem ObjectiveDecl.set_error {symbols : Symbols} {tables : Table.Source} {scope : Scope}
    {w w' : Workspace} {f : Failure} (d : ObjectiveDecl) (hb : symbols.Below w.size)
    (hs : scope.Below w.size) (h : d.set (.ofSymbols symbols tables) scope w = (.error f, w')) :
    w'.model.objective = w.model.objective := by
  have hadd : (d.term.evalTerm (.ofSymbols symbols tables) scope "objective" w).2.model.objective =
      w.model.objective :=
    Model.Additions.objective
      (Workspace.Changes.additions (d.term.evalTerm_sound hs "objective" hb).changes)
  rcases Step.bind_eq_error.1 h with h | ⟨t, w₁, h₁, h⟩
  · rwa [h] at hadd
  · rw [h₁] at hadd
    unfold Eval.onModel Step.mapError Step.onPart Build.setObjective at h
    rcases hset : w₁.model.setObjective ⟨d.sense, d.name.text, t⟩ with c | m
    · rw [hset] at h
      cases h
      exact hadd
    · rw [hset] at h
      cases h

/-- Whether the statement is run for the tuples of an index set. -/
def Statement.IsLoop : Statement → Prop
  | each _ _ _ => True
  | _ => False

/-- A failure comes before anything but the model has changed. -/
theorem Statement.run_failsGrown (tables : Table.Source) {st : Statement} (hst : ¬ st.IsLoop)
    (path : List Tuple) {scope : Scope} {s : Session} (hb : s.Below)
    (hs : scope.Below s.work.size) : Exec.FailsGrown s (st.run tables path scope) := by
  cases st with
  | set d =>
    refine .afterNew (.bind (Exec.eval_grown hb (d.eval_sound hs)) fun f => ?_)
    exact .declare d.name _
  | param d =>
    refine .afterNew (.bind (Exec.eval_grown hb (d.eval_sound hs)) fun symbol => ?_)
    exact .declare d.name _
  | var d =>
    refine .afterNew (.bind (Exec.eval_grown hb (d.eval_sound hs)) fun f => ?_)
    exact .declare d.name _
  | objective d =>
    intro f s' h
    rcases hset : d.set (.ofSymbols s.symbols tables) scope s.work with ⟨r, w⟩
    simp only [Statement.run, Exec.eval, Step.onPart, hset] at h
    cases h
    exact ⟨rfl, d.set_error hb hs hset, rfl, rfl⟩
  | subto d => exact .of_grown (Exec.eval_grown hb (d.body.add_sound d.name.text path hs))
  | sos d => exact .of_grown (Exec.eval_grown hb (d.add_sound path hs))
  | define d =>
    exact .bind (Exec.eval_grown hb d.eval_sound) fun f => .declare d.name _
  | print items span =>
    exact .bind (Exec.eval_grown hb (Expr.evalLine_sound items hs)) fun line => .modify _
  | check condition span =>
    refine .bind (Exec.eval_grown hb (condition.evalTruth_sound hs "check")) fun holds => ?_
    split
    · exact .pure
    · exact .modify _
  | each index body span => exact (hst trivial).elim

namespace Session

/-- After any statements, each of which may have failed, a further one extends the session, whether
it succeeds or fails: variables, rows, special ordered sets, symbols and printed lines that were
there stay where they were, and as they were but for coefficients of an objective that is set now.
At most one symbol is new, under the name that the statement declares. A statement that fails, and
is no loop, leaves symbols, objective, failed checks and printed lines. -/
theorem execute_extends (random : Random) (history : List (Table.Source × Statement))
    (tables : Table.Source) (st : Statement) :
    (after random history).Extends (st.execute tables (after random history)).2 ∧
      DeclaresAtMost st.innermost (after random history)
        (st.execute tables (after random history)).2 ∧
      (¬ st.IsLoop → ∀ f, (st.execute tables (after random history)).1 = .error f →
        (after random history).Grown (st.execute tables (after random history)).2) := by
  have hb := after_below random history
  have hchanges := execute_changes tables st hb
  refine ⟨hchanges.extends, hchanges.declaresAtMost, fun hst f hf => ?_⟩
  exact Statement.run_failsGrown tables hst [] hb (Scope.below_nil _) f _ (Prod.ext hf rfl)

end Session

end ModelLang
