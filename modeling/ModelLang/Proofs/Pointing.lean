import ModelLang.Proofs.Culprit
import ModelLang.Proofs.Expansion
import ModelLang.Proofs.Groups
import ModelLang.Proofs.Layout
import ModelLang.Proofs.Run

/-!
# ModelLang.Proofs.Pointing

Failures point into the program. A statement fails at a span of its own, or at one in the body of a
define that was declared before (`Statement.run_guards`). In a program these run along tokens, and
lie inside the statement or inside the body of the define (`Program.run_points`).
-/

namespace ModelLang

open Eval

variable {B : Expr → Prop} {S : Span → Prop} {tables : Table.Source}

/-! ## Declared defines -/

/-- The bodies of the declared defines have a property. -/
def Symbols.Bodies (B : Expr → Prop) (symbols : Symbols) : Prop :=
  ∀ x d, (x, .define d) ∈ symbols → B d.body

namespace Context

variable {symbols : Symbols}

theorem nested_blames (hB : ∀ e, B e → e.outline.All S) (h : symbols.Bodies B) (depth : Nat)
    (active : List String) : (nested symbols tables depth active).Blames S := by
  have hbody (x : String) (d : Define) (hd : symbols.get x = .ok (.define d)) :
      d.body.outline.All S :=
    hB d.body (h x d (Symbols.mem_of_get hd))
  induction depth generalizing active with
  | zero =>
    intro x n d scope hd
    exact fail_blames (Expr.all_span (hbody x d (callee_eq_ok_iff.1 hd).1)) _
  | succ depth ih =>
    intro x n d scope hd
    exact d.body.eval_blames (ih _) scope (hbody x d (callee_eq_ok_iff.1 hd).1)

theorem ofSymbols_blames (hB : ∀ e, B e → e.outline.All S) (h : symbols.Bodies B) :
    (ofSymbols symbols tables).Blames S :=
  nested_blames hB h symbols.length []

end Context

/-! ## Statements -/

theorem Name.all_span {x : Name} {span : Span} {parts : List Outline}
    (h : (Outline.node span (x.outline :: parts)).All S) : S x.span :=
  ((Outline.all_node.1 h).2 _ List.mem_cons_self).root

/-- The bodies of the defines that a session has declared have a property. -/
abbrev Session.Bodies (B : Expr → Prop) (s : Session) : Prop :=
  s.symbols.Bodies B

namespace Exec

variable {α : Type}

theorem eval_guards (hB : ∀ e, B e → e.outline.All S) {x : Context → Eval α}
    (h : ∀ ctx, ctx.Blames S → (x ctx).Blames S) :
    (Exec.eval tables x).Guards (Session.Bodies B) S where
  keeps s hs := hs
  blames s f s' hs hf := by
    have hx := h (.ofSymbols s.symbols tables) (Context.ofSymbols_blames hB hs)
    unfold Exec.eval Step.onPart at hf
    rcases hrun : x (.ofSymbols s.symbols tables) s.work with ⟨e | a, w⟩
    · rw [hrun] at hf
      cases hf
      exact hx.blames s.work f w trivial hrun
    · rw [hrun] at hf
      cases hf

theorem eval_returns {x : Context → Eval α} {a : α} (h : (Exec.eval tables x).Returns a) :
    ∃ ctx, (x ctx).Returns a := by
  obtain ⟨s, s', h⟩ := h
  unfold Exec.eval Step.onPart at h
  rcases hrun : x (.ofSymbols s.symbols tables) s.work with ⟨e | b, w⟩
  · rw [hrun] at h
    cases h
  · rw [hrun] at h
    cases h
    exact ⟨_, s.work, w, hrun⟩

theorem requireNew_guards {x : Name} (h : S x.span) :
    (Exec.requireNew x).Guards (Session.Bodies B) S where
  keeps s hs := by
    unfold Exec.requireNew
    split <;> exact hs
  blames s f s' hs hf := by
    unfold Exec.requireNew at hf
    split at hf <;> cases hf
    exact h

theorem declare_guards {x : Name} {symbol : Symbol} (h : S x.span)
    (hsymbol : ∀ d, symbol = .define d → B d.body) :
    (Exec.declare x symbol).Guards (Session.Bodies B) S where
  keeps s hs := by
    unfold Exec.declare
    split
    · rename_i symbols hdeclare
      obtain ⟨_, rfl⟩ := Symbols.declare_ok hdeclare
      intro y d hd
      rcases List.mem_append.1 hd with hold | hnew
      · exact hs y d hold
      · exact hsymbol d (Prod.mk.inj (List.mem_singleton.1 hnew)).2.symm
    · exact hs
  blames s f s' hs hf := by
    unfold Exec.declare at hf
    split at hf <;> cases hf
    exact h

/-- What declares a symbol other than a define. -/
theorem declareNew_guards (hB : ∀ e, B e → e.outline.All S) {x : Name} (hname : S x.span)
    {y : Context → Eval α} (hy : ∀ ctx, ctx.Blames S → (y ctx).Blames S) {make : α → Symbol}
    (hmake : ∀ a d, (Exec.eval tables y).Returns a → make a ≠ .define d) :
    Step.Guards (Session.Bodies B) S (do
      Exec.requireNew x
      let a ← Exec.eval tables y
      Exec.declare x (make a)) := by
  refine .bind (requireNew_guards hname) fun _ _ => ?_
  refine .bind (eval_guards hB hy) fun a ha => ?_
  exact declare_guards hname fun d hd => (hmake a d ha hd).elim

theorem modify_guards {change : Session → Session} (h : ∀ s, (change s).symbols = s.symbols) :
    Step.Guards (Session.Bodies B) S (Step.modify change) where
  keeps s hs := by
    show (change s).symbols.Bodies B
    rw [h s]
    exact hs
  blames s f s' hs hf := by cases hf

end Exec

/-- A parameter is no define. -/
theorem ParamDecl.eval_returns {d : ParamDecl} {ctx : Context} {scope : Scope} {symbol : Symbol}
    (h : (d.eval ctx scope).Returns symbol) : symbol.IsParameter := by
  obtain ⟨w, w', h⟩ := h
  obtain ⟨fallback, w₁, _, h⟩ := Step.bind_eq_ok.1 h
  obtain ⟨r, w₂, _, h⟩ := Step.bind_eq_ok.1 h
  exact (symbol_ok (located_ok h).1).1

theorem DefineDecl.eval_returns {d : DefineDecl} {f : Define} (h : d.eval.Returns f) :
    f.body = d.body := by
  obtain ⟨w, w', h⟩ := h
  unfold DefineDecl.eval at h
  cases hrepeated : repeatedName? [] d.params with
  | some x =>
    rw [hrepeated] at h
    cases h
  | none =>
    rw [hrepeated] at h
    cases h
    rfl

namespace Statement

/-- By induction on the loops around the statement proper. -/
theorem run_guards (tables : Table.Source) (hB : ∀ e, B e → e.outline.All S) (st : Statement)
    (path : List Tuple) (scope : Scope) (h : st.outline.All S)
    (hdefine : ∀ d, st.innermost = .define d → B d.body) :
    (st.run tables path scope).Guards (Session.Bodies B) S := by
  induction st generalizing path scope with
  | set d =>
    exact Exec.declareNew_guards hB (Name.all_span h)
      (fun ctx hctx => d.eval_blames hctx h scope) (by simp)
  | param d =>
    refine Exec.declareNew_guards hB (Name.all_span h)
      (fun ctx hctx => d.eval_blames hctx h scope) ?_
    rintro _ f hsymbol rfl
    obtain ⟨_, hsymbol⟩ := Exec.eval_returns hsymbol
    exact ParamDecl.eval_returns hsymbol
  | var d =>
    exact Exec.declareNew_guards hB (Name.all_span h)
      (fun ctx hctx => d.eval_blames hctx h scope) (by simp)
  | objective d => exact Exec.eval_guards hB fun ctx hctx => d.set_blames hctx h scope
  | subto d =>
    have hbody : ∀ o ∈ d.body.outlines, o.All S := fun o ho =>
      (Outline.all_node.1 h).2 o (List.mem_cons_of_mem _ ho)
    exact Exec.eval_guards hB fun ctx hctx =>
      d.body.add_blames hctx d.name.text path scope hbody
  | sos d => exact Exec.eval_guards hB fun ctx hctx => d.add_blames hctx h path scope
  | define d =>
    refine .bind (Exec.eval_guards hB fun _ _ => DefineDecl.eval_blames h) fun f hf => ?_
    refine Exec.declare_guards (Name.all_span h) ?_
    rintro _ ⟨⟩
    obtain ⟨_, hf⟩ := Exec.eval_returns hf
    rw [DefineDecl.eval_returns hf]
    exact hdefine d rfl
  | print items span =>
    have hitems := Expr.forall_outlines.1 (Outline.all_node.1 h).2
    refine .bind (Exec.eval_guards hB fun ctx hctx =>
      Expr.evalLine_blames hctx hitems scope) fun line _ => ?_
    exact Exec.modify_guards fun _ => rfl
  | check condition span =>
    have hcondition := List.forall_mem_singleton.1 (Outline.all_node.1 h).2
    refine .bind (Exec.eval_guards hB fun ctx hctx =>
      Expr.eval_located_blames hctx hcondition scope _) fun holds _ => ?_
    split
    · exact .pure ()
    · exact Exec.modify_guards fun _ => rfl
  | each index body span ih =>
    rw [Statement.outline, Outline.all_node, List.forall_mem_cons, List.forall_mem_singleton] at h
    obtain ⟨_, hindex, hbody⟩ := h
    refine .bind (Exec.eval_guards hB fun ctx hctx =>
      index.evalSet_blames hctx scope hindex) fun s _ => ?_
    refine .foldTuples ?_ ?_ _ _
    · intro t
      exact Exec.eval_guards hB fun ctx hctx => index.enter_blames hctx scope t hindex
    · intro _ frame t
      exact ih (path ++ [t]) frame hbody hdefine

theorem executeAll_guards (tables : Table.Source) (hB : ∀ e, B e → e.outline.All S)
    {sts : List Statement}
    (h : ∀ st ∈ sts, st.outline.All S ∧ ∀ d, st.innermost = .define d → B d.body) :
    (executeAll tables sts).Guards (Session.Bodies B) S := by
  induction sts with
  | nil => exact .pure ()
  | cons st sts ih =>
    obtain ⟨⟨hst, hdefine⟩, hsts⟩ := List.forall_mem_cons.1 h
    exact .bind (st.run_guards tables hB [] [] hst hdefine) fun _ _ => ih hsts

/-! ## Where a program fails -/

/-- The statements before the first that fails succeed. -/
theorem executeAll_eq_error {sts : List Statement} {s s' : Session} {f : Failure}
    (h : executeAll tables sts s = (.error f, s')) :
    ∃ before st after s₁, sts = before ++ st :: after ∧
      executeAll tables before s = (.ok (), s₁) ∧ st.execute tables s₁ = (.error f, s') := by
  induction sts generalizing s with
  | nil => cases h
  | cons st sts ih =>
    rcases Step.bind_eq_error.1 h with hfails | ⟨_, s₁, hfirst, hrest⟩
    · exact ⟨[], st, sts, s, rfl, rfl, hfails⟩
    · obtain ⟨before, st', after, s₂, rfl, hbefore, hfails⟩ := ih hrest
      exact ⟨st :: before, st', after, s₂, rfl, Step.bind_eq_ok.2 ⟨_, s₁, hfirst, hbefore⟩, hfails⟩

/-- What holds of an outline, and with it of its parts, holds of the body of a define that a
statement declares. -/
theorem innermost_body {P : Outline → Prop}
    (hP : ∀ span parts, P (.node span parts) → ∀ p ∈ parts, P p) {st : Statement} {d : DefineDecl}
    (hd : st.innermost = .define d) (h : P st.outline) : P d.body.outline := by
  induction st with
  | define d' =>
    cases hd
    refine hP _ _ h _ (List.mem_cons_of_mem _ ?_)
    exact List.mem_append_right _ List.mem_cons_self
  | each index body span ih =>
    exact ih hd (hP _ _ h _ (List.mem_cons_of_mem _ List.mem_cons_self))
  | set | param | var | objective | subto | sos | print | check => cases hd

/-- The expression is the body of a define that one of the statements declares. -/
def IsBodyIn (sts : List Statement) (e : Expr) : Prop :=
  ∃ st ∈ sts, ∃ d, st.innermost = .define d ∧ d.body = e

/-- The span belongs to the statement, or to the body of a define that an earlier one declares. -/
def Blamable (before : List Statement) (st : Statement) (span : Span) : Prop :=
  span ∈ st.outline.spans ∨ ∃ e, IsBodyIn before e ∧ span ∈ e.outline.spans

/-- Statements declare no other defines than their own. -/
theorem executeAll_bodies {sts : List Statement} {random : Random} {s : Session}
    (h : executeAll tables sts (.start random) = (.ok (), s)) : s.Bodies (IsBodyIn sts) := by
  have hguards : (executeAll tables sts).Guards (Session.Bodies (IsBodyIn sts)) fun _ => True := by
    refine executeAll_guards tables (fun _ _ _ _ => trivial) fun st hst => ?_
    exact ⟨fun _ _ => trivial, fun d hd => ⟨st, hst, d, hd, rfl⟩⟩
  have hkept := hguards.keeps (.start random) fun _ _ hd => (List.not_mem_nil hd).elim
  rwa [h] at hkept

/-- The statement can expand the defines of those before, and in the course of a loop its own. -/
theorem execute_blamable {before : List Statement} {st : Statement} {random : Random}
    {s s' : Session} {f : Failure} (hbefore : executeAll tables before (.start random) = (.ok (), s))
    (h : st.execute tables s = (.error f, s')) : st.Blamable before f.span := by
  have hB : ∀ e, IsBodyIn (before ++ [st]) e → e.outline.All (st.Blamable before) := by
    rintro _ ⟨st', hst', d, hd, rfl⟩
    rcases List.mem_append.1 hst' with hearlier | hself
    · exact fun span hspan => .inr ⟨d.body, ⟨st', hearlier, d, hd, rfl⟩, hspan⟩
    · cases List.mem_singleton.1 hself
      exact innermost_body (fun _ _ h => (Outline.all_node.1 h).2) hd fun span hspan => .inl hspan
  have hguards := st.run_guards tables hB [] [] (fun span hspan => .inl hspan)
    fun d hd => ⟨st, List.mem_append_right _ List.mem_cons_self, d, hd, rfl⟩
  refine hguards.blames s f s' ?_ h
  intro x d hd
  obtain ⟨st', hst', hbody⟩ := executeAll_bodies hbefore x d hd
  exact ⟨st', List.mem_append_left _ hst', hbody⟩

end Statement

namespace Outline.Nested

theorem within {o : Outline} (h : o.Nested) : o.All fun s => s.Within o.root := by
  cases h with
  | node hproper hinside hparts => exact all_node.2 ⟨.refl _, hinside⟩

theorem parts {span : Span} {parts : List Outline} (h : (Outline.node span parts).Nested) :
    ∀ p ∈ parts, p.Nested := by
  cases h with
  | node hproper hinside hparts => exact hparts

end Outline.Nested

namespace Program

theorem run_eq_error {p : Program} {random : Random} {e : CompileError} {s : Session}
    (h : p.run tables random = (.error e, s)) : ∃ f, e = .execution f ∧
      Statement.executeAll tables p.statements (.start random) = (.error f, s) := by
  unfold run at h
  rcases hrun : Statement.executeAll tables p.statements (.start random) with ⟨f | _, s'⟩
  · rw [hrun] at h
    cases h
    exact ⟨f, rfl, rfl⟩
  · rw [hrun] at h
    cases h

/-- All spans of a program without errors run along its tokens, each around those below. Where its
run fails, the failure lies inside the statement that fails, or inside the body of a define that a
statement before declares. -/
theorem run_points {text : List Char} {p : Program} (h : check text = .ok p) :
    ∃ tokens, Token.scan text = .ok tokens ∧
      (∀ st ∈ p.statements, st.outline.Nested ∧
        st.outline.All fun span => span.IsDetermined ∧ span.Marks tokens) ∧
      ∀ tables random e s, p.run tables random = (.error e, s) →
        ∃ f before st after s₁, e = .execution f ∧ p.statements = before ++ st :: after ∧
          Statement.executeAll tables before (.start random) = (.ok (), s₁) ∧
          st.execute tables s₁ = (.error f, s) ∧
          f.span.IsDetermined ∧ f.span.Marks tokens ∧
          (f.span.Within st.span ∨ ∃ earlier ∈ before, ∃ d, earlier.innermost = .define d ∧
            f.span.Within d.body.span) := by
  obtain ⟨tokens, hscan, rfl, _⟩ := check_eq_ok.1 h
  have hlaid (st : Statement) (hst : st ∈ (ofTokens tokens).statements) :=
    statement_nested hscan hst
  refine ⟨tokens, hscan, ?_, ?_⟩
  · intro st hst
    obtain ⟨hnested, hmarks⟩ := hlaid st hst
    exact ⟨hnested, fun span hspan => ⟨(hmarks span hspan).isDetermined, hmarks span hspan⟩⟩
  · intro tables random e s hrun
    obtain ⟨f, rfl, hfails⟩ := run_eq_error hrun
    obtain ⟨before, st, after, s₁, hsplit, hbefore, hfails⟩ :=
      Statement.executeAll_eq_error hfails
    have hspan : f.span.Marks tokens ∧ (f.span.Within st.span ∨ ∃ earlier ∈ before, ∃ d,
        earlier.innermost = .define d ∧ f.span.Within d.body.span) := by
      rcases Statement.execute_blamable hbefore hfails with
        hown | ⟨_, ⟨earlier, hin, d, hd, rfl⟩, hbody⟩
      · have hst : st ∈ (ofTokens tokens).statements :=
          hsplit ▸ List.mem_append_right before List.mem_cons_self
        obtain ⟨hnested, hmarks⟩ := hlaid st hst
        exact ⟨hmarks _ hown, .inl (st.root_outline ▸ hnested.within _ hown)⟩
      · have hst : earlier ∈ (ofTokens tokens).statements :=
          hsplit ▸ List.mem_append_left _ hin
        obtain ⟨hnested, hmarks⟩ := hlaid earlier hst
        have hnested := Statement.innermost_body (fun _ _ h => h.parts) hd hnested
        have hmarks := Statement.innermost_body (fun _ _ h => (Outline.all_node.1 h).2) hd hmarks
        exact ⟨hmarks _ hbody,
          .inr ⟨earlier, hin, d, hd, d.body.root_outline ▸ hnested.within _ hbody⟩⟩
    exact ⟨f, before, st, after, s₁, rfl, hsplit, hbefore, hfails, hspan.1.isDetermined, hspan⟩

/-- The second statement fails inside the define of the first. -/
def failingSource : List Char :=
  "defnumb f(x) := 1 / x;\nprint f(0);".toList

/-- The division is to blame, which stands in the second half of the first line. -/
theorem run_points_division :
    ∃ p f before st after s, check failingSource = .ok p ∧
      p.run .empty default = (.error (.execution f), s) ∧
      p.statements = before ++ st :: after ∧
      f.span = .determined ⟨1, 17⟩ ⟨1, 22⟩ ∧ f.span.IsDetermined ∧
      (f.span.Within st.span ∨ ∃ earlier ∈ before, ∃ d, earlier.innermost = .define d ∧
        f.span.Within d.body.span) := by
  have hsample : ∃ tokens ∈ (Token.scan failingSource).toOption,
      let p := ofTurns (Grammar.turnsFrom tokens (.ofTokens 0 tokens))
      let r := (Statement.executeAll .empty p.statements (.start default)).1
      p.errors.isEmpty ∧
        ((r.map fun _ => Span.indetermined).tryCatch fun f => .ok f.span).toOption =
          some (.determined ⟨1, 17⟩ ⟨1, 22⟩) := by
    decide +kernel
  obtain ⟨tokens, htokens, hsample⟩ := hsample
  rw [← Grammar.turns_eq, ← ofTokens] at hsample
  simp only [List.isEmpty_iff] at hsample
  obtain ⟨herrors, hspan⟩ := hsample
  rcases hexecute : Statement.executeAll .empty (ofTokens tokens).statements
    (.start default) with ⟨f | _, s⟩
  · rw [hexecute] at hspan
    have hcheck := check_eq_ok.2 ⟨tokens, Token.mem_toOption.1 htokens, rfl, herrors⟩
    have hrun : (ofTokens tokens).run .empty default = (.error (.execution f), s) := by
      rw [run, hexecute]
    obtain ⟨_, _, _, hpoints⟩ := run_points hcheck
    obtain ⟨_, before, st, after, _, ⟨⟩, hsplit, _, _, hdet, _, hwithin⟩ := hpoints _ _ _ _ hrun
    exact ⟨_, f, before, st, after, s, hcheck, hrun, hsplit, Option.some.inj hspan, hdet, hwithin⟩
  · rw [hexecute] at hspan
    cases hspan

end Program

end ModelLang
