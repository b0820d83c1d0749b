import ModelLang.Proofs.Congruence

/-!
# ModelLang.Proofs.Locals

What a scope binds matters to an evaluation only where it is looked up. The body of a define is
evaluated on top of the scope of its call, so that it can see what is bound there: besides the
expression it is the bodies of the defines that tell which names can be looked up
(`Expr.eval_depends_on_names`), those included that a define calls in turn
(`Expr.call_captures_local`).
-/

namespace ModelLang

namespace Scope

variable {names : String → Prop} {scope scope' : Scope}

/-- Each of the names is bound to the same value in both scopes, or in neither. -/
def AgreeOn (names : String → Prop) (scope scope' : Scope) : Prop :=
  ∀ x, names x → scope'.lookup? x = scope.lookup? x

theorem AgreeOn.bind (h : AgreeOn names scope scope') (x : String) (v : Value) :
    AgreeOn (fun y => y = x ∨ names y) (scope.bind x v) (scope'.bind x v) := by
  intro y hy
  rw [lookup?_bind, lookup?_bind]
  split
  · rfl
  · rename_i hne
    exact h y (hy.resolve_left fun he => hne he.symm)

/-- The scopes agree on the names that are bound or in the vocabulary. -/
def AgreeWithin (L : Vocabulary) (bound : List String) (scope scope' : Scope) : Prop :=
  AgreeOn (fun x => x ∈ bound ∨ L.names x) scope scope'

theorem correspondence_agreeWithin (L : Vocabulary) : Correspondence L (AgreeWithin L) where
  lookup h hx := h _ hx
  bind x v h y hy := h.bind x v y (by simpa [List.mem_cons, or_assoc] using hy)
  mono hsub h x hx := h x (hx.imp_left fun hx => hsub hx)

end Scope

/-- A context of declared symbols is such that a define sees no more of a scope than its body
mentions, and the bodies of the defines that it calls. -/
theorem Context.nested_mirrors {L : Vocabulary} {symbols : Symbols} (hL : L.Closed symbols)
    (tables : Table.Source) (depth : Nat) (active : List String) :
    (nested symbols tables depth active).Mirrors (nested symbols tables depth active) L
      (Scope.AgreeWithin L) := by
  induction depth generalizing active with
  | zero => exact ⟨rfl, rfl, rfl, Scope.correspondence_agreeWithin L, fun _ _ _ => rfl⟩
  | succ depth ih =>
    refine ⟨rfl, rfl, rfl, Scope.correspondence_agreeWithin L, ?_⟩
    intro x n d bound scope scope' hx hd hs
    have hbody := hL x d bound hx (Context.callee_eq_ok hd).1
    exact d.body.eval_mirrors (ih (x :: active)) hbody hs

/-- Where a call stands matters only for the values of its arguments, and for what its define sees
of the scope. -/
theorem Context.Mirrors.call_eval {ctx : Context} {L : Vocabulary}
    (hctx : ctx.Mirrors ctx L (Scope.AgreeWithin L)) {bound : List String} {scope scope' : Scope}
    (hs : scope.AgreeWithin L bound scope') {f : String} (hf : L.defines f bound)
    {args args' : List Expr} (hlength : args.length = args'.length) {w : Workspace}
    (hvalues : Expr.values ctx args scope w = Expr.values ctx args' scope' w) (span : Span) :
    (Expr.call f args span).eval ctx scope w = (Expr.call f args' span).eval ctx scope' w := by
  rw [Expr.eval, Expr.eval, ← hlength]
  cases hd : ctx.callee f args.length with
  | error c => rfl
  | ok d =>
    show (Expr.values ctx args scope >>= _) w = (Expr.values ctx args' scope' >>= _) w
    rcases hvs : Expr.values ctx args scope w with ⟨e | vs, w'⟩
    · rw [Step.bind_of_error hvs, Step.bind_of_error (hvalues.symm.trans hvs)]
    · rw [Step.bind_of_ok hvs, Step.bind_of_ok (hvalues.symm.trans hvs)]
      have hparams := (Context.callee_eq_ok hd).2.trans (Expr.values_length hvs).symm
      rw [hctx.expand hf hd (hctx.scopes.bindAll hparams hs)]

/-- Where the same names are bound to the same values, for all names that the expression and the
bodies of the defines mention, an evaluation has the same result and leaves the same workspace, and
so does a call with the same values of its arguments. Of the defines only those matter that the
expression calls, directly or through others; they are the ones in the vocabulary, which says for
each what may be bound where it is called. -/
theorem Expr.eval_depends_on_names {L : Vocabulary} {symbols : Symbols} (hL : L.Closed symbols)
    (tables : Table.Source) (depth : Nat) (active : List String) {bound : List String}
    {scope scope' : Scope} (hs : scope.AgreeWithin L bound scope') :
    let ctx := Context.nested symbols tables depth active
    (∀ e : Expr, e.Within L bound → e.eval ctx scope = e.eval ctx scope') ∧
    ∀ (f : String) (args args' : List Expr) (span : Span) (w : Workspace),
      L.defines f bound → args.length = args'.length →
      Expr.values ctx args scope w = Expr.values ctx args' scope' w →
      (Expr.call f args span).eval ctx scope w = (Expr.call f args' span).eval ctx scope' w := by
  have hctx := Context.nested_mirrors hL tables depth active
  refine ⟨fun e he => (e.eval_mirrors hctx he hs).symm, ?_⟩
  intro f args args' span w hf hlength hvalues
  exact hctx.call_eval hs hf hlength hvalues span

/-- A global `z`, a define `g` whose value is that of `z`, and a define `f` that calls `g`. -/
def capturing : Symbols :=
  [("z", .number (.scalar (.finite 100))),
    ("g", .define ⟨.numb, ["y"], .name "z" .indetermined⟩),
    ("f", .define ⟨.numb, ["x"], .call "g" [.name "x" .indetermined] .indetermined⟩)]

/-- Where `z` is bound to the same value, other bindings do not matter. -/
theorem Expr.eval_depends_on_names_capturing :
    let L : Vocabulary := ⟨fun x => x = "z", fun _ => True, fun x _ => x = "f" ∨ x = "g"⟩
    let scope : Scope := [("k", .ofRat 1), ("z", .ofRat 5)]
    let scope' : Scope := [("z", .ofRat 5), ("k", .ofRat 2)]
    let ctx := Context.ofSymbols capturing .empty
    let one := Expr.number 1 .indetermined
    let k := Expr.name "k" .indetermined
    L.Closed capturing ∧ scope.AgreeWithin L [] scope' ∧
      (Expr.call "f" [one] .indetermined).Within L [] ∧
      (Expr.call "f" [one] .indetermined).eval ctx scope =
        (Expr.call "f" [one] .indetermined).eval ctx scope' ∧
      Expr.values ctx [k] scope default = Expr.values ctx [one] scope' default ∧
      (Expr.call "f" [k] .indetermined).eval ctx scope default =
        (Expr.call "f" [one] .indetermined).eval ctx scope' default := by
  intro L scope scope' ctx one k
  have hclosed : L.Closed capturing := by
    rintro x d bound (rfl | rfl) hd
    · cases hd
      exact ⟨.inr rfl, .inl List.mem_cons_self, trivial⟩
    · cases hd
      exact .inr rfl
  have hs : scope.AgreeWithin L [] scope' := by
    rintro x (hx | rfl)
    · cases hx
    · rfl
  have hcall : (Expr.call "f" [one] .indetermined).Within L [] := ⟨.inl rfl, trivial, trivial⟩
  have hvalues : Expr.values ctx [k] scope default = Expr.values ctx [one] scope' default := rfl
  obtain ⟨heval, hcalls⟩ := eval_depends_on_names hclosed .empty capturing.length [] hs
  exact ⟨hclosed, hs, hcall, heval _ hcall, hvalues,
    hcalls "f" [k] [one] .indetermined default (.inl rfl) rfl hvalues⟩

/-- The body of `f` does not mention `z`. The value of `f` is another one all the same where `z` is
bound. -/
theorem Expr.call_captures_local :
    let call := Expr.call "f" [.number 1 .indetermined] .indetermined
    let ctx := Context.ofSymbols capturing .empty
    (∃ d, capturing.get? "f" = some (.define d) ∧
      d.body.Within ⟨fun x => x ≠ "z", fun _ => True, fun _ _ => True⟩ d.params) ∧
    call.eval ctx [("z", .ofRat 5)] = pure (.ofRat 5) ∧ call.eval ctx [] = pure (.ofRat 100) :=
  ⟨⟨_, rfl, trivial, .inl List.mem_cons_self, trivial⟩, rfl, rfl⟩

end ModelLang
