import ModelLang.Proofs.Absolute
import ModelLang.Proofs.Below
import ModelLang.Session

/-!
# ModelLang.Proofs.Effects

What an evaluation does besides giving a value. The only function that changes the model is `vabs`,
which adds nothing or a pair of variables with six rows (`Build.absolute_effect`). Evaluation is put
together of such steps (`Eval.effects_reasoning`), so that a whole evaluation adds a number of pairs
with their rows, whether it succeeds or fails, and nothing without that function.
-/

namespace ModelLang

/-! ## Pairs of helpers -/

/-- `m'` is `m` with `p` pairs of helpers behind its variables, a binary and a continuous one each,
and six rows without flags for each pair behind its rows. -/
def Model.WithPairs (m : Model) (p : Nat) (m' : Model) : Prop :=
  ∃ xs rs, m.Grows m' xs rs ∧
    xs.map Variable.kind = (List.replicate p [VarKind.binary, .continuous]).flatten ∧
    rs.length = 6 * p ∧ ∀ r ∈ rs, r.flags = .empty

namespace Model.WithPairs

variable {m m₁ m₂ : Model} {p q : Nat}

theorem refl (m : Model) : m.WithPairs 0 m :=
  ⟨[], [], .refl m, rfl, rfl, List.forall_mem_nil _⟩

theorem trans (h : m.WithPairs p m₁) (h' : m₁.WithPairs q m₂) : m.WithPairs (p + q) m₂ := by
  obtain ⟨xs, rs, hg, hkinds, hlength, hflags⟩ := h
  obtain ⟨ys, qs, hg', hkinds', hlength', hflags'⟩ := h'
  refine ⟨xs ++ ys, rs ++ qs, hg.trans hg', ?_, ?_, List.forall_mem_append.2 ⟨hflags, hflags'⟩⟩
  · rw [List.map_append, hkinds, hkinds', List.replicate_add, List.flatten_append]
  · rw [List.length_append, hlength, hlength', Nat.mul_add]

theorem rows_length (h : m.WithPairs p m₁) : m₁.rows.length = m.rows.length + 6 * p := by
  obtain ⟨xs, rs, hg, _, hlength, _⟩ := h
  rw [hg.rows, List.length_append, hlength]

end Model.WithPairs

/-! ## Rows without flags -/

namespace Build

/-- A step whose new rows have no flags. -/
def Unflagged (m m' : Model) : Prop :=
  ∃ rs, m'.rows = m.rows ++ rs ∧ ∀ r ∈ rs, r.flags = .empty

theorem Unflagged.refl (m : Model) : Unflagged m m :=
  ⟨[], by simp, List.forall_mem_nil _⟩

theorem Unflagged.trans {m m₁ m₂ : Model} (h : Unflagged m m₁) (h' : Unflagged m₁ m₂) :
    Unflagged m m₂ := by
  obtain ⟨rs, hrs, hflags⟩ := h
  obtain ⟨qs, hqs, hflags'⟩ := h'
  refine ⟨rs ++ qs, ?_, List.forall_mem_append.2 ⟨hflags, hflags'⟩⟩
  rw [hqs, hrs, List.append_assoc]

instance : Std.Refl Unflagged := ⟨Unflagged.refl⟩

instance : IsTrans Model Unflagged := ⟨fun _ _ _ => Unflagged.trans⟩

theorem bounds_unflagged (cause : String → Cause) (t : Term) (m : Model) :
    (bounds cause t).Ends Unflagged m fun _ _ => True := by
  refine .single ?_ fun _ _ => trivial
  unfold bounds
  split <;> exact .refl m

theorem helper_unflagged (base suffix : String) (kind : VarKind) (lower upper : Number)
    (m : Model) : (helper base suffix kind lower upper).Ends Unflagged m fun _ _ => True := by
  let x : Variable := ⟨base ++ "_" ++ suffix, kind, lower, upper, none, none, 0⟩
  have hadd : (addVariable x).Ends Unflagged m fun _ _ => True :=
    .single ⟨[], (m.addVariable_grows x).rows, List.forall_mem_nil _⟩ fun _ _ => trivial
  exact hadd.bind fun _ _ _ _ => .pure trivial

theorem addRow_unflagged (m : Model) {r : Row} (h : r.flags = .empty) :
    Unflagged m (m.addRow r) :=
  ⟨_, (m.addRow_grows r).rows, List.forall_mem_singleton.2 h⟩

theorem row_unflagged (base suffix : String) (t : Term) (rel : ConRel) (m : Model) :
    (row base suffix .empty t rel).Ends Unflagged m fun _ _ => True := by
  refine .single ?_ fun _ _ => trivial
  show Unflagged m (m.addLinear (base ++ "_" ++ suffix) t rel .empty)
  exact addRow_unflagged m (by cases rel <;> rfl)

theorem absolute_unflagged (t : Term) (m : Model) :
    (absolute t).Ends Unflagged m fun _ _ => True := by
  refine (bounds_unflagged _ t m).bind fun m₁ b _ _ => ?_
  dsimp only
  split
  · exact .pure trivial
  split
  · exact .pure trivial
  refine (helper_unflagged _ _ _ _ _ _).bind fun m₂ s _ _ => ?_
  refine (helper_unflagged _ _ _ _ _ _).bind fun m₃ r _ _ => ?_
  refine (row_unflagged _ _ _ _ _).bind fun m₄ _ _ _ => ?_
  refine (row_unflagged _ _ _ _ _).bind fun m₅ _ _ _ => ?_
  refine (row_unflagged _ _ _ _ _).bind fun m₆ _ _ _ => ?_
  refine (row_unflagged _ _ _ _ _).bind fun m₇ _ _ _ => ?_
  refine (row_unflagged _ _ _ _ _).bind fun m₈ _ _ _ => ?_
  exact (row_unflagged _ _ _ _ _).bind fun m₉ _ _ _ => .pure trivial

/-- An absolute value takes one pair of helpers at most, and none if it fails. -/
theorem absolute_withPairs (t : Term) (m : Model) : ∃ p, m.WithPairs p (absolute t m).2 := by
  rcases h : absolute t m with ⟨c | u, m'⟩
  · rw [absolute_error h]
    exact ⟨0, .refl m⟩
  · obtain ⟨low, high, xs, rs, _, hg, ha⟩ := absolute_ok h
    have hchanges := (absolute_unflagged t m).changes
    rw [h, Relation.reflTransGen_eq_self] at hchanges
    obtain ⟨qs, hqs, hflags⟩ := hchanges
    obtain rfl : qs = rs := List.append_cancel_left (hqs.symm.trans hg.rows)
    cases ha with
    | nonneg | nonpos => exact ⟨0, [], [], hg, rfl, rfl, List.forall_mem_nil _⟩
    | signed _ _ hi => exact ⟨1, _, _, hg, rfl, hi.length, hflags⟩

end Build

/-! ## Evaluation -/

/-- What an evaluation within a vocabulary does to the workspace: it adds pairs of helpers, but does
nothing to the model if the vocabulary lacks `vabs`. -/
def Workspace.Effect (L : Vocabulary) (w w' : Workspace) : Prop :=
  ∃ p, w.model.WithPairs p w'.model ∧ (¬ L.builtins .vabs → p = 0)

namespace Workspace

variable {L : Vocabulary}

theorem Effect.refl (w : Workspace) : w.Effect L w :=
  ⟨0, .refl w.model, fun _ => rfl⟩

theorem Effect.trans {w w₁ w₂ : Workspace} (h : w.Effect L w₁) (h' : w₁.Effect L w₂) :
    w.Effect L w₂ := by
  obtain ⟨p, hp, hzero⟩ := h
  obtain ⟨q, hq, hzero'⟩ := h'
  exact ⟨p + q, hp.trans hq, fun hL => by rw [hzero hL, hzero' hL]⟩

instance : Std.Refl (Effect L) := ⟨Effect.refl⟩

instance : IsTrans Workspace (Effect L) := ⟨fun _ _ _ => Effect.trans⟩

end Workspace

open Workspace (Effect)

namespace Eval

theorem located_effect {L : Vocabulary} {α : Type} {Q : Workspace → α → Prop} {w : Workspace}
    {r : Except Cause α} (span : Span) (h : ∀ a, r = .ok a → Q w a) :
    (located span r).Ends (Effect L) w Q := by
  refine .ofExcept fun a ha => h a ?_
  cases r with
  | error c => cases ha
  | ok b =>
    cases ha
    rfl

theorem nextRandom_effect {L : Vocabulary} (w : Workspace) :
    nextRandom.Ends (Effect L) w fun _ _ => True := by
  refine .single ?_ fun _ _ => trivial
  unfold nextRandom
  rcases w.random.next with ⟨x, random⟩
  exact ⟨0, .refl w.model, fun _ => rfl⟩

theorem absolute_effect {L : Vocabulary} (hL : L.builtins .vabs) (t : Term) (span : Span)
    (w : Workspace) : (onModel span (Build.absolute t)).Ends (Effect L) w fun _ _ => True := by
  refine .mapError (.single ?_ fun _ _ => trivial)
  obtain ⟨p, hp⟩ := Build.absolute_withPairs t w.model
  exact ⟨p, hp, fun h => absurd hL h⟩

theorem call_effect {L : Vocabulary} {f : Builtin} (vs : List Value) (span : Span)
    (hf : L.builtins f) (w : Workspace) :
    (f.call vs span).Ends (Effect L) w fun _ _ => True := by
  have hlocated {α : Type} (r : Except Cause α) (w : Workspace) :
      (located span r).Ends (Effect L) w fun _ _ => True :=
    located_effect span fun _ _ => trivial
  unfold Builtin.call
  split
  · refine (hlocated _ w).bind fun w₁ b _ _ => ?_
    refine (nextRandom_effect w₁).bind fun w₂ x _ _ => ?_
    exact (hlocated _ w₂).bind fun w₃ q _ _ => .pure trivial
  · exact (absolute_effect hf _ span w).bind fun w₁ u _ _ => .pure trivial
  · exact hlocated _ w

/-- Evaluation is put together of steps with such effects. -/
theorem effects_reasoning (symbols : Symbols) (tables : Table.Source) (L : Vocabulary) :
    ReasoningIn (Relation.ReflTransGen (Effect L)) symbols tables L (fun _ _ => True)
      (fun _ => True) fun w _ Q x => x.Ends (Effect L) w Q where
  refl _ := .refl
  trans := .trans
  mono _ _ := trivial
  located span h := located_effect span h.1
  bind := .bind
  harmless _ _ := trivial
  noTerm _ := trivial
  binary _ _ _ := ⟨fun _ _ => trivial, fun _ _ => trivial⟩
  unary _ _ := ⟨fun _ _ => trivial, fun _ _ => trivial⟩
  step _ _ _ := ⟨fun _ _ => trivial, fun _ _ => trivial⟩
  lookup _ span _ _ := located_effect span fun _ _ => trivial
  load _ _ _ _ _ := trivial
  call span hf _ := call_effect _ span hf _

end Eval

theorem Expr.eval_effect {L : Vocabulary} {symbols : Symbols} (hL : L.Closed symbols)
    (hnames : ∀ x, L.names x) (tables : Table.Source) {e : Expr} {bound : List String}
    (he : e.Within L bound) (scope : Scope) (w : Workspace) :
    w.Effect L (e.eval (.ofSymbols symbols tables) scope w).2 := by
  have hctx := (Eval.effects_reasoning symbols tables L).ensures_ofSymbols hL
  have hscope : scope.Fits L (fun _ => True) bound := ⟨fun _ _ => trivial, fun _ _ => hnames _⟩
  have hends := (e.eval_ensuresIn hctx scope bound w he hscope).changes
  rwa [Relation.reflTransGen_eq_self] at hends

/-- Everything but the function that works on the model. -/
def Vocabulary.withoutVabs : Vocabulary := .calling (· ≠ .vabs)

/-- Whether it succeeds or fails, an evaluation adds pairs of helpers with their rows, without `vabs`
none, and leaves all else in the session except the random numbers. -/
theorem Expr.eval_frame (e : Expr) (scope : Scope) (tables : Table.Source) (s : Session) :
    let s' := (Exec.eval tables (fun ctx => e.eval ctx scope) s).2
    s'.symbols = s.symbols ∧ s'.printed = s.printed ∧ s'.failedChecks = s.failedChecks ∧
      ∃ p, s.model.WithPairs p s'.model ∧
        (e.Within .withoutVabs [] → Vocabulary.withoutVabs.Closed s.symbols → p = 0) := by
  intro s'
  refine ⟨rfl, rfl, rfl, ?_⟩
  by_cases h : e.Within .withoutVabs [] ∧ Vocabulary.withoutVabs.Closed s.symbols
  · obtain ⟨p, hp, hzero⟩ := Expr.eval_effect h.2 (fun _ => trivial) tables h.1 scope s.work
    exact ⟨p, hp, fun _ _ => hzero fun hvabs => hvabs rfl⟩
  · obtain ⟨p, hp, _⟩ := Expr.eval_effect (Vocabulary.closed_all s.symbols) (fun _ => trivial)
      tables (e.within_all []) scope s.work
    exact ⟨p, hp, fun he hd => absurd ⟨he, hd⟩ h⟩

/-- After `var x real >= -1 <= 1;` and `defnumb f(a) := a + 1;`. -/
def signedSession : Session where
  symbols := [("x", .var (.scalar 0)), ("f", .define ⟨.numb, ["a"],
    .binary .add (.name "a" .indetermined) (.number 1 .indetermined) .indetermined⟩)]
  work := ⟨⟨#[⟨"x", .continuous, .finite (-1), .finite 1, none, none, 0⟩], [], [], none, []⟩,
    default⟩
  printed := []
  failedChecks := 0

/-- `f(1)` adds nothing to the model, and `f(1) + vabs(x)` a pair of helpers. -/
theorem Expr.eval_frame_signedSession :
    let at₀ := Span.indetermined
    let plain := Expr.call "f" [.number 1 at₀] at₀
    let absolute := Expr.binary .add plain (.builtin .vabs [.name "x" at₀] at₀) at₀
    let s := signedSession
    let r := Exec.eval .empty (fun ctx => plain.eval ctx []) s
    let r' := Exec.eval .empty (fun ctx => absolute.eval ctx []) s
    plain.Within .withoutVabs [] ∧ Vocabulary.withoutVabs.Closed s.symbols ∧
      r.1.isOk = true ∧ r.2.symbols = s.symbols ∧ s.model.WithPairs 0 r.2.model ∧
      r'.1.isOk = true ∧ r'.2.symbols = s.symbols ∧ s.model.WithPairs 1 r'.2.model := by
  intro at₀ plain absolute s r r'
  have hplain : plain.Within .withoutVabs [] := ⟨trivial, trivial, trivial⟩
  have hdefines : Vocabulary.withoutVabs.Closed s.symbols := by
    refine .of_mem fun x d bound hd => ?_
    rcases List.mem_cons.1 hd with hvar | hdefine
    · cases hvar
    · cases List.mem_singleton.1 hdefine
      exact ⟨.inr trivial, trivial⟩
  have hcalls : r.1.isOk = true := by decide +kernel
  have hok : r'.1.isOk = true := by decide +kernel
  have hrows : r'.2.model.rows.length = 6 := by decide +kernel
  obtain ⟨hsymbols, _, _, p, hp, hzero⟩ := plain.eval_frame [] .empty s
  obtain ⟨hsymbols', _, _, q, hq, _⟩ := absolute.eval_frame [] .empty s
  have hone : q = 1 := by
    have hlength := hq.rows_length
    rw [hrows, show s.model.rows.length = 0 from rfl] at hlength
    omega
  exact ⟨hplain, hdefines, hcalls, hsymbols, hzero hplain hdefines ▸ hp, hok, hsymbols', hone ▸ hq⟩

end ModelLang
