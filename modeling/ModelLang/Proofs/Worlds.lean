import ModelLang.Proofs.Keyed
import ModelLang.Proofs.Routine
import ModelLang.Proofs.Vocabulary

/-!
# ModelLang.Proofs.Worlds

One induction for what all evaluations have in common. A property of computations may speak of the
world in which a computation starts, and of its result in the world where it ends; worlds evolve
along a preorder, and what is known of a value stays true in later worlds. `ReasoningIn` collects
what such a property needs to go along with sequencing, with the operations on values and with the
functions that a vocabulary admits. Then `Expr.eval_ensuresIn` and its companions give the property
for the evaluation of every expression within the vocabulary, provided that they give it for the
bodies of defines. In a context of declared symbols they do (`ReasoningIn.ensures_nested`).
-/

namespace ModelLang

/-! ## Properties of computations -/

/-- A success satisfies `Q`, a failure `E`. -/
def Yields {α : Type} (E : Cause → Prop) (Q : α → Prop) (x : Except Cause α) : Prop :=
  (∀ a, x = .ok a → Q a) ∧ ∀ c, x = .error c → E c

/-- `P w α Q x` says of a computation `x` that starts in the world `w` that it takes the world
further along `R`, and that its result has `Q` where it ends. -/
structure Rules {W : Type} {M : Type → Type} [Monad M] (R : W → W → Prop)
    (P : W → (α : Type) → (W → α → Prop) → M α → Prop) : Prop where
  refl (w : W) : R w w
  trans {u v w : W} : R u v → R v w → R u w
  pure {w : W} {α : Type} {Q : W → α → Prop} {a : α} : Q w a → P w α Q (pure a)
  bind {w : W} {α β : Type} {Q : W → α → Prop} {S : W → β → Prop} {x : M α} {f : α → M β} :
    P w α Q x → (∀ w₁ a, R w w₁ → Q w₁ a → P w₁ β S (f a)) → P w β S (x >>= f)

namespace Rules

variable {W : Type} {M : Type → Type} [Monad M] {R : W → W → Prop}
  {P : W → (α : Type) → (W → α → Prop) → M α → Prop} (L : Rules R P)

include L

/-- An invariant of visiting tuples may speak of the tuples visited so far, the skipped ones
included. -/
theorem foldTuples {β : Type} {F : W → Scope → Prop} (I : List Tuple → W → β → Prop)
    {enter : Tuple → M (Option Scope)} {visit : β → Scope → Tuple → M β}
    (hmono : ∀ {pre w w₁ acc}, R w w₁ → I pre w acc → I pre w₁ acc)
    (hskip : ∀ {pre w acc} t, I pre w acc → I (pre ++ [t]) w acc) {w : W}
    (he : ∀ w₁ t, R w w₁ → P w₁ _ (fun w₂ r => ∀ frame ∈ r, F w₂ frame) (enter t))
    (hv : ∀ pre acc w₁ frame t, R w w₁ → I pre w₁ acc → F w₁ frame →
      P w₁ β (I (pre ++ [t])) (visit acc frame t))
    (pre ts : List Tuple) {acc : β} (ha : I pre w acc) :
    P w β (I (pre ++ ts)) (ModelLang.foldTuples enter visit ts acc) := by
  induction ts generalizing w pre acc with
  | nil =>
    rw [List.append_nil]
    exact L.pure ha
  | cons t ts ih =>
    rw [show pre ++ t :: ts = (pre ++ [t]) ++ ts by simp]
    refine L.bind (he w t (L.refl w)) ?_
    intro w₁ r hw₁ hr
    cases r with
    | none =>
      exact ih (fun w₂ t hw₂ => he w₂ t (L.trans hw₁ hw₂))
        (fun pre acc w₂ frame t hw₂ => hv pre acc w₂ frame t (L.trans hw₁ hw₂))
        _ (hskip t (hmono hw₁ ha))
    | some frame =>
      refine L.bind (hv pre acc w₁ frame t hw₁ (hmono hw₁ ha) (hr frame rfl)) ?_
      intro w₂ acc hw₂ ha
      have hw := L.trans hw₁ hw₂
      exact ih (fun w₃ t hw₃ => he w₃ t (L.trans hw hw₃))
        (fun pre acc w₃ frame t hw₃ => hv pre acc w₃ frame t (L.trans hw hw₃)) _ ha

theorem anyTuple {F : W → Scope → Prop} {enter : Tuple → M (Option Scope)} {w : W}
    (he : ∀ w₁ t, R w w₁ → P w₁ _ (fun w₂ r => ∀ frame ∈ r, F w₂ frame) (enter t))
    (ts : List Tuple) : P w Bool (fun _ _ => True) (ModelLang.anyTuple enter ts) := by
  induction ts generalizing w with
  | nil => exact L.pure trivial
  | cons t ts ih =>
    refine L.bind (he w t (L.refl w)) ?_
    intro w₁ r hw₁ _
    cases r with
    | none => exact ih fun w₂ t hw₂ => he w₂ t (L.trans hw₁ hw₂)
    | some frame => exact L.pure trivial

end Rules

/-- A property of computations together with their results, which evaluation within a vocabulary
builds up: `V` is kept of values, and `E` of the causes of failure. Of the latter only those are of
interest that few operations have. -/
structure ReasoningIn {W : Type} (R : W → W → Prop) (symbols : Symbols) (tables : Table.Source)
    (L : Vocabulary) (V : W → Value → Prop) (E : Cause → Prop)
    (P : W → (α : Type) → (W → α → Prop) → Eval α → Prop) : Prop where
  refl (w : W) : R w w
  trans {u v w : W} : R u v → R v w → R u w
  mono {w w₁ : W} {v : Value} : R w w₁ → V w v → V w₁ v
  located {w : W} {α : Type} {Q : W → α → Prop} {x : Except Cause α} (span : Span) :
    Yields E (Q w) x → P w α Q (Eval.located span x)
  bind {w : W} {α β : Type} {Q : W → α → Prop} {S : W → β → Prop} {x : Eval α} {f : α → Eval β} :
    P w α Q x → (∀ w₁ a, R w w₁ → Q w₁ a → P w₁ β S (f a)) → P w β S (x >>= f)
  harmless (c : Cause) : c.Usual → E c
  noTerm {w : W} {v : Value} : v.NoTerm → V w v
  binary {w : W} {a b : Value} (op : BinaryOp) : V w a → V w b → Yields E (V w) (a.binary op b)
  unary {w : W} {a : Value} (op : UnaryOp) : V w a → Yields E (V w) (a.unary op)
  step {w : W} {acc : Option Value} {v : Value} (kind : Aggregate) :
    (∀ a ∈ acc, V w a) → V w v → Yields E (V w) (kind.step acc v)
  lookup {w : W} {x : String} {s : Symbol} (index : Tuple) (span : Span) :
    L.names x → symbols.get x = .ok s → P w Value V (Eval.located span (s.lookup x index))
  load (name : String) (template : Table.Template) (options : Table.Options) (c : Cause) :
    Table.load tables name template options = .error c → E c
  call {w : W} {f : Builtin} {vs : List Value} (span : Span) :
    L.builtins f → (∀ v ∈ vs, V w v) → P w Value V (f.call vs span)

namespace ReasoningIn

variable {W : Type} {R : W → W → Prop} {symbols : Symbols} {tables : Table.Source}
  {L : Vocabulary} {V : W → Value → Prop} {E : Cause → Prop}
  {P : W → (α : Type) → (W → α → Prop) → Eval α → Prop}
  (A : ReasoningIn R symbols tables L V E P)

include A

theorem rules : Rules R P where
  refl := A.refl
  trans := A.trans
  pure := by
    intro w α Q a h
    show P w α Q (Eval.located default (.ok a))
    refine A.located default ⟨?_, ?_⟩
    · intro b hb
      cases hb
      exact h
    · intro c hc
      cases hc
  bind := A.bind

variable {w : W}

theorem pure {α : Type} {Q : W → α → Prop} {a : α} (h : Q w a) : P w α Q (Pure.pure a) :=
  A.rules.pure h

theorem fail {α : Type} {Q : W → α → Prop} {c : Cause} (span : Span) (h : c.Usual) :
    P w α Q (Eval.fail c span) := by
  show P w α Q (Eval.located span (.error c))
  refine A.located span ⟨?_, ?_⟩
  · intro a ha
    cases ha
  · intro d hd
    cases hd
    exact A.harmless c h

/-- A result that is what it is in every world. -/
theorem exactly {α : Type} {x : Except Cause α} (span : Span) (h : Usual x) :
    P w α (fun _ a => x = .ok a) (Eval.located span x) := by
  refine A.located span ⟨fun _ ha => ha, ?_⟩
  rintro c rfl
  exact A.harmless c (h.cause rfl)

/-- A result of which nothing is to be known. -/
theorem result {α : Type} {x : Except Cause α} (span : Span) (h : Usual x) :
    P w α (fun _ _ => True) (Eval.located span x) := by
  refine A.located span ⟨fun _ _ => trivial, ?_⟩
  rintro c rfl
  exact A.harmless c (h.cause rfl)

theorem convertOr {α : Type} (fallback : α) {convert : Value → Except Cause α}
    (h : ∀ v, Usual (convert v)) (v : Option (Value × Span)) :
    P w α (fun _ _ => True) (Eval.convertOr fallback convert v) := by
  cases v with
  | none => exact A.pure trivial
  | some v => exact A.result _ (h v.1)

/-- What fits a scope in some world fits it in later ones. -/
theorem fits {w₁ : W} {scope : Scope} {bound : List String} (hw : R w w₁)
    (hs : scope.Fits L (V w) bound) : scope.Fits L (V w₁) bound where
  values hx hv := A.mono hw (hs.values hx hv)
  binds := hs.binds

/-- Visiting tuples with an invariant that does not speak of them. -/
theorem foldTuples {β : Type} {F : W → Scope → Prop} (Q : W → β → Prop)
    {enter : Tuple → Eval (Option Scope)} {visit : β → Scope → Tuple → Eval β}
    (hmono : ∀ {w w₁ acc}, R w w₁ → Q w acc → Q w₁ acc)
    (he : ∀ w₁ t, R w w₁ → P w₁ _ (fun w₂ r => ∀ frame ∈ r, F w₂ frame) (enter t))
    (hv : ∀ acc w₁ frame t, R w w₁ → Q w₁ acc → F w₁ frame → P w₁ β Q (visit acc frame t))
    (ts : List Tuple) {acc : β} (ha : Q w acc) :
    P w β Q (ModelLang.foldTuples enter visit ts acc) :=
  A.rules.foldTuples (fun _ => Q) hmono (fun _ h => h) he
    (fun _ acc w₁ frame t hw h hf => hv acc w₁ frame t hw h hf) [] ts ha

end ReasoningIn

/-! ## Evaluation -/

open Eval

/-- The property holds for what the context evaluates, and so for the defines that it runs. -/
structure EnsuresIn {W : Type} (R : W → W → Prop) (ctx : Context) (L : Vocabulary)
    (V : W → Value → Prop) (E : Cause → Prop)
    (P : W → (α : Type) → (W → α → Prop) → Eval α → Prop) : Prop
    extends ReasoningIn R ctx.symbols ctx.tables L V E P where
  expand {w : W} {x : String} {n : Nat} {d : Define} {bound : List String} {scope : Scope} :
    L.defines x bound → ctx.callee x n = .ok d → scope.Fits L (V w) (d.params ++ bound) →
    P w Value V (ctx.expand x d scope)

theorem Context.callee_eq_ok {ctx : Context} {x : String} {n : Nat} {d : Define}
    (h : ctx.callee x n = .ok d) :
    ctx.symbols.get? x = some (.define d) ∧ d.params.length = n := by
  grind [callee, Symbols.get]

section Induction

variable {W : Type} {R : W → W → Prop} {ctx : Context} {L : Vocabulary} {V : W → Value → Prop}
  {E : Cause → Prop} {P : W → (α : Type) → (W → α → Prop) → Eval α → Prop}
  (A : EnsuresIn R ctx L V E P)

include A

theorem EnsuresIn.lookup_located {w : W} {x : String} (h : L.names x) (index : Tuple)
    (span : Span) : P w Value V (located span (ctx.lookup x index)) := by
  unfold Context.lookup
  split
  · rename_i s hs
    exact A.lookup index span h hs
  · rename_i e he
    exact A.fail span ((Symbols.get_usual ctx.symbols x).cause he)

mutual

theorem Expr.eval_ensuresIn : ∀ (e : Expr) (scope : Scope) (bound : List String) (w : W),
    e.Within L bound → scope.Fits L (V w) bound → P w Value V (e.eval ctx scope)
  | .number q _, _, _, _, _, _ => A.pure (A.noTerm nofun)
  | .infinity _, _, _, _, _, _ => A.pure (A.noTerm nofun)
  | .string s _, _, _, _, _, _ => A.pure (A.noTerm nofun)
  | .name x span, scope, bound, w, h, hs => by
    unfold Expr.eval
    split
    · rename_i v hv
      exact A.pure (hs.values h hv)
    · rename_i hn
      exact A.lookup_located (h.elim (fun hx => hs.binds hx hn) id) [] span
  | .subscript x args span, scope, bound, w, h, hs => by
    unfold Expr.eval
    refine A.bind (Expr.concat_ensuresIn (Value.asTuple_usual _) args scope _ w h.2 hs) ?_
    intro w₁ index _ _
    exact A.lookup_located h.1 index span
  | .call x args span, scope, bound, w, h, hs => by
    unfold Expr.eval
    refine A.bind (A.exactly span (Context.callee_usual ctx x args.length)) ?_
    intro w₁ d hw₁ hd
    have hs₁ := A.fits hw₁ hs
    refine A.bind (Expr.values_ensuresIn args scope _ w₁ h.2 hs₁) ?_
    rintro w₂ vs hw₂ ⟨hlen, hvs⟩
    have hparams := (Context.callee_eq_ok hd).2.trans hlen.symm
    have hs₂ := (A.fits hw₂ hs₁).bindAll hparams hvs
    refine A.bind (A.expand h.1 hd hs₂) ?_
    intro w₃ v _ hv
    split
    · exact A.pure hv
    · exact A.fail span ⟨nofun, nofun⟩
  | .builtin f args span, scope, bound, w, h, hs => by
    unfold Expr.eval
    refine A.bind (Expr.values_ensuresIn args scope _ w h.2 hs) ?_
    rintro w₁ vs _ ⟨_, hvs⟩
    exact A.call span h.1 hvs
  | .tuple items _, scope, bound, w, h, hs => by
    unfold Expr.eval
    refine A.bind (Expr.concat_ensuresIn (fun v => ?_) items scope _ w h hs) fun _ t _ _ =>
      A.pure (A.noTerm nofun)
    exact map_usual (Value.asElem_usual "tuple" v) _
  | .setLiteral items _, scope, bound, w, h, hs => by
    unfold Expr.eval
    exact A.bind (Expr.members_ensuresIn items scope .empty _ w h hs) fun _ s _ _ =>
      A.pure (A.noTerm nofun)
  | .range first last step closed span, scope, bound, w, h, hs => by
    unfold Expr.eval
    refine A.bind (first.eval_ensuresIn scope _ w h.1 hs) fun w₁ a hw₁ _ => ?_
    have hs₁ := A.fits hw₁ hs
    refine A.bind (A.result _ (Value.asRat_usual _ a)) fun w₂ a hw₂ _ => ?_
    have hs₂ := A.fits hw₂ hs₁
    refine A.bind (last.eval_ensuresIn scope _ w₂ h.2.1 hs₂) fun w₃ b hw₃ _ => ?_
    have hs₃ := A.fits hw₃ hs₂
    refine A.bind (A.result _ (Value.asRat_usual _ b)) fun w₄ b hw₄ _ => ?_
    have hs₄ := A.fits hw₄ hs₃
    refine A.bind (Expr.optional_ensuresIn step scope _ w₄ h.2.2 hs₄) fun w₅ s _ _ => ?_
    refine A.bind (A.convertOr 1 (Value.asRat_usual _) s) fun w₆ s _ _ => ?_
    refine A.bind (A.result span (TupleSet.range_usual a b s closed)) fun w₇ r _ _ => ?_
    exact A.pure (A.noTerm nofun)
  | .setBuilder index member _, scope, bound, w, h, hs => by
    unfold Expr.eval
    refine A.bind (index.evalSet_ensuresIn scope _ w h.1 hs) fun w₁ s hw₁ _ => ?_
    have hs₁ := A.fits hw₁ hs
    refine A.bind (A.foldTuples (fun _ _ => True) (fun _ h => h) (fun w₂ t hw₂ =>
      index.enter_ensuresIn scope t _ w₂ h.1 (A.fits hw₂ hs₁)) ?_ s.tuples trivial) fun _ r _ _ =>
        A.pure (A.noTerm nofun)
    intro acc w₂ frame t _ _ hf
    refine A.bind (Expr.optional_ensuresIn member frame _ w₂ h.2 hf) fun w₃ m _ _ => ?_
    refine A.bind (A.convertOr t (Value.asTuple_usual _) m) fun w₄ m _ _ => ?_
    exact A.result _ (TupleSet.insert_usual acc m)
  | .proj set positions span, scope, bound, w, h, hs => by
    unfold Expr.eval
    refine A.bind (set.eval_ensuresIn scope _ w h.1 hs) fun w₁ s hw₁ _ => ?_
    have hs₁ := A.fits hw₁ hs
    refine A.bind (A.result _ (Value.asSet_usual _ s)) fun w₂ s hw₂ _ => ?_
    have hs₂ := A.fits hw₂ hs₁
    refine A.bind (positions.eval_ensuresIn scope _ w₂ h.2 hs₂) fun w₃ ps _ _ => ?_
    refine A.bind (A.result _ (Value.asPositions_usual ps)) fun w₄ ps _ _ => ?_
    exact A.bind (A.result span (TupleSet.proj_usual s ps)) fun _ r _ _ =>
      A.pure (A.noTerm nofun)
  | .indexSetOf x _, _, _, w, _, _ => by
    unfold Expr.eval
    refine A.located x.span ⟨?_, ?_⟩
    · intro v hv
      apply A.noTerm
      grind [Value.NoTerm]
    · intro c hc
      exact A.harmless c (by grind)
  | .binary op lhs rhs span, scope, bound, w, h, hs => by
    unfold Expr.eval
    split
    · rename_i decisive _
      refine A.bind (lhs.eval_ensuresIn scope _ w h.1 hs) fun w₁ a hw₁ _ => ?_
      have hs₁ := A.fits hw₁ hs
      refine A.bind (A.result _ (Value.asTruth_usual _ a)) fun w₂ a hw₂ _ => ?_
      split
      · exact A.pure (A.noTerm nofun)
      · refine A.bind (rhs.eval_ensuresIn scope _ w₂ h.2 (A.fits hw₂ hs₁)) fun w₃ b _ _ => ?_
        refine A.bind (A.result _ (Value.asTruth_usual _ b)) fun w₄ b _ _ => ?_
        exact A.pure (A.noTerm nofun)
    · refine A.bind (lhs.eval_ensuresIn scope _ w h.1 hs) fun w₁ a hw₁ ha => ?_
      refine A.bind (rhs.eval_ensuresIn scope _ w₁ h.2 (A.fits hw₁ hs)) fun w₂ b hw₂ hb => ?_
      exact A.located span (A.binary op (A.mono hw₂ ha) hb)
  | .unary op arg span, scope, bound, w, h, hs => by
    unfold Expr.eval
    refine A.bind (arg.eval_ensuresIn scope _ w h hs) fun w₁ v _ hv => ?_
    exact A.located span (A.unary op hv)
  | .aggregate kind index body span, scope, bound, w, h, hs => by
    unfold Expr.eval
    refine A.bind (index.evalSet_ensuresIn scope _ w h.1 hs) fun w₁ s hw₁ _ => ?_
    have hs₁ := A.fits hw₁ hs
    have hstart : ∀ v ∈ kind.start?, V w₁ v := by
      intro v hv
      apply A.noTerm
      cases kind <;> grind [Aggregate.start?, Value.NoTerm, Value.ofRat]
    refine A.bind (A.foldTuples (fun w acc => ∀ v ∈ acc, V w v)
      (fun hw h v hv => A.mono hw (h v hv)) (fun w₂ t hw₂ =>
        index.enter_ensuresIn scope t _ w₂ h.1 (A.fits hw₂ hs₁)) ?_ s.tuples hstart) ?_
    · intro acc w₂ frame _ _ ha hf
      refine A.bind (body.eval_ensuresIn frame _ w₂ h.2 hf) fun w₃ v hw₃ hv => ?_
      have ha₃ : ∀ a ∈ acc, V w₃ a := fun a h => A.mono hw₃ (ha a h)
      refine A.bind (A.located _ (A.step kind ha₃ hv)) fun w₄ acc _ ha => A.pure ?_
      intro a he
      cases he
      exact ha
    · intro w₂ r _ hr
      cases r with
      | none => exact A.fail span ⟨nofun, nofun⟩
      | some v => exact A.pure (hr v rfl)
  | .nonempty index _, scope, bound, w, h, hs => by
    unfold Expr.eval
    refine A.bind (index.evalSet_ensuresIn scope _ w h hs) fun w₁ s hw₁ _ => ?_
    have hs₁ := A.fits hw₁ hs
    refine A.bind (A.rules.anyTuple (fun w₂ t hw₂ =>
      index.enter_ensuresIn scope t _ w₂ h (A.fits hw₂ hs₁)) s.tuples) fun w₂ found _ _ => ?_
    exact A.pure (A.noTerm nofun)
  | .argExtremum greatest count index body span, scope, bound, w, h, hs => by
    unfold Expr.eval
    refine A.bind (Expr.optional_ensuresIn count scope _ w h.1 hs) fun w₁ k hw₁ _ => ?_
    have hs₁ := A.fits hw₁ hs
    refine A.bind (A.convertOr 1 (Value.asCount_usual _) k) fun w₂ k hw₂ _ => ?_
    have hs₂ := A.fits hw₂ hs₁
    refine A.bind (index.evalSet_ensuresIn scope _ w₂ h.2.1 hs₂) fun w₃ s hw₃ _ => ?_
    have hs₃ := A.fits hw₃ hs₂
    refine A.bind (A.foldTuples (fun _ _ => True) (fun _ h => h) (fun w₄ t hw₄ =>
      index.enter_ensuresIn scope t _ w₄ h.2.1 (A.fits hw₄ hs₃)) ?_ s.tuples trivial) ?_
    · intro acc w₄ frame t _ _ hf
      refine A.bind (body.eval_ensuresIn frame _ w₄ h.2.2 hf) fun w₅ v _ _ => ?_
      exact A.bind (A.result _ (Value.asNumber_usual _ v)) fun _ n _ _ => A.pure trivial
    · intro w₄ scored _ _
      exact A.bind (A.result span (TupleSet.ofTuples_usual _)) fun _ r _ _ =>
        A.pure (A.noTerm nofun)
  | .indexedSetOp op index body _, scope, bound, w, h, hs => by
    unfold Expr.eval
    refine A.bind (index.evalSet_ensuresIn scope _ w h.1 hs) fun w₁ s hw₁ _ => ?_
    have hs₁ := A.fits hw₁ hs
    refine A.bind (A.foldTuples (fun _ _ => True) (fun _ h => h) (fun w₂ t hw₂ =>
      index.enter_ensuresIn scope t _ w₂ h.1 (A.fits hw₂ hs₁)) ?_ s.tuples trivial) fun _ r _ _ =>
        A.pure (A.noTerm nofun)
    intro acc w₂ frame _ _ _ hf
    refine A.bind (body.eval_ensuresIn frame _ w₂ h.2 hf) fun w₃ v _ _ => ?_
    refine A.bind (A.result _ (Value.asSet_usual _ v)) fun w₄ b _ _ => ?_
    cases acc with
    | none => exact A.pure trivial
    | some a => exact A.bind (A.result _ (by grind)) fun _ c _ _ => A.pure trivial
  | .conditional condition yes no _, scope, bound, w, h, hs => by
    unfold Expr.eval
    refine A.bind (condition.eval_ensuresIn scope _ w h.1 hs) fun w₁ c hw₁ _ => ?_
    refine A.bind (A.result _ (Value.asTruth_usual _ c)) fun w₂ c hw₂ _ => ?_
    have hs₂ := A.fits hw₂ (A.fits hw₁ hs)
    split
    · exact yes.eval_ensuresIn scope _ w₂ h.2.1 hs₂
    · exact no.eval_ensuresIn scope _ w₂ h.2.2 hs₂
  | .read table span, scope, bound, w, h, hs => by
    unfold Expr.eval
    refine A.bind (table.rows_ensuresIn false scope _ w h hs) fun w₁ rows _ _ => ?_
    exact A.bind (A.result span (TupleSet.ofTuples_usual _)) fun _ r _ _ =>
      A.pure (A.noTerm nofun)

theorem Expr.values_ensuresIn : ∀ (es : List Expr) (scope : Scope) (bound : List String) (w : W),
    Expr.AllWithin L es bound → scope.Fits L (V w) bound →
    P w _ (fun w₁ vs => vs.length = es.length ∧ ∀ v ∈ vs, V w₁ v) (Expr.values ctx es scope)
  | [], _, _, _, _, _ => A.pure ⟨rfl, nofun⟩
  | e :: rest, scope, bound, w, h, hs => by
    unfold Expr.values
    refine A.bind (e.eval_ensuresIn scope _ w h.1 hs) fun w₁ v hw₁ hv => ?_
    refine A.bind (Expr.values_ensuresIn rest scope _ w₁ h.2 (A.fits hw₁ hs)) ?_
    rintro w₂ vs hw₂ ⟨hlen, hvs⟩
    refine A.pure ⟨by simp [hlen], ?_⟩
    intro u hu
    rcases List.mem_cons.1 hu with rfl | hu
    · exact A.mono hw₂ hv
    · exact hvs u hu

theorem Expr.concat_ensuresIn {convert : Value → Except Cause Tuple}
    (hc : ∀ v, Usual (convert v)) : ∀ (es : List Expr) (scope : Scope)
    (bound : List String) (w : W), Expr.AllWithin L es bound → scope.Fits L (V w) bound →
    P w _ (fun _ _ => True) (Expr.concat ctx convert es scope)
  | [], _, _, _, _, _ => A.pure trivial
  | e :: rest, scope, bound, w, h, hs => by
    unfold Expr.concat
    refine A.bind (e.eval_ensuresIn scope _ w h.1 hs) fun w₁ v hw₁ _ => ?_
    refine A.bind (A.result _ (hc v)) fun w₂ t hw₂ _ => ?_
    have hs₂ := A.fits hw₂ (A.fits hw₁ hs)
    exact A.bind (Expr.concat_ensuresIn hc rest scope _ w₂ h.2 hs₂) fun _ ts _ _ => A.pure trivial

theorem Expr.optional_ensuresIn : ∀ (e : Option Expr) (scope : Scope) (bound : List String) (w : W),
    Expr.OptionWithin L e bound → scope.Fits L (V w) bound →
    P w _ (fun _ _ => True) (Expr.optional ctx e scope)
  | none, _, _, _, _, _ => A.pure trivial
  | some e, scope, bound, w, h, hs => by
    unfold Expr.optional
    exact A.bind (e.eval_ensuresIn scope _ w h hs) fun _ v _ _ => A.pure trivial

theorem Expr.members_ensuresIn : ∀ (es : List Expr) (scope : Scope) (s : TupleSet)
    (bound : List String) (w : W), Expr.AllWithin L es bound → scope.Fits L (V w) bound →
    P w _ (fun _ _ => True) (Expr.members ctx es scope s)
  | [], _, _, _, _, _, _ => A.pure trivial
  | e :: rest, scope, s, bound, w, h, hs => by
    unfold Expr.members
    refine A.bind (e.eval_ensuresIn scope _ w h.1 hs) fun w₁ v hw₁ _ => ?_
    have hs₁ := A.fits hw₁ hs
    refine A.bind (A.result _ (Value.asTuple_usual _ v)) fun w₂ t hw₂ _ => ?_
    have hs₂ := A.fits hw₂ hs₁
    refine A.bind (A.result _ (TupleSet.insert_usual s t)) fun w₃ s hw₃ _ => ?_
    exact Expr.members_ensuresIn rest scope s _ w₃ h.2 (A.fits hw₃ hs₂)

theorem Expr.matchTuple_ensuresIn : ∀ (items : List Expr) (t : Tuple) (scope : Scope)
    (bound : List String) (w : W), items.length = t.length → Expr.ItemsWithin L items bound →
    scope.Fits L (V w) bound →
    P w _ (fun w₁ r => ∀ frame ∈ r, frame.Fits L (V w₁) (Expr.bindItems items bound))
      (Expr.matchTuple ctx items t scope)
  | [], _, scope, bound, _, _, _, hs => by
    unfold Expr.matchTuple
    refine A.pure ?_
    rintro frame ⟨⟩
    exact hs
  | item :: items, c :: cs, scope, bound, w, hl, h, hs => by
    unfold Expr.matchTuple
    obtain ⟨hi, hrest⟩ := h
    have hl : items.length = cs.length := Nat.succ.inj hl
    split
    · rename_i x hn
      rw [hn] at hrest
      have hc : V w c.toValue := by
        apply A.noTerm
        cases c <;> exact nofun
      rw [Expr.bindItems, hn]
      exact Expr.matchTuple_ensuresIn items cs _ _ w hl hrest (hs.bind hc x)
    · rename_i hn
      rw [hn] at hrest
      refine A.bind (item.eval_ensuresIn scope _ w (hi hn) hs) fun w₁ v hw₁ _ => ?_
      refine A.bind (A.result _ (Value.asElem_usual _ v)) fun w₂ e hw₂ _ => ?_
      have hs₂ := A.fits hw₂ (A.fits hw₁ hs)
      split
      · rw [Expr.bindItems, hn]
        exact Expr.matchTuple_ensuresIn items cs scope _ w₂ hl hrest hs₂
      · exact A.pure nofun

theorem IndexSet.evalSet_ensuresIn : ∀ (index : IndexSet) (scope : Scope) (bound : List String)
    (w : W), index.Within L bound → scope.Fits L (V w) bound →
    P w _ (fun _ _ => True) (index.evalSet ctx scope)
  | .mk _ set _ _, scope, bound, w, h, hs => by
    unfold IndexSet.evalSet
    refine A.bind (set.eval_ensuresIn scope _ w h.2.1 hs) fun w₁ s _ _ => ?_
    exact A.result _ (Value.asSet_usual _ s)

theorem Expr.matchPattern_ensuresIn : ∀ (pattern : Option (List Expr)) (span : Span) (t : Tuple)
    (scope : Scope) (bound : List String) (w : W), Expr.PatternWithin L pattern bound →
    scope.Fits L (V w) bound →
    P w _ (fun w₁ r => ∀ frame ∈ r, frame.Fits L (V w₁) (Expr.bindItems (pattern.getD []) bound))
      (Expr.matchPattern ctx pattern span t scope)
  | none, _, _, scope, bound, _, _, hs => by
    unfold Expr.matchPattern
    refine A.pure ?_
    rintro frame ⟨⟩
    exact hs
  | some items, span, t, scope, bound, w, h, hs => by
    unfold Expr.matchPattern
    split
    · exact A.fail span ⟨nofun, nofun⟩
    · rename_i hl
      exact Expr.matchTuple_ensuresIn items t scope _ w (Decidable.not_not.1 hl) h hs

theorem IndexSet.enter_ensuresIn : ∀ (index : IndexSet) (scope : Scope) (t : Tuple)
    (bound : List String) (w : W), index.Within L bound → scope.Fits L (V w) bound →
    P w _ (fun w₁ r => ∀ frame ∈ r, frame.Fits L (V w₁) (index.bind bound))
      (index.enter ctx scope t)
  | .mk pattern _ condition span, scope, t, bound, w, h, hs => by
    unfold IndexSet.enter
    refine A.bind (Expr.matchPattern_ensuresIn pattern span t scope _ w h.1 hs) ?_
    intro w₁ r _ hr
    cases r with
    | none => exact A.pure nofun
    | some frame =>
      have hf := hr frame rfl
      refine A.bind (Expr.optional_ensuresIn condition frame _ w₁ h.2.2 hf) fun w₂ c hw₂ _ => ?_
      have hf₂ := A.fits hw₂ hf
      refine A.bind (A.convertOr true (Value.asTruth_usual _) c) fun w₃ c hw₃ _ => A.pure ?_
      have hf₃ := A.fits hw₃ hf₂
      intro frame' he
      split at he
      · cases he
        exact hf₃
      · cases he

theorem ReadSpec.rows_ensuresIn (withValue : Bool) : ∀ (table : ReadSpec) (scope : Scope)
    (bound : List String) (w : W), table.Within L bound → scope.Fits L (V w) bound →
    P w _ (fun _ _ => True) (table.rows ctx withValue scope)
  | .mk file template options, scope, bound, w, h, hs => by
    unfold ReadSpec.rows
    refine A.bind (file.eval_ensuresIn scope _ w h.1 hs) fun w₁ name hw₁ _ => ?_
    have hs₁ := A.fits hw₁ hs
    refine A.bind (A.result _ (Value.asString_usual _ name)) fun w₂ name hw₂ _ => ?_
    have hs₂ := A.fits hw₂ hs₁
    refine A.bind (template.eval_ensuresIn scope _ w₂ h.2.1 hs₂) fun w₃ text hw₃ _ => ?_
    have hs₃ := A.fits hw₃ hs₂
    refine A.bind (A.result _ (Value.asString_usual _ text)) fun w₄ text hw₄ _ => ?_
    have hs₄ := A.fits hw₄ hs₃
    refine A.bind (A.result _ (Table.templateFor_usual text withValue)) fun w₅ columns hw₅ _ => ?_
    have hs₅ := A.fits hw₅ hs₄
    refine A.bind (ReadOption.setAll_ensuresIn options scope .default _ w₅ h.2.2 hs₅) ?_
    intro w₆ options _ _
    exact A.located _ ⟨fun _ _ => trivial, fun c hc => A.load name columns options c hc⟩

theorem ReadOption.setAll_ensuresIn : ∀ (os : List ReadOption) (scope : Scope)
    (options : Table.Options) (bound : List String) (w : W), ReadOption.AllWithin L os bound →
    scope.Fits L (V w) bound → P w _ (fun _ _ => True) (ReadOption.setAll ctx os scope options)
  | [], _, _, _, _, _, _ => A.pure trivial
  | .mk key e :: rest, scope, options, bound, w, h, hs => by
    unfold ReadOption.setAll
    refine A.bind (e.eval_ensuresIn scope _ w h.1 hs) fun w₁ v hw₁ _ => ?_
    refine A.bind (A.result _ (Table.set_usual _ options key v)) fun w₂ options hw₂ _ => ?_
    have hs₂ := A.fits hw₂ (A.fits hw₁ hs)
    exact ReadOption.setAll_ensuresIn rest scope options _ w₂ h.2 hs₂

end

end Induction

/-! ## Declared symbols -/

/-- The bodies of the defines are within the vocabulary, wherever they may be called. -/
def Vocabulary.Closed (L : Vocabulary) (symbols : Symbols) : Prop :=
  ∀ x d bound, L.defines x bound → symbols.get? x = some (.define d) →
    d.body.Within L (d.params ++ bound)

theorem Vocabulary.Closed.of_mem {L : Vocabulary} {symbols : Symbols}
    (h : ∀ x d bound, (x, Symbol.define d) ∈ symbols → d.body.Within L (d.params ++ bound)) :
    L.Closed symbols :=
  fun x d bound _ hd => h x d bound (mem_of_find?_key hd)

theorem Vocabulary.closed_all (symbols : Symbols) : Vocabulary.all.Closed symbols :=
  fun _ d _ _ _ => d.body.within_all _

namespace ReasoningIn

variable {W : Type} {R : W → W → Prop} {symbols : Symbols} {tables : Table.Source}
  {L : Vocabulary} {V : W → Value → Prop} {E : Cause → Prop}
  {P : W → (α : Type) → (W → α → Prop) → Eval α → Prop}

theorem ensures_nested (A : ReasoningIn R symbols tables L V E P) (hL : L.Closed symbols)
    (depth : Nat) (active : List String) :
    EnsuresIn R (.nested symbols tables depth active) L V E P := by
  induction depth generalizing active with
  | zero => exact { A with expand := fun _ _ _ => A.fail _ ⟨nofun, nofun⟩ }
  | succ depth ih =>
    refine { A with expand := ?_ }
    intro w x n d bound scope hx hd hs
    have hbody := hL x d bound hx (Context.callee_eq_ok hd).1
    exact d.body.eval_ensuresIn (ih (x :: active)) scope _ w hbody hs

/-- What a context of declared symbols needs is the vocabulary of its defines. -/
theorem ensures_ofSymbols (A : ReasoningIn R symbols tables L V E P) (hL : L.Closed symbols) :
    EnsuresIn R (.ofSymbols symbols tables) L V E P :=
  A.ensures_nested hL symbols.length []

end ReasoningIn

end ModelLang
