import ModelLang.Proofs.Evaluation

/-!
# ModelLang.Proofs.Constant

Evaluation that mentions no variables of the model. Its values are no terms, and it never fails for
want of linearity, defines, functions, sets and tables included (`Reasoning.routine`).
-/

namespace ModelLang

open Eval

/-- A result satisfies `Q`, and the cause of a failure `E`. -/
def Meets (E : Cause → Prop) (α : Type) (Q : α → Prop) (x : Eval α) : Prop :=
  ∀ w, (∀ a w', x w = (.ok a, w') → Q a) ∧ ∀ f w', x w = (.error f, w') → E f.cause

/-- A result satisfies `Q`, and a failure is not for want of linearity. -/
abbrev Routine : (α : Type) → (α → Prop) → Eval α → Prop :=
  Meets (· ≠ .nonlinear)

/-- No name stands for a variable of the model. -/
def Vocabulary.IsConstant (L : Vocabulary) (symbols : Symbols) : Prop :=
  ∀ x f, L.names x → symbols.get? x ≠ some (.var f)

theorem Symbol.lookup_noTerm {s : Symbol} (hs : ∀ f, s ≠ .var f) {x : String} {index : Tuple}
    {v : Value} (h : s.lookup x index = .ok v) : v.NoTerm := by
  cases s <;> grind [lookup, Value.NoTerm]

/-- An operation that does not fail for a certain cause. -/
theorem Yields.of_ne {α : Type} {c₀ : Cause} {x : Except Cause α} (h : x ≠ .error c₀) :
    Yields (· ≠ c₀) (fun _ => True) x :=
  ⟨fun _ _ => trivial, fun _ hc hsame => h (hsame ▸ hc)⟩

namespace Meets

variable {E : Cause → Prop} {α β : Type} {Q : α → Prop}

theorem located {x : Except Cause α} (span : Span) (h : Yields E Q x) :
    Meets E α Q (Eval.located span x) := by
  intro w
  refine ⟨?_, ?_⟩
  · intro a w' ha
    exact h.1 a (located_ok ha).1
  · intro f w' hf
    exact h.2 f.cause (located_error hf)

theorem pure {a : α} (h : Q a) : Meets E α Q (Pure.pure a) := by
  intro w
  refine ⟨?_, ?_⟩
  · rintro b w' ⟨⟩
    exact h
  · intro f w' hf
    cases hf

theorem bind {R : β → Prop} {x : Eval α} {f : α → Eval β} (hx : Meets E α Q x)
    (hf : ∀ a, Q a → Meets E β R (f a)) : Meets E β R (x >>= f) := by
  intro w
  refine ⟨?_, ?_⟩
  · intro b w' hb
    obtain ⟨a, w₁, ha, hb⟩ := Step.bind_eq_ok.1 hb
    exact (hf a ((hx w).1 a w₁ ha) w₁).1 b w' hb
  · intro e w' he
    rcases Step.bind_eq_error.1 he with he | ⟨a, w₁, ha, he⟩
    · exact (hx w).2 e w' he
    · exact (hf a ((hx w).1 a w₁ ha) w₁).2 e w' he

/-- A result of which nothing is to be known. -/
theorem result {x : Except Cause α} (span : Span) (h : ∀ c, x = .error c → E c) :
    Meets E α (fun _ => True) (Eval.located span x) :=
  .located span ⟨fun _ _ => trivial, h⟩

theorem usual {x : Except Cause α} (hE : ∀ c : Cause, c.Usual → E c) (span : Span)
    (h : Usual x) : Meets E α (fun _ => True) (Eval.located span x) :=
  .result span fun c hc => hE c (h.cause hc)

/-- Work on the model fails for the causes for which it does so without an evaluation. -/
theorem onModel {x : Build α} (span : Span) (h : ∀ m m' c, x m = (.error c, m') → E c) :
    Meets E α (fun _ => True) (Eval.onModel span x) := by
  refine fun w => ⟨fun _ _ _ => trivial, ?_⟩
  intro f w' hf
  unfold Eval.onModel Step.mapError Step.onPart at hf
  rcases hx : x w.model with ⟨c | a, m⟩ <;> rw [hx] at hf <;> cases hf
  exact h _ _ c hx

theorem nextRandom : Meets E Float (fun _ => True) Eval.nextRandom := by
  intro w
  refine ⟨fun _ _ _ => trivial, ?_⟩
  intro f w' h
  simp [Eval.nextRandom] at h

end Meets

/-- A result of which nothing is to be known. -/
theorem Routine.result {α : Type} {x : Except Cause α} (span : Span)
    (h : x ≠ .error .nonlinear) : Routine α (fun _ => True) (Eval.located span x) :=
  .located span (.of_ne h)

theorem Value.Plain.yields {E : Cause → Prop} (hE : ∀ c : Cause, c.Usual → E c)
    {x : Except Cause Value} (h : Plain x) : Yields E NoTerm x :=
  ⟨h.2, fun c hc => hE c (h.1.cause hc)⟩

/-- Functions have the usual failures and their values are no terms, but for the absolute value of a
term. -/
theorem Builtin.call_meets {E : Cause → Prop} {V : Value → Prop}
    (hE : ∀ c : Cause, c.Usual → E c) (hV : ∀ v : Value, v.NoTerm → V v) {f : Builtin}
    {vs : List Value} (span : Span)
    (habs : ∀ t, vs = [.term t] →
      Meets E Value V (Eval.onModel span (Build.absolute t) >>= fun u => return .ofTerm u)) :
    Meets E Value V (f.call vs span) := by
  unfold call
  split
  · rename_i low high
    refine .bind (.usual hE span (randomBounds_usual low high)) fun bounds _ => ?_
    refine .bind .nextRandom fun sample _ => ?_
    refine .bind (.usual hE span (drawn_usual bounds.1 bounds.2 sample)) fun q _ => ?_
    refine .pure (hV _ ?_)
    intro t ht
    cases ht
  · rename_i t
    exact habs t rfl
  · have hplain := onValues_plain f vs
    exact .located span ⟨fun v hv => hV v (hplain.2 v hv), fun c hc => hE c (hplain.1.cause hc)⟩

/-- Without variables, evaluation never fails for want of linearity. -/
theorem Reasoning.routine {symbols : Symbols} {tables : Table.Source} {L : Vocabulary}
    (hL : L.IsConstant symbols) (ht : tables.FailsUnreadable) :
    Reasoning symbols tables L Value.NoTerm (· ≠ .nonlinear) Routine where
  located := Meets.located
  bind := Meets.bind
  harmless _ h := h.1
  noTerm h := h
  binary op ha hb := (Value.binary_plain ha hb op).yields fun _ h => h.1
  unary op ha := (Value.unary_plain ha op).yields fun _ h => h.1
  step kind ha hv := (kind.step_plain ha hv).yields fun _ h => h.1
  lookup := by
    intro x s index v hx hs h
    refine Symbol.lookup_noTerm ?_ h
    rintro f rfl
    refine hL x f hx ?_
    grind [Symbols.get]
  load := by
    rintro name template options c hc rfl
    exact (Table.load_usual ht name template options).1 hc
  call := by
    intro f vs span _ hvs
    refine Builtin.call_meets (fun _ h => h.1) (fun _ h => h) span ?_
    rintro t rfl
    exact absurd rfl (hvs (.term t) (List.mem_singleton.2 rfl) t)

end ModelLang
