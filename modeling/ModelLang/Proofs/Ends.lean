import Mathlib.Logic.Relation
import ModelLang.Proofs.Worlds

/-!
# ModelLang.Proofs.Ends

Where computations that change a state end, whether they succeed or fail. `Step.Ends` says that the
state changes only as a relation of single changes admits, and what the result is where it ends.
What every single change preserves holds at the end of the whole computation.
-/

namespace ModelLang

namespace Step

variable {σ τ ε δ α β : Type} {R : σ → σ → Prop} {s : σ} {Q : σ → α → Prop} {x : Step σ ε α}

/-- Started in `s`, the computation goes through changes that `R` admits, and a result of it has
`Q` in the state where it ends. -/
structure Ends (R : σ → σ → Prop) (s : σ) (Q : σ → α → Prop) (x : Step σ ε α) : Prop where
  changes : Relation.ReflTransGen R s (x s).2
  result : ∀ a, (x s).1 = .ok a → Q (x s).2 a

namespace Ends

theorem imp {S : σ → α → Prop} (h : x.Ends R s Q)
    (hQ : ∀ s' a, Relation.ReflTransGen R s s' → Q s' a → S s' a) : x.Ends R s S :=
  ⟨h.changes, fun a ha => hQ _ a h.changes (h.result a ha)⟩

theorem mono {T : σ → σ → Prop} (h : x.Ends R s Q) (hR : ∀ t u, R t u → T t u) : x.Ends T s Q :=
  ⟨Relation.ReflTransGen.mono hR _ _ h.changes, h.result⟩

theorem anyhow (h : x.Ends R s Q) : x.Ends R s fun _ _ => True :=
  h.imp fun _ _ _ _ => trivial

theorem ofExcept {r : Except ε α} (h : ∀ a, r = .ok a → Q s a) :
    (Step.ofExcept r : Step σ ε α).Ends R s Q :=
  ⟨.refl, h⟩

theorem pure {a : α} (h : Q s a) : (Pure.pure a : Step σ ε α).Ends R s Q := by
  refine ofExcept fun b hb => ?_
  cases hb
  exact h

theorem fail (e : ε) : (Step.fail e : Step σ ε α).Ends R s Q :=
  ofExcept fun _ ha => nomatch ha

/-- A computation that makes a single change. -/
theorem single (hx : R s (x s).2) (h : ∀ a, (x s).1 = .ok a → Q (x s).2 a) : x.Ends R s Q :=
  ⟨.single hx, h⟩

theorem bind {S : σ → β → Prop} {f : α → Step σ ε β} (hx : x.Ends R s Q)
    (hf : ∀ s' a, Relation.ReflTransGen R s s' → Q s' a → (f a).Ends R s' S) :
    (x >>= f).Ends R s S := by
  obtain ⟨hc, hr⟩ := hx
  rcases h : x s with ⟨_ | a, s'⟩
  · rw [h] at hc
    refine ⟨?_, ?_⟩
    · rw [bind_apply, h]
      exact hc
    · rw [bind_apply, h]
      exact fun b hb => nomatch hb
  · rw [h] at hc hr
    have ha := hf s' a hc (hr a rfl)
    refine ⟨?_, ?_⟩
    · rw [bind_apply, h]
      exact hc.trans ha.changes
    · rw [bind_apply, h]
      exact ha.result

theorem mapError {f : ε → δ} (h : x.Ends R s Q) : (x.mapError f).Ends R s Q := by
  obtain ⟨hc, hr⟩ := h
  unfold Step.mapError
  refine ⟨?_, ?_⟩
  · rcases h : x s with ⟨_ | a, s'⟩ <;> simpa [h] using hc
  · rcases h : x s with ⟨_ | a, s'⟩
    · simp
    · rw [h] at hr
      simpa [h] using hr

/-- Changes of a part of the state are changes of the state. -/
theorem onPart {U : τ → τ → Prop} {P : τ → α → Prop} {view : σ → τ} {put : τ → σ → σ}
    {x : Step τ ε α} (hput : put (view s) s = s)
    (hchange : ∀ t t', U t t' → R (put t s) (put t' s)) (h : x.Ends U (view s) P)
    (hQ : ∀ t a, P t a → Q (put t s) a) : (x.onPart view put).Ends R s Q := by
  refine ⟨?_, fun a ha => hQ _ a (h.result a ha)⟩
  have hc : Relation.ReflTransGen R (put (view s) s) (put (x (view s)).2 s) :=
    Relation.ReflTransGen.lift (put · s) hchange _ _ h.changes
  rwa [hput] at hc

end Ends

/-- Ends of computations are put together along the computations. -/
theorem rules_ends (R : σ → σ → Prop) :
    Rules (Relation.ReflTransGen R) fun s α Q (x : Step σ ε α) => x.Ends R s Q where
  refl _ := .refl
  trans := .trans
  pure := Ends.pure
  bind := Ends.bind

end Step

/-- What every change preserves is preserved by any number of them. -/
theorem preserved_of_changes {σ : Type} {R : σ → σ → Prop} {I : σ → Prop}
    (h : ∀ s s', R s s' → I s → I s') {s s' : σ} (hr : Relation.ReflTransGen R s s') (hs : I s) :
    I s' := by
  induction hr with
  | refl => exact hs
  | tail _ hstep ih => exact h _ _ hstep ih

end ModelLang
