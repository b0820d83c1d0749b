/-!
# ModelLang.Step

Computations that change a state and may fail. The state that a failing computation had reached
is kept.
-/

namespace ModelLang

def Step (σ ε α : Type) : Type := σ → Except ε α × σ

namespace Step

variable {σ τ ε δ α β : Type}

def pure (a : α) : Step σ ε α := fun s => (.ok a, s)

def bind (x : Step σ ε α) (f : α → Step σ ε β) : Step σ ε β := fun s =>
  match x s with
  | (.ok a, s) => f a s
  | (.error e, s) => (.error e, s)

instance : Monad (Step σ ε) where
  pure := pure
  bind := bind

def fail (e : ε) : Step σ ε α := fun s => (.error e, s)

def get : Step σ ε σ := fun s => (.ok s, s)

def modify (f : σ → σ) : Step σ ε Unit := fun s => (.ok (), f s)

/-- A result that needs no state. -/
def ofExcept (x : Except ε α) : Step σ ε α := fun s => (x, s)

/-- The same computation with another kind of error. -/
def mapError (f : ε → δ) (x : Step σ ε α) : Step σ δ α := fun s =>
  match x s with
  | (.ok a, s) => (.ok a, s)
  | (.error e, s) => (.error (f e), s)

/-- Runs a computation on a part of the state. -/
def onPart (view : σ → τ) (put : τ → σ → σ) (x : Step τ ε α) : Step σ ε α := fun s =>
  match x (view s) with
  | (a, t) => (a, put t s)

@[simp] theorem pure_apply (a : α) (s : σ) : (Pure.pure a : Step σ ε α) s = (.ok a, s) := rfl

theorem bind_apply (x : Step σ ε α) (f : α → Step σ ε β) (s : σ) :
    (x >>= f) s =
      match x s with
      | (.ok a, s) => f a s
      | (.error e, s) => (.error e, s) := rfl

theorem bind_of_ok {x : Step σ ε α} {s s' : σ} {a : α} (h : x s = (.ok a, s'))
    (f : α → Step σ ε β) : (x >>= f) s = f a s' := by
  rw [bind_apply, h]

theorem bind_of_error {x : Step σ ε α} {s s' : σ} {e : ε} (h : x s = (.error e, s'))
    (f : α → Step σ ε β) : (x >>= f) s = (.error e, s') := by
  rw [bind_apply, h]

theorem bind_eq_ok {x : Step σ ε α} {f : α → Step σ ε β} {s s' : σ} {b : β} :
    (x >>= f) s = (.ok b, s') ↔ ∃ a s₁, x s = (.ok a, s₁) ∧ f a s₁ = (.ok b, s') := by
  rw [bind_apply]
  cases x s with
  | mk r s₁ =>
    cases r with
    | error e => simp
    | ok a =>
      constructor
      · intro h
        exact ⟨a, s₁, rfl, h⟩
      · rintro ⟨_, _, he, h⟩
        cases he
        exact h

theorem exists_of_isOk {x : Step σ ε α} {s : σ} (h : (x s).1.isOk = true) :
    ∃ a s', x s = (.ok a, s') := by
  rcases hx : x s with ⟨_ | a, s'⟩
  · rw [hx] at h
    cases h
  · exact ⟨a, s', rfl⟩

theorem bind_eq_error {x : Step σ ε α} {f : α → Step σ ε β} {s s' : σ} {e : ε} :
    (x >>= f) s = (.error e, s') ↔
      x s = (.error e, s') ∨ ∃ a s₁, x s = (.ok a, s₁) ∧ f a s₁ = (.error e, s') := by
  rw [bind_apply]
  cases x s with
  | mk r s₁ =>
    cases r with
    | error e => simp
    | ok a =>
      constructor
      · intro h
        exact .inr ⟨a, s₁, rfl, h⟩
      · rintro (he | ⟨_, _, he, h⟩)
        · cases he
        · cases he
          exact h

theorem id_map (x : Step σ ε α) : id <$> x = x := by
  funext s
  show (match x s with | (.ok a, s) => _ | (.error e, s) => _) = _
  rcases x s with ⟨_ | _, _⟩ <;> rfl

theorem bind_assoc {γ : Type} (x : Step σ ε α) (f : α → Step σ ε β) (g : β → Step σ ε γ) :
    x >>= f >>= g = x >>= fun a => f a >>= g := by
  funext s
  simp only [bind_apply]
  rcases x s with ⟨_ | _, _⟩ <;> rfl

instance : LawfulMonad (Step σ ε) :=
  LawfulMonad.mk' _ id_map (fun _ _ => rfl) bind_assoc

end Step

end ModelLang
