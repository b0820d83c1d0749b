import ModelLang.Proofs.Assignment
import ModelLang.Proofs.Routine

/-!
# ModelLang.Proofs.Linear

Values as linear functions. Finite numbers and terms both have a fraction as their value at an
assignment (`Value.under`), and the operators on values are arithmetic on these fractions, however
numbers and terms mix and whether or not variables cancel (`Lifts.under`, `div_under`, `neg_under`).
Products of two terms and quotients by a term are the only operations that are not linear.
-/

namespace ModelLang

theorem Term.coefs_of_isConstant {t : Term} (h : t.isConstant = true) (s : Assignment) :
    t.value s = t.constant := by
  simp [isConstant] at h
  simp [value, h, Coefs.value]

theorem Term.value_mul {t u r : Term} (h : t.mul u = .ok r) (s : Assignment) :
    r.value s = t.value s * u.value s := by
  unfold mul at h
  split at h
  · rename_i hu
    cases h
    rw [value_scale, coefs_of_isConstant hu]
  · split at h
    · rename_i ht
      cases h
      rw [value_scale, coefs_of_isConstant ht, mul_comm]
    · cases h

theorem Term.value_div {t r : Term} {q : Rat} (h : t.div q = .ok r) (s : Assignment) :
    r.value s = t.value s / q := by
  unfold div at h
  split at h
  · cases h
  · cases h
    rw [value_scale, div_eq_mul_inv]

namespace Value

/-- What a finite number or a term is at an assignment. -/
def under (s : Assignment) : Value → Option Rat
  | number (.finite q) => some q
  | term t => some (t.value s)
  | _ => none

/-- A value that is a linear function: a finite number or a term. -/
def IsLinear : Value → Prop
  | number (.finite _) | term _ => True
  | _ => False

def IsTerm (v : Value) : Prop :=
  ∃ t, v = .term t

variable {s : Assignment} {u v r : Value} {x y : Rat}

theorem isLinear_iff : v.IsLinear ↔ (∃ q, v = .number (.finite q)) ∨ v.IsTerm := by
  cases v with
  | number n => cases n <;> simp [IsLinear, IsTerm]
  | term t => simp [IsLinear, IsTerm]
  | string _ | truth _ | tuple _ | set _ => simp [IsLinear, IsTerm]

theorem isLinear_of_under (h : v.under s = some x) : v.IsLinear := by
  unfold under at h
  split at h
  · trivial
  · trivial
  · cases h

theorem exists_under (h : v.IsLinear) (s : Assignment) : ∃ x, v.under s = some x := by
  rcases isLinear_iff.1 h with ⟨q, rfl⟩ | ⟨t, rfl⟩
  · exact ⟨q, rfl⟩
  · exact ⟨_, rfl⟩

theorem ofTerm_under (t : Term) : (ofTerm t).under s = some (t.value s) := by
  unfold ofTerm
  split
  · rename_i h
    rw [Term.coefs_of_isConstant h]
    rfl
  · rfl

theorem asTerm_under {op : String} {t : Term} (h : v.asTerm op = .ok t) (s : Assignment) :
    v.under s = some (t.value s) := by
  cases v with
  | term u =>
    cases h
    rfl
  | number n =>
    cases n with
    | finite q =>
      cases h
      simp [under]
    | minusInfinity => cases h
    | plusInfinity => cases h
  | string _ | truth _ | tuple _ | set _ => cases h

/-- An operator that is `f` on terms and `k` on fractions. Numbers become terms beside a term. -/
structure Lifts (op : String) (f : Term → Term → Except Cause Term) (k : Rat → Rat → Rat)
    (g : Value → Value → Except Cause Value) : Prop where
  numbers (p q : Rat) : g (ofRat p) (ofRat q) = .ok (ofRat (k p q))
  terms (t₁ t₂ : Term) : g (term t₁) (term t₂) = linear op f (term t₁) (term t₂)
  left (t : Term) (q : Rat) : g (term t) (ofRat q) = linear op f (term t) (ofRat q)
  right (q : Rat) (t : Term) : g (ofRat q) (term t) = linear op f (ofRat q) (term t)
  value {t₁ t₂ t : Term} (s : Assignment) :
    f t₁ t₂ = .ok t → t.value s = k (t₁.value s) (t₂.value s)

namespace Lifts

theorem add : Lifts "+" (fun t₁ t₂ => .ok (t₁.add t₂)) (· + ·) add where
  numbers _ _ := rfl
  terms _ _ := rfl
  left _ _ := rfl
  right _ _ := rfl
  value := by
    rintro t₁ t₂ _ s ⟨⟩
    exact Term.value_add s t₁ t₂

theorem sub : Lifts "-" (fun t₁ t₂ => .ok (t₁.sub t₂)) (· - ·) sub where
  numbers p q := by
    rw [sub_eq_add_neg]
    rfl
  terms _ _ := rfl
  left _ _ := rfl
  right _ _ := rfl
  value := by
    rintro t₁ t₂ _ s ⟨⟩
    exact Term.value_sub s t₁ t₂

theorem mul : Lifts "*" Term.mul (· * ·) mul where
  numbers _ _ := rfl
  terms _ _ := rfl
  left _ _ := rfl
  right _ _ := rfl
  value s h := Term.value_mul h s

variable {op : String} {f : Term → Term → Except Cause Term} {k : Rat → Rat → Rat}
  {g : Value → Value → Except Cause Value}

theorem linear_under (hg : Lifts op f k g) (hu : u.under s = some x) (hv : v.under s = some y)
    (h : linear op f u v = .ok r) : r.under s = some (k x y) := by
  unfold linear at h
  split at h
  · cases h
  · rename_i t₁ h₁
    split at h
    · cases h
    · rename_i t₂ h₂
      obtain ⟨t, ht, rfl⟩ := (map_eq_ok _ _ _).1 h
      rw [asTerm_under h₁] at hu
      rw [asTerm_under h₂] at hv
      cases hu
      cases hv
      rw [ofTerm_under, hg.value s ht]

/-- The value of a result is the operation on the values of the operands. -/
theorem under (hg : Lifts op f k g) (hu : u.under s = some x) (hv : v.under s = some y)
    (h : g u v = .ok r) : r.under s = some (k x y) := by
  rcases isLinear_iff.1 (isLinear_of_under hu) with ⟨p, rfl⟩ | ⟨t₁, rfl⟩
  · rcases isLinear_iff.1 (isLinear_of_under hv) with ⟨q, rfl⟩ | ⟨t₂, rfl⟩
    · cases hu
      cases hv
      cases (hg.numbers x y).symm.trans h
      rfl
    · exact hg.linear_under hu hv ((hg.right p t₂).symm.trans h)
  · rcases isLinear_iff.1 (isLinear_of_under hv) with ⟨q, rfl⟩ | ⟨t₂, rfl⟩
    · exact hg.linear_under hu hv ((hg.left t₁ q).symm.trans h)
    · exact hg.linear_under hu hv ((hg.terms t₁ t₂).symm.trans h)

end Lifts

theorem div_under (hu : u.under s = some x) (hv : v.under s = some y) (h : u.div v = .ok r) :
    r.under s = some (x / y) := by
  rcases isLinear_iff.1 (isLinear_of_under hv) with ⟨q, rfl⟩ | ⟨t₂, rfl⟩
  · cases hv
    rcases isLinear_iff.1 (isLinear_of_under hu) with ⟨p, rfl⟩ | ⟨t₁, rfl⟩
    · cases hu
      simp only [div, Number.div] at h
      split at h
      · cases h
      · cases h
        rfl
    · cases hu
      obtain ⟨t, ht, hr⟩ := (map_eq_ok _ _ _).1 (h : (t₁.div y).map ofTerm = .ok r)
      rw [← hr, ofTerm_under, Term.value_div ht]
  · rcases isLinear_iff.1 (isLinear_of_under hu) with ⟨p, rfl⟩ | ⟨t₁, rfl⟩
    · cases h
    · cases h

theorem neg_under (hu : u.under s = some x) (h : u.neg = .ok r) : r.under s = some (-x) := by
  rcases isLinear_iff.1 (isLinear_of_under hu) with ⟨p, rfl⟩ | ⟨t, rfl⟩
  · cases hu
    cases h
    rfl
  · cases hu
    cases h
    rw [under, Term.value_neg]

/-! ## Failures -/

variable (u v)

@[grind .] theorem asTerm_usual (op : String) : Usual (u.asTerm op) := by
  cases u <;> grind [asTerm]

theorem linear_usual (op : String) {f : Term → Term → Except Cause Term}
    (hf : ∀ t₁ t₂, Usual (f t₁ t₂)) : Usual (linear op f u v) := by
  grind [linear]

theorem add_usual : Usual (u.add v) := by
  have hterm := linear_usual u v "+" (f := fun t₁ t₂ => .ok (t₁.add t₂)) fun _ _ => ⟨nofun, nofun⟩
  cases u <;> cases v <;> grind [add, mismatch]

theorem sub_usual : Usual (u.sub v) := by
  have hterm := linear_usual u v "-" (f := fun t₁ t₂ => .ok (t₁.sub t₂)) fun _ _ => ⟨nofun, nofun⟩
  cases u <;> cases v <;> grind [sub, mismatch]

theorem neg_usual : Usual u.neg := by
  cases u <;> grind [neg]

/-- What is not linear is no overflow either. -/
theorem mul_ne_overflow : u.mul v ≠ .error .overflow := by
  cases u <;> cases v <;> grind [mul, mismatch, linear, Term.mul]

theorem div_ne_overflow : u.div v ≠ .error .overflow := by
  cases u <;> cases v <;> grind [div, mismatch, Term.div]

variable {u v}

/-- A product of which one factor is no term does not fail for being nonlinear. -/
theorem mul_routine (h : ¬ (u.IsTerm ∧ v.IsTerm)) : u.mul v ≠ .error .nonlinear := by
  have hconst (q : Rat) : (Term.ofConstant q).isConstant = true := rfl
  cases u <;> cases v <;>
    grind [mul, mismatch, linear, asTerm, Number.finite?, IsTerm, Term.mul]

theorem div_routine (h : ¬ v.IsTerm) : u.div v ≠ .error .nonlinear := by
  cases u <;> cases v <;> grind [div, mismatch, IsTerm, Term.div]

end Value

end ModelLang
