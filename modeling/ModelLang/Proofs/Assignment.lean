import Mathlib.Algebra.Order.Field.Rat
import Mathlib.Tactic.Linarith
import Mathlib.Tactic.Ring
import ModelLang.Model.Build

/-!
# ModelLang.Proofs.Assignment

What terms, rows and models say about an assignment of fractions to the variables. A term is a
linear function, and every operation on terms is the same operation on values (`value_add`,
`value_scale`, `value_sub`). A term that mentions variables below `n` only has the same value at
assignments that agree below `n` (`value_congr`), and so have the rows built from it.
-/

namespace ModelLang

/-- A fraction for each variable. -/
abbrev Assignment := VarId → Rat

/-- The two assignments give the same to the variables below `n`. -/
def Assignment.AgreeBelow (n : Nat) (s s' : Assignment) : Prop :=
  ∀ v, v < n → s v = s' v

namespace Assignment.AgreeBelow

variable {n k : Nat} {s s' s'' : Assignment}

theorem refl (n : Nat) (s : Assignment) : AgreeBelow n s s := fun _ _ => rfl

theorem symm (h : AgreeBelow n s s') : AgreeBelow n s' s := fun v hv => (h v hv).symm

theorem trans (h : AgreeBelow n s s') (h' : AgreeBelow n s' s'') : AgreeBelow n s s'' :=
  fun v hv => (h v hv).trans (h' v hv)

theorem mono (hk : k ≤ n) (h : AgreeBelow n s s') : AgreeBelow k s s' :=
  fun v hv => h v (Nat.lt_of_lt_of_le hv hk)

end Assignment.AgreeBelow

/-! ## Values of terms -/

namespace Coefs

def value (s : Assignment) : Coefs → Rat
  | [] => 0
  | (v, q) :: rest => q * s v + value s rest

/-- Every variable is below `n`. -/
def Below (n : Nat) (cs : Coefs) : Prop :=
  ∀ c ∈ cs, c.1 < n

theorem value_consNonzero (s : Assignment) (v : VarId) (q : Rat) (cs : Coefs) :
    (consNonzero v q cs).value s = q * s v + cs.value s := by
  unfold consNonzero
  split
  · rename_i h
    rw [h]
    ring
  · rfl

theorem value_add (s : Assignment) (cs ds : Coefs) :
    (cs.add ds).value s = cs.value s + ds.value s := by
  fun_induction add cs ds with
  | case1 ds => simp [value]
  | case2 cs => simp [value]
  | case3 v q cs w r ds hvw ih =>
    simp only [value] at ih ⊢
    rw [ih]
    ring
  | case4 v q cs w r ds hvw hwv ih =>
    simp only [value] at ih ⊢
    rw [ih]
    ring
  | case5 v q cs w r ds hvw hwv ih =>
    have he : v = w := Nat.le_antisymm (Nat.le_of_not_lt hwv) (Nat.le_of_not_lt hvw)
    subst he
    rw [value_consNonzero, ih]
    simp only [value]
    ring

theorem value_scale (s : Assignment) (factor : Rat) (cs : Coefs) :
    (cs.scale factor).value s = cs.value s * factor := by
  induction cs with
  | nil => simp [scale, value]
  | cons c cs ih =>
    simp only [scale, List.map_cons, value] at ih ⊢
    rw [ih]
    ring

theorem value_congr {n : Nat} {cs : Coefs} (h : cs.Below n) {s s' : Assignment}
    (hs : s.AgreeBelow n s') : cs.value s = cs.value s' := by
  induction cs with
  | nil => rfl
  | cons c cs ih =>
    have hc : c.1 < n := h c (by simp)
    simp only [value]
    rw [hs c.1 hc, ih fun d hd => h d (by simp [hd])]

theorem below_add {n : Nat} {cs ds : Coefs} (hc : cs.Below n) (hd : ds.Below n) :
    (cs.add ds).Below n := by
  intro c h
  rcases mem_add h with ⟨d, hm, he⟩ | ⟨d, hm, he⟩
  · exact he ▸ hc d hm
  · exact he ▸ hd d hm

theorem below_scale {n : Nat} {factor : Rat} {cs : Coefs} (h : cs.Below n) :
    (cs.scale factor).Below n := by
  intro c hc
  simp only [scale, List.mem_map] at hc
  obtain ⟨d, hd, rfl⟩ := hc
  exact h d hd

end Coefs

namespace Term

def value (s : Assignment) (t : Term) : Rat :=
  t.constant + t.coefs.value s

/-- Every variable is below `n`. -/
def Below (n : Nat) (t : Term) : Prop :=
  t.coefs.Below n

variable (s : Assignment)

@[simp] theorem value_ofConstant (q : Rat) : (ofConstant q).value s = q := by
  simp [value, ofConstant, Coefs.value]

@[simp] theorem value_zero : (0 : Term).value s = 0 := value_ofConstant s 0

@[simp] theorem value_ofVar (v : VarId) : (ofVar v).value s = s v := by
  simp [value, ofVar, ofCoef, Coefs.consNonzero, Coefs.value]

@[simp] theorem value_add (t u : Term) : (t.add u).value s = t.value s + u.value s := by
  simp only [value, add, Coefs.value_add]
  ring

@[simp] theorem value_scale (t : Term) (factor : Rat) :
    (t.scale factor).value s = t.value s * factor := by
  unfold scale
  split
  · rename_i h
    simp [h]
  · simp only [value, Coefs.value_scale]
    ring

@[simp] theorem value_neg (t : Term) : t.neg.value s = -t.value s := by
  simp [neg]

@[simp] theorem value_sub (t u : Term) : (t.sub u).value s = t.value s - u.value s := by
  rw [sub, value_add, value_neg]
  ring

/-- The constant is what the linear part leaves of a value. -/
theorem value_linearPart (t : Term) : t.linearPart.value s = t.value s - t.constant := by
  simp only [value, linearPart]
  ring

variable {s}

theorem value_congr {n : Nat} {t : Term} (h : t.Below n) {s s' : Assignment}
    (hs : s.AgreeBelow n s') : t.value s = t.value s' := by
  rw [value, value, Coefs.value_congr h hs]

theorem Below.mono {n k : Nat} {t : Term} (h : t.Below n) (hk : n ≤ k) : t.Below k :=
  fun c hc => Nat.lt_of_lt_of_le (h c hc) hk

theorem below_ofConstant (n : Nat) (q : Rat) : (ofConstant q).Below n := by
  intro c hc
  simp [ofConstant] at hc

theorem below_ofVar {n v : Nat} (h : v < n) : (ofVar v).Below n := by
  intro c hc
  simp only [ofVar, ofCoef, Coefs.consNonzero] at hc
  simp at hc
  rw [hc]
  exact h

theorem below_add {n : Nat} {t u : Term} (ht : t.Below n) (hu : u.Below n) : (t.add u).Below n :=
  Coefs.below_add ht hu

theorem below_scale {n : Nat} {t : Term} {factor : Rat} (h : t.Below n) :
    (t.scale factor).Below n := by
  unfold scale
  split
  · exact below_ofConstant n 0
  · exact Coefs.below_scale h

theorem below_neg {n : Nat} {t : Term} (h : t.Below n) : t.neg.Below n := below_scale h

theorem below_sub {n : Nat} {t u : Term} (ht : t.Below n) (hu : u.Below n) : (t.sub u).Below n :=
  below_add ht (below_neg hu)

end Term

/-! ## Order of numbers -/

namespace Number

@[simp] theorem finite_le_finite {a b : Rat} : finite a ≤ finite b ↔ a ≤ b := by
  simp [le_iff_below, below]

@[simp] theorem minusInfinity_le (n : Number) : minusInfinity ≤ n := by
  cases n <;> simp [le_iff_below, below]

@[simp] theorem le_plusInfinity (n : Number) : n ≤ plusInfinity := by
  cases n <;> simp [le_iff_below, below]

@[simp] theorem not_finite_le_minusInfinity (a : Rat) : ¬ finite a ≤ minusInfinity := by
  simp [le_iff_below, below]

@[simp] theorem not_plusInfinity_le_finite (a : Rat) : ¬ plusInfinity ≤ finite a := by
  simp [le_iff_below, below]

@[simp] theorem zero_eq_finite : (0 : Number) = finite 0 := rfl

@[simp] theorem one_eq_finite : (1 : Number) = finite 1 := rfl

end Number

/-! ## Rows and models -/

/-- How a value relates to zero. -/
def ConRel.Holds (x : Rat) : ConRel → Prop
  | le => x ≤ 0
  | ge => 0 ≤ x
  | eq => x = 0

namespace Row

/-- The sides that the relation names bound the term. -/
def Holds (s : Assignment) (r : Row) : Prop :=
  match r.relation with
  | .atLeast => r.lhs ≤ .finite (r.term.value s)
  | .atMost => .finite (r.term.value s) ≤ r.rhs
  | .equal => .finite (r.term.value s) = r.rhs
  | .between => r.lhs ≤ .finite (r.term.value s) ∧ .finite (r.term.value s) ≤ r.rhs

theorem holds_congr {n : Nat} {r : Row} (h : r.term.Below n) {s s' : Assignment}
    (hs : s.AgreeBelow n s') : r.Holds s ↔ r.Holds s' := by
  unfold Holds
  rw [Term.value_congr h hs]

end Row

namespace Variable

/-- A value within the bounds. -/
def Bounds (x : Variable) (q : Rat) : Prop :=
  x.lower ≤ .finite q ∧ .finite q ≤ x.upper

/-- A value that a solution may give to the variable: within the bounds, and an integer unless the
variable is continuous. -/
def Admits (x : Variable) (q : Rat) : Prop :=
  x.Bounds q ∧ (x.kind ≠ .continuous → q.den = 1)

instance (x : Variable) (q : Rat) : Decidable (x.Bounds q) :=
  inferInstanceAs (Decidable (_ ∧ _))

instance (x : Variable) (q : Rat) : Decidable (x.Admits q) :=
  inferInstanceAs (Decidable (_ ∧ _))

end Variable

namespace Model

/-- Every variable is within its bounds. -/
def Within (m : Model) (s : Assignment) : Prop :=
  ∀ v x, m.get? v = some x → x.Bounds (s v)

/-- Every variable is within its bounds, and an integer unless it is continuous. -/
def Respects (m : Model) (s : Assignment) : Prop :=
  ∀ v x, m.get? v = some x → x.Admits (s v)

theorem Respects.within {m : Model} {s : Assignment} (h : m.Respects s) : m.Within s :=
  fun v x hx => (h v x hx).1

theorem get?_lt {m : Model} {v : VarId} {x : Variable} (h : m.get? v = some x) :
    v < m.vars.size := by
  rw [get?] at h
  exact (Array.getElem?_eq_some_iff.1 h).1

theorem within_congr {m m' : Model} (h : m'.vars = m.vars) (s : Assignment) :
    m'.Within s ↔ m.Within s := by
  simp only [Within, get?, h]

theorem Respects.congr {m : Model} {s s' : Assignment} (hs : s.AgreeBelow m.vars.size s')
    (h : m.Respects s) : m.Respects s' := by
  intro v x hx
  rw [← hs v (get?_lt hx)]
  exact h v x hx

end Model

end ModelLang
