import Mathlib.Algebra.Group.Pi.Basic
import Mathlib.Data.List.Sort
import ModelLang.Proofs.Edit
import ModelLang.Proofs.Linear

/-!
# ModelLang.Proofs.Canonical

Terms are canonical: what a term stores can be read off its values. The constant is the value where
all variables are zero, and a coefficient is what its variable adds where it is one
(`Term.coef_eq`), so that a linear function has one term only (`Term.eq_iff_value`). However a term
is put together, its values are the same combination of the values of its parts
(`Term.Construction.value_build`), and cancelled variables are gone (`Term.construction_canonical`).
-/

namespace ModelLang

/-- One for a single variable, and zero for all others. -/
def Assignment.unit (v : VarId) : Assignment := Pi.single v 1

/-! ## Coefficients -/

namespace Coefs

variable {cs ds : Coefs} {v : VarId} {q : Rat}

@[simp] theorem value_at_zero (cs : Coefs) : cs.value 0 = 0 := by
  induction cs with
  | nil => rfl
  | cons c cs ih => simp [value, ih]

theorem value_unit (h : cs.Canonical) (v : VarId) : cs.value (.unit v) = cs.get v := by
  induction cs with
  | nil => rfl
  | cons c cs ih =>
    obtain ⟨w, q⟩ := c
    obtain ⟨habove, -, hcs⟩ := canonical_cons.1 h
    rw [value, ih hcs]
    by_cases hw : w = v
    · subst hw
      rw [get_head, get_of_absent fun c hc => (habove c hc).ne', Assignment.unit, Pi.single_eq_same]
      ring
    · rw [get_cons_of_ne hw, Assignment.unit, Pi.single_eq_of_ne hw]
      ring

/-- Precisely the coefficients that are not zero are stored. -/
theorem mem_iff (h : cs.Canonical) : (v, q) ∈ cs ↔ q ≠ 0 ∧ q = cs.get v := by
  induction cs with
  | nil => simp [get]
  | cons c cs ih =>
    obtain ⟨w, p⟩ := c
    obtain ⟨habove, hp, hcs⟩ := canonical_cons.1 h
    by_cases hw : w = v
    · subst hw
      have hcs : (w, q) ∉ cs := fun hmem => lt_irrefl w (habove _ hmem)
      rw [get_head, List.mem_cons, Prod.mk.injEq]
      constructor
      · rintro (⟨-, rfl⟩ | hmem)
        · exact ⟨hp, rfl⟩
        · exact absurd hmem hcs
      · rintro ⟨-, rfl⟩
        exact .inl ⟨rfl, rfl⟩
    · rw [get_cons_of_ne hw, ← ih hcs, List.mem_cons, Prod.mk.injEq]
      exact or_iff_right fun he => hw he.1.symm

theorem eq_of_get (hc : cs.Canonical) (hd : ds.Canonical) (h : ∀ v, cs.get v = ds.get v) :
    cs = ds := by
  have hirrefl : Std.Irrefl fun a b : VarId × Rat => a.1 < b.1 := ⟨fun a => lt_irrefl a.1⟩
  refine hc.1.eq_of_mem_iff hd.1 ?_
  rintro ⟨v, q⟩
  rw [mem_iff hc, mem_iff hd, h v]

end Coefs

/-! ## Terms -/

namespace Term

variable {t u : Term} {v : VarId} {q : Rat}

@[simp] theorem value_at_zero (t : Term) : t.value 0 = t.constant := by
  simp [value]

theorem coef_eq (t : Term) (v : VarId) : t.coef v = t.value (.unit v) - t.value 0 := by
  rw [value_at_zero, value, Coefs.value_unit t.canonical, coef]
  ring

theorem eq_iff_value : t = u ↔ ∀ s, t.value s = u.value s := by
  constructor
  · rintro rfl s
    rfl
  · intro h
    have hcoef (v : VarId) : t.coef v = u.coef v := by rw [coef_eq, coef_eq, h, h]
    have hconstant : t.constant = u.constant := by rw [← value_at_zero t, h, value_at_zero]
    exact ext_iff'.2 ⟨Coefs.eq_of_get t.canonical u.canonical hcoef, hconstant⟩

@[simp] theorem value_addConstant (s : Assignment) (t : Term) (q : Rat) :
    (t.addConstant q).value s = t.value s + q := by
  simp only [value, addConstant]
  ring

@[simp] theorem value_addCoef (s : Assignment) (t : Term) (v : VarId) (q : Rat) :
    (t.addCoef v q).value s = t.value s + q * s v := by
  rw [addCoef, value_add]
  simp [value, ofCoef, Coefs.value_consNonzero, Coefs.value]

/-- Without variables the value is the same everywhere, and only then. -/
theorem isConstant_iff : t.isConstant = true ↔ ∀ s, t.value s = t.value 0 := by
  constructor
  · intro h s
    rw [coefs_of_isConstant h, coefs_of_isConstant h]
  · intro h
    have ht : t = .ofConstant (t.value 0) := eq_iff_value.2 fun s => by rw [h s, value_ofConstant]
    rw [ht]
    rfl

theorem isConstant_iff_coefs : t.isConstant = true ↔ t.coefs = [] :=
  List.isEmpty_iff

/-- There is a product unless both factors have variables. -/
theorem exists_mul_iff : (∃ r, t.mul u = .ok r) ↔ t.coefs = [] ∨ u.coefs = [] := by
  rw [← isConstant_iff_coefs, ← isConstant_iff_coefs, mul]
  cases t.isConstant <;> cases u.isConstant <;> simp

theorem mul_comm (t u : Term) : t.mul u = u.mul t := by
  unfold mul
  by_cases ht : t.isConstant = true <;> by_cases hu : u.isConstant = true
  · rw [if_pos hu, if_pos ht]
    congr 1
    refine eq_iff_value.2 fun s => ?_
    rw [value_scale, value_scale, coefs_of_isConstant ht, coefs_of_isConstant hu,
      Rat.mul_comm]
  · rw [if_neg hu, if_pos ht, if_pos ht]
  · rw [if_pos hu, if_neg ht, if_pos hu]
  · rw [if_neg hu, if_neg ht, if_neg ht, if_neg hu]

theorem var?_eq_some_iff : t.var? = some v ↔ ∀ s, t.value s = s v := by
  have hvar : t.var? = some v ↔ t = ofVar v := by
    rw [var?, ext_iff']
    constructor
    · intro h
      split at h
      · rename_i w q hcoefs
        split at h
        · rename_i hone
          rw [Bool.and_eq_true, decide_eq_true_eq, decide_eq_true_eq] at hone
          cases h
          rw [hcoefs, hone.1, hone.2]
          exact ⟨rfl, rfl⟩
        · cases h
      · cases h
    · rintro ⟨hcoefs, hconstant⟩
      have hcoefs : t.coefs = [(v, 1)] := hcoefs
      have hconstant : t.constant = 0 := hconstant
      rw [hcoefs, hconstant]
      rfl
  rw [hvar, eq_iff_value]
  simp only [value_ofVar]

/-! ## Constructions -/

/-- A way to put a term together. -/
inductive Construction where
  | constant (q : Rat)
  | var (v : VarId)
  | addCoef (c : Construction) (v : VarId) (q : Rat)
  | addConstant (c : Construction) (q : Rat)
  /-- What is left of a term when its constant is taken. -/
  | takeConstant (c : Construction)
  | add (c d : Construction)
  | sub (c d : Construction)
  | scale (c : Construction) (factor : Rat)
  | div (c : Construction) (divisor : Rat)
  | mul (c d : Construction)

namespace Construction

/-- The term, if no quotient is by zero and no product of two terms with variables. -/
def build : Construction → Except Cause Term
  | constant q => .ok (.ofConstant q)
  | var v => .ok (.ofVar v)
  | addCoef c v q => do
    let t ← c.build
    return t.addCoef v q
  | addConstant c q => do
    let t ← c.build
    return t.addConstant q
  | takeConstant c => do
    let t ← c.build
    return t.linearPart
  | add c d => do
    let t ← c.build
    let u ← d.build
    return t.add u
  | sub c d => do
    let t ← c.build
    let u ← d.build
    return t.sub u
  | scale c factor => do
    let t ← c.build
    return t.scale factor
  | div c divisor => do
    let t ← c.build
    t.div divisor
  | mul c d => do
    let t ← c.build
    let u ← d.build
    t.mul u

/-- The same combination of values at an assignment. -/
def value (s : Assignment) : Construction → Rat
  | constant q => q
  | var v => s v
  | addCoef c v q => c.value s + q * s v
  | addConstant c q => c.value s + q
  | takeConstant c => c.value s - c.value 0
  | add c d => c.value s + d.value s
  | sub c d => c.value s - d.value s
  | scale c factor => c.value s * factor
  | div c divisor => c.value s / divisor
  | mul c d => c.value s * d.value s

theorem value_build {c : Construction} (h : c.build = .ok t) (s : Assignment) :
    t.value s = c.value s := by
  induction c generalizing t s with
  | constant q =>
    cases h
    exact value_ofConstant s q
  | var v =>
    cases h
    exact value_ofVar s v
  | addCoef c v q ih =>
    obtain ⟨u, hu, ⟨⟩⟩ := (bind_eq_ok _ _ _).1 h
    rw [value_addCoef, ih hu, value]
  | addConstant c q ih =>
    obtain ⟨u, hu, ⟨⟩⟩ := (bind_eq_ok _ _ _).1 h
    rw [value_addConstant, ih hu, value]
  | takeConstant c ih =>
    obtain ⟨u, hu, ⟨⟩⟩ := (bind_eq_ok _ _ _).1 h
    rw [value_linearPart, ← value_at_zero, ih hu, ih hu, value]
  | add c d ihc ihd =>
    obtain ⟨u, hu, h⟩ := (bind_eq_ok _ _ _).1 h
    obtain ⟨w, hw, ⟨⟩⟩ := (bind_eq_ok _ _ _).1 h
    rw [value_add, ihc hu, ihd hw, value]
  | sub c d ihc ihd =>
    obtain ⟨u, hu, h⟩ := (bind_eq_ok _ _ _).1 h
    obtain ⟨w, hw, ⟨⟩⟩ := (bind_eq_ok _ _ _).1 h
    rw [value_sub, ihc hu, ihd hw, value]
  | scale c factor ih =>
    obtain ⟨u, hu, ⟨⟩⟩ := (bind_eq_ok _ _ _).1 h
    rw [value_scale, ih hu, value]
  | div c divisor ih =>
    obtain ⟨u, hu, h⟩ := (bind_eq_ok _ _ _).1 h
    rw [value_div h, ih hu, value]
  | mul c d ihc ihd =>
    obtain ⟨u, hu, h⟩ := (bind_eq_ok _ _ _).1 h
    obtain ⟨w, hw, h⟩ := (bind_eq_ok _ _ _).1 h
    rw [value_mul h, ihc hu, ihd hw, value]

end Construction

/-- However terms are put together, they have the values of their parts put together in the same
way, and store precisely the coefficients of this function that are not zero. Two of them are equal
if the functions are. They have a product, which does not depend on their order, unless both have
variables; and a term is a single variable precisely if its value is always that of the variable. -/
theorem construction_canonical {c d : Construction} (hc : c.build = .ok t)
    (hd : d.build = .ok u) :
    (∀ s, t.value s = c.value s) ∧
    (∀ v q, (v, q) ∈ t.coefs ↔ q ≠ 0 ∧ q = c.value (.unit v) - c.value 0) ∧
    (t.coefs = [] ↔ ∀ s, c.value s = c.value 0) ∧
    (t = u ↔ ∀ s, c.value s = d.value s) ∧
    ((∃ r, t.mul u = .ok r) ↔ t.coefs = [] ∨ u.coefs = []) ∧ t.mul u = u.mul t ∧
    ∀ v, t.var? = some v ↔ ∀ s, c.value s = s v := by
  have ht := Construction.value_build hc
  have hu := Construction.value_build hd
  refine ⟨ht, ?coefs, ?constant, ?equal, exists_mul_iff, t.mul_comm u, ?single⟩
  case coefs =>
    intro v q
    rw [Coefs.mem_iff t.canonical, ← coef, coef_eq, ht, ht]
  case constant =>
    rw [← isConstant_iff_coefs, isConstant_iff]
    simp only [ht]
  case equal =>
    rw [eq_iff_value]
    simp only [ht, hu]
  case single =>
    intro v
    rw [var?_eq_some_iff]
    simp only [ht]

/-- The second variable cancels: what is left is the first, and not a term that still stores the
second with a zero. -/
theorem construction_canonical_cancelled :
    let c : Construction := .sub (.add (.var 0) (.var 1)) (.var 1)
    c.build = .ok (ofVar 0) ∧ (∀ q, (1, q) ∉ (ofVar 0).coefs) ∧ (ofVar 0).var? = some 0 := by
  intro c
  have hc : c.build = .ok (ofVar 0) := by decide +kernel
  obtain ⟨-, hcoefs, -, -, -, -, hsingle⟩ :=
    construction_canonical (c := c) (d := .var 0) hc rfl
  refine ⟨hc, fun q hq => ?_, (hsingle 0).2 fun s => by simp [c, Construction.value]⟩
  obtain ⟨hne, hq⟩ := (hcoefs 1 q).1 hq
  exact hne (by simpa [c, Construction.value, Assignment.unit] using hq)

end Term

end ModelLang
