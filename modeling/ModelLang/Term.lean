import ModelLang.Cause

/-!
# ModelLang.Term

Linear expressions: a coefficient for each of finitely many variables, and a constant. The
coefficients ascend by variable and none is zero, so that a linear function has one term only.
-/

namespace ModelLang

/-- A variable of the model, by its position there. -/
abbrev VarId := Nat

/-- Coefficients in ascending order of their variables. -/
abbrev Coefs := List (VarId × Rat)

namespace Coefs

/-- No variable twice, in ascending order, and no coefficient zero. -/
def Canonical (cs : Coefs) : Prop :=
  cs.Pairwise (fun a b => a.1 < b.1) ∧ ∀ c ∈ cs, c.2 ≠ 0

/-- One more coefficient in front, unless it is zero. -/
def consNonzero (v : VarId) (q : Rat) (cs : Coefs) : Coefs :=
  if q = 0 then cs else (v, q) :: cs

/-- The coefficients of the sum of two linear functions. -/
def add : Coefs → Coefs → Coefs
  | [], ds => ds
  | cs, [] => cs
  | (v, q) :: cs, (w, r) :: ds =>
    if v < w then (v, q) :: add cs ((w, r) :: ds)
    else if w < v then (w, r) :: add ((v, q) :: cs) ds
    else consNonzero v (q + r) (add cs ds)
termination_by cs ds => cs.length + ds.length

def scale (factor : Rat) (cs : Coefs) : Coefs :=
  cs.map fun c => (c.1, c.2 * factor)

/-- The coefficient of a variable, zero if none is stored. -/
def get (v : VarId) (cs : Coefs) : Rat :=
  ((cs.find? fun c => c.1 = v).map Prod.snd).getD 0

theorem canonical_nil : Canonical [] := by simp [Canonical]

theorem canonical_cons {v : VarId} {q : Rat} {cs : Coefs} :
    Canonical ((v, q) :: cs) ↔ (∀ c ∈ cs, v < c.1) ∧ q ≠ 0 ∧ Canonical cs := by
  simp only [Canonical, List.pairwise_cons, List.mem_cons, forall_eq_or_imp]
  constructor
  · rintro ⟨⟨h₁, h₂⟩, h₃, h₄⟩
    exact ⟨h₁, h₃, h₂, h₄⟩
  · rintro ⟨h₁, h₃, h₂, h₄⟩
    exact ⟨⟨h₁, h₂⟩, h₃, h₄⟩

/-- A sum holds variables of its operands only. -/
theorem mem_add {c : VarId × Rat} {cs ds : Coefs} (h : c ∈ add cs ds) :
    (∃ d ∈ cs, d.1 = c.1) ∨ ∃ d ∈ ds, d.1 = c.1 := by
  fun_induction add cs ds with
  | case1 ds => exact .inr ⟨c, h, rfl⟩
  | case2 cs => exact .inl ⟨c, h, rfl⟩
  | case3 v q cs w r ds hvw ih =>
    simp only [List.mem_cons] at h
    rcases h with rfl | h
    · exact .inl ⟨_, by simp, rfl⟩
    · rcases ih h with ⟨d, hd, he⟩ | h
      · exact .inl ⟨d, by simp [hd], he⟩
      · exact .inr h
  | case4 v q cs w r ds hvw hwv ih =>
    simp only [List.mem_cons] at h
    rcases h with rfl | h
    · exact .inr ⟨_, by simp, rfl⟩
    · rcases ih h with h | ⟨d, hd, he⟩
      · exact .inl h
      · exact .inr ⟨d, by simp [hd], he⟩
  | case5 v q cs w r ds hvw hwv ih =>
    have h' : c ∈ add cs ds ∨ c.1 = v := by
      unfold consNonzero at h
      split at h
      · exact .inl h
      · simp only [List.mem_cons] at h
        rcases h with rfl | h
        · exact .inr rfl
        · exact .inl h
    rcases h' with h | h
    · rcases ih h with ⟨d, hd, he⟩ | ⟨d, hd, he⟩
      · exact .inl ⟨d, by simp [hd], he⟩
      · exact .inr ⟨d, by simp [hd], he⟩
    · exact .inl ⟨(v, q), by simp, h.symm⟩

theorem canonical_add {cs ds : Coefs} (hc : Canonical cs) (hd : Canonical ds) :
    Canonical (add cs ds) := by
  have above {v : VarId} {as bs : Coefs} (ha : ∀ c ∈ as, v < c.1) (hb : ∀ c ∈ bs, v < c.1) :
      ∀ c ∈ add as bs, v < c.1 := by
    intro c hc
    rcases mem_add hc with ⟨d, hd, he⟩ | ⟨d, hd, he⟩
    · exact he ▸ ha d hd
    · exact he ▸ hb d hd
  fun_induction add cs ds with
  | case1 => exact hd
  | case2 => exact hc
  | case3 v q cs w r ds hvw ih =>
    obtain ⟨h₁, h₂, h₃⟩ := canonical_cons.1 hc
    refine canonical_cons.2 ⟨above h₁ ?_, h₂, ih h₃ hd⟩
    intro c hcd
    simp only [List.mem_cons] at hcd
    rcases hcd with rfl | hcd
    · exact hvw
    · exact Nat.lt_trans hvw ((canonical_cons.1 hd).1 c hcd)
  | case4 v q cs w r ds hvw hwv ih =>
    obtain ⟨h₁, h₂, h₃⟩ := canonical_cons.1 hd
    refine canonical_cons.2 ⟨above ?_ h₁, h₂, ih hc h₃⟩
    intro c hcd
    simp only [List.mem_cons] at hcd
    rcases hcd with rfl | hcd
    · exact hwv
    · exact Nat.lt_trans hwv ((canonical_cons.1 hc).1 c hcd)
  | case5 v q cs w r ds hvw hwv ih =>
    have he : v = w := Nat.le_antisymm (Nat.le_of_not_lt hwv) (Nat.le_of_not_lt hvw)
    subst he
    obtain ⟨h₁, _, h₃⟩ := canonical_cons.1 hc
    obtain ⟨h₄, _, h₆⟩ := canonical_cons.1 hd
    unfold consNonzero
    split
    · exact ih h₃ h₆
    · rename_i hne
      exact canonical_cons.2 ⟨above h₁ h₄, hne, ih h₃ h₆⟩

theorem canonical_scale {factor : Rat} (hf : factor ≠ 0) {cs : Coefs} (h : Canonical cs) :
    Canonical (scale factor cs) := by
  refine ⟨?_, ?_⟩
  · rw [scale, List.pairwise_map]
    exact h.1
  · intro c hc
    simp only [scale, List.mem_map] at hc
    obtain ⟨d, hd, rfl⟩ := hc
    intro he
    rcases Rat.mul_eq_zero.1 he with he | he
    · exact h.2 d hd he
    · exact hf he

end Coefs

structure Term where
  coefs : Coefs
  constant : Rat
  canonical : coefs.Canonical

namespace Term

def ofConstant (q : Rat) : Term := ⟨[], q, Coefs.canonical_nil⟩

instance : Zero Term := ⟨ofConstant 0⟩

instance : Inhabited Term := ⟨0⟩

/-- One variable times a factor. -/
def ofCoef (v : VarId) (q : Rat) : Term where
  coefs := Coefs.consNonzero v q []
  constant := 0
  canonical := by
    unfold Coefs.consNonzero
    split
    · exact Coefs.canonical_nil
    · rename_i h
      exact Coefs.canonical_cons.2 ⟨by simp, h, Coefs.canonical_nil⟩

def ofVar (v : VarId) : Term := ofCoef v 1

def coef (t : Term) (v : VarId) : Rat := t.coefs.get v

/-- Whether the term has no variables. -/
def isConstant (t : Term) : Bool := t.coefs.isEmpty

/-- The number of variables. -/
def size (t : Term) : Nat := t.coefs.length

/-- The variable that the term is, if it is one alone. -/
def var? (t : Term) : Option VarId :=
  match t.coefs with
  | [(v, q)] => if q = 1 && t.constant = 0 then some v else none
  | _ => none

/-- The term without its constant. -/
def linearPart (t : Term) : Term := { t with constant := 0 }

def addConstant (t : Term) (q : Rat) : Term := { t with constant := t.constant + q }

def add (s t : Term) : Term where
  coefs := s.coefs.add t.coefs
  constant := s.constant + t.constant
  canonical := Coefs.canonical_add s.canonical t.canonical

def addCoef (t : Term) (v : VarId) (q : Rat) : Term := t.add (ofCoef v q)

def scale (t : Term) (factor : Rat) : Term :=
  if h : factor = 0 then 0
  else ⟨t.coefs.scale factor, t.constant * factor, Coefs.canonical_scale h t.canonical⟩

def neg (t : Term) : Term := t.scale (-1)

def sub (s t : Term) : Term := s.add t.neg

/-- A product, as long as one factor has no variables. -/
def mul (s t : Term) : Except Cause Term :=
  if t.isConstant then .ok (s.scale t.constant)
  else if s.isConstant then .ok (t.scale s.constant)
  else .error .nonlinear

def div (t : Term) (divisor : Rat) : Except Cause Term :=
  if divisor = 0 then .error .divisionByZero else .ok (t.scale divisor⁻¹)

/-- The term as text, with the given names of variables. A constant of zero is left out beside
variables. -/
def shownWith (name : VarId → String) (t : Term) : String :=
  let parts := t.coefs.map fun c => ratText c.2 ++ " " ++ name c.1
  let parts := if parts.isEmpty || t.constant ≠ 0 then parts ++ [ratText t.constant] else parts
  String.intercalate " + " parts

/-- The term as text, with variables by number. -/
def shown (t : Term) : String := t.shownWith fun v => s!"v{v}"

theorem ext_iff' {s t : Term} : s = t ↔ s.coefs = t.coefs ∧ s.constant = t.constant := by
  cases s
  cases t
  simp

instance : DecidableEq Term := fun _ _ => decidable_of_iff _ ext_iff'.symm

end Term

end ModelLang
