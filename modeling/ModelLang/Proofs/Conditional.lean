import ModelLang.Proofs.Determined

/-!
# ModelLang.Proofs.Conditional

Conditional constraints as linear rows. `indicator_ok` is the invariant of the translation of a
condition, by induction on its tree: the rows determine the new binaries, and the resulting term is
one exactly when the condition holds. `branch_ok` says that the rows of a branch hold exactly when
its requirement does, or when the branch is not selected. `conditional_exact` puts the two
together.
-/

namespace ModelLang

/-! ## What conditions say of an assignment -/

/-- How a value compares with zero. -/
def Comparison.Relates (x : Rat) : Comparison → Prop
  | eq => x = 0
  | ne => x ≠ 0
  | lt => x < 0
  | le => x ≤ 0
  | gt => 0 < x
  | ge => 0 ≤ x

def Condition.Holds (s : Assignment) : Condition → Prop
  | atom t op => op.Relates (t.value s)
  | and c d => c.Holds s ∧ d.Holds s
  | or c d => c.Holds s ∨ d.Holds s
  | xor c d => c.Holds s ∧ ¬ d.Holds s ∨ d.Holds s ∧ ¬ c.Holds s
  | not c => ¬ c.Holds s

namespace Row

/-- The name comes from `base` and one of the suffixes. -/
def NamedWith (base : String) (suffixes : List String) (r : Row) : Prop :=
  ∃ suffix ∈ suffixes, r.NamedAfter (base ++ "_" ++ suffix)

/-- The name is that of a row which links a helper variable to a condition. -/
def Links (base : String) (r : Row) : Prop :=
  r.NamedWith base ["vif_c", "vif_and", "vif_or", "vif_xor"]

/-- The name is that of a row which enforces a branch. -/
def Enforces (base : String) (r : Row) : Prop :=
  r.NamedWith base ["vif_then", "vif_else"]

end Row

theorem local_value {n : Nat} {t : Term} (h : t.Below n) (P : Rat → Prop) :
    Local n fun s => P (t.value s) := by
  intro s s' hs
  show P _ ↔ P _
  rw [Term.value_congr h hs]

theorem local_values {n : Nat} {t u : Term} (ht : t.Below n) (hu : u.Below n)
    (P : Rat → Rat → Prop) : Local n fun s => P (t.value s) (u.value s) := by
  intro s s' hs
  show P _ _ ↔ P _ _
  rw [Term.value_congr ht hs, Term.value_congr hu hs]

namespace Build

variable {base suffix : String} {flags : ConFlags} {m m₁ m' : Model} {rs : List Row}
  {cs : List Requirement} {a b r t : Term}

/-! ## Single indicators -/

/-- A binary variable indicates a property as soon as the requirements tie it to the property. -/
theorem indicates_binary {P : Assignment → Prop} (hv : indicatorVariable base m = (.ok r, m₁))
    (hi : Imposes m₁ m' (base ++ "_" ++ suffix) cs rs)
    (hcs : ∀ n, r.Below n → m.vars.size ≤ n → ∀ c ∈ cs, c.term.Below n)
    (hP : Local m.vars.size P)
    (htie : ∀ s, m.Respects s → r.value s = 0 ∨ r.value s = 1 →
      ((∀ c ∈ cs, c.Holds s) ↔ (r.value s = 1 ↔ P s))) :
    Indicates m m' rs r P := by
  obtain ⟨hr, name, hx⟩ := helper_ok hv
  have hg := hx.trans hi.grows
  simp only [List.append_nil, List.nil_append] at hg
  have hbelow : r.Below m'.vars.size := by
    rw [hr, hg.size]
    exact Term.below_ofVar (by simp)
  have h01 : ∀ s, m'.Respects s → r.value s = 0 ∨ r.value s = 1 := by
    intro s hs
    rw [hr, Term.value_ofVar]
    exact zero_or_one rfl rfl rfl (hs _ _ hg.get?_new)
  have hrs : ∀ s, m'.Respects s → (AllHold rs s ↔ (r.value s = 1 ↔ P s)) := fun s hs =>
    (hi.holds s).trans (htie s (hg.respects hs) (h01 s hs))
  exact
    { determines := by
        refine determines_binary hg rfl rfl rfl (hi.below _ (hcs _ hbelow hg.size_le)) hP ?_
        intro s hs
        have := hrs s hs
        rwa [hr, Term.value_ofVar] at this
      below := hbelow
      isLocal := hP.mono hg.size_le
      zeroOne := h01
      exact := fun s hs hh => (hrs s hs).1 hh }

/-- An integer that is not at most zero is at least one. -/
theorem one_le_of_pos {x : Rat} {z : Int} (hz : x = z) (h : 0 < x) : 1 ≤ x := by
  rw [hz] at h ⊢
  have : 0 < z := by exact_mod_cast h
  exact_mod_cast this

/-- The rows of a helper variable are named after what it indicates. -/
theorem links_of_named (hs : suffix ∈ ["vif_c", "vif_and", "vif_or", "vif_xor"])
    (hi : Imposes m₁ m' (base ++ "_" ++ suffix) cs rs) : ∀ row ∈ rs, row.Links base :=
  fun row hrow => ⟨suffix, hs, hi.named row hrow⟩

theorem atMostZero_ok (ht : ∀ s, m.Respects s → ∃ z : Int, t.value s = z)
    (h : atMostZero base flags t m = (.ok r, m')) :
    ∃ rs, Indicates m m' rs r (fun s => t.value s ≤ 0) ∧ ∀ row ∈ rs, row.Links base := by
  simp only [atMostZero, Step.bind_eq_ok, Step.pure_apply] at h
  obtain ⟨⟨low, high⟩, m₀, hbound, r', m₁, hv, ⟨⟩, m₂, h₁, ⟨⟩, m₃, h₂, hr⟩ := h
  cases hr
  obtain ⟨hbt, rfl⟩ := bounds_ok hbound
  obtain ⟨hbelow, hbounds⟩ := Model.bounds_ok hbt
  obtain ⟨rs₁, hi₁⟩ := row_ok h₁
  obtain ⟨rs₂, hi₂⟩ := row_ok h₂
  have hi := hi₁.trans hi₂
  refine ⟨_, indicates_binary hv hi ?_ (local_value hbelow (· ≤ 0)) ?_, links_of_named (by simp) hi⟩
  · intro n hr hn
    have ht := hbelow.mono hn
    rw [List.singleton_append, List.forall_mem_cons, List.forall_mem_singleton]
    exact ⟨Term.below_sub (Term.below_add ht (Term.below_scale hr)) (Term.below_ofConstant _ _),
      Term.below_sub (Term.below_sub ht (Term.below_scale hr)) (Term.below_ofConstant _ _)⟩
  · intro s hs h01
    obtain ⟨hl, hh⟩ := hbounds s hs.within
    obtain ⟨z, hz⟩ := ht s hs
    rw [List.singleton_append, List.forall_mem_cons, List.forall_mem_singleton]
    simp only [Requirement.Holds, ConRel.Holds, Term.value_sub, Term.value_add, Term.value_scale,
      Term.value_ofConstant, one]
    rcases h01 with h0 | h1
    · rw [h0]
      constructor
      · rintro ⟨_, hge⟩
        constructor
        · intro h
          norm_num at h
        · intro h
          linarith
      · intro h
        have hpos : 0 < t.value s := not_le.1 fun hle => by simpa using h.2 hle
        have := one_le_of_pos hz hpos
        constructor <;> linarith
    · rw [h1]
      constructor
      · rintro ⟨hle, _⟩
        exact ⟨fun _ => by linarith, fun _ => rfl⟩
      · intro h
        have := h.1 rfl
        constructor <;> linarith

/-! ## Connectives

The operands are terms of the model that are zero or one, whatever else holds. -/

section Connectives

variable (ha : a.Below m.vars.size) (hb : b.Below m.vars.size)
  (ha01 : ∀ s, m.Respects s → a.value s = 0 ∨ a.value s = 1)
  (hb01 : ∀ s, m.Respects s → b.value s = 0 ∨ b.value s = 1)

include ha hb ha01 hb01

/-- A binary variable indicates how two others are connected if the requirements have the truth
table of the connective. -/
theorem connective_ok (f : Prop → Prop → Prop) (hv : indicatorVariable base m = (.ok r, m₁))
    (hi : Imposes m₁ m' (base ++ "_" ++ suffix) cs rs)
    (hs : suffix ∈ ["vif_c", "vif_and", "vif_or", "vif_xor"])
    (hcs : ∀ n, r.Below n → a.Below n → b.Below n → ∀ c ∈ cs, c.term.Below n)
    (htable : ∀ s, r.value s = 0 ∨ r.value s = 1 → a.value s = 0 ∨ a.value s = 1 →
      b.value s = 0 ∨ b.value s = 1 →
      ((∀ c ∈ cs, c.Holds s) ↔ (r.value s = 1 ↔ f (a.value s = 1) (b.value s = 1)))) :
    ∃ rs, Indicates m m' rs r (fun s => f (a.value s = 1) (b.value s = 1)) ∧
      ∀ row ∈ rs, row.Links base := by
  refine ⟨rs, indicates_binary hv hi ?_ (local_values ha hb fun x y => f (x = 1) (y = 1)) ?_,
    links_of_named hs hi⟩
  · intro n hr hn
    exact hcs n hr (ha.mono hn) (hb.mono hn)
  · intro s hs hr01
    exact htable s hr01 (ha01 s hs) (hb01 s hs)

theorem conjunction_ok (h : conjunction base flags a b m = (.ok r, m')) :
    ∃ rs, Indicates m m' rs r (fun s => a.value s = 1 ∧ b.value s = 1) ∧
      ∀ row ∈ rs, row.Links base := by
  simp only [conjunction, Step.bind_eq_ok, Step.pure_apply] at h
  obtain ⟨r', m₁, hv, ⟨⟩, m₂, h₁, ⟨⟩, m₃, h₂, ⟨⟩, m₄, h₃, hr⟩ := h
  cases hr
  obtain ⟨rs₁, hi₁⟩ := row_ok h₁
  obtain ⟨rs₂, hi₂⟩ := row_ok h₂
  obtain ⟨rs₃, hi₃⟩ := row_ok h₃
  have hi := hi₁.trans (hi₂.trans hi₃)
  refine connective_ok ha hb ha01 hb01 And hv hi (by simp) ?_ ?_
  · intro n hr ha hb
    simp only [List.singleton_append, List.mem_cons, List.not_mem_nil, or_false, forall_eq_or_imp,
      forall_eq]
    exact ⟨Term.below_sub hr ha, Term.below_sub hr hb,
      Term.below_sub (Term.below_sub (Term.below_add ha hb) hr) (Term.below_ofConstant _ _)⟩
  · intro s hr ha hb
    simp only [List.singleton_append, List.mem_cons, List.not_mem_nil, or_false, forall_eq_or_imp,
      forall_eq, Requirement.Holds, ConRel.Holds, Term.value_sub, Term.value_add,
      Term.value_ofConstant, one]
    rcases hr with hr | hr <;> rcases ha with ha | ha <;> rcases hb with hb | hb <;>
      rw [hr, ha, hb] <;> norm_num

theorem disjunction_ok (h : disjunction base flags a b m = (.ok r, m')) :
    ∃ rs, Indicates m m' rs r (fun s => a.value s = 1 ∨ b.value s = 1) ∧
      ∀ row ∈ rs, row.Links base := by
  simp only [disjunction, Step.bind_eq_ok, Step.pure_apply] at h
  obtain ⟨r', m₁, hv, ⟨⟩, m₂, h₁, ⟨⟩, m₃, h₂, ⟨⟩, m₄, h₃, hr⟩ := h
  cases hr
  obtain ⟨rs₁, hi₁⟩ := row_ok h₁
  obtain ⟨rs₂, hi₂⟩ := row_ok h₂
  obtain ⟨rs₃, hi₃⟩ := row_ok h₃
  have hi := hi₁.trans (hi₂.trans hi₃)
  refine connective_ok ha hb ha01 hb01 Or hv hi (by simp) ?_ ?_
  · intro n hr ha hb
    simp only [List.singleton_append, List.mem_cons, List.not_mem_nil, or_false, forall_eq_or_imp,
      forall_eq]
    exact ⟨Term.below_sub hr ha, Term.below_sub hr hb, Term.below_sub (Term.below_sub hr ha) hb⟩
  · intro s hr ha hb
    simp only [List.singleton_append, List.mem_cons, List.not_mem_nil, or_false, forall_eq_or_imp,
      forall_eq, Requirement.Holds, ConRel.Holds, Term.value_sub]
    rcases hr with hr | hr <;> rcases ha with ha | ha <;> rcases hb with hb | hb <;>
      rw [hr, ha, hb] <;> norm_num

theorem exclusion_ok (h : exclusion base flags a b m = (.ok r, m')) :
    ∃ rs, Indicates m m' rs r
        (fun s => a.value s = 1 ∧ ¬ b.value s = 1 ∨ b.value s = 1 ∧ ¬ a.value s = 1) ∧
      ∀ row ∈ rs, row.Links base := by
  simp only [exclusion, Step.bind_eq_ok, Step.pure_apply] at h
  obtain ⟨r', m₁, hv, ⟨⟩, m₂, h₁, ⟨⟩, m₃, h₂, ⟨⟩, m₄, h₃, ⟨⟩, m₅, h₄, hr⟩ := h
  cases hr
  obtain ⟨rs₁, hi₁⟩ := row_ok h₁
  obtain ⟨rs₂, hi₂⟩ := row_ok h₂
  obtain ⟨rs₃, hi₃⟩ := row_ok h₃
  obtain ⟨rs₄, hi₄⟩ := row_ok h₄
  have hi := hi₁.trans (hi₂.trans (hi₃.trans hi₄))
  refine connective_ok ha hb ha01 hb01 (fun p q => p ∧ ¬ q ∨ q ∧ ¬ p) hv hi (by simp) ?_ ?_
  · intro n hr ha hb
    simp only [List.singleton_append, List.mem_cons, List.not_mem_nil, or_false, forall_eq_or_imp,
      forall_eq]
    exact ⟨Term.below_sub (Term.below_sub hr ha) hb, Term.below_add (Term.below_sub hr ha) hb,
      Term.below_add (Term.below_sub hr hb) ha,
      Term.below_sub (Term.below_add (Term.below_add hr ha) hb) (Term.below_ofConstant _ _)⟩
  · intro s hr ha hb
    simp only [List.singleton_append, List.mem_cons, List.not_mem_nil, or_false, forall_eq_or_imp,
      forall_eq, Requirement.Holds, ConRel.Holds, Term.value_sub, Term.value_add,
      Term.value_ofConstant]
    rcases hr with hr | hr <;> rcases ha with ha | ha <;> rcases hb with hb | hb <;>
      rw [hr, ha, hb] <;> norm_num

end Connectives

/-- Two indicators one after the other, and then one of how they are connected. -/
theorem connected_ok {f : Prop → Prop → Prop} {P Q : Assignment → Prop} {m₂ : Model}
    {rs₁ rs₂ : List Row} (ha : Indicates m m₁ rs₁ a P) (hl₁ : ∀ row ∈ rs₁, row.Links base)
    (hb : Indicates m₁ m₂ rs₂ b Q) (hl₂ : ∀ row ∈ rs₂, row.Links base)
    (hr : a.Below m₂.vars.size → b.Below m₂.vars.size →
      (∀ s, m₂.Respects s → a.value s = 0 ∨ a.value s = 1) →
      (∀ s, m₂.Respects s → b.value s = 0 ∨ b.value s = 1) →
      ∃ rs, Indicates m₂ m' rs r (fun s => f (a.value s = 1) (b.value s = 1)) ∧
        ∀ row ∈ rs, row.Links base) :
    ∃ rs, Indicates m m' rs r (fun s => f (P s) (Q s)) ∧ ∀ row ∈ rs, row.Links base := by
  obtain ⟨haB, ha01⟩ := ha.later hb.determines
  obtain ⟨rs₃, hr, hl₃⟩ := hr haB hb.below ha01 hb.zeroOne
  refine ⟨_, ha.combine (f := f) hb hr, ?_⟩
  simp only [List.forall_mem_append]
  exact ⟨⟨hl₁, hl₂⟩, hl₃⟩

/-! ## Conditions -/

theorem integral_neg (ht : ∀ s, m.Respects s → ∃ z : Int, t.value s = z) (s : Assignment)
    (hs : m.Respects s) : ∃ z : Int, t.neg.value s = z := by
  obtain ⟨z, hz⟩ := ht s hs
  refine ⟨-z, ?_⟩
  rw [Term.value_neg, hz]
  push_cast
  rfl

theorem zeroIndicator_ok (hb : t.Below m.vars.size)
    (ht : ∀ s, m.Respects s → ∃ z : Int, t.value s = z)
    (h : zeroIndicator base flags t m = (.ok r, m')) :
    ∃ rs, Indicates m m' rs r (fun s => t.value s = 0) ∧ ∀ row ∈ rs, row.Links base := by
  simp only [zeroIndicator, Step.bind_eq_ok] at h
  obtain ⟨a, m₁, h₁, b, m₂, h₂, h₃⟩ := h
  obtain ⟨rs₁, ha, hl₁⟩ := atMostZero_ok ht h₁
  have hneg := integral_neg fun s hs => ht s (ha.determines.respects hs)
  obtain ⟨rs₂, hb', hl₂⟩ := atMostZero_ok hneg h₂
  obtain ⟨rs, hall, hl⟩ := connected_ok (f := And) ha hl₁ hb' hl₂ fun haB hbB ha01 hb01 =>
    conjunction_ok haB hbB ha01 hb01 h₃
  refine ⟨rs, hall.congr (local_value (hb.mono hall.determines.size_le) (· = 0)) ?_, hl⟩
  intro s _
  rw [Term.value_neg, Left.neg_nonpos_iff]
  exact le_antisymm_iff.symm

/-- One more makes an integer that is below zero one that is at most zero. -/
theorem add_one_le_zero {x : Rat} {z : Int} (hz : x = z) : x + 1 ≤ 0 ↔ x < 0 := by
  rw [hz]
  constructor
  · intro h
    linarith
  · intro h
    have : z < 0 := by exact_mod_cast h
    exact_mod_cast (show z + 1 ≤ 0 by omega)

theorem atom_ok {op : Comparison} (h : atom base flags t op m = (.ok r, m')) :
    ∃ rs, Indicates m m' rs r (fun s => op.Relates (t.value s)) ∧ ∀ row ∈ rs, row.Links base := by
  simp only [atom, Step.bind_eq_ok] at h
  obtain ⟨⟨⟩, m₀, hf, h⟩ := h
  obtain ⟨hf, rfl⟩ := requireIntegral_ok hf
  obtain ⟨hb, ht⟩ := Model.integral_of_no_fault hf
  have hneg := integral_neg ht
  have hsucc : ∀ u : Term, (∀ s, m₀.Respects s → ∃ z : Int, u.value s = z) →
      ∀ s, m₀.Respects s → ∃ z : Int, (u.add one).value s = z := by
    intro u hu s hs
    obtain ⟨z, hz⟩ := hu s hs
    exact ⟨z + 1, by rw [Term.value_add, hz]; simp [one]⟩
  cases op with
  | eq => exact zeroIndicator_ok hb ht h
  | ne =>
    simp only [Step.bind_eq_ok, Step.pure_apply] at h
    obtain ⟨e, m₁, he, hr⟩ := h
    cases hr
    obtain ⟨rs, hi, hl⟩ := zeroIndicator_ok hb ht he
    exact ⟨rs, hi.not, hl⟩
  | lt =>
    obtain ⟨rs, hi, hl⟩ := atMostZero_ok (hsucc t ht) h
    refine ⟨rs, hi.congr (local_value (hb.mono hi.determines.size_le) (· < 0)) ?_, hl⟩
    intro s hs
    obtain ⟨z, hz⟩ := ht s (hi.determines.respects hs)
    rw [Term.value_add, one, Term.value_ofConstant]
    exact add_one_le_zero hz
  | le => exact atMostZero_ok ht h
  | gt =>
    obtain ⟨rs, hi, hl⟩ := atMostZero_ok (hsucc t.neg hneg) h
    refine ⟨rs, hi.congr (local_value (hb.mono hi.determines.size_le) (0 < ·)) ?_, hl⟩
    intro s hs
    obtain ⟨z, hz⟩ := hneg s (hi.determines.respects hs)
    rw [Term.value_add, one, Term.value_ofConstant, add_one_le_zero hz, Term.value_neg]
    exact Left.neg_neg_iff
  | ge =>
    obtain ⟨rs, hi, hl⟩ := atMostZero_ok hneg h
    refine ⟨rs, hi.congr (local_value (hb.mono hi.determines.size_le) (0 ≤ ·)) ?_, hl⟩
    intro s _
    rw [Term.value_neg]
    exact Left.neg_nonpos_iff

/-- The term that a condition is translated to indicates the condition. -/
theorem indicator_ok {c : Condition} (h : indicator base flags c m = (.ok r, m')) :
    ∃ rs, Indicates m m' rs r (fun s => c.Holds s) ∧ ∀ row ∈ rs, row.Links base := by
  induction c generalizing m m' r with
  | atom t op => exact atom_ok h
  | not c ih =>
    simp only [indicator, Step.bind_eq_ok, Step.pure_apply] at h
    obtain ⟨a, m₁, ha, hr⟩ := h
    cases hr
    obtain ⟨rs, hi, hl⟩ := ih ha
    exact ⟨rs, hi.not, hl⟩
  | and c d ihc ihd =>
    simp only [indicator, Step.bind_eq_ok] at h
    obtain ⟨a, m₁, h₁, b, m₂, h₂, h₃⟩ := h
    obtain ⟨rs₁, ha, hl₁⟩ := ihc h₁
    obtain ⟨rs₂, hb, hl₂⟩ := ihd h₂
    exact connected_ok (f := And) ha hl₁ hb hl₂ fun haB hbB ha01 hb01 =>
      conjunction_ok haB hbB ha01 hb01 h₃
  | or c d ihc ihd =>
    simp only [indicator, Step.bind_eq_ok] at h
    obtain ⟨a, m₁, h₁, b, m₂, h₂, h₃⟩ := h
    obtain ⟨rs₁, ha, hl₁⟩ := ihc h₁
    obtain ⟨rs₂, hb, hl₂⟩ := ihd h₂
    exact connected_ok (f := Or) ha hl₁ hb hl₂ fun haB hbB ha01 hb01 =>
      disjunction_ok haB hbB ha01 hb01 h₃
  | xor c d ihc ihd =>
    simp only [indicator, Step.bind_eq_ok] at h
    obtain ⟨a, m₁, h₁, b, m₂, h₂, h₃⟩ := h
    obtain ⟨rs₁, ha, hl₁⟩ := ihc h₁
    obtain ⟨rs₂, hb, hl₂⟩ := ihd h₂
    exact connected_ok (f := fun p q => p ∧ ¬ q ∨ q ∧ ¬ p) ha hl₁ hb hl₂ fun haB hbB ha01 hb01 =>
      exclusion_ok haB hbB ha01 hb01 h₃

/-! ## Branches -/

/-- The value of the 0/1 term that selects the branch. -/
def selecting (active : Bool) : Rat :=
  if active then 1 else 0

/-- The row of a branch holds exactly if its term compares with zero as it says, or if the branch
is not selected, provided that the slack is enough. -/
theorem relaxed_ok {slack : Rat} {active : Bool} {rel : ConRel}
    (h : relaxed base flags suffix t r active slack rel m = (.ok (), m')) :
    ∃ rs, m.Grows m' [] rs ∧ (∀ row ∈ rs, row.NamedAfter (base ++ "_" ++ suffix)) ∧
      ∀ s, rel.Holds (t.value s - slack) → r.value s = 0 ∨ r.value s = 1 →
        (AllHold rs s ↔ (r.value s = selecting active → rel.Holds (t.value s))) := by
  obtain ⟨rs, hi⟩ := row_ok h
  refine ⟨rs, hi.grows, hi.named, ?_⟩
  intro s hslack h01
  rw [hi.holds, List.forall_mem_singleton, Requirement.Holds]
  cases active with
  | true =>
    simp only [selecting, if_true, Term.value_sub, Term.value_add, Term.value_scale,
      Term.value_ofConstant]
    rcases h01 with h₀ | h₁
    · have hv : t.value s + 0 * slack - slack = t.value s - slack := by ring
      rw [h₀, hv]
      simp [hslack]
    · have hv : t.value s + 1 * slack - slack = t.value s := by ring
      rw [h₁, hv]
      simp
  | false =>
    simp only [selecting, if_neg Bool.false_ne_true, Term.value_sub, Term.value_scale]
    rcases h01 with h₀ | h₁
    · have hv : t.value s - 0 * slack = t.value s := by ring
      rw [h₀, hv]
      simp
    · have hv : t.value s - 1 * slack = t.value s - slack := by ring
      rw [h₁, hv]
      simp [hslack]

/-- The rows of a branch hold exactly if its requirement does, or if it is not selected. -/
theorem branch_ok {q : Requirement} {active : Bool}
    (h : branch base flags q r active m = (.ok (), m')) :
    ∃ rs, m.Grows m' [] rs ∧ (∀ row ∈ rs, row.Enforces base) ∧
      ∀ s, m.Within s → r.value s = 0 ∨ r.value s = 1 →
        (AllHold rs s ↔ (r.value s = selecting active → q.Holds s)) := by
  obtain ⟨t, rel⟩ := q
  simp only [branch, Step.bind_eq_ok] at h
  obtain ⟨⟨low, high⟩, m₀, hbound, h⟩ := h
  obtain ⟨hbt, rfl⟩ := bounds_ok hbound
  obtain ⟨_, hbounds⟩ := Model.bounds_ok hbt
  have hsuffix : (if active then "vif_then" else "vif_else") ∈ ["vif_then", "vif_else"] := by
    cases active <;> simp
  have hle : ∀ s, m₀.Within s → ConRel.le.Holds (t.value s - high) := fun s hs =>
    sub_nonpos.2 (hbounds s hs).2
  have hge : ∀ s, m₀.Within s → ConRel.ge.Holds (t.value s - low) := fun s hs =>
    sub_nonneg.2 (hbounds s hs).1
  cases rel with
  | le =>
    obtain ⟨rs, hg, hn, he⟩ := relaxed_ok h
    exact ⟨rs, hg, fun row hrow => ⟨_, hsuffix, hn row hrow⟩, fun s hs => he s (hle s hs)⟩
  | ge =>
    obtain ⟨rs, hg, hn, he⟩ := relaxed_ok h
    exact ⟨rs, hg, fun row hrow => ⟨_, hsuffix, hn row hrow⟩, fun s hs => he s (hge s hs)⟩
  | eq =>
    simp only [Step.bind_eq_ok] at h
    obtain ⟨⟨⟩, m₁, h₁, h₂⟩ := h
    obtain ⟨rs₁, hg₁, hn₁, he₁⟩ := relaxed_ok h₁
    obtain ⟨rs₂, hg₂, hn₂, he₂⟩ := relaxed_ok h₂
    refine ⟨rs₁ ++ rs₂, hg₁.trans hg₂, ?_, ?_⟩
    · rw [List.forall_mem_append]
      exact ⟨fun row hrow => ⟨_, hsuffix, hn₁ row hrow⟩, fun row hrow => ⟨_, hsuffix, hn₂ row hrow⟩⟩
    · intro s hs h01
      rw [allHold_append, he₁ s (hle s hs) h01, he₂ s (hge s hs) h01, ← imp_and]
      exact imp_congr_right fun _ => le_antisymm_iff.symm

/-! ## Whole conditional constraints -/

/-- A conditional constraint adds rows that link its helper variables to its condition and rows that
enforce its branches. Whatever values the older variables take, the linking rows determine the
helper variables, and then the enforcing rows hold exactly if the conditional does. -/
theorem conditional_exact {c : Conditional} (h : conditional c m = (.ok (), m')) :
    ∃ xs linking enforcing, m.Grows m' xs (linking ++ enforcing) ∧
      (∀ row ∈ linking, row.Links c.name) ∧ (∀ row ∈ enforcing, row.Enforces c.name) ∧
      ∀ s, m.Respects s →
        (∃! s', Completes m m' s s' ∧ AllHold linking s') ∧
        ∀ s', Completes m m' s s' → AllHold linking s' →
          (AllHold enforcing s' ↔
            (c.condition.Holds s' → c.yes.Holds s') ∧
            (¬ c.condition.Holds s' → ∀ no ∈ c.no, no.Holds s')) := by
  simp only [conditional, Step.bind_eq_ok] at h
  obtain ⟨r, m₁, hr, ⟨⟩, m₂, hyes, hno⟩ := h
  obtain ⟨linking, hi, hlinks⟩ := indicator_ok hr
  obtain ⟨rs₁, hg₁, hn₁, he₁⟩ := branch_ok hyes
  obtain ⟨rs₂, hg₂, hn₂, he₂⟩ : ∃ rs₂, m₂.Grows m' [] rs₂ ∧ (∀ row ∈ rs₂, row.Enforces c.name) ∧
      ∀ s, m₂.Within s → r.value s = 0 ∨ r.value s = 1 →
        (AllHold rs₂ s ↔ (r.value s = selecting false → ∀ no ∈ c.no, no.Holds s)) := by
    cases hc : c.no with
    | none =>
      rw [hc] at hno
      cases hno
      exact ⟨[], .refl _, by simp, by simp [AllHold]⟩
    | some no =>
      rw [hc] at hno
      obtain ⟨rs₂, hg₂, hn₂, he₂⟩ := branch_ok hno
      exact ⟨rs₂, hg₂, hn₂, by simpa using he₂⟩
  obtain ⟨xs, hg⟩ := hi.determines.grows
  have hg' := hg.trans (hg₁.trans hg₂)
  rw [List.append_nil, List.append_nil] at hg'
  have hcompletes : ∀ s s', Completes m m' s s' ↔ Completes m m₁ s s' := fun _ _ =>
    completes_congr (hg₂.vars_eq.trans hg₁.vars_eq)
  refine ⟨xs, linking, rs₁ ++ rs₂, hg', hlinks, List.forall_mem_append.2 ⟨hn₁, hn₂⟩, ?_⟩
  intro s hs
  refine ⟨by simpa only [hcompletes] using hi.determines.existsUnique hs, ?_⟩
  intro s' hc hl
  have hc₁ := (hcompletes s s').1 hc
  have hs₁ := hc₁.respects hg hs
  have hs₂ := (Model.within_congr hg₁.vars_eq s').2 hs₁.within
  have h01 := hi.zeroOne s' hs₁
  have hsel := hi.exact s' hs₁ hl
  have hunsel : r.value s' = selecting false ↔ ¬ c.condition.Holds s' := by
    rw [← hsel]
    rcases h01 with h₀ | h₁
    · simp [h₀, selecting]
    · simp [h₁, selecting]
  rw [allHold_append, he₁ s' hs₁.within h01, he₂ s' hs₂ h01, hunsel, ← hsel]
  rfl

/-- An integer and a fraction with finite bounds. -/
def box : Model :=
  ⟨#[⟨"x", .integer, .finite (-3), .finite 4, none, none, 0⟩,
    ⟨"y", .continuous, .finite (-2), .finite 2, none, none, 0⟩], [], [], none, []⟩

/-- `vif x < 0 or not x != 0 then y <= 0 else y == 0` -/
def boxConditional : Conditional :=
  ⟨"c", .or (.atom (.ofVar 0) .lt) (.not (.atom (.ofVar 0) .ne)), ⟨.ofVar 1, .le⟩,
    some ⟨.ofVar 1, .eq⟩, .empty⟩

theorem conditional_exact_box :
    ∃ m' xs rs, conditional boxConditional box = (.ok (), m') ∧ box.Grows m' xs rs ∧
      ∃ s', Completes box m' (fun v => if v = 0 then 2 else 0) s' ∧ AllHold rs s' := by
  have h : conditional boxConditional box = (.ok (), (conditional boxConditional box).2) :=
    Prod.ext (by decide +kernel) rfl
  obtain ⟨xs, linking, enforcing, hg, _, _, hs⟩ := conditional_exact h
  have hbox : box.Respects fun v => if v = 0 then 2 else 0 := by
    intro v x hx
    rcases Nat.le_one_iff_eq_zero_or_eq_one.1 (Nat.le_of_lt_succ (Model.get?_lt hx)) with rfl | rfl
    · cases hx
      decide +kernel
    · cases hx
      decide +kernel
  obtain ⟨⟨s', ⟨hc, hl⟩, _⟩, he⟩ := hs _ hbox
  refine ⟨_, xs, _, h, hg, s', hc, allHold_append.2 ⟨hl, (he s' hc hl).2 ?_⟩⟩
  have hx : s' 0 = 2 := hc.old 0 (.inl (by decide))
  have hy : s' 1 = 0 := hc.old 1 (.inl (by decide))
  simp [boxConditional, Condition.Holds, Comparison.Relates, Requirement.Holds, ConRel.Holds, hx,
    hy]

end Build

end ModelLang
