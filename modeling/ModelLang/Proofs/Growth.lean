import ModelLang.Model.Conditional
import ModelLang.Proofs.Assignment

/-!
# ModelLang.Proofs.Growth

Steps on a model only append to it. `Grows` names what a step appended: variables, behind the
older ones, and rows. `Imposes` says in addition what the appended rows require of an assignment;
it composes, so that a run of `Build.row` steps imposes the list of what they impose one by one.
For each step of `Build` there is one lemma on what it appends (`helper_ok`, `row_ok`), or on what
its success says about a model that it leaves as it is (`bounds_ok`, `requireIntegral_ok`).
-/

namespace ModelLang

/-- `m'` is `m` with the variables `xs` and the rows `rs` behind its own. -/
structure Model.Grows (m m' : Model) (xs : List Variable) (rs : List Row) : Prop where
  vars : m'.vars.toList = m.vars.toList ++ xs
  rows : m'.rows = m.rows ++ rs
  sos : m'.sos = m.sos
  objective : m'.objective = m.objective

namespace Model.Grows

variable {m m₁ m₂ : Model} {xs ys : List Variable} {rs qs : List Row}

theorem refl (m : Model) : m.Grows m [] [] := by
  constructor <;> simp

theorem trans (h : m.Grows m₁ xs rs) (h' : m₁.Grows m₂ ys qs) :
    m.Grows m₂ (xs ++ ys) (rs ++ qs) where
  vars := by rw [h'.vars, h.vars, List.append_assoc]
  rows := by rw [h'.rows, h.rows, List.append_assoc]
  sos := h'.sos.trans h.sos
  objective := h'.objective.trans h.objective

theorem size (h : m.Grows m₁ xs rs) : m₁.vars.size = m.vars.size + xs.length := by
  simpa using congrArg List.length h.vars

theorem size_le (h : m.Grows m₁ xs rs) : m.vars.size ≤ m₁.vars.size := by
  rw [h.size]
  omega

theorem get?_eq (h : m.Grows m₁ xs rs) (v : VarId) : m₁.get? v = (m.vars.toList ++ xs)[v]? := by
  rw [Model.get?, ← h.vars, Array.getElem?_toList]

/-- The older variables keep their numbers. -/
theorem get?_old (h : m.Grows m₁ xs rs) {v : VarId} (hv : v < m.vars.size) :
    m₁.get? v = m.get? v := by
  rw [h.get?_eq, List.getElem?_append_left (by simpa using hv), Array.getElem?_toList, Model.get?]

/-- The only variable that was added. -/
theorem get?_new {x : Variable} (h : m.Grows m₁ [x] rs) : m₁.get? m.vars.size = some x := by
  rw [h.get?_eq]
  simp

/-- Rows alone leave the variables. -/
theorem vars_eq (h : m.Grows m₁ [] rs) : m₁.vars = m.vars := by
  rw [← Array.toList_inj, h.vars, List.append_nil]

theorem respects (h : m.Grows m₁ xs rs) {s : Assignment} (hs : m₁.Respects s) : m.Respects s := by
  intro v x hx
  exact hs v x ((h.get?_old (Model.get?_lt hx)).trans hx)

end Model.Grows

/-! ## Names of rows -/

namespace Row

/-- The name is `base`, or `base` with a number after it. -/
def NamedAfter (base : String) (r : Row) : Prop :=
  r.name = base ∨ ∃ k, r.name = Names.numbered base k

end Row

theorem Names.fresh_named (names : Names) (base : String) :
    (names.fresh base).1 = base ∨ ∃ k, (names.fresh base).1 = numbered base k := by
  unfold fresh
  split
  · exact .inl rfl
  · exact .inr ⟨_, rfl⟩

/-! ## Single steps -/

namespace Model

theorem addVariable_grows (m : Model) (x : Variable) :
    m.Grows (m.addVariable x).2 [{ x with name := (m.names.fresh x.name).1 }] [] := by
  constructor <;> simp [addVariable]

theorem addRow_grows (m : Model) (r : Row) :
    m.Grows (m.addRow r) [] [{ r with name := (m.names.fresh r.name).1 }] := by
  constructor <;> simp [addRow]

end Model

/-! ## Rows that compare terms with zero -/

/-- Every row holds. -/
def AllHold (rs : List Row) (s : Assignment) : Prop :=
  ∀ r ∈ rs, r.Holds s

theorem allHold_append {rs qs : List Row} {s : Assignment} :
    AllHold (rs ++ qs) s ↔ AllHold rs s ∧ AllHold qs s :=
  List.forall_mem_append

theorem allHold_congr {n : Nat} {rs : List Row} (h : ∀ r ∈ rs, r.term.Below n) {s s' : Assignment}
    (hs : s.AgreeBelow n s') : AllHold rs s ↔ AllHold rs s' := by
  constructor
  · intro ha r hr
    exact (Row.holds_congr (h r hr) hs).1 (ha r hr)
  · intro ha r hr
    exact (Row.holds_congr (h r hr) hs).2 (ha r hr)

def Requirement.Holds (s : Assignment) (r : Requirement) : Prop :=
  r.rel.Holds (r.term.value s)

/-- The rows `rs`, which `m'` has beyond `m`, say what the requirements `cs` say. Their name is
`base`, or `base` with a number after it. -/
structure Imposes (m m' : Model) (base : String) (cs : List Requirement) (rs : List Row) :
    Prop where
  grows : m.Grows m' [] rs
  length : rs.length = cs.length
  holds : ∀ s, AllHold rs s ↔ ∀ c ∈ cs, c.Holds s
  below : ∀ n, (∀ c ∈ cs, c.term.Below n) → ∀ r ∈ rs, r.term.Below n
  named : ∀ r ∈ rs, r.NamedAfter base

theorem Imposes.trans {m m₁ m₂ : Model} {base : String} {cs ds : List Requirement}
    {rs qs : List Row} (h : Imposes m m₁ base cs rs) (h' : Imposes m₁ m₂ base ds qs) :
    Imposes m m₂ base (cs ++ ds) (rs ++ qs) where
  grows := h.grows.trans h'.grows
  length := by rw [List.length_append, List.length_append, h.length, h'.length]
  holds := by
    intro s
    rw [allHold_append, List.forall_mem_append, h.holds, h'.holds]
  below := by
    intro n hn
    rw [List.forall_mem_append] at hn ⊢
    exact ⟨h.below n hn.1, h'.below n hn.2⟩
  named := by
    rw [List.forall_mem_append]
    exact ⟨h.named, h'.named⟩

/-- Moving the constant to the other side keeps the comparison. -/
theorem Model.addLinear_imposes (m : Model) (name : String) (t : Term) (rel : ConRel)
    (flags : ConFlags) :
    ∃ rs, Imposes m (m.addLinear name t rel flags) name [⟨t, rel⟩] rs := by
  refine ⟨_, m.addRow_grows _, rfl, ?_, ?_, ?_⟩
  · intro s
    have hv := Term.value_linearPart s t
    simp only [AllHold, List.forall_mem_singleton, Requirement.Holds]
    cases rel with
    | le =>
      simp only [Row.Holds, Number.finite_le_finite, ConRel.Holds, hv]
      constructor <;> intro h <;> linarith
    | ge =>
      simp only [Row.Holds, Number.finite_le_finite, ConRel.Holds, hv]
      constructor <;> intro h <;> linarith
    | eq =>
      simp only [Row.Holds, Number.finite.injEq, ConRel.Holds, hv]
      constructor <;> intro h <;> linarith
  · intro n h
    simp only [List.forall_mem_singleton] at h ⊢
    cases rel <;> exact h
  · have h := Names.fresh_named m.names name
    simp only [List.forall_mem_singleton]
    cases rel <;> exact h

namespace Build

theorem helper_ok {base suffix : String} {kind : VarKind} {lower upper : Number} {m m' : Model}
    {r : Term} (h : helper base suffix kind lower upper m = (.ok r, m')) :
    r = .ofVar m.vars.size ∧
      ∃ name, m.Grows m' [⟨name, kind, lower, upper, none, none, 0⟩] [] := by
  simp only [helper, Step.bind_eq_ok, Step.pure_apply] at h
  obtain ⟨v, m₁, hv, hr⟩ := h
  cases hr
  cases hv
  exact ⟨rfl, _, Model.addVariable_grows m _⟩

theorem row_ok {base suffix : String} {flags : ConFlags} {t : Term} {rel : ConRel} {m m' : Model}
    (h : row base suffix flags t rel m = (.ok (), m')) :
    ∃ rs, Imposes m m' (base ++ "_" ++ suffix) [⟨t, rel⟩] rs := by
  cases h
  exact m.addLinear_imposes (base ++ "_" ++ suffix) t rel flags

theorem bounds_ok {cause : String → Cause} {t : Term} {b : Rat × Rat} {m m' : Model}
    (h : bounds cause t m = (.ok b, m')) : m.bounds t = .ok b ∧ m' = m := by
  unfold bounds at h
  split at h
  · rename_i b' hb
    cases h
    exact ⟨hb, rfl⟩
  · cases h

theorem requireIntegral_ok {t : Term} {m m' : Model}
    (h : requireIntegral t m = (.ok (), m')) : m.integralityFault? t = none ∧ m' = m := by
  unfold requireIntegral at h
  split at h
  · cases h
  · rename_i hf
    cases h
    exact ⟨hf, rfl⟩

end Build

/-! ## Bounds of terms -/

namespace Model

theorem finiteBounds?_eq_some {m : Model} {v : VarId} {l u : Rat}
    (h : m.finiteBounds? v = some (l, u)) :
    ∃ x, m.get? v = some x ∧ x.lower = .finite l ∧ x.upper = .finite u := by
  unfold finiteBounds? at h
  split at h
  · rename_i hx
    cases h
    exact ⟨_, hx, rfl, rfl⟩
  · cases h

/-- The variables of a linear function are within their bounds. -/
def Encloses (m : Model) (cs : Coefs) (s : Assignment) : Prop :=
  ∀ c ∈ cs, ∀ x, m.get? c.1 = some x → x.Bounds (s c.1)

theorem encloses_cons {m : Model} {v : VarId} {q : Rat} {cs : Coefs} {s : Assignment} :
    m.Encloses ((v, q) :: cs) s ↔
      (∀ x, m.get? v = some x → x.Bounds (s v)) ∧ m.Encloses cs s :=
  List.forall_mem_cons

theorem Within.encloses {m : Model} {s : Assignment} (hs : m.Within s) (cs : Coefs) :
    m.Encloses cs s :=
  fun c _ => hs c.1

theorem bounds_of_finite {m : Model} {v : VarId} {l u q : Rat}
    (h : m.finiteBounds? v = some (l, u)) (hq : ∀ x, m.get? v = some x → x.Bounds q) :
    l ≤ q ∧ q ≤ u := by
  obtain ⟨x, hx, hl, hu⟩ := finiteBounds?_eq_some h
  have hb := hq x hx
  rw [Variable.Bounds, hl, hu] at hb
  simpa using hb

/-- A variable part with bounds has variables of the model only, and its values are between
them. -/
theorem coefBounds_ok {m : Model} {cs : Coefs} {low high : Rat}
    (h : m.coefBounds cs = .ok (low, high)) :
    cs.Below m.vars.size ∧
      ∀ s, m.Encloses cs s → low ≤ cs.value s ∧ cs.value s ≤ high := by
  induction cs generalizing low high with
  | nil =>
    cases h
    exact ⟨by simp [Coefs.Below], fun s _ => by simp [Coefs.value]⟩
  | cons c cs ih =>
    obtain ⟨v, q⟩ := c
    simp only [coefBounds] at h
    split at h
    · cases h
    · rename_i l u hv
      split at h
      · cases h
      · rename_i low' high' hcs
        obtain ⟨hb, hw⟩ := ih hcs
        obtain ⟨x, hx, _, _⟩ := finiteBounds?_eq_some hv
        refine ⟨?_, ?_⟩
        · intro c hc
          simp only [List.mem_cons] at hc
          rcases hc with rfl | hc
          · exact get?_lt hx
          · exact hb c hc
        · intro s hs
          obtain ⟨hv', hs⟩ := encloses_cons.1 hs
          obtain ⟨hl, hu⟩ := bounds_of_finite hv hv'
          obtain ⟨hlow, hhigh⟩ := hw s hs
          simp only [Coefs.value]
          split at h
          · rename_i hq
            cases h
            have h₁ : q * l ≤ q * s v := mul_le_mul_of_nonneg_left hl hq.le
            have h₂ : q * s v ≤ q * u := mul_le_mul_of_nonneg_left hu hq.le
            constructor <;> linarith
          · rename_i hq
            cases h
            have hq' : q ≤ 0 := not_lt.1 hq
            have h₁ : q * u ≤ q * s v := mul_le_mul_of_nonpos_left hu hq'
            have h₂ : q * s v ≤ q * l := mul_le_mul_of_nonpos_left hl hq'
            constructor <;> linarith

theorem bounds_ok {m : Model} {t : Term} {low high : Rat} (h : m.bounds t = .ok (low, high)) :
    t.Below m.vars.size ∧ ∀ s, m.Within s → low ≤ t.value s ∧ t.value s ≤ high := by
  unfold bounds at h
  split at h
  · rename_i low' high' hc
    cases h
    obtain ⟨hb, hw⟩ := coefBounds_ok hc
    refine ⟨hb, fun s hs => ?_⟩
    obtain ⟨h₁, h₂⟩ := hw s (hs.encloses t.coefs)
    rw [Term.value]
    constructor <;> linarith
  · cases h

/-! ## Integral terms -/

theorem isIntegral_ok {m : Model} {v : VarId} (h : m.isIntegral v = true) :
    v < m.vars.size ∧ ∀ s, m.Respects s → (s v).den = 1 := by
  unfold isIntegral at h
  split at h
  · rename_i x hx
    exact ⟨get?_lt hx, fun s hs => (hs v x hx).2 (by simpa using h)⟩
  · cases h

/-- A variable part with integral coefficients and variables has integral values only. -/
theorem coefs_integral {m : Model} {cs : Coefs}
    (h : ∀ c ∈ cs, m.isIntegral c.1 = true ∧ c.2.den = 1) :
    cs.Below m.vars.size ∧ ∀ s, m.Respects s → ∃ z : Int, cs.value s = z := by
  refine ⟨fun c hc => (isIntegral_ok (h c hc).1).1, fun s hs => ?_⟩
  induction cs with
  | nil => exact ⟨0, rfl⟩
  | cons c cs ih =>
    obtain ⟨z, hz⟩ := ih fun d hd => h d (by simp [hd])
    obtain ⟨hi, hd⟩ := h c (by simp)
    have hv := (isIntegral_ok hi).2 s hs
    refine ⟨c.2.num * (s c.1).num + z, ?_⟩
    rw [Coefs.value, hz]
    push_cast
    rw [(Rat.den_eq_one_iff _).1 hd, (Rat.den_eq_one_iff _).1 hv]

/-- A term without a fault has integral values only. -/
theorem integral_of_no_fault {m : Model} {t : Term} (h : m.integralityFault? t = none) :
    t.Below m.vars.size ∧ ∀ s, m.Respects s → ∃ z : Int, t.value s = z := by
  unfold integralityFault? at h
  split at h
  · cases h
  · rename_i hk
    rw [Option.map_eq_none_iff, List.find?_eq_none] at h
    have hc : ∀ c ∈ t.coefs, m.isIntegral c.1 = true ∧ c.2.den = 1 := by simpa using h
    obtain ⟨hb, hi⟩ := coefs_integral hc
    refine ⟨hb, fun s hs => ?_⟩
    obtain ⟨z, hz⟩ := hi s hs
    refine ⟨t.constant.num + z, ?_⟩
    rw [Term.value, hz]
    push_cast
    rw [(Rat.den_eq_one_iff _).1 (by simpa using hk)]

end Model

end ModelLang
