import Mathlib.Logic.Function.Basic
import ModelLang.Proofs.Growth

/-!
# ModelLang.Proofs.Tight

The bounds of a term cannot be tightened. A linear function takes its least and its greatest value
where each of its variables is at one of its own bounds (`Model.exists_corners`), which for
variables that are not continuous are integers if they have been rounded. There are bounds precisely
if all variables of the term have finite ones (`Build.bounds_exact`).
-/

namespace ModelLang

/-- The value depends on the variables that are stored only. -/
theorem Coefs.value_congr_of_mem {cs : Coefs} {s s' : Assignment} (h : ∀ c ∈ cs, s c.1 = s' c.1) :
    cs.value s = cs.value s' := by
  induction cs with
  | nil => rfl
  | cons c cs ih =>
    rw [List.forall_mem_cons] at h
    rw [value, value, h.1, ih h.2]

/-- Those bounds of the variable that are finite are integers. -/
def Variable.HasIntegralBounds (x : Variable) : Prop :=
  ∀ q, x.lower = .finite q ∨ x.upper = .finite q → q.den = 1

namespace Model

variable {m : Model} {v : VarId} {cs : Coefs} {s₀ s : Assignment} {low high : Rat}

/-! ## Finite bounds -/

/-- Both bounds of the variable are finite. -/
def HasFiniteBounds (m : Model) (v : VarId) : Prop :=
  ∃ x l u, m.get? v = some x ∧ x.lower = .finite l ∧ x.upper = .finite u

theorem hasFiniteBounds_iff : m.HasFiniteBounds v ↔ ∃ b, m.finiteBounds? v = some b := by
  constructor
  · rintro ⟨⟨_, _, _, _, _, _, _⟩, l, u, hx, rfl, rfl⟩
    exact ⟨(l, u), by rw [finiteBounds?, hx]⟩
  · rintro ⟨⟨l, u⟩, h⟩
    obtain ⟨x, hx, hl, hu⟩ := finiteBounds?_eq_some h
    exact ⟨x, l, u, hx, hl, hu⟩

theorem exists_coefBounds_iff :
    (∃ b, m.coefBounds cs = .ok b) ↔ ∀ c ∈ cs, m.HasFiniteBounds c.1 := by
  induction cs with
  | nil => simp [coefBounds]
  | cons c cs ih =>
    rw [List.forall_mem_cons, ← ih, hasFiniteBounds_iff, coefBounds]
    cases m.finiteBounds? c.1 with
    | none => simp
    | some b =>
      cases m.coefBounds cs with
      | error name => simp
      | ok b' => by_cases hq : 0 < c.2 <;> simp [hq]

/-- Without bounds, a variable that has no finite ones is to blame. -/
theorem coefBounds_error {name : String} (h : m.coefBounds cs = .error name) :
    ∃ c ∈ cs, ¬ m.HasFiniteBounds c.1 ∧ name = m.variableName c.1 := by
  induction cs with
  | nil => cases h
  | cons c cs ih =>
    rw [coefBounds] at h
    split at h
    · rename_i hv
      cases h
      refine ⟨c, List.mem_cons_self, ?_, rfl⟩
      simp [hasFiniteBounds_iff, hv]
    · split at h
      · rename_i hrest
        cases h
        obtain ⟨d, hd, hname⟩ := ih hrest
        exact ⟨d, List.mem_cons_of_mem c hd, hname⟩
      · split at h <;> cases h

theorem bounds_eq_ok_iff {t : Term} : m.bounds t = .ok (low, high) ↔
    m.coefBounds t.coefs = .ok (low - t.constant, high - t.constant) := by
  rw [bounds]
  cases m.coefBounds t.coefs with
  | error name => simp
  | ok b =>
    rw [Except.ok.injEq, Except.ok.injEq, Prod.ext_iff, Prod.ext_iff, eq_sub_iff_add_eq',
      eq_sub_iff_add_eq']

theorem exists_bounds_iff {t : Term} :
    (∃ b, m.bounds t = .ok b) ↔ ∃ b, m.coefBounds t.coefs = .ok b := by
  rw [bounds]
  cases m.coefBounds t.coefs <;> simp

/-! ## Corners -/

/-- The assignment is `s₀` but for variables of the linear function, which are within their bounds,
and at integers where they have to be and their bounds are. -/
structure Corner (m : Model) (cs : Coefs) (s₀ s : Assignment) : Prop where
  encloses : m.Encloses cs s
  integral : ∀ c ∈ cs, ∀ x, m.get? c.1 = some x → x.kind ≠ .continuous → x.HasIntegralBounds →
    (s c.1).den = 1
  elsewhere : ∀ v, (∀ c ∈ cs, c.1 ≠ v) → s v = s₀ v

theorem Corner.nil (m : Model) (s₀ : Assignment) : m.Corner [] s₀ s₀ where
  encloses := List.forall_mem_nil _
  integral := List.forall_mem_nil _
  elsewhere _ _ := rfl

/-- One more variable at one of its bounds. -/
theorem Corner.cons {p : Rat} (h : m.Corner cs s₀ s) (q : Rat) (habove : ∀ c ∈ cs, v < c.1)
    {x : Variable} (hx : m.get? v = some x) (hle : x.lower ≤ x.upper)
    (hp : x.lower = .finite p ∨ x.upper = .finite p) :
    m.Corner ((v, q) :: cs) s₀ (Function.update s v p) ∧
      Coefs.value (Function.update s v p) ((v, q) :: cs) = q * p + cs.value s := by
  have hkept : ∀ c ∈ cs, Function.update s v p c.1 = s c.1 := fun c hc =>
    Function.update_of_ne (habove c hc).ne' p s
  refine ⟨⟨encloses_cons.2 ⟨?_, ?_⟩, List.forall_mem_cons.2 ⟨?_, ?_⟩, ?_⟩, ?_⟩
  · intro y hy
    cases hx.symm.trans hy
    rw [Function.update_self]
    rcases hp with hp | hp
    · exact ⟨by simp [hp], hp ▸ hle⟩
    · exact ⟨hp ▸ hle, by simp [hp]⟩
  · intro c hc
    rw [hkept c hc]
    exact h.encloses c hc
  · intro y hy _ hintegral
    cases hx.symm.trans hy
    rw [Function.update_self]
    exact hintegral p hp
  · intro c hc
    rw [hkept c hc]
    exact h.integral c hc
  · intro w hw
    rw [List.forall_mem_cons] at hw
    rw [Function.update_of_ne hw.1.symm]
    exact h.elsewhere w hw.2
  · rw [Coefs.value, Function.update_self, Coefs.value_congr_of_mem hkept]

/-- Both ends are reached. Which bound of a variable is for which end depends on the sign of its
coefficient. -/
theorem exists_corners (hcs : cs.Canonical) (h : m.coefBounds cs = .ok (low, high))
    (hle : ∀ c ∈ cs, ∀ x, m.get? c.1 = some x → x.lower ≤ x.upper) (s₀ : Assignment) :
    ∃ s s', (m.Corner cs s₀ s ∧ cs.value s = low) ∧ m.Corner cs s₀ s' ∧ cs.value s' = high := by
  induction cs generalizing low high with
  | nil =>
    cases h
    exact ⟨s₀, s₀, ⟨.nil m s₀, rfl⟩, .nil m s₀, rfl⟩
  | cons c cs ih =>
    obtain ⟨v, q⟩ := c
    obtain ⟨habove, -, hcs⟩ := Coefs.canonical_cons.1 hcs
    obtain ⟨hlev, hle⟩ := List.forall_mem_cons.1 hle
    simp only [coefBounds] at h
    split at h
    · cases h
    · rename_i l u hv
      split at h
      · cases h
      · rename_i low' high' hrest
        obtain ⟨x, hx, hl, hu⟩ := finiteBounds?_eq_some hv
        obtain ⟨s, s', ⟨hs, rfl⟩, hs', rfl⟩ := ih hcs hrest hle
        have hlx := hlev x hx
        split at h <;> cases h
        · exact ⟨_, _, hs.cons q habove hx hlx (.inl hl), hs'.cons q habove hx hlx (.inr hu)⟩
        · exact ⟨_, _, hs.cons q habove hx hlx (.inr hu), hs'.cons q habove hx hlx (.inl hl)⟩

end Model

namespace Build

variable {cause : String → Cause} {m : Model} {t : Term}

theorem bounds_unchanged : (bounds cause t m).2 = m := by
  unfold bounds
  split <;> rfl

theorem bounds_eq_ok_iff {b : Rat × Rat} :
    bounds cause t m = (.ok b, m) ↔ m.bounds t = .ok b := by
  unfold bounds
  split <;> rename_i h <;> simp [h]

theorem bounds_error {c : Cause} (h : (bounds cause t m).1 = .error c) :
    ∃ name, m.coefBounds t.coefs = .error name ∧ c = cause name := by
  unfold bounds at h
  split at h <;> cases h
  rename_i name hname
  refine ⟨name, ?_, rfl⟩
  rw [Model.bounds] at hname
  split at hname <;> cases hname
  assumption

/-- There are bounds of a term precisely if all its variables have finite ones; otherwise one that
has not is to blame. Then, unless a lower bound of a variable exceeds its upper one, the term stays
between the bounds and reaches both, with integers for variables that need them and have integral
bounds, and whatever the other variables are. -/
theorem bounds_exact (cause : String → Cause) (m : Model) (t : Term) :
    ((∃ b, bounds cause t m = (.ok b, m)) ↔ ∀ c ∈ t.coefs, m.HasFiniteBounds c.1) ∧
    (∀ e, (bounds cause t m).1 = .error e →
      ∃ c ∈ t.coefs, ¬ m.HasFiniteBounds c.1 ∧ e = cause (m.variableName c.1)) ∧
    (bounds cause t m).2 = m ∧
    ∀ low high, bounds cause t m = (.ok (low, high), m) →
      (∀ c ∈ t.coefs, ∀ x, m.get? c.1 = some x → x.lower ≤ x.upper) →
      (∀ s, m.Encloses t.coefs s → low ≤ t.value s ∧ t.value s ≤ high) ∧
      ∀ s₀, ∃ s s', (m.Corner t.coefs s₀ s ∧ t.value s = low) ∧
        m.Corner t.coefs s₀ s' ∧ t.value s' = high := by
  refine ⟨?succeeds, ?fails, bounds_unchanged, fun low high hb hle => ⟨?between, ?ends⟩⟩
  case succeeds =>
    rw [← Model.exists_coefBounds_iff]
    simp only [bounds_eq_ok_iff, Model.exists_bounds_iff]
  case fails =>
    intro e he
    obtain ⟨name, hname, rfl⟩ := bounds_error he
    obtain ⟨c, hc, hbounds, rfl⟩ := Model.coefBounds_error hname
    exact ⟨c, hc, hbounds, rfl⟩
  case between =>
    intro s hs
    rw [bounds_eq_ok_iff, Model.bounds_eq_ok_iff] at hb
    obtain ⟨hlow, hhigh⟩ := (Model.coefBounds_ok hb).2 s hs
    rw [Term.value]
    constructor <;> linarith
  case ends =>
    intro s₀
    rw [bounds_eq_ok_iff, Model.bounds_eq_ok_iff] at hb
    obtain ⟨s, s', ⟨hs, hlow⟩, hs', hhigh⟩ := Model.exists_corners t.canonical hb hle s₀
    refine ⟨s, s', ⟨hs, ?_⟩, hs', ?_⟩
    · rw [Term.value, hlow, add_sub_cancel]
    · rw [Term.value, hhigh, add_sub_cancel]

/-- An integer from `-2` to `3`, a fraction from `1/2` to `5/2`, and a variable without bounds. -/
def crate : Model :=
  ⟨#[⟨"i", .integer, .finite (-2), .finite 3, none, none, 0⟩,
    ⟨"x", .continuous, .finite (1 / 2), .finite (5 / 2), none, none, 0⟩,
    ⟨"y", .continuous, .minusInfinity, .plusInfinity, none, none, 0⟩], [], [], none, []⟩

/-- `2 i - 3 x + 1` lies between `-21/2` and `11/2` there, and is `-21/2` for an integer `i` between
its bounds, while `y` is anything. There are no bounds of `y`. -/
theorem bounds_exact_crate :
    let t := (((Term.ofVar 0).scale 2).sub ((Term.ofVar 1).scale 3)).addConstant 1
    bounds .conditionUnbounded t crate = (.ok (-21 / 2, 11 / 2), crate) ∧
      (∀ c ∈ t.coefs, ∀ x, crate.get? c.1 = some x → x.lower ≤ x.upper) ∧
      (∃ s, crate.Encloses t.coefs s ∧ (s 0).den = 1 ∧ s 2 = 100 ∧ t.value s = -21 / 2) ∧
      (bounds .conditionUnbounded (.ofVar 2) crate).1 = .error (.conditionUnbounded "y") ∧
      ∃ c ∈ (Term.ofVar 2).coefs, ¬ crate.HasFiniteBounds c.1 := by
  intro t
  have hcoefs : t.coefs = [(0, 2), (1, -3)] := by decide +kernel
  have hb : bounds .conditionUnbounded t crate = (.ok (-21 / 2, 11 / 2), crate) :=
    bounds_eq_ok_iff.2 (by decide +kernel)
  have hle : ∀ c ∈ t.coefs, ∀ x, crate.get? c.1 = some x → x.lower ≤ x.upper := by
    rw [hcoefs]
    decide +kernel
  have hy : (bounds .conditionUnbounded (.ofVar 2) crate).1 = .error (.conditionUnbounded "y") := by
    decide +kernel
  obtain ⟨-, -, -, hexact⟩ := bounds_exact .conditionUnbounded crate t
  obtain ⟨-, hends⟩ := hexact _ _ hb hle
  obtain ⟨s, -, ⟨hs, hvalue⟩, -⟩ := hends fun _ => 100
  obtain ⟨-, hfails, -⟩ := bounds_exact .conditionUnbounded crate (.ofVar 2)
  obtain ⟨c, hc, hc', -⟩ := hfails _ hy
  refine ⟨hb, hle, ⟨s, hs.encloses, ?_, hs.elsewhere 2 ?_, hvalue⟩, hy, c, hc, hc'⟩
  · refine hs.integral (0, 2) (by simp [hcoefs]) _ rfl (by decide) ?_
    rintro q (hq | hq) <;> cases hq <;> rfl
  · simp [hcoefs]

end Build

end ModelLang
