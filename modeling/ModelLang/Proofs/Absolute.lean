import ModelLang.Proofs.Determined

/-!
# ModelLang.Proofs.Absolute

Absolute values as linear rows. `sixRows_iff` reads the six rows as numbers: they say that the sign
is the right one, where zero has both, and that the helper is the absolute value. `absolute_exact`
says that the rows cut off no values of the older variables, and leave the helper no other value.
-/

namespace ModelLang

namespace Build

/-! ## The six rows -/

/-- What the rows require of a term `t`, its sign `s` and its absolute value `r`. -/
def sixRows (t s r : Term) (low high : Rat) : List Requirement :=
  [⟨(t.add (s.scale low)).sub (.ofConstant low), .ge⟩, ⟨t.sub (s.scale high), .le⟩,
    ⟨r.sub t, .ge⟩, ⟨r.add t, .ge⟩,
    ⟨((r.sub t).add (.ofConstant (2 * low))).sub (s.scale (2 * low)), .le⟩,
    ⟨(r.add t).sub (s.scale (2 * high)), .le⟩]

/-- The sign is one for a positive value, zero for a negative value, and either of them for zero. -/
def SignOf (sign x : Rat) : Prop :=
  sign = 1 ∧ 0 ≤ x ∨ sign = 0 ∧ x ≤ 0

theorem sixRows_iff {t s r : Term} {low high : Rat} {a : Assignment}
    (hlow : low ≤ t.value a) (hhigh : t.value a ≤ high) (hs : s.value a = 0 ∨ s.value a = 1) :
    (∀ c ∈ sixRows t s r low high, c.Holds a) ↔
      SignOf (s.value a) (t.value a) ∧ r.value a = |t.value a| := by
  simp only [sixRows, List.mem_cons, List.not_mem_nil, or_false, forall_eq_or_imp, forall_eq,
    Requirement.Holds, ConRel.Holds, Term.value_sub, Term.value_add, Term.value_scale,
    Term.value_ofConstant, SignOf]
  rcases hs with h₀ | h₁
  · rw [h₀]
    constructor
    · rintro ⟨_, hneg, _, hge, _, hle⟩
      have ht : t.value a ≤ 0 := by linarith
      refine ⟨.inr ⟨rfl, ht⟩, ?_⟩
      rw [abs_of_nonpos ht]
      linarith
    · rintro ⟨⟨h, _⟩ | ⟨_, ht⟩, hr⟩
      · norm_num at h
      · rw [hr, abs_of_nonpos ht]
        refine ⟨?_, ?_, ?_, ?_, ?_, ?_⟩ <;> linarith
  · rw [h₁]
    constructor
    · rintro ⟨hpos, _, hge, _, hle, _⟩
      have ht : 0 ≤ t.value a := by linarith
      refine ⟨.inl ⟨rfl, ht⟩, ?_⟩
      rw [abs_of_nonneg ht]
      linarith
    · rintro ⟨⟨_, ht⟩ | ⟨h, _⟩, hr⟩
      · rw [hr, abs_of_nonneg ht]
        refine ⟨?_, ?_, ?_, ?_, ?_, ?_⟩ <;> linarith
      · norm_num at h

theorem exists_signOf (x : Rat) : ∃ sign, (sign = 0 ∨ sign = 1) ∧ SignOf sign x := by
  rcases le_total 0 x with h | h
  · exact ⟨1, .inr rfl, .inl ⟨rfl, h⟩⟩
  · exact ⟨0, .inl rfl, .inr ⟨rfl, h⟩⟩

/-! ## Two helper variables -/

/-- The assignment that gives the two variables from `n` on new values. -/
def withTwo (a : Assignment) (n : VarId) (x y : Rat) : Assignment := fun v =>
  if v = n then x else if v = n + 1 then y else a v

theorem withTwo_other (a : Assignment) {v n : Nat} (x y : Rat) (h : v < n ∨ n + 2 ≤ v) :
    withTwo a n x y v = a v := by
  have h₁ : v ≠ n := by omega
  have h₂ : v ≠ n + 1 := by omega
  simp [withTwo, h₁, h₂]

/-- Values that the two new variables admit complete an assignment. -/
theorem completes_withTwo {m m' : Model} {x y : Variable} {rs : List Row} {p q : Rat}
    (hg : m.Grows m' [x, y] rs) (a : Assignment) (hx : x.Admits p) (hy : y.Admits q) :
    Completes m m' a (withTwo a m.vars.size p q) := by
  have hsize : m'.vars.size = m.vars.size + 2 := hg.size
  constructor
  · intro v hv
    rw [hsize] at hv
    exact withTwo_other a p q hv
  · intro v z hv hz
    have hlt := Model.get?_lt hz
    rw [hg.get?_eq] at hz
    rcases Nat.eq_or_lt_of_le hv with rfl | hv
    · simp at hz
      simpa [withTwo, ← hz] using hx
    · have hv' : v < m.vars.size + 2 := hsize ▸ hlt
      have : v = m.vars.size + 1 := Nat.le_antisymm (Nat.le_of_lt_succ hv') hv
      subst this
      simp at hz
      simpa [withTwo, ← hz] using hy

/-! ## Absolute values -/

def signVariable (name : String) : Variable :=
  ⟨name, .binary, 0, 1, none, none, 0⟩

def absVariable (name : String) (low high : Rat) : Variable :=
  ⟨name, .continuous, 0, .finite (max (-low) high), none, none, 0⟩

/-- What stands for the absolute value of a term with the bounds `low` and `high`, and the variables
and rows that are added for it: nothing new if its sign is known, otherwise a sign, a helper and the
six rows. -/
inductive Absolute (m m' : Model) (t : Term) (low high : Rat) :
    Term → List Variable → List Row → Prop where
  | nonneg (hl : 0 ≤ low) : Absolute m m' t low high t [] []
  | nonpos (hl : low < 0) (hh : high ≤ 0) : Absolute m m' t low high t.neg [] []
  | signed {m₁ : Model} {sign abs : String} {rs : List Row} (hl : low < 0) (hh : 0 < high)
      (hi : Imposes m₁ m' "vabs_c"
        (sixRows t (.ofVar m.vars.size) (.ofVar (m.vars.size + 1)) low high) rs) :
      Absolute m m' t low high (.ofVar (m.vars.size + 1))
        [signVariable sign, absVariable abs low high] rs

theorem absolute_ok {t u : Term} {m m' : Model} (h : absolute t m = (.ok u, m')) :
    ∃ low high xs rs, m.bounds t = .ok (low, high) ∧ m.Grows m' xs rs ∧
      Absolute m m' t low high u xs rs := by
  simp only [absolute, Step.bind_eq_ok] at h
  obtain ⟨⟨low, high⟩, m₀, hb, h⟩ := h
  obtain ⟨hb, rfl⟩ := bounds_ok hb
  refine ⟨low, high, ?_⟩
  simp only at h
  split at h
  · rename_i hlow
    cases h
    exact ⟨[], [], hb, .refl _, .nonneg hlow⟩
  · rename_i hlow
    split at h
    · rename_i hhigh
      cases h
      exact ⟨[], [], hb, .refl _, .nonpos (not_le.1 hlow) hhigh⟩
    · rename_i hhigh
      simp only [Step.bind_eq_ok, Step.pure_apply] at h
      obtain ⟨s, m₁, hs, r, m₂, hr, ⟨⟩, m₃, h₁, ⟨⟩, m₄, h₂, ⟨⟩, m₅, h₃, ⟨⟩, m₆, h₄, ⟨⟩, m₇, h₅,
        ⟨⟩, m₈, h₆, hu⟩ := h
      cases hu
      obtain ⟨rfl, sign, hg₁⟩ := helper_ok hs
      obtain ⟨rfl, abs, hg₂⟩ := helper_ok hr
      have hsize : m₁.vars.size = m₀.vars.size + 1 := hg₁.size
      have hupper : (if -low ≤ high then high else -low) = max (-low) high := rfl
      rw [hsize] at h₃ h₄ h₅ h₆
      rw [hupper] at hg₂
      obtain ⟨rs₁, hi₁⟩ := row_ok h₁
      obtain ⟨rs₂, hi₂⟩ := row_ok h₂
      obtain ⟨rs₃, hi₃⟩ := row_ok h₃
      obtain ⟨rs₄, hi₄⟩ := row_ok h₄
      obtain ⟨rs₅, hi₅⟩ := row_ok h₅
      obtain ⟨rs₆, hi₆⟩ := row_ok h₆
      have hi := hi₁.trans (hi₂.trans (hi₃.trans (hi₄.trans (hi₅.trans hi₆))))
      have hg := (hg₁.trans hg₂).trans hi.grows
      rw [hsize]
      exact ⟨_, _, hb, hg, .signed (not_le.1 hlow) (not_le.1 hhigh) hi⟩

/-- The helper for the absolute value has room for it. -/
theorem absVariable_admits {name : String} {low high x : Rat} (hl : low ≤ x) (hh : x ≤ high) :
    (absVariable name low high).Admits |x| := by
  refine ⟨⟨?_, ?_⟩, fun h => absurd rfl h⟩
  · simp [absVariable]
  · simp only [absVariable, Number.finite_le_finite]
    exact abs_le'.2 ⟨hh.trans (le_max_right _ _), (neg_le_neg hl).trans (le_max_left _ _)⟩

/-- The two helpers admit values for which the six rows hold. -/
theorem Absolute.complete {m m' : Model} {t u : Term} {low high : Rat} {xs : List Variable}
    {rs : List Row} (h : Absolute m m' t low high u xs rs) (hg : m.Grows m' xs rs)
    (hb : m.bounds t = .ok (low, high)) {s : Assignment} (hs : m.Within s) :
    ∃ s', Completes m m' s s' ∧ AllHold rs s' := by
  cases h with
  | nonneg => exact ⟨s, .refl hg.vars_eq s, by simp [AllHold]⟩
  | nonpos => exact ⟨s, .refl hg.vars_eq s, by simp [AllHold]⟩
  | signed hl hh hi =>
    obtain ⟨hbelow, hbounds⟩ := Model.bounds_ok hb
    obtain ⟨hlow, hhigh⟩ := hbounds s hs
    obtain ⟨sign, h01, hsign⟩ := exists_signOf (t.value s)
    have hx : ∀ name, (signVariable name).Admits sign := by
      intro name
      obtain ⟨h₀, h₁⟩ := admits_zero_and_one (x := signVariable name) rfl rfl
      rcases h01 with rfl | rfl
      · exact h₀
      · exact h₁
    have hc := completes_withTwo hg s (hx _) (absVariable_admits hlow hhigh)
    have ht := Term.value_congr hbelow hc.agreeBelow
    refine ⟨_, hc, (hi.holds _).2 ?_⟩
    rw [ht] at hlow hhigh hsign
    rw [sixRows_iff hlow hhigh (by simpa [withTwo] using h01)]
    refine ⟨by simpa [withTwo] using hsign, ?_⟩
    rw [← ht]
    simp [withTwo]

/-- Nothing but the absolute value is left for the term that stands for it. -/
theorem Absolute.sound {m m' : Model} {t u : Term} {low high : Rat} {xs : List Variable}
    {rs : List Row} (h : Absolute m m' t low high u xs rs) (hg : m.Grows m' xs rs)
    (hb : m.bounds t = .ok (low, high)) {s s' : Assignment} (hs : m.Within s)
    (hc : Completes m m' s s') (hh : AllHold rs s') : u.value s' = |t.value s| := by
  obtain ⟨hbelow, hbounds⟩ := Model.bounds_ok hb
  obtain ⟨hlow, hhigh⟩ := hbounds s hs
  have ht := Term.value_congr hbelow hc.agreeBelow
  cases h with
  | nonneg hl => rw [← ht, abs_of_nonneg (hl.trans hlow)]
  | nonpos _ hu => rw [Term.value_neg, ← ht, abs_of_nonpos (hhigh.trans hu)]
  | @signed _ sign _ _ hl hu hi =>
    have hx : m'.get? m.vars.size = some (signVariable sign) := by
      rw [hg.get?_eq]
      simp
    have h01 := zero_or_one rfl rfl rfl (hc.new _ _ (Nat.le_refl _) hx)
    rw [ht] at hlow hhigh
    rw [hi.holds, sixRows_iff hlow hhigh (by simpa using h01)] at hh
    rw [hh.2, ht]

theorem absolute_fails {t : Term} {m m' : Model} {e : Cause}
    (h : absolute t m = (.error e, m')) : m' = m ∧ ∃ name, e = .absoluteUnbounded name := by
  simp only [absolute, Step.bind_eq_error] at h
  obtain h | ⟨⟨low, high⟩, m₀, hb, h⟩ := h
  · unfold bounds at h
    split at h
    · cases h
    · cases h
      exact ⟨rfl, _, rfl⟩
  · simp only at h
    split at h
    · cases h
    · split at h
      · cases h
      · cases h

theorem absolute_error {t : Term} {m m' : Model} {e : Cause}
    (h : absolute t m = (.error e, m')) : m' = m :=
  (absolute_fails h).1

/-- A term that is to be made absolute without success leaves the model. Otherwise, whatever values
the older variables have within their bounds, the helpers admit values for which the rows hold, and
the new term has the absolute value for all of these. -/
theorem absolute_exact (t : Term) (m : Model) :
    (∀ e m', absolute t m = (.error e, m') → m' = m) ∧
    ∀ u m', absolute t m = (.ok u, m') →
      ∃ low high xs rs, m.bounds t = .ok (low, high) ∧ m.Grows m' xs rs ∧
        Absolute m m' t low high u xs rs ∧
        ∀ s, m.Within s →
          (∃ s', Completes m m' s s' ∧ AllHold rs s') ∧
          ∀ s', Completes m m' s s' → AllHold rs s' → u.value s' = |t.value s| := by
  refine ⟨fun _ _ => absolute_error, fun u m' h => ?_⟩
  obtain ⟨low, high, xs, rs, hb, hg, ha⟩ := absolute_ok h
  exact ⟨low, high, xs, rs, hb, hg, ha, fun s hs =>
    ⟨ha.complete hg hb hs, fun s' hc hh => ha.sound hg hb hs hc hh⟩⟩

/-- A variable with finite bounds, and one without. -/
def span : Model :=
  ⟨#[⟨"x", .continuous, .finite (-2), .finite 3, none, none, 0⟩,
    ⟨"y", .continuous, .minusInfinity, .plusInfinity, none, none, 0⟩], [], [], none, []⟩

theorem absolute_exact_span :
    (absolute (.ofVar 1) span).2 = span ∧
      ∃ u m' s', absolute (.ofVar 0) span = (.ok u, m') ∧
        Completes span m' (fun _ => -2) s' ∧ u.value s' = 2 := by
  have hspan : span.Within fun _ => -2 := by
    intro v x hx
    rcases Nat.le_one_iff_eq_zero_or_eq_one.1 (Nat.le_of_lt_succ (Model.get?_lt hx)) with rfl | rfl
    · cases hx
      decide +kernel
    · cases hx
      decide +kernel
  have herror : absolute (.ofVar 1) span =
      (.error (.absoluteUnbounded "y"), (absolute (.ofVar 1) span).2) :=
    Prod.ext (by decide +kernel) rfl
  have hok : absolute (.ofVar 0) span = (.ok (.ofVar 3), (absolute (.ofVar 0) span).2) :=
    Prod.ext (by decide +kernel) rfl
  obtain ⟨_, _, _, _, _, _, _, hs⟩ := (absolute_exact (.ofVar 0) span).2 _ _ hok
  obtain ⟨⟨s', hc, hh⟩, hv⟩ := hs _ hspan
  refine ⟨(absolute_exact (.ofVar 1) span).1 _ _ herror, _, _, s', hok, hc, ?_⟩
  rw [hv s' hc hh, Term.value_ofVar]
  norm_num

end Build

end ModelLang
