import ModelLang.Proofs.Growth

/-!
# ModelLang.Proofs.Determined

Helper variables that rows define. `Determines m m' rs` says that the rows `rs` give the variables
which `m'` has beyond `m` exactly one value each, whatever the older variables are. It composes
(`Determines.trans`), and one binary variable is determined as soon as its rows say that it is one
exactly when some property of the older variables holds (`determines_binary`).

`Indicates` is the invariant of the terms that stand for a condition: such a term is zero or one
within the model, and one exactly when the condition holds. Negation keeps it, and `combine` takes
it through every connective.
-/

namespace ModelLang

/-- The rows `rs`, which `m'` has beyond `m`, determine the variables that it has beyond `m`. -/
structure Determines (m m' : Model) (rs : List Row) : Prop where
  grows : ∃ xs, m.Grows m' xs rs
  below : ∀ r ∈ rs, r.term.Below m'.vars.size
  complete : ∀ s, m.Respects s →
    ∃ s', s.AgreeBelow m.vars.size s' ∧ m'.Respects s' ∧ AllHold rs s'
  unique : ∀ s s', m'.Respects s → m'.Respects s' → s.AgreeBelow m.vars.size s' →
    AllHold rs s → AllHold rs s' → s.AgreeBelow m'.vars.size s'

namespace Determines

variable {m m₁ m₂ : Model} {rs qs : List Row}

theorem size_le (h : Determines m m₁ rs) : m.vars.size ≤ m₁.vars.size := by
  obtain ⟨_, hg⟩ := h.grows
  exact hg.size_le

theorem respects (h : Determines m m₁ rs) {s : Assignment} (hs : m₁.Respects s) : m.Respects s := by
  obtain ⟨_, hg⟩ := h.grows
  exact hg.respects hs

theorem trans (h : Determines m m₁ rs) (h' : Determines m₁ m₂ qs) :
    Determines m m₂ (rs ++ qs) where
  grows := by
    obtain ⟨xs, hg⟩ := h.grows
    obtain ⟨ys, hg'⟩ := h'.grows
    exact ⟨xs ++ ys, hg.trans hg'⟩
  below := by
    intro r hr
    rcases List.mem_append.1 hr with hr | hr
    · exact (h.below r hr).mono h'.size_le
    · exact h'.below r hr
  complete := by
    intro s hs
    obtain ⟨s₁, ha₁, hr₁, hh₁⟩ := h.complete s hs
    obtain ⟨s₂, ha₂, hr₂, hh₂⟩ := h'.complete s₁ hr₁
    refine ⟨s₂, ha₁.trans (ha₂.mono h.size_le), hr₂, allHold_append.2 ⟨?_, hh₂⟩⟩
    exact (allHold_congr h.below ha₂).1 hh₁
  unique := by
    intro s s' hs hs' ha hh hh'
    rw [allHold_append] at hh hh'
    have h₁ := h.unique s s' (h'.respects hs) (h'.respects hs') ha hh.1 hh'.1
    exact h'.unique s s' hs hs' h₁ hh.2 hh'.2

end Determines

/-! ## Completions -/

/-- To the variables that `m'` has beyond `m`, `s'` gives values which they admit, and to every
other number it gives what `s` does. -/
structure Completes (m m' : Model) (s s' : Assignment) : Prop where
  old : ∀ v, v < m.vars.size ∨ m'.vars.size ≤ v → s' v = s v
  new : ∀ v x, m.vars.size ≤ v → m'.get? v = some x → x.Admits (s' v)

theorem completes_congr {m m₁ m₂ : Model} (h : m₂.vars = m₁.vars) {s s' : Assignment} :
    Completes m m₂ s s' ↔ Completes m m₁ s s' := by
  constructor
  · rintro ⟨hold, hnew⟩
    simp only [Model.get?, h] at hold hnew
    exact ⟨hold, hnew⟩
  · rintro ⟨hold, hnew⟩
    simp only [Model.get?, ← h] at hold hnew
    exact ⟨hold, hnew⟩

theorem Completes.refl {m m' : Model} (h : m'.vars = m.vars) (s : Assignment) :
    Completes m m' s s where
  old := fun _ _ => rfl
  new := by
    intro v x hv hx
    rw [Model.get?, h] at hx
    exact absurd (Model.get?_lt hx) (Nat.not_lt.2 hv)

theorem Completes.agreeBelow {m m' : Model} {s s' : Assignment} (h : Completes m m' s s') :
    s.AgreeBelow m.vars.size s' :=
  fun v hv => (h.old v (.inl hv)).symm

theorem Completes.respects {m m' : Model} {xs : List Variable} {rs : List Row} {s s' : Assignment}
    (h : Completes m m' s s') (hg : m.Grows m' xs rs) (hs : m.Respects s) : m'.Respects s' := by
  intro v x hx
  by_cases hv : v < m.vars.size
  · rw [hg.get?_old hv] at hx
    rw [h.old v (.inl hv)]
    exact hs v x hx
  · exact h.new v x (Nat.le_of_not_lt hv) hx

theorem Determines.existsUnique {m m' : Model} {rs : List Row} (h : Determines m m' rs)
    {s : Assignment} (hs : m.Respects s) : ∃! s', Completes m m' s s' ∧ AllHold rs s' := by
  obtain ⟨_, hg⟩ := h.grows
  obtain ⟨s₁, ha, hr, hh⟩ := h.complete s hs
  let s' : Assignment := fun v => if v < m'.vars.size then s₁ v else s v
  have hs' : s₁.AgreeBelow m'.vars.size s' := by
    intro v hv
    simp [s', hv]
  have hc : Completes m m' s s' := by
    constructor
    · rintro v (hv | hv)
      · rw [← hs' v (Nat.lt_of_lt_of_le hv hg.size_le), ha v hv]
      · simp [s', Nat.not_lt.2 hv]
    · intro v x _ hx
      exact hr.congr hs' v x hx
  refine ⟨s', ⟨hc, (allHold_congr h.below hs').1 hh⟩, ?_⟩
  rintro s'' ⟨hc'', hh''⟩
  have heq := h.unique s'' s' (hc''.respects hg hs) (hc.respects hg hs)
    (hc''.agreeBelow.symm.trans hc.agreeBelow) hh'' ((allHold_congr h.below hs').1 hh)
  funext v
  by_cases hv : v < m'.vars.size
  · exact heq v hv
  · rw [hc''.old v (.inr (Nat.le_of_not_lt hv)), hc.old v (.inr (Nat.le_of_not_lt hv))]

/-! ## One binary variable -/

/-- The values of a binary variable. -/
theorem zero_or_one {x : Variable} (hk : x.kind = .binary) (hl : x.lower = 0) (hu : x.upper = 1)
    {q : Rat} (h : x.Admits q) : q = 0 ∨ q = 1 := by
  obtain ⟨⟨h₀, h₁⟩, hi⟩ := h
  rw [hl] at h₀
  rw [hu] at h₁
  have hd : q.den = 1 := hi (by rw [hk]; decide)
  obtain ⟨z, rfl⟩ : ∃ z : Int, q = z := ⟨q.num, ((Rat.den_eq_one_iff q).1 hd).symm⟩
  simp only [Number.zero_eq_finite, Number.one_eq_finite, Number.finite_le_finite] at h₀ h₁
  have h₀' : 0 ≤ z := by exact_mod_cast h₀
  have h₁' : z ≤ 1 := by exact_mod_cast h₁
  have hz : z = 0 ∨ z = 1 := by omega
  rcases hz with rfl | rfl
  · exact .inl (by simp)
  · exact .inr (by simp)

theorem admits_zero_and_one {x : Variable} (hl : x.lower = 0) (hu : x.upper = 1) :
    x.Admits 0 ∧ x.Admits 1 := by
  refine ⟨⟨⟨?_, ?_⟩, fun _ => rfl⟩, ⟨⟨?_, ?_⟩, fun _ => rfl⟩⟩ <;> simp [hl, hu]

/-- The property `P` depends on the variables below `n` only. -/
def Local (n : Nat) (P : Assignment → Prop) : Prop :=
  ∀ s s', s.AgreeBelow n s' → (P s ↔ P s')

theorem Local.mono {n k : Nat} {P : Assignment → Prop} (h : Local n P) (hk : n ≤ k) : Local k P :=
  fun s s' hs => h s s' (hs.mono hk)

/-- Rows that tie one new binary variable to a property of the older ones determine it. -/
theorem determines_binary {m m' : Model} {x : Variable} {rs : List Row} {P : Assignment → Prop}
    (hg : m.Grows m' [x] rs) (hk : x.kind = .binary) (hl : x.lower = 0) (hu : x.upper = 1)
    (hb : ∀ r ∈ rs, r.term.Below m'.vars.size) (hP : Local m.vars.size P)
    (hrs : ∀ s, m'.Respects s → (AllHold rs s ↔ (s m.vars.size = 1 ↔ P s))) :
    Determines m m' rs where
  grows := ⟨_, hg⟩
  below := hb
  complete := by
    intro s hs
    classical
    let s' : Assignment := fun v => if v = m.vars.size then (if P s then 1 else 0) else s v
    have hold : s.AgreeBelow m.vars.size s' := by
      intro v hv
      have : v ≠ m.vars.size := by omega
      simp [s', this]
    have hnew : s' m.vars.size = if P s then 1 else 0 := by simp [s']
    have hr : m'.Respects s' := by
      intro v y hy
      by_cases hv : v < m.vars.size
      · rw [hg.get?_old hv] at hy
        rw [← hold v hv]
        exact hs v y hy
      · have hlt : v < m.vars.size + 1 := by simpa [hg.size] using Model.get?_lt hy
        have hv' : v = m.vars.size := Nat.le_antisymm (Nat.le_of_lt_succ hlt) (Nat.le_of_not_lt hv)
        subst hv'
        rw [hg.get?_new] at hy
        cases hy
        obtain ⟨h₀, h₁⟩ := admits_zero_and_one hl hu
        rw [hnew]
        split
        · exact h₁
        · exact h₀
    refine ⟨s', hold, hr, (hrs s' hr).2 ?_⟩
    rw [hnew, ← hP s s' hold]
    by_cases h : P s <;> simp [h]
  unique := by
    intro s s' hs hs' ha hh hh' v hv
    have hlt : v < m.vars.size + 1 := by simpa [hg.size] using hv
    by_cases hv' : v < m.vars.size
    · exact ha v hv'
    · have hv₀ : v = m.vars.size := Nat.le_antisymm (Nat.le_of_lt_succ hlt) (Nat.le_of_not_lt hv')
      subst hv₀
      have hx := hg.get?_new
      have h := (hrs s hs).1 hh
      have h' := (hrs s' hs').1 hh'
      rw [← hP s s' ha] at h'
      have h₀ := zero_or_one hk hl hu (hs _ x hx)
      have h₀' := zero_or_one hk hl hu (hs' _ x hx)
      by_cases hp : P s
      · rw [h.2 hp, h'.2 hp]
      · rcases h₀ with h₀ | h₀
        · rcases h₀' with h₀' | h₀'
          · rw [h₀, h₀']
          · exact absurd (h'.1 h₀') hp
        · exact absurd (h.1 h₀) hp

/-! ## Terms that stand for a condition -/

/-- The rows `rs` determine the new variables, and then the term `r` is one if `P` holds and zero
otherwise. -/
structure Indicates (m m' : Model) (rs : List Row) (r : Term) (P : Assignment → Prop) : Prop where
  determines : Determines m m' rs
  below : r.Below m'.vars.size
  isLocal : Local m'.vars.size P
  zeroOne : ∀ s, m'.Respects s → r.value s = 0 ∨ r.value s = 1
  exact : ∀ s, m'.Respects s → AllHold rs s → (r.value s = 1 ↔ P s)

namespace Indicates

variable {m m₁ m₂ m₃ : Model} {rs qs ps : List Row} {a b r : Term} {P Q : Assignment → Prop}

theorem not (h : Indicates m m₁ rs a P) :
    Indicates m m₁ rs (Build.one.sub a) (fun s => ¬ P s) where
  determines := h.determines
  below := Term.below_sub (Term.below_ofConstant _ 1) h.below
  isLocal := fun s s' hs => not_congr (h.isLocal s s' hs)
  zeroOne := by
    intro s hs
    rcases h.zeroOne s hs with h₀ | h₁
    · right
      simp [Build.one, h₀]
    · left
      simp [Build.one, h₁]
  exact := by
    intro s hs hh
    rw [← h.exact s hs hh]
    rcases h.zeroOne s hs with h₀ | h₁
    · simp [Build.one, h₀]
    · simp [Build.one, h₁]

theorem congr (h : Indicates m m₁ rs a P) (hQ : Local m₁.vars.size Q)
    (hPQ : ∀ s, m₁.Respects s → (P s ↔ Q s)) : Indicates m m₁ rs a Q where
  determines := h.determines
  below := h.below
  isLocal := hQ
  zeroOne := h.zeroOne
  exact := fun s hs hh => (h.exact s hs hh).trans (hPQ s hs)

/-- Further variables leave the term one that is zero or one. -/
theorem later (h : Indicates m m₁ rs a P) (h' : Determines m₁ m₂ qs) :
    a.Below m₂.vars.size ∧ ∀ s, m₂.Respects s → a.value s = 0 ∨ a.value s = 1 :=
  ⟨h.below.mono h'.size_le, fun s hs => h.zeroOne s (h'.respects hs)⟩

/-- What a term indicates of terms, it indicates of the conditions that these stand for. -/
theorem combine {f : Prop → Prop → Prop} (ha : Indicates m m₁ rs a P) (hb : Indicates m₁ m₂ qs b Q)
    (hr : Indicates m₂ m₃ ps r fun s => f (a.value s = 1) (b.value s = 1)) :
    Indicates m m₃ (rs ++ qs ++ ps) r fun s => f (P s) (Q s) where
  determines := (ha.determines.trans hb.determines).trans hr.determines
  below := hr.below
  isLocal := by
    have hle := hr.determines.size_le
    have hP := ha.isLocal.mono (hb.determines.size_le.trans hle)
    have hQ := hb.isLocal.mono hle
    intro s s' hs
    show f (P s) (Q s) ↔ f (P s') (Q s')
    rw [hP s s' hs, hQ s s' hs]
  zeroOne := hr.zeroOne
  exact := by
    intro s hs hh
    rw [allHold_append, allHold_append] at hh
    obtain ⟨⟨hha, hhb⟩, hhr⟩ := hh
    have h₂ := hr.determines.respects hs
    have h₁ := hb.determines.respects h₂
    rw [hr.exact s hs hhr, ha.exact s h₁ hha, hb.exact s h₂ hhb]

end Indicates

end ModelLang
