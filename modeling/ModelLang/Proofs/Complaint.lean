import ModelLang.Proofs.Layers

/-!
# ModelLang.Proofs.Complaint

What a reading that fails has asked for. It has asked for something in vain at the place after the
furthest token that it took, or later (`Layers.reading_tells`). A reading that rejects what it has
read would break this; so each filter must accept whatever its expression reads from the tokens at
hand, or its expression must be greedy: it asks for more in vain where it stops (`Peg.greedy`).
-/

namespace ModelLang

/-! ## What is known from the expressions -/

namespace Peg

variable {R : Type} {Result : R → Type}

/-- Whether an expression has asked for more in vain where it stops, if the rules in `greedyRule`
have. -/
def greedy (greedyRule : R → Bool) {α : Type} : Peg Result α → Bool
  | .token _ | .oneOf _ => false
  | .seq _ q => q.greedy greedyRule
  | .choice p q => p.greedy greedyRule && q.greedy greedyRule
  | .map _ p | .filterMap _ p | .spanned p | .opt p => p.greedy greedyRule
  | .many _ => true
  | .rule r => greedyRule r

/-- A filter, with the expression whose results it takes. -/
structure Filter (Result : R → Type) where
  {α β : Type}
  accept : α → Option β
  body : Peg Result α

/-- The filters in an expression, apart from its rules. -/
def filters {α : Type} : Peg Result α → List (Filter Result)
  | .token _ | .oneOf _ | .rule _ => []
  | .seq p q | .choice p q => p.filters ++ q.filters
  | .map _ p | .spanned p | .opt p | .many p => p.filters
  | .filterMap f p => ⟨f, p⟩ :: p.filters

end Peg

/-! ## Readings that tell -/

/-- Something was asked for at position `n` or later. -/
def AskedFrom (n : Nat) (asked : List Request) : Prop :=
  ∃ e ∈ asked, n ≤ e.1

namespace AskedFrom

variable {m n : Nat} {asked more : List Request}

theorem mono (h : AskedFrom n asked) (hle : m ≤ n) : AskedFrom m asked := by
  obtain ⟨e, he, hn⟩ := h
  exact ⟨e, he, Nat.le_trans hle hn⟩

theorem left (h : AskedFrom n asked) : AskedFrom n (asked ++ more) := by
  obtain ⟨e, he, hn⟩ := h
  exact ⟨e, List.mem_append_left _ he, hn⟩

theorem right (h : AskedFrom n more) : AskedFrom n (asked ++ more) := by
  obtain ⟨e, he, hn⟩ := h
  exact ⟨e, List.mem_append_right _ he, hn⟩

end AskedFrom

theorem max_of_both {P : Nat → Prop} {m n : Nat} (hm : P m) (hn : P n) : P (max m n) := by
  rcases Nat.le_total m n with h | h
  · rwa [Nat.max_eq_right h]
  · rwa [Nat.max_eq_left h]

namespace Reading

variable {α β : Type} {c : Cursor} {x y : Reading α} {g h : Bool}

/-- The reading from `c` leaves off no later than something that it asked for in vain. If it gives
something, this is so where it stops or at the furthest token that it took. -/
structure Tells (g : Bool) (c : Cursor) (x : Reading α) : Prop where
  le : ∀ a c', x.answer = some (a, c') → c.position ≤ c'.position
  reads : ∀ a c', x.answer = some (a, c') → x.used ≤ c'.position ∨ AskedFrom x.used x.asked
  fails : x.answer = none → AskedFrom x.used x.asked ∧ AskedFrom c.position x.asked
  greedy : g = true → ∀ a c', x.answer = some (a, c') → AskedFrom c'.position x.asked

namespace Tells

theorem weaken (hx : x.Tells g c) (hh : h = true → g = true) : x.Tells h c :=
  ⟨hx.le, hx.reads, hx.fails, fun htrue => hx.greedy (hh htrue)⟩

theorem ofNext {ts : List Terminal} {answer : Answer α} (ho : c.Offers ts answer) (hne : ts ≠ []) :
    (Reading.ofNext c ts answer).Tells false c := by
  rcases answer with _ | ⟨a, r⟩
  · obtain ⟨t, ht⟩ := List.exists_mem_of_ne_nil ts hne
    have hasked : AskedFrom c.position (ts.map fun t => (c.position, t)) :=
      ⟨(c.position, t), List.mem_map_of_mem ht, Nat.le_refl _⟩
    exact ⟨nofun, nofun, fun _ => ⟨hasked.mono (Nat.zero_le _), hasked⟩, nofun⟩
  · obtain ⟨_, _, _, hnext⟩ := ho
    have hpos := (Cursor.next?_eq_some hnext).2.position
    refine ⟨?_, ?_, nofun, nofun⟩
    · rintro _ _ ⟨⟩
      rw [hpos]
      exact Nat.le_add_right _ _
    · rintro _ _ ⟨⟩
      exact .inl (Nat.le_refl _)

theorem followed {z : Reading β} {c₁ : Cursor} (hz : z.Tells h c₁) (hle : c.position ≤ c₁.position)
    (hx : x.used ≤ c₁.position ∨ AskedFrom x.used x.asked) :
    Tells h c ⟨z.answer, x.asked ++ z.asked, max x.used z.used⟩ where
  le a c' ha := Nat.le_trans hle (hz.le a c' ha)
  reads a c' ha := by
    refine max_of_both (P := fun n => n ≤ c'.position ∨ AskedFrom n (x.asked ++ z.asked)) ?_ ?_
    · exact hx.imp (fun hle => Nat.le_trans hle (hz.le a c' ha)) .left
    · exact (hz.reads a c' ha).imp_right .right
  fails hnone := by
    obtain ⟨hused, hpos⟩ := hz.fails hnone
    refine ⟨max_of_both (P := fun n => AskedFrom n (x.asked ++ z.asked)) ?_ hused.right,
      (hpos.mono hle).right⟩
    exact hx.elim (fun hle => (hpos.mono hle).right) .left
  greedy hg a c' ha := (hz.greedy hg a c' ha).right

theorem bind {f : α → Cursor → Reading β} (hx : x.Tells g c)
    (hf : ∀ a c', x.answer = some (a, c') → (f a c').Tells h c') : (x.bind f).Tells h c := by
  rcases ha : x.answer with _ | ⟨a, c₁⟩
  · rw [bind_of_none ha]
    exact ⟨nofun, nofun, fun _ => hx.fails ha, fun _ => nofun⟩
  · rw [bind_of_some ha]
    exact (hf a c₁ ha).followed (hx.le a c₁ ha) (hx.reads a c₁ ha)

theorem orElse (hx : x.Tells g c) (hy : y.Tells h c) : (x.orElse y).Tells (g && h) c := by
  rcases ha : x.answer with _ | r
  · rw [orElse_of_none ha]
    refine (hy.followed (Nat.le_refl _) (.inr (hx.fails ha).1)).weaken ?_
    exact fun hgh => (Bool.and_eq_true_iff.1 hgh).2
  · rw [orElse_of_some ha]
    exact hx.weaken fun hgh => (Bool.and_eq_true_iff.1 hgh).1

theorem orElse_pure (hx : x.Tells g c) (a : α) : (x.orElse (.pure a c)).Tells g c := by
  rcases ha : x.answer with _ | r
  · obtain ⟨hused, hpos⟩ := hx.fails ha
    rw [orElse_of_none ha]
    simp only [Reading.pure, List.append_nil, Nat.max_zero]
    refine ⟨?_, fun _ _ _ => .inr hused, fun hnone => ?_, ?_⟩
    · rintro _ _ ⟨⟩
      exact Nat.le_refl _
    · cases hnone
    · rintro _ _ _ ⟨⟩
      exact hpos
  · rwa [orElse_of_some ha]

/-- A value may be rejected if its reading asked for more where it stopped. -/
theorem bind_ofOption {f : α → Cursor → Option β} (hx : x.Tells g c)
    (hf : g = true ∨ ∀ a c', x.answer = some (a, c') → (f a c').isSome = true) :
    (x.bind fun a c' => .ofOption (f a c') c').Tells g c := by
  rcases ha : x.answer with _ | ⟨a, c₁⟩
  · rw [bind_of_none ha]
    exact ⟨nofun, nofun, fun _ => hx.fails ha, fun _ => nofun⟩
  · rw [bind_of_some ha]
    simp only [Reading.ofOption, List.append_nil, Nat.max_zero]
    rcases hb : f a c₁ with _ | b
    · have hg : g = true := by
        refine hf.resolve_right fun hsome => ?_
        have hb' := hsome a c₁ ha
        rw [hb] at hb'
        cases hb'
      have hasked := hx.greedy hg a c₁ ha
      refine ⟨nofun, nofun, fun _ => ⟨?_, hasked.mono (hx.le a c₁ ha)⟩, fun _ => nofun⟩
      exact (hx.reads a c₁ ha).elim hasked.mono id
    · refine ⟨?_, ?_, nofun, fun hg => ?_⟩
      · rintro _ _ ⟨⟩
        exact hx.le a c₁ ha
      · rintro _ _ ⟨⟩
        exact hx.reads a c₁ ha
      · rintro _ _ ⟨⟩
        exact hx.greedy hg a c₁ ha

theorem bind_pure (hx : x.Tells g c) (f : α → Cursor → β) :
    (x.bind fun a c' => .pure (f a c') c').Tells g c :=
  hx.bind_ofOption (f := fun a c' => some (f a c')) (.inr fun _ _ _ => rfl)

end Tells

end Reading

/-! ## Grammars -/

namespace Layers

variable {R : Type} {Result : R → Type} {grammar : (r : R) → Peg Result (Result r)}
  (L : Layers grammar) {α : Type}

/-- The filter accepts whatever is read from tokens in `A`, or its expression is greedy. -/
def Harmless (A : Token → Prop) (greedyRule : R → Bool) (F : Peg.Filter Result) : Prop :=
  F.body.greedy greedyRule = true ∨
    ∀ c, (∀ t ∈ c.rest, A t) → ∀ a c', (L.reading F.body c).answer = some (a, c') →
      (F.accept a).isSome = true

variable {A : Token → Prop} {greedyRule : R → Bool}

/-- By induction along the readings. -/
theorem reading_tells
    (hgreedy : ∀ r, greedyRule r = true → (grammar r).greedy greedyRule = true)
    (hfilter : ∀ r, ∀ F ∈ (grammar r).filters, L.Harmless A greedyRule F)
    {p : Peg Result α} (hreg : p.regular = true)
    (hp : ∀ F ∈ p.filters, L.Harmless A greedyRule F) {c : Cursor} (hc : ∀ t ∈ c.rest, A t) :
    (L.reading p c).Tells (p.greedy greedyRule) c := by
  have honward {β : Type} {q : Peg Result β} {c c' : Cursor} {b : β} (hc : ∀ t ∈ c.rest, A t)
      (hb : (L.reading q c).answer = some (b, c')) : ∀ t ∈ c'.rest, A t := by
    obtain ⟨ts, ht, _⟩ := L.reading_proceeds q c b c' hb
    exact fun t h => hc t (ht.rest ▸ List.mem_append_right ts h)
  revert hp hc
  refine L.induct (motive := fun p c => (∀ F ∈ p.filters, L.Harmless A greedyRule F) →
      (∀ t ∈ c.rest, A t) → (L.reading p c).Tells (p.greedy greedyRule) c)
    ?token ?oneOf ?seq ?choice ?map ?filterMap ?opt ?many ?spanned ?rule p hreg c
  case token => exact fun t c _ _ => .ofNext (c.offers_next? t) (List.cons_ne_nil _ _)
  case oneOf =>
    exact fun table c hne _ _ =>
      .ofNext (c.offers_table table) fun h => hne (List.map_eq_nil_iff.1 h)
  case seq =>
    intro _ _ p q c ihp ihq hpq hc
    obtain ⟨hp, hq⟩ := List.forall_mem_append.1 hpq
    rw [L.reading_seq]
    exact .bind (ihp hp hc) fun a c' ha => .bind_pure (ihq a c' ha hq (honward hc ha)) _
  case choice =>
    intro _ p q c ihp ihq hpq hc
    obtain ⟨hp, hq⟩ := List.forall_mem_append.1 hpq
    rw [L.reading_choice]
    exact .orElse (ihp hp hc) (ihq hq hc)
  case map => exact fun f p c ih hp hc => .bind_pure (ih hp hc) _
  case filterMap =>
    intro _ _ f p c ih hF hc
    obtain ⟨hf, hp⟩ := List.forall_mem_cons.1 hF
    exact .bind_ofOption (ih hp hc) (hf.imp_right fun haccept a c' ha => haccept c hc a c' ha)
  case opt => exact fun p c ih hp hc => .orElse_pure (.bind_pure (ih hp hc) _) none
  case many =>
    intro _ p c hnull ih ihmany hp hc
    rw [L.reading_many p c hnull]
    refine .orElse_pure (.bind (ih hp hc) fun a c' ha => ?_) []
    exact .bind_pure (ihmany a c' ha hp (honward hc ha)) _
  case spanned => exact fun p c _ ih hp hc => .bind_pure (ih hp hc) _
  case rule =>
    intro r c ih _ hc
    rw [L.reading_rule]
    exact (ih (hfilter r) hc).weaken (hgreedy r)

end Layers

end ModelLang
