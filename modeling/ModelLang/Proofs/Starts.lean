import ModelLang.Proofs.Expected

/-!
# ModelLang.Proofs.Starts

What an expression of a grammar reads where certain lexemes stand ahead (`Layers.Yields`), and
before which lexemes it reads nothing (`Layers.Refused`). A reading that takes a token starts with a
terminal that its expression can start with (`Layers.exists_start`), so that an expression reads
nothing before any other token.
-/

namespace ModelLang

/-! ## Lexemes ahead -/

namespace Cursor

variable {c : Cursor}

/-- The lexemes from the place on. -/
def At (c : Cursor) (ls : List Lexeme) : Prop :=
  c.rest.map Token.lexeme = ls

theorem At.next? {l : Lexeme} {ls : List Lexeme} {t : Terminal} (h : c.At (l :: ls))
    (hfits : t.fits l = true) :
    ∃ found c', c.next? t = some (found, c') ∧ found.lexeme = l ∧ c'.At ls := by
  obtain ⟨found, rest, hrest, rfl, hls⟩ := List.map_eq_cons_iff.1 h
  refine ⟨found, ⟨c.position + 1, rest, found.span.stop⟩, ?_, rfl, hls⟩
  unfold Cursor.next?
  rw [hrest]
  exact if_pos hfits

/-- The next token fits one of the terminals. -/
def StartsWith (c : Cursor) (ts : List Terminal) : Prop :=
  ∃ found ∈ c.rest.head?, ∃ t ∈ ts, t.fits found.lexeme = true

theorem StartsWith.mono {ts us : List Terminal} (h : c.StartsWith ts) (hsub : ts ⊆ us) :
    c.StartsWith us := by
  obtain ⟨found, hfound, t, ht, hfits⟩ := h
  exact ⟨found, hfound, t, hsub ht, hfits⟩

theorem startsWith_of_next? {c' : Cursor} {ts : List Terminal} {t : Terminal} {found : Token}
    (h : c.next? t = some (found, c')) (ht : t ∈ ts) : c.StartsWith ts := by
  obtain ⟨hfits, htakes⟩ := next?_eq_some h
  refine ⟨found, ?_, t, ht, hfits⟩
  rw [htakes.rest]
  rfl

end Cursor

namespace Layers

variable {R : Type} {Result : R → Type} {grammar : (r : R) → Peg Result (Result r)}
  (L : Layers grammar) {α β γ : Type}

/-- Wherever `ts` and `rest` stand ahead, the expression reads `ts` as something in `P`. -/
def Yields (p : Peg Result α) (P : α → Prop) (ts rest : List Lexeme) : Prop :=
  ∀ c : Cursor, c.At (ts ++ rest) →
    ∃ a c', (L.reading p c).answer = some (a, c') ∧ P a ∧ c'.At rest

/-- Wherever the lexemes stand ahead, the expression reads nothing. -/
def Refused (p : Peg Result α) (ls : List Lexeme) : Prop :=
  ∀ c : Cursor, c.At ls → (L.reading p c).answer = none

variable {L} {p q : Peg Result α} {r : Peg Result β} {P : α → Prop} {Q : β → Prop}
  {ts us rest : List Lexeme}

theorem Yields.mono {P' : α → Prop} (h : L.Yields p P ts rest) (hP : ∀ a, P a → P' a) :
    L.Yields p P' ts rest := by
  intro c hc
  obtain ⟨a, c', hread, ha, hc'⟩ := h c hc
  exact ⟨a, c', hread, hP a ha, hc'⟩

theorem Yields.token {t : Terminal} {l : Lexeme} (hfits : t.fits l = true) :
    L.Yields (.token t) (fun found => found.lexeme = l) [l] rest := by
  intro c hc
  obtain ⟨found, c', hnext, hl, hc'⟩ := hc.next? hfits
  exact ⟨found, c', by rw [reading_token, Reading.ofNext_answer, hnext], hl, hc'⟩

theorem Yields.oneOf {table : List (Terminal × α)} {l : Lexeme} {a : α}
    (h : (table.find? fun e => e.1.fits l).map Prod.snd = some a) :
    L.Yields (.oneOf table) (· = a) [l] rest := by
  intro c hc
  obtain ⟨e, he, rfl⟩ := Option.map_eq_some_iff.1 h
  obtain ⟨found, rest', hrest, rfl, hls⟩ := List.map_eq_cons_iff.1 hc
  refine ⟨e.2, ⟨c.position + 1, rest', found.span.stop⟩, ?_, rfl, hls⟩
  have hnext (e : Terminal × α) : c.next? e.1 =
      if e.1.fits found.lexeme then some (found, ⟨c.position + 1, rest', found.span.stop⟩)
      else none := by
    unfold Cursor.next?
    rw [hrest]
  rw [reading, Peg.read, Reading.ofNext_answer]
  clear h
  induction table with
  | nil => cases he
  | cons d table ih =>
    rw [List.find?_cons] at he
    rw [List.findSome?_cons, hnext]
    split at he
    · rename_i hfits
      cases he
      rw [hfits]
      rfl
    · rename_i hfits
      rw [hfits]
      exact ih he

/-- What the second part of a sequence reads may hang on what the first part has read. -/
theorem Yields.andThen {Q : α → β → Prop} (h : L.Yields p P ts (us ++ rest))
    (h' : ∀ a, P a → L.Yields r (Q a) us rest) :
    L.Yields (.seq p r) (fun x => P x.1 ∧ Q x.1 x.2) (ts ++ us) rest := by
  intro c hc
  rw [List.append_assoc] at hc
  obtain ⟨a, c₁, hp, ha, hc₁⟩ := h c hc
  obtain ⟨b, c₂, hr, hb, hc₂⟩ := h' a ha c₁ hc₁
  refine ⟨(a, b), c₂, ?_, ⟨ha, hb⟩, hc₂⟩
  rw [reading_seq]
  exact Reading.bind_answer_eq_some.2
    ⟨a, c₁, hp, Reading.bind_answer_eq_some.2 ⟨b, c₂, hr, rfl⟩⟩

theorem Yields.seq (h : L.Yields p P ts (us ++ rest)) (h' : L.Yields r Q us rest) :
    L.Yields (.seq p r) (fun x => P x.1 ∧ Q x.2) (ts ++ us) rest :=
  h.andThen fun _ _ => h'

theorem Yields.map (h : L.Yields p P ts rest) {f : α → β} (hf : ∀ a, P a → Q (f a)) :
    L.Yields (.map f p) Q ts rest := by
  intro c hc
  obtain ⟨a, c', hread, ha, hc'⟩ := h c hc
  exact ⟨f a, c', Reading.bind_answer_eq_some.2 ⟨a, c', hread, rfl⟩, hf a ha, hc'⟩

theorem Yields.ap {p : Peg Result (α → β)} {q : Peg Result α} {Q : α → Prop} {S : β → Prop}
    (h : L.Yields p (fun f => ∀ a, Q a → S (f a)) ts (us ++ rest)) (h' : L.Yields q Q us rest) :
    L.Yields (p <*> q) S (ts ++ us) rest :=
  (h.seq h').map fun x hx => hx.1 x.2 hx.2

theorem Yields.map₂ {S : γ → Prop} {f : α → β → γ} (h : L.Yields p P ts (us ++ rest))
    (h' : L.Yields r Q us rest) (hS : ∀ a, P a → ∀ b, Q b → S (f a b)) :
    L.Yields (f <$> p <*> r) S (ts ++ us) rest :=
  .ap (h.map hS) h'

theorem Yields.right (h : L.Yields p P ts (us ++ rest)) (h' : L.Yields r Q us rest) :
    L.Yields (p *> r) Q (ts ++ us) rest :=
  (h.seq h').map fun _ hx => hx.2

theorem Yields.left (h : L.Yields p P ts (us ++ rest)) (h' : L.Yields r Q us rest) :
    L.Yields (p <* r) P (ts ++ us) rest :=
  (h.seq h').map fun _ hx => hx.1

theorem Yields.filterMap (h : L.Yields p P ts rest) {f : α → Option β}
    (hf : ∀ a, P a → ∃ b, f a = some b ∧ Q b) : L.Yields (.filterMap f p) Q ts rest := by
  intro c hc
  obtain ⟨a, c', hread, ha, hc'⟩ := h c hc
  obtain ⟨b, hb, hQ⟩ := hf a ha
  refine ⟨b, c', Reading.bind_answer_eq_some.2 ⟨a, c', hread, ?_⟩, hQ, hc'⟩
  rw [Reading.ofOption, hb]
  rfl

theorem Yields.spanned (h : L.Yields p P ts rest) :
    L.Yields (.spanned p) (fun x => P x.1) ts rest := by
  intro c hc
  obtain ⟨a, c', hread, ha, hc'⟩ := h c hc
  exact ⟨_, c', Reading.bind_answer_eq_some.2 ⟨a, c', hread, rfl⟩, ha, hc'⟩

theorem Yields.first (h : L.Yields p P ts rest) : L.Yields (.choice p q) P ts rest := by
  intro c hc
  obtain ⟨a, c', hread, ha, hc'⟩ := h c hc
  refine ⟨a, c', ?_, ha, hc'⟩
  rw [reading_choice, Reading.orElse_of_some hread]
  exact hread

theorem Yields.second (hp : L.Refused p (ts ++ rest)) (h : L.Yields q P ts rest) :
    L.Yields (.choice p q) P ts rest := by
  intro c hc
  obtain ⟨a, c', hread, ha, hc'⟩ := h c hc
  refine ⟨a, c', ?_, ha, hc'⟩
  rw [reading_choice, Reading.orElse_of_none (hp c hc)]
  exact hread

/-- The first alternative that reads something wins. -/
theorem Yields.foldr_choice {ps : List (Peg Result α)} (hps : ∀ p ∈ ps, L.Refused p (ts ++ rest))
    (h : L.Yields q P ts rest) : L.Yields (ps.foldr .choice q) P ts rest := by
  induction ps with
  | nil => exact h
  | cons p ps ih =>
    obtain ⟨hp, hps⟩ := List.forall_mem_cons.1 hps
    exact .second hp (ih hps)

theorem Yields.present (h : L.Yields p P ts rest) :
    L.Yields (.opt p) (fun x => ∃ a, x = some a ∧ P a) ts rest := by
  intro c hc
  obtain ⟨a, c', hread, ha, hc'⟩ := h c hc
  refine ⟨some a, c', ?_, ⟨a, rfl, ha⟩, hc'⟩
  rw [reading_opt, Reading.orElse_of_some]
  all_goals exact Reading.bind_answer_eq_some.2 ⟨a, c', hread, rfl⟩

theorem Yields.absent (h : L.Refused p rest) : L.Yields (.opt p) (· = none) [] rest := by
  intro c hc
  refine ⟨none, c, ?_, rfl, hc⟩
  rw [reading_opt, Reading.bind_of_none (h c hc), Reading.orElse_of_none rfl]
  rfl

theorem Yields.nil (hnull : p.nullable = false) (h : L.Refused p rest) :
    L.Yields (.many p) (· = []) [] rest := by
  intro c hc
  refine ⟨[], c, ?_, rfl, hc⟩
  rw [reading_many _ _ _ hnull, Reading.bind_of_none (h c hc), Reading.orElse_of_none rfl]
  rfl

theorem Yields.cons {S : α → List α → Prop} (hnull : p.nullable = false)
    (h : L.Yields p P ts (us ++ rest)) (h' : ∀ a, P a → L.Yields (.many p) (S a) us rest) :
    L.Yields (.many p) (fun x => ∃ a as, x = a :: as ∧ P a ∧ S a as) (ts ++ us) rest := by
  intro c hc
  rw [List.append_assoc] at hc
  obtain ⟨a, c₁, hp, ha, hc₁⟩ := h c hc
  obtain ⟨as, c₂, hmany, has, hc₂⟩ := h' a ha c₁ hc₁
  refine ⟨a :: as, c₂, ?_, ⟨a, as, rfl, ha, has⟩, hc₂⟩
  have hread : ((L.reading p c).bind fun a c => (L.reading (.many p) c).bind fun as c =>
      .pure (a :: as) c).answer = Option.some (a :: as, c₂) :=
    Reading.bind_answer_eq_some.2 ⟨a, c₁, hp, Reading.bind_answer_eq_some.2 ⟨as, c₂, hmany, rfl⟩⟩
  rw [reading_many _ _ _ hnull, Reading.orElse_of_some hread, hread]

theorem Yields.rule {r : R} {P : Result r → Prop} (h : L.Yields (grammar r) P ts rest) :
    L.Yields (.rule r) P ts rest := by
  intro c hc
  rw [reading_rule]
  exact h c hc

theorem Refused.map {ls : List Lexeme} (h : L.Refused p ls) {f : α → β} :
    L.Refused (.map f p) ls :=
  fun c hc => congrArg Reading.answer (Reading.bind_of_none (h c hc))

theorem Refused.spanned {ls : List Lexeme} (h : L.Refused p ls) : L.Refused (.spanned p) ls :=
  fun c hc => congrArg Reading.answer (Reading.bind_of_none (h c hc))

/-- The second part of a sequence reads nothing after the first. -/
theorem Refused.seq (h : L.Yields p P ts rest) (h' : L.Refused r rest) :
    L.Refused (.seq p r) (ts ++ rest) := by
  intro c hc
  obtain ⟨a, c', hread, -, hc'⟩ := h c hc
  rw [reading_seq, Reading.bind_of_some hread, Reading.bind_of_none (h' c' hc')]

theorem Yields.ap_refused {p : Peg Result (α → β)} {q : Peg Result α} {P : (α → β) → Prop}
    (h : L.Yields p P ts rest) (h' : L.Refused q rest) : L.Refused (p <*> q) (ts ++ rest) :=
  (Refused.seq h h').map

end Layers

/-! ## First terminals -/

namespace Peg

variable {R : Type} {Result : R → Type} (ofRule : R → List Terminal)

/-- The terminals that an expression can start with, given those of the rules. -/
def starts {α : Type} : Peg Result α → List Terminal
  | .token t => [t]
  | .oneOf table => table.map Prod.fst
  | .seq p q => p.starts ++ if p.nullable then q.starts else []
  | .choice p q => p.starts ++ q.starts
  | .map _ p | .filterMap _ p | .spanned p | .opt p | .many p => p.starts
  | .rule r => ofRule r

/-- Whether an expression has to take a token, and can start with none that fits `x`. -/
def avoids {α : Type} (p : Peg Result α) (x : Terminal) : Bool :=
  !p.nullable && p.regular && !(p.starts ofRule).contains x

variable {ofRule} in
theorem avoids_of_subset {α : Type} {p : Peg Result α} {ts : List Terminal} {x : Terminal}
    (hp : p.nullable = false ∧ p.regular = true) (hstarts : p.starts ofRule ⊆ ts) (hx : x ∉ ts) :
    p.avoids ofRule x = true := by
  rw [avoids, hp.1, hp.2, List.contains_eq_mem, decide_eq_false fun hmem => hx (hstarts hmem)]
  rfl

end Peg

namespace Layers

variable {R : Type} {Result : R → Type} {grammar : (r : R) → Peg Result (Result r)}
  (L : Layers grammar) {ofRule : R → List Terminal}
  (hrules : ∀ r, (grammar r).starts ofRule ⊆ ofRule r) {α : Type}

include hrules

/-- By induction along the readings: what is read first starts the whole. -/
theorem exists_start {p : Peg Result α} (hreg : p.regular = true) {c c' : Cursor} {a : α}
    (h : (L.reading p c).answer = some (a, c')) :
    c' = c ∨ c.StartsWith (p.starts ofRule) := by
  suffices hall : ∀ a c', (L.reading p c).answer = some (a, c') →
      c' = c ∨ c.StartsWith (p.starts ofRule) from hall a c' h
  refine L.induct (motive := fun p c => ∀ a c', (L.reading p c).answer = some (a, c') →
    c' = c ∨ c.StartsWith (p.starts ofRule))
    ?token ?oneOf ?seq ?choice ?map ?filterMap ?opt ?many ?spanned ?rule p hreg c
  case token =>
    intro t c found c' h
    rw [L.reading_token, Reading.ofNext_answer] at h
    exact .inr (Cursor.startsWith_of_next? h (List.mem_singleton_self t))
  case oneOf =>
    intro _ table c _ a c' h
    have hoffers := c.offers_table table
    rw [reading, Peg.read, Reading.ofNext_answer] at h
    rw [h] at hoffers
    obtain ⟨t, ht, found, hnext⟩ := hoffers
    exact .inr (Cursor.startsWith_of_next? hnext ht)
  case seq =>
    intro _ _ p q c ihp ihq x c₂ h
    rw [L.reading_seq] at h
    obtain ⟨a, c₁, ha, h⟩ := Reading.bind_answer_eq_some.1 h
    obtain ⟨b, _, hb, hpure⟩ := Reading.bind_answer_eq_some.1 h
    cases hpure
    rcases ihp a c₁ ha with rfl | hstart
    · -- `p` has taken nothing, so that the whole starts with what `q` starts with
      have hnull : p.nullable = true := by
        cases hnull : p.nullable with
        | true => rfl
        | false => exact absurd (L.reading_shorter hnull ha) (Nat.lt_irrefl _)
      refine (ihq a c₁ ha b c₂ hb).imp_right fun hq => hq.mono ?_
      rw [Peg.starts, hnull, if_pos rfl]
      exact List.subset_append_right _ _
    · exact .inr (hstart.mono (List.subset_append_left _ _))
  case choice =>
    intro _ p q c ihp ihq a c' h
    rw [L.reading_choice] at h
    rcases hp : (L.reading p c).answer with _ | x
    · rw [Reading.orElse_of_none hp] at h
      exact (ihq a c' h).imp_right fun hq => hq.mono (List.subset_append_right _ _)
    · rw [Reading.orElse_of_some hp] at h
      exact (ihp a c' h).imp_right fun hp => hp.mono (List.subset_append_left _ _)
  case map =>
    intro _ _ f p c ih b c' h
    obtain ⟨a, _, ha, hpure⟩ := Reading.bind_answer_eq_some.1 h
    cases hpure
    exact ih a c' ha
  case filterMap =>
    intro _ _ f p c ih b c' h
    obtain ⟨a, _, ha, hpure⟩ := Reading.bind_answer_eq_some.1 h
    obtain ⟨_, _, heq⟩ := Option.map_eq_some_iff.1 hpure
    cases heq
    exact ih a c' ha
  case opt =>
    intro _ p c ih b c' h
    rw [L.reading_opt] at h
    rcases hp : (L.reading p c).answer with _ | ⟨a, c₁⟩
    · rw [Reading.bind_of_none hp, Reading.orElse_of_none rfl] at h
      cases h
      exact .inl rfl
    · rw [Reading.orElse_of_some (Reading.bind_answer_eq_some.2 ⟨a, c₁, hp, rfl⟩)] at h
      obtain ⟨a, _, ha, hpure⟩ := Reading.bind_answer_eq_some.1 h
      cases hpure
      exact ih a c' ha
  case many =>
    intro _ p c hnull ih ihmany as c' h
    rw [L.reading_many p c hnull] at h
    rcases hp : (L.reading p c).answer with _ | ⟨a, c₁⟩
    · rw [Reading.bind_of_none hp, Reading.orElse_of_none rfl] at h
      cases h
      exact .inl rfl
    · rcases ih a c₁ hp with rfl | hstart
      · have hlt := L.reading_shorter hnull hp
        exact absurd hlt (Nat.lt_irrefl _)
      · exact .inr hstart
  case spanned =>
    intro _ p c _ ih x c' h
    obtain ⟨a, _, ha, hpure⟩ := Reading.bind_answer_eq_some.1 h
    cases hpure
    exact ih a c' ha
  case rule =>
    intro r c ih a c' h
    rw [L.reading_rule] at h
    exact (ih a c' h).imp_right fun hr => hr.mono (hrules r)

theorem refused_of_avoids {p : Peg Result α} {l : Lexeme} {x : Terminal}
    (hl : l.terminal = some x) (hp : p.avoids ofRule x = true) (ls : List Lexeme) :
    L.Refused p (l :: ls) := by
  intro c hc
  rcases h : (L.reading p c).answer with _ | ⟨a, c'⟩
  · rfl
  simp only [Peg.avoids, Bool.and_eq_true, Bool.not_eq_true', List.contains_eq_mem] at hp
  obtain ⟨⟨hnull, hreg⟩, hx⟩ := hp
  rcases L.exists_start hrules hreg h with rfl | ⟨found, hfound, t, ht, hfits⟩
  · exact absurd (L.reading_shorter hnull h) (Nat.lt_irrefl _)
  · obtain ⟨_, _, hrest, rfl, -⟩ := List.map_eq_cons_iff.1 hc
    rw [hrest] at hfound
    cases hfound
    rw [Lexeme.fits_iff, hl] at hfits
    cases hfits
    exact absurd ht (of_decide_eq_false hx)

/-- An alternative is passed over if it starts with other terminals than the next one. -/
theorem yields_after {p q : Peg Result α} {P : α → Prop} {ts rest : List Lexeme}
    (hp : p.nullable = false ∧ p.regular = true) (hq : q.nullable = false ∧ q.regular = true)
    (hstarts : ∀ t ∈ p.starts ofRule, t ∉ q.starts ofRule) (h : L.Yields q P ts rest) :
    L.Yields (.choice p q) P ts rest := by
  intro c hc
  obtain ⟨a, c', hread, ha, hc'⟩ := h c hc
  refine ⟨a, c', ?_, ha, hc'⟩
  rw [reading_choice]
  rcases hfirst : (L.reading p c).answer with _ | ⟨b, c₁⟩
  · rw [Reading.orElse_of_none hfirst]
    exact hread
  · rcases L.exists_start hrules hp.2 hfirst with rfl | ⟨found, hfound, t, ht, htfits⟩
    · exact absurd (L.reading_shorter hp.1 hfirst) (Nat.lt_irrefl _)
    rcases L.exists_start hrules hq.2 hread with rfl | ⟨found', hfound', u, hu, hufits⟩
    · exact absurd (L.reading_shorter hq.1 hread) (Nat.lt_irrefl _)
    cases Option.mem_unique hfound hfound'
    rw [Lexeme.fits_iff] at htfits hufits
    cases htfits.symm.trans hufits
    exact absurd hu (hstarts t ht)

end Layers

end ModelLang
