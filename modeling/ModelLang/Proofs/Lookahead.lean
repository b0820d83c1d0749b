import ModelLang.Proofs.Layers

/-!
# ModelLang.Proofs.Lookahead

How far a reading looks. To every place where it asks for a terminal it comes over tokens that fit
terminals of the grammar (`Layers.reading_stays`). So it never looks past a token that fits none of
them (`Reading.Stays.asked_le`, `Reading.Stays.used_le`).
-/

namespace ModelLang

/-- Some terminal in `T` asks for the token. -/
def Token.Fits (T : Terminal → Prop) (t : Token) : Prop :=
  ∃ x, T x ∧ x.fits t.lexeme = true

variable {T : Terminal → Prop}

/-! ## Over tokens of a kind -/

namespace Cursor

variable {A : Token → Prop} {c c' c'' : Cursor} {k : Nat}

/-- Tokens with `A` lead from one place to another. -/
def Leads (A : Token → Prop) (c c' : Cursor) : Prop :=
  ∃ ts, c.Takes ts c' ∧ ∀ t ∈ ts, A t

/-- At position `k` ahead stands no token with `A`. -/
def StopsAt (A : Token → Prop) (k : Nat) (c : Cursor) : Prop :=
  ∃ ts c', c.Takes ts c' ∧ c'.position = k ∧ ∀ t ∈ c'.rest.head?, ¬ A t

theorem Leads.refl (c : Cursor) : c.Leads A c :=
  ⟨[], .nil c, nofun⟩

theorem Leads.trans (h : c.Leads A c') (h' : c'.Leads A c'') : c.Leads A c'' := by
  obtain ⟨ts, ht, hts⟩ := h
  obtain ⟨us, hu, hus⟩ := h'
  exact ⟨ts ++ us, ht.trans hu, List.forall_mem_append.2 ⟨hts, hus⟩⟩

theorem Leads.le (h : c.Leads A c') : c.position ≤ c'.position := by
  obtain ⟨ts, ht, _⟩ := h
  rw [ht.position]
  exact Nat.le_add_right _ _

theorem Leads.of_next? {x : Terminal} {found : Token} (h : c.next? x = some (found, c'))
    (hA : x.fits found.lexeme = true → A found) : c.Leads A c' := by
  obtain ⟨hfits, ht⟩ := next?_eq_some h
  exact ⟨[found], ht, List.forall_mem_singleton.2 (hA hfits)⟩

theorem Leads.le_of_stopsAt (h : c.Leads A c') (hk : c.StopsAt A k) : c'.position ≤ k := by
  obtain ⟨ts, ht, hts⟩ := h
  obtain ⟨us, s, hu, rfl, hs⟩ := hk
  induction hu generalizing ts with
  | nil c =>
    cases ht with
    | nil => exact Nat.le_refl _
    | cons => exact absurd (hts _ List.mem_cons_self) (hs _ rfl)
  | cons hu ih =>
    cases ht with
    | nil =>
      rw [hu.position]
      exact Nat.le_of_lt (Nat.lt_of_lt_of_le (Nat.lt_succ_self _) (Nat.le_add_right _ _))
    | cons ht => exact ih _ ht (fun t h => hts t (List.mem_cons_of_mem _ h)) hs

end Cursor

/-! ## Readings -/

namespace Reading

variable {α β : Type} {c c' : Cursor} {x y : Reading α} {k : Nat}

/-- The reading from `c` asks only for terminals in `T`, and goes only over tokens that fit them. -/
structure Stays (T : Terminal → Prop) (c : Cursor) (x : Reading α) : Prop where
  asked : ∀ e ∈ x.asked, T e.2 ∧ ∃ c', c.Leads (Token.Fits T) c' ∧ c'.position = e.1
  used : ∃ c', c.Leads (Token.Fits T) c' ∧ x.used ≤ c'.position
  leads : ∀ a c', x.answer = some (a, c') → c.Leads (Token.Fits T) c'

namespace Stays

theorem asked_ge (h : x.Stays T c) {e : Request} (he : e ∈ x.asked) : c.position ≤ e.1 := by
  obtain ⟨_, c', hl, hp⟩ := h.asked e he
  exact hp ▸ hl.le

theorem asked_le (h : x.Stays T c) (hk : c.StopsAt (Token.Fits T) k) {e : Request}
    (he : e ∈ x.asked) : e.1 ≤ k := by
  obtain ⟨_, c', hl, hp⟩ := h.asked e he
  exact hp ▸ hl.le_of_stopsAt hk

theorem used_le (h : x.Stays T c) (hk : c.StopsAt (Token.Fits T) k) : x.used ≤ k := by
  obtain ⟨c', hl, hle⟩ := h.used
  exact Nat.le_trans hle (hl.le_of_stopsAt hk)

theorem pure {a : α} : (Reading.pure a c).Stays T c where
  asked := nofun
  used := ⟨c, .refl c, Nat.zero_le _⟩
  leads := by
    rintro _ _ ⟨⟩
    exact .refl c

theorem ofOption {a : Option α} : (Reading.ofOption a c).Stays T c := by
  cases a with
  | none => exact ⟨nofun, ⟨c, .refl c, Nat.zero_le _⟩, nofun⟩
  | some a => exact pure

theorem ofNext {ts : List Terminal} {answer : Answer α} (h : c.Offers ts answer)
    (hT : ∀ t ∈ ts, T t) : (Reading.ofNext c ts answer).Stays T c := by
  rcases answer with _ | ⟨a, c₁⟩
  · refine ⟨?_, ⟨c, .refl c, Nat.zero_le _⟩, nofun⟩
    exact List.forall_mem_map.2 fun t ht => ⟨hT t ht, c, .refl c, rfl⟩
  · obtain ⟨t, ht, found, hnext⟩ := h
    have hl : c.Leads (Token.Fits T) c₁ := .of_next? hnext fun hfits => ⟨t, hT t ht, hfits⟩
    refine ⟨nofun, ⟨c₁, hl, Nat.le_refl _⟩, ?_⟩
    rintro _ _ ⟨⟩
    exact hl

theorem onward {c₁ : Cursor} (hl : c.Leads (Token.Fits T) c₁) (h : x.Stays T c₁) :
    (∀ e ∈ x.asked, T e.2 ∧ ∃ c', c.Leads (Token.Fits T) c' ∧ c'.position = e.1) ∧
      ∃ c', c.Leads (Token.Fits T) c' ∧ x.used ≤ c'.position := by
  refine ⟨fun e he => ?_, ?_⟩
  · obtain ⟨hT, c', hl', hp⟩ := h.asked e he
    exact ⟨hT, c', hl.trans hl', hp⟩
  · obtain ⟨c', hl', hle⟩ := h.used
    exact ⟨c', hl.trans hl', hle⟩

theorem used_max {m n : Nat} (hm : ∃ c', c.Leads (Token.Fits T) c' ∧ m ≤ c'.position)
    (hn : ∃ c', c.Leads (Token.Fits T) c' ∧ n ≤ c'.position) :
    ∃ c', c.Leads (Token.Fits T) c' ∧ max m n ≤ c'.position := by
  rcases Nat.le_total m n with h | h
  · rwa [Nat.max_eq_right h]
  · rwa [Nat.max_eq_left h]

theorem bind {f : α → Cursor → Reading β} (hx : x.Stays T c)
    (hf : ∀ a c', x.answer = some (a, c') → (f a c').Stays T c') : (x.bind f).Stays T c := by
  rcases h : x.answer with _ | ⟨a, c₁⟩
  · rw [bind_of_none h]
    exact ⟨hx.asked, hx.used, nofun⟩
  · have hl := hx.leads a c₁ h
    have hy := hf a c₁ h
    obtain ⟨hasked, hused⟩ := hy.onward hl
    rw [bind_of_some h]
    exact ⟨List.forall_mem_append.2 ⟨hx.asked, hasked⟩, used_max hx.used hused,
      fun b c' hb => hl.trans (hy.leads b c' hb)⟩

theorem orElse (hx : x.Stays T c) (hy : y.Stays T c) : (x.orElse y).Stays T c := by
  rcases h : x.answer with _ | r
  · rw [orElse_of_none h]
    exact ⟨List.forall_mem_append.2 ⟨hx.asked, hy.asked⟩, used_max hx.used hy.used, hy.leads⟩
  · rwa [orElse_of_some h]

end Stays

end Reading

/-! ## Grammars -/

/-- The terminals that an expression asks for, apart from its rules. -/
def Peg.terminals {R : Type} {Result : R → Type} {α : Type} : Peg Result α → List Terminal
  | .token t => [t]
  | .oneOf table => table.map Prod.fst
  | .seq p q | .choice p q => p.terminals ++ q.terminals
  | .map _ p | .filterMap _ p | .spanned p | .opt p | .many p => p.terminals
  | .rule _ => []

namespace Layers

variable {R : Type} {Result : R → Type} {grammar : (r : R) → Peg Result (Result r)}
  (L : Layers grammar) {α : Type}

/-- By induction along the readings: no part of an expression asks for more than the whole. -/
theorem reading_stays (hT : ∀ r, ∀ t ∈ (grammar r).terminals, T t) {p : Peg Result α}
    (hreg : p.regular = true) (hp : ∀ t ∈ p.terminals, T t) (c : Cursor) :
    (L.reading p c).Stays T c := by
  revert hp
  refine L.induct (motive := fun p c => (∀ t ∈ p.terminals, T t) → (L.reading p c).Stays T c)
    ?token ?oneOf ?seq ?choice ?map ?filterMap ?opt ?many ?spanned ?rule p hreg c
  case token => exact fun t c hp => .ofNext (c.offers_next? t) hp
  case oneOf => exact fun table c _ hp => .ofNext (c.offers_table table) hp
  case seq =>
    intro _ _ p q c ihp ihq hpq
    obtain ⟨hp, hq⟩ := List.forall_mem_append.1 hpq
    rw [L.reading_seq]
    exact .bind (ihp hp) fun a c' ha => .bind (ihq a c' ha hq) fun _ _ _ => .pure
  case choice =>
    intro _ p q c ihp ihq hpq
    obtain ⟨hp, hq⟩ := List.forall_mem_append.1 hpq
    rw [L.reading_choice]
    exact .orElse (ihp hp) (ihq hq)
  case map => exact fun f p c ih hp => .bind (ih hp) fun _ _ _ => .pure
  case filterMap => exact fun f p c ih hp => .bind (ih hp) fun _ _ _ => .ofOption
  case opt => exact fun p c ih hp => .orElse (.bind (ih hp) fun _ _ _ => .pure) .pure
  case many =>
    intro _ p c hnull ih ihmany hp
    rw [L.reading_many p c hnull]
    exact .orElse (.bind (ih hp) fun a c' ha => .bind (ihmany a c' ha hp) fun _ _ _ => .pure) .pure
  case spanned => exact fun p c _ ih hp => .bind (ih hp) fun _ _ _ => .pure
  case rule =>
    intro r c ih _
    rw [L.reading_rule]
    exact ih (hT r)

end Layers

end ModelLang
