import ModelLang.Proofs.Outline
import ModelLang.Proofs.Progress

/-!
# ModelLang.Proofs.Gives

Readings together with the tokens they take. What an expression gives for some tokens has a
property if the functions in it lead to the property (`Peg.Gives`, `Layers.gives`). Most properties
go on to hold if further tokens stand around the taken ones; these are shown without looking at how
the parts of an expression share its tokens (`Peg.Lays`).
-/

namespace ModelLang

namespace Cursor.Takes

variable {c c' : Cursor} {ts : List Token}

/-- Behind some tokens is where the last of them ends. -/
theorem before_eq (h : c.Takes ts c') (hne : ts ≠ []) :
    ∃ last ∈ ts.getLast?, c'.before = last.span.stop := by
  induction h with
  | nil => exact absurd rfl hne
  | @cons k t rest ts l c' h ih =>
    by_cases hts : ts = []
    · subst hts
      cases h with
      | nil => exact ⟨t, rfl, rfl⟩
    · obtain ⟨last, hlast, hbefore⟩ := ih hts
      refine ⟨last, ?_, hbefore⟩
      rw [List.getLast?_cons_of_ne_nil hts]
      exact hlast

/-- What is read has the span of its tokens. -/
theorem along (h : c.Takes ts c') (hne : ts ≠ []) : (c.spanTo c').Along ts := by
  have hpos : c.position < c'.position := by
    rw [h.position]
    exact Nat.lt_add_of_pos_right (List.length_pos_iff.2 hne)
  obtain ⟨last, hlast, hbefore⟩ := h.before_eq hne
  cases h with
  | nil => exact absurd rfl hne
  | @cons k t rest ts l c' h =>
    refine ⟨t, rfl, last, hlast, ?_⟩
    rw [Cursor.spanTo, if_pos hpos, hbefore]
    rfl

/-- What holds of all tokens ahead holds of those that are left. -/
theorem forall_rest {P : Token → Prop} (h : c.Takes ts c') (hc : ∀ t ∈ c.rest, P t) :
    ∀ t ∈ c'.rest, P t :=
  fun t ht => hc t (h.rest ▸ List.mem_append_right ts ht)

end Cursor.Takes

namespace Peg

variable {R : Type} {Result : R → Type}

/-- The tokens that the expression takes have `Q` with the value it gives, if this is so for what
stands in the expression, and for every rule `r` with `S r`. -/
def Gives (S : (r : R) → List Token → Result r → Prop) {α : Type} :
    Peg Result α → (List Token → α → Prop) → Prop
  | .token _, Q => ∀ t, t.span.IsDetermined → Q [t] t
  | .oneOf table, Q => ∀ e ∈ table, ∀ t, Q [t] e.2
  | .seq p q, Q => ∃ P P', p.Gives S P ∧ q.Gives S P' ∧
    ∀ ts us a b, P ts a → P' us b → Q (ts ++ us) (a, b)
  | .choice p q, Q => p.Gives S Q ∧ q.Gives S Q
  | .map f p, Q => ∃ P, p.Gives S P ∧ ∀ ts a, P ts a → Q ts (f a)
  | .filterMap f p, Q => ∃ P, p.Gives S P ∧ ∀ ts a, P ts a → ∀ b ∈ f a, Q ts b
  | .opt p, Q => ∃ P, p.Gives S P ∧ Q [] none ∧ ∀ ts a, P ts a → Q ts (some a)
  | .many p, Q => ∃ P, ∃ P' : List Token → List _ → Prop, p.Gives S P ∧ P' [] [] ∧
    (∀ ts us a as, P ts a → P' us as → P' (ts ++ us) (a :: as)) ∧ ∀ ts as, P' ts as → Q ts as
  | .spanned p, Q => ∃ P, p.Gives S P ∧ ∀ ts a s, s.Along ts → P ts a → Q ts (a, s)
  | .rule r, Q => ∀ ts a, S r ts a → Q ts a

/-- Nothing is said about what the expression gives. -/
theorem gives_true {S : (r : R) → List Token → Result r → Prop} {α : Type} (p : Peg Result α) :
    p.Gives S fun _ _ => True := by
  induction p with
  | token => exact fun _ _ => trivial
  | oneOf => exact fun _ _ _ => trivial
  | seq p q hp hq => exact ⟨_, _, hp, hq, fun _ _ _ _ _ _ => trivial⟩
  | choice p q hp hq => exact ⟨hp, hq⟩
  | map f p hp => exact ⟨_, hp, fun _ _ _ => trivial⟩
  | filterMap f p hp => exact ⟨_, hp, fun _ _ _ _ _ => trivial⟩
  | opt p hp => exact ⟨_, hp, trivial, fun _ _ _ => trivial⟩
  | many p hp =>
    exact ⟨_, fun _ _ => True, hp, trivial, fun _ _ _ _ _ _ => trivial, fun _ _ _ => trivial⟩
  | spanned p hp => exact ⟨_, hp, fun _ _ _ _ _ => trivial⟩
  | rule r => exact fun _ _ _ => trivial

/-- Any tokens that stand around those that the expression takes have `F` with the value. -/
def Lays (S : (r : R) → List Token → Result r → Prop) {α : Type} (p : Peg Result α)
    (F : List Token → α → Prop) : Prop :=
  p.Gives S fun ts a => ∀ ws, ts <:+: ws → F ws a

/-- The property stays when tokens are added around. -/
def Monotone {α : Type} (F : List Token → α → Prop) : Prop :=
  ∀ ts ws a, ts <:+: ws → F ts a → F ws a

theorem infix_of_append_left {ts us ws : List Token} (h : ts ++ us <:+: ws) : ts <:+: ws :=
  (List.prefix_append ts us).isInfix.trans h

theorem infix_of_append_right {ts us ws : List Token} (h : ts ++ us <:+: ws) : us <:+: ws :=
  (List.suffix_append ts us).isInfix.trans h

namespace Gives

variable {S : (r : R) → List Token → Result r → Prop} {α β γ : Type}
  {P : List Token → α → Prop} {Q : List Token → β → Prop} {p : Peg Result α}

theorem map {f : α → β} (h : p.Gives S P) (hf : ∀ ts a, P ts a → Q ts (f a)) :
    (f <$> p).Gives S Q :=
  ⟨P, h, hf⟩

/-- A function and its argument, one after the other. -/
theorem ap {p : Peg Result (α → β)} {q : Peg Result α} {F : List Token → (α → β) → Prop}
    (h : p.Gives S F) (h' : q.Gives S P)
    (hQ : ∀ ts us f a, F ts f → P us a → Q (ts ++ us) (f a)) : (p <*> q).Gives S Q :=
  ⟨fun ts x => Q ts (x.1 x.2), ⟨F, P, h, h', hQ⟩, fun _ _ h => h⟩

theorem map₂ {f : α → β → γ} {q : Peg Result β} {Q' : List Token → γ → Prop} (h : p.Gives S P)
    (h' : q.Gives S Q) (hQ : ∀ ts us a b, P ts a → Q us b → Q' (ts ++ us) (f a b)) :
    (f <$> p <*> q).Gives S Q' := by
  have hf : (f <$> p).Gives S fun ts g => ∀ us b, Q us b → Q' (ts ++ us) (g b) := by
    refine map h ?_
    intro ts a ha us b hb
    exact hQ ts us a b ha hb
  refine ap hf h' ?_
  intro ts us g b hg hb
  exact hg us b hb

theorem many {P' : List Token → List α → Prop} (h : p.Gives S P) (hnil : P' [] [])
    (hcons : ∀ ts us a as, P ts a → P' us as → P' (ts ++ us) (a :: as)) :
    (Peg.many p).Gives S P' :=
  ⟨P, P', h, hnil, hcons, fun _ _ h => h⟩

theorem mono {P' : List Token → α → Prop} (h : p.Gives S P) (hP : ∀ ts a, P ts a → P' ts a) :
    p.Gives S P' := by
  induction p with
  | token t => exact fun t ht => hP _ t (h t ht)
  | oneOf table => exact fun e he t => hP _ _ (h e he t)
  | seq p q _ _ =>
    obtain ⟨F, G, hp, hq, hP'⟩ := h
    exact ⟨F, G, hp, hq, fun ts us a b ha hb => hP _ _ (hP' ts us a b ha hb)⟩
  | choice p q ihp ihq => exact ⟨ihp h.1 hP, ihq h.2 hP⟩
  | map f p _ =>
    obtain ⟨F, hp, hf⟩ := h
    exact ⟨F, hp, fun ts a ha => hP _ _ (hf ts a ha)⟩
  | filterMap f p _ =>
    obtain ⟨F, hp, hf⟩ := h
    exact ⟨F, hp, fun ts a ha b hb => hP _ _ (hf ts a ha b hb)⟩
  | opt p _ =>
    obtain ⟨F, hp, hnone, hsome⟩ := h
    exact ⟨F, hp, hP _ _ hnone, fun ts a ha => hP _ _ (hsome ts a ha)⟩
  | many p _ =>
    obtain ⟨F, G, hp, hnil, hcons, hG⟩ := h
    exact ⟨F, G, hp, hnil, hcons, fun ts as has => hP _ _ (hG ts as has)⟩
  | spanned p _ =>
    obtain ⟨F, hp, hF⟩ := h
    exact ⟨F, hp, fun ts a s hs ha => hP _ _ (hF ts a s hs ha)⟩
  | rule r => exact fun ts a ha => hP _ _ (h ts a ha)

end Gives

/-- For a property that stays when tokens are added, both say the same. -/
theorem lays_iff {S : (r : R) → List Token → Result r → Prop} {α : Type} {p : Peg Result α}
    {F : List Token → α → Prop} (hF : Monotone F) : p.Lays S F ↔ p.Gives S F := by
  constructor
  · intro h
    exact h.mono fun ts a ha => ha ts List.infix_rfl
  · intro h
    exact h.mono fun ts a ha ws hws => hF ts ws a hws ha

namespace Lays

variable {S : (r : R) → List Token → Result r → Prop} {α β γ : Type}
  {F : List Token → α → Prop} {G : List Token → β → Prop} {p : Peg Result α} {q : Peg Result β}

theorem map {f : α → β} (h : p.Lays S F) (hf : ∀ ws a, F ws a → G ws (f a)) :
    (f <$> p).Lays S G :=
  ⟨_, h, fun _ a ha ws hws => hf ws a (ha ws hws)⟩

theorem imp {G : List Token → α → Prop} (h : p.Lays S F) (hFG : ∀ ws a, F ws a → G ws a) :
    p.Lays S G :=
  h.mono fun _ a ha ws hws => hFG ws a (ha ws hws)

theorem seq (h : p.Lays S F) (h' : q.Lays S G) :
    (Peg.seq p q).Lays S fun ws x => F ws x.1 ∧ G ws x.2 := by
  refine ⟨_, _, h, h', ?_⟩
  intro ts us a b ha hb ws hws
  exact ⟨ha ws (infix_of_append_left hws), hb ws (infix_of_append_right hws)⟩

theorem ap {p : Peg Result (α → β)} {q : Peg Result α}
    (h : p.Lays S fun ws f => ∀ a, F ws a → G ws (f a)) (h' : q.Lays S F) :
    (p <*> q).Lays S G :=
  map (seq h h') fun _ x hx => hx.1 x.2 hx.2

theorem left (h : p.Lays S F) (h' : q.Lays S G) : (p <* q).Lays S F :=
  map (seq h h') fun _ _ hx => hx.1

theorem right (h : p.Lays S F) (h' : q.Lays S G) : (p *> q).Lays S G :=
  map (seq h h') fun _ _ hx => hx.2

theorem orElse {q : Peg Result α} (h : p.Lays S F) (h' : q.Lays S F) : (p <|> q).Lays S F :=
  ⟨h, h'⟩

theorem token (t : Terminal) :
    (Peg.token t : Peg Result Token).Lays S fun ws t => t.span.IsDetermined ∧ [t] <:+: ws :=
  fun _ ht _ hws => ⟨ht, hws⟩

/-- A table gives what stands in it. -/
theorem oneOf (table : List (Terminal × α)) :
    (Peg.oneOf table : Peg Result α).Lays S fun _ _ => True :=
  fun _ _ _ _ _ => trivial

theorem filterMap {f : α → Option β} (h : p.Lays S F) (hf : ∀ ws a, F ws a → ∀ b ∈ f a, G ws b) :
    (Peg.filterMap f p).Lays S G :=
  ⟨_, h, fun _ a ha b hb ws hws => hf ws a (ha ws hws) b hb⟩

theorem opt (h : p.Lays S F) : (Peg.opt p).Lays S fun ws x => ∀ a ∈ x, F ws a := by
  refine ⟨_, h, ?_, ?_⟩
  · intro ws _ a ha
    cases ha
  · intro ts a ha ws hws b hb
    cases hb
    exact ha ws hws

theorem many (h : p.Lays S F) : (Peg.many p).Lays S fun ws as => ∀ a ∈ as, F ws a := by
  refine Gives.many h ?_ ?_
  · intro ws _
    exact List.forall_mem_nil _
  · intro ts us a as ha has ws hws
    exact List.forall_mem_cons.2
      ⟨ha ws (infix_of_append_left hws), has ws (infix_of_append_right hws)⟩

theorem sepBy {separator : Peg Result β} (h : p.Lays S F) (h' : separator.Lays S G) :
    (Peg.sepBy p separator).Lays S fun ws as => ∀ a ∈ as, F ws a := by
  refine ap (map h ?_) (many (right h' h))
  intro ws a ha as has
  exact List.forall_mem_cons.2 ⟨ha, has⟩

/-- What becomes of the parts and of the span of precisely the tokens taken. -/
theorem withSpan {p : Peg Result (Span → α)} (hF : Monotone F)
    (h : p.Lays S fun ws g => ∀ s : Span, s.Along ws → F ws (g s)) :
    ((fun x : (Span → α) × Span => x.1 x.2) <$> Peg.spanned p).Lays S F := by
  refine ⟨fun ts x => F ts (x.1 x.2), ⟨_, h, ?_⟩, ?_⟩
  · intro ts g s hs hg
    exact hg ts List.infix_rfl s hs
  · intro ts x hx ws hws
    exact hF ts ws _ hws hx

theorem rule {r : R} (hS : Monotone (S r)) : (Peg.rule r : Peg Result (Result r)).Lays S (S r) :=
  fun ts a ha ws hws => hS ts ws a hws ha

end Lays

end Peg

namespace Layers

variable {R : Type} {Result : R → Type} {grammar : (r : R) → Peg Result (Result r)}
  (L : Layers grammar) {S : (r : R) → List Token → Result r → Prop}
  (hrules : ∀ r, (grammar r).Gives S (S r)) {α : Type}

include hrules

theorem gives {p : Peg Result α} (hreg : p.regular = true) {Q : List Token → α → Prop}
    (hp : p.Gives S Q) {c c' : Cursor} {a : α} (hc : ∀ t ∈ c.rest, t.span.IsDetermined)
    (h : L.answer p c = some (a, c')) : ∃ ts, c.Takes ts c' ∧ Q ts a := by
  suffices hall : (∀ t ∈ c.rest, t.span.IsDetermined) → ∀ Q : List Token → α → Prop,
      p.Gives S Q → ∀ a c', L.answer p c = some (a, c') → ∃ ts, c.Takes ts c' ∧ Q ts a from
    hall hc Q hp a c' h
  refine L.induct (motive := fun {α} p c => (∀ t ∈ c.rest, t.span.IsDetermined) →
    ∀ Q : List Token → α → Prop, p.Gives S Q → ∀ a c', L.answer p c = some (a, c') →
      ∃ ts, c.Takes ts c' ∧ Q ts a)
    ?token ?oneOf ?seq ?choice ?map ?filterMap ?opt ?many ?spanned ?rule p hreg c
  case token =>
    intro t c hc Q hQ found c' h
    rw [L.answer_token] at h
    have htakes := (Cursor.next?_eq_some h).2
    exact ⟨[found], htakes, hQ found (hc found (htakes.rest ▸ List.mem_cons_self))⟩
  case oneOf =>
    intro α table c _ _ Q hQ a c' h
    rw [L.answer_oneOf] at h
    obtain ⟨e, he, hnext⟩ := List.exists_of_findSome?_eq_some h
    obtain ⟨⟨found, c₁⟩, hfound, heq⟩ := Option.map_eq_some_iff.1 hnext
    cases heq
    exact ⟨[found], (Cursor.next?_eq_some hfound).2, hQ e he found⟩
  case seq =>
    rintro α β p q c ihp ihq hc Q ⟨P, P', hp, hq, hQ⟩ _ _ h
    rw [L.answer_seq] at h
    obtain ⟨⟨a, c₁⟩, ha, h⟩ := Option.bind_eq_some_iff.1 h
    obtain ⟨⟨b, c₂⟩, hb, heq⟩ := Option.map_eq_some_iff.1 h
    cases heq
    obtain ⟨ts, hts, hPa⟩ := ihp hc P hp a c₁ ha
    obtain ⟨us, hus, hPb⟩ := ihq a c₁ ha (hts.forall_rest hc) P' hq b c₂ hb
    exact ⟨ts ++ us, hts.trans hus, hQ ts us a b hPa hPb⟩
  case choice =>
    rintro α p q c ihp ihq hc Q ⟨hp, hq⟩ a c' h
    rw [L.answer_choice] at h
    rcases Option.or_eq_some_iff.1 h with hfirst | ⟨_, hsecond⟩
    · exact ihp hc Q hp a c' hfirst
    · exact ihq hc Q hq a c' hsecond
  case map =>
    rintro α β f p c ih hc Q ⟨P, hp, hf⟩ _ _ h
    rw [L.answer_map] at h
    obtain ⟨⟨a, c₁⟩, ha, heq⟩ := Option.map_eq_some_iff.1 h
    cases heq
    obtain ⟨ts, hts, hPa⟩ := ih hc P hp a c₁ ha
    exact ⟨ts, hts, hf ts a hPa⟩
  case filterMap =>
    rintro α β f p c ih hc Q ⟨P, hp, hf⟩ _ _ h
    rw [L.answer_filterMap] at h
    obtain ⟨⟨a, c₁⟩, ha, h⟩ := Option.bind_eq_some_iff.1 h
    obtain ⟨b, hb, heq⟩ := Option.map_eq_some_iff.1 h
    cases heq
    obtain ⟨ts, hts, hPa⟩ := ih hc P hp a c₁ ha
    exact ⟨ts, hts, hf ts a hPa _ hb⟩
  case opt =>
    rintro α p c ih hc Q ⟨P, hp, hnone, hsome⟩ _ _ h
    rw [L.answer_opt] at h
    rcases Option.or_eq_some_iff.1 h with hfirst | ⟨_, hsecond⟩
    · obtain ⟨⟨a, c₁⟩, ha, heq⟩ := Option.map_eq_some_iff.1 hfirst
      cases heq
      obtain ⟨ts, hts, hPa⟩ := ih hc P hp a c₁ ha
      exact ⟨ts, hts, hsome ts a hPa⟩
    · cases hsecond
      exact ⟨[], .nil c, hnone⟩
  case many =>
    rintro α p c hnull ih ihmore hc Q ⟨P, P', hp, hnil, hcons, hQ⟩ _ _ h
    rw [L.answer_many p c hnull] at h
    rcases Option.or_eq_some_iff.1 h with hfirst | ⟨_, hsecond⟩
    · obtain ⟨⟨a, c₁⟩, ha, h⟩ := Option.bind_eq_some_iff.1 hfirst
      obtain ⟨⟨as, c₂⟩, has, heq⟩ := Option.map_eq_some_iff.1 h
      cases heq
      obtain ⟨ts, hts, hPa⟩ := ih hc P hp a c₁ ha
      obtain ⟨us, hus, hPas⟩ := ihmore a c₁ ha (hts.forall_rest hc) P'
        ⟨P, P', hp, hnil, hcons, fun _ _ h => h⟩ as c₂ has
      exact ⟨ts ++ us, hts.trans hus, hQ _ _ (hcons ts us a as hPa hPas)⟩
    · cases hsecond
      exact ⟨[], .nil c, hQ _ _ hnil⟩
  case spanned =>
    rintro α p c hnull ih hc Q ⟨P, hp, hQ⟩ _ _ h
    rw [L.answer_spanned] at h
    obtain ⟨⟨a, c₁⟩, ha, heq⟩ := Option.map_eq_some_iff.1 h
    cases heq
    obtain ⟨ts, hts, hPa⟩ := ih hc P hp a c₁ ha
    -- the expression takes a token, so that its span is that of some tokens
    have hne : ts ≠ [] := by
      obtain ⟨us, hus, hne⟩ := L.reading_proceeds p c a c₁ ha
      have hlen := hts.length
      have hlen' := hus.length
      have hpos := List.length_pos_iff.2 (hne hnull)
      exact List.length_pos_iff.1 (by omega)
    exact ⟨ts, hts, hQ ts a _ (hts.along hne) hPa⟩
  case rule =>
    intro r c ih hc Q hQ a c' h
    rw [L.answer_rule] at h
    obtain ⟨ts, hts, hS⟩ := ih hc (S r) (hrules r) a c' h
    exact ⟨ts, hts, hQ ts a hS⟩

end Layers

end ModelLang
