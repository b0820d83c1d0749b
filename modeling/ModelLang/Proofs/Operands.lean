import ModelLang.Proofs.Expected
import ModelLang.Proofs.Progress

/-!
# ModelLang.Proofs.Operands

Where operands are read, and which of them cannot be. What a reading comes to, directly or through
the rules that it calls, is a place that it visits (`Peg.Visits`). All tokens on the way there are
taken, and a numeral is taken only if it has a value (`Layers.reading_over`). So a turn that comes
to a numeral without a value as an operand ends there. A program overflows exactly if one of its
turns comes to an operand that does (`Grammar.overflows_iff`); otherwise it is read, and reading
ends (`Grammar.progresses`).
-/

namespace ModelLang

namespace Peg

variable {R : Type} {Result : R → Type}

/-- While an expression is read at a place, a rule is called at a place, by the expression or by the
rules that it calls. -/
inductive Visits (grammar : (r : R) → Peg Result (Result r)) :
    {α : Type} → Peg Result α → Cursor → R → Cursor → Prop where
  | call {α : Type} {p : Peg Result α} {c c' : Cursor} {r : R} (h : Calls grammar p c r c') :
      Visits grammar p c r c'
  | within {α : Type} {p : Peg Result α} {c c' c'' : Cursor} {r r' : R}
      (h : Calls grammar p c r c') (h' : Visits grammar (grammar r) c' r' c'') :
      Visits grammar p c r' c''

/-- What calls as much visits as much. -/
theorem Visits.mono {grammar : (r : R) → Peg Result (Result r)} {α β : Type} {p : Peg Result α}
    {q : Peg Result β} {c d c' : Cursor} {r : R} (h : Visits grammar p c r c')
    (hcalls : ∀ r c', Calls grammar p c r c' → Calls grammar q d r c') :
    Visits grammar q d r c' := by
  cases h with
  | call h => exact .call (hcalls _ _ h)
  | within h h' => exact .within (hcalls _ _ h) h'

/-- At position `n` starts the expression or a rule that is visited, with the terminal among its
own. -/
def StartsAt (grammar : (r : R) → Peg Result (Result r)) (t : Terminal) {α : Type}
    (p : Peg Result α) (c : Cursor) (n : Nat) : Prop :=
  (c.position = n ∧ t ∈ p.terminals) ∨
    ∃ r c', Visits grammar p c r c' ∧ c'.position = n ∧ t ∈ (grammar r).terminals

namespace StartsAt

variable {grammar : (r : R) → Peg Result (Result r)} {t : Terminal} {α β : Type}
  {p : Peg Result α} {q : Peg Result β} {c c' : Cursor} {n : Nat}

theorem mono (h : StartsAt grammar t p c n)
    (hcalls : ∀ r c', Calls grammar p c r c' → Calls grammar q c r c')
    (ht : p.terminals ⊆ q.terminals) : StartsAt grammar t q c n := by
  rcases h with ⟨hpos, hmem⟩ | ⟨r, c', hvisits, hfound⟩
  · exact .inl ⟨hpos, ht hmem⟩
  · exact .inr ⟨r, c', hvisits.mono hcalls, hfound⟩

/-- A part further on does not ask for the terminal itself. -/
theorem later (h : StartsAt grammar t p c' n)
    (hcalls : ∀ r d, Calls grammar p c' r d → Calls grammar q c r d)
    (ht : p.terminals.contains t = false) : StartsAt grammar t q c n := by
  rcases h with ⟨_, hmem⟩ | ⟨r, d, hvisits, hfound⟩
  · rw [List.contains_iff_mem.2 hmem] at ht
    cases ht
  · exact .inr ⟨r, d, hvisits.mono hcalls, hfound⟩

end StartsAt

/-- Whether an expression asks for the terminal only where it starts, apart from its rules. -/
def atFront (t : Terminal) {α : Type} : Peg Result α → Bool
  | .token _ | .oneOf _ | .rule _ => true
  | .seq p q => p.atFront t && q.atFront t && !q.terminals.contains t
  | .choice p q => p.atFront t && q.atFront t
  | .map _ p | .filterMap _ p | .opt p | .spanned p => p.atFront t
  | .many p => p.atFront t && !p.terminals.contains t

/-- The terminals that an expression asks for, apart from its rules and from tokens that a filter
looks at. -/
def loose {α : Type} : Peg Result α → List Terminal
  | .token t => [t]
  | .oneOf table => table.map Prod.fst
  | .seq p q | .choice p q => p.loose ++ q.loose
  | .filterMap _ (.token _) | .rule _ => []
  | .map _ p | .filterMap _ p | .spanned p | .opt p | .many p => p.loose

/-- If the filter looks at a token, it lets only those with `A` pass. -/
def Filter.Strict (A : Token → Prop) : Filter Result → Prop
  | ⟨accept, .token t⟩ =>
    ∀ found : Token, t.fits found.lexeme = true → (accept found).isSome = true → A found
  | _ => True

end Peg

/-! ## Readings over tokens of a kind -/

namespace Reading

variable {α β : Type} {A : Token → Prop} {c : Cursor} {x y : Reading α}

theorem asked_subset_bind_of_some {f : α → Cursor → Reading β} {a : α}
    (h : x.answer = some (a, c)) : (f a c).asked ⊆ (x.bind f).asked := by
  rw [bind_of_some h]
  exact List.subset_append_right _ _

theorem asked_subset_orElse_of_none (h : x.answer = none) : y.asked ⊆ (x.orElse y).asked := by
  rw [orElse_of_none h]
  exact List.subset_append_right _ _

theorem forall_asked_orElse {P : Request → Prop} (hx : ∀ e ∈ x.asked, P e)
    (hy : x.answer = none → ∀ e ∈ y.asked, P e) : ∀ e ∈ (x.orElse y).asked, P e := by
  rcases h : x.answer with _ | r
  · rw [orElse_of_none h]
    exact List.forall_mem_append.2 ⟨hx, hy h⟩
  · rwa [orElse_of_some h]

theorem forall_asked_ofNext {P : Request → Prop} {ts : List Terminal} (answer : Answer α)
    (h : ∀ t ∈ ts, P (c.position, t)) : ∀ e ∈ (Reading.ofNext c ts answer).asked, P e := by
  rcases answer with _ | r
  · exact List.forall_mem_map.2 h
  · exact List.forall_mem_nil _

/-- The reading from `c` goes over tokens with `A` to what it gives and to what it asks for. -/
structure Over (A : Token → Prop) (c : Cursor) (x : Reading α) : Prop where
  asked : ∀ e ∈ x.asked, ∃ c', c.Leads A c' ∧ c'.position = e.1
  gives : ∀ a c', x.answer = some (a, c') → c.Leads A c'

namespace Over

theorem pure {a : α} : (Reading.pure a c).Over A c where
  asked := List.forall_mem_nil _
  gives := by
    rintro _ _ ⟨⟩
    exact .refl c

theorem ofOption {a : Option α} : (Reading.ofOption a c).Over A c where
  asked := List.forall_mem_nil _
  gives b c' h := by
    obtain ⟨_, _, heq⟩ := Option.map_eq_some_iff.1 h
    cases heq
    exact .refl c

theorem ofNext {ts : List Terminal} {answer : Answer α} (h : c.Offers ts answer)
    (hA : ∀ t ∈ ts, ∀ found : Token, t.fits found.lexeme = true → A found) :
    (Reading.ofNext c ts answer).Over A c where
  asked := forall_asked_ofNext answer fun _ _ => ⟨c, .refl c, rfl⟩
  gives a c' ha := by
    rw [ofNext_answer] at ha
    rw [ha] at h
    obtain ⟨t, ht, found, hnext⟩ := h
    obtain ⟨hfits, htakes⟩ := Cursor.next?_eq_some hnext
    exact ⟨[found], htakes, List.forall_mem_singleton.2 (hA t ht found hfits)⟩

theorem bind {f : α → Cursor → Reading β} (hx : x.Over A c)
    (hf : ∀ a c', x.answer = some (a, c') → (f a c').Over A c') : (x.bind f).Over A c where
  asked := by
    refine forall_asked_bind hx.asked fun a c' ha e he => ?_
    obtain ⟨c'', hover, hpos⟩ := (hf a c' ha).asked e he
    exact ⟨c'', (hx.gives a c' ha).trans hover, hpos⟩
  gives b c'' hb := by
    obtain ⟨a, c', ha, hb⟩ := bind_answer_eq_some.1 hb
    exact (hx.gives a c' ha).trans ((hf a c' ha).gives b c'' hb)

theorem orElse (hx : x.Over A c) (hy : y.Over A c) : (x.orElse y).Over A c where
  asked := forall_asked_orElse hx.asked fun _ => hy.asked
  gives a c' ha := by
    rcases h : x.answer with _ | r
    · rw [orElse_of_none h] at ha
      exact hy.gives a c' ha
    · rw [orElse_of_some h] at ha
      exact hx.gives a c' ha

end Over

end Reading

/-! ## Grammars -/

namespace Layers

variable {R : Type} {Result : R → Type} {grammar : (r : R) → Peg Result (Result r)}
  (L : Layers grammar) {α : Type}

/-- What a rule asks for in vain where it is called, the caller asks for. -/
theorem asked_of_calls {p : Peg Result α} (hp : p.regular = true) {c c' : Cursor} {r : R}
    (h : Peg.Calls grammar p c r c') {e : Request} (he : e ∈ (L.reading (grammar r) c').asked) :
    e ∈ (L.reading p c).asked := by
  induction h with
  | rule r c =>
    rw [L.reading_rule]
    exact he
  | left q _ ih =>
    rw [L.reading_seq]
    exact Reading.asked_subset_bind _ _ (ih (Bool.and_eq_true_iff.1 hp).1 he)
  | right hreads _ ih =>
    obtain ⟨hp, hq⟩ := Bool.and_eq_true_iff.1 hp
    have hanswer := (L.answer_of_reads hp hreads).symm
    rw [L.reading_seq]
    exact Reading.asked_subset_bind_of_some hanswer (Reading.asked_subset_bind _ _ (ih hq he))
  | first q _ ih =>
    rw [L.reading_choice]
    exact Reading.asked_subset_orElse _ _ (ih (Bool.and_eq_true_iff.1 hp).1 he)
  | second hreads _ ih =>
    obtain ⟨hp, hq⟩ := Bool.and_eq_true_iff.1 hp
    have hanswer := (L.answer_of_reads hp hreads).symm
    rw [L.reading_choice]
    exact Reading.asked_subset_orElse_of_none hanswer (ih hq he)
  | map _ _ ih | filterMap _ _ ih => exact Reading.asked_subset_bind _ _ (ih hp he)
  | spanned _ ih => exact Reading.asked_subset_bind _ _ (ih (Bool.and_eq_true_iff.1 hp).2 he)
  | opt _ ih =>
    rw [L.reading_opt]
    exact Reading.asked_subset_orElse _ _ (Reading.asked_subset_bind _ _ (ih hp he))
  | once _ ih =>
    obtain ⟨hnull, hone⟩ := Bool.and_eq_true_iff.1 hp
    rw [L.reading_many _ _ (Bool.not_eq_true' _ ▸ hnull)]
    exact Reading.asked_subset_orElse _ _ (Reading.asked_subset_bind _ _ (ih hone he))
  | again hreads _ ih =>
    obtain ⟨hnull, hone⟩ := Bool.and_eq_true_iff.1 hp
    have hanswer := (L.answer_of_reads hone hreads).symm
    rw [L.reading_many _ _ (Bool.not_eq_true' _ ▸ hnull)]
    refine Reading.asked_subset_orElse _ _ (Reading.asked_subset_bind_of_some hanswer ?_)
    exact Reading.asked_subset_bind _ _ (ih hp he)

theorem asked_of_visits {p : Peg Result α} (hp : p.regular = true) {c c' : Cursor} {r : R}
    (h : Peg.Visits grammar p c r c') {e : Request} (he : e ∈ (L.reading (grammar r) c').asked) :
    e ∈ (L.reading p c).asked := by
  induction h with
  | call h => exact L.asked_of_calls hp h he
  | within h _ ih => exact L.asked_of_calls hp h (ih (L.regular _) he)

/-- The first of two parts asks for what it asks for alone. -/
theorem asked_map₂ {β γ : Type} (f : α → β → γ) {p : Peg Result α} (q : Peg Result β) {c : Cursor}
    {e : Request} (he : e ∈ (L.reading p c).asked) :
    e ∈ (L.reading (f <$> p <*> q) c).asked := by
  refine Reading.asked_subset_bind _ _ ?_
  show e ∈ (L.reading (.seq (.map f p) q) c).asked
  rw [L.reading_seq]
  exact Reading.asked_subset_bind _ _ (Reading.asked_subset_bind _ _ he)

include L in
/-- What is visited lies ahead. -/
theorem takes_of_visits {p : Peg Result α} (hp : p.regular = true) {c c' : Cursor} {r : R}
    (h : Peg.Visits grammar p c r c') : ∃ ts, c.Takes ts c' := by
  induction h with
  | call h =>
    obtain ⟨ts, ht, _⟩ := L.calls_descend hp h
    exact ⟨ts, ht⟩
  | within h _ ih =>
    obtain ⟨ts, ht, _⟩ := L.calls_descend hp h
    obtain ⟨us, hu⟩ := ih (L.regular _)
    exact ⟨ts ++ us, ht.trans hu⟩

/-- A terminal that is asked for only where expressions start is asked for where one starts that has
it. By induction along the readings. -/
theorem startsAt_of_asked {t : Terminal} (hfront : ∀ r, (grammar r).atFront t = true)
    {p : Peg Result α} (hreg : p.regular = true) (hp : p.atFront t = true) (c : Cursor) :
    ∀ e ∈ (L.reading p c).asked, e.2 = t → Peg.StartsAt grammar t p c e.1 := by
  suffices hall : p.regular = true → p.atFront t = true →
      ∀ e ∈ (L.reading p c).asked, e.2 = t → Peg.StartsAt grammar t p c e.1 from hall hreg hp
  refine L.induct (motive := fun p c => p.regular = true → p.atFront t = true →
      ∀ e ∈ (L.reading p c).asked, e.2 = t → Peg.StartsAt grammar t p c e.1)
    ?token ?oneOf ?seq ?choice ?map ?filterMap ?opt ?many ?spanned ?rule p hreg c
  case token =>
    intro x c _ _
    exact Reading.forall_asked_ofNext _ fun y hy heq => .inl ⟨rfl, heq ▸ hy⟩
  case oneOf =>
    intro _ table c _ _ _
    exact Reading.forall_asked_ofNext _ fun y hy heq => .inl ⟨rfl, heq ▸ hy⟩
  case seq =>
    intro _ _ p q c ihp ihq hreg hpq
    obtain ⟨hregp, hregq⟩ := Bool.and_eq_true_iff.1 hreg
    rw [Peg.atFront, Bool.and_eq_true, Bool.and_eq_true, Bool.not_eq_true'] at hpq
    obtain ⟨⟨hp, hq⟩, hmem⟩ := hpq
    rw [L.reading_seq]
    refine Reading.forall_asked_bind (fun e he heq => ?_) fun a c₁ ha =>
      Reading.forall_asked_bind (fun e he heq => ?_) fun _ _ _ => List.forall_mem_nil _
    · exact (ihp hregp hp e he heq).mono (fun _ _ => .left q) (List.subset_append_left _ _)
    · have hreads : Peg.Reads grammar p c (some (a, c₁)) := ha ▸ L.reads_answer hregp c
      exact (ihq a c₁ ha hregq hq e he heq).later (fun _ _ => .right hreads) hmem
  case choice =>
    intro _ p q c ihp ihq hreg hpq
    obtain ⟨hregp, hregq⟩ := Bool.and_eq_true_iff.1 hreg
    obtain ⟨hp, hq⟩ := Bool.and_eq_true_iff.1 hpq
    rw [L.reading_choice]
    refine Reading.forall_asked_orElse (fun e he heq => ?_) fun hnone e he heq => ?_
    · exact (ihp hregp hp e he heq).mono (fun _ _ => .first q) (List.subset_append_left _ _)
    · have hreads : Peg.Reads grammar p c none := hnone ▸ L.reads_answer hregp c
      exact (ihq hregq hq e he heq).mono (fun _ _ => .second hreads) (List.subset_append_right _ _)
  case map =>
    intro _ _ f p c ih hreg hp
    refine Reading.forall_asked_bind (fun e he heq => ?_) fun _ _ _ => List.forall_mem_nil _
    exact (ih hreg hp e he heq).mono (fun _ _ => .map f) (List.Subset.refl _)
  case filterMap =>
    intro _ _ f p c ih hreg hp
    refine Reading.forall_asked_bind (fun e he heq => ?_) fun _ _ _ => List.forall_mem_nil _
    exact (ih hreg hp e he heq).mono (fun _ _ => .filterMap f) (List.Subset.refl _)
  case opt =>
    intro _ p c ih hreg hp
    refine Reading.forall_asked_orElse (Reading.forall_asked_bind (fun e he heq => ?_)
      fun _ _ _ => List.forall_mem_nil _) fun _ => List.forall_mem_nil _
    exact (ih hreg hp e he heq).mono (fun _ _ => .opt) (List.Subset.refl _)
  case many =>
    intro _ p c hnull ih ihmany hreg hp
    obtain ⟨_, hone⟩ := Bool.and_eq_true_iff.1 hreg
    rw [Peg.atFront, Bool.and_eq_true, Bool.not_eq_true'] at hp
    rw [L.reading_many p c hnull]
    refine Reading.forall_asked_orElse (Reading.forall_asked_bind (fun e he heq => ?_)
      fun a c₁ ha => Reading.forall_asked_bind (fun e he heq => ?_)
        fun _ _ _ => List.forall_mem_nil _) fun _ => List.forall_mem_nil _
    · exact (ih hone hp.1 e he heq).mono (fun _ _ => .once) (List.Subset.refl _)
    · have hreads : Peg.Reads grammar p c (some (a, c₁)) := ha ▸ L.reads_answer hone c
      have hfurther := ihmany a c₁ ha hreg (by rw [Peg.atFront, hp.1, hp.2]; rfl) e he heq
      exact hfurther.later (fun _ _ => .again hreads) hp.2
  case spanned =>
    intro _ p c _ ih hreg hp
    obtain ⟨_, hone⟩ := Bool.and_eq_true_iff.1 hreg
    refine Reading.forall_asked_bind (fun e he heq => ?_) fun _ _ _ => List.forall_mem_nil _
    exact (ih hone hp e he heq).mono (fun _ _ => .spanned) (List.Subset.refl _)
  case rule =>
    intro r c ih _ _
    rw [L.reading_rule]
    intro e he heq
    rcases ih (L.regular r) (hfront r) e he heq with ⟨hpos, ht⟩ | ⟨r', c', h, hfound⟩
    · exact .inr ⟨r, c, .call (.rule r c), hpos, ht⟩
    · exact .inr ⟨r', c', .within (.rule r c) h, hfound⟩

/-- By induction along the readings: a token is taken where a terminal fits it, and if a filter
looks at it, only after the filter let it pass. -/
theorem reading_over {A : Token → Prop}
    (hloose : ∀ r, ∀ t ∈ (grammar r).loose, ∀ found : Token, t.fits found.lexeme = true → A found)
    (hstrict : ∀ r, ∀ F ∈ (grammar r).filters, F.Strict A) {p : Peg Result α}
    (hreg : p.regular = true)
    (hp : ∀ t ∈ p.loose, ∀ found : Token, t.fits found.lexeme = true → A found)
    (hF : ∀ F ∈ p.filters, F.Strict A) (c : Cursor) : (L.reading p c).Over A c := by
  revert hp hF
  refine L.induct (motive := fun p c =>
      (∀ t ∈ p.loose, ∀ found : Token, t.fits found.lexeme = true → A found) →
      (∀ F ∈ p.filters, F.Strict A) → (L.reading p c).Over A c)
    ?token ?oneOf ?seq ?choice ?map ?filterMap ?opt ?many ?spanned ?rule p hreg c
  case token => exact fun t c hp _ => .ofNext (c.offers_next? t) hp
  case oneOf => exact fun table c _ hp _ => .ofNext (c.offers_table table) hp
  case seq =>
    intro _ _ p q c ihp ihq hpq hF
    obtain ⟨hp, hq⟩ := List.forall_mem_append.1 hpq
    obtain ⟨hFp, hFq⟩ := List.forall_mem_append.1 hF
    rw [L.reading_seq]
    exact .bind (ihp hp hFp) fun a c' ha => .bind (ihq a c' ha hq hFq) fun _ _ _ => .pure
  case choice =>
    intro _ p q c ihp ihq hpq hF
    obtain ⟨hp, hq⟩ := List.forall_mem_append.1 hpq
    obtain ⟨hFp, hFq⟩ := List.forall_mem_append.1 hF
    rw [L.reading_choice]
    exact .orElse (ihp hp hFp) (ihq hq hFq)
  case map => exact fun f p c ih hp hF => .bind (ih hp hF) fun _ _ _ => .pure
  case filterMap =>
    intro _ _ f p c ih hp hF
    obtain ⟨haccept, hF⟩ := List.forall_mem_cons.1 hF
    cases p with
    | token t =>
      refine ⟨?_, fun b c'' hb => ?_⟩
      · refine Reading.forall_asked_bind ?_ fun _ _ _ => List.forall_mem_nil _
        exact Reading.forall_asked_ofNext _ fun _ _ => ⟨c, .refl c, rfl⟩
      · obtain ⟨found, c', hnext, hb⟩ := Reading.bind_answer_eq_some.1 hb
        rw [Peg.read, Reading.ofNext_answer] at hnext
        obtain ⟨hfits, htakes⟩ := Cursor.next?_eq_some hnext
        obtain ⟨_, hf, heq⟩ := Option.map_eq_some_iff.1 hb
        cases heq
        have hA := haccept found hfits (Option.isSome_iff_exists.2 ⟨_, hf⟩)
        exact ⟨[found], htakes, List.forall_mem_singleton.2 hA⟩
    | _ => exact .bind (ih hp hF) fun _ _ _ => .ofOption
  case opt => exact fun p c ih hp hF => .orElse (.bind (ih hp hF) fun _ _ _ => .pure) .pure
  case many =>
    intro _ p c hnull ih ihmany hp hF
    rw [L.reading_many p c hnull]
    refine .orElse (.bind (ih hp hF) fun a c' ha => ?_) .pure
    exact .bind (ihmany a c' ha hp hF) fun _ _ _ => .pure
  case spanned => exact fun p c _ ih hp hF => .bind (ih hp hF) fun _ _ _ => .pure
  case rule =>
    intro r c ih _ _
    rw [L.reading_rule]
    exact ih (hloose r) (hstrict r)

end Layers

/-! ## Operands -/

namespace Grammar

theorem not_admissible_of_overflows {t : Token} (h : t.Overflows) : ¬ Admissible t := by
  obtain ⟨s, hs, hover⟩ := h
  rw [Admissible, hs, Lexeme.admissible, Numeral.value?, hover]
  exact Bool.false_ne_true

theorem admissible_of_fits {x : Terminal} (hx : x ≠ .numeral) (t : Token)
    (h : x.fits t.lexeme = true) : Admissible t := by
  rw [Lexeme.fits_iff] at h
  unfold Admissible
  cases hl : t.lexeme with
  | numeral s =>
    rw [hl] at h
    cases h
    exact absurd rfl hx
  | _ => rfl

theorem form_loose (r : Rule) : ∀ x ∈ (form r).loose, x ≠ .numeral := by
  cases r <;> decide +kernel

theorem numeral_strict : Peg.Filter.Strict Admissible
    (⟨fun t => (Numeral.value? (content t).toList).map (Expr.number · t.span), .token .numeral⟩ :
      Peg.Filter Rule.Result) := by
  intro t hfits haccept
  rw [Option.isSome_map] at haccept
  unfold Admissible
  cases hl : t.lexeme with
  | numeral s => rwa [content, hl] at haccept
  | _ => rfl

theorem form_strict (r : Rule) : ∀ F ∈ (form r).filters, F.Strict Admissible := by
  cases r with
  | unary => exact List.forall_mem_cons.2 ⟨numeral_strict, List.forall_mem_singleton.2 trivial⟩
  | _ => exact List.forall_mem_nil _

/-- Only numerals that have a value are taken. -/
theorem statement_over (c : Cursor) : (layers.reading statement c).Over Admissible c :=
  layers.reading_over (fun r x hx => admissible_of_fits (form_loose r x hx)) form_strict
    (p := statement) rfl
    (List.forall_mem_singleton.2 (admissible_of_fits (by decide))) (List.forall_mem_nil _) c

/-- Strings are asked for as operands only, and there where an operand starts. -/
theorem form_atFront (r : Rule) : (form r).atFront .string = true := by
  cases r <;> decide +kernel

theorem eq_unary_of_string {r : Rule} (h : .string ∈ (form r).terminals) : r = .unary := by
  revert h
  cases r <;> decide +kernel

theorem next?_eq_none {c : Cursor} {t : Token} (ht : t ∈ c.rest.head?) {x : Terminal}
    (hx : x.fits t.lexeme = false) : c.next? x = none := by
  rcases h : c.next? x with _ | ⟨found, c'⟩
  · rfl
  · obtain ⟨hfits, htakes⟩ := Cursor.next?_eq_some h
    rw [htakes.rest] at ht
    cases ht
    rw [hx] at hfits
    cases hfits

/-- Where an operand is a numeral without a value, a string is asked for in vain. -/
theorem operand_asks {c : Cursor} {t : Token} (ht : t ∈ c.rest.head?) (hover : t.Overflows) :
    (c.position, .string) ∈ (layers.reading (form .unary) c).asked := by
  obtain ⟨s, hs, hs'⟩ := hover
  have hnext {x : Terminal} (hx : x ≠ .numeral) : c.next? x = none := by
    refine next?_eq_none ht (Bool.eq_false_iff.2 fun hfits => ?_)
    rw [Lexeme.fits_iff, hs] at hfits
    cases hfits
    exact hx rfl
  have hneg : layers.answer (signed .neg (mark "-") unary) c = none := by
    show layers.answer (.map _ (.seq (.map _ (.token (.mark "-"))) unary)) c = none
    rw [layers.answer_map, layers.answer_seq, layers.answer_map, layers.answer_token,
      hnext (by decide)]
    rfl
  have hplus : layers.answer (mark "+" *> unary) c = none := by
    show layers.answer (.map _ (.seq (.token (.mark "+")) unary)) c = none
    rw [layers.answer_map, layers.answer_seq, layers.answer_token, hnext (by decide)]
    rfl
  have hnumeral : layers.answer numeral c = none := by
    unfold numeral
    rw [layers.answer_filterMap, layers.answer_token]
    rcases h : c.next? .numeral with _ | ⟨found, c'⟩
    · rfl
    · rw [(Cursor.next?_eq_some h).2.rest] at ht
      cases ht
      rw [Option.bind_some, content, hs, Numeral.value?, hs']
      rfl
  have hstring : (c.position, .string) ∈ (layers.reading string c).asked := by
    refine Reading.asked_subset_bind _ _ ?_
    show _ ∈ (layers.reading (.token .string) c).asked
    rw [layers.reading_token, hnext (by decide)]
    exact List.mem_singleton_self _
  have hprimary : (c.position, .string) ∈ (layers.reading primary c).asked := by
    show _ ∈ (layers.reading (.choice numeral (.choice string _)) c).asked
    rw [layers.reading_choice, layers.reading_choice]
    exact Reading.asked_subset_orElse_of_none hnumeral (Reading.asked_subset_orElse _ _ hstring)
  have hpower : (c.position, .string) ∈
      (layers.reading (atMostOne powerOps postfixed unary) c).asked :=
    layers.asked_map₂ _ _ (layers.asked_map₂ _ _ hprimary)
  show _ ∈ (layers.reading (.choice (signed .neg (mark "-") unary) (.choice (mark "+" *> unary)
    (atMostOne powerOps postfixed unary))) c).asked
  rw [layers.reading_choice, layers.reading_choice]
  exact Reading.asked_subset_orElse_of_none hneg
    (Reading.asked_subset_orElse_of_none hplus hpower)

/-- While a statement is read from a place on, an operand is read at another place, where a numeral
stands that overflows. -/
def MeetsOverflow (c : Cursor) : Prop :=
  ∃ c', Peg.Visits form statement c .unary c' ∧ ∃ t ∈ c'.rest.head?, t.Overflows

/-- The turn stops at a numeral as an operand, of which only an overflow came. -/
def Turn.Overflows (turn : Turn) : Prop :=
  ∃ e, turn.result = .error e ∧ e.isOverflow = true

/-- A syntax error shows one of the tokens ahead, or the end of the input. -/
theorem found_ofReach (c : Cursor) (reach : Reach) :
    (SyntaxError.ofReach c reach).found = .endOfInput ∨
      ∃ t ∈ c.rest, (SyntaxError.ofReach c reach).found = t.lexeme := by
  unfold SyntaxError.ofReach
  split
  · rename_i t ht
    refine .inr ⟨t, ?_, rfl⟩
    rcases Option.or_eq_some_iff.1 ht with hat | ⟨_, hlast⟩
    · exact List.mem_of_getElem? hat
    · exact List.mem_of_getLast? hlast
  · exact .inl rfl

theorem ofReach_expected (c : Cursor) (reach : Reach) :
    (SyntaxError.ofReach c reach).expected = reach.expected := by
  unfold SyntaxError.ofReach
  split <;> rfl

/-- The token at a place ahead. -/
theorem getElem?_of_takes {c c' : Cursor} {ts : List Token} (hts : c.Takes ts c') :
    c.rest[c'.position - c.position]? = c'.rest.head? := by
  rw [hts.rest, hts.position, Nat.add_sub_cancel_left, List.getElem?_append_right (Nat.le_refl _),
    Nat.sub_self, List.head?_eq_getElem?]

theorem stopsAt_of_takes {c c' : Cursor} {ts : List Token} {t : Token}
    (h : c.Takes (ts ++ [t]) c') (ht : IsStop t) :
    c.StopsAt (Token.Fits Inner) (c.position + ts.length) := by
  obtain ⟨k, rest, l⟩ := c
  obtain rfl : rest = ts ++ [t] ++ c'.rest := h.rest
  rw [List.append_assoc]
  obtain ⟨c₁, htakes, hrest⟩ := Cursor.takes_append k ts ([t] ++ c'.rest) l
  refine ⟨ts, c₁, htakes, htakes.position, ?_⟩
  rw [hrest]
  rintro _ ⟨⟩ hfits
  exact not_isStop_of_fits hfits ht

theorem meetsOverflow_of_overflows {c : Cursor} (h : (turnAt c).Overflows) : MeetsOverflow c := by
  obtain ⟨e, hresult, hoverflow⟩ := h
  have hnone := answer_of_error hresult
  have he : e = .ofReach c (turnAt c).reach := by
    rw [Turn.result, hnone] at hresult
    exact (Except.error.inj hresult).symm
  obtain ⟨hstring, s, hfound, hs⟩ := isOverflow_iff.1 hoverflow
  rw [he, ofReach_expected] at hstring
  have hasked : ((turnAt c).reach.position, .string) ∈ (layers.reading statement c).asked :=
    Reach.mem_noteEach_start.1 hstring
  rcases layers.startsAt_of_asked form_atFront (p := statement) rfl (by decide +kernel) c _
    hasked rfl with ⟨_, hmem⟩ | ⟨r, c', hvisits, hpos, hr⟩
  · exact absurd hmem (by decide +kernel)
  obtain rfl := eq_unary_of_string hr
  -- all tokens on the way are taken, so the numeral is none of them
  obtain ⟨c₁, ⟨ts, hts, hadm⟩, hpos₁⟩ := (statement_over c).asked _ hasked
  obtain ⟨us, hus⟩ := layers.takes_of_visits (p := statement) rfl hvisits
  obtain rfl : c₁ = c' := hts.unique hus (hpos₁.trans hpos.symm)
  have hat := getElem?_of_takes hts
  refine ⟨c₁, hvisits, ?_⟩
  cases hhead : c₁.rest.head? with
  | some t =>
    rw [hhead, hpos] at hat
    cases (turnAt_result_of_none hnone hat).symm.trans hresult
    exact ⟨t, rfl, s, hfound, hs⟩
  | none =>
    have hshown := found_ofReach c (turnAt c).reach
    rw [← he, hfound] at hshown
    rcases hshown with hend | ⟨t, ht, hlexeme⟩
    · cases hend
    · rw [hts.rest, List.head?_eq_none_iff.1 hhead, List.append_nil] at ht
      have hover : t.Overflows := ⟨s, hlexeme.symm, hs⟩
      exact absurd (hadm t ht) (not_admissible_of_overflows hover)

theorem overflows_of_meetsOverflow {c : Cursor} (h : MeetsOverflow c) : (turnAt c).Overflows := by
  obtain ⟨c', hvisits, t, ht, hover⟩ := h
  have hasked : (c'.position, .string) ∈ (layers.reading statement c).asked :=
    layers.asked_of_visits (p := statement) rfl hvisits (operand_asks ht hover)
  obtain ⟨us, hus⟩ := layers.takes_of_visits (p := statement) rfl hvisits
  have hstop : c.StopsAt Admissible c'.position := by
    refine ⟨us, c', hus, rfl, fun u hu => ?_⟩
    cases Option.mem_unique hu ht
    exact not_admissible_of_overflows hover
  -- no reading goes past the token, so it is where the turn reaches
  have hreach : (turnAt c).reach.position = c'.position := by
    refine Nat.le_antisymm ?_ (Reach.le_noteEach_of_mem (.start c.position) hasked)
    rcases Reach.noteEach_position (.start c.position) (layers.reading statement c).asked with
      heq | ⟨e, he, heq⟩
    · exact heq ▸ (Cursor.Leads.refl c).le_of_stopsAt hstop
    · obtain ⟨c₁, hleads, hpos⟩ := (statement_over c).asked e he
      exact heq ▸ hpos ▸ hleads.le_of_stopsAt hstop
  have hnone : (turnAt c).answer = none := by
    rcases h : (turnAt c).answer with _ | ⟨s, c''⟩
    · rfl
    · obtain ⟨ts, semicolon, _, hsemicolon, htakes⟩ := statement_answer h
      have hlast := (statement_within (stopsAt_of_takes htakes (.inr hsemicolon))).2 _ hasked
      have hle := ((statement_over c).gives s c'' h).le_of_stopsAt hstop
      rw [htakes.position, List.length_append, List.length_singleton] at hle
      exact absurd hle (by omega)
  have hat : c.rest[(turnAt c).reach.position - c.position]? = some t := by
    rw [hreach, getElem?_of_takes hus]
    exact ht
  obtain ⟨s, hs, hs'⟩ := hover
  refine ⟨_, turnAt_result_of_none hnone hat, isOverflow_iff.2 ⟨?_, s, hs, hs'⟩⟩
  exact Reach.mem_noteEach_start.2 (hreach ▸ hasked)

/-- A turn stops for an overflow exactly if an operand overflows. -/
theorem turnAt_overflows_iff (c : Cursor) : (turnAt c).Overflows ↔ MeetsOverflow c :=
  ⟨meetsOverflow_of_overflows, overflows_of_meetsOverflow⟩

theorem mem_errors {turns : List Turn} {e : SyntaxError} :
    e ∈ (Program.ofTurns turns).errors ↔ ∃ turn ∈ turns, turn.result = .error e := by
  rw [Program.ofTurns, List.mem_filterMap]
  refine exists_congr fun turn => and_congr_right fun _ => ?_
  cases turn.result with
  | ok s => simp
  | error d => simp

/-- A program overflows exactly if one of its turns does. -/
theorem overflows_iff (tokens : List Token) : (Program.ofTokens tokens).overflows = true ↔
    ∃ turn ∈ turns tokens, MeetsOverflow turn.start := by
  have hturn {turn : Turn} (h : turn ∈ turns tokens) :
      turn.Overflows ↔ MeetsOverflow turn.start := by
    rw [turns_eq] at h
    obtain ⟨c, rfl, _⟩ := exists_of_mem_turnsFrom h
    exact turnAt_overflows_iff c
  rw [Program.overflows, List.any_eq_true]
  constructor
  · rintro ⟨e, he, hover⟩
    obtain ⟨turn, hmem, hresult⟩ := mem_errors.1 he
    exact ⟨turn, hmem, (hturn hmem).1 ⟨e, hresult, hover⟩⟩
  · rintro ⟨turn, hmem, hmeets⟩
    obtain ⟨e, hresult, hover⟩ := (hturn hmem).2 hmeets
    exact ⟨e, mem_errors.2 ⟨turn, hmem, hresult⟩, hover⟩

/-! ## Reading ends -/

/-- Reading comes to an end, because it goes on. -/
structure Progresses (tokens : List Token) : Prop where
  /-- The loop over the statements ends, with the turns of the program. -/
  ends : Runs (.ofTokens 0 tokens) ((turns tokens).map fun turn => (turn.start, turn.answer))
  /-- Every rule ends at every place, in one way. -/
  reads (r : Rule) (c : Cursor) : ∃! x, Peg.Reads form (.rule r) c x
  /-- A rule that is called while another is read starts after a token, or it lies lower. -/
  calls (r r' : Rule) (c c' : Cursor) (h : Peg.Calls form (form r) c r' c') :
    ∃ ts, c.Takes ts c' ∧ (ts = [] → level r' < level r)
  /-- What is repeated takes a token. -/
  repeats (r : Rule) {α : Type} (p : Form α) (h : (form r).Repeats p) {c c' : Cursor} {a : α}
    (hp : Peg.Reads form p c (some (a, c'))) : c'.rest.length < c.rest.length
  /-- What a rule leaves is the end of what it was given. -/
  leaves (r : Rule) {c c' : Cursor} {a : r.Result} (h : Peg.Reads form (.rule r) c (some (a, c'))) :
    c'.rest <:+ c.rest
  /-- Every turn takes a token, whether a statement was read or skipped. -/
  advances {c : Cursor} (hc : atEnd c.rest = false) {x : Answer Statement}
    (hx : Peg.Reads form statement c x) :
    (after c x).rest <:+ c.rest ∧ (after c x).rest.length < c.rest.length
  /-- The only thing that keeps the program from being read is an operand that overflows, wherever
  one is read. -/
  computes : (Program.ofTokens tokens).overflows = true ↔
    ∃ turn ∈ turns tokens, MeetsOverflow turn.start

theorem progresses (tokens : List Token) : Progresses tokens where
  ends := by
    rw [turns_eq]
    exact runs_turnsFrom (Nat.le_refl _)
  reads r c := ⟨_, layers.reads_answer rfl c, fun _ h => layers.answer_of_reads rfl h⟩
  calls r r' c c' h := by
    obtain ⟨ts, ht, hlevel⟩ := layers.calls_descend (layers.regular r) h
    exact ⟨ts, ht, fun hts => Nat.lt_of_lt_of_le (hlevel hts) (layers.rank_le r)⟩
  repeats r _ p h _ _ _ hp := by
    obtain ⟨ts, ht, hts⟩ := layers.takes_of_reads (h.regular (layers.regular r)) hp
    have hpos := List.length_pos_iff.2 (hts (h.nullable_eq_false (form_steady r)))
    have hlen := ht.length
    omega
  leaves r _ _ _ h := by
    obtain ⟨ts, ht, _⟩ := layers.takes_of_reads rfl h
    exact ⟨ts, ht.rest.symm⟩
  advances hc _ hx := by
    obtain ⟨ts, hts, hrest⟩ := after_takes hc hx
    have hpos := List.length_pos_iff.2 hts
    have hlen := congrArg List.length hrest
    rw [List.length_append] at hlen
    exact ⟨⟨ts, hrest.symm⟩, by omega⟩
  computes := overflows_iff tokens

end Grammar

end ModelLang
