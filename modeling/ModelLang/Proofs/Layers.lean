import ModelLang.Proofs.Reading

/-!
# ModelLang.Proofs.Layers

Grammars without left recursion. Rules lie on levels: at the place where a rule starts it refers to
rules of lower levels only, and to any rule after it has taken a token (`Layers`). What has to be
known of a grammar for this is computed from its expressions (`Peg.nullable`, `Peg.rank`,
`Peg.regular`).

Then the depth to which rules are followed does not matter, if only it is large enough for the
tokens that are left (`Layers.read_eq_reading`). What is read at all depths that are large enough is
`Layers.reading`, which satisfies the equations that a reader without depth would. Where only one
part is read, the equation holds by definition. A property of readings that goes along with these
equations holds of all of them (`Layers.induct`).
-/

namespace ModelLang

/-! ## Places along the tokens -/

namespace Cursor

/-- Some tokens lead from one place to another. -/
inductive Takes : Cursor → List Token → Cursor → Prop where
  | nil (c : Cursor) : Takes c [] c
  | cons {k : Nat} {t : Token} {rest ts : List Token} {l : Location} {c : Cursor}
      (h : Takes ⟨k + 1, rest, t.span.stop⟩ ts c) : Takes ⟨k, t :: rest, l⟩ (t :: ts) c

variable {c c' c'' : Cursor} {ts us : List Token}

theorem Takes.trans (h : c.Takes ts c') (h' : c'.Takes us c'') : c.Takes (ts ++ us) c'' := by
  induction h with
  | nil => exact h'
  | cons _ ih => exact .cons (ih h')

theorem Takes.rest (h : c.Takes ts c') : c.rest = ts ++ c'.rest := by
  induction h with
  | nil => rfl
  | cons _ ih => exact congrArg _ ih

theorem Takes.position (h : c.Takes ts c') : c'.position = c.position + ts.length := by
  induction h with
  | nil => rfl
  | cons _ ih =>
    simp only [ih, List.length_cons]
    omega

theorem Takes.length (h : c.Takes ts c') : c.rest.length = ts.length + c'.rest.length := by
  rw [h.rest, List.length_append]

/-- Of two places ahead, one is on the way to the other. -/
theorem Takes.unique (h : c.Takes ts c') (h' : c.Takes us c'')
    (hp : c'.position = c''.position) : c' = c'' := by
  have hlen : ts.length = us.length := by
    have := h.position
    have := h'.position
    omega
  clear hp
  induction h generalizing us with
  | nil =>
    cases h' with
    | nil => rfl
    | cons => cases hlen
  | cons _ ih =>
    cases h' with
    | nil => cases hlen
    | cons h' => exact ih h' (Nat.succ.inj hlen)

theorem takes_append (k : Nat) (ts rest : List Token) (l : Location) :
    ∃ c', Takes ⟨k, ts ++ rest, l⟩ ts c' ∧ c'.rest = rest := by
  induction ts generalizing k l with
  | nil => exact ⟨_, .nil _, rfl⟩
  | cons t ts ih =>
    obtain ⟨c', ht, hrest⟩ := ih (k + 1) t.span.stop
    exact ⟨c', .cons ht, hrest⟩

theorem next?_eq_some {t : Terminal} {found : Token} (h : c.next? t = some (found, c')) :
    t.fits found.lexeme = true ∧ c.Takes [found] c' := by
  obtain ⟨k, rest, l⟩ := c
  unfold next? at h
  split at h
  · rename_i x rest hrest
    cases hrest
    split at h
    · rename_i hfits
      cases h
      exact ⟨hfits, .cons (.nil _)⟩
    · cases h
  · cases h

theorem fits_eq_false {t : Terminal} {found : Token} (h : c.next? t = none)
    (hfound : found ∈ c.rest.head?) : t.fits found.lexeme = false := by
  obtain ⟨k, rest, l⟩ := c
  cases rest with
  | nil => cases hfound
  | cons x rest =>
    cases hfound
    unfold next? at h
    simp only at h
    split at h
    · cases h
    · rename_i hfits
      exact Bool.eq_false_iff.2 hfits

/-- The answer comes from one token, which fits one of the terminals in `ts`; if there is none, no
terminal fits. -/
def Offers {α : Type} (c : Cursor) (ts : List Terminal) : Answer α → Prop
  | some (_, c') => ∃ t ∈ ts, ∃ found, c.next? t = some (found, c')
  | none => ∀ t ∈ ts, c.next? t = none

theorem offers_next? (c : Cursor) (t : Terminal) : c.Offers [t] (c.next? t) := by
  rcases h : c.next? t with _ | ⟨found, c'⟩
  · exact List.forall_mem_singleton.2 h
  · exact ⟨t, List.mem_singleton_self t, found, h⟩

theorem offers_table {α : Type} (c : Cursor) (table : List (Terminal × α)) :
    c.Offers (table.map Prod.fst)
      (table.findSome? fun e => (c.next? e.1).map fun x => (e.2, x.2)) := by
  generalize h : (table.findSome? fun e => (c.next? e.1).map fun x => (e.2, x.2)) = answer
  rcases answer with _ | ⟨a, c'⟩
  · refine List.forall_mem_map.2 fun e he => ?_
    exact Option.map_eq_none_iff.1 (List.findSome?_eq_none_iff.1 h e he)
  · obtain ⟨e, he, hmap⟩ := List.exists_of_findSome?_eq_some h
    obtain ⟨⟨found, _⟩, hnext, heq⟩ := Option.map_eq_some_iff.1 hmap
    cases heq
    exact ⟨e.1, List.mem_map_of_mem he, found, hnext⟩

end Cursor

/-! ## What is known from the expressions -/

namespace Peg

variable {R : Type} {Result : R → Type} {α β : Type}

/-- Whether an expression may read without taking a token. Rules are meant to take one. -/
def nullable {α : Type} : Peg Result α → Bool
  | .token _ | .oneOf _ | .rule _ => false
  | .seq p q => p.nullable && q.nullable
  | .choice p q => p.nullable || q.nullable
  | .map _ p | .filterMap _ p | .spanned p => p.nullable
  | .opt _ | .many _ => true

/-- More than the levels of all rules that may be read first. -/
def rank (level : R → Nat) {α : Type} : Peg Result α → Nat
  | .token _ | .oneOf _ => 0
  | .seq p q => max (p.rank level) (if p.nullable then q.rank level else 0)
  | .choice p q => max (p.rank level) (q.rank level)
  | .map _ p | .filterMap _ p | .spanned p | .opt p | .many p => p.rank level
  | .rule r => level r + 1

/-- Whether no table is empty, and whatever is repeated or has a span takes a token. -/
def regular {α : Type} : Peg Result α → Bool
  | .token _ | .rule _ => true
  | .oneOf table => !table.isEmpty
  | .seq p q | .choice p q => p.regular && q.regular
  | .map _ p | .filterMap _ p | .opt p => p.regular
  | .spanned p | .many p => !p.nullable && p.regular

end Peg

/-- Levels for the rules of a grammar, below `height`. -/
structure Layers {R : Type} {Result : R → Type} (grammar : (r : R) → Peg Result (Result r)) where
  level : R → Nat
  height : Nat
  level_lt : ∀ r, level r < height
  rank_le : ∀ r, (grammar r).rank level ≤ level r
  consuming : ∀ r, (grammar r).nullable = false
  regular : ∀ r, (grammar r).regular = true

/-! ## Progress -/

namespace Reading

variable {α β : Type} {c c' : Cursor}

/-- A reading from `c` that gives something has taken tokens, at least one unless `nullable`. -/
def Proceeds (nullable : Bool) (c : Cursor) (x : Reading α) : Prop :=
  ∀ a c', x.answer = some (a, c') → ∃ ts, c.Takes ts c' ∧ (nullable = false → ts ≠ [])

theorem Proceeds.weaken {n : Bool} {x : Reading α} (h : x.Proceeds n c) : x.Proceeds true c := by
  intro a c' ha
  obtain ⟨ts, ht, _⟩ := h a c' ha
  exact ⟨ts, ht, nofun⟩

theorem Proceeds.pure {a : α} : (Reading.pure a c).Proceeds true c := by
  rintro _ _ ⟨⟩
  exact ⟨[], .nil c, nofun⟩

theorem Proceeds.ofOption {a : Option α} : (Reading.ofOption a c).Proceeds true c := by
  cases a with
  | none => exact fun _ _ h => nomatch h
  | some a => exact .pure

theorem Proceeds.ofNext {ts : List Terminal} {answer : Answer α} (h : c.Offers ts answer) :
    (Reading.ofNext c ts answer).Proceeds false c := by
  rcases answer with _ | ⟨a, c₁⟩
  · exact fun _ _ h => nomatch h
  · rintro _ _ ⟨⟩
    obtain ⟨_, _, found, hnext⟩ := h
    exact ⟨[found], (Cursor.next?_eq_some hnext).2, fun _ => List.cons_ne_nil _ _⟩

theorem Proceeds.bind {m n : Bool} {x : Reading α} {f : α → Cursor → Reading β}
    (hx : x.Proceeds m c) (hf : ∀ a c', x.answer = some (a, c') → (f a c').Proceeds n c') :
    (x.bind f).Proceeds (m && n) c := by
  intro b c'' hb
  obtain ⟨a, c', ha, hb⟩ := bind_answer_eq_some.1 hb
  obtain ⟨ts, ht, htn⟩ := hx a c' ha
  obtain ⟨us, hu, hun⟩ := hf a c' ha b c'' hb
  refine ⟨ts ++ us, ht.trans hu, fun hmn => ?_⟩
  rcases Bool.and_eq_false_iff.1 hmn with hm | hn
  · exact List.append_ne_nil_of_left_ne_nil (htn hm) us
  · exact List.append_ne_nil_of_right_ne_nil ts (hun hn)

theorem Proceeds.orElse {m n : Bool} {x y : Reading α} (hx : x.Proceeds m c)
    (hy : y.Proceeds n c) : (x.orElse y).Proceeds (m || n) c := by
  rcases h : x.answer with _ | r
  · rw [orElse_of_none h]
    intro a c' ha
    obtain ⟨ts, ht, hn⟩ := hy a c' ha
    exact ⟨ts, ht, fun hmn => hn (Bool.or_eq_false_iff.1 hmn).2⟩
  · rw [orElse_of_some h]
    intro a c' ha
    obtain ⟨ts, ht, hm⟩ := hx a c' ha
    exact ⟨ts, ht, fun hmn => hm (Bool.or_eq_false_iff.1 hmn).1⟩

theorem Proceeds.many {n : Bool} {p : Cursor → Reading α} (hp : ∀ c, (p c).Proceeds n c)
    (bound : List Token) (c : Cursor) : (many p bound c).Proceeds true c := by
  induction bound generalizing c with
  | nil =>
    rintro _ _ ⟨⟩
    exact ⟨[], .nil c, nofun⟩
  | cons t bound ih =>
    have hone : ((p c).bind fun a c => (Reading.many p bound c).bind fun as c =>
        Reading.pure (a :: as) c).Proceeds (n && true) c :=
      .bind (hp c) fun a c' _ => .bind (ih c') fun as c'' _ => .pure
    exact .weaken (.orElse hone .pure)

end Reading

namespace Peg

variable {R : Type} {Result : R → Type}

theorem read_proceeds {call : (r : R) → Cursor → Reading (Result r)}
    (hcall : ∀ r c, (call r c).Proceeds false c) {α : Type} (p : Peg Result α) (c : Cursor) :
    (p.read call c).Proceeds p.nullable c := by
  induction p generalizing c with
  | token t => exact .ofNext (c.offers_next? t)
  | oneOf table => exact .ofNext (c.offers_table table)
  | seq p q ihp ihq =>
    rw [read, nullable]
    refine .bind (ihp c) fun a c' _ => ?_
    rw [← Bool.and_true q.nullable]
    exact .bind (ihq c') fun b c'' _ => .pure
  | choice p q ihp ihq => exact .orElse (ihp c) (ihq c)
  | map f p ihp =>
    rw [read, nullable, ← Bool.and_true p.nullable]
    exact .bind (ihp c) fun a c' _ => .pure
  | filterMap f p ihp =>
    rw [read, nullable, ← Bool.and_true p.nullable]
    exact .bind (ihp c) fun a c' _ => .ofOption
  | opt p ihp =>
    rw [read]
    exact .weaken (.orElse (.bind (ihp c) fun a c' _ => .pure) .pure)
  | many p ihp => exact .many ihp c.rest c
  | spanned p ihp =>
    rw [read, nullable, ← Bool.and_true p.nullable]
    exact .bind (ihp c) fun a c' _ => .pure
  | rule r => exact hcall r c

end Peg

/-! ## The depth does not matter -/

namespace Reading

variable {α : Type} {p q : Cursor → Reading α}

theorem many_congr {n : Nat} (hp : ∀ c, (p c).Proceeds true c)
    (h : ∀ c, c.rest.length ≤ n → p c = q c) (bound : List Token) (c : Cursor)
    (hc : c.rest.length ≤ n) : many p bound c = many q bound c := by
  induction bound generalizing c with
  | nil => rw [many, many, h c hc]
  | cons t bound ih =>
    rw [many, many, ← h c hc]
    congr 1
    refine bind_congr fun a c' ha => ?_
    obtain ⟨ts, ht, _⟩ := hp c a c' ha
    have hlen := ht.length
    rw [ih c' (by omega)]

theorem many_of_none {c : Cursor} (h : (p c).answer = none) (bound : List Token) :
    many p bound c = ⟨some ([], c), (p c).asked, (p c).used⟩ := by
  cases bound with
  | nil => rfl
  | cons t bound =>
    rw [many, bind_of_none h, orElse_of_none rfl]
    simp only [Reading.pure, List.append_nil, Nat.max_zero]

theorem many_bound (hp : ∀ c, (p c).Proceeds false c) (bound more : List Token)
    (c : Cursor) (hb : c.rest.length ≤ bound.length) (hm : c.rest.length ≤ more.length) :
    many p bound c = many p more c := by
  have hshorter (c : Cursor) (a : α) (c' : Cursor) (h : (p c).answer = some (a, c')) :
      c'.rest.length < c.rest.length := by
    obtain ⟨ts, ht, hts⟩ := hp c a c' h
    have := ht.length
    have := List.length_pos_iff.2 (hts rfl)
    omega
  induction bound generalizing more c with
  | nil =>
    have hnone : (p c).answer = none := by
      rcases h : (p c).answer with _ | ⟨a, c'⟩
      · rfl
      · have := hshorter c a c' h
        simp only [List.length_nil] at hb
        omega
    rw [many_of_none hnone, many_of_none hnone]
  | cons t bound ih =>
    rcases h : (p c).answer with _ | ⟨a, c'⟩
    · rw [many_of_none h, many_of_none h]
    · have hlt := hshorter c a c' h
      cases more with
      | nil =>
        simp only [List.length_nil] at hm
        omega
      | cons u more =>
        simp only [List.length_cons] at hb hm
        rw [many, many]
        congr 1
        refine bind_congr fun b c₁ hc₁ => ?_
        have hlt₁ := hshorter c b c₁ hc₁
        rw [ih more c₁ (by omega) (by omega)]

end Reading

namespace Layers

variable {R : Type} {Result : R → Type} {grammar : (r : R) → Peg Result (Result r)}
  (L : Layers grammar) {α β : Type}

/-- A depth that is enough to read from a place. -/
def bound (p : Peg Result α) (c : Cursor) : Nat :=
  L.height * c.rest.length + p.rank L.level

theorem rank_le_height (p : Peg Result α) : p.rank L.level ≤ L.height := by
  induction p with
  | token | oneOf => exact Nat.zero_le _
  | seq p q ihp ihq =>
    rw [Peg.rank]
    split <;> omega
  | choice p q ihp ihq => exact Nat.max_le.2 ⟨ihp, ihq⟩
  | map _ _ ih | filterMap _ _ ih | opt _ ih | many _ ih | spanned _ ih => exact ih
  | rule r => exact L.level_lt r

/-- Further on, the tokens that were taken make up for all levels. -/
theorem bound_of_shorter {p : Peg Result α} {q : Peg Result β} {c c' : Cursor}
    (h : c'.rest.length < c.rest.length) : L.bound q c' ≤ L.bound p c := by
  have hq := L.rank_le_height q
  have hmul : L.height * (c'.rest.length + 1) ≤ L.height * c.rest.length :=
    Nat.mul_le_mul_left _ h
  rw [Nat.mul_succ] at hmul
  unfold bound
  omega

theorem bound_mono {p : Peg Result α} {q : Peg Result β} {c c' : Cursor}
    (hc : c'.rest.length ≤ c.rest.length) (h : q.rank L.level ≤ p.rank L.level) :
    L.bound q c' ≤ L.bound p c := by
  rcases Nat.lt_or_eq_of_le hc with hlt | heq
  · exact L.bound_of_shorter hlt
  · unfold bound
    rw [heq]
    omega

theorem bound_le_seq (p : Peg Result α) (q : Peg Result β) (c : Cursor) :
    L.bound p c ≤ L.bound (.seq p q) c :=
  L.bound_mono (Nat.le_refl _) (Nat.le_max_left _ _)

theorem bound_le_choice (p q : Peg Result α) (c : Cursor) :
    L.bound p c ≤ L.bound (.choice p q) c ∧ L.bound q c ≤ L.bound (.choice p q) c :=
  ⟨L.bound_mono (Nat.le_refl _) (Nat.le_max_left _ _),
    L.bound_mono (Nat.le_refl _) (Nat.le_max_right _ _)⟩

/-- What a rule stands for lies below the rule. -/
theorem bound_rule (r : R) (c : Cursor) :
    L.bound (grammar r) c < L.bound (.rule r : Peg Result (Result r)) c :=
  Nat.add_lt_add_left (Nat.lt_succ_of_le (L.rank_le r)) _

/-- The second part of a sequence starts further on, or the first part may take nothing. -/
theorem bound_seq {p : Peg Result α} {q : Peg Result β} {x : Reading α} {c c' : Cursor} {a : α}
    (hx : x.Proceeds p.nullable c) (ha : x.answer = some (a, c')) :
    L.bound q c' ≤ L.bound (.seq p q) c := by
  obtain ⟨ts, ht, hts⟩ := hx a c' ha
  have hlen := ht.length
  cases hn : p.nullable with
  | false =>
    have := List.length_pos_iff.2 (hts hn)
    exact L.bound_of_shorter (by omega)
  | true =>
    refine L.bound_mono (by omega) ?_
    rw [Peg.rank, hn, if_pos rfl]
    exact Nat.le_max_right _ _

include L in
theorem readRule_proceeds (depth : Nat) (r : R) (c : Cursor) :
    (Peg.readRule grammar depth r c).Proceeds false c := by
  induction depth generalizing r c with
  | zero => exact fun _ _ h => nomatch h
  | succ depth ih =>
    rw [← L.consuming r]
    exact Peg.read_proceeds ih (grammar r) c

theorem read_congr {call call' : (r : R) → Cursor → Reading (Result r)} {p : Peg Result α}
    {c : Cursor} (hcall : ∀ r c, (call r c).Proceeds false c)
    (h : ∀ r c', L.bound (.rule r : Peg Result (Result r)) c' ≤ L.bound p c →
      call r c' = call' r c') :
    p.read call c = p.read call' c := by
  induction p generalizing c with
  | token | oneOf => rfl
  | seq p q ihp ihq =>
    have hp : p.read call c = p.read call' c :=
      ihp fun r c' hr => h r c' (Nat.le_trans hr (L.bound_le_seq p q c))
    rw [Peg.read, Peg.read, ← hp]
    refine Reading.bind_congr fun a c' ha => ?_
    have hproceeds := Peg.read_proceeds hcall p c
    rw [ihq fun r c'' hr => h r c'' (Nat.le_trans hr (L.bound_seq hproceeds ha))]
  | choice p q ihp ihq =>
    obtain ⟨hlep, hleq⟩ := L.bound_le_choice p q c
    have hp : p.read call c = p.read call' c :=
      ihp fun r c' hr => h r c' (Nat.le_trans hr hlep)
    have hq : q.read call c = q.read call' c :=
      ihq fun r c' hr => h r c' (Nat.le_trans hr hleq)
    rw [Peg.read, Peg.read, hp, hq]
  | map f p ih => rw [Peg.read, Peg.read, ih h]
  | filterMap f p ih => rw [Peg.read, Peg.read, ih h]
  | opt p ih => rw [Peg.read, Peg.read, ih h]
  | spanned p ih => rw [Peg.read, Peg.read, ih h]
  | many p ih =>
    refine Reading.many_congr (fun c => (Peg.read_proceeds hcall p c).weaken)
      (fun c' hc' => ih fun r c'' hr => h r c'' (Nat.le_trans hr ?_)) c.rest c (Nat.le_refl _)
    exact L.bound_mono hc' (Nat.le_refl _)
  | rule r => exact h r c (Nat.le_refl _)

theorem readRule_depth {d e : Nat} {r : R} {c : Cursor}
    (hd : L.bound (.rule r : Peg Result (Result r)) c ≤ d)
    (he : L.bound (.rule r : Peg Result (Result r)) c ≤ e) :
    Peg.readRule grammar d r c = Peg.readRule grammar e r c := by
  induction d generalizing e r c with
  | zero => exact absurd hd (Nat.not_succ_le_zero _)
  | succ d ih =>
    cases e with
    | zero => exact absurd he (Nat.not_succ_le_zero _)
    | succ e =>
      have hstep := L.bound_rule r c
      rw [Peg.readRule, Peg.readRule]
      refine L.read_congr (L.readRule_proceeds d) fun r' c' hr => ?_
      exact ih (by omega) (by omega)

/-! ## Reading at any depth that is enough -/

/-- What an expression reads when rules may stand inside one another as deeply as they do. -/
def reading (p : Peg Result α) (c : Cursor) : Reading α :=
  p.read (Peg.readRule grammar (L.bound p c)) c

theorem read_eq_reading {p : Peg Result α} {c : Cursor} {d : Nat} (hd : L.bound p c ≤ d) :
    p.read (Peg.readRule grammar d) c = L.reading p c :=
  L.read_congr (L.readRule_proceeds d) fun _ _ hr =>
    L.readRule_depth (Nat.le_trans hr hd) hr

theorem reading_proceeds (p : Peg Result α) (c : Cursor) :
    (L.reading p c).Proceeds p.nullable c :=
  Peg.read_proceeds (L.readRule_proceeds _) p c

theorem reading_shorter {p : Peg Result α} {c c' : Cursor} {a : α} (hp : p.nullable = false)
    (ha : (L.reading p c).answer = some (a, c')) : c'.rest.length < c.rest.length := by
  obtain ⟨ts, ht, hts⟩ := L.reading_proceeds p c a c' ha
  have hlen := ht.length
  have := List.length_pos_iff.2 (hts hp)
  omega

section Equations

variable (p : Peg Result α) (q : Peg Result β) (c : Cursor)

theorem reading_token (t : Terminal) :
    L.reading (.token t) c = .ofNext c [t] (c.next? t) := rfl

theorem reading_rule (r : R) : L.reading (.rule r) c = L.reading (grammar r) c := by
  have hbound : L.bound (.rule r : Peg Result (Result r)) c =
      L.height * c.rest.length + L.level r + 1 := rfl
  rw [reading, hbound, Peg.read, Peg.readRule]
  exact L.read_eq_reading (Nat.add_le_add_left (L.rank_le r) _)

theorem reading_seq : L.reading (.seq p q) c =
    (L.reading p c).bind fun a c => (L.reading q c).bind fun b c => .pure (a, b) c := by
  have hp : p.read (Peg.readRule grammar (L.bound (.seq p q) c)) c = L.reading p c :=
    L.read_eq_reading (L.bound_le_seq p q c)
  rw [reading, Peg.read, hp]
  refine Reading.bind_congr fun a c' ha => ?_
  rw [L.read_eq_reading (L.bound_seq (L.reading_proceeds p c) ha)]

theorem reading_choice (p q : Peg Result α) :
    L.reading (.choice p q) c = (L.reading p c).orElse (L.reading q c) := by
  obtain ⟨hlep, hleq⟩ := L.bound_le_choice p q c
  have hp : p.read (Peg.readRule grammar (L.bound (.choice p q) c)) c = L.reading p c :=
    L.read_eq_reading hlep
  have hq : q.read (Peg.readRule grammar (L.bound (.choice p q) c)) c = L.reading q c :=
    L.read_eq_reading hleq
  rw [reading, Peg.read, hp, hq]

theorem reading_opt : L.reading (.opt p) c =
    ((L.reading p c).bind fun a c => .pure (some a) c).orElse (.pure none c) := rfl

theorem reading_many (hp : p.nullable = false) : L.reading (.many p) c =
    ((L.reading p c).bind fun a c => (L.reading (.many p) c).bind fun as c =>
      .pure (a :: as) c).orElse (.pure [] c) := by
  have hproceeds (d : Nat) (c : Cursor) :
      (p.read (Peg.readRule grammar d) c).Proceeds false c :=
    hp ▸ Peg.read_proceeds (L.readRule_proceeds d) p c
  let d := L.bound (.many p) c
  have hunfold (more : List Token) (c' : Cursor) (hc : L.bound (.many p) c' ≤ d)
      (hmore : c'.rest.length ≤ more.length) :
      Reading.many (p.read (Peg.readRule grammar d)) more c' = L.reading (.many p) c' := by
    rw [Reading.many_bound (hproceeds d) more c'.rest c' hmore (Nat.le_refl _)]
    exact L.read_eq_reading hc
  rw [← hunfold (default :: c.rest) c (Nat.le_refl _) (Nat.le_succ _), Reading.many]
  congr 1
  rw [show p.read (Peg.readRule grammar d) c = L.reading p c from rfl]
  refine Reading.bind_congr fun a c' ha => ?_
  obtain ⟨ts, ht, _⟩ := hproceeds d c a c' ha
  have hlen := ht.length
  rw [hunfold c.rest c' (L.bound_mono (by omega) (Nat.le_refl _)) (by omega)]

end Equations

/-! ## Induction -/

/-- What holds of an expression at a place, if it holds of its parts where they are read, holds of
every expression at every place. A repeated part is read once and then repeated further on. -/
theorem induct {motive : {α : Type} → Peg Result α → Cursor → Prop}
    (token : ∀ t c, motive (.token t) c)
    (oneOf : ∀ {α : Type} (table : List (Terminal × α)) c, table ≠ [] → motive (.oneOf table) c)
    (seq : ∀ {α β : Type} (p : Peg Result α) (q : Peg Result β) c, motive p c →
      (∀ a c', (L.reading p c).answer = some (a, c') → motive q c') → motive (.seq p q) c)
    (choice : ∀ {α : Type} (p q : Peg Result α) c, motive p c → motive q c →
      motive (.choice p q) c)
    (map : ∀ {α β : Type} (f : α → β) (p : Peg Result α) c, motive p c → motive (.map f p) c)
    (filterMap : ∀ {α β : Type} (f : α → Option β) (p : Peg Result α) c, motive p c →
      motive (.filterMap f p) c)
    (opt : ∀ {α : Type} (p : Peg Result α) c, motive p c → motive (.opt p) c)
    (many : ∀ {α : Type} (p : Peg Result α) c, p.nullable = false → motive p c →
      (∀ a c', (L.reading p c).answer = some (a, c') → motive (.many p) c') →
      motive (.many p) c)
    (spanned : ∀ {α : Type} (p : Peg Result α) c, p.nullable = false → motive p c →
      motive (.spanned p) c)
    (rule : ∀ r c, motive (grammar r) c → motive (.rule r) c)
    {α : Type} (p : Peg Result α) (hp : p.regular = true) (c : Cursor) : motive p c := by
  suffices h : ∀ (n : Nat) {α : Type} (p : Peg Result α), p.regular = true →
      ∀ c, L.bound p c ≤ n → motive p c from h _ p hp c (Nat.le_refl _)
  intro n
  -- on the depth outside, for the rules, and on the expression inside
  induction n using Nat.strongRecOn with
  | _ n ihn =>
    intro α p hp
    induction p with
    | token t => exact fun c _ => token t c
    | oneOf table =>
      intro c _
      refine oneOf table c ?_
      rintro rfl
      cases hp
    | seq p q ihp ihq =>
      intro c hc
      obtain ⟨hp, hq⟩ := Bool.and_eq_true_iff.1 hp
      refine seq p q c (ihp hp c ?_) fun a c' ha => ihq hq c' ?_
      · exact Nat.le_trans (L.bound_le_seq p q c) hc
      · exact Nat.le_trans (L.bound_seq (L.reading_proceeds p c) ha) hc
    | choice p q ihp ihq =>
      intro c hc
      obtain ⟨hp, hq⟩ := Bool.and_eq_true_iff.1 hp
      obtain ⟨hlep, hleq⟩ := L.bound_le_choice p q c
      exact choice p q c (ihp hp c (Nat.le_trans hlep hc)) (ihq hq c (Nat.le_trans hleq hc))
    | map f p ih => exact fun c hc => map f p c (ih hp c hc)
    | filterMap f p ih => exact fun c hc => filterMap f p c (ih hp c hc)
    | opt p ih => exact fun c hc => opt p c (ih hp c hc)
    | spanned p ih =>
      intro c hc
      obtain ⟨hnull, hp⟩ := Bool.and_eq_true_iff.1 hp
      exact spanned p c (Bool.not_eq_true' _ ▸ hnull) (ih hp c hc)
    | many p ih =>
      obtain ⟨hnull, hp⟩ := Bool.and_eq_true_iff.1 hp
      rw [Bool.not_eq_true'] at hnull
      -- on the tokens that are left, for the further readings
      have hmany (k : Nat) (c : Cursor) (hk : c.rest.length < k) (hc : L.bound p c ≤ n) :
          motive (.many p) c := by
        induction k generalizing c with
        | zero => exact absurd hk (Nat.not_lt_zero _)
        | succ k ihk =>
          refine many p c hnull (ih hp c hc) fun a c' ha => ?_
          have hlt := L.reading_shorter hnull ha
          exact ihk c' (by omega) (Nat.le_trans (L.bound_of_shorter hlt) hc)
      exact fun c hc => hmany _ c (Nat.lt_succ_self _) hc
    | rule r =>
      intro c hc
      have hstep := L.bound_rule r c
      exact rule r c (ihn _ (Nat.lt_of_lt_of_le hstep hc) _ (L.regular r) c (Nat.le_refl _))

end Layers

end ModelLang
