import ModelLang.Proofs.Lookahead

/-!
# ModelLang.Proofs.Parallel

Two readings of one expression side by side. They start before the same tokens, up to position `k`
of the first, from where on other tokens follow; the second is `d` positions further on in its
tokens. Suppose that the first takes no token from `k` on. Then the second gives the same and asks
for the same (`Reading.Agrees`), or it takes the token at `k`, which fits a terminal that the first
one asked for there in vain (`Reading.Parts`). There is no third (`Layers.reading_keeps`).
-/

namespace ModelLang

/-! ## Places side by side -/

section Places

variable (d k : Nat) (v v' : List Token)

/-- Ahead of both places are the same tokens, up to position `k` of the first; then come `v` and
`v'`. -/
def Cursor.Beside (c c' : Cursor) : Prop :=
  ∃ u, c.rest = u ++ v ∧ c'.rest = u ++ v' ∧ c.position + u.length = k ∧
    c'.position = c.position + d ∧ c'.before = c.before

/-- The same value, and then places side by side, or nothing on both sides. -/
def Answer.Beside {α : Type} : Answer α → Answer α → Prop :=
  Option.Rel fun r r' => r'.1 = r.1 ∧ r.2.Beside d k v v' r'.2

end Places

variable {d k : Nat} {v v' : List Token}

theorem Answer.Beside.isSome_eq {α : Type} {a a' : Answer α} (h : a.Beside d k v v' a') :
    a'.isSome = a.isSome := by
  cases h <;> rfl

namespace Cursor

variable {c c' : Cursor}

theorem Beside.position (h : c.Beside d k v v' c') : c'.position = c.position + d := by
  obtain ⟨_, _, _, _, hd, _⟩ := h
  exact hd

theorem Beside.before (h : c.Beside d k v v' c') : c'.before = c.before := by
  obtain ⟨_, _, _, _, _, hb⟩ := h
  exact hb

theorem Beside.position_le (h : c.Beside d k v v' c') : c.position ≤ k := by
  obtain ⟨u, _, _, hk, _⟩ := h
  omega

theorem Beside.ahead (h : c.Beside d k v v' c') (hlt : c.position < k) :
    ∃ i found u before, c = ⟨i, found :: (u ++ v), before⟩ ∧
      c' = ⟨i + d, found :: (u ++ v'), before⟩ ∧ i + 1 + u.length = k := by
  obtain ⟨i, rest, before⟩ := c
  obtain ⟨i', rest', before'⟩ := c'
  obtain ⟨u, hrest, hrest', hk, hi, hbefore⟩ := h
  simp only at hrest hrest' hk hi hbefore hlt
  subst hrest hrest' hi hbefore
  cases u with
  | nil =>
    simp only [List.length_nil] at hk
    omega
  | cons found u =>
    simp only [List.length_cons] at hk
    exact ⟨i, found, u, _, rfl, rfl, by omega⟩

theorem Beside.next? (h : c.Beside d k v v' c') (hlt : c.position < k) (t : Terminal) :
    Answer.Beside d k v v' (c.next? t) (c'.next? t) := by
  obtain ⟨i, found, u, before, rfl, rfl, hk⟩ := h.ahead hlt
  rw [Cursor.next?, Cursor.next?]
  simp only
  split
  · exact .some ⟨rfl, u, rfl, rfl, hk, Nat.add_right_comm i d 1, rfl⟩
  · exact .none

theorem Beside.start (h : c.Beside d k v v' c') (hlt : c.position < k) : c'.start = c.start := by
  obtain ⟨i, found, u, before, rfl, rfl, _⟩ := h.ahead hlt
  rfl

theorem Beside.spanTo {r r' : Cursor} (h : c.Beside d k v v' c') (hr : r.Beside d k v v' r')
    (hlt : c.position < k) : c'.spanTo r' = c.spanTo r := by
  have hpos : c'.position < r'.position ↔ c.position < r.position := by
    rw [h.position, hr.position]
    omega
  simp only [Cursor.spanTo, h.start hlt, hr.before, hpos]

theorem Beside.at_end (h : c.Beside d k v v' c') (heq : c.position = k) : c'.rest = v' := by
  obtain ⟨u, _, hrest, hk, _⟩ := h
  have hu : u = [] := List.length_eq_zero_iff.1 (by omega)
  rw [hrest, hu, List.nil_append]

end Cursor

/-! ## Readings side by side -/

/-- The same request in tokens that start `d` positions further on. -/
def Request.shift (d : Nat) (e : Request) : Request :=
  (e.1 + d, e.2)

theorem Reach.note_shift (reach : Reach) (i : Nat) (t : Terminal) :
    Reach.note ⟨reach.position + d, reach.expected⟩ (i + d) t =
      ⟨(reach.note i t).position + d, (reach.note i t).expected⟩ := by
  unfold Reach.note
  simp only [Nat.add_lt_add_iff_right]
  split
  · rfl
  · split
    · rfl
    · split <;> rfl

theorem Reach.noteEach_shift (reach : Reach) (asked : List Request) :
    Reach.noteEach ⟨reach.position + d, reach.expected⟩ (asked.map (Request.shift d)) =
      ⟨(reach.noteEach asked).position + d, (reach.noteEach asked).expected⟩ := by
  induction asked generalizing reach with
  | nil => rfl
  | cons e asked ih =>
    rw [List.map_cons, noteEach_cons, noteEach_cons, ← ih, Request.shift, note_shift]

namespace Reading

variable {α β : Type} {x x' y y' : Reading α}

section Notions

variable (d k : Nat) (v v' : List Token)

/-- Both readings give the same and ask for the same. Nothing that they ask for at `k` fits what
comes there in the second. -/
structure Agrees (x x' : Reading α) : Prop where
  answer : Answer.Beside d k v v' x.answer x'.answer
  asked : x'.asked = x.asked.map (Request.shift d)
  misses : ∀ e ∈ x.asked, e.1 = k → ∀ t ∈ v'.head?, e.2.fits t.lexeme = false

/-- The second reading takes a token at `k`. It fits what the first one asked for there in vain. -/
def Parts (x x' : Reading α) : Prop :=
  k + d < x'.used ∧ ∃ e ∈ x.asked, e.1 = k ∧ ∃ t ∈ v'.head?, e.2.fits t.lexeme = true

/-- If the first reading takes no token from `k` on, the second agrees with it or parts from it. -/
def Keeps (x x' : Reading α) : Prop :=
  x.used ≤ k → Agrees d k v v' x x' ∨ Parts d k v' x x'

end Notions

theorem Keeps.pure {a : α} {c c' : Cursor} (h : c.Beside d k v v' c') :
    Keeps d k v v' (.pure a c) (.pure a c') :=
  fun _ => .inl ⟨.some ⟨rfl, h⟩, rfl, nofun⟩

theorem Keeps.ofOption {a : Option α} {c c' : Cursor} (h : c.Beside d k v v' c') :
    Keeps d k v v' (.ofOption a c) (.ofOption a c') := by
  cases a with
  | none => exact fun _ => .inl ⟨.none, rfl, nofun⟩
  | some a => exact .pure h

theorem Keeps.ofNext {ts : List Terminal} {a a' : Answer α} {c c' : Cursor}
    (h : c.Beside d k v v' c') (ha : c.Offers ts a) (ha' : c'.Offers ts a')
    (hbefore : c.position < k → a.Beside d k v v' a') :
    Keeps d k v v' (.ofNext c ts a) (.ofNext c' ts a') := by
  intro hused
  have hasked : (ts.map fun t => (c'.position, t)) =
      (ts.map fun t => (c.position, t)).map (Request.shift d) := by
    rw [List.map_map, h.position]
    rfl
  rcases Nat.lt_or_eq_of_le h.position_le with hlt | heq
  · cases hbefore hlt with
    | none =>
      refine .inl ⟨.none, hasked, List.forall_mem_map.2 fun t _ he => ?_⟩
      exact absurd he (Nat.ne_of_lt hlt)
    | some hr => exact .inl ⟨.some hr, rfl, nofun⟩
  · rcases a with _ | ⟨b, r⟩
    · rcases a' with _ | ⟨b', r'⟩
      · refine .inl ⟨.none, hasked, List.forall_mem_map.2 fun t ht _ found hfound => ?_⟩
        exact Cursor.fits_eq_false (ha' t ht) (h.at_end heq ▸ hfound)
      · obtain ⟨t, ht, found, hnext⟩ := ha'
        obtain ⟨hfits, htakes⟩ := Cursor.next?_eq_some hnext
        refine .inr ⟨?_, (c.position, t), List.mem_map_of_mem ht, heq, found, ?_, hfits⟩
        · show k + d < r'.position
          rw [htakes.position, h.position, heq]
          exact Nat.lt_succ_self _
        · rw [← h.at_end heq, htakes.rest]
          rfl
    · obtain ⟨_, _, _, hnext⟩ := ha
      have hr : r.position = c.position + 1 := (Cursor.next?_eq_some hnext).2.position
      have : r.position ≤ k := hused
      omega

theorem Parts.bind {f g : α → Cursor → Reading β} (h : Parts d k v' x x') :
    Parts d k v' (x.bind f) (x'.bind g) := by
  obtain ⟨hused, e, he, hfits⟩ := h
  exact ⟨Nat.lt_of_lt_of_le hused (used_le_bind x' g), e, asked_subset_bind x f he, hfits⟩

theorem Parts.orElse (h : Parts d k v' x x') : Parts d k v' (x.orElse y) (x'.orElse y') := by
  obtain ⟨hused, e, he, hfits⟩ := h
  exact ⟨Nat.lt_of_lt_of_le hused (used_le_orElse x' y'), e, asked_subset_orElse x y he, hfits⟩

/-- What follows on two readings that agree decides. -/
theorem Agrees.followed {z z' : Reading β} {answer answer' : Answer β} (h : Agrees d k v v' x x')
    (hz : Agrees d k v v' z z' ∨ Parts d k v' z z') (ha : z.answer = answer)
    (ha' : z'.answer = answer') :
    Agrees d k v v' ⟨answer, x.asked ++ z.asked, max x.used z.used⟩
        ⟨answer', x'.asked ++ z'.asked, max x'.used z'.used⟩ ∨
      Parts d k v' (⟨answer, x.asked ++ z.asked, max x.used z.used⟩ : Reading β)
        ⟨answer', x'.asked ++ z'.asked, max x'.used z'.used⟩ := by
  subst ha ha'
  rcases hz with hz | ⟨hused, e, he, hfits⟩
  · refine .inl ⟨hz.answer, ?_, List.forall_mem_append.2 ⟨h.misses, hz.misses⟩⟩
    simp only [h.asked, hz.asked, List.map_append]
  · exact .inr ⟨Nat.lt_of_lt_of_le hused (Nat.le_max_right _ _), e,
      List.mem_append_right _ he, hfits⟩

theorem Keeps.bind {f g : α → Cursor → Reading β} (hx : Keeps d k v v' x x')
    (hf : ∀ a r r', x.answer = some (a, r) → r.Beside d k v v' r' →
      Keeps d k v v' (f a r) (g a r')) :
    Keeps d k v v' (x.bind f) (x'.bind g) := by
  intro hused
  rcases hx (Nat.le_trans (used_le_bind x f) hused) with h | h
  · have hanswer := h.answer
    rcases ha : x.answer with _ | ⟨a, r⟩ <;> rcases ha' : x'.answer with _ | ⟨a', r'⟩ <;>
      rw [ha, ha'] at hanswer
    · rw [bind_of_none ha, bind_of_none ha']
      exact .inl ⟨.none, h.asked, h.misses⟩
    · cases hanswer
    · cases hanswer
    · obtain ⟨⟨⟩, hr⟩ := hanswer
      rw [bind_of_some ha] at hused ⊢
      rw [bind_of_some ha']
      have hz := hf a r r' ha hr (Nat.le_trans (Nat.le_max_right _ _) hused)
      exact h.followed hz rfl rfl
  · exact .inr h.bind

theorem Keeps.orElse (hx : Keeps d k v v' x x') (hy : Keeps d k v v' y y') :
    Keeps d k v v' (x.orElse y) (x'.orElse y') := by
  intro hused
  rcases hx (Nat.le_trans (used_le_orElse x y) hused) with h | h
  · have hanswer := h.answer
    rcases ha : x.answer with _ | r <;> rcases ha' : x'.answer with _ | r' <;>
      rw [ha, ha'] at hanswer
    · rw [orElse_of_none ha] at hused ⊢
      rw [orElse_of_none ha']
      exact h.followed (hy (Nat.le_trans (Nat.le_max_right _ _) hused)) rfl rfl
    · cases hanswer
    · cases hanswer
    · rw [orElse_of_some ha, orElse_of_some ha']
      exact .inl h
  · exact .inr h.orElse

end Reading

namespace Layers

variable {R : Type} {Result : R → Type} {grammar : (r : R) → Peg Result (Result r)}
  (L : Layers grammar) {α : Type}

theorem table_beside {table : List (Terminal × α)} {c c' : Cursor} (h : c.Beside d k v v' c')
    (hlt : c.position < k) :
    Answer.Beside d k v v'
      (table.findSome? fun e => (c.next? e.1).map fun x => (e.2, x.2))
      (table.findSome? fun e => (c'.next? e.1).map fun x => (e.2, x.2)) := by
  induction table with
  | nil => exact .none
  | cons e table ih =>
    rw [List.findSome?_cons, List.findSome?_cons]
    rcases hx : c.next? e.1 with _ | ⟨found, r⟩ <;>
      rcases hx' : c'.next? e.1 with _ | ⟨found', r'⟩ <;>
      have hnext := h.next? hlt e.1 <;> rw [hx, hx'] at hnext
    · exact ih
    · cases hnext
    · cases hnext
    · obtain ⟨_, hr⟩ := hnext
      exact .some ⟨rfl, hr⟩

/-- By induction along the first reading. -/
theorem reading_keeps {p : Peg Result α} (hreg : p.regular = true) {c c' : Cursor}
    (h : c.Beside d k v v' c') :
    Reading.Keeps d k v v' (L.reading p c) (L.reading p c') := by
  revert c'
  refine L.induct (motive := fun p c => ∀ {c'}, c.Beside d k v v' c' →
      Reading.Keeps d k v v' (L.reading p c) (L.reading p c'))
    ?token ?oneOf ?seq ?choice ?map ?filterMap ?opt ?many ?spanned ?rule p hreg c
  case token =>
    exact fun t c c' h => .ofNext h (c.offers_next? t) (c'.offers_next? t) fun hlt => h.next? hlt t
  case oneOf =>
    exact fun table c _ c' h =>
      .ofNext h (c.offers_table table) (c'.offers_table table) (table_beside h)
  case seq =>
    intro _ _ p q c ihp ihq c' h
    rw [L.reading_seq, L.reading_seq]
    exact .bind (ihp h) fun a r r' ha hr => .bind (ihq a r ha hr) fun _ _ _ _ hs => .pure hs
  case choice =>
    intro _ p q c ihp ihq c' h
    rw [L.reading_choice, L.reading_choice]
    exact .orElse (ihp h) (ihq h)
  case map => exact fun f p c ih c' h => .bind (ih h) fun _ _ _ _ hr => .pure hr
  case filterMap => exact fun f p c ih c' h => .bind (ih h) fun _ _ _ _ hr => .ofOption hr
  case opt =>
    exact fun p c ih c' h => .orElse (.bind (ih h) fun _ _ _ _ hr => .pure hr) (.pure h)
  case many =>
    intro _ p c hnull ih ihmany c' h
    rw [L.reading_many p c hnull, L.reading_many p c' hnull]
    refine .orElse (.bind (ih h) fun a r r' ha hr => ?_) (.pure h)
    exact .bind (ihmany a r ha hr) fun _ _ _ _ hs => .pure hs
  case spanned =>
    intro _ p c hnull ih c' h
    refine .bind (ih h) fun a r r' ha hr => ?_
    -- a token was taken, so that the span starts before position `k`
    obtain ⟨ts, ht, hts⟩ := L.reading_proceeds p c a r ha
    have hlt : c.position < k := by
      have hpos := ht.position
      have hlen := List.length_pos_iff.2 (hts hnull)
      have hle := hr.position_le
      omega
    rw [h.spanTo hr hlt]
    exact .pure hr
  case rule =>
    intro r c ih c' h
    rw [L.reading_rule, L.reading_rule]
    exact ih h

end Layers

end ModelLang
