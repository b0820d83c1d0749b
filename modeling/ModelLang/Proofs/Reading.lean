import ModelLang.Grammar.Peg

/-!
# ModelLang.Proofs.Reading

What a parsing expression reads at a place, apart from the reach so far. A `Reading` has the answer,
the terminals that were asked for in vain, in order, and the furthest token that was taken. A reach
covers the requests that leave it as it is, and among them are all that were noted before.
-/

namespace ModelLang

/-- A terminal that was asked for in vain, after the position where it was asked for. -/
abbrev Request := Nat × Terminal

/-! ## Noting requests -/

namespace Reach

variable {reach : Reach} {e : Request}

def noteEach (reach : Reach) (asked : List Request) : Reach :=
  asked.foldl (fun r e => r.note e.1 e.2) reach

@[simp] theorem noteEach_cons (reach : Reach) (e : Request) (asked : List Request) :
    reach.noteEach (e :: asked) = (reach.note e.1 e.2).noteEach asked := rfl

@[simp] theorem noteEach_append (reach : Reach) (asked more : List Request) :
    reach.noteEach (asked ++ more) = (reach.noteEach asked).noteEach more :=
  List.foldl_append

theorem noteAll_eq_noteEach (reach : Reach) (position : Nat) (ts : List Terminal) :
    reach.noteAll position ts = reach.noteEach (ts.map fun t => (position, t)) := by
  rw [noteAll, noteEach, List.foldl_map]

/-- The request comes before the reach, or is one of those at the reach. -/
def Covers (reach : Reach) (e : Request) : Prop :=
  e.1 < reach.position ∨ e.1 = reach.position ∧ e.2 ∈ reach.expected

/-- All that noting a request can do. -/
theorem note_cases (reach : Reach) (position : Nat) (t : Terminal) :
    (reach.Covers (position, t) ∧ reach.note position t = reach) ∨
      (reach.position < position ∧ reach.note position t = ⟨position, [t]⟩) ∨
      (reach.position = position ∧ reach.note position t = ⟨position, t :: reach.expected⟩) := by
  unfold note Covers
  split
  · rename_i hlt
    exact .inl ⟨.inl hlt, rfl⟩
  split
  · rename_i hlt
    exact .inr (.inl ⟨hlt, rfl⟩)
  have heq : reach.position = position := by omega
  split
  · rename_i hmem
    exact .inl ⟨.inr ⟨heq.symm, hmem⟩, rfl⟩
  · exact .inr (.inr ⟨heq, rfl⟩)

theorem note_of_covers (h : reach.Covers e) : reach.note e.1 e.2 = reach := by
  unfold note
  rcases h with hlt | ⟨heq, hmem⟩
  · rw [if_pos hlt]
  · rw [if_neg (by omega), if_neg (by omega), if_pos hmem]

theorem covers_note (reach : Reach) (e : Request) : (reach.note e.1 e.2).Covers e := by
  rcases reach.note_cases e.1 e.2 with ⟨hc, h⟩ | ⟨_, h⟩ | ⟨_, h⟩
  · rw [h]
    exact hc
  · rw [h]
    exact .inr ⟨rfl, List.mem_singleton_self _⟩
  · rw [h]
    exact .inr ⟨rfl, List.mem_cons_self⟩

theorem Covers.note (h : reach.Covers e) (position : Nat) (t : Terminal) :
    (reach.note position t).Covers e := by
  rcases reach.note_cases position t with ⟨_, hn⟩ | ⟨hlt, hn⟩ | ⟨heq, hn⟩
  · rwa [hn]
  · rw [hn]
    refine .inl ?_
    rcases h with h | ⟨h, _⟩ <;> simp only <;> omega
  · rw [hn]
    rcases h with h | ⟨h, hmem⟩
    · exact .inl (heq ▸ h)
    · exact .inr ⟨h.trans heq, List.mem_cons_of_mem _ hmem⟩

theorem Covers.noteEach (h : reach.Covers e) (asked : List Request) :
    (reach.noteEach asked).Covers e := by
  induction asked generalizing reach with
  | nil => exact h
  | cons d asked ih => exact ih (h.note d.1 d.2)

theorem covers_noteEach (reach : Reach) {asked : List Request} (he : e ∈ asked) :
    (reach.noteEach asked).Covers e := by
  induction asked generalizing reach with
  | nil => cases he
  | cons d asked ih =>
    rcases List.mem_cons.1 he with rfl | he
    · exact (covers_note reach e).noteEach asked
    · exact ih _ he

theorem noteEach_of_covers {asked : List Request} (h : ∀ e ∈ asked, reach.Covers e) :
    reach.noteEach asked = reach := by
  induction asked with
  | nil => rfl
  | cons e asked ih =>
    rw [noteEach_cons, note_of_covers (h e List.mem_cons_self)]
    exact ih fun d hd => h d (List.mem_cons_of_mem _ hd)

theorem le_noteEach (reach : Reach) (asked : List Request) :
    reach.position ≤ (reach.noteEach asked).position := by
  induction asked generalizing reach with
  | nil => exact Nat.le_refl _
  | cons d asked ih =>
    rw [noteEach_cons]
    refine Nat.le_trans ?_ (ih _)
    rcases reach.note_cases d.1 d.2 with ⟨_, h⟩ | ⟨hlt, h⟩ | ⟨heq, h⟩
    · exact Nat.le_of_eq (congrArg Reach.position h).symm
    · rw [h]
      exact Nat.le_of_lt hlt
    · rw [h]
      exact Nat.le_of_eq heq

theorem le_noteEach_of_mem (reach : Reach) {asked : List Request} (he : e ∈ asked) :
    e.1 ≤ (reach.noteEach asked).position := by
  rcases covers_noteEach reach he with h | ⟨h, _⟩
  · exact Nat.le_of_lt h
  · exact Nat.le_of_eq h

theorem mem_noteEach {asked : List Request} {t : Terminal}
    (h : t ∈ (reach.noteEach asked).expected) :
    ((reach.noteEach asked).position, t) ∈ asked ∨
      (reach.noteEach asked).position = reach.position ∧ t ∈ reach.expected := by
  induction asked generalizing reach with
  | nil => exact .inr ⟨rfl, h⟩
  | cons d asked ih =>
    rw [noteEach_cons] at h ⊢
    rcases ih h with hmem | ⟨hpos, ht⟩
    · exact .inl (List.mem_cons_of_mem _ hmem)
    · rw [hpos]
      rcases reach.note_cases d.1 d.2 with ⟨_, hn⟩ | ⟨_, hn⟩ | ⟨heq, hn⟩ <;> rw [hn] at ht ⊢
      · exact .inr ⟨rfl, ht⟩
      · rw [List.mem_singleton.1 ht]
        exact .inl List.mem_cons_self
      · rcases List.mem_cons.1 ht with rfl | ht
        · exact .inl List.mem_cons_self
        · exact .inr ⟨heq.symm, ht⟩

/-- From the start on, exactly what was asked for at the furthest position is expected. -/
theorem mem_noteEach_start {n : Nat} {asked : List Request} {t : Terminal} :
    t ∈ ((start n).noteEach asked).expected ↔ (((start n).noteEach asked).position, t) ∈ asked := by
  constructor
  · intro h
    rcases mem_noteEach h with hmem | ⟨_, ht⟩
    · exact hmem
    · cases ht
  · intro h
    rcases covers_noteEach (start n) h with hlt | ⟨_, ht⟩
    · exact absurd hlt (Nat.lt_irrefl _)
    · exact ht

theorem noteEach_position (reach : Reach) (asked : List Request) :
    (reach.noteEach asked).position = reach.position ∨
      ∃ e ∈ asked, e.1 = (reach.noteEach asked).position := by
  induction asked generalizing reach with
  | nil => exact .inl rfl
  | cons d asked ih =>
    rw [noteEach_cons]
    rcases ih (reach.note d.1 d.2) with heq | ⟨e, he, heq⟩
    · rw [heq]
      rcases reach.note_cases d.1 d.2 with ⟨_, hn⟩ | ⟨_, hn⟩ | ⟨hpos, hn⟩ <;> rw [hn]
      · exact .inl rfl
      · exact .inr ⟨d, List.mem_cons_self, rfl⟩
      · exact .inl hpos.symm
    · exact .inr ⟨e, List.mem_cons_of_mem _ he, heq⟩

end Reach

/-! ## Readings -/

structure Reading (α : Type) where
  answer : Answer α
  asked : List Request
  /-- The position after the furthest token that was taken, zero if there was none. -/
  used : Nat

namespace Reading

variable {α β : Type}

def pure (a : α) (c : Cursor) : Reading α :=
  ⟨some (a, c), [], 0⟩

def fail : Reading α :=
  ⟨none, [], 0⟩

/-- Gives what a single token gave, or asks for the terminals in `ts` in vain. -/
def ofNext (c : Cursor) (ts : List Terminal) : Answer α → Reading α
  | some (a, c') => ⟨some (a, c'), [], c'.position⟩
  | none => ⟨none, ts.map fun t => (c.position, t), 0⟩

def ofOption (a : Option α) (c : Cursor) : Reading α :=
  ⟨a.map fun a => (a, c), [], 0⟩

def bind (x : Reading α) (f : α → Cursor → Reading β) : Reading β :=
  match x.answer with
  | none => ⟨none, x.asked, x.used⟩
  | some (a, c) => ⟨(f a c).answer, x.asked ++ (f a c).asked, max x.used (f a c).used⟩

def orElse (x y : Reading α) : Reading α :=
  match x.answer with
  | none => ⟨y.answer, x.asked ++ y.asked, max x.used y.used⟩
  | some _ => x

/-- Reads as often as there is something to read, as `Reader.many` does. -/
def many (p : Cursor → Reading α) : List Token → Cursor → Reading (List α)
  | [], c => ⟨some ([], c), (p c).asked, (p c).used⟩
  | _ :: bound, c =>
    ((p c).bind fun a c => (many p bound c).bind fun as c => pure (a :: as) c).orElse (pure [] c)

variable {x : Reading α} {f : α → Cursor → Reading β}

@[simp] theorem ofNext_answer (c : Cursor) (ts : List Terminal) (answer : Answer α) :
    (ofNext c ts answer).answer = answer := by
  rcases answer with _ | ⟨a, c'⟩ <;> rfl

theorem bind_of_none (h : x.answer = none) : x.bind f = ⟨none, x.asked, x.used⟩ := by
  unfold bind
  rw [h]

theorem bind_of_some {a : α} {c : Cursor} (h : x.answer = some (a, c)) :
    x.bind f = ⟨(f a c).answer, x.asked ++ (f a c).asked, max x.used (f a c).used⟩ := by
  unfold bind
  rw [h]

theorem orElse_of_none {y : Reading α} (h : x.answer = none) :
    x.orElse y = ⟨y.answer, x.asked ++ y.asked, max x.used y.used⟩ := by
  unfold orElse
  rw [h]

theorem orElse_of_some {y : Reading α} {r : α × Cursor} (h : x.answer = some r) :
    x.orElse y = x := by
  unfold orElse
  rw [h]

theorem used_le_bind (x : Reading α) (f : α → Cursor → Reading β) : x.used ≤ (x.bind f).used := by
  rcases h : x.answer with _ | ⟨a, c⟩
  · exact Nat.le_of_eq (congrArg Reading.used (bind_of_none h)).symm
  · rw [bind_of_some h]
    exact Nat.le_max_left _ _

theorem asked_subset_bind (x : Reading α) (f : α → Cursor → Reading β) :
    x.asked ⊆ (x.bind f).asked := by
  rcases h : x.answer with _ | ⟨a, c⟩
  · rw [bind_of_none h]
    exact List.Subset.refl _
  · rw [bind_of_some h]
    exact List.subset_append_left _ _

theorem used_bind_le {n : Nat} (hx : x.used ≤ n)
    (hf : ∀ a c, x.answer = some (a, c) → (f a c).used ≤ n) : (x.bind f).used ≤ n := by
  rcases h : x.answer with _ | ⟨a, c⟩
  · rw [bind_of_none h]
    exact hx
  · rw [bind_of_some h]
    exact Nat.max_le.2 ⟨hx, hf a c h⟩

theorem forall_asked_bind {P : Request → Prop} (hx : ∀ e ∈ x.asked, P e)
    (hf : ∀ a c, x.answer = some (a, c) → ∀ e ∈ (f a c).asked, P e) :
    ∀ e ∈ (x.bind f).asked, P e := by
  rcases h : x.answer with _ | ⟨a, c⟩
  · rw [bind_of_none h]
    exact hx
  · rw [bind_of_some h]
    exact List.forall_mem_append.2 ⟨hx, hf a c h⟩

theorem used_le_orElse (x y : Reading α) : x.used ≤ (x.orElse y).used := by
  rcases h : x.answer with _ | r
  · rw [orElse_of_none h]
    exact Nat.le_max_left _ _
  · exact Nat.le_of_eq (congrArg Reading.used (orElse_of_some h)).symm

theorem asked_subset_orElse (x y : Reading α) : x.asked ⊆ (x.orElse y).asked := by
  rcases h : x.answer with _ | r
  · rw [orElse_of_none h]
    exact List.subset_append_left _ _
  · rw [orElse_of_some h]
    exact List.Subset.refl _

/-- Only the answer that there is goes on. -/
theorem bind_congr {g : α → Cursor → Reading β}
    (h : ∀ a c, x.answer = some (a, c) → f a c = g a c) : x.bind f = x.bind g := by
  rcases hx : x.answer with _ | ⟨a, c⟩
  · rw [bind_of_none hx, bind_of_none hx]
  · rw [bind_of_some hx, bind_of_some hx, h a c hx]

theorem bind_answer_eq_some {b : β} {c : Cursor} :
    (x.bind f).answer = some (b, c) ↔
      ∃ a c₁, x.answer = some (a, c₁) ∧ (f a c₁).answer = some (b, c) := by
  rcases hx : x.answer with _ | ⟨a, c₁⟩
  · rw [bind_of_none hx]
    simp
  · rw [bind_of_some hx]
    constructor
    · intro h
      exact ⟨a, c₁, rfl, h⟩
    · rintro ⟨_, _, he, h⟩
      cases he
      exact h

end Reading

namespace Peg

variable {R : Type} {Result : R → Type}

/-- What a parsing expression reads, with `call` for the rules that it refers to. -/
def read (call : (r : R) → Cursor → Reading (Result r)) {α : Type} :
    Peg Result α → Cursor → Reading α
  | .token t, c => .ofNext c [t] (c.next? t)
  | .oneOf table, c =>
    .ofNext c (table.map Prod.fst)
      (table.findSome? fun e => (c.next? e.1).map fun x => (e.2, x.2))
  | .seq p q, c => (p.read call c).bind fun a c => (q.read call c).bind fun b c => .pure (a, b) c
  | .choice p q, c => (p.read call c).orElse (q.read call c)
  | .map f p, c => (p.read call c).bind fun a c => .pure (f a) c
  | .filterMap f p, c => (p.read call c).bind fun a c => .ofOption (f a) c
  | .opt p, c => ((p.read call c).bind fun a c => .pure (some a) c).orElse (.pure none c)
  | .many p, c => .many (p.read call) c.rest c
  | .spanned p, c => (p.read call c).bind fun a c' => .pure (a, c.spanTo c') c'
  | .rule r, c => call r c

/-- What the rules of a grammar read, at most `depth` of them inside one another. -/
def readRule (grammar : (r : R) → Peg Result (Result r)) : Nat → (r : R) → Cursor →
    Reading (Result r)
  | 0, _, _ => .fail
  | depth + 1, r, c => (grammar r).read (readRule grammar depth) c

end Peg

end ModelLang
