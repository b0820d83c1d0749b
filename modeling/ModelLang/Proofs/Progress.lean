import Mathlib.Logic.ExistsUnique
import ModelLang.Proofs.Turns

/-!
# ModelLang.Proofs.Progress

That reading comes to an end, without a bound in sight. `Peg.Reads` is reading by the rules with
nothing that stops a rule from calling itself for ever or a part from being repeated for ever: only
what is read in finitely many steps has a derivation. `Grammar.Runs` is the same for the loop over
the statements. Both are total (`Layers.reads_answer`, `Grammar.runs_turnsFrom`), because a rule
that is called at the same place lies lower, and everything that is repeated takes a token.
-/

namespace ModelLang

namespace Peg

variable {R : Type} {Result : R → Type} (grammar : (r : R) → Peg Result (Result r))

/-! ## Reading without bounds -/

/-- Reading an expression at a place ends with an answer. -/
inductive Reads : {α : Type} → Peg Result α → Cursor → Answer α → Prop where
  | token (t : Terminal) (c : Cursor) : Reads (.token t) c (c.next? t)
  | oneOf {α : Type} (table : List (Terminal × α)) (c : Cursor) :
      Reads (.oneOf table) c (table.findSome? fun e => (c.next? e.1).map fun x => (e.2, x.2))
  | seqFail {α β : Type} {p : Peg Result α} {q : Peg Result β} {c : Cursor}
      (hp : Reads p c none) : Reads (.seq p q) c none
  | seq {α β : Type} {p : Peg Result α} {q : Peg Result β} {c c' : Cursor} {a : α} {x : Answer β}
      (hp : Reads p c (some (a, c'))) (hq : Reads q c' x) :
      Reads (.seq p q) c (x.map fun r => ((a, r.1), r.2))
  | first {α : Type} {p q : Peg Result α} {c : Cursor} {r : α × Cursor}
      (hp : Reads p c (some r)) : Reads (.choice p q) c (some r)
  | second {α : Type} {p q : Peg Result α} {c : Cursor} {x : Answer α}
      (hp : Reads p c none) (hq : Reads q c x) : Reads (.choice p q) c x
  | map {α β : Type} (f : α → β) {p : Peg Result α} {c : Cursor} {x : Answer α}
      (hp : Reads p c x) : Reads (.map f p) c (x.map fun r => (f r.1, r.2))
  | filterMap {α β : Type} (f : α → Option β) {p : Peg Result α} {c : Cursor} {x : Answer α}
      (hp : Reads p c x) : Reads (.filterMap f p) c (x.bind fun r => (f r.1).map (·, r.2))
  | optNone {α : Type} {p : Peg Result α} {c : Cursor} (hp : Reads p c none) :
      Reads (.opt p) c (some (none, c))
  | optSome {α : Type} {p : Peg Result α} {c c' : Cursor} {a : α}
      (hp : Reads p c (some (a, c'))) : Reads (.opt p) c (some (some a, c'))
  | stop {α : Type} {p : Peg Result α} {c : Cursor} (hp : Reads p c none) :
      Reads (.many p) c (some ([], c))
  | again {α : Type} {p : Peg Result α} {c c' c'' : Cursor} {a : α} {as : List α}
      (hp : Reads p c (some (a, c'))) (hmore : Reads (.many p) c' (some (as, c''))) :
      Reads (.many p) c (some (a :: as, c''))
  | spanned {α : Type} {p : Peg Result α} {c : Cursor} {x : Answer α} (hp : Reads p c x) :
      Reads (.spanned p) c (x.map fun r => ((r.1, c.spanTo r.2), r.2))
  | rule {r : R} {c : Cursor} {x : Answer (Result r)} (h : Reads (grammar r) c x) :
      Reads (.rule r) c x

/-- Reading an expression at a place calls a rule at a place. -/
inductive Calls : {α : Type} → Peg Result α → Cursor → R → Cursor → Prop where
  | rule (r : R) (c : Cursor) : Calls (.rule r) c r c
  | left {α β : Type} {p : Peg Result α} (q : Peg Result β) {c c' : Cursor} {r : R}
      (h : Calls p c r c') : Calls (.seq p q) c r c'
  | right {α β : Type} {p : Peg Result α} {q : Peg Result β} {c c₁ c' : Cursor} {a : α} {r : R}
      (hp : Reads grammar p c (some (a, c₁))) (h : Calls q c₁ r c') : Calls (.seq p q) c r c'
  | first {α : Type} {p : Peg Result α} (q : Peg Result α) {c c' : Cursor} {r : R}
      (h : Calls p c r c') : Calls (.choice p q) c r c'
  | second {α : Type} {p q : Peg Result α} {c c' : Cursor} {r : R}
      (hp : Reads grammar p c none) (h : Calls q c r c') : Calls (.choice p q) c r c'
  | map {α β : Type} (f : α → β) {p : Peg Result α} {c c' : Cursor} {r : R} (h : Calls p c r c') :
      Calls (.map f p) c r c'
  | filterMap {α β : Type} (f : α → Option β) {p : Peg Result α} {c c' : Cursor} {r : R}
      (h : Calls p c r c') : Calls (.filterMap f p) c r c'
  | opt {α : Type} {p : Peg Result α} {c c' : Cursor} {r : R} (h : Calls p c r c') :
      Calls (.opt p) c r c'
  | once {α : Type} {p : Peg Result α} {c c' : Cursor} {r : R} (h : Calls p c r c') :
      Calls (.many p) c r c'
  | again {α : Type} {p : Peg Result α} {c c₁ c' : Cursor} {a : α} {r : R}
      (hp : Reads grammar p c (some (a, c₁))) (h : Calls (.many p) c₁ r c') :
      Calls (.many p) c r c'
  | spanned {α : Type} {p : Peg Result α} {c c' : Cursor} {r : R} (h : Calls p c r c') :
      Calls (.spanned p) c r c'

variable {grammar} {α β : Type}

/-- Somewhere in an expression, another one is repeated, with a separator or without. -/
inductive Repeats : {α β : Type} → Peg Result α → Peg Result β → Prop where
  | many {α : Type} (p : Peg Result α) : Repeats (.many p) p
  | sepBy {α β : Type} (p : Peg Result α) (separator : Peg Result β) :
      Repeats (.many (separator *> p)) p
  | left {α β γ : Type} {p : Peg Result α} (q : Peg Result β) {u : Peg Result γ}
      (h : Repeats p u) : Repeats (.seq p q) u
  | right {α β γ : Type} (p : Peg Result α) {q : Peg Result β} {u : Peg Result γ}
      (h : Repeats q u) : Repeats (.seq p q) u
  | first {α γ : Type} {p : Peg Result α} (q : Peg Result α) {u : Peg Result γ}
      (h : Repeats p u) : Repeats (.choice p q) u
  | second {α γ : Type} (p : Peg Result α) {q : Peg Result α} {u : Peg Result γ}
      (h : Repeats q u) : Repeats (.choice p q) u
  | map {α β γ : Type} (f : α → β) {p : Peg Result α} {u : Peg Result γ} (h : Repeats p u) :
      Repeats (.map f p) u
  | filterMap {α β γ : Type} (f : α → Option β) {p : Peg Result α} {u : Peg Result γ}
      (h : Repeats p u) : Repeats (.filterMap f p) u
  | opt {α γ : Type} {p : Peg Result α} {u : Peg Result γ} (h : Repeats p u) : Repeats (.opt p) u
  | inside {α γ : Type} {p : Peg Result α} {u : Peg Result γ} (h : Repeats p u) :
      Repeats (.many p) u
  | spanned {α γ : Type} {p : Peg Result α} {u : Peg Result γ} (h : Repeats p u) :
      Repeats (.spanned p) u

/-- Whether the last part of a sequence takes a token. -/
def lastTakes {α : Type} : Peg Result α → Bool
  | .map _ p => p.lastTakes
  | .seq _ q => !q.nullable
  | _ => true

/-- Whether everything that is repeated takes a token, also what comes after a separator. -/
def steady {α : Type} : Peg Result α → Bool
  | .token _ | .oneOf _ | .rule _ => true
  | .seq p q | .choice p q => p.steady && q.steady
  | .map _ p | .filterMap _ p | .opt p | .spanned p => p.steady
  | .many p => !p.nullable && p.lastTakes && p.steady

theorem Repeats.nullable_eq_false {p : Peg Result α} {u : Peg Result β} (h : p.Repeats u)
    (hp : p.steady = true) : u.nullable = false := by
  induction h with
  | many p =>
    rw [steady, Bool.and_eq_true, Bool.and_eq_true, Bool.not_eq_true'] at hp
    exact hp.1.1
  | sepBy p separator =>
    rw [steady, Bool.and_eq_true, Bool.and_eq_true] at hp
    have hlast : (!p.nullable) = true := hp.1.2
    rwa [Bool.not_eq_true'] at hlast
  | left _ _ ih | first _ _ ih => exact ih (Bool.and_eq_true_iff.1 hp).1
  | right _ _ ih | second _ _ ih => exact ih (Bool.and_eq_true_iff.1 hp).2
  | map _ _ ih | filterMap _ _ ih => exact ih hp
  | opt _ ih | spanned _ ih => exact ih hp
  | inside _ ih => exact ih (Bool.and_eq_true_iff.1 hp).2

theorem Repeats.regular {p : Peg Result α} {u : Peg Result β} (h : p.Repeats u)
    (hp : p.regular = true) : u.regular = true := by
  induction h with
  | many p => exact (Bool.and_eq_true_iff.1 hp).2
  | sepBy p separator => exact (Bool.and_eq_true_iff.1 (Bool.and_eq_true_iff.1 hp).2).2
  | left _ _ ih | first _ _ ih => exact ih (Bool.and_eq_true_iff.1 hp).1
  | right _ _ ih | second _ _ ih => exact ih (Bool.and_eq_true_iff.1 hp).2
  | map _ _ ih | filterMap _ _ ih => exact ih hp
  | opt _ ih => exact ih hp
  | inside _ ih | spanned _ ih => exact ih (Bool.and_eq_true_iff.1 hp).2

end Peg

/-! ## Reading ends -/

namespace Reading

variable {α β : Type} {x y : Reading α} {f : α → Cursor → Reading β}

theorem answer_bind : (x.bind f).answer = x.answer.bind fun r => (f r.1 r.2).answer := by
  rcases h : x.answer with _ | ⟨a, c⟩
  · rw [bind_of_none h]
    rfl
  · rw [bind_of_some h]
    rfl

theorem answer_orElse : (x.orElse y).answer = x.answer.or y.answer := by
  rcases h : x.answer with _ | r
  · rw [orElse_of_none h]
    rfl
  · rw [orElse_of_some h, h]
    rfl

end Reading

namespace Layers

variable {R : Type} {Result : R → Type} {grammar : (r : R) → Peg Result (Result r)}
  (L : Layers grammar) {α β : Type}

/-- What is read, without what was asked for on the way. -/
def answer (p : Peg Result α) (c : Cursor) : Answer α :=
  (L.reading p c).answer

section Equations

variable (p : Peg Result α) (q : Peg Result β) (c : Cursor)

theorem answer_token (t : Terminal) : L.answer (.token t) c = c.next? t := by
  rw [answer, L.reading_token, Reading.ofNext_answer]

theorem answer_oneOf (table : List (Terminal × α)) : L.answer (.oneOf table) c =
    table.findSome? fun e => (c.next? e.1).map fun x => (e.2, x.2) :=
  Reading.ofNext_answer c (table.map Prod.fst) _

theorem answer_seq : L.answer (.seq p q) c =
    (L.answer p c).bind fun r => (L.answer q r.2).map fun r' => ((r.1, r'.1), r'.2) := by
  rw [answer, L.reading_seq, Reading.answer_bind]
  refine Option.bind_congr fun r _ => ?_
  rw [Reading.answer_bind, Option.map_eq_bind]
  rfl

theorem answer_choice (p q : Peg Result α) :
    L.answer (.choice p q) c = (L.answer p c).or (L.answer q c) := by
  rw [answer, L.reading_choice, Reading.answer_orElse]
  rfl

theorem answer_map (f : α → β) :
    L.answer (.map f p) c = (L.answer p c).map fun r => (f r.1, r.2) := by
  rw [Option.map_eq_bind]
  exact Reading.answer_bind

theorem answer_filterMap (f : α → Option β) :
    L.answer (.filterMap f p) c = (L.answer p c).bind fun r => (f r.1).map (·, r.2) :=
  Reading.answer_bind

theorem answer_opt : L.answer (.opt p) c =
    ((L.answer p c).map fun r => (some r.1, r.2)).or (some (none, c)) := by
  rw [answer, L.reading_opt, Reading.answer_orElse, Reading.answer_bind, Option.map_eq_bind]
  rfl

theorem answer_many (hp : p.nullable = false) : L.answer (.many p) c =
    ((L.answer p c).bind fun r => (L.answer (.many p) r.2).map fun r' =>
      (r.1 :: r'.1, r'.2)).or (some ([], c)) := by
  rw [answer, L.reading_many p c hp, Reading.answer_orElse, Reading.answer_bind]
  congr 1
  refine Option.bind_congr fun r _ => ?_
  rw [Reading.answer_bind, Option.map_eq_bind]
  rfl

theorem answer_spanned : L.answer (.spanned p) c =
    (L.answer p c).map fun r => ((r.1, c.spanTo r.2), r.2) := by
  rw [Option.map_eq_bind]
  exact Reading.answer_bind

theorem answer_rule (r : R) : L.answer (.rule r) c = L.answer (grammar r) c := by
  rw [answer, L.reading_rule]
  rfl

end Equations

/-- A repetition always gives something, if only nothing. -/
theorem answer_many_isSome {p : Peg Result α} (hp : p.nullable = false) (c : Cursor) :
    ∃ r, L.answer (.many p) c = some r := by
  rw [L.answer_many p c hp]
  generalize ((L.answer p c).bind fun r => (L.answer (.many p) r.2).map fun r' =>
    (r.1 :: r'.1, r'.2)) = x
  rcases x with _ | r
  · exact ⟨_, rfl⟩
  · exact ⟨r, rfl⟩

/-- Every expression is read in finitely many steps at every place. -/
theorem reads_answer {p : Peg Result α} (hp : p.regular = true) (c : Cursor) :
    Peg.Reads grammar p c (L.answer p c) := by
  refine L.induct (motive := fun p c => Peg.Reads grammar p c (L.answer p c))
    ?token ?oneOf ?seq ?choice ?map ?filterMap ?opt ?many ?spanned ?rule p hp c
  case token =>
    intro t c
    rw [L.answer_token]
    exact .token t c
  case oneOf =>
    intro α table c _
    rw [L.answer_oneOf]
    exact .oneOf table c
  case seq =>
    intro α β p q c hp hq
    rw [L.answer_seq]
    rcases h : L.answer p c with _ | ⟨a, c'⟩
    · exact .seqFail (h ▸ hp)
    · exact .seq (h ▸ hp) (hq a c' h)
  case choice =>
    intro α p q c hp hq
    rw [L.answer_choice]
    rcases h : L.answer p c with _ | r
    · exact .second (h ▸ hp) hq
    · exact .first (h ▸ hp)
  case map =>
    intro α β f p c hp
    rw [L.answer_map]
    exact .map f hp
  case filterMap =>
    intro α β f p c hp
    rw [L.answer_filterMap]
    exact .filterMap f hp
  case opt =>
    intro α p c hp
    rw [L.answer_opt]
    rcases h : L.answer p c with _ | r
    · exact .optNone (h ▸ hp)
    · exact .optSome (h ▸ hp)
  case many =>
    intro α p c hnull hp hmore
    rw [L.answer_many p c hnull]
    rcases h : L.answer p c with _ | ⟨a, c'⟩
    · exact .stop (h ▸ hp)
    · obtain ⟨⟨as, c''⟩, hmany⟩ := L.answer_many_isSome hnull c'
      rw [Option.bind_some, hmany]
      exact .again (h ▸ hp) (hmany ▸ hmore a c' h)
  case spanned =>
    intro α p c _ hp
    rw [L.answer_spanned]
    exact .spanned hp
  case rule =>
    intro r c h
    rw [L.answer_rule]
    exact .rule h

/-- There is no other way to read it. -/
theorem answer_of_reads {p : Peg Result α} (hp : p.regular = true) {c : Cursor} {x : Answer α}
    (h : Peg.Reads grammar p c x) : x = L.answer p c := by
  induction h with
  | token t c => exact (L.answer_token c t).symm
  | oneOf table c => exact (L.answer_oneOf c table).symm
  | seqFail _ ihp =>
    rw [L.answer_seq, ← ihp (Bool.and_eq_true_iff.1 hp).1]
    rfl
  | seq _ _ ihp ihq =>
    obtain ⟨hp, hq⟩ := Bool.and_eq_true_iff.1 hp
    rw [L.answer_seq, ← ihp hp, Option.bind_some, ← ihq hq]
  | first _ ihp =>
    rw [L.answer_choice, ← ihp (Bool.and_eq_true_iff.1 hp).1]
    rfl
  | second _ _ ihp ihq =>
    obtain ⟨hp, hq⟩ := Bool.and_eq_true_iff.1 hp
    rw [L.answer_choice, ← ihp hp, ← ihq hq]
    rfl
  | map f _ ih => rw [L.answer_map, ← ih hp]
  | filterMap f _ ih => rw [L.answer_filterMap, ← ih hp]
  | optNone _ ih =>
    rw [L.answer_opt, ← ih hp]
    rfl
  | optSome _ ih =>
    rw [L.answer_opt, ← ih hp]
    rfl
  | stop _ ih =>
    obtain ⟨hnull, hp⟩ := Bool.and_eq_true_iff.1 hp
    rw [L.answer_many _ _ (Bool.not_eq_true' _ ▸ hnull), ← ih hp]
    rfl
  | again _ _ ih ihmore =>
    obtain ⟨hnull, hone⟩ := Bool.and_eq_true_iff.1 hp
    rw [L.answer_many _ _ (Bool.not_eq_true' _ ▸ hnull), ← ih hone, Option.bind_some, ← ihmore hp]
    rfl
  | spanned _ ih => rw [L.answer_spanned, ← ih (Bool.and_eq_true_iff.1 hp).2]
  | rule _ ih => rw [L.answer_rule, ← ih (L.regular _)]

include L in
/-- What is read takes tokens from the front, at least one if the expression has to. -/
theorem takes_of_reads {p : Peg Result α} (hp : p.regular = true) {c c' : Cursor} {a : α}
    (h : Peg.Reads grammar p c (some (a, c'))) :
    ∃ ts, c.Takes ts c' ∧ (p.nullable = false → ts ≠ []) :=
  L.reading_proceeds p c a c' (L.answer_of_reads hp h).symm

/-- A rule that is called lies further on, or at the same place and below. -/
theorem calls_descend {p : Peg Result α} (hp : p.regular = true) {c c' : Cursor} {r : R}
    (h : Peg.Calls grammar p c r c') :
    ∃ ts, c.Takes ts c' ∧ (ts = [] → L.level r < p.rank L.level) := by
  induction h with
  | rule r c => exact ⟨[], .nil c, fun _ => Nat.lt_succ_self _⟩
  | left q _ ih =>
    obtain ⟨ts, ht, hlevel⟩ := ih (Bool.and_eq_true_iff.1 hp).1
    exact ⟨ts, ht, fun hts => Nat.lt_of_lt_of_le (hlevel hts) (Nat.le_max_left _ _)⟩
  | @right _ _ p q _ _ _ _ _ hreads _ ih =>
    obtain ⟨hp, hq⟩ := Bool.and_eq_true_iff.1 hp
    obtain ⟨ts, ht, hts⟩ := L.takes_of_reads hp hreads
    obtain ⟨us, hu, hlevel⟩ := ih hq
    refine ⟨ts ++ us, ht.trans hu, fun hnil => ?_⟩
    obtain ⟨rfl, rfl⟩ := List.append_eq_nil_iff.1 hnil
    have hnull : p.nullable = true := by
      cases h : p.nullable with
      | false => exact absurd rfl (hts h)
      | true => rfl
    rw [Peg.rank, hnull, if_pos rfl]
    exact Nat.lt_of_lt_of_le (hlevel rfl) (Nat.le_max_right _ _)
  | first q _ ih =>
    obtain ⟨ts, ht, hlevel⟩ := ih (Bool.and_eq_true_iff.1 hp).1
    exact ⟨ts, ht, fun hts => Nat.lt_of_lt_of_le (hlevel hts) (Nat.le_max_left _ _)⟩
  | second _ _ ih =>
    obtain ⟨ts, ht, hlevel⟩ := ih (Bool.and_eq_true_iff.1 hp).2
    exact ⟨ts, ht, fun hts => Nat.lt_of_lt_of_le (hlevel hts) (Nat.le_max_right _ _)⟩
  | map _ _ ih | filterMap _ _ ih => exact ih hp
  | opt _ ih => exact ih hp
  | once _ ih | spanned _ ih => exact ih (Bool.and_eq_true_iff.1 hp).2
  | again hreads _ ih =>
    obtain ⟨hnull, hone⟩ := Bool.and_eq_true_iff.1 hp
    obtain ⟨ts, ht, hts⟩ := L.takes_of_reads hone hreads
    obtain ⟨us, hu, _⟩ := ih hp
    refine ⟨ts ++ us, ht.trans hu, fun hnil => ?_⟩
    exact absurd (List.append_eq_nil_iff.1 hnil).1 (hts (Bool.not_eq_true' _ ▸ hnull))

end Layers

namespace Grammar

/-! ## The loop over the statements -/

/-- What the loop does when it has read a statement or not: it goes on behind the statement, or
where it recovers. -/
def after (c : Cursor) : Answer Statement → Cursor
  | some (_, c') => .ofTokens c'.position c'.rest
  | none => recover c.position c.rest

/-- The loop over the statements from a place on ends after these readings, each given by the place
where it starts and its answer. -/
inductive Runs : Cursor → List (Cursor × Answer Statement) → Prop where
  | stop {c : Cursor} (h : atEnd c.rest = true) : Runs c []
  | turn {c : Cursor} {x : Answer Statement} {more : List (Cursor × Answer Statement)}
      (h : atEnd c.rest = false) (hx : Peg.Reads form statement c x)
      (hmore : Runs (after c x) more) : Runs c ((c, x) :: more)

theorem statement_regular : statement.regular = true := by decide +kernel

theorem form_steady (r : Rule) : (form r).steady = true := by
  cases r <;> decide +kernel

/-- Where a statement starts, recovery takes a token. -/
theorem recover_takes (i : Nat) {tokens : List Token} (h : atEnd tokens = false) :
    ∃ ts, ts ≠ [] ∧ tokens = ts ++ (recover i tokens).rest := by
  induction tokens generalizing i with
  | nil => cases h
  | cons t rest ih =>
    have hend : ¬ t.isEnd = true := Bool.eq_false_iff.1 h
    rw [recover, if_neg hend]
    split
    · exact ⟨[t], List.cons_ne_nil _ _, rfl⟩
    · cases hrest : atEnd rest with
      | true =>
        refine ⟨[t], List.cons_ne_nil _ _, ?_⟩
        cases rest with
        | nil => rfl
        | cons u rest => rw [recover_end _ _ hrest]; rfl
      | false =>
        obtain ⟨ts, _, hts⟩ := ih (i + 1) hrest
        exact ⟨t :: ts, List.cons_ne_nil _ _, congrArg _ hts⟩

/-- Every turn takes a token, whether it reads a statement or not. -/
theorem after_takes {c : Cursor} (h : atEnd c.rest = false) {x : Answer Statement}
    (hx : Peg.Reads form statement c x) : ∃ ts, ts ≠ [] ∧ c.rest = ts ++ (after c x).rest := by
  rcases x with _ | ⟨s, c'⟩
  · exact recover_takes c.position h
  · obtain ⟨ts, ht, hts⟩ := layers.takes_of_reads statement_regular hx
    exact ⟨ts, hts rfl, ht.rest⟩

theorem runs_turnsFrom {bound : List Token} {c : Cursor} (hc : c.rest.length ≤ bound.length) :
    Runs c ((turnsFrom bound c).map fun turn => (turn.start, turn.answer)) := by
  induction bound generalizing c with
  | nil =>
    rw [List.length_nil, Nat.le_zero, List.length_eq_zero_iff] at hc
    exact .stop (hc ▸ rfl)
  | cons t bound ih =>
    cases hend : atEnd c.rest with
    | true =>
      rw [turnsFrom_of_atEnd _ hend]
      exact .stop hend
    | false =>
      have hreads : Peg.Reads form statement c (turnAt c).answer :=
        layers.reads_answer statement_regular c
      have hnext : after c (turnAt c).answer = recover c.position c.rest :=
        turnAt_next c
      rw [turnsFrom, if_neg (Bool.eq_false_iff.1 hend)]
      refine .turn hend hreads ?_
      obtain ⟨ts, hts, hrest⟩ := after_takes hend hreads
      have hlen := congrArg List.length hrest
      rw [List.length_append] at hlen
      have hpos := List.length_pos_iff.2 hts
      rw [hnext] at hlen ⊢
      rw [List.length_cons] at hc
      exact ih (by omega)

/-- Every turn starts where some of the tokens are left. -/
theorem exists_of_mem_turnsFrom {bound : List Token} {c : Cursor} {turn : Turn}
    (h : turn ∈ turnsFrom bound c) : ∃ c', turn = turnAt c' ∧ c'.rest <:+ c.rest := by
  induction bound generalizing c with
  | nil => cases h
  | cons b bound ih =>
    rw [turnsFrom] at h
    split at h
    · cases h
    · rename_i hend
      rcases List.mem_cons.1 h with rfl | hmore
      · exact ⟨c, rfl, List.suffix_rfl⟩
      · obtain ⟨c', hturn, hsuffix⟩ := ih hmore
        obtain ⟨ts, _, hts⟩ := recover_takes c.position (Bool.eq_false_iff.2 hend)
        exact ⟨c', hturn, hsuffix.trans ⟨ts, hts.symm⟩⟩

end Grammar

end ModelLang
