import ModelLang.Grammar.Program
import ModelLang.Proofs.Recall

/-!
# ModelLang.Proofs.Turns

The turns in which the statements of a program are read. The grammar of the language has levels
(`Grammar.layers`), so every turn is one reading of the place where it starts (`Grammar.turnAt`).
No rule asks for a semicolon: a turn that reads a statement stops after the next one, as a turn that
fails does (`Grammar.turnAt_next`). What is kept in a turn is kept for places before the next, and
the kept answers change nothing: the program is that of the turns by the rules alone, at any depth
that is enough.
-/

namespace ModelLang.Grammar

/-! ## The grammar -/

/-- Rules that start with other rules lie above them. -/
def level : Rule → Nat
  | .unary | .command | .forallCommand => 0
  | .multiplicative => 1
  | .additive => 2
  | .unionExpr => 3
  | .notExpr | .indexSet | .constraintList | .sosBody => 4
  | .expr => 5

def layers : Layers form where
  level := level
  height := 11
  level_lt r := by cases r <;> decide
  rank_le r := by cases r <;> decide +kernel
  consuming r := by cases r <;> decide +kernel
  regular r := by cases r <;> decide +kernel

/-- Any terminal but the semicolon. -/
def Inner (t : Terminal) : Prop :=
  t ≠ .mark ";"

theorem form_terminals (r : Rule) : ∀ t ∈ (form r).terminals, Inner t := by
  unfold Inner
  cases r <;> decide +kernel

theorem command_stays (c : Cursor) : (layers.reading (.rule Rule.command) c).Stays Inner c :=
  layers.reading_stays form_terminals rfl (List.forall_mem_nil _) c

/-- The token ends a statement, or all statements. -/
def IsStop (t : Token) : Prop :=
  t.isEnd = true ∨ t.lexeme = .mark ";"

theorem eq_of_mark_fits {m : String} {l : Lexeme} (h : (Terminal.mark m).fits l = true) :
    l = .mark m := by
  cases l with
  | mark n => exact congrArg _ (of_decide_eq_true h).symm
  | _ => cases h

theorem not_isStop_of_fits {t : Token} (h : t.Fits Inner) : ¬ IsStop t := by
  obtain ⟨x, hx, hfits⟩ := h
  rintro (hend | hmark)
  · rw [Token.isEnd, decide_eq_true_eq] at hend
    rw [hend] at hfits
    cases x <;> cases hfits
  · rw [hmark] at hfits
    cases x with
    | mark m => exact hx (congrArg _ (of_decide_eq_true hfits))
    | _ => cases hfits

/-! ## The next place -/

theorem recover_append (i : Nat) {ts : List Token} (rest : List Token)
    (hts : ∀ u ∈ ts, ¬ IsStop u) : recover i (ts ++ rest) = recover (i + ts.length) rest := by
  induction ts generalizing i with
  | nil => rfl
  | cons u ts ih =>
    obtain ⟨hu, hts⟩ := List.forall_mem_cons.1 hts
    rw [List.cons_append, recover, if_neg fun h => hu (.inl h), if_neg fun h => hu (.inr h),
      ih (i + 1) hts, List.length_cons, Nat.add_right_comm, Nat.add_assoc]

theorem isEnd_of_mark {t : Token} (ht : t.lexeme = .mark ";") : t.isEnd = false := by
  rw [Token.isEnd, ht]
  rfl

theorem recover_mark (i : Nat) {t : Token} (rest : List Token) (ht : t.lexeme = .mark ";") :
    recover i (t :: rest) = .ofTokens (i + 1) rest := by
  rw [recover, isEnd_of_mark ht, if_neg Bool.false_ne_true, if_pos ht]

theorem recover_end (i : Nat) {t : Token} (rest : List Token) (ht : t.isEnd = true) :
    recover i (t :: rest) = .ofTokens i (t :: rest) := by
  rw [recover, if_pos ht]

theorem atEnd_append_mark {ts : List Token} {t : Token} (hts : ∀ u ∈ ts, ¬ IsStop u)
    (ht : t.lexeme = .mark ";") (rest : List Token) : atEnd (ts ++ t :: rest) = false := by
  cases ts with
  | nil => exact isEnd_of_mark ht
  | cons u ts => exact Bool.eq_false_iff.2 fun h => hts u List.mem_cons_self (.inl h)

theorem exists_of_recover {i : Nat} {tokens : List Token}
    (h : atEnd (recover i tokens).rest = false) :
    ∃ ts t rest, tokens = ts ++ t :: rest ∧ (∀ u ∈ ts, ¬ IsStop u) ∧ t.lexeme = .mark ";" := by
  induction tokens generalizing i with
  | nil => cases h
  | cons t rest ih =>
    rw [recover] at h
    split at h
    · rename_i hend
      exact absurd hend (Bool.eq_false_iff.1 h)
    · rename_i hend
      split at h
      · rename_i hmark
        exact ⟨[], t, rest, rfl, List.forall_mem_nil _, hmark⟩
      · rename_i hmark
        obtain ⟨ts, u, rest, rfl, hts, hu⟩ := ih h
        exact ⟨t :: ts, u, rest, rfl, List.forall_mem_cons.2 ⟨not_or.2 ⟨hend, hmark⟩, hts⟩, hu⟩

/-- Recovery goes on after the next semicolon, if there is one before the end. -/
theorem recover_rest_length (i : Nat) (tokens : List Token) :
    atEnd (recover i tokens).rest = true ∨ (recover i tokens).rest.length < tokens.length := by
  induction tokens generalizing i with
  | nil => exact .inl rfl
  | cons t rest ih =>
    rw [recover]
    split
    · rename_i hend
      exact .inl hend
    · split
      · exact .inr (Nat.lt_succ_self _)
      · exact (ih (i + 1)).imp_right Nat.lt_succ_of_lt

theorem stopsAt_append (i : Nat) (ts : List Token) {t : Token} (ht : IsStop t)
    (rest : List Token) :
    Cursor.StopsAt (Token.Fits Inner) (i + ts.length) (.ofTokens i (ts ++ t :: rest)) := by
  obtain ⟨c', htakes, hrest⟩ := Cursor.takes_append i ts (t :: rest) ⟨0, 0⟩
  refine ⟨ts, c', htakes, htakes.position, ?_⟩
  rw [hrest]
  rintro _ ⟨⟩ hfits
  exact not_isStop_of_fits hfits ht

/-- Some token ahead fits no rule, and recovery does not stay before it. -/
theorem stopsAt_recover (c : Cursor) :
    ∃ k, c.StopsAt (Token.Fits Inner) k ∧ c.position ≤ k ∧
      (atEnd (recover c.position c.rest).rest = true ∨
        k < (recover c.position c.rest).position) := by
  obtain ⟨i, tokens, l⟩ := c
  induction tokens generalizing i l with
  | nil => exact ⟨i, ⟨[], _, .nil _, rfl, nofun⟩, Nat.le_refl _, .inl rfl⟩
  | cons t rest ih =>
    simp only [recover]
    have hhere (hstop : IsStop t) : Cursor.StopsAt (Token.Fits Inner) i ⟨i, t :: rest, l⟩ := by
      refine ⟨[], _, .nil _, rfl, ?_⟩
      rintro _ ⟨⟩ hfits
      exact not_isStop_of_fits hfits hstop
    split
    · rename_i hend
      exact ⟨i, hhere (.inl hend), Nat.le_refl _, .inl hend⟩
    · split
      · rename_i hmark
        exact ⟨i, hhere (.inr hmark), Nat.le_refl _, .inr (Nat.lt_succ_self _)⟩
      · obtain ⟨k, ⟨ts, c', ht, hk, hstop⟩, hle, hnext⟩ := ih (i + 1) t.span.stop
        exact ⟨k, ⟨t :: ts, c', .cons ht, hk, hstop⟩, Nat.le_of_succ_le hle, hnext⟩

/-! ## One turn -/

def turnAt (c : Cursor) : Turn where
  start := c
  answer := (layers.reading statement c).answer
  reach := (Reach.start c.position).noteEach (layers.reading statement c).asked

theorem reading_statement (c : Cursor) : layers.reading statement c =
    (layers.reading (.seq (.rule Rule.command) (.token (.mark ";"))) c).bind
      fun a c => .pure a.1 c := rfl

/-- A statement that is read takes the tokens up to the next semicolon. -/
theorem statement_answer {c c' : Cursor} {s : Statement}
    (h : (layers.reading statement c).answer = some (s, c')) :
    ∃ ts t, (∀ u ∈ ts, ¬ IsStop u) ∧ t.lexeme = .mark ";" ∧ c.Takes (ts ++ [t]) c' := by
  rw [reading_statement, layers.reading_seq] at h
  obtain ⟨_, _, hseq, hpure⟩ := Reading.bind_answer_eq_some.1 h
  cases hpure
  obtain ⟨_, c₁, hcommand, hseq⟩ := Reading.bind_answer_eq_some.1 hseq
  obtain ⟨t, _, hmark, hpure⟩ := Reading.bind_answer_eq_some.1 hseq
  cases hpure
  obtain ⟨ts, hts, hfits⟩ := (command_stays c).leads _ c₁ hcommand
  rw [layers.reading_token, Reading.ofNext_answer] at hmark
  obtain ⟨ht, htake⟩ := Cursor.next?_eq_some hmark
  exact ⟨ts, t, fun u hu => not_isStop_of_fits (hfits u hu), eq_of_mark_fits ht, hts.trans htake⟩

/-- A statement is read no further than to the token that ends it. -/
theorem statement_within {c : Cursor} {k : Nat} (hk : c.StopsAt (Token.Fits Inner) k) :
    (layers.reading statement c).used ≤ k + 1 ∧
      ∀ e ∈ (layers.reading statement c).asked, c.position ≤ e.1 ∧ e.1 ≤ k := by
  have hstays := command_stays c
  rw [reading_statement, layers.reading_seq]
  constructor
  · refine Reading.used_bind_le (Reading.used_bind_le ?_ fun s c₁ ha => ?_) fun _ _ _ =>
      Nat.zero_le _
    · exact Nat.le_succ_of_le (hstays.used_le hk)
    · refine Reading.used_bind_le ?_ fun _ _ _ => Nat.zero_le _
      have hle := (hstays.leads s c₁ ha).le_of_stopsAt hk
      rw [layers.reading_token]
      rcases hnext : c₁.next? (.mark ";") with _ | ⟨t, c₂⟩
      · exact Nat.zero_le _
      · have := (Cursor.next?_eq_some hnext).2.position
        simp only [List.length_singleton] at this
        show c₂.position ≤ k + 1
        omega
  · refine Reading.forall_asked_bind (Reading.forall_asked_bind ?_ fun s c₁ ha => ?_) fun _ _ _ =>
      List.forall_mem_nil _
    · exact fun e he => ⟨hstays.asked_ge he, hstays.asked_le hk he⟩
    · refine Reading.forall_asked_bind ?_ fun _ _ _ => List.forall_mem_nil _
      have hl := hstays.leads s c₁ ha
      rw [layers.reading_token]
      rcases hnext : c₁.next? (.mark ";") with _ | ⟨t, c₂⟩
      · exact List.forall_mem_singleton.2 ⟨hl.le, hl.le_of_stopsAt hk⟩
      · exact List.forall_mem_nil _

theorem turnAt_next (c : Cursor) : (turnAt c).next = recover c.position c.rest := by
  unfold Turn.next turnAt
  simp only
  split
  · rename_i s c' h
    obtain ⟨ts, t, hts, ht, htakes⟩ := statement_answer h
    rw [htakes.rest, List.append_assoc, List.singleton_append, recover_append _ _ hts,
      recover_mark _ _ ht, htakes.position, List.length_append, List.length_singleton,
      Nat.add_assoc]
  · rfl

theorem turnAt_result_of_some {c c' : Cursor} {s : Statement}
    (h : (turnAt c).answer = some (s, c')) : (turnAt c).result = .ok s := by
  rw [Turn.result, h]

theorem turnAt_result_of_none {c : Cursor} {t : Token}
    (h : (turnAt c).answer = none)
    (ht : c.rest[(turnAt c).reach.position - c.position]? = some t) :
    (turnAt c).result = .error ⟨t.span, t.lexeme, (turnAt c).reach.expected⟩ := by
  rw [Turn.result, h]
  simp only [SyntaxError.ofReach]
  rw [show (turnAt c).start = c from rfl, ht, Option.some_or]

/-- The reach of a turn lies between its start and the first token that fits no rule. -/
theorem turnAt_reach {c : Cursor} {k : Nat} (hk : c.StopsAt (Token.Fits Inner) k) :
    c.position ≤ (turnAt c).reach.position ∧ (turnAt c).reach.position ≤ k := by
  refine ⟨Reach.le_noteEach (.start c.position) _, ?_⟩
  rcases Reach.noteEach_position (.start c.position) (layers.reading statement c).asked with
    heq | ⟨e, he, heq⟩
  · exact heq ▸ (Cursor.Leads.refl c).le_of_stopsAt hk
  · exact heq ▸ ((statement_within hk).2 e he).2

/-! ## All turns -/

/-- The turns from a place on; each takes a token, so that `bound` limits their number. -/
def turnsFrom : List Token → Cursor → List Turn
  | [], _ => []
  | _ :: bound, c =>
    if atEnd c.rest then [] else turnAt c :: turnsFrom bound (recover c.position c.rest)

theorem turnsFrom_cons (b : Token) (bound : List Token) (i : Nat) {tokens : List Token}
    (h : atEnd tokens = false) : turnsFrom (b :: bound) (.ofTokens i tokens) =
      turnAt (.ofTokens i tokens) :: turnsFrom bound (recover i tokens) :=
  if_neg (Bool.eq_false_iff.1 h)

theorem turnsFrom_of_atEnd (bound : List Token) {c : Cursor} (h : atEnd c.rest = true) :
    turnsFrom bound c = [] := by
  cases bound with
  | nil => rfl
  | cons b bound => exact if_pos h

theorem atEnd_of_turnsFrom_getElem? {bound : List Token} {c : Cursor} {j : Nat} {turn : Turn}
    (h : (turnsFrom bound c)[j]? = some turn) : atEnd c.rest = false := by
  refine Bool.eq_false_iff.2 fun hend => ?_
  rw [turnsFrom_of_atEnd bound hend] at h
  cases h

theorem turnsFrom_append_mark (b : Token) (bound : List Token) (i : Nat) {ts : List Token}
    {t : Token} (hts : ∀ u ∈ ts, ¬ IsStop u) (ht : t.lexeme = .mark ";") (rest : List Token) :
    turnsFrom (b :: bound) (.ofTokens i (ts ++ t :: rest)) =
      turnAt (.ofTokens i (ts ++ t :: rest)) ::
        turnsFrom bound (.ofTokens (i + ts.length + 1) rest) := by
  rw [turnsFrom_cons b bound i (atEnd_append_mark hts ht rest), recover_append i _ hts,
    recover_mark _ _ ht]

theorem turnsFrom_head {bound tokens : List Token} (hb : tokens.length ≤ bound.length) (i : Nat) :
    (turnsFrom bound (.ofTokens i tokens))[0]? =
      if atEnd tokens then none else some (turnAt (.ofTokens i tokens)) := by
  cases hend : atEnd tokens with
  | true =>
    rw [turnsFrom_of_atEnd bound hend]
    rfl
  | false =>
    cases bound with
    | nil =>
      rw [List.length_eq_zero_iff.1 (Nat.le_zero.1 hb)] at hend
      cases hend
    | cons b bound =>
      rw [turnsFrom_cons b bound i hend]
      rfl

/-- The place of a turn is determined by the tokens before it. Whatever other tokens follow, the
turn of that number starts there, too. -/
theorem turnsFrom_getElem? {bound tokens : List Token} (hb : tokens.length ≤ bound.length)
    {i j : Nat} {turn : Turn} (h : (turnsFrom bound (.ofTokens i tokens))[j]? = some turn) :
    ∃ before rest, tokens = before ++ rest ∧ atEnd rest = false ∧
      turn = turnAt (.ofTokens (i + before.length) rest) ∧
      ∀ rest' bound', (before ++ rest').length ≤ bound'.length →
        (turnsFrom bound' (.ofTokens i (before ++ rest')))[j]? =
          if atEnd rest' then none else some (turnAt (.ofTokens (i + before.length) rest')) := by
  induction j generalizing bound i tokens with
  | zero =>
    rw [turnsFrom_head hb] at h
    split at h
    · cases h
    · rename_i hmore
      cases h
      exact ⟨[], tokens, rfl, Bool.eq_false_iff.2 hmore, rfl, fun _ _ hb' => turnsFrom_head hb' i⟩
  | succ j ih =>
    cases bound with
    | nil => cases h
    | cons b bound =>
      have hmore : atEnd tokens = false := atEnd_of_turnsFrom_getElem? h
      rw [turnsFrom_cons b bound i hmore, List.getElem?_cons_succ] at h
      -- There is a turn after the first one, so a semicolon stands between them.
      obtain ⟨ts, t, rest₁, rfl, hts, ht⟩ := exists_of_recover (atEnd_of_turnsFrom_getElem? h)
      rw [recover_append i _ hts, recover_mark _ _ ht] at h
      simp only [List.length_append, List.length_cons] at hb
      obtain ⟨before, rest, rfl, hrest, rfl, hother⟩ := ih (by omega) h
      have hpos : i + ts.length + 1 + before.length = i + (ts ++ t :: before).length := by
        simp only [List.length_append, List.length_cons]
        omega
      rw [hpos] at hother ⊢
      refine ⟨ts ++ t :: before, rest, by simp, hrest, rfl, fun rest' bound' hb' => ?_⟩
      -- With other tokens behind `before`, the first turn still stops at that semicolon.
      rw [List.append_assoc, List.cons_append] at hb' ⊢
      cases bound' with
      | nil => simp at hb'
      | cons b' bound' =>
        simp only [List.length_append, List.length_cons] at hb'
        rw [turnsFrom_append_mark b' bound' i hts ht, List.getElem?_cons_succ]
        exact hother rest' bound' (by simp only [List.length_append]; omega)

section Readers

variable {σ : Type} {x : Reader σ Statement} {J : Nat → σ → Prop} {n : Nat}

theorem turnsOf_of_atEnd (bound : List Token) {c : Cursor} (memory : σ)
    (h : atEnd c.rest = true) : turnsOf x bound c memory = [] := by
  cases bound with
  | nil => rfl
  | cons t bound => rw [turnsOf, if_pos h]

/-- If a reader follows the readings of all turns, its turns are these. -/
theorem turnsOf_eq (hx : ∀ c memory, c.rest.length ≤ n → J c.position memory →
      ∃ memory', x c (.start c.position, memory) =
          ((turnAt c).answer, (turnAt c).reach, memory') ∧
        (atEnd (turnAt c).next.rest = true ∨ J (turnAt c).next.position memory'))
    (bound : List Token) {c : Cursor} {memory : σ} (hc : c.rest.length ≤ n)
    (hJ : J c.position memory) : turnsOf x bound c memory = turnsFrom bound c := by
  induction bound generalizing c memory with
  | nil => rfl
  | cons t bound ih =>
    rw [turnsOf, turnsFrom]
    split
    · rfl
    · obtain ⟨memory', hrun, hnext⟩ := hx c memory hc hJ
      rw [hrun]
      simp only
      show turnAt c :: turnsOf x bound (turnAt c).next memory' = _
      rw [turnAt_next] at hnext ⊢
      congr 1
      rcases recover_rest_length c.position c.rest with hstop | hlt
      · rw [turnsOf_of_atEnd bound memory' hstop, turnsFrom_of_atEnd bound hstop]
      · rcases hnext with hstop | hJ'
        · rw [turnsOf_of_atEnd bound memory' hstop, turnsFrom_of_atEnd bound hstop]
        · exact ih (by omega) hJ'

end Readers

theorem statement_follows {σ : Type} {I : Reach → σ → Prop}
    (hI : ∀ reach memory asked, I reach memory → I (Reach.noteEach reach asked) memory)
    {call : (r : Rule) → Reader σ r.Result} {c : Cursor}
    (h : (call .command).Follows I c (layers.reading (.rule Rule.command) c)) :
    (statement.run call).Follows I c (layers.reading statement c) :=
  .bind_quiet (layers.seq_follows h fun _ c' _ => layers.token_follows hI _ c')
    (fun _ _ => rfl) fun _ => rfl

theorem bound_command_le {tokens : List Token} {c : Cursor} {d : Nat} (hd : depth tokens ≤ d)
    (hc : c.rest.length ≤ tokens.length) :
    layers.bound (.rule Rule.command : Form Statement) c ≤ d := by
  have hbound : layers.bound (.rule Rule.command : Form Statement) c = 11 * c.rest.length + 1 := rfl
  unfold depth at hd
  omega

/-- Without a memory, every depth that is enough gives the same turns. -/
theorem plainTurns_eq {tokens : List Token} {d : Nat} (hd : depth tokens ≤ d) :
    plainTurns d tokens = turnsFrom tokens (.ofTokens 0 tokens) := by
  refine turnsOf_eq (J := fun _ _ => True) (fun c memory hc _ => ?_) tokens (Nat.le_refl _) trivial
  have hrule := layers.runRule_follows memory (bound_command_le hd hc)
  obtain ⟨memory', hrun, _⟩ := statement_follows (fun _ _ _ h => h) hrule (.start c.position) _ rfl
  exact ⟨memory', hrun, .inr trivial⟩

/-- With a memory for whichever rules, too. What is kept in a turn lies before the next turn. -/
theorem keptTurns_eq (keep : Rule → Bool) {tokens : List Token} {d : Nat}
    (hd : depth tokens ≤ d) :
    turnsOf (statement.run (Peg.runCached form keep d)) tokens (.ofTokens 0 tokens) ∅ =
      turnsFrom tokens (.ofTokens 0 tokens) := by
  refine turnsOf_eq (J := fun i memory => ∀ key ∈ memory, key.1 < i) (fun c memory hc hJ => ?_)
    tokens (Nat.le_refl _) fun key hkey => absurd hkey Std.DHashMap.not_mem_empty
  obtain ⟨k, hstop, hle, hnext⟩ := stopsAt_recover c
  have hrule := layers.runCached_follows form_terminals keep hstop (.refl c)
    (bound_command_le hd hc)
  obtain ⟨memory', hrun, hrecalls⟩ := statement_follows (fun _ _ asked h => h.noteEach asked) hrule
    (.start c.position) memory (.of_lt hJ hle)
  refine ⟨memory', hrun, ?_⟩
  rw [turnAt_next]
  exact hnext.imp_right fun hlt key hkey => Nat.lt_of_le_of_lt (hrecalls.position_le key hkey) hlt

theorem turns_eq (tokens : List Token) : turns tokens = turnsFrom tokens (.ofTokens 0 tokens) :=
  keptTurns_eq kept (Nat.le_refl _)

end ModelLang.Grammar

namespace ModelLang

/-- The memory is transparent: with the rules read afresh at every place, however deep they may
stand inside one another, the program is the same. -/
theorem Program.ofTokens_eq_ofTurns_plainTurns (tokens : List Token) (extra : Nat) :
    Program.ofTokens tokens =
      .ofTurns (Grammar.plainTurns (Grammar.depth tokens + extra) tokens) := by
  rw [ofTokens, Grammar.turns_eq, Grammar.plainTurns_eq (Nat.le_add_right _ extra)]

end ModelLang
