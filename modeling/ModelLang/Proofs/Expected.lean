import ModelLang.Proofs.Chunks
import ModelLang.Proofs.Complaint
import ModelLang.Proofs.Spelling

/-!
# ModelLang.Proofs.Expected

What an error lists as expected is what would let its turn get on. In the tokens of a text whose
numerals have values, let a turn fail at some position, and put another token there. The turn then
passes the position if a terminal that was asked for there fits the token, and fails there as before
if none does (`Grammar.turnAt_passes_iff`). The texts of an error tell its terminals apart, since no
word is shown like a mark (`Terminal.shown_inj`).
-/

namespace ModelLang

/-! ## Terminals and lexemes -/

namespace Terminal

/-- Words are reserved, and marks are those of the language. -/
def genuine : Terminal → Bool
  | .word s => Token.reserved.contains s
  | .mark s => Token.marks.contains s
  | _ => true

theorem not_reserved_of_mark : ∀ s ∈ Token.marks, s ∉ Token.reserved := by
  decide +kernel

theorem genuine_word_mark {s : String} (hword : (word s).genuine = true)
    (hmark : (mark s).genuine = true) : False :=
  not_reserved_of_mark s (List.contains_iff_mem.1 hmark) (List.contains_iff_mem.1 hword)

theorem shown_inj {x y : Terminal} (hx : x.genuine = true) (hy : y.genuine = true)
    (h : x.shown = y.shown) : x = y := by
  rw [← String.toList_inj] at h
  cases x with
  | word s =>
    cases y with
    | word t => simpa [shown, String.toList_inj] using h
    | mark t =>
      obtain rfl : s = t := by simpa [shown, String.toList_inj] using h
      exact (genuine_word_mark hx hy).elim
    | _ => simp [shown] at h
  | mark s =>
    cases y with
    | word t =>
      obtain rfl : s = t := by simpa [shown, String.toList_inj] using h
      exact (genuine_word_mark hy hx).elim
    | mark t => simpa [shown, String.toList_inj] using h
    | _ => simp [shown] at h
  | _ => cases y <;> simp [shown] at h ⊢

end Terminal

namespace Lexeme

/-- The terminal that asks for the lexeme. None asks for the end. -/
def terminal : Lexeme → Option Terminal
  | .name _ => some .name
  | .numeral _ => some .numeral
  | .string _ => some .string
  | .word s => some (.word s)
  | .mark s => some (.mark s)
  | .endOfInput => none

theorem fits_iff {x : Terminal} {l : Lexeme} : x.fits l = true ↔ l.terminal = some x := by
  cases x <;> cases l <;> simp [Terminal.fits, terminal, eq_comm]

/-- What stands for the lexeme in a list of what was expected. -/
def described (l : Lexeme) : Option String :=
  l.terminal.map Terminal.shown

/-- A numeral has a value. -/
def admissible : Lexeme → Bool
  | .numeral s => (Numeral.value? s.toList).isSome
  | _ => true

/-- The lexeme stands among the tokens of some text. -/
def Scanned (l : Lexeme) : Prop :=
  ∃ text tokens, Token.scan text = .ok tokens ∧ ∃ t ∈ tokens, t.lexeme = l

end Lexeme

/-! ## Scanned tokens -/

namespace Token

/-- The lexeme is a word that is reserved, a mark of the language, or of another class. -/
def Genuine (t : Token) : Prop :=
  ∀ x ∈ t.lexeme.terminal, x.genuine = true

theorem front_genuine {c : Char} {rest : List Char} {l : Lexeme} {n : Nat}
    (h : front c rest = .lexeme l n) : ∀ x ∈ l.terminal, x.genuine = true := by
  unfold front at h
  split at h
  · cases h
  split at h
  · cases h
  split at h
  · split at h
    · cases h
      rintro _ ⟨⟩
      rfl
    · cases h
  split at h
  · cases h
    split
    · rename_i hreserved
      rintro _ ⟨⟩
      exact List.contains_iff_mem.2 hreserved
    · rintro _ ⟨⟩
      rfl
  split at h
  · cases h
    rintro _ ⟨⟩
    rfl
  split at h
  · rename_i m hmark
    cases h
    rintro _ ⟨⟩
    exact List.contains_iff_mem.2 (List.mem_of_find?_eq_some hmark)
  · cases h

theorem scanLines_genuine {line : Nat} {last : Location} {lines : List (List Char)}
    {tokens : List Token} (h : scanLines line last lines = .ok tokens) :
    (∀ t ∈ tokens, t.Genuine) ∧ ∃ body e, tokens = body ++ [e] ∧ e.isEnd = true := by
  obtain ⟨body, e, rfl, hbody, he⟩ := scanLines_forall
    (P := fun l => ∀ x ∈ l.terminal, x.genuine = true) (fun _ _ _ _ => front_genuine) h
  refine ⟨List.forall_mem_append.2 ⟨hbody, List.forall_mem_singleton.2 ?_⟩, body, e, rfl, he⟩
  rw [Genuine, of_decide_eq_true he]
  rintro _ ⟨⟩

theorem genuine_of_scanned {t : Token} (h : t.lexeme.Scanned) : t.Genuine := by
  obtain ⟨text, tokens, hscan, u, hu, hlexeme⟩ := h
  unfold Genuine
  rw [← hlexeme]
  exact (scanLines_genuine hscan).1 u hu

end Token

namespace Grammar

/-! ## What a turn has asked for -/

theorem form_genuine (r : Rule) : ∀ x ∈ (form r).terminals, x.genuine = true := by
  cases r <;> decide +kernel

/-- Rules that ask for more in vain where they stop. -/
def greedyRule : Rule → Bool
  | .expr | .indexSet => true
  | _ => false

theorem form_greedy (r : Rule) (h : greedyRule r = true) :
    (form r).greedy greedyRule = true := by
  cases r <;> first | rfl | cases h

def Admissible (t : Token) : Prop :=
  t.lexeme.admissible = true

theorem numeral_harmless : layers.Harmless Admissible greedyRule
    ⟨fun t => (Numeral.value? (content t).toList).map (Expr.number · t.span), .token .numeral⟩ := by
  refine .inr fun c hc found c' h => ?_
  rw [layers.reading_token, Reading.ofNext_answer] at h
  obtain ⟨hfits, htakes⟩ := Cursor.next?_eq_some h
  have hfound : Admissible found := hc found (htakes.rest ▸ List.mem_cons_self)
  obtain ⟨s, hs⟩ : ∃ s, found.lexeme = .numeral s := by
    cases hl : found.lexeme with
    | numeral s => exact ⟨s, rfl⟩
    | _ =>
      rw [hl] at hfits
      cases hfits
  rw [Admissible, hs] at hfound
  rw [Option.isSome_map, content, hs]
  exact hfound

/-- The two filters are that of a numeral and that of an index set with a pattern. -/
theorem form_harmless (r : Rule) :
    ∀ F ∈ (form r).filters, layers.Harmless Admissible greedyRule F := by
  cases r with
  | unary =>
    exact List.forall_mem_cons.2 ⟨numeral_harmless, List.forall_mem_singleton.2 (.inl rfl)⟩
  | _ => exact List.forall_mem_nil _

theorem statement_tells {c : Cursor} (hc : ∀ t ∈ c.rest, Admissible t) :
    (layers.reading statement c).Tells false c :=
  layers.reading_tells (p := statement) form_greedy form_harmless rfl (List.forall_mem_nil _) hc

theorem used_le_reach {c : Cursor} (hc : ∀ t ∈ c.rest, Admissible t)
    (hnone : (turnAt c).answer = none) :
    (layers.reading statement c).used ≤ (turnAt c).reach.position := by
  obtain ⟨⟨e, he, hle⟩, _⟩ := (statement_tells hc).fails hnone
  exact Nat.le_trans hle (Reach.le_noteEach_of_mem _ he)

theorem genuine_of_expected {c : Cursor} {x : Terminal} (hx : x ∈ (turnAt c).reach.expected) :
    x.genuine = true :=
  ((layers.reading_stays form_genuine rfl (by decide +kernel) c).asked _
    (Reach.mem_noteEach_start.1 hx)).1

/-! ## Another token -/

/-- The turn reads a statement, or fails after position `k`. -/
def Turn.Passes (turn : Turn) (k : Nat) : Prop :=
  turn.answer.isSome = true ∨ k < turn.reach.position

/-- Suppose that a turn fails at a position, and that `t` stands there instead, whatever follows.
Then the turn passes this position if and only if something that fits `t` was expected. -/
theorem turnAt_passes_iff {i : Nat} {u v v' : List Token} {t : Token}
    (hadm : ∀ t ∈ u ++ v, Admissible t) (hadm' : ∀ s ∈ u ++ t :: v', Admissible s)
    (hnone : (turnAt (.ofTokens i (u ++ v))).answer = none)
    (hk : (turnAt (.ofTokens i (u ++ v))).reach.position = i + u.length) :
    (turnAt (.ofTokens i (u ++ t :: v'))).Passes (i + u.length) ↔
      ∃ x ∈ (turnAt (.ofTokens i (u ++ v))).reach.expected, x.fits t.lexeme = true := by
  let c := Cursor.ofTokens i (u ++ v)
  let c' := Cursor.ofTokens i (u ++ t :: v')
  have hexpected {x : Terminal} : x ∈ (turnAt c).reach.expected ↔
      (i + u.length, x) ∈ (layers.reading statement c).asked := hk ▸ Reach.mem_noteEach_start
  have hbeside : c.Beside 0 (i + u.length) v (t :: v') c' := ⟨u, rfl, rfl, rfl, rfl, rfl⟩
  have hkeeps := layers.reading_keeps (p := statement) rfl hbeside (hk ▸ used_le_reach hadm hnone)
  constructor
  · intro hon
    rcases hkeeps with h | ⟨_, ⟨j, x⟩, hx, rfl, s, hs, hfits⟩
    · -- the turn fails as before
      have hsame : (turnAt c').answer.isSome = (turnAt c).answer.isSome := h.answer.isSome_eq
      have hreach := reach_of_agrees h rfl
      rw [hnone] at hsame
      rw [Turn.Passes, hsame, hreach] at hon
      exact absurd hk (Nat.ne_of_gt (hon.resolve_left Bool.false_ne_true))
    · cases hs
      exact ⟨x, hexpected.2 hx, hfits⟩
  · rintro ⟨x, hx, hfits⟩
    rcases hkeeps with h | ⟨hused, _⟩
    · have hmiss := h.misses _ (hexpected.1 hx) rfl t rfl
      rw [hfits] at hmiss
      cases hmiss
    · by_cases ha : (turnAt c').answer = none
      · exact .inr (Nat.lt_of_lt_of_le hused (used_le_reach hadm' ha))
      · exact .inl (Option.isSome_iff_ne_none.2 ha)

/-- The tokens with `t` in the place of the one at position `k`, or before it if that is the end
mark. -/
def put (k : Nat) (t : Token) (tokens : List Token) : List Token :=
  match tokens.drop k with
  | found :: rest => tokens.take k ++ t :: (if found.isEnd then found :: rest else rest)
  | [] => tokens ++ [t]

theorem put_append (before : List Token) (t found : Token) (rest : List Token) :
    put before.length t (before ++ found :: rest) =
      before ++ t :: (if found.isEnd then found :: rest else rest) := by
  rw [put, List.drop_left, List.take_left]

/-- What is described in the error of a turn are the lexemes that fit an expected terminal. -/
theorem described_iff {c : Cursor} {l : Lexeme} (hl : ∀ x ∈ l.terminal, x.genuine = true)
    (span : Span) (found : Lexeme) :
    (∃ text ∈ (SyntaxError.mk span found (turnAt c).reach.expected).expectedTexts,
        l.described = some text) ↔ ∃ x ∈ (turnAt c).reach.expected, x.fits l = true := by
  simp only [SyntaxError.expectedTexts, List.mem_mergeSort, List.mem_map]
  constructor
  · rintro ⟨_, ⟨x, hx, rfl⟩, hdescribed⟩
    obtain ⟨y, hy, hshown⟩ := Option.map_eq_some_iff.1 hdescribed
    have hxy := Terminal.shown_inj (hl y hy) (genuine_of_expected hx) hshown
    exact ⟨x, hx, Lexeme.fits_iff.2 (hxy ▸ hy)⟩
  · rintro ⟨x, hx, hfits⟩
    refine ⟨x.shown, ⟨x, hx, rfl⟩, ?_⟩
    rw [Lexeme.described, Lexeme.fits_iff.1 hfits]
    rfl

theorem exists_append_of_getElem? {tokens : List Token} {k : Nat} {t : Token}
    (h : tokens[k]? = some t) : ∃ u v, tokens = u ++ t :: v ∧ u.length = k := by
  obtain ⟨hlt, rfl⟩ := List.getElem?_eq_some_iff.1 h
  refine ⟨tokens.take k, tokens.drop (k + 1), ?_, List.length_take_of_le (Nat.le_of_lt hlt)⟩
  rw [List.getElem_cons_drop, List.take_append_drop]

theorem exists_found {i : Nat} {rest : List Token} {e : Token} (he : e.isEnd = true)
    (hmem : e ∈ rest) (hnone : (turnAt (.ofTokens i rest)).answer = none) :
    ∃ u found v, rest = u ++ found :: v ∧
      (turnAt (.ofTokens i rest)).reach.position = i + u.length ∧
      (turnAt (.ofTokens i rest)).result =
        .error ⟨found.span, found.lexeme, (turnAt (.ofTokens i rest)).reach.expected⟩ := by
  obtain ⟨ts, w, rfl⟩ := List.append_of_mem hmem
  obtain ⟨found, _, hat⟩ := exists_reached ts (.inl he) i w
  have hle : i ≤ (turnAt (.ofTokens i (ts ++ e :: w))).reach.position :=
    (turnAt_reach (stopsAt_append i ts (.inl he) w)).1
  obtain ⟨u, v, hrest, hlen⟩ := exists_append_of_getElem? (hat w)
  exact ⟨u, found, v, hrest, by omega, turnAt_result_of_none hnone (hat w)⟩

theorem answer_of_error {c : Cursor} {err : SyntaxError} (h : (turnAt c).result = .error err) :
    (turnAt c).answer = none := by
  rcases ha : (turnAt c).answer with _ | ⟨s, r⟩
  · rfl
  · rw [turnAt_result_of_some ha] at h
    cases h

theorem put_turn (before : List Token) {u v : List Token} {found t : Token} (ht : Admissible t)
    (hadm : ∀ s ∈ u ++ found :: v, Admissible s) :
    ∃ w, put (before.length + u.length) t (before ++ (u ++ found :: v)) =
        before ++ (u ++ t :: w) ∧ ∀ s ∈ u ++ t :: w, Admissible s := by
  refine ⟨if found.isEnd then found :: v else v, ?_, ?_⟩
  · rw [← List.append_assoc, ← List.length_append, put_append, List.append_assoc]
  · obtain ⟨hu, hfound⟩ := List.forall_mem_append.1 hadm
    refine List.forall_mem_append.2 ⟨hu, List.forall_mem_cons.2 ⟨ht, ?_⟩⟩
    split
    · exact hfound
    · exact (List.forall_mem_cons.1 hfound).2

/-- No terminal asks for the end, where there is no turn either. -/
theorem not_fits_of_atEnd {u v w : List Token} {found t : Token}
    (hrest : atEnd (u ++ found :: v) = false) (hend : atEnd (u ++ t :: w) = true) (x : Terminal) :
    ¬ x.fits t.lexeme = true := by
  cases u with
  | nil =>
    rw [Lexeme.fits_iff, of_decide_eq_true (p := t.lexeme = .endOfInput) hend]
    exact nofun
  | cons s u => exact absurd hend (Bool.eq_false_iff.1 hrest)

/-- The terminals of an error are exact. Suppose that a text has numerals with values only, and that
one of its turns fails, at position `k`. Then a token that stands in some text, put at `k`, lets the
turn pass this position if and only if the error lists it among what was expected. -/
theorem expected_iff_passes {text : List Char} {tokens : List Token}
    (hscan : Token.scan text = .ok tokens) (hadm : ∀ t ∈ tokens, t.lexeme.admissible = true)
    {j : Nat} {turn : Turn} (hturn : (turns tokens)[j]? = some turn) {err : SyntaxError}
    (herr : turn.result = .error err) :
    ∃ k found, turn.reach.position = k ∧ tokens[k]? = some found ∧
      err.span = found.span ∧ err.found = found.lexeme ∧
      ∀ t : Token, t.lexeme.Scanned → t.lexeme.admissible = true →
        ((∃ turn', (turns (put k t tokens))[j]? = some turn' ∧ turn'.Passes k) ↔
          ∃ text ∈ err.expectedTexts, t.lexeme.described = some text) := by
  obtain ⟨_, body, e, hbody, he⟩ := Token.scanLines_genuine hscan
  rw [turns_eq] at hturn
  obtain ⟨before, rest, rfl, hrest, rfl, hother⟩ := turnsFrom_getElem? (Nat.le_refl _) hturn
  rw [Nat.zero_add] at herr hother ⊢
  have hmem : e ∈ rest := by
    have hne : rest ≠ [] := by
      rintro rfl
      cases hrest
    have hlast := congrArg List.getLast? hbody
    rw [List.getLast?_append_of_ne_nil _ hne, List.getLast?_concat] at hlast
    exact List.mem_of_getLast? hlast
  have hnone := answer_of_error herr
  obtain ⟨u, found, v, rfl, hk, hresult⟩ := exists_found he hmem hnone
  rw [hresult] at herr
  cases herr
  refine ⟨before.length + u.length, found, hk, ?_, rfl, rfl, fun t hscanned ht => ?_⟩
  · rw [← List.append_assoc, ← List.length_append, List.getElem?_append_right (Nat.le_refl _),
      Nat.sub_self]
    rfl
  have hadm := (List.forall_mem_append.1 hadm).2
  obtain ⟨w, hput, hadm'⟩ := put_turn before ht hadm
  rw [described_iff (Token.genuine_of_scanned hscanned), hput, turns_eq, hother _ _ (Nat.le_refl _)]
  cases hend : atEnd (u ++ t :: w) with
  | true =>
    constructor
    · rintro ⟨_, ⟨⟩, _⟩
    · rintro ⟨x, _, hfits⟩
      exact absurd hfits (not_fits_of_atEnd hrest hend x)
  | false =>
    rw [← turnAt_passes_iff hadm hadm' hnone hk]
    constructor
    · rintro ⟨_, ⟨⟩, hpasses⟩
      exact hpasses
    · exact fun hpasses => ⟨_, rfl, hpasses⟩

/-- After `check 1` a semicolon or an operator may follow, and nothing else. -/
theorem expected_after_check :
    ∃ tokens turn err, Token.scan "check 1".toList = .ok tokens ∧
      (∀ t ∈ tokens, t.lexeme.admissible = true) ∧ (turns tokens)[0]? = some turn ∧
      turn.result = .error err ∧
      ∃ k found, turn.reach.position = k ∧ tokens[k]? = some found ∧
        err.span = found.span ∧ err.found = found.lexeme ∧
        ∀ t : Token, t.lexeme.Scanned → t.lexeme.admissible = true →
          ((∃ turn', (turns (put k t tokens))[0]? = some turn' ∧ turn'.Passes k) ↔
            ∃ text ∈ err.expectedTexts, t.lexeme.described = some text) := by
  let tokens : List Token := [⟨.word "check", .determined ⟨1, 1⟩ ⟨1, 6⟩⟩,
    ⟨.numeral "1", .determined ⟨1, 7⟩ ⟨1, 8⟩⟩, ⟨.endOfInput, .determined ⟨1, 8⟩ ⟨1, 8⟩⟩]
  let turn := turnAt (.ofTokens 0 tokens)
  have hscan : Token.scan "check 1".toList = .ok tokens := by decide +kernel
  have hadm : ∀ t ∈ tokens, t.lexeme.admissible = true := by decide +kernel
  have hturn : (turns tokens)[0]? = some turn := by
    rw [turns_eq]
    rfl
  have hnone : turn.answer = none := Option.isNone_iff_eq_none.1 (by decide +kernel)
  have herr : turn.result = .error (.ofReach turn.start turn.reach) := by
    rw [Turn.result, hnone]
  exact ⟨tokens, turn, _, hscan, hadm, hturn, herr, expected_iff_passes hscan hadm hturn herr⟩

end Grammar

end ModelLang
