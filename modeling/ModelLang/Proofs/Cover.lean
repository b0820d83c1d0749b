import Mathlib.Data.List.Basic
import ModelLang.Proofs.Lines
import ModelLang.Proofs.Spelling

/-!
# ModelLang.Proofs.Cover

The tokens of a text cover it. A line consists of its tokens, of the blanks around them and of at
most one comment at its end (`Token.OnLine`). From this follows where each token lies: it is spelled
by the characters at its span, and ends before the next one starts (`Token.Covers`).
-/

namespace ModelLang

namespace Token

/-! ## Scanning past a token -/

theorem scanLine_skip (line column : Nat) (cs tail : List Char) :
    scanLine line cs.length column (cs ++ tail) =
      scanLine line 0 (column + Text.utf8Length cs) tail := by
  induction cs generalizing column with
  | nil => rfl
  | cons c cs ih =>
    rw [List.cons_append, List.length_cons, scanLine, ih, Text.utf8Length_cons, Nat.add_assoc]

/-- A lexeme gives one token, after which the scan of the line goes on. -/
theorem scanLine_lexeme {line column : Nat} {c : Char} {cs tail : List Char} {l : Lexeme}
    (h : front c (cs ++ tail) = .lexeme l (c :: cs).length) :
    scanLine line 0 column (c :: cs ++ tail) =
      (scanLine line 0 (column + Text.utf8Length (c :: cs)) tail).map
        (⟨l, .determined ⟨line, column⟩ ⟨line, column + Text.utf8Length (c :: cs)⟩⟩ :: ·) := by
  rw [List.cons_append, scanLine, h]
  simp only
  rw [← List.cons_append, List.take_left, List.length_cons, Nat.add_sub_cancel, scanLine_skip,
    Text.utf8Length_cons, Nat.add_assoc]
  cases scanLine line 0 (column + (c.utf8Size + Text.utf8Length cs)) tail <;> rfl

theorem scanLine_blank {line column : Nat} {c : Char} {rest : List Char}
    (h : front c rest = .blank) :
    scanLine line 0 column (c :: rest) = scanLine line 0 (column + c.utf8Size) rest := by
  rw [scanLine, h]

theorem isBlank_of_front {c : Char} {rest : List Char} (h : front c rest = .blank) :
    isBlank c = true := by
  unfold front at h
  split at h
  · cases h
  split at h
  · assumption
  split at h
  · split at h <;> cases h
  split at h
  · cases h
  split at h
  · cases h
  split at h <;> cases h

theorem eq_of_front_comment {c : Char} {rest : List Char} (h : front c rest = .comment) :
    c = '#' := by
  unfold front at h
  split at h
  · assumption
  split at h
  · cases h
  split at h
  · split at h <;> cases h
  split at h
  · cases h
  split at h
  · cases h
  split at h <;> cases h

/-! ## Lines -/

/-- The tokens of the rest of a line that goes on at `column`. -/
inductive OnLine (line : Nat) : Nat → List Char → List Token → Prop where
  | done {column : Nat} : OnLine line column [] []
  | comment {column : Nat} {rest : List Char} : OnLine line column ('#' :: rest) []
  | blank {column : Nat} {c : Char} {rest : List Char} {tokens : List Token}
      (hc : isBlank c = true) (h : OnLine line (column + c.utf8Size) rest tokens) :
      OnLine line column (c :: rest) tokens
  | token {column : Nat} {cs rest : List Char} {l : Lexeme} {tokens : List Token}
      (hl : l.SpelledBy cs) (hne : cs ≠ [])
      (h : OnLine line (column + Text.utf8Length cs) rest tokens) :
      OnLine line column (cs ++ rest)
        (⟨l, .determined ⟨line, column⟩ ⟨line, column + Text.utf8Length cs⟩⟩ :: tokens)

/-- The tokens of lines that are numbered from `line` on. -/
inductive OnLines : Nat → List (List Char) → List Token → Prop where
  | nil {line : Nat} : OnLines line [] []
  | cons {line : Nat} {cs : List Char} {lines : List (List Char)} {first rest : List Token}
      (hfirst : OnLine line 1 cs first) (hrest : OnLines (line + 1) lines rest) :
      OnLines line (cs :: lines) (first ++ rest)

/-- By induction on what is left of the line. -/
theorem scanLine_onLine {line column : Nat} {cs : List Char} {tokens : List Token}
    (h : scanLine line 0 column cs = .ok tokens) : OnLine line column cs tokens := by
  induction hn : cs.length using Nat.strongRecOn generalizing column cs tokens with
  | _ n ih =>
    subst hn
    rcases cs with _ | ⟨c, rest⟩
    · cases h
      exact .done
    cases hfront : front c rest with
    | comment =>
      rw [scanLine, hfront] at h
      cases h
      rw [eq_of_front_comment hfront]
      exact .comment
    | blank =>
      rw [scanLine_blank hfront] at h
      exact .blank (isBlank_of_front hfront) (ih _ (Nat.lt_succ_self _) h rfl)
    | openString =>
      rw [scanLine, hfront] at h
      cases h
    | unexpected =>
      rw [scanLine, hfront] at h
      cases h
    | lexeme l taken =>
      obtain ⟨text, tail, heq, rfl, hne, hl⟩ := front_spells hfront
      rcases text with _ | ⟨d, text⟩
      · exact absurd rfl hne
      obtain ⟨rfl, rfl⟩ : c = d ∧ rest = text ++ tail := List.cons.inj heq
      rw [← List.cons_append] at h ⊢
      rw [scanLine_lexeme hfront] at h
      rcases hmore : scanLine line 0 (column + Text.utf8Length (c :: text)) tail with e | more
      · rw [hmore] at h
        cases h
      · rw [hmore] at h
        cases h
        have hlength : tail.length < (c :: (text ++ tail)).length := by
          simp only [List.length_append, List.length_cons]
          omega
        exact .token hl hne (ih tail.length hlength hmore rfl)

theorem scanLines_onLines {line : Nat} {last : Location} {lines : List (List Char)}
    {tokens : List Token} (h : scanLines line last lines = .ok tokens) :
    ∃ body e, tokens = body ++ [e] ∧ e.lexeme = .endOfInput ∧ OnLines line lines body := by
  induction lines generalizing line last tokens with
  | nil =>
    cases h
    exact ⟨[], _, rfl, rfl, .nil⟩
  | cons cs lines ih =>
    unfold scanLines at h
    split at h
    · cases h
    · rename_i first hfirst
      split at h
      · rename_i more hmore
        cases h
        obtain ⟨body, e, rfl, he, hbody⟩ := ih hmore
        exact ⟨first ++ body, e, (List.append_assoc ..).symm, he,
          .cons (scanLine_onLine hfirst) hbody⟩
      · cases h

/-! ## Where tokens lie -/

/-- The characters that stand in a line from a column on, up to another. -/
def Slice (line : List Char) (first last : Nat) (cs : List Char) : Prop :=
  ∃ before after, line = before ++ cs ++ after ∧
    first = Text.utf8Length before + 1 ∧ last = first + Text.utf8Length cs

/-- The token lies on one line and is spelled by the characters at its span, of which there are
some. -/
def LiesIn (lines : List (List Char)) (t : Token) : Prop :=
  ∃ n line cs, lines[n]? = some line ∧ t.span.start.line = n + 1 ∧ t.span.stop.line = n + 1 ∧
    t.span.start.column < t.span.stop.column ∧
    Slice line t.span.start.column t.span.stop.column cs ∧ t.lexeme.SpelledBy cs

end Token

/-- The place comes before the other one in a text, or is the same. -/
def Location.UpTo (a b : Location) : Prop :=
  a.line < b.line ∨ a.line = b.line ∧ a.column ≤ b.column

namespace Token

/-- The tokens of a text, apart from the end mark. -/
structure Covers (lines : List (List Char)) (tokens : List Token) : Prop where
  /-- Every line consists of tokens and of what may stand between them. -/
  onLines : OnLines 1 lines tokens
  liesIn : ∀ t ∈ tokens, t.LiesIn lines
  ordered : tokens.Pairwise fun t u => t.span.stop.UpTo u.span.start
  noEnd : ∀ t ∈ tokens, t.lexeme ≠ .endOfInput

theorem utf8Length_pos {cs : List Char} (h : cs ≠ []) : 0 < Text.utf8Length cs := by
  cases cs with
  | nil => exact absurd rfl h
  | cons c cs => exact Nat.add_pos_left c.utf8Size_pos _

theorem OnLine.slice {line column : Nat} {cs : List Char} {tokens : List Token}
    (h : OnLine line column cs tokens) {before : List Char}
    (hcolumn : column = Text.utf8Length before + 1) :
    ∀ t ∈ tokens, ∃ text, Slice (before ++ cs) t.span.start.column t.span.stop.column text ∧
      t.lexeme.SpelledBy text := by
  induction h generalizing before with
  | done | comment => exact List.forall_mem_nil _
  | @blank column c rest tokens _ _ ih =>
    rw [List.append_cons]
    exact ih (by simp [hcolumn]; omega)
  | @token column cs rest l tokens hl _ _ ih =>
    rw [← List.append_assoc]
    refine List.forall_mem_cons.2 ⟨?_, ih (by simp [hcolumn]; omega)⟩
    exact ⟨cs, ⟨before, rest, rfl, hcolumn, rfl⟩, hl⟩

/-- The token lies on a line, at a column or later. -/
structure From (line column : Nat) (t : Token) : Prop where
  start : t.span.start.line = line
  stop : t.span.stop.line = line
  from_le : column ≤ t.span.start.column
  nonempty : t.span.start.column < t.span.stop.column

theorem OnLine.from {line column : Nat} {cs : List Char} {tokens : List Token}
    (h : OnLine line column cs tokens) : ∀ t ∈ tokens, t.From line column := by
  induction h with
  | done | comment => exact List.forall_mem_nil _
  | blank _ _ ih =>
    exact fun t ht => { ih t ht with from_le := Nat.le_of_add_right_le (ih t ht).from_le }
  | token _ hne _ ih =>
    have hpos := utf8Length_pos hne
    refine List.forall_mem_cons.2 ⟨⟨rfl, rfl, Nat.le_refl _, Nat.lt_add_of_pos_right hpos⟩, ?_⟩
    exact fun t ht => { ih t ht with from_le := Nat.le_of_add_right_le (ih t ht).from_le }

theorem OnLine.ordered {line column : Nat} {cs : List Char} {tokens : List Token}
    (h : OnLine line column cs tokens) :
    tokens.Pairwise fun t u => t.span.stop.UpTo u.span.start := by
  induction h with
  | done | comment => exact .nil
  | blank _ _ ih => exact ih
  | token _ _ h ih =>
    exact .cons (fun u hu => .inr ⟨(h.from u hu).start.symm, (h.from u hu).from_le⟩) ih

theorem OnLine.noEnd {line column : Nat} {cs : List Char} {tokens : List Token}
    (h : OnLine line column cs tokens) : ∀ t ∈ tokens, t.lexeme ≠ .endOfInput := by
  induction h with
  | done | comment => exact List.forall_mem_nil _
  | blank _ _ ih => exact ih
  | token hl _ _ ih =>
    refine List.forall_mem_cons.2 ⟨?_, ih⟩
    rintro rfl
    exact hl

theorem OnLines.from {line : Nat} {lines : List (List Char)} {tokens : List Token}
    (h : OnLines line lines tokens) : ∀ t ∈ tokens, line ≤ t.span.start.line := by
  induction h with
  | nil => exact List.forall_mem_nil _
  | cons hfirst _ ih =>
    refine List.forall_mem_append.2 ⟨fun t ht => ?_, fun t ht => Nat.le_of_succ_le (ih t ht)⟩
    exact Nat.le_of_eq (hfirst.from t ht).start.symm

theorem OnLines.ordered {line : Nat} {lines : List (List Char)} {tokens : List Token}
    (h : OnLines line lines tokens) :
    tokens.Pairwise fun t u => t.span.stop.UpTo u.span.start := by
  induction h with
  | nil => exact .nil
  | cons hfirst hrest ih =>
    refine List.pairwise_append.2 ⟨hfirst.ordered, ih, fun t ht u hu => .inl ?_⟩
    rw [(hfirst.from t ht).stop]
    exact hrest.from u hu

theorem OnLines.noEnd {line : Nat} {lines : List (List Char)} {tokens : List Token}
    (h : OnLines line lines tokens) : ∀ t ∈ tokens, t.lexeme ≠ .endOfInput := by
  induction h with
  | nil => exact List.forall_mem_nil _
  | cons hfirst _ ih => exact List.forall_mem_append.2 ⟨hfirst.noEnd, ih⟩

theorem OnLines.liesIn {lines whole : List (List Char)} {line n : Nat} {tokens : List Token}
    (h : OnLines line lines tokens) (hn : line = n + 1) (hlines : whole.drop n = lines) :
    ∀ t ∈ tokens, t.LiesIn whole := by
  induction h generalizing n with
  | nil => exact List.forall_mem_nil _
  | @cons line cs lines first rest hfirst _ ih =>
    refine List.forall_mem_append.2 ⟨fun t ht => ?_, ih (by rw [hn]) ?_⟩
    · have hat : whole[n]? = some cs := by
        rw [← Nat.add_zero n, ← List.getElem?_drop, hlines]
        rfl
      obtain ⟨text, hslice, hspelled⟩ :=
        hfirst.slice (show 1 = Text.utf8Length [] + 1 from rfl) t ht
      have hfrom := hfirst.from t ht
      exact ⟨n, cs, text, hat, hn ▸ hfrom.start, hn ▸ hfrom.stop, hfrom.nonempty, hslice, hspelled⟩
    · rw [← List.drop_drop, hlines]
      rfl

theorem OnLines.covers {lines : List (List Char)} {tokens : List Token}
    (h : OnLines 1 lines tokens) : Covers lines tokens where
  onLines := h
  liesIn := h.liesIn (n := 0) rfl rfl
  ordered := h.ordered
  noEnd := h.noEnd

/-- A text consists of its lines and line breaks, its lines of their tokens and of what may stand
between them. The only end mark is the last token. -/
theorem scan_covers {text : List Char} {tokens : List Token} (h : scan text = .ok tokens) :
    Text.Broken text (Text.lines text) ∧
      ∃ body e, tokens = body ++ [e] ∧ e.lexeme = .endOfInput ∧
        Covers (Text.lines text) body := by
  obtain ⟨body, e, rfl, he, hbody⟩ := scanLines_onLines h
  exact ⟨Text.broken_iff.2 rfl, body, e, rfl, he, hbody.covers⟩

/-- A string with a character of two bytes and a quote in it, a comment, and a second line. -/
theorem scan_covers_quoted :
    ∃ tokens, scan "x:=\"é\\\"\";# y\r\n\tz".toList = .ok tokens ∧
      Text.Broken "x:=\"é\\\"\";# y\r\n\tz".toList
        (Text.lines "x:=\"é\\\"\";# y\r\n\tz".toList) ∧
      ∃ body e, tokens = body ++ [e] ∧ e.lexeme = .endOfInput ∧
        Covers (Text.lines "x:=\"é\\\"\";# y\r\n\tz".toList) body := by
  let tokens : List Token := [⟨.name "x", .determined ⟨1, 1⟩ ⟨1, 2⟩⟩,
    ⟨.mark ":=", .determined ⟨1, 2⟩ ⟨1, 4⟩⟩, ⟨.string "é\"", .determined ⟨1, 4⟩ ⟨1, 10⟩⟩,
    ⟨.mark ";", .determined ⟨1, 10⟩ ⟨1, 11⟩⟩, ⟨.name "z", .determined ⟨2, 2⟩ ⟨2, 3⟩⟩,
    ⟨.endOfInput, .determined ⟨2, 3⟩ ⟨2, 3⟩⟩]
  have hscan : scan "x:=\"é\\\"\";# y\r\n\tz".toList = .ok tokens := by decide +kernel
  exact ⟨tokens, hscan, scan_covers hscan⟩

end Token

end ModelLang
