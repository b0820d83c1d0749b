import ModelLang.Proofs.Cover

/-!
# ModelLang.Proofs.Lexemes

The lexemes of a text, without their places. Each line has its own, whatever its number is and
whether a carriage return stands at its end, and the lexemes of a text are those of its lines. So a
text can be cut at any line break, and the lexemes of the parts are those of the whole
(`Token.lexemesOf_append_eq_some`, `Token.scan_join`).
-/

namespace ModelLang

namespace Token

/-! ## One line -/

/-- The lexemes of the rest of a line, after `skip` characters that belong to the lexeme before. -/
def lexemesFrom (skip : Nat) : List Char → Option (List Lexeme)
  | [] => some []
  | c :: rest =>
    match skip with
    | skip + 1 => lexemesFrom skip rest
    | 0 =>
      match front c rest with
      | .comment => some []
      | .blank => lexemesFrom 0 rest
      | .openString | .unexpected => none
      | .lexeme l taken => (lexemesFrom (taken - 1) rest).map (l :: ·)

theorem scanLine_lexemes (line skip column : Nat) (cs : List Char) :
    (scanLine line skip column cs).toOption.map (List.map Token.lexeme) = lexemesFrom skip cs := by
  induction cs generalizing skip column with
  | nil => rfl
  | cons c cs ih =>
    cases skip with
    | succ skip => exact ih skip _
    | zero =>
      rw [scanLine, lexemesFrom]
      cases front c cs with
      | comment | openString | unexpected => rfl
      | blank => exact ih 0 _
      | lexeme l taken =>
        simp only [← ih (taken - 1) (column + c.utf8Size)]
        cases scanLine line (taken - 1) (column + c.utf8Size) cs <;> rfl

/-- A carriage return at the end of a line is blank, for no string goes on after its line. -/
theorem lexemesFrom_return (skip : Nat) (cs : List Char) :
    lexemesFrom skip (cs ++ ['\r']) = lexemesFrom skip cs := by
  induction cs generalizing skip with
  | nil => cases skip <;> rfl
  | cons c cs ih =>
    cases skip with
    | succ skip => exact ih skip
    | zero =>
      have hstring : scanString (cs ++ ['\r']) = scanString cs := by
        rcases h : scanString cs with _ | r
        · exact scanString_concat h (by decide)
        · exact scanString_append h _
      have hfront : front c (cs ++ ['\r']) = front c cs :=
        front_append (fun b hb => by cases hb; rfl) fun _ => hstring
      rw [List.cons_append, lexemesFrom, lexemesFrom, hfront]
      simp only [ih]

theorem lexemesFrom_noEnd {skip : Nat} {cs : List Char} {ls : List Lexeme}
    (h : lexemesFrom skip cs = some ls) : ∀ l ∈ ls, l ≠ .endOfInput := by
  have hfront : ∀ c rest l n, front c rest = .lexeme l n → l ≠ .endOfInput := by
    rintro c rest _ n hfront rfl
    obtain ⟨_, _, _, _, _, hspelled⟩ := front_spells hfront
    exact hspelled
  rw [← scanLine_lexemes 1 skip 1 cs] at h
  obtain ⟨tokens, htokens, rfl⟩ := Option.map_eq_some_iff.1 h
  cases hscan : scanLine 1 skip 1 cs with
  | error e =>
    rw [hscan] at htokens
    cases htokens
  | ok _ =>
    rw [hscan] at htokens
    cases htokens
    exact List.forall_mem_map.2 (scanLine_forall hfront hscan)

/-! ## Several lines -/

/-- The lexemes of lines. -/
def lexemesOf : List (List Char) → Option (List Lexeme)
  | [] => some []
  | cs :: lines => do
    let first ← lexemesFrom 0 cs
    let rest ← lexemesOf lines
    return first ++ rest

theorem lexemesOf_append (lines more : List (List Char)) :
    lexemesOf (lines ++ more) = do
      let first ← lexemesOf lines
      let rest ← lexemesOf more
      return first ++ rest := by
  induction lines with
  | nil => simp [lexemesOf]
  | cons cs lines ih =>
    rw [List.cons_append, lexemesOf, lexemesOf, ih]
    cases lexemesFrom 0 cs <;> cases lexemesOf lines <;> cases lexemesOf more <;> simp

theorem lexemesOf_append_eq_some {lines more : List (List Char)} {ls : List Lexeme} :
    lexemesOf (lines ++ more) = some ls ↔
      ∃ first rest, lexemesOf lines = some first ∧ lexemesOf more = some rest ∧
        first ++ rest = ls := by
  rw [lexemesOf_append]
  cases lexemesOf lines <;> cases lexemesOf more <;> simp

theorem lexemesOf_noEnd {lines : List (List Char)} {ls : List Lexeme}
    (h : lexemesOf lines = some ls) : ∀ l ∈ ls, l ≠ .endOfInput := by
  induction lines generalizing ls with
  | nil =>
    cases h
    exact List.forall_mem_nil _
  | cons cs lines ih =>
    rw [lexemesOf] at h
    obtain ⟨first, hfirst, h⟩ := Option.bind_eq_some_iff.1 h
    obtain ⟨rest, hrest, h⟩ := Option.bind_eq_some_iff.1 h
    cases h
    exact List.forall_mem_append.2 ⟨lexemesFrom_noEnd hfirst, ih hrest⟩

theorem scanLines_lexemes (line : Nat) (last : Location) (lines : List (List Char)) :
    (scanLines line last lines).toOption.map (List.map Token.lexeme) =
      (lexemesOf lines).map (· ++ [.endOfInput]) := by
  induction lines generalizing line last with
  | nil => rfl
  | cons cs lines ih =>
    have hfirst := scanLine_lexemes line 0 1 cs
    have hrest := ih (line + 1) ⟨line, Text.utf8Length cs + 1⟩
    rw [scanLines, lexemesOf, ← hfirst]
    cases scanLine line 0 1 cs with
    | error e => rfl
    | ok tokens =>
      dsimp only
      revert hrest
      cases scanLines (line + 1) ⟨line, Text.utf8Length cs + 1⟩ lines <;> cases lexemesOf lines <;>
        simp [Except.toOption]

theorem scan_lexemes (text : List Char) :
    (scan text).toOption.map (List.map Token.lexeme) =
      (lexemesOf (Text.lines text)).map (· ++ [.endOfInput]) :=
  scanLines_lexemes 1 ⟨0, 0⟩ (Text.lines text)

end Token

/-! ## Lines joined again -/

namespace Token

theorem lexemesOf_unreturned (lines : List (List Char)) :
    lexemesOf (lines.map Text.unreturned) = lexemesOf lines := by
  induction lines with
  | nil => rfl
  | cons cs lines ih =>
    have hcs : lexemesFrom 0 (Text.unreturned cs) = lexemesFrom 0 cs := by
      rcases Text.unreturned_eq_or cs with h | h
      · rw [h]
      · conv_rhs => rw [h, lexemesFrom_return]
    rw [List.map_cons, lexemesOf, lexemesOf, hcs, ih]

/-- The lexemes of joined lines are those of the lines. -/
theorem scan_join {lines : List (List Char)} (h : ∀ cs ∈ lines, '\n' ∉ cs) :
    (scan (Text.join lines)).toOption.map (List.map Token.lexeme) =
      (lexemesOf lines).map (· ++ [.endOfInput]) := by
  rw [scan_lexemes, Text.lines_join h, lexemesOf_unreturned]

end Token

end ModelLang
