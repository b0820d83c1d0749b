import ModelLang.Token.Lexer

/-!
# ModelLang.Proofs.Spelling

How lexemes stand in a text: strings between quotes and escaped, all others as they are. The
characters that are taken for a lexeme at the front of a line spell it (`Token.front_spells`), and
they are the same whatever follows after a blank (`Token.front_append`).
-/

namespace ModelLang

namespace Token

/-- The content of a string from what stands between its quotes: no quote there is bare, and no
backslash is the last character. -/
def unescaped? : List Char → Option (List Char)
  | [] => some []
  | '\\' :: c :: rest => (unescaped? rest).map (unescape c :: ·)
  | c :: rest => if c = '"' ∨ c = '\\' then none else (unescaped? rest).map (c :: ·)

end Token

open Token

/-- The characters are the lexeme as it stands in a text. -/
def Lexeme.SpelledBy (cs : List Char) : Lexeme → Prop
  | .string s => ∃ inside, cs = '"' :: (inside ++ ['"']) ∧ unescaped? inside = some s.toList
  | .name s | .numeral s | .word s | .mark s => cs = s.toList
  | .endOfInput => False

/-! ## Numerals -/

namespace Numeral

/-- Digits alone, if there are any. -/
def plain? (whole rest : List Char) : Option (List Char × List Char) :=
  if whole.isEmpty then none else some (whole, rest)

theorem spanMantissa?_point {cs whole tail : List Char} (h : spanDigits cs = (whole, '.' :: tail)) :
    spanMantissa? cs =
      if (spanDigits tail).1.isEmpty then plain? whole ('.' :: tail)
      else some (whole ++ '.' :: (spanDigits tail).1, (spanDigits tail).2) := by
  unfold spanMantissa?
  rw [h]
  rfl

theorem spanMantissa?_plain {cs whole rest : List Char} (h : spanDigits cs = (whole, rest))
    (hrest : rest.head? ≠ some '.') : spanMantissa? cs = plain? whole rest := by
  unfold spanMantissa? plain?
  rw [h]
  dsimp only
  generalize (if whole.isEmpty then none else some (whole, rest)) = plain
  split
  · exact absurd rfl hrest
  · rfl

/-- An optional sign, and the rest. -/
def spanSign : List Char → List Char × List Char
  | [] => ([], [])
  | c :: rest => if c = '+' ∨ c = '-' then ([c], rest) else ([], c :: rest)

theorem spanExponent_cons (e : Char) (rest : List Char) :
    spanExponent (e :: rest) =
      if isExponentMark e then
        if (spanDigits (spanSign rest).2).1.isEmpty then ([], e :: rest)
        else (e :: (spanSign rest).1 ++ (spanDigits (spanSign rest).2).1,
          (spanDigits (spanSign rest).2).2)
      else ([], e :: rest) := by
  cases rest with
  | nil => rfl
  | cons c rest =>
    by_cases hsign : c = '+' ∨ c = '-'
    · rw [spanSign, if_pos hsign]
      rcases hsign with rfl | rfl <;> rfl
    · rw [spanSign, if_neg hsign, spanExponent]
      · rfl
      · exact fun _ h => hsign (.inl (List.cons.inj h).1)
      · exact fun _ h => hsign (.inr (List.cons.inj h).1)

theorem spanDigits_eq (cs : List Char) : cs = (spanDigits cs).1 ++ (spanDigits cs).2 :=
  List.takeWhile_append_dropWhile.symm

theorem append_of_spanMantissa? {cs mantissa rest : List Char}
    (h : spanMantissa? cs = some (mantissa, rest)) : cs = mantissa ++ rest ∧ mantissa ≠ [] := by
  have hplain {whole rest : List Char} {r : List Char × List Char}
      (h : plain? whole rest = some r) : whole ++ rest = r.1 ++ r.2 ∧ r.1 ≠ [] := by
    unfold plain? at h
    split at h
    · cases h
    · rename_i hne
      cases h
      exact ⟨rfl, by simpa using hne⟩
  have hcs := spanDigits_eq cs
  rcases hdigits : spanDigits cs with ⟨whole, tail⟩
  rw [hdigits] at hcs
  rw [hcs]
  by_cases hpoint : tail.head? = some '.'
  · obtain ⟨fraction, rfl⟩ := List.head?_eq_some_iff.1 hpoint
    rw [spanMantissa?_point hdigits] at h
    split at h
    · exact hplain h
    · cases h
      simp [← spanDigits_eq fraction]
  · rw [spanMantissa?_plain hdigits hpoint] at h
    exact hplain h

theorem spanExponent_eq (cs : List Char) : cs = (spanExponent cs).1 ++ (spanExponent cs).2 := by
  rcases cs with _ | ⟨e, rest⟩
  · rfl
  rw [spanExponent_cons]
  split
  · split
    · rfl
    · have hsign : rest = (spanSign rest).1 ++ (spanSign rest).2 := by
        unfold spanSign
        split
        · rfl
        · split <;> rfl
      simp [← spanDigits_eq, ← hsign]
  · rfl

theorem span?_eq (cs : List Char) : span? cs =
    (spanMantissa? cs).map fun r => (r.1 ++ (spanExponent r.2).1, (spanExponent r.2).2) := by
  unfold span?
  rcases spanMantissa? cs with _ | ⟨mantissa, rest⟩ <;> rfl

theorem append_of_span? {cs numeral rest : List Char} (h : span? cs = some (numeral, rest)) :
    cs = numeral ++ rest ∧ numeral ≠ [] := by
  rw [span?_eq] at h
  obtain ⟨⟨mantissa, tail⟩, hmantissa, heq⟩ := Option.map_eq_some_iff.1 h
  cases heq
  obtain ⟨rfl, hne⟩ := append_of_spanMantissa? hmantissa
  refine ⟨?_, by simp [hne]⟩
  rw [List.append_assoc, ← spanExponent_eq]

end Numeral

/-! ## Blanks after a lexeme -/

/-- The rest of a line goes on with a blank, or is at its end. -/
def Apart (more : List Char) : Prop :=
  ∀ b ∈ more.head?, isBlank b = true

theorem Apart.head {more : List Char} (h : Apart more) {p : Char → Bool}
    (hp : p ' ' = false ∧ p '\x0c' = false ∧ p '\t' = false ∧ p '\r' = false) :
    ∀ b ∈ more.head?, p b = false := by
  intro b hb
  have hblank := h b hb
  simp only [isBlank, Bool.or_eq_true, decide_eq_true_eq] at hblank
  rcases hblank with ((rfl | rfl) | rfl) | rfl
  · exact hp.1
  · exact hp.2.1
  · exact hp.2.2.1
  · exact hp.2.2.2

theorem takeWhile_append_apart {p : Char → Bool} (cs : List Char) {more : List Char}
    (h : ∀ b ∈ more.head?, p b = false) :
    (cs ++ more).takeWhile p = cs.takeWhile p ∧
      (cs ++ more).dropWhile p = cs.dropWhile p ++ more := by
  induction cs with
  | nil =>
    cases more with
    | nil => exact ⟨rfl, rfl⟩
    | cons b more => simp [h b rfl]
  | cons c cs ih =>
    rw [List.cons_append, List.takeWhile_cons, List.dropWhile_cons, List.takeWhile_cons,
      List.dropWhile_cons]
    split
    · simp only [ih, and_self]
    · exact ⟨rfl, rfl⟩

section Blanks

variable {more : List Char} (hmore : Apart more)

include hmore

theorem spanDigits_append (cs : List Char) :
    Numeral.spanDigits (cs ++ more) =
      ((Numeral.spanDigits cs).1, (Numeral.spanDigits cs).2 ++ more) := by
  obtain ⟨htake, hdrop⟩ := takeWhile_append_apart cs (hmore.head (p := Char.isDigit) (by decide))
  rw [Numeral.spanDigits, htake, hdrop]
  rfl

theorem spanMantissa?_append (cs : List Char) :
    Numeral.spanMantissa? (cs ++ more) =
      (Numeral.spanMantissa? cs).map fun r => (r.1, r.2 ++ more) := by
  have hplain (whole rest : List Char) : Numeral.plain? whole (rest ++ more) =
      (Numeral.plain? whole rest).map fun r => (r.1, r.2 ++ more) := by
    unfold Numeral.plain?
    split <;> rfl
  have happend := spanDigits_append hmore cs
  rcases hcs : Numeral.spanDigits cs with ⟨whole, rest⟩
  rw [hcs] at happend
  by_cases hpoint : rest.head? = some '.'
  · obtain ⟨tail, rfl⟩ := List.head?_eq_some_iff.1 hpoint
    simp only [List.cons_append] at happend
    rw [Numeral.spanMantissa?_point hcs, Numeral.spanMantissa?_point happend,
      spanDigits_append hmore]
    split
    · exact hplain whole ('.' :: tail)
    · rfl
  · have hpoint' : (rest ++ more).head? ≠ some '.' := by
      rw [List.head?_append]
      cases rest with
      | nil => exact fun h => absurd (hmore '.' h) (by decide)
      | cons d rest => exact hpoint
    rw [Numeral.spanMantissa?_plain hcs hpoint, Numeral.spanMantissa?_plain happend hpoint', hplain]

theorem spanSign_append (cs : List Char) :
    Numeral.spanSign (cs ++ more) = ((Numeral.spanSign cs).1, (Numeral.spanSign cs).2 ++ more) := by
  rcases cs with _ | ⟨d, rest⟩
  · rcases more with _ | ⟨b, more⟩
    · rfl
    · refine if_neg ?_
      rintro (rfl | rfl) <;> exact absurd (hmore _ rfl) (by decide)
  · rw [List.cons_append, Numeral.spanSign, Numeral.spanSign]
    split <;> rfl

theorem spanExponent_append (cs : List Char) :
    Numeral.spanExponent (cs ++ more) =
      ((Numeral.spanExponent cs).1, (Numeral.spanExponent cs).2 ++ more) := by
  rcases cs with _ | ⟨e, rest⟩
  · rcases more with _ | ⟨b, more⟩
    · rfl
    · have hb := hmore.head (p := Numeral.isExponentMark) (by decide) b rfl
      rw [List.nil_append, Numeral.spanExponent_cons, hb]
      rfl
  · rw [List.cons_append, Numeral.spanExponent_cons, Numeral.spanExponent_cons,
      spanSign_append hmore, spanDigits_append hmore]
    dsimp only
    split
    · split <;> rfl
    · rfl

theorem span?_append (cs : List Char) :
    Numeral.span? (cs ++ more) = (Numeral.span? cs).map fun r => (r.1, r.2 ++ more) := by
  rw [Numeral.span?_eq, Numeral.span?_eq, spanMantissa?_append hmore, Option.map_map,
    Option.map_map]
  congr 1
  funext r
  simp only [Function.comp_apply, spanExponent_append hmore]

theorem isPrefixOf_append {m : List Char} (hm : ∀ b ∈ m, isBlank b = false) (cs : List Char) :
    m.isPrefixOf (cs ++ more) = m.isPrefixOf cs := by
  rw [Bool.eq_iff_iff, List.isPrefixOf_iff_prefix, List.isPrefixOf_iff_prefix]
  constructor
  · intro h
    rcases List.prefix_or_prefix_of_prefix h (List.prefix_append cs more) with h' | ⟨excess, rfl⟩
    · exact h'
    · -- what exceeds `cs` would start with the blank
      rw [List.prefix_append_right_inj] at h
      rcases excess with _ | ⟨b, excess⟩
      · simp
      · obtain ⟨tail, rfl⟩ := h
        have hb := hmore b rfl
        rw [hm b (by simp)] at hb
        cases hb
  · exact fun h => h.trans (List.prefix_append cs more)

/-- No mark contains a blank. -/
theorem frontMark?_append (cs : List Char) : frontMark? (cs ++ more) = frontMark? cs := by
  have hmarks : ∀ m ∈ marks, ∀ b ∈ m.toList, isBlank b = false := by
    have : ∀ m ∈ marks, m.toList.any isBlank = false := by decide +kernel
    simpa only [List.any_eq_false, Bool.not_eq_true] using this
  unfold frontMark?
  generalize marks = ms at hmarks
  induction ms with
  | nil => rfl
  | cons m ms ih =>
    obtain ⟨hm, hms⟩ := List.forall_mem_cons.1 hmarks
    rw [List.find?_cons, List.find?_cons, isPrefixOf_append hmore hm, ih hms]

end Blanks

/-! ## Strings -/

namespace Token

theorem scanString_escape (c : Char) (rest : List Char) :
    scanString ('\\' :: c :: rest) =
      (scanString rest).map fun r => (unescape c :: r.1, r.2 + 2) := by
  rw [scanString]
  cases scanString rest <;> rfl

theorem scanString_plain {c : Char} (h : ¬ (c = '"' ∨ c = '\\')) (rest : List Char) :
    scanString (c :: rest) = (scanString rest).map fun r => (c :: r.1, r.2 + 1) := by
  obtain ⟨hquote, hescape⟩ := not_or.1 h
  rw [scanString.eq_4 c rest hquote fun _ _ hc _ => hescape hc]
  cases scanString rest <;> rfl

theorem scanString_of_unescaped {inside content : List Char}
    (h : unescaped? inside = some content) (rest : List Char) :
    scanString (inside ++ '"' :: rest) = some (content, inside.length + 1) := by
  fun_induction unescaped? inside generalizing content with
  | case1 =>
    cases h
    rfl
  | case2 c inside ih =>
    obtain ⟨tail, htail, rfl⟩ := Option.map_eq_some_iff.1 h
    rw [List.cons_append, List.cons_append, scanString_escape, ih htail]
    rfl
  | case3 => cases h
  | case4 c inside _ hc ih =>
    obtain ⟨tail, htail, rfl⟩ := Option.map_eq_some_iff.1 h
    rw [List.cons_append, scanString_plain hc, ih htail]
    rfl

/-- What is scanned of a string ends with its first bare quote. -/
theorem exists_of_scanString {cs content : List Char} {n : Nat}
    (h : scanString cs = some (content, n)) :
    ∃ inside rest, cs = inside ++ '"' :: rest ∧ unescaped? inside = some content ∧
      n = inside.length + 1 := by
  fun_induction unescaped? cs generalizing content n with
  | case1 => cases h
  | case2 c cs ih =>
    rw [scanString_escape] at h
    obtain ⟨⟨tail, k⟩, htail, heq⟩ := Option.map_eq_some_iff.1 h
    cases heq
    obtain ⟨inside, rest, rfl, hinside, rfl⟩ := ih htail
    refine ⟨'\\' :: c :: inside, rest, rfl, ?_, rfl⟩
    rw [unescaped?, hinside]
    rfl
  | case3 c cs hlast hc =>
    rcases hc with rfl | rfl
    · cases h
      exact ⟨[], cs, rfl, rfl, rfl⟩
    · -- a backslash before the end of the line
      cases cs with
      | nil => cases h
      | cons d cs => exact (hlast d cs rfl rfl).elim
  | case4 c cs hescape hc ih =>
    rw [scanString_plain hc] at h
    obtain ⟨⟨tail, k⟩, htail, heq⟩ := Option.map_eq_some_iff.1 h
    cases heq
    obtain ⟨inside, rest, rfl, hinside, rfl⟩ := ih htail
    refine ⟨c :: inside, rest, rfl, ?_, rfl⟩
    rw [unescaped?.eq_3 c inside fun _ _ h _ => hc (.inr h), if_neg hc, hinside]
    rfl

theorem scanString_append {cs : List Char} {r : List Char × Nat} (h : scanString cs = some r)
    (more : List Char) : scanString (cs ++ more) = some r := by
  obtain ⟨content, n⟩ := r
  obtain ⟨inside, rest, rfl, hinside, rfl⟩ := exists_of_scanString h
  rw [List.append_assoc, List.cons_append, scanString_of_unescaped hinside]

/-- A string that is not closed on its line is not closed by a character that is no quote. -/
theorem scanString_concat {cs : List Char} (h : scanString cs = none) {b : Char} (hb : b ≠ '"') :
    scanString (cs ++ [b]) = none := by
  rcases hscan : scanString (cs ++ [b]) with _ | ⟨content, n⟩
  · rfl
  obtain ⟨inside, rest, heq, hinside, _⟩ := exists_of_scanString hscan
  rcases List.eq_nil_or_concat rest with rfl | ⟨init, last, rfl⟩
  · exact absurd (List.append_inj_right' heq rfl) (by simpa using hb)
  · rw [List.concat_eq_append, ← List.cons_append, ← List.append_assoc] at heq
    rw [List.append_inj_left' heq rfl, scanString_of_unescaped hinside] at h
    cases h

/-! ## Lexemes -/

/-- What stands at the front of a line does not hang on what follows after a blank, if a string
that starts there is closed before or not at all. -/
theorem front_append {c : Char} {rest more : List Char} (hmore : Apart more)
    (hstring : c = '"' → scanString (rest ++ more) = scanString rest) :
    front c (rest ++ more) = front c rest := by
  have hname := hmore.head (p := isNamePart) (by decide)
  have hspan := span?_append hmore (c :: rest)
  have hmark := frontMark?_append hmore (c :: rest)
  rw [List.cons_append] at hspan hmark
  unfold front
  rw [(takeWhile_append_apart rest hname).1, hspan, hmark]
  split
  · rfl
  split
  · rfl
  split
  · rename_i hquote
    rw [hstring hquote]
  split
  · rfl
  · cases Numeral.span? (c :: rest) <;> rfl

/-- A lexeme is spelled by the characters that it takes. -/
theorem front_spells {c : Char} {rest : List Char} {l : Lexeme} {n : Nat}
    (h : front c rest = .lexeme l n) :
    ∃ cs tail, c :: rest = cs ++ tail ∧ cs.length = n ∧ cs ≠ [] ∧ l.SpelledBy cs := by
  unfold front at h
  split at h
  · cases h
  split at h
  · cases h
  split at h
  · rename_i hquote
    split at h
    · rename_i content k hscan
      cases h
      obtain ⟨inside, tail, rfl, hinside, rfl⟩ := exists_of_scanString hscan
      refine ⟨'"' :: (inside ++ ['"']), tail, ?_, ?_, List.cons_ne_nil _ _, inside, rfl, ?_⟩
      · simp [hquote]
      · simp
      · rw [hinside, String.toList_ofList]
    · cases h
  split at h
  · cases h
    refine ⟨c :: rest.takeWhile isNamePart, rest.dropWhile isNamePart, ?_, rfl,
      List.cons_ne_nil _ _, ?_⟩
    · rw [List.cons_append, List.takeWhile_append_dropWhile]
    · split <;> exact String.toList_ofList.symm
  split at h
  · rename_i numeral tail hspan
    cases h
    obtain ⟨heq, hne⟩ := Numeral.append_of_span? hspan
    exact ⟨numeral, tail, heq, rfl, hne, String.toList_ofList.symm⟩
  split at h
  · rename_i m hmark
    cases h
    unfold frontMark? at hmark
    have hfits : m.toList.isPrefixOf (c :: rest) = true :=
      List.find?_some (p := fun m : String => m.toList.isPrefixOf (c :: rest)) hmark
    obtain ⟨tail, htail⟩ := List.isPrefixOf_iff_prefix.1 hfits
    have hne : ∀ m ∈ marks, m.toList ≠ [] := by decide +kernel
    exact ⟨m.toList, tail, htail.symm, String.length_toList,
      hne m (List.mem_of_find?_eq_some hmark), rfl⟩
  · cases h

/-! ## Properties of lexemes -/

/-- A property of all lexemes at the front of some line is one of all tokens of a line. -/
theorem scanLine_forall {P : Lexeme → Prop}
    (hP : ∀ c rest l n, front c rest = .lexeme l n → P l) {line skip column : Nat}
    {cs : List Char} {tokens : List Token} (h : scanLine line skip column cs = .ok tokens) :
    ∀ t ∈ tokens, P t.lexeme := by
  induction cs generalizing skip column tokens with
  | nil =>
    cases h
    exact List.forall_mem_nil _
  | cons c rest ih =>
    unfold scanLine at h
    cases skip with
    | succ skip => exact ih h
    | zero =>
      simp only at h
      split at h
      · cases h
        exact List.forall_mem_nil _
      · exact ih h
      · cases h
      · cases h
      · rename_i l taken hfront
        split at h
        · rename_i more hmore
          cases h
          exact List.forall_mem_cons.2 ⟨hP c rest l taken hfront, ih hmore⟩
        · cases h

theorem scanLines_forall {P : Lexeme → Prop}
    (hP : ∀ c rest l n, front c rest = .lexeme l n → P l) {line : Nat} {last : Location}
    {lines : List (List Char)} {tokens : List Token}
    (h : scanLines line last lines = .ok tokens) :
    ∃ body e, tokens = body ++ [e] ∧ (∀ t ∈ body, P t.lexeme) ∧ e.isEnd = true := by
  induction lines generalizing line last tokens with
  | nil =>
    cases h
    exact ⟨[], _, rfl, List.forall_mem_nil _, rfl⟩
  | cons cs lines ih =>
    unfold scanLines at h
    split at h
    · cases h
    · rename_i first hfirst
      split at h
      · rename_i more hmore
        cases h
        obtain ⟨body, e, rfl, hbody, he⟩ := ih hmore
        exact ⟨first ++ body, e, (List.append_assoc ..).symm,
          List.forall_mem_append.2 ⟨scanLine_forall hP hfirst, hbody⟩, he⟩
      · cases h

end Token

end ModelLang
