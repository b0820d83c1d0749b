import Mathlib.Data.List.TakeWhile
import ModelLang.Proofs.Cover

/-!
# ModelLang.Proofs.Rendering

Lexemes written on one line with a space between each two are read back as they were
(`Token.scan_render`).
-/

namespace ModelLang

/-! ## What lexemes there are -/

namespace Numeral

/-- Digits, at least one. -/
structure Digits (cs : List Char) : Prop where
  nonempty : cs ≠ []
  digits : ∀ c ∈ cs, c.isDigit = true

/-- A numeral up to its exponent. A point needs a digit after it. -/
inductive Mantissa : List Char → Prop where
  | whole {ds : List Char} (hds : Digits ds) : Mantissa ds
  | decimal {ds fs : List Char} (hds : Digits ds) (hfs : Digits fs) : Mantissa (ds ++ '.' :: fs)
  | fraction {fs : List Char} (hfs : Digits fs) : Mantissa ('.' :: fs)

/-- The exponent of a numeral, which it may lack. -/
inductive Exponent : List Char → Prop where
  | none : Exponent []
  | some {e : Char} {sign ds : List Char} (he : e = 'e' ∨ e = 'E')
      (hsign : sign = [] ∨ sign = ['+'] ∨ sign = ['-']) (hds : Digits ds) :
      Exponent (e :: sign ++ ds)

end Numeral

/-- Whether the characters are a numeral. -/
def IsNumeral (cs : List Char) : Prop :=
  ∃ mantissa exponent, cs = mantissa ++ exponent ∧
    Numeral.Mantissa mantissa ∧ Numeral.Exponent exponent

/-- Whether the characters have the form of a name. -/
def IsName (cs : List Char) : Prop :=
  ∃ c rest, cs = c :: rest ∧ (c.isAlpha ∨ c = '_') ∧ ∀ d ∈ rest, d.isAlphanum ∨ d = '_'

namespace Lexeme

/-- The lexemes that a text can contain. -/
def WellFormed : Lexeme → Prop
  | .name s => IsName s.toList ∧ s ∉ Token.reserved
  | .numeral s => IsNumeral s.toList
  | .string _ => True
  | .word s => s ∈ Token.reserved
  | .mark s => s ∈ Token.marks
  | .endOfInput => False

end Lexeme

/-! ## Writing lexemes -/

namespace Lexeme

/-- The character as it stands in a string. -/
def escapeChar (c : Char) : List Char :=
  if c = '\\' then ['\\', '\\'] else if c = '"' then ['\\', '"']
  else if c = '\n' then ['\\', 'n'] else [c]

def escape (cs : List Char) : List Char :=
  cs.flatMap escapeChar

def written : Lexeme → List Char
  | .string s => '"' :: (escape s.toList ++ ['"'])
  | .name s | .numeral s | .word s | .mark s => s.toList
  | .endOfInput => []

end Lexeme

/-- The lexemes on one line, a space between each two. -/
def render (lexemes : List Lexeme) : List Char :=
  [' '].intercalate (lexemes.map Lexeme.written)

theorem render_singleton (l : Lexeme) : render [l] = l.written :=
  List.intercalate_singleton

theorem render_cons_cons (l l' : Lexeme) (lexemes : List Lexeme) :
    render (l :: l' :: lexemes) = l.written ++ ' ' :: render (l' :: lexemes) := by
  rw [render, List.map_cons, List.map_cons, List.intercalate_cons_cons, List.append_assoc,
    List.singleton_append]
  rfl

/-! ## Numerals -/

namespace Numeral

theorem spanDigits_digits {ds : List Char} (hds : ∀ d ∈ ds, d.isDigit = true) (more : List Char)
    (hmore : ∀ c ∈ more.head?, c.isDigit = false) : spanDigits (ds ++ more) = (ds, more) := by
  obtain ⟨htake, hdrop⟩ := takeWhile_append_apart ds hmore
  rw [spanDigits, htake, hdrop, List.takeWhile_eq_self_iff.2 hds, List.dropWhile_eq_nil_iff.2 hds]
  rfl

theorem spanDigits_all {ds : List Char} (hds : Digits ds) : spanDigits ds = (ds, []) := by
  simpa using spanDigits_digits hds.digits [] (by simp)

theorem spanExponent_exponent {cs : List Char} (h : Exponent cs) : spanExponent cs = (cs, []) := by
  cases h with
  | none => rfl
  | @some e sign ds he hsign hds =>
    have hmark : isExponentMark e = true := by rcases he with rfl | rfl <;> rfl
    have hspan : spanSign (sign ++ ds) = (sign, ds) := by
      rcases hsign with rfl | rfl | rfl
      · obtain ⟨d, ds, rfl⟩ := List.exists_cons_of_ne_nil hds.nonempty
        refine if_neg ?_
        rintro (rfl | rfl) <;> exact absurd (hds.digits _ List.mem_cons_self) (by decide)
      · rfl
      · rfl
    rw [List.cons_append, spanExponent_cons, hspan, if_pos hmark, spanDigits_all hds,
      if_neg (by simpa using hds.nonempty), List.cons_append]

/-- An exponent does not go on with the digits before it. -/
theorem Exponent.head {cs : List Char} (h : Exponent cs) :
    ∀ c ∈ cs.head?, c.isDigit = false ∧ c ≠ '.' := by
  cases h with
  | none => simp
  | some he =>
    intro c hc
    cases hc
    rcases he with rfl | rfl <;> decide

theorem plain?_digits {ds rest : List Char} (hds : Digits ds) :
    plain? ds rest = some (ds, rest) :=
  if_neg (by simpa using hds.nonempty)

theorem spanMantissa?_mantissa {mantissa exponent : List Char} (hm : Mantissa mantissa)
    (he : Exponent exponent) :
    spanMantissa? (mantissa ++ exponent) = some (mantissa, exponent) := by
  have hdigit : ∀ c ∈ exponent.head?, c.isDigit = false := fun c hc => (he.head c hc).1
  have hpoint {ds fs : List Char} (hds : ∀ d ∈ ds, d.isDigit = true) (hfs : Digits fs) :
      spanMantissa? (ds ++ '.' :: fs ++ exponent) = some (ds ++ '.' :: fs, exponent) := by
    rw [List.append_assoc, List.cons_append,
      spanMantissa?_point (spanDigits_digits hds _ (by rintro c ⟨⟩; decide)),
      spanDigits_digits hfs.digits _ hdigit, if_neg (by simpa using hfs.nonempty)]
  cases hm with
  | whole hds =>
    rw [spanMantissa?_plain (spanDigits_digits hds.digits _ hdigit), plain?_digits hds]
    intro h
    exact (he.head '.' h).2 rfl
  | decimal hds hfs => exact hpoint hds.digits hfs
  | fraction hfs => exact hpoint (List.forall_mem_nil _) hfs

theorem span?_of_isNumeral {cs : List Char} (h : IsNumeral cs) : span? cs = some (cs, []) := by
  obtain ⟨mantissa, exponent, rfl, hm, he⟩ := h
  rw [span?_eq, spanMantissa?_mantissa hm he, Option.map_some, spanExponent_exponent he]

/-- A numeral starts with a digit or a point. -/
theorem Mantissa.head {cs : List Char} (h : Mantissa cs) :
    ∃ c rest, cs = c :: rest ∧ (c.isDigit = true ∨ c = '.') := by
  have hdigits {ds : List Char} (more : List Char) (hds : Digits ds) :
      ∃ c rest, ds ++ more = c :: rest ∧ (c.isDigit = true ∨ c = '.') := by
    obtain ⟨d, ds, rfl⟩ := List.exists_cons_of_ne_nil hds.nonempty
    exact ⟨d, ds ++ more, rfl, .inl (hds.digits d List.mem_cons_self)⟩
  cases h with
  | whole hds => simpa using hdigits [] hds
  | decimal hds _ => exact hdigits _ hds
  | @fraction fs _ => exact ⟨'.', fs, rfl, .inr rfl⟩

end Numeral

/-! ## Lexemes at the front of a line -/

namespace Token

theorem unescaped?_escape (cs : List Char) : unescaped? (Lexeme.escape cs) = some cs := by
  induction cs with
  | nil => rfl
  | cons c cs ih =>
    have hcons : Lexeme.escape (c :: cs) = Lexeme.escapeChar c ++ Lexeme.escape cs :=
      List.flatMap_cons
    by_cases hescape : c = '\\'
    · subst hescape
      rw [hcons, show Lexeme.escapeChar '\\' = ['\\', '\\'] from rfl, List.cons_append,
        List.singleton_append, unescaped?, ih]
      rfl
    by_cases hquote : c = '"'
    · subst hquote
      rw [hcons, show Lexeme.escapeChar '"' = ['\\', '"'] from rfl, List.cons_append,
        List.singleton_append, unescaped?, ih]
      rfl
    by_cases hfeed : c = '\n'
    · subst hfeed
      rw [hcons, show Lexeme.escapeChar '\n' = ['\\', 'n'] from rfl, List.cons_append,
        List.singleton_append, unescaped?, ih]
      rfl
    · rw [hcons, Lexeme.escapeChar, if_neg hescape, if_neg hquote, if_neg hfeed,
        List.singleton_append, unescaped?.eq_3 _ _ fun _ _ h _ => hescape h,
        if_neg (not_or.2 ⟨hquote, hescape⟩), ih]
      rfl

theorem front_name {c : Char} {rest : List Char} (hc : isNameStart c = true)
    (hrest : ∀ d ∈ rest, isNamePart d = true) :
    front c rest = .lexeme
      (if String.ofList (c :: rest) ∈ reserved then .word (String.ofList (c :: rest))
        else .name (String.ofList (c :: rest))) (c :: rest).length := by
  have hother : ∀ d : Char, isNameStart d = false → c ≠ d := by
    rintro d hd rfl
    rw [hc] at hd
    cases hd
  have hblank : ¬ isBlank c = true := by
    simp only [isBlank, Bool.or_eq_true, decide_eq_true_eq]
    rintro (((h | h) | h) | h)
    all_goals exact hother _ (by decide) h
  unfold front
  rw [if_neg (hother '#' (by decide)), if_neg hblank, if_neg (hother '"' (by decide)), if_pos hc,
    List.takeWhile_eq_self_iff.2 hrest]

theorem isNameStart_of_isDigit {c : Char} (h : c.isDigit = true) : isNameStart c = false := by
  have hunderscore : c ≠ '_' := by
    rintro rfl
    cases h
  have halpha : c.isAlpha = false := by
    delta Char.isDigit Char.isAlpha Char.isUpper Char.isLower at *
    grind
  rw [isNameStart, halpha, Bool.false_or, decide_eq_false hunderscore]

theorem IsNumeral.ne_nil {cs : List Char} (h : IsNumeral cs) : cs ≠ [] := by
  obtain ⟨mantissa, exponent, rfl, hm, -⟩ := h
  obtain ⟨c, rest, rfl, -⟩ := hm.head
  exact List.cons_ne_nil c _

theorem front_numeral {c : Char} {rest : List Char} (h : IsNumeral (c :: rest)) :
    front c rest = .lexeme (.numeral (String.ofList (c :: rest))) (c :: rest).length := by
  have hc : c.isDigit = true ∨ c = '.' := by
    obtain ⟨mantissa, exponent, heq, hm, -⟩ := h
    obtain ⟨d, ds, rfl, hd⟩ := hm.head
    rw [List.cons_append] at heq
    cases heq
    exact hd
  have hother : ∀ d : Char, d.isDigit = false → d ≠ '.' → c ≠ d := by
    rintro d hdigit hpoint rfl
    rcases hc with hc | hc
    · rw [hc] at hdigit
      cases hdigit
    · exact hpoint hc
  have hblank : ¬ isBlank c = true := by
    simp only [isBlank, Bool.or_eq_true, decide_eq_true_eq]
    rintro (((h | h) | h) | h)
    all_goals exact hother _ (by decide) (by decide) h
  have hname : ¬ isNameStart c = true := by
    rcases hc with hc | rfl
    · rw [isNameStart_of_isDigit hc]
      decide
    · decide
  unfold front
  rw [if_neg (hother '#' (by decide) (by decide)), if_neg hblank,
    if_neg (hother '"' (by decide) (by decide)), if_neg hname, Numeral.span?_of_isNumeral h]

theorem front_mark {m : String} (h : m ∈ marks) :
    ∃ c rest, m.toList = c :: rest ∧ front c rest = .lexeme (.mark m) m.length := by
  have hmarks : ∀ m ∈ marks, m.toList.head?.any (fun c => ¬ c = '#' ∧ ¬ isBlank c = true ∧
      ¬ c = '"' ∧ ¬ isNameStart c = true ∧ Numeral.span? m.toList = none ∧
      frontMark? m.toList = some m) = true := by
    decide +kernel
  obtain ⟨c, hc, hfirst⟩ := (Option.any_eq_true _ _).1 (hmarks m h)
  obtain ⟨hcomment, hblank, hquote, hname, hspan, hmark⟩ := of_decide_eq_true hfirst
  obtain ⟨rest, hrest⟩ := List.head?_eq_some_iff.1 hc
  rw [hrest] at hspan hmark
  refine ⟨c, rest, hrest, ?_⟩
  unfold front
  rw [if_neg hcomment, if_neg hblank, if_neg hquote, if_neg hname, hspan, hmark]

theorem isNameStart_of_isName {c : Char} {rest : List Char} (h : IsName (c :: rest)) :
    isNameStart c = true ∧ ∀ d ∈ rest, isNamePart d = true := by
  obtain ⟨_, _, ⟨⟩, hc, hrest⟩ := h
  simpa [isNameStart, isNamePart] using And.intro hc hrest

/-- Every reserved word has the form of a name. -/
theorem isName_of_reserved {w : String} (h : w ∈ reserved) : IsName w.toList := by
  have hreserved : ∀ w ∈ reserved, w.toList.head?.any (fun c => (c.isAlpha ∨ c = '_') ∧
      w.toList.tail.all fun d => d.isAlphanum ∨ d = '_') = true := by decide +kernel
  obtain ⟨c, hc, hform⟩ := (Option.any_eq_true _ _).1 (hreserved w h)
  obtain ⟨hstart, hparts⟩ := of_decide_eq_true hform
  obtain ⟨rest, hrest⟩ := List.head?_eq_some_iff.1 hc
  rw [hrest] at hparts
  exact ⟨c, rest, hrest, hstart, fun d hd => of_decide_eq_true (List.all_eq_true.1 hparts d hd)⟩

theorem front_string (s : String) :
    front '"' (Lexeme.escape s.toList ++ ['"']) =
      .lexeme (.string s) (Lexeme.string s).written.length := by
  unfold front
  rw [if_neg (by decide), if_neg (by decide), if_pos rfl,
    scanString_of_unescaped (unescaped?_escape _)]
  simp only [String.ofList_toList, Lexeme.written, List.length_cons, List.length_append,
    List.length_nil, Nat.zero_add]

/-- A lexeme that stands alone on a line is read as it was written. -/
theorem front_written {l : Lexeme} (h : l.WellFormed) :
    ∃ c rest, l.written = c :: rest ∧ front c rest = .lexeme l (c :: rest).length := by
  cases l with
  | name s =>
    obtain ⟨⟨c, rest, hs, hname⟩, hfree⟩ := h
    obtain ⟨hc, hrest⟩ := isNameStart_of_isName ⟨c, rest, rfl, hname⟩
    have heq : String.ofList (c :: rest) = s := by rw [← hs, String.ofList_toList]
    refine ⟨c, rest, hs, ?_⟩
    rw [front_name hc hrest, heq, if_neg hfree]
  | word s =>
    obtain ⟨c, rest, hs, hname⟩ := isName_of_reserved h
    obtain ⟨hc, hrest⟩ := isNameStart_of_isName ⟨c, rest, rfl, hname⟩
    have heq : String.ofList (c :: rest) = s := by rw [← hs, String.ofList_toList]
    refine ⟨c, rest, hs, ?_⟩
    rw [front_name hc hrest, heq, if_pos (show s ∈ reserved from h)]
  | numeral s =>
    obtain ⟨c, rest, hs⟩ := List.exists_cons_of_ne_nil (IsNumeral.ne_nil h)
    refine ⟨c, rest, hs, ?_⟩
    rw [front_numeral (hs ▸ h), ← hs, String.ofList_toList]
  | string s => exact ⟨'"', _, rfl, front_string s⟩
  | mark s =>
    obtain ⟨c, rest, hs, hfront⟩ := front_mark h
    refine ⟨c, rest, hs, ?_⟩
    rw [hfront, ← hs, String.length_toList]
  | endOfInput => exact absurd h id

theorem eq_string_of_front {rest : List Char} {l : Lexeme} {n : Nat}
    (h : front '"' rest = .lexeme l n) : ∃ s, l = .string s := by
  unfold front at h
  rw [if_neg (by decide), if_neg (by decide), if_pos rfl] at h
  split at h
  · cases h
    exact ⟨_, rfl⟩
  · cases h

/-- A lexeme is read as it was written whatever follows after a blank. -/
theorem scanLine_written {l : Lexeme} (h : l.WellFormed) (line column : Nat) (more : List Char)
    (hmore : Apart more) :
    ∃ stop, scanLine line 0 column (l.written ++ more) =
      (scanLine line 0 stop more).map (⟨l, .determined ⟨line, column⟩ ⟨line, stop⟩⟩ :: ·) := by
  obtain ⟨c, rest, hwritten, hfront⟩ := front_written h
  rw [hwritten]
  refine ⟨_, scanLine_lexeme ?_⟩
  rw [← hfront]
  refine front_append hmore ?_
  rintro rfl
  obtain ⟨s, rfl⟩ := eq_string_of_front hfront
  cases hwritten
  rw [List.append_assoc, List.singleton_append, scanString_of_unescaped (unescaped?_escape _),
    scanString_of_unescaped (unescaped?_escape _)]

theorem scanLine_render (lexemes : List Lexeme) (h : ∀ l ∈ lexemes, l.WellFormed)
    (line column : Nat) :
    ∃ tokens, scanLine line 0 column (render lexemes) = .ok tokens ∧
      tokens.map Token.lexeme = lexemes := by
  induction lexemes generalizing column with
  | nil => exact ⟨[], rfl, rfl⟩
  | cons l lexemes ih =>
    obtain ⟨hl, hlexemes⟩ := List.forall_mem_cons.1 h
    cases lexemes with
    | nil =>
      obtain ⟨stop, hscan⟩ := scanLine_written hl line column [] (by simp [Apart])
      rw [List.append_nil] at hscan
      refine ⟨[⟨l, .determined ⟨line, column⟩ ⟨line, stop⟩⟩], ?_, rfl⟩
      rw [render_singleton, hscan]
      rfl
    | cons l' lexemes =>
      obtain ⟨stop, hscan⟩ := scanLine_written hl line column
        (' ' :: render (l' :: lexemes)) (by rintro _ ⟨⟩; rfl)
      obtain ⟨tokens, htokens, hmap⟩ := ih hlexemes (stop + ' '.utf8Size)
      refine ⟨⟨l, .determined ⟨line, column⟩ ⟨line, stop⟩⟩ :: tokens, ?_, ?_⟩
      · rw [render_cons_cons, hscan, scanLine_blank rfl, htokens]
        rfl
      · rw [List.map_cons, hmap]

/-! ## Reading back -/

theorem newline_notMem_escape (cs : List Char) : '\n' ∉ Lexeme.escape cs := by
  rw [Lexeme.escape, List.mem_flatMap]
  rintro ⟨c, -, hc⟩
  unfold Lexeme.escapeChar at hc
  split at hc
  · exact absurd hc (by decide)
  split at hc
  · exact absurd hc (by decide)
  split at hc
  · exact absurd hc (by decide)
  · rename_i hfeed
    exact hfeed (List.mem_singleton.1 hc).symm

theorem newline_notMem_digits {cs : List Char} (h : Numeral.Digits cs) : '\n' ∉ cs :=
  fun hmem => absurd (h.digits _ hmem) (by decide)

theorem newline_notMem_numeral {cs : List Char} (h : IsNumeral cs) : '\n' ∉ cs := by
  obtain ⟨mantissa, exponent, rfl, hm, he⟩ := h
  refine List.not_mem_append ?_ ?_
  · cases hm with
    | whole hds => exact newline_notMem_digits hds
    | decimal hds hfs =>
      simp [newline_notMem_digits hds, newline_notMem_digits hfs]
    | fraction hfs => simp [newline_notMem_digits hfs]
  · cases he with
    | none => exact List.not_mem_nil
    | some he hsign hds =>
      rcases he with rfl | rfl <;> rcases hsign with rfl | rfl | rfl <;>
        simp [newline_notMem_digits hds]

theorem newline_notMem_name {cs : List Char} (h : IsName cs) : '\n' ∉ cs := by
  obtain ⟨c, rest, rfl, hc, hrest⟩ := h
  refine List.not_mem_cons_of_ne_of_not_mem ?_ ?_
  · rintro rfl
    exact absurd hc (by decide)
  · exact fun hmem => absurd (hrest _ hmem) (by decide)

theorem newline_notMem_written {l : Lexeme} (h : l.WellFormed) : '\n' ∉ l.written := by
  cases l with
  | name s => exact newline_notMem_name h.1
  | word s => exact newline_notMem_name (isName_of_reserved h)
  | numeral s => exact newline_notMem_numeral h
  | string s => simp [Lexeme.written, newline_notMem_escape]
  | mark s =>
    have hmarks : ∀ m ∈ marks, '\n' ∉ m.toList := by decide +kernel
    exact hmarks s h
  | endOfInput => exact absurd h id

theorem newline_notMem_render {lexemes : List Lexeme} (h : ∀ l ∈ lexemes, l.WellFormed) :
    '\n' ∉ render lexemes := by
  induction lexemes with
  | nil => exact List.not_mem_nil
  | cons l lexemes ih =>
    obtain ⟨hl, hlexemes⟩ := List.forall_mem_cons.1 h
    cases lexemes with
    | nil =>
      rw [render_singleton]
      exact newline_notMem_written hl
    | cons l' lexemes =>
      rw [render_cons_cons]
      exact List.not_mem_append (newline_notMem_written hl)
        (List.not_mem_cons_of_ne_of_not_mem (by decide) (ih hlexemes))

/-- Lexemes that are written on one line are the tokens of that line. -/
theorem scan_render (lexemes : List Lexeme) (h : ∀ l ∈ lexemes, l.WellFormed) :
    ∃ tokens, scan (render lexemes) = .ok tokens ∧
      tokens.map Token.lexeme = lexemes ++ [.endOfInput] := by
  obtain ⟨tokens, htokens, hmap⟩ := scanLine_render lexemes h 1 1
  by_cases hempty : render lexemes = []
  · rw [hempty] at htokens ⊢
    cases htokens
    rw [← hmap]
    exact ⟨[⟨.endOfInput, .determined ⟨0, 0⟩ ⟨0, 0⟩⟩], rfl, rfl⟩
  · have hlines := Text.lines_of_broken (.last hempty (newline_notMem_render h))
    let last : Location := ⟨1, Text.utf8Length (render lexemes) + 1⟩
    refine ⟨tokens ++ [⟨.endOfInput, .determined last last⟩], ?_, ?_⟩
    · rw [scan, hlines, scanLines, htokens]
      rfl
    · rw [List.map_append, hmap]
      rfl

/-- Words that start with other words, a numeral with an exponent, and a string with each of the
escaped characters. -/
theorem scan_render_words :
    (∀ l ∈ [.word "in", .word "integer", .name "type1x", .numeral "1.5e-3", .mark "<", .mark "<=",
      .string "a\\\"\n"], Lexeme.WellFormed l) ∧
    ∃ tokens, scan (render [.word "in", .word "integer", .name "type1x", .numeral "1.5e-3",
        .mark "<", .mark "<=", .string "a\\\"\n"]) = .ok tokens ∧
      tokens.map Token.lexeme = [.word "in", .word "integer", .name "type1x", .numeral "1.5e-3",
        .mark "<", .mark "<=", .string "a\\\"\n"] ++ [.endOfInput] := by
  have h : ∀ l ∈ [.word "in", .word "integer", .name "type1x", .numeral "1.5e-3", .mark "<",
      .mark "<=", .string "a\\\"\n"], Lexeme.WellFormed l := by
    simp only [List.forall_mem_cons]
    refine ⟨?_, ?_, ⟨?_, ?_⟩, ?_, ?_, ?_, trivial, List.forall_mem_nil _⟩
    · exact (by decide +kernel : "in" ∈ reserved)
    · exact (by decide +kernel : "integer" ∈ reserved)
    · have hrest : "ype1x".toList.all Char.isAlphanum = true := by decide +kernel
      exact ⟨'t', "ype1x".toList, rfl, .inl rfl, fun d hd => .inl (List.all_eq_true.1 hrest d hd)⟩
    · decide +kernel
    · have hdigit {d : Char} (hd : d.isDigit = true) : Numeral.Digits [d] :=
        ⟨List.cons_ne_nil _ _, List.forall_mem_singleton.2 hd⟩
      exact ⟨"1.5".toList, "e-3".toList, rfl, .decimal (hdigit rfl) (hdigit rfl),
        @Numeral.Exponent.some 'e' ['-'] ['3'] (.inl rfl) (.inr (.inr rfl)) (hdigit rfl)⟩
    · exact (by decide +kernel : "<" ∈ marks)
    · exact (by decide +kernel : "<=" ∈ marks)
  exact ⟨h, scan_render _ h⟩

end Token

end ModelLang
