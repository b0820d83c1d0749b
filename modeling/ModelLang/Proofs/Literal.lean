import Mathlib.Data.List.TakeWhile
import ModelLang.Grammar.Program
import ModelLang.Proofs.Rendering
import ModelLang.Table.Row

/-!
# ModelLang.Proofs.Literal

The fields of a table that are numbers are the numerals of the language, with at most one sign
before them, and have the same values (`Table.convert_number_iff`). Both rest on one pattern, of
which the tokens of a text take the match that is tried first, and a field any match that leaves
nothing. The first match is the longest, so that the two agree (`Numeral.head?_pattern`,
`Numeral.isNumeral_iff_pattern`).
-/

namespace ModelLang

namespace Numeral

/-! ## Patterns with an order of their matches -/

/-- The matches of a pattern at the front of a text, in the order in which they are tried, each
with the rest of the text. -/
abbrev Matcher := List Char → List (List Char × List Char)

namespace Matcher

def one (p : Char → Bool) : Matcher
  | [] => []
  | c :: rest => if p c then [([c], rest)] else []

/-- One character or more, as many as possible first. -/
def plus (p : Char → Bool) : Matcher
  | [] => []
  | c :: rest => if p c then (plus p rest).map (fun m => (c :: m.1, m.2)) ++ [([c], rest)] else []

def seq (a b : Matcher) : Matcher := fun cs =>
  (a cs).flatMap fun m => (b m.2).map fun n => (m.1 ++ n.1, n.2)

def alt (a b : Matcher) : Matcher := fun cs => a cs ++ b cs

/-- A match of `a` or, if there is none that goes on, of the empty text. -/
def opt (a : Matcher) : Matcher := a.alt fun cs => [([], cs)]

/-- The texts that a pattern matches, whatever stands behind them. -/
def Accepts (a : Matcher) (L : List Char → Prop) : Prop :=
  ∀ cs m rest, (m, rest) ∈ a cs ↔ cs = m ++ rest ∧ L m

variable {a b : Matcher} {L M : List Char → Prop} {p : Char → Bool}

theorem accepts_one : (one p).Accepts fun m => ∃ c, m = [c] ∧ p c = true := by
  intro cs m rest
  cases cs with
  | nil =>
    simp only [one, List.not_mem_nil, false_iff]
    rintro ⟨h, c, rfl, -⟩
    cases h
  | cons c cs =>
    rw [one]
    split
    · rename_i hc
      rw [List.mem_singleton]
      constructor
      · rintro ⟨⟩
        exact ⟨rfl, c, rfl, hc⟩
      · rintro ⟨h, d, rfl, -⟩
        cases h
        rfl
    · rename_i hc
      simp only [List.not_mem_nil, false_iff]
      rintro ⟨h, d, rfl, hd⟩
      cases h
      exact hc hd

theorem accepts_plus : (plus p).Accepts fun m => m ≠ [] ∧ ∀ c ∈ m, p c = true := by
  intro cs m rest
  induction cs generalizing m with
  | nil =>
    simp only [plus, List.not_mem_nil, false_iff]
    rintro ⟨h, hne, -⟩
    exact hne (List.append_eq_nil_iff.1 h.symm).1
  | cons c cs ih =>
    rw [plus]
    split
    · rename_i hc
      simp only [List.mem_append, List.mem_map, List.mem_singleton, Prod.exists]
      constructor
      · rintro (⟨n, r, hn, h⟩ | h)
        · cases h
          obtain ⟨rfl, -, hall⟩ := (ih n).1 hn
          exact ⟨rfl, List.cons_ne_nil _ _, List.forall_mem_cons.2 ⟨hc, hall⟩⟩
        · cases h
          exact ⟨rfl, List.cons_ne_nil _ _, List.forall_mem_singleton.2 hc⟩
      · rintro ⟨h, hne, hall⟩
        obtain ⟨d, n, rfl⟩ := List.exists_cons_of_ne_nil hne
        cases h
        by_cases hn : n = []
        · exact .inr (by rw [hn]; rfl)
        · exact .inl ⟨n, rest, (ih n).2 ⟨rfl, hn, (List.forall_mem_cons.1 hall).2⟩, rfl⟩
    · rename_i hc
      simp only [List.not_mem_nil, false_iff]
      rintro ⟨h, hne, hall⟩
      obtain ⟨d, n, rfl⟩ := List.exists_cons_of_ne_nil hne
      cases h
      exact hc (hall c List.mem_cons_self)

theorem Accepts.seq (ha : a.Accepts L) (hb : b.Accepts M) :
    (a.seq b).Accepts fun m => ∃ x y, m = x ++ y ∧ L x ∧ M y := by
  intro cs m rest
  simp only [Matcher.seq, List.mem_flatMap, List.mem_map, Prod.exists]
  constructor
  · rintro ⟨x, r, hx, y, r', hy, h⟩
    cases h
    obtain ⟨rfl, hL⟩ := (ha cs x r).1 hx
    obtain ⟨rfl, hM⟩ := (hb r y rest).1 hy
    exact ⟨(List.append_assoc x y rest).symm, x, y, rfl, hL, hM⟩
  · rintro ⟨rfl, x, y, rfl, hL, hM⟩
    exact ⟨x, y ++ rest, (ha _ _ _).2 ⟨List.append_assoc x y rest, hL⟩, y, rest,
      (hb _ _ _).2 ⟨rfl, hM⟩, rfl⟩

theorem Accepts.alt (ha : a.Accepts L) (hb : b.Accepts M) :
    (a.alt b).Accepts fun m => L m ∨ M m := by
  intro cs m rest
  rw [Matcher.alt, List.mem_append, ha, hb, and_or_left]

theorem Accepts.opt (ha : a.Accepts L) : a.opt.Accepts fun m => L m ∨ m = [] := by
  refine ha.alt fun cs m rest => ?_
  rw [List.mem_singleton]
  constructor
  · rintro ⟨⟩
    exact ⟨rfl, rfl⟩
  · rintro ⟨rfl, rfl⟩
    rfl

/-! ## The match that is tried first -/

theorem head?_seq (a b : Matcher) (cs : List Char) : (a.seq b cs).head? =
    (a cs).findSome? fun m => (b m.2).head?.map fun n => (m.1 ++ n.1, n.2) := by
  rw [seq, List.head?_flatMap]
  congr 1
  funext m
  rw [List.head?_map]

theorem head?_alt (a b : Matcher) (cs : List Char) :
    (a.alt b cs).head? = (a cs).head?.or (b cs).head? :=
  List.head?_append

theorem head?_opt (a : Matcher) (cs : List Char) :
    (a.opt cs).head? = some ((a cs).head?.getD ([], cs)) := by
  rw [opt, head?_alt]
  cases (a cs).head? <;> rfl

end Matcher

open Matcher

def digits : Matcher := plus Char.isDigit

/-- A point and the digits after it. -/
def fractionPattern : Matcher := (one (· = '.')).seq digits

/-- Digits with at most one point between or before them. -/
def mantissaPattern : Matcher :=
  ((digits.seq fractionPattern).alt fractionPattern).alt digits

def isSign (c : Char) : Bool := c = '+' || c = '-'

theorem isSign_iff {c : Char} : isSign c = true ↔ c = '+' ∨ c = '-' := by
  simp [isSign]

/-- The exponent of a numeral, which it may lack. -/
def exponentPattern : Matcher :=
  ((one isExponentMark).seq ((one isSign).opt.seq digits)).opt

/-- The pattern of numerals. -/
def pattern : Matcher := mantissaPattern.seq exponentPattern

theorem spanDigits_cons {c : Char} (hc : c.isDigit = true) (cs : List Char) :
    spanDigits (c :: cs) = (c :: (spanDigits cs).1, (spanDigits cs).2) := by
  simp [spanDigits, hc]

theorem spanDigits_of_head {cs : List Char} (h : ∀ c ∈ cs.head?, c.isDigit = false) :
    spanDigits cs = ([], cs) := by
  simpa using spanDigits_digits (List.forall_mem_nil _) cs h

theorem digits_of_head {cs : List Char} (h : ∀ c ∈ cs.head?, c.isDigit = false) :
    digits cs = [] := by
  cases cs with
  | nil => rfl
  | cons c cs => rw [digits, plus, if_neg (by simp [h c rfl])]

/-- The first match of digits takes all of them, and every other one leaves a digit. -/
theorem digits_cons {c : Char} (hc : c.isDigit = true) (cs : List Char) :
    ∃ others, digits (c :: cs) = spanDigits (c :: cs) :: others ∧
      ∀ m ∈ others, ∃ d rest, m.2 = d :: rest ∧ d.isDigit = true := by
  induction cs generalizing c with
  | nil => exact ⟨[], by simp [digits, plus, spanDigits, hc], List.forall_mem_nil _⟩
  | cons d cs ih =>
    rw [digits, plus, if_pos hc, ← digits]
    by_cases hd : d.isDigit = true
    · obtain ⟨others, heq, hothers⟩ := ih hd
      refine ⟨others.map (fun m => (c :: m.1, m.2)) ++ [([c], d :: cs)], ?_, ?_⟩
      · rw [heq, spanDigits_cons hc]
        rfl
      · simp only [List.mem_append, List.mem_map, List.mem_singleton]
        rintro _ (⟨m, hm, rfl⟩ | rfl)
        · exact hothers m hm
        · exact ⟨d, cs, rfl, hd⟩
    · have hhead : ∀ e ∈ (d :: cs).head?, e.isDigit = false := by
        rintro e ⟨⟩
        exact Bool.not_eq_true _ ▸ hd
      refine ⟨[], ?_, List.forall_mem_nil _⟩
      rw [digits_of_head hhead, spanDigits_cons hc, spanDigits_of_head hhead]
      rfl

/-- Without a digit in front there is no match, and otherwise the longest one is the first. -/
theorem digits_cases (cs : List Char) :
    (digits cs = [] ∧ plain? (spanDigits cs).1 (spanDigits cs).2 = none) ∨
      ∃ others, digits cs = spanDigits cs :: others ∧
        plain? (spanDigits cs).1 (spanDigits cs).2 = some (spanDigits cs) ∧
        ∀ m ∈ others, ∃ d rest, m.2 = d :: rest ∧ d.isDigit = true := by
  by_cases h : ∀ c ∈ cs.head?, c.isDigit = false
  · left
    rw [digits_of_head h, spanDigits_of_head h]
    exact ⟨rfl, rfl⟩
  · right
    push Not at h
    obtain ⟨c, hc, hdigit⟩ := h
    obtain ⟨cs, rfl⟩ := List.head?_eq_some_iff.1 hc
    replace hdigit : c.isDigit = true := by simpa using hdigit
    obtain ⟨others, heq, hothers⟩ := digits_cons hdigit cs
    refine ⟨others, heq, ?_, hothers⟩
    rw [spanDigits_cons hdigit]
    rfl

theorem head?_digits (cs : List Char) :
    (digits cs).head? = plain? (spanDigits cs).1 (spanDigits cs).2 := by
  rcases digits_cases cs with ⟨h, hplain⟩ | ⟨others, h, hplain, -⟩
  · rw [h, hplain]
    rfl
  · rw [h, hplain]
    rfl

/-- What cannot go on at a digit goes on after the longest match of digits or not at all. -/
theorem findSome?_digits {α : Type} {f : List Char × List Char → Option α}
    (hf : ∀ ds d rest, d.isDigit = true → f (ds, d :: rest) = none) (cs : List Char) :
    (digits cs).findSome? f = (plain? (spanDigits cs).1 (spanDigits cs).2).bind f := by
  rcases digits_cases cs with ⟨h, hplain⟩ | ⟨others, h, hplain, hothers⟩
  · rw [h, hplain]
    rfl
  · have hnone : others.findSome? f = none := by
      rw [List.findSome?_eq_none_iff]
      rintro ⟨ds, rest⟩ hm
      obtain ⟨d, tail, rfl, hd⟩ := hothers _ hm
      exact hf ds d tail hd
    rw [h, hplain, List.findSome?_cons, hnone, Option.bind_some]
    cases f (spanDigits cs) <;> rfl

theorem head?_one_seq (p : Char → Bool) (b : Matcher) (c : Char) (rest : List Char) :
    ((one p).seq b (c :: rest)).head? =
      if p c then (b rest).head?.map fun n => (c :: n.1, n.2) else none := by
  rw [head?_seq, one]
  split
  · rw [List.findSome?_singleton]
    rfl
  · rfl

theorem head?_fractionPattern_of_ne {cs : List Char} (h : cs.head? ≠ some '.') :
    (fractionPattern cs).head? = none := by
  cases cs with
  | nil => rfl
  | cons c cs => rw [fractionPattern, head?_one_seq, if_neg (by simpa using h)]

theorem head?_fractionPattern (tail : List Char) : (fractionPattern ('.' :: tail)).head? =
    (plain? (spanDigits tail).1 (spanDigits tail).2).map fun n => ('.' :: n.1, n.2) := by
  rw [fractionPattern, head?_one_seq, if_pos (by decide), head?_digits]

theorem head?_mantissaPattern (cs : List Char) : (mantissaPattern cs).head? = spanMantissa? cs := by
  have hdigit : ∀ ds d rest, d.isDigit = true →
      (fractionPattern (d :: rest)).head?.map (fun n => (ds ++ n.1, n.2)) = none := by
    intro ds d rest hd
    rw [head?_fractionPattern_of_ne]
    · rfl
    · rintro ⟨⟩
      cases hd
  rw [mantissaPattern, head?_alt, head?_alt, head?_seq, findSome?_digits hdigit, head?_digits]
  rcases hcs : spanDigits cs with ⟨whole, rest⟩
  have happ : cs = whole ++ rest := by simpa [hcs] using spanDigits_eq cs
  dsimp only
  cases whole with
  | nil =>
    -- the text starts with a point or with no numeral at all
    rw [List.nil_append] at happ
    subst happ
    by_cases hpoint : cs.head? = some '.'
    · obtain ⟨tail, rfl⟩ := List.head?_eq_some_iff.1 hpoint
      rw [spanMantissa?_point hcs, head?_fractionPattern]
      by_cases htail : (spanDigits tail).1.isEmpty = true <;> simp [plain?, htail]
    · rw [spanMantissa?_plain hcs hpoint, head?_fractionPattern_of_ne hpoint]
      rfl
  | cons d ds =>
    have hd : d.isDigit = true := by
      refine List.mem_takeWhile_imp (l := cs) ?_
      rw [show cs.takeWhile Char.isDigit = d :: ds from congrArg Prod.fst hcs]
      exact List.mem_cons_self
    have hhead : (fractionPattern cs).head? = none := by
      refine head?_fractionPattern_of_ne ?_
      rw [happ]
      rintro ⟨⟩
      cases hd
    rw [hhead]
    by_cases hpoint : rest.head? = some '.'
    · obtain ⟨tail, rfl⟩ := List.head?_eq_some_iff.1 hpoint
      rw [spanMantissa?_point hcs, plain?, if_neg (by simp), Option.bind_some,
        head?_fractionPattern]
      by_cases htail : (spanDigits tail).1.isEmpty = true <;> simp [plain?, htail]
    · rw [spanMantissa?_plain hcs hpoint, plain?, if_neg (by simp), Option.bind_some,
        head?_fractionPattern_of_ne hpoint]
      rfl

theorem head?_exponentPattern (cs : List Char) :
    (exponentPattern cs).head? = some (spanExponent cs) := by
  rw [exponentPattern, head?_opt]
  cases cs with
  | nil => rfl
  | cons e rest =>
    have hsigned : (((one isSign).opt.seq digits) rest).head? =
        (plain? (spanDigits (spanSign rest).2).1 (spanDigits (spanSign rest).2).2).map
          fun n => ((spanSign rest).1 ++ n.1, n.2) := by
      rw [head?_seq]
      cases rest with
      | nil => rfl
      | cons c rest =>
        by_cases hc : isSign c = true
        · have hdigits : digits (c :: rest) = [] := by
            refine digits_of_head ?_
            rintro _ ⟨⟩
            rcases isSign_iff.1 hc with rfl | rfl <;> rfl
          rw [spanSign, if_pos (isSign_iff.1 hc), Matcher.opt, Matcher.alt, one, if_pos hc,
            List.findSome?_append, List.findSome?_singleton, List.findSome?_singleton, hdigits,
            head?_digits]
          exact Option.or_none
        · rw [spanSign, if_neg (mt isSign_iff.2 hc), Matcher.opt, Matcher.alt, one, if_neg hc,
            List.nil_append, List.findSome?_singleton, head?_digits]
    rw [head?_one_seq, spanExponent_cons, hsigned]
    by_cases he : isExponentMark e = true
    · rw [if_pos he, if_pos he]
      by_cases htail : (spanDigits (spanSign rest).2).1.isEmpty = true <;> simp [plain?, htail]
    · rw [if_neg he, if_neg he]
      rfl

/-- The match that is tried first is the numeral at the front. -/
theorem head?_pattern (cs : List Char) : (pattern cs).head? = span? cs := by
  rw [pattern, head?_seq, span?_eq, ← head?_mantissaPattern]
  cases mantissaPattern cs with
  | nil => rfl
  | cons m others =>
    rw [List.findSome?_cons, head?_exponentPattern]
    rfl

/-! ## The texts of the pattern -/

theorem accepts_digits : digits.Accepts Digits := by
  intro cs m rest
  rw [digits, accepts_plus]
  exact and_congr_right fun _ => ⟨fun h => ⟨h.1, h.2⟩, fun h => ⟨h.nonempty, h.digits⟩⟩

theorem accepts_mantissaPattern : mantissaPattern.Accepts Mantissa := by
  intro cs m rest
  rw [mantissaPattern, fractionPattern, ((accepts_digits.seq (accepts_one.seq accepts_digits)).alt
    (accepts_one.seq accepts_digits)).alt accepts_digits cs m rest]
  refine and_congr_right fun _ => ⟨?_, ?_⟩
  · rintro ((⟨ds, _, rfl, hds, _, fs, rfl, ⟨c, rfl, hc⟩, hfs⟩ |
      ⟨_, fs, rfl, ⟨c, rfl, hc⟩, hfs⟩) | hds)
    · rw [of_decide_eq_true hc]
      exact .decimal hds hfs
    · rw [of_decide_eq_true hc]
      exact .fraction hfs
    · exact .whole hds
  · intro h
    cases h with
    | whole hds => exact .inr hds
    | decimal hds hfs => exact .inl (.inl ⟨_, _, rfl, hds, ['.'], _, rfl, ⟨'.', rfl, rfl⟩, hfs⟩)
    | fraction hfs => exact .inl (.inr ⟨['.'], _, rfl, ⟨'.', rfl, rfl⟩, hfs⟩)

theorem accepts_exponentPattern : exponentPattern.Accepts Exponent := by
  intro cs m rest
  rw [exponentPattern,
    (accepts_one.seq (accepts_one.opt.seq accepts_digits)).opt cs m rest]
  refine and_congr_right fun _ => ⟨?_, ?_⟩
  · rintro (⟨_, _, rfl, ⟨e, rfl, he⟩, sign, ds, rfl, hsign, hds⟩ | rfl)
    · refine @Exponent.some e sign ds (by simpa [isExponentMark] using he) ?_ hds
      rcases hsign with ⟨c, rfl, hc⟩ | rfl
      · rcases isSign_iff.1 hc with rfl | rfl
        · exact .inr (.inl rfl)
        · exact .inr (.inr rfl)
      · exact .inl rfl
    · exact .none
  · intro h
    cases h with
    | none => exact .inr rfl
    | @some e sign ds he hsign hds =>
      have hmark : isExponentMark e = true := by simpa [isExponentMark] using he
      refine .inl ⟨[e], sign ++ ds, rfl, ⟨e, rfl, hmark⟩, sign, ds, rfl, ?_, hds⟩
      rcases hsign with rfl | rfl | rfl
      · exact .inr rfl
      · exact .inl ⟨'+', rfl, rfl⟩
      · exact .inl ⟨'-', rfl, rfl⟩

theorem accepts_pattern : pattern.Accepts IsNumeral := by
  intro cs m rest
  rw [pattern, (accepts_mantissaPattern.seq accepts_exponentPattern) cs m rest]
  exact Iff.rfl

/-- The numeral at the front of a text is one. -/
theorem isNumeral_of_span? {cs numeral rest : List Char} (h : span? cs = some (numeral, rest)) :
    IsNumeral numeral := by
  rw [← head?_pattern] at h
  exact ((accepts_pattern cs numeral rest).1 (List.mem_of_head? h)).2

theorem isNumeral_iff {cs : List Char} : isNumeral cs = true ↔ IsNumeral cs := by
  constructor
  · intro h
    unfold isNumeral at h
    split at h
    · rename_i numeral rest hspan
      obtain ⟨happ, -⟩ := append_of_span? hspan
      rw [List.isEmpty_iff] at h
      rw [happ, h, List.append_nil]
      exact isNumeral_of_span? hspan
    · cases h
  · intro h
    rw [isNumeral, span?_of_isNumeral h]
    rfl

/-- A match that leaves nothing need not be the first one tried. -/
theorem isNumeral_iff_pattern {cs : List Char} :
    isNumeral cs = true ↔ ∃ m ∈ pattern cs, m.2 = [] := by
  rw [isNumeral_iff]
  constructor
  · intro h
    exact ⟨(cs, []), (accepts_pattern cs cs []).2 ⟨(List.append_nil cs).symm, h⟩, rfl⟩
  · rintro ⟨⟨m, rest⟩, hm, rfl⟩
    obtain ⟨rfl, h⟩ := (accepts_pattern cs m []).1 hm
    rwa [List.append_nil]

end Numeral

/-! ## Numerals among the tokens -/

namespace Token

theorem isNumeral_of_front {c : Char} {rest : List Char} {s : String} {n : Nat}
    (h : front c rest = .lexeme (.numeral s) n) : IsNumeral s.toList := by
  unfold front at h
  split at h
  · cases h
  split at h
  · cases h
  split at h
  · split at h <;> cases h
  split at h
  · dsimp only at h
    split at h <;> cases h
  split at h
  · rename_i hspan
    cases h
    rw [String.toList_ofList]
    exact Numeral.isNumeral_of_span? hspan
  · split at h <;> cases h

theorem scan_numeral {w : List Char} (h : IsNumeral w) :
    ∃ t e, scan w = .ok [t, e] ∧ t.lexeme = .numeral (String.ofList w) ∧ e.isEnd = true := by
  have hwritten : (Lexeme.numeral (String.ofList w)).WellFormed := by
    simpa [Lexeme.WellFormed] using h
  obtain ⟨stop, hline⟩ := scanLine_written hwritten 1 1 [] (by simp [Apart])
  rw [List.append_nil, show (Lexeme.numeral (String.ofList w)).written = w from
    String.toList_ofList] at hline
  have hlines := Text.lines_of_broken (.last (IsNumeral.ne_nil h) (newline_notMem_numeral h))
  let last : Location := ⟨1, Text.utf8Length w + 1⟩
  refine ⟨⟨.numeral (String.ofList w), .determined ⟨1, 1⟩ ⟨1, stop⟩⟩,
    ⟨.endOfInput, .determined last last⟩, ?_, rfl, rfl⟩
  rw [scan, hlines, scanLines, hline]
  rfl

/-- Every token that is a numeral has the form of one. -/
theorem isNumeral_of_scan {text : List Char} {tokens : List Token} (h : scan text = .ok tokens)
    {t : Token} (ht : t ∈ tokens) {s : String} (hs : t.lexeme = .numeral s) :
    IsNumeral s.toList := by
  have hfront : ∀ c rest l n, front c rest = .lexeme l n →
      ∀ s, l = .numeral s → IsNumeral s.toList := by
    rintro c rest _ n h s rfl
    exact isNumeral_of_front h
  obtain ⟨body, e, rfl, hbody, he⟩ := scanLines_forall hfront h
  rcases List.mem_append.1 ht with ht | ht
  · exact hbody t ht s hs
  · rw [List.mem_singleton.1 ht] at hs
    rw [isEnd, hs] at he
    cases he

end Token

/-! ## Literals -/

namespace Grammar

theorem numeral_run {σ : Type} (call : (r : Rule) → Reader σ (Rule.Result r)) {t : Token}
    (rest : List Token) {s : String} (h : t.lexeme = .numeral s) (reach : Reach) (memory : σ) :
    (numeral.run call (.ofTokens 0 (t :: rest)) (reach, memory)).1 =
      (Numeral.value? s.toList).map fun v => (.number v t.span, ⟨1, rest, t.span.stop⟩) := by
  have hnext : (Cursor.ofTokens 0 (t :: rest)).next? .numeral =
      some (t, ⟨1, rest, t.span.stop⟩) := by
    simp [Cursor.next?, Cursor.ofTokens, Terminal.fits, h]
  have hcontent : content t = s := by simp [content, h]
  simp only [numeral, Peg.run, hnext, hcontent, Option.map_map]
  rfl

end Grammar

/-- The text is a number of the language: its only token before the end mark is a numeral that
takes all of it, and the grammar reads the number from this token. -/
def IsLiteral (w : List Char) (v : Rat) : Prop :=
  ∃ t e, Token.scan w = .ok [t, e] ∧ t.lexeme = .numeral (String.ofList w) ∧ e.isEnd = true ∧
    (Grammar.numeral.run (Peg.runCached Grammar.form Grammar.kept (Grammar.depth [t, e]))
      (.ofTokens 0 [t, e]) (.start 0, ∅)).1 = some (.number v t.span, ⟨1, [e], t.span.stop⟩)

theorem isLiteral_iff {w : List Char} {v : Rat} :
    IsLiteral w v ↔ Numeral.isNumeral w = true ∧ Numeral.unsigned w = .value v := by
  have hvalue (t e : Token) (h : t.lexeme = .numeral (String.ofList w)) :
      (Grammar.numeral.run (Peg.runCached Grammar.form Grammar.kept (Grammar.depth [t, e]))
        (.ofTokens 0 [t, e]) (.start 0, ∅)).1 = some (.number v t.span, ⟨1, [e], t.span.stop⟩) ↔
        Numeral.unsigned w = .value v := by
    rw [Grammar.numeral_run _ _ h, String.toList_ofList, Numeral.value?]
    cases Numeral.unsigned w <;> simp [Numeral.Outcome.value?]
  rw [Numeral.isNumeral_iff]
  constructor
  · rintro ⟨t, e, hscan, hlexeme, -, hread⟩
    have hnumeral := Token.isNumeral_of_scan hscan List.mem_cons_self hlexeme
    rw [String.toList_ofList] at hnumeral
    exact ⟨hnumeral, (hvalue t e hlexeme).1 hread⟩
  · rintro ⟨hnumeral, hunsigned⟩
    obtain ⟨t, e, hscan, hlexeme, he⟩ := Token.scan_numeral hnumeral
    exact ⟨t, e, hscan, hlexeme, he, (hvalue t e hlexeme).2 hunsigned⟩

namespace Numeral

/-- No numeral starts with a sign. -/
theorem signed?_of_isNumeral {cs : List Char} (h : isNumeral cs = true) :
    signed? cs = some (unsigned cs) := by
  unfold signed?
  split
  · cases h
  · cases h
  · rw [if_pos h]

theorem signed?_eq_value_iff {cs : List Char} {q : Rat} :
    signed? cs = some (.value q) ↔
      ∃ sign w v, (sign = [] ∨ sign = ['+'] ∨ sign = ['-']) ∧ cs = sign ++ w ∧
        (isNumeral w = true ∧ unsigned w = .value v) ∧ q = if sign = ['-'] then -v else v := by
  constructor
  · intro h
    unfold signed? at h
    split at h
    · rename_i w
      split at h
      · rename_i hw
        cases hv : unsigned w with
        | value v =>
          rw [hv] at h
          cases h
          exact ⟨['-'], w, v, .inr (.inr rfl), rfl, ⟨hw, hv⟩, rfl⟩
        | _ =>
          rw [hv] at h
          cases h
      · cases h
    · rename_i w
      split at h
      · rename_i hw
        exact ⟨['+'], w, q, .inr (.inl rfl), rfl, ⟨hw, Option.some.inj h⟩, rfl⟩
      · cases h
    · split at h
      · rename_i hw
        exact ⟨[], cs, q, .inl rfl, rfl, ⟨hw, Option.some.inj h⟩, rfl⟩
      · cases h
  · rintro ⟨sign, w, v, hsign, rfl, ⟨hw, hv⟩, rfl⟩
    rcases hsign with rfl | rfl | rfl
    · rw [List.nil_append, signed?_of_isNumeral hw, hv, if_neg (by decide)]
    · rw [List.singleton_append, signed?, if_pos hw, hv, if_neg (by decide)]
    · rw [List.singleton_append, signed?, if_pos hw, hv, if_pos rfl]
      rfl

end Numeral

/-- A field of a table is read as a number exactly if it is a number of the language after at most
one sign, and the number has this sign. -/
theorem Table.convert_number_iff (table : String) (line : Nat) (field : List Char) (q : Rat) :
    convert table line .number field = .ok (.number q) ↔
      ∃ sign w v, (sign = [] ∨ sign = ['+'] ∨ sign = ['-']) ∧ field = sign ++ w ∧
        IsLiteral w v ∧ q = if sign = ['-'] then -v else v := by
  simp only [isLiteral_iff]
  rw [← Numeral.signed?_eq_value_iff, convert]
  cases Numeral.signed? field with
  | none => simp
  | some outcome => cases outcome <;> simp

end ModelLang
