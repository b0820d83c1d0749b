import Mathlib.Data.List.TakeWhile
import ModelLang.Proofs.Ladder

/-!
# ModelLang.Proofs.Precedence

The grammar reads every text of a formula as that formula. By induction on how the text is written,
it is read on its level and on all that bind more loosely, and a loop of its level goes on behind it
(`Grammar.Readable`). So the declaration of a parameter with such a text for its value is a program
of one statement, whose body is the formula (`Program.ofTokens_written`).
-/

namespace ModelLang.Grammar

open Peg (many opt oneOf)
open Formula (Written WrittenMore WrittenArgs)

/-! ## Formulas -/

/-- The terminals that a body of a parameter starts with when it is no expression. -/
def bodyStarts : List Terminal :=
  [.word "read", .mark "|", .mark "<", .mark "<>"]

/-- The text starts as an expression does, and no other body of a parameter. -/
def Opens (ts : List Lexeme) : Prop :=
  ∃ l ls x, ts = l :: ls ∧ l.terminal = some x ∧ x ∉ bodyStarts

theorem Opens.append {ts : List Lexeme} (h : Opens ts) (us : List Lexeme) : Opens (ts ++ us) := by
  obtain ⟨l, ls, x, rfl, hx, hmem⟩ := h
  exact ⟨l, ls ++ us, x, rfl, hx, hmem⟩

/-- The text is read as the formula on its level and on all that bind more loosely. -/
structure Readable (a : Formula) (l : Nat) (ts : List Lexeme) : Prop where
  le : l ≤ 11
  opens : Opens ts
  yields : ∀ {m : Nat}, m ≤ l → ∀ {rest : List Lexeme}, Ends m rest →
    layers.Yields (levelForm m) (fun e => e.bare = a.expr) ts rest
  /-- The loop of its level goes on behind the text. -/
  grows : l ∈ chainLevels → ∀ {rest : List Lexeme}, Ends (l + 1) rest →
    Grows (levelForm (l + 1)) (binaryStep l) applyStep (fun e => e.bare = a.expr) ts rest
  bangs : l = 10 → ∀ {rest : List Lexeme}, Ends 11 rest →
    Grows primary (mark "!") applyBang (fun e => e.bare = a.expr) ts rest

/-- Most levels have no loop. -/
theorem Readable.of_yields {a : Formula} {l : Nat} {ts : List Lexeme} (hl : l ∈ [2, 3, 8, 9, 11])
    (hopens : Opens ts) (h : ∀ rest, Ends l rest →
      layers.Yields (levelForm l) (fun e => e.bare = a.expr) ts rest) : Readable a l ts := by
  have hlevels : ∀ l ∈ [2, 3, 8, 9, 11], l ≤ 11 ∧ l ∉ chainLevels ∧ l ≠ 10 := by decide
  obtain ⟨hle, hchain, hten⟩ := hlevels l hl
  exact ⟨hle, hopens, fun hm _ hrest => yields_below hle h hm hrest, fun h => absurd h hchain,
    fun h => absurd h hten⟩

/-- On a level with a loop, it is enough to know how the loop goes on. -/
theorem Readable.of_grows {a : Formula} {l : Nat} {ts : List Lexeme} (hl : l ∈ chainLevels)
    (hopens : Opens ts) (h : ∀ rest, Ends (l + 1) rest →
      Grows (levelForm (l + 1)) (binaryStep l) applyStep (fun e => e.bare = a.expr) ts rest) :
    Readable a l ts := by
  have hlevels : ∀ l ∈ chainLevels, l < 10 ∧ (opsAt l).isEmpty = false := by decide
  obtain ⟨hlt, hops⟩ := hlevels l hl
  have hyields (rest : List Lexeme) (hrest : Ends l rest) :
      layers.Yields (levelForm l) (fun e => e.bare = a.expr) ts rest := by
    refine yields_chain hl ((h rest (hrest.mono (Nat.le_succ l))).yields rfl ?_)
    exact refused_operator hlt hops hrest (levelForm_regular (l + 1)).2
  exact ⟨by omega, hopens, fun hm _ hrest => yields_below (by omega) hyields hm hrest,
    fun _ rest => h rest, fun h => by omega⟩

/-- A text is read at the loop of each level that it can be an operand of on the left. -/
theorem Readable.grows_at {a : Formula} {l m : Nat} {ts rest : List Lexeme} (h : Readable a l ts)
    (hm : m ∈ chainLevels) (hml : m ≤ l) (hrest : Ends (m + 1) rest) :
    Grows (levelForm (m + 1)) (binaryStep m) applyStep (fun e => e.bare = a.expr) ts rest := by
  rcases Nat.eq_or_lt_of_le hml with rfl | hlt
  · exact h.grows hm hrest
  · exact .of_operand (h.yields hlt hrest)

theorem Readable.bangs_at {a : Formula} {l : Nat} {ts rest : List Lexeme} (h : Readable a l ts)
    (hl : 10 ≤ l) (hrest : Ends 11 rest) :
    Grows primary (mark "!") applyBang (fun e => e.bare = a.expr) ts rest := by
  rcases Nat.eq_or_lt_of_le hl with rfl | hlt
  · exact h.bangs rfl hrest
  · exact .of_operand (h.yields hlt hrest)

/-! ## Operators -/

theorem bare_binaryOf (op : BinaryOp) {e e' : Expr} {a b : Formula} (ha : e.bare = a.expr)
    (hb : e'.bare = b.expr) : (Expr.binaryOf op e e').bare = (Formula.binary op a b).expr := by
  rw [Expr.binaryOf, Expr.bare, Formula.expr, ha, hb]

/-- Binary operators group from the left, or do not chain, or are powers. -/
theorem binaryOp_cases (op : BinaryOp) :
    (op.level ∈ chainLevels ∧ op.left = op.level ∧ min op.right 8 = op.level + 1) ∨
      (op.level = 3 ∧ op.left = 4 ∧ min op.right 8 = 4) ∨
      (op.level = 9 ∧ op.left = 10 ∧ min op.right 8 = 8) := by
  cases op with
  | set op => cases op <;> decide
  | compare op => exact .inr (.inl ⟨rfl, rfl, rfl⟩)
  | _ => decide

theorem readable_binary {op : BinaryOp} {w : Lexeme} {a b : Formula} {k l : Nat}
    {ts us : List Lexeme} (hw : w ∈ op.spellings) (ha : Readable a k ts) (hk : op.left ≤ k)
    (hb : Readable b l us) (hl : min op.right 8 ≤ l) :
    Readable (.binary op a b) op.level (ts ++ w :: us) := by
  have hop (rest : List Lexeme) := yields_operator op hw rest
  have hopens := ha.opens.append (w :: us)
  rcases binaryOp_cases op with ⟨hchain, hleft, hright⟩ | ⟨hlevel, hleft, hright⟩ |
    ⟨hlevel, hleft, hright⟩ <;> rw [hleft] at hk <;> rw [hright] at hl
  · refine .of_grows hchain hopens fun rest hrest => ?_
    have hgrows := ha.grows_at hchain hk (ends_operator op hw (us ++ rest))
    refine hgrows.snoc rfl fun e he => ?_
    refine (yields_step (hop _) (hb.yields hl hrest)).mono ?_
    rintro ⟨_, e'⟩ ⟨rfl, he'⟩
    exact bare_binaryOf _ he he'
  · refine .of_yields (by rw [hlevel]; decide) hopens fun rest hrest => ?_
    have hends := ends_operator op hw (us ++ rest)
    rw [hlevel] at hop hends hrest ⊢
    have hright := hb.yields hl (hrest.mono (by decide))
    refine (yields_atMostOne (ha.yields hk hends) (hop _) hright).mono ?_
    rintro _ ⟨e, e', he, he', rfl⟩
    exact bare_binaryOf op he he'
  · refine .of_yields (by rw [hlevel]; decide) hopens fun rest hrest => ?_
    have hends := ends_operator op hw (us ++ rest)
    rw [hlevel] at hop hends hrest ⊢
    have hright := hb.yields hl (ends_eight hrest)
    refine (yields_atMostOne (ha.yields hk hends) (hop _) hright).mono ?_
    rintro _ ⟨e, e', he, he', rfl⟩
    exact bare_binaryOf op he he'

theorem yields_signed {op : UnaryOp} {t : Terminal} {w : Lexeme} {operand : Form Expr}
    {P : Expr → Prop} {ts rest : List Lexeme} (hw : t.fits w = true)
    (h : layers.Yields operand P ts rest) :
    layers.Yields (signed op (.token t) operand) (fun e => ∃ a s, P a ∧ e = .unary op a s)
      (w :: ts) rest :=
  (Layers.Yields.token hw).map₂ h fun _ _ a ha => ⟨a, _, ha, rfl⟩

theorem readable_neg {a : Formula} {l : Nat} {ts : List Lexeme} (h : Readable a l ts) (hl : 8 ≤ l) :
    Readable (.neg a) 8 (.mark "-" :: ts) := by
  refine .of_yields (by decide) ⟨_, ts, _, rfl, rfl, by decide⟩ fun rest hrest => ?_
  refine .rule (.first ((yields_signed rfl (h.yields hl hrest)).mono ?_))
  rintro _ ⟨e, s, he, rfl⟩
  rw [Expr.bare, Formula.expr, he]

theorem readable_not {a : Formula} {l : Nat} {ts : List Lexeme} (h : Readable a l ts) (hl : 2 ≤ l) :
    Readable (.not a) 2 (.word "not" :: ts) := by
  refine .of_yields (by decide) ⟨_, ts, _, rfl, rfl, by decide⟩ fun rest hrest => ?_
  refine .rule (.first ((yields_signed rfl (h.yields hl hrest)).mono ?_))
  rintro _ ⟨e, s, he, rfl⟩
  rw [Expr.bare, Formula.expr, he]

theorem readable_factorial {a : Formula} {l : Nat} {ts : List Lexeme} (h : Readable a l ts)
    (hl : 10 ≤ l) : Readable (.factorial a) 10 (ts ++ [.mark "!"]) := by
  have hgrows {rest : List Lexeme} (_ : Ends 11 rest) : Grows primary (mark "!") applyBang
      (fun e => e.bare = (Formula.factorial a).expr) (ts ++ [.mark "!"]) rest := by
    refine (h.bangs_at hl (ends_bang rest)).snoc rfl fun e he => ?_
    refine (Layers.Yields.token rfl).mono fun t _ => ?_
    rw [applyBang, Expr.bare, Formula.expr, he]
  have hyields (rest : List Lexeme) (hrest : Ends 10 rest) : layers.Yields (levelForm 10)
      (fun e => e.bare = (Formula.factorial a).expr) (ts ++ [.mark "!"]) rest :=
    (hgrows (hrest.mono (by decide))).yields rfl (refused_bang (Nat.le_refl _) hrest)
  exact ⟨by decide, h.opens.append _, fun hm _ hrest => yields_below (by decide) hyields hm hrest,
    fun h => absurd h (by decide), fun _ => hgrows⟩

/-! ## Primaries -/

/-- Alternatives that cannot start with the next lexeme are passed over. -/
theorem yields_alternative {α : Type} (ps : List (Form α)) {q : Form α} {P : α → Prop} {l : Lexeme}
    {x : Terminal} {ts rest : List Lexeme} (hx : l.terminal = some x)
    (hps : (ps.all fun p => p.avoids ruleStarts x) = true)
    (h : layers.Yields q P (l :: ts) rest) :
    layers.Yields (ps.foldr .choice q) P (l :: ts) rest :=
  .foldr_choice (fun p hp => refused hx (List.all_eq_true.1 hps p hp) (ts ++ rest)) h

theorem yields_withSpan {α : Type} {p : Form (Span → α)} {P : α → Prop} {ts rest : List Lexeme}
    (h : layers.Yields p (fun f => ∀ s, P (f s)) ts rest) : layers.Yields (withSpan p) P ts rest :=
  h.spanned.map fun x hx => hx x.2

theorem content_of_lexeme {t : Token} {x : String}
    (h : t.lexeme = .name x ∨ t.lexeme = .numeral x ∨ t.lexeme = .string x) : content t = x := by
  unfold content
  rcases h with h | h | h <;> rw [h]

/-- What stands before the forms of a primary that start with a name. -/
def beforeNames : List (Form Expr) :=
  [numeral, string, infinity, parenthesized, tuple, braces, conditional, builtinCall, aggregate,
    argExtremum, indexedSetOp, nonempty, proj, indexSetOf, withSpan (Expr.read <$> readSpec)]

theorem yields_named {P : Expr → Prop} {x : String} {ts rest : List Lexeme}
    (h : layers.Yields (.choice call (.choice subscript nameExpr)) P (.name x :: ts) rest) :
    layers.Yields primary P (.name x :: ts) rest :=
  yields_alternative beforeNames rfl (by decide +kernel) h

theorem refused_withSpan {α : Type} {p : Form (Span → α)} {ls : List Lexeme}
    (h : layers.Refused p ls) : layers.Refused (withSpan p) ls :=
  h.spanned.map

/-- What ends everything does not open arguments, either. -/
theorem refused_opening {α : Type} {p : Form α} (hp : p.nullable = false ∧ p.regular = true)
    (hstarts : p.starts ruleStarts ⊆ continuations 11) {rest : List Lexeme} (h : Ends 11 rest) :
    layers.Refused p rest := by
  obtain ⟨l, ls, x, rfl, hx, hmem⟩ := h
  exact refused hx (Peg.avoids_of_subset hp hstarts hmem) ls

theorem refused_call (x : String) {ls : List Lexeme} (h : layers.Refused arguments ls) :
    layers.Refused call (.name x :: ls) := by
  have hname : layers.Yields ((fun t args => Expr.call (content t) args) <$> .token .name)
      (fun _ => True) [.name x] ls := (Layers.Yields.token rfl).map fun _ _ => trivial
  exact refused_withSpan (hname.ap_refused h)

theorem refused_subscript (x : String) {ls : List Lexeme}
    (h : layers.Refused (mark "[" *> commaList expr <* mark "]") ls) :
    layers.Refused subscript (.name x :: ls) := by
  have hname : layers.Yields ((fun t args => Expr.subscript (content t) args) <$> .token .name)
      (fun _ => True) [.name x] ls := (Layers.Yields.token rfl).map fun _ _ => trivial
  exact refused_withSpan (hname.ap_refused h)

theorem readable_name (x : String) : Readable (.name x) 11 [.name x] := by
  refine .of_yields (by decide) ⟨_, [], _, rfl, rfl, by decide⟩ fun rest hrest => ?_
  have hcall : layers.Refused arguments rest :=
    refused_opening (by decide +kernel) (by decide +kernel) hrest
  have hsubscript : layers.Refused (mark "[" *> commaList expr <* mark "]") rest :=
    refused_opening (by decide +kernel) (by decide +kernel) hrest
  refine yields_named (.second (refused_call x hcall) (.second (refused_subscript x hsubscript) ?_))
  refine (Layers.Yields.token rfl).map fun t ht => ?_
  rw [Expr.bare, content_of_lexeme (.inl ht), Formula.expr]

theorem readable_string (s : String) : Readable (.string s) 11 [.string s] := by
  refine .of_yields (by decide) ⟨_, [], _, rfl, rfl, by decide⟩ fun rest hrest => ?_
  refine yields_alternative [numeral] rfl (by decide +kernel) (.first ?_)
  refine (Layers.Yields.token rfl).map fun t ht => ?_
  rw [Expr.bare, content_of_lexeme (.inr (.inr ht)), Formula.expr]

/-- Digits alone have no point and no exponent. -/
theorem value?_digits {ds : List Char} (hds : ∀ d ∈ ds, d.isDigit = true) :
    Numeral.value? ds = some (Numeral.ofDigits ds : Rat) := by
  have hother : ∀ d ∈ ds, (! Numeral.isExponentMark d) = true ∧ (d != '.') = true := by
    intro d hd
    have hne (c : Char) (hc : c.isDigit = false) : d ≠ c := by
      rintro rfl
      rw [hds d hd] at hc
      cases hc
    simp [Numeral.isExponentMark, hne 'e' rfl, hne 'E' rfl, hne '.' rfl]
  have htake : ds.takeWhile (! Numeral.isExponentMark ·) = ds :=
    List.takeWhile_eq_self_iff.2 fun d hd => (hother d hd).1
  have hdrop : ds.dropWhile (! Numeral.isExponentMark ·) = [] :=
    List.dropWhile_eq_nil_iff.2 fun d hd => (hother d hd).1
  have hpoint : ds.dropWhile (· != '.') = [] :=
    List.dropWhile_eq_nil_iff.2 fun d hd => (hother d hd).2
  have hexponent : Numeral.exponent ds = 0 := by
    rw [Numeral.exponent, hdrop]
    rfl
  have hfraction : Numeral.fraction ds = [] := by
    rw [Numeral.fraction, htake, hpoint]
    rfl
  have hscale : Numeral.scale ds = 0 := by
    rw [Numeral.scale, hexponent, hfraction]
    rfl
  have hsignificand : Numeral.significand ds = ds := by
    rw [Numeral.significand, htake]
    exact List.filter_eq_self.2 fun d hd => (hother d hd).2
  have hunsigned : Numeral.unsigned ds = .value (Numeral.ofDigits ds) := by
    rw [Numeral.unsigned, hexponent, hfraction, hscale, hsignificand, if_neg (by decide),
      if_neg (by decide), if_neg (by decide)]
    simp [Numeral.scaled]
  rw [Numeral.value?, hunsigned, Numeral.Outcome.value?]

theorem readable_number {n : Nat} {ds : List Char} (hds : ∀ d ∈ ds, d.isDigit = true)
    (hn : Numeral.ofDigits ds = n) :
    Readable (.number n) 11 [.numeral (String.ofList ds)] := by
  refine .of_yields (by decide) ⟨_, [], _, rfl, rfl, by decide⟩ fun rest hrest => ?_
  refine .first ((Layers.Yields.token rfl).filterMap fun t ht => ⟨.number n t.span, ?_, rfl⟩)
  rw [content_of_lexeme (.inr (.inl ht)), String.toList_ofList, value?_digits hds, hn]
  rfl

theorem readable_parens {a : Formula} {l : Nat} {ts : List Lexeme} (h : Readable a l ts) :
    Readable a 11 (.mark "(" :: (ts ++ [.mark ")"])) := by
  refine .of_yields (by decide) ⟨_, _, _, rfl, rfl, by decide⟩ fun rest hrest => ?_
  refine yields_alternative [numeral, string, infinity] rfl (by decide +kernel) (.first ?_)
  have hinner := h.yields (Nat.zero_le l) (ends_close (.inl rfl) rest)
  exact ((yields_mark "(" _).right hinner).left (yields_mark ")" rest)

/-! ## Arguments -/

def IsClose (l : Lexeme) : Prop :=
  l = .mark ")" ∨ l = .mark "]"

theorem ends_more {as : List Formula} {us : List Lexeme} (h : WrittenMore as us) {l : Lexeme}
    (hl : IsClose l) (rest : List Lexeme) : Ends 0 (us ++ l :: rest) := by
  cases h with
  | nil =>
    rcases hl with rfl | rfl
    · exact ends_close (.inl rfl) rest
    · exact ends_close (.inr (.inl rfl)) rest
  | cons => exact ends_close (.inr (.inr (.inl rfl))) _

/-- The texts are read as formulas, each after a comma. -/
def ReadableMore (as : List Formula) (us : List Lexeme) : Prop :=
  ∀ l rest, IsClose l → layers.Yields (many (mark "," *> expr))
    (fun es => es.map Expr.bare = Formula.exprs as) us (l :: rest)

theorem readable_nil : ReadableMore [] [] := by
  intro l rest hl
  have hrefused : layers.Refused (mark "," *> expr) (l :: rest) := by
    rcases hl with rfl | rfl
    · exact refused rfl (by decide +kernel) rest
    · exact refused rfl (by decide +kernel) rest
  refine (Layers.Yields.nil rfl hrefused).mono ?_
  rintro _ rfl
  rfl

theorem readable_more {a : Formula} {as : List Formula} {k : Nat} {ts us : List Lexeme}
    (h : Readable a k ts) (hmore : WrittenMore as us) (ih : ReadableMore as us) :
    ReadableMore (a :: as) (.mark "," :: (ts ++ us)) := by
  intro l rest hl
  have hfirst := (yields_mark "," _).right (h.yields (Nat.zero_le k) (ends_more hmore hl rest))
  refine (Layers.Yields.cons rfl hfirst fun _ _ => ih l rest hl).mono ?_
  rintro _ ⟨e, es, rfl, he, hes⟩
  rw [List.map_cons, he, hes, Formula.exprs]

theorem yields_commaList {a : Formula} {as : List Formula} {k : Nat} {ts us : List Lexeme}
    (h : Readable a k ts) (hmore : WrittenMore as us) (ih : ReadableMore as us) {l : Lexeme}
    (hl : IsClose l) (rest : List Lexeme) :
    layers.Yields (commaList expr) (fun es => es.map Expr.bare = Formula.exprs (a :: as))
      (ts ++ us) (l :: rest) := by
  refine (h.yields (Nat.zero_le k) (ends_more hmore hl rest)).map₂ (ih l rest hl) ?_
  intro e he es hes
  rw [List.map_cons, he, hes, Formula.exprs]

/-- The texts are read as formulas with commas between them. -/
def ReadableArgs (as : List Formula) (ts : List Lexeme) : Prop :=
  ∀ rest, layers.Yields arguments (fun es => es.map Expr.bare = Formula.exprs as)
    (.mark "(" :: (ts ++ [.mark ")"])) rest

theorem readable_args {as : List Formula} {ts : List Lexeme}
    (h : ∀ rest, layers.Yields (opt (commaList expr))
      (fun x => (x.getD []).map Expr.bare = Formula.exprs as) ts (.mark ")" :: rest)) :
    ReadableArgs as ts := by
  intro rest
  have hinner := ((yields_mark "(" _).right (h rest)).left (yields_mark ")" rest)
  exact Layers.Yields.map (f := fun x : Option (List Expr) => x.getD []) hinner fun _ hx => hx

theorem readable_call (f : String) {as : List Formula} {ts : List Lexeme} (h : ReadableArgs as ts) :
    Readable (.call f as) 11 (.name f :: .mark "(" :: (ts ++ [.mark ")"])) := by
  refine .of_yields (by decide) ⟨_, _, _, rfl, rfl, by decide⟩ fun rest hrest => ?_
  refine yields_named (.first (yields_withSpan ?_))
  refine (Layers.Yields.token rfl).map₂ (h rest) fun t ht es hes s => ?_
  rw [Expr.bare, Expr.bareAll_eq_map, hes, content_of_lexeme (.inl ht), Formula.expr]

theorem yields_words {α : Type} (table : List (String × α)) {w : String} {a : α}
    (h : (table.find? fun e => e.1 = w).map Prod.snd = some a) (rest : List Lexeme) :
    layers.Yields (words table) (· = a) [.word w] rest := by
  refine .oneOf ?_
  rw [List.find?_map, Option.map_map]
  exact h

theorem builtins_find (f : Builtin) :
    (builtins.find? fun e => e.1 = f.name).map Prod.snd = some f := by
  cases f <;> decide +kernel

/-- No form before the calls of functions starts with the name of one. -/
theorem builtin_avoids (f : Builtin) :
    ([numeral, string, infinity, parenthesized, tuple, braces, conditional].all
      fun p => p.avoids ruleStarts (.word f.name)) = true := by
  cases f <;> decide +kernel

theorem readable_builtin (f : Builtin) {as : List Formula} {ts : List Lexeme}
    (h : ReadableArgs as ts) :
    Readable (.builtin f as) 11 (.word f.name :: .mark "(" :: (ts ++ [.mark ")"])) := by
  have hopens : Terminal.word f.name ∉ bodyStarts := by cases f <;> decide
  refine .of_yields (by decide) ⟨_, _, _, rfl, rfl, hopens⟩ fun rest hrest => ?_
  refine yields_alternative _ rfl (builtin_avoids f) (.first (yields_withSpan ?_))
  refine (yields_words builtins (builtins_find f) _).map₂ (h rest) fun g hg es hes s => ?_
  rw [Expr.bare, Expr.bareAll_eq_map, hes, hg, Formula.expr]

theorem readable_subscript (x : String) {a : Formula} {as : List Formula} {k : Nat}
    {ts us : List Lexeme} (h : Readable a k ts) (hmore : WrittenMore as us)
    (ih : ReadableMore as us) :
    Readable (.subscript x a as) 11 (.name x :: .mark "[" :: (ts ++ us ++ [.mark "]"])) := by
  refine .of_yields (by decide) ⟨_, _, _, rfl, rfl, by decide⟩ fun rest hrest => ?_
  have hcall : layers.Refused arguments (.mark "[" :: (ts ++ us ++ [.mark "]"] ++ rest)) :=
    refused rfl (by decide +kernel) _
  refine yields_named (.second (refused_call x hcall) (.first ?_))
  have hitems := yields_commaList h hmore ih (.inr rfl) rest
  refine yields_withSpan ((Layers.Yields.token rfl).map₂
    (((yields_mark "[" _).right hitems).left (yields_mark "]" rest)) fun t ht es hes s => ?_)
  rw [Expr.bare, Expr.bareAll_eq_map, hes, content_of_lexeme (.inl ht), Formula.expr, Formula.exprs]

/-! ## All texts -/

mutual

/-- By induction on how the text is written. -/
theorem readable {a : Formula} {l : Nat} {ts : List Lexeme} (h : Written a l ts) :
    Readable a l ts :=
  match h with
  | .parens h => readable_parens (readable h)
  | .name x => readable_name x
  | .number _ hds hn => readable_number hds hn
  | .string s => readable_string s
  | .subscript x h hmore => readable_subscript x (readable h) hmore (readableMore hmore)
  | .call f h => readable_call f (readableArgs h)
  | .builtin f h => readable_builtin f (readableArgs h)
  | .neg h hl => readable_neg (readable h) hl
  | .not h hl => readable_not (readable h) hl
  | .factorial h hl => readable_factorial (readable h) hl
  | .binary hw ha hk hb hl => readable_binary hw (readable ha) hk (readable hb) hl

theorem readableMore {as : List Formula} {us : List Lexeme} (h : WrittenMore as us) :
    ReadableMore as us :=
  match h with
  | .nil => readable_nil
  | .cons h hrest => readable_more (readable h) hrest (readableMore hrest)

theorem readableArgs {as : List Formula} {ts : List Lexeme} (h : WrittenArgs as ts) :
    ReadableArgs as ts :=
  match h with
  | .nil => readable_args fun rest => by
    refine (Layers.Yields.absent (refused rfl (by decide +kernel) rest)).mono ?_
    rintro _ rfl
    rfl
  | .cons h hrest => readable_args fun rest => by
    have hlist := yields_commaList (readable h) hrest (readableMore hrest) (.inl rfl) rest
    refine hlist.present.mono ?_
    rintro _ ⟨es, rfl, hes⟩
    exact hes

end

/-! ## Parameters -/

/-- A declaration of a parameter by its lexemes, with the end mark behind it. -/
def paramLexemes (p : String) (ts : List Lexeme) : List Lexeme :=
  .word "param" :: .name p :: .mark ":=" :: (ts ++ [.mark ";", .endOfInput])

/-- The statement declares a parameter with nothing but a formula for its value. -/
def IsParam (p : String) (a : Formula) (s : Statement) : Prop :=
  ∃ e place span, s = .param ⟨⟨p, place⟩, none, .value e, none, span⟩ ∧ e.bare = a.expr

theorem yields_body {a : Formula} {l : Nat} {ts : List Lexeme} (h : Readable a l ts)
    (rest : List Lexeme) :
    layers.Yields paramBody (fun b => ∃ e, b = .value e ∧ e.bare = a.expr) ts
      (.mark ";" :: rest) := by
  have hvalue := h.yields (Nat.zero_le l) (ends_close (.inr (.inr (.inr rfl))) rest)
  obtain ⟨x, ls, t, rfl, ht, hmem⟩ := h.opens
  have hrefused {p : Form ParamBody} (hp : p.nullable = false ∧ p.regular = true)
      (hstarts : p.starts ruleStarts ⊆ bodyStarts) :
      layers.Refused p (x :: ls ++ .mark ";" :: rest) :=
    refused ht (Peg.avoids_of_subset hp hstarts hmem) _
  refine .second (hrefused (by decide +kernel) (by decide +kernel)) ?_
  refine .second (hrefused (by decide +kernel) (by decide +kernel)) ?_
  refine .second (hrefused (by decide +kernel) (by decide +kernel)) ?_
  exact hvalue.map fun e he => ⟨e, rfl, he⟩

theorem yields_param (p : String) {a : Formula} {l : Nat} {ts : List Lexeme}
    (h : Readable a l ts) (rest : List Lexeme) :
    layers.Yields paramDecl (IsParam p a) (.word "param" :: .name p :: .mark ":=" :: ts)
      (.mark ";" :: rest) := by
  have hname (rest : List Lexeme) : layers.Yields name (fun n => n.text = p) [.name p] rest :=
    (Layers.Yields.token rfl).map fun t ht => content_of_lexeme (.inl ht)
  have hindex : layers.Yields declIndex (· = none) [] (.mark ":=" :: (ts ++ .mark ";" :: rest)) :=
    (Layers.Yields.absent (refused rfl (by decide +kernel) _)).map fun x hx => hx ▸ rfl
  have hbody := ((yields_mark ":=" _).right (yields_body h rest)).present
  have hdefault : layers.Yields (opt (word "default" *> expr)) (· = none) [] (.mark ";" :: rest) :=
    .absent (refused rfl (by decide +kernel) rest)
  refine yields_withSpan ?_
  rw [← List.append_nil (.word "param" :: .name p :: .mark ":=" :: ts)]
  refine ((((yields_word "param" _).right (hname _)).map₂ hindex ?_).ap hbody).ap hdefault
  rintro ⟨_, place⟩ rfl _ rfl _ ⟨_, rfl, e, rfl, he⟩ _ rfl span
  exact ⟨e, place, span, rfl, he⟩

theorem yields_statement (p : String) {a : Formula} {l : Nat} {ts : List Lexeme}
    (h : Readable a l ts) (rest : List Lexeme) :
    layers.Yields statement (IsParam p a)
      (.word "param" :: .name p :: .mark ":=" :: ts ++ [.mark ";"]) rest := by
  refine Layers.Yields.left (.rule ?_) (yields_mark ";" rest)
  exact yields_alternative [setDecl] rfl (by decide +kernel) (.first (yields_param p h rest))

end ModelLang.Grammar

namespace ModelLang.Program

open Grammar

/-- One statement that is read up to the end mark is the whole program. -/
theorem ofTokens_of_yields {P : Statement → Prop} {ts : List Lexeme}
    (h : layers.Yields statement P ts [.endOfInput]) {tokens : List Token} {l : Lexeme}
    {ls : List Lexeme} (hts : ts = l :: ls) (hl : l ≠ .endOfInput)
    (htokens : tokens.map Token.lexeme = ts ++ [.endOfInput]) :
    ∃ s, ofTokens tokens = ⟨[s], []⟩ ∧ P s := by
  obtain ⟨s, c, hread, hs, hc⟩ := h (.ofTokens 0 tokens) htokens
  obtain ⟨t, rest, rfl, ht, -⟩ := List.map_eq_cons_iff.1 (hts ▸ htokens)
  have hstart : atEnd (t :: rest) = false := by
    rw [atEnd, Token.isEnd, ht]
    exact decide_eq_false hl
  have hstop : atEnd c.rest = true := by
    obtain ⟨u, more, hrest, hu, -⟩ := List.map_eq_cons_iff.1 hc
    rw [hrest, atEnd, Token.isEnd, hu]
    rfl
  have hanswer : (turnAt (.ofTokens 0 (t :: rest))).answer = some (s, c) := hread
  have hnext : recover 0 (t :: rest) = .ofTokens c.position c.rest := by
    have hturn := turnAt_next (.ofTokens 0 (t :: rest))
    rw [Turn.next, hanswer] at hturn
    exact hturn.symm
  refine ⟨s, ?_, hs⟩
  rw [ofTokens, turns_eq, turnsFrom_cons t rest 0 hstart, hnext,
    turnsFrom_of_atEnd rest (c := .ofTokens c.position c.rest) hstop]
  simp only [ofTurns, List.filterMap_cons, List.filterMap_nil, turnAt_result_of_some hanswer]

/-- Every text of a formula is read as that formula, and one of them has no other parentheses than
the levels require. -/
theorem ofTokens_written (p : String) (a : Formula) :
    a.Written a.level a.lexemes ∧
      ∀ {l : Nat} {ts : List Lexeme} {tokens : List Token}, a.Written l ts →
        tokens.map Token.lexeme = paramLexemes p ts →
        ∃ s, ofTokens tokens = ⟨[s], []⟩ ∧ IsParam p a s := by
  refine ⟨a.written_lexemes, fun h htokens => ?_⟩
  refine ofTokens_of_yields (yields_statement p (readable h) [.endOfInput]) rfl nofun ?_
  rw [htokens, paramLexemes]
  simp

/-- `-2 ^ x ^ 3 * (1 - (1 - f(y))) in S union T and not (a < b) < c[1, x]!`, in which every
parenthesis is required. -/
def sampleFormula : Formula :=
  .binary .and
    (.binary .mem
      (.binary .mul
        (.neg (.binary .pow (.number 2) (.binary .pow (.name "x") (.number 3))))
        (.binary .sub (.number 1) (.binary .sub (.number 1) (.call "f" [.name "y"]))))
      (.binary (.set .union) (.name "S") (.name "T")))
    (.not (.binary (.compare .lt) (.binary (.compare .lt) (.name "a") (.name "b"))
      (.factorial (.subscript "c" (.number 1) [.name "x"]))))

/-- The lexemes at the default place. -/
def placed (ls : List Lexeme) : List Token :=
  ls.map fun l => ⟨l, default⟩

theorem ofTokens_written_sample :
    sampleFormula.lexemes = [.mark "-", .numeral "2", .mark "^", .name "x", .mark "^", .numeral "3",
        .mark "*", .mark "(", .numeral "1", .mark "-", .mark "(", .numeral "1", .mark "-",
        .name "f", .mark "(", .name "y", .mark ")", .mark ")", .mark ")", .word "in", .name "S",
        .word "union", .name "T", .word "and", .word "not", .mark "(", .name "a", .mark "<",
        .name "b", .mark ")", .mark "<", .name "c", .mark "[", .numeral "1", .mark ",", .name "x",
        .mark "]", .mark "!"] ∧
      (placed (paramLexemes "p" sampleFormula.lexemes)).map Token.lexeme =
        paramLexemes "p" sampleFormula.lexemes ∧
      sampleFormula.Written sampleFormula.level sampleFormula.lexemes ∧
      ∃ s, ofTokens (placed (paramLexemes "p" sampleFormula.lexemes)) = ⟨[s], []⟩ ∧
        IsParam "p" sampleFormula s := by
  obtain ⟨hwritten, hread⟩ := ofTokens_written "p" sampleFormula
  have hplaced : (placed (paramLexemes "p" sampleFormula.lexemes)).map Token.lexeme =
      paramLexemes "p" sampleFormula.lexemes := by
    rw [placed, List.map_map]
    exact List.map_id _
  exact ⟨by decide +kernel, hplaced, hwritten, hread hwritten hplaced⟩

end ModelLang.Program
