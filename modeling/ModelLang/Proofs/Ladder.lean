import ModelLang.Proofs.Formula
import ModelLang.Proofs.Starts

/-!
# ModelLang.Proofs.Ladder

The levels of the grammar. For every level it has an expression that reads what binds at that level
or more closely (`Grammar.levelForm`), where what follows does not go on with it (`Grammar.Ends`).
Operators of a level that group from the left are read in a loop; a text of such an operator is read
as far as the loop has come, and the loop goes on behind it (`Grammar.Grows`). What is read on a
level is read on all levels before (`Grammar.yields_below`).
-/

namespace ModelLang.Grammar

open Peg (many opt oneOf)

/-! ## First terminals of the rules -/

/-- What a rule can start with, through at most so many rules. -/
def startsAt : Nat → Rule → List Terminal
  | 0, _ => []
  | n + 1, r => (form r).starts (startsAt n)

def ruleStarts : Rule → List Terminal :=
  startsAt 7

theorem form_starts (r : Rule) : (form r).starts ruleStarts ⊆ ruleStarts r := by
  cases r <;> decide +kernel

theorem refused {α : Type} {p : Form α} {l : Lexeme} {x : Terminal} (hl : l.terminal = some x)
    (hp : p.avoids ruleStarts x = true) (ls : List Lexeme) : layers.Refused p (l :: ls) :=
  layers.refused_of_avoids form_starts hl hp ls

theorem yields_word (w : String) (rest : List Lexeme) :
    layers.Yields (word w) (fun _ => True) [.word w] rest := by
  have hfits : (Terminal.word w).fits (.word w) = true := decide_eq_true rfl
  exact (Layers.Yields.token hfits).mono fun _ _ => trivial

theorem yields_mark (m : String) (rest : List Lexeme) :
    layers.Yields (mark m) (fun _ => True) [.mark m] rest := by
  have hfits : (Terminal.mark m).fits (.mark m) = true := decide_eq_true rfl
  exact (Layers.Yields.token hfits).mono fun _ _ => trivial

/-! ## Levels of the grammar -/

/-- What reads texts of a level or more. -/
def levelForm : Nat → Form Expr
  | 0 => expr
  | 1 => chain (.rule Rule.notExpr) andOps
  | 2 => .rule Rule.notExpr
  | 3 => comparison
  | 4 => unionExpr
  | 5 => chain additive interOps
  | 6 => additive
  | 7 => multiplicative
  | 8 => unary
  | 9 => atMostOne powerOps postfixed unary
  | 10 => postfixed
  | _ => primary

/-- The binary operators of a level. -/
def opsAt : Nat → List (Terminal × BinaryOp)
  | 0 => orOps
  | 1 => andOps
  | 3 => compareOps
  | 4 => unionOps
  | 5 => interOps
  | 6 => additiveOps
  | 7 => multiplicativeOps
  | 9 => powerOps
  | _ => []

/-- What goes on with a text of a level. -/
def continuations (m : Nat) : List Terminal :=
  ((List.range' m (10 - m)).flatMap fun n => (opsAt n).map Prod.fst) ++
    (if m ≤ 10 then [.mark "!"] else []) ++ [.mark "(", .mark "["]

/-- What follows does not go on with a text of the level. -/
def Ends (m : Nat) (rest : List Lexeme) : Prop :=
  ∃ l ls x, rest = l :: ls ∧ l.terminal = some x ∧ x ∉ continuations m

theorem continuations_subset {m n : Nat} (h : m ≤ n) : continuations n ⊆ continuations m := by
  intro x hx
  simp only [continuations, List.mem_append, List.mem_flatMap, List.mem_range'_1] at hx ⊢
  rcases hx with (⟨k, hk, hmem⟩ | hbang) | hopen
  · exact .inl (.inl ⟨k, by omega, hmem⟩)
  · refine .inl (.inr ?_)
    split at hbang
    · rwa [if_pos (by omega)]
    · cases hbang
  · exact .inr hopen

theorem Ends.mono {m n : Nat} {rest : List Lexeme} (h : Ends m rest) (hmn : m ≤ n) :
    Ends n rest := by
  obtain ⟨l, ls, x, rfl, hx, hmem⟩ := h
  exact ⟨l, ls, x, rfl, hx, fun hn => hmem (continuations_subset hmn hn)⟩

/-- No binary operator is on the level of the signs. -/
theorem ends_eight {rest : List Lexeme} (h : Ends 9 rest) : Ends 8 rest := by
  have heq : continuations 8 = continuations 9 := by decide
  unfold Ends
  rwa [heq]

/-- An operator ends what binds more closely. -/
theorem ends_operator (op : BinaryOp) {w : Lexeme} (hw : w ∈ op.spellings) (ls : List Lexeme) :
    Ends (op.level + 1) (w :: ls) := by
  have hall : ∀ w ∈ op.spellings, ∃ x ∈ w.terminal, x ∉ continuations (op.level + 1) := by
    cases op with
    | set op | compare op => cases op <;> decide +kernel
    | _ => decide +kernel
  obtain ⟨x, hx, hmem⟩ := hall w hw
  exact ⟨w, ls, x, rfl, hx, hmem⟩

theorem ends_bang (ls : List Lexeme) : Ends 11 (.mark "!" :: ls) :=
  ⟨_, ls, _, rfl, rfl, by decide⟩

theorem ends_close {m : String} (hm : m = ")" ∨ m = "]" ∨ m = "," ∨ m = ";") (ls : List Lexeme) :
    Ends 0 (.mark m :: ls) := by
  refine ⟨_, ls, _, rfl, rfl, ?_⟩
  rcases hm with rfl | rfl | rfl | rfl <;> decide

theorem opsAt_find (op : BinaryOp) : ∀ w ∈ op.spellings,
    ((opsAt op.level).find? fun e => e.1.fits w).map Prod.snd = some op := by
  cases op with
  | set op | compare op => cases op <;> decide +kernel
  | _ => decide +kernel

theorem yields_operator (op : BinaryOp) {w : Lexeme} (hw : w ∈ op.spellings) (rest : List Lexeme) :
    layers.Yields (oneOf (opsAt op.level)) (· = op) [w] rest :=
  .oneOf (opsAt_find op w hw)

/-- The operators of a level do not go on where the level ends. -/
theorem refused_operator {m : Nat} (hm : m < 10) (hops : (opsAt m).isEmpty = false)
    {rest : List Lexeme} (h : Ends m rest) {operand : Form Expr} (hreg : operand.regular = true) :
    layers.Refused (Prod.mk <$> oneOf (opsAt m) <*> operand) rest := by
  obtain ⟨l, ls, x, rfl, hx, hmem⟩ := h
  refine refused hx ?_ ls
  have hstart : x ∉ (opsAt m).map Prod.fst := by
    intro hops
    refine hmem (List.mem_append_left _ (List.mem_append_left _ ?_))
    exact List.mem_flatMap.2 ⟨m, List.mem_range'_1.2 ⟨Nat.le_refl m, by omega⟩, hops⟩
  have hregular : (Prod.mk <$> oneOf (opsAt m) <*> operand : Form _).regular = true := by
    show (!(opsAt m).isEmpty && operand.regular) = true
    rw [hops, hreg]
    rfl
  have hstarts : (Prod.mk <$> oneOf (opsAt m) <*> operand : Form _).starts ruleStarts =
      (opsAt m).map Prod.fst := List.append_nil _
  exact Peg.avoids_of_subset ⟨rfl, hregular⟩ (hstarts ▸ List.Subset.refl _) hstart

/-! ## Loops -/

/-- Operands and what follows each, in a loop. -/
def folding {β : Type} (operand : Form Expr) (step : Form β) (f : Expr → β → Expr) : Form Expr :=
  (fun first xs => xs.foldl f first) <$> operand <*> many step

/-- The loop reads `ts` as something in `P`, and goes on from it. -/
def Grows {β : Type} (operand : Form Expr) (step : Form β) (f : Expr → β → Expr) (P : Expr → Prop)
    (ts rest : List Lexeme) : Prop :=
  ∀ us rest' Q, rest = us ++ rest' →
    (∀ e, P e → layers.Yields (many step) (fun xs => Q (xs.foldl f e)) us rest') →
    layers.Yields (folding operand step f) Q (ts ++ us) rest'

section Folding

variable {β : Type} {operand : Form Expr} {step : Form β} {f : Expr → β → Expr}
  {P P' : Expr → Prop} {ts us rest : List Lexeme}

theorem Grows.of_operand (h : layers.Yields operand P ts rest) :
    Grows operand step f P ts rest := by
  rintro us rest' Q rfl hQ
  have hfirst : layers.Yields ((fun first (xs : List β) => xs.foldl f first) <$> operand)
      (fun g => ∃ e, P e ∧ g = fun xs => xs.foldl f e) ts (us ++ rest') :=
    h.map fun e he => ⟨e, he, rfl⟩
  refine (hfirst.andThen (Q := fun g xs => Q (g xs)) ?_).map fun x hx => hx.2
  rintro _ ⟨e, he, rfl⟩
  exact hQ e he

theorem Grows.snoc (hnull : step.nullable = false) (h : Grows operand step f P ts (us ++ rest))
    (hstep : ∀ e, P e → layers.Yields step (fun x => P' (f e x)) us rest) :
    Grows operand step f P' (ts ++ us) rest := by
  rintro us' rest' Q rfl hQ
  rw [List.append_assoc]
  refine h (us ++ us') rest' Q (List.append_assoc ..).symm fun e he => ?_
  refine (Layers.Yields.cons (S := fun x xs => Q (xs.foldl f (f e x))) hnull (hstep e he)
    fun x hx => hQ (f e x) hx).mono ?_
  rintro _ ⟨x, xs, rfl, -, hxs⟩
  exact hxs

theorem Grows.yields (hnull : step.nullable = false) (h : Grows operand step f P ts rest)
    (hrest : layers.Refused step rest) : layers.Yields (folding operand step f) P ts rest := by
  rw [← List.append_nil ts]
  refine h [] rest P rfl fun e he => ?_
  refine (Layers.Yields.nil hnull hrest).mono ?_
  rintro _ rfl
  exact he

end Folding

/-! ## One level -/

section AtMostOne

variable {ops : List (Terminal × BinaryOp)} {op : BinaryOp} {w : Lexeme} {operand : Form Expr}
  {P Q : Expr → Prop} {ts us rest : List Lexeme}

/-- An operator and the operand after it. -/
theorem yields_step (hop : layers.Yields (oneOf ops) (· = op) [w] (us ++ rest))
    (h : layers.Yields operand Q us rest) :
    layers.Yields (Prod.mk <$> oneOf ops <*> operand) (fun x => x.1 = op ∧ Q x.2) (w :: us) rest :=
  hop.map₂ h fun _ ha _ hb => ⟨ha, hb⟩

theorem yields_atMostOne {first : Form Expr} (h : layers.Yields first P ts (w :: us ++ rest))
    (hop : layers.Yields (oneOf ops) (· = op) [w] (us ++ rest))
    (h' : layers.Yields operand Q us rest) :
    layers.Yields (atMostOne ops first operand)
      (fun e => ∃ a b, P a ∧ Q b ∧ e = .binaryOf op a b) (ts ++ w :: us) rest := by
  refine h.map₂ (yields_step hop h').present ?_
  rintro a ha _ ⟨⟨_, b⟩, rfl, rfl, hb⟩
  exact ⟨a, b, ha, hb, rfl⟩

theorem yields_first {first : Form Expr} (h : layers.Yields first P ts rest)
    (hrest : layers.Refused (Prod.mk <$> oneOf ops <*> operand) rest) :
    layers.Yields (atMostOne ops first operand) P ts rest := by
  rw [← List.append_nil ts]
  refine h.map₂ (.absent hrest) ?_
  rintro a ha _ rfl
  exact ha

end AtMostOne

/-! ## From level to level -/

def chainLevels : List Nat := [0, 1, 4, 5, 6, 7]

def binaryStep (m : Nat) : Form (BinaryOp × Expr) :=
  Prod.mk <$> oneOf (opsAt m) <*> levelForm (m + 1)

def applyStep (lhs : Expr) (x : BinaryOp × Expr) : Expr :=
  .binaryOf x.1 lhs x.2

/-- On the levels that group from the left the grammar has loops. -/
theorem yields_chain {m : Nat} (hm : m ∈ chainLevels) {P : Expr → Prop} {ts rest : List Lexeme}
    (h : layers.Yields (folding (levelForm (m + 1)) (binaryStep m) applyStep) P ts rest) :
    layers.Yields (levelForm m) P ts rest := by
  simp only [chainLevels, List.mem_cons, List.not_mem_nil, or_false] at hm
  rcases hm with rfl | rfl | rfl | rfl | rfl | rfl
  · exact .rule h
  · exact h
  · exact .rule h
  · exact h
  · exact .rule h
  · exact .rule h

theorem levelForm_regular (m : Nat) :
    (levelForm m).nullable = false ∧ (levelForm m).regular = true := by
  match m with
  | 0 | 1 | 2 | 3 | 4 | 5 | 6 | 7 | 8 | 9 | 10 => decide +kernel
  | _ + 11 => exact (by decide +kernel : primary.nullable = false ∧ primary.regular = true)

/-- The operator `!`, whose operand stands before it. -/
def applyBang (e : Expr) (t : Token) : Expr :=
  .unary .factorial e (e.span.till t.span)

theorem refused_bang {m : Nat} (hm : m ≤ 10) {rest : List Lexeme} (h : Ends m rest) :
    layers.Refused (mark "!") rest := by
  obtain ⟨l, ls, x, rfl, hx, hmem⟩ := h
  refine refused hx (Peg.avoids_of_subset ⟨rfl, rfl⟩ (List.Subset.refl _) fun hbang => ?_) ls
  refine hmem (List.mem_append_left _ (List.mem_append_right _ ?_))
  rwa [if_pos hm]

/-- A text of a level is read on the level before, too, where that ends. -/
theorem yields_lower {m : Nat} (hm : m < 11) {P : Expr → Prop} {ts rest : List Lexeme}
    (hrest : Ends m rest) (h : layers.Yields (levelForm (m + 1)) P ts rest) :
    layers.Yields (levelForm m) P ts rest := by
  have hregular := (levelForm_regular (m + 1)).2
  have hchain (hm : m ∈ chainLevels) (hlt : m < 10) (hops : (opsAt m).isEmpty = false) :
      layers.Yields (levelForm m) P ts rest :=
    yields_chain hm ((Grows.of_operand h).yields rfl (refused_operator hlt hops hrest hregular))
  match m with
  | 0 | 1 | 4 | 5 | 6 | 7 => exact hchain (by decide) (by decide) rfl
  | 2 =>
    exact .rule (layers.yields_after form_starts (by decide +kernel) (by decide +kernel)
      (by decide +kernel) h)
  | 3 => exact yields_first h (refused_operator (by decide) rfl hrest hregular)
  | 8 =>
    refine .rule (layers.yields_after form_starts (by decide +kernel) (by decide +kernel)
      (by decide +kernel) ?_)
    exact layers.yields_after form_starts (by decide +kernel) (by decide +kernel)
      (by decide +kernel) h
  | 9 => exact yields_first h (refused_operator (by decide) rfl hrest (by decide +kernel))
  | 10 => exact (Grows.of_operand h).yields rfl (refused_bang (Nat.le_refl _) hrest)

theorem yields_below {a : Formula} {l : Nat} (hl : l ≤ 11) {ts : List Lexeme}
    (h : ∀ rest, Ends l rest → layers.Yields (levelForm l) (fun e => e.bare = a.expr) ts rest)
    {m : Nat} (hm : m ≤ l) {rest : List Lexeme} (hrest : Ends m rest) :
    layers.Yields (levelForm m) (fun e => e.bare = a.expr) ts rest := by
  induction hd : l - m generalizing m with
  | zero =>
    obtain rfl : m = l := by omega
    exact h rest hrest
  | succ d ih =>
    exact yields_lower (by omega) hrest (ih (by omega) (hrest.mono (Nat.le_succ m)) (by omega))

end ModelLang.Grammar
