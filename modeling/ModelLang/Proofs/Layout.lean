import ModelLang.Proofs.Gives

/-!
# ModelLang.Proofs.Layout

Where the grammar puts the spans of what it reads. For each form there is one lemma: the outline of
the expression, the statement or whatever else it reads is laid out in the tokens. Most forms take
the span of their tokens; an operation takes the stretch from its first operand to its last, which
leaves out what stands around them, parentheses and signs (`Outline.Laid.till`).
-/

namespace ModelLang

abbrev Name.LaidIn (ts : List Token) (x : Name) : Prop := x.outline.Laid ts

abbrev Expr.LaidIn (ts : List Token) (e : Expr) : Prop := e.outline.Laid ts

abbrev IndexSet.LaidIn (ts : List Token) (index : IndexSet) : Prop := index.outline.Laid ts

abbrev Statement.LaidIn (ts : List Token) (s : Statement) : Prop := s.outline.Laid ts

/-- The outlines of the parts are laid out in the tokens. -/
abbrev AllLaid {α : Type} (f : α → List Outline) (ts : List Token) (a : α) : Prop :=
  ∀ o ∈ f a, o.Laid ts

/-- What a rule reads is laid out in the tokens. -/
def Rule.LaidIn : (r : Rule) → List Token → r.Result → Prop
  | .command | .forallCommand => Statement.LaidIn
  | .constraintList => AllLaid Constraint.outlines
  | .sosBody => AllLaid SosBody.outlines
  | .indexSet => IndexSet.LaidIn
  | .expr | .notExpr | .unionExpr | .additive | .multiplicative | .unary => Expr.LaidIn

theorem monotone_laid {α : Type} (f : α → Outline) : Peg.Monotone fun ts a => (f a).Laid ts :=
  fun _ _ _ hin h => h.mono hin

theorem monotone_allLaid {α : Type} (f : α → List Outline) : Peg.Monotone (AllLaid f) :=
  fun _ _ _ hin h o ho => (h o ho).mono hin

theorem Rule.monotone_laidIn (r : Rule) : Peg.Monotone r.LaidIn := by
  cases r with
  | command | forallCommand => exact monotone_laid Statement.outline
  | constraintList => exact monotone_allLaid Constraint.outlines
  | sosBody => exact monotone_allLaid SosBody.outlines
  | indexSet => exact monotone_laid IndexSet.outline
  | expr | notExpr | unionExpr | additive | multiplicative | unary =>
    exact monotone_laid Expr.outline

namespace Grammar

/-- Any tokens around those that the form takes have `F` with what it reads. -/
abbrev Lays {α : Type} (p : Form α) (F : List Token → α → Prop) : Prop :=
  Peg.Lays Rule.LaidIn p F

/-- The form gives functions of a span that lead to `F` for the span of the tokens. -/
abbrev LaysAt {α : Type} (p : Form (Span → α)) (F : List Token → α → Prop) : Prop :=
  Lays p fun ts g => ∀ s : Span, s.Along ts → F ts (g s)

abbrev TokenIn (ts : List Token) (t : Token) : Prop :=
  t.span.IsDetermined ∧ [t] <:+: ts

variable {α : Type} {p : Form α} {F : List Token → α → Prop}

/-! ## Parts of forms -/

theorem lays_word (w : String) : Lays (word w) TokenIn := .token _

theorem lays_mark (m : String) : Lays (mark m) TokenIn := .token _

theorem lays_words (table : List (String × α)) : Lays (words table) fun _ _ => True := .oneOf _

theorem lays_commaList (h : Lays p F) : Lays (commaList p) fun ts as => ∀ a ∈ as, F ts a :=
  .sepBy h (lays_mark ",")

theorem lays_withSpan {p : Form (Span → Expr)} (h : LaysAt p Expr.LaidIn) :
    Lays (withSpan p) Expr.LaidIn :=
  .withSpan (monotone_laid Expr.outline) h

theorem forall_getD {P : α → Prop} {as : Option (List α)} (h : ∀ l ∈ as, ∀ a ∈ l, P a) :
    ∀ a ∈ as.getD [], P a := by
  cases as with
  | none => exact List.forall_mem_nil _
  | some l => exact h l rfl

theorem lays_name : Lays name Name.LaidIn :=
  .map (.token _) fun _ _ ht => .leaf ht

/-! ## Operators -/

theorem lays_rule (r : Rule) : Lays (.rule r) r.LaidIn := .rule r.monotone_laidIn

theorem lays_expr : Lays expr Expr.LaidIn := lays_rule .expr

theorem lays_unionExpr : Lays unionExpr Expr.LaidIn := lays_rule .unionExpr

theorem lays_additive : Lays additive Expr.LaidIn := lays_rule .additive

theorem lays_multiplicative : Lays multiplicative Expr.LaidIn := lays_rule .multiplicative

theorem lays_unary : Lays unary Expr.LaidIn := lays_rule .unary

theorem lays_indexSet : Lays indexSet IndexSet.LaidIn := lays_rule .indexSet

/-- An operation on operands of which one comes after the other. -/
theorem laidIn_binaryOf (op : BinaryOp) {a b : Expr} {ts us : List Token} (ha : a.LaidIn ts)
    (hb : b.LaidIn us) : (Expr.binaryOf op a b).LaidIn (ts ++ us) := by
  rw [Expr.LaidIn, Expr.binaryOf, Expr.outline, ← a.root_outline, ← b.root_outline]
  exact ha.till hb (by simp)

/-- An operator and its second operand. -/
theorem lays_step (ops : List (Terminal × BinaryOp)) {operand : Form Expr}
    (h : Lays operand Expr.LaidIn) :
    Lays (Prod.mk <$> Peg.oneOf ops <*> operand) fun ts step => step.2.LaidIn ts :=
  .ap (.map (.oneOf ops) fun _ _ _ _ he => he) h

theorem lays_chain {operand : Form Expr} (h : Lays operand Expr.LaidIn)
    (ops : List (Terminal × BinaryOp)) : Lays (chain operand ops) Expr.LaidIn := by
  -- each step adds its tokens to those of the operation so far
  have hsteps : (Peg.many (Prod.mk <$> Peg.oneOf ops <*> operand)).Gives Rule.LaidIn
      fun us steps => ∀ ts (e : Expr), e.LaidIn ts →
        (steps.foldl (fun lhs step => Expr.binaryOf step.1 lhs step.2) e).LaidIn (ts ++ us) := by
    refine .many (lays_step ops h) ?_ ?_
    · intro ts e he
      rw [List.append_nil]
      exact he
    · intro us vs step steps hstep hsteps ts e he
      rw [List.foldl_cons, ← List.append_assoc]
      exact hsteps (ts ++ us) _ (laidIn_binaryOf step.1 he (hstep us List.infix_rfl))
  refine (Peg.lays_iff (monotone_laid Expr.outline)).2 (.map₂ h hsteps ?_)
  intro ts us e steps he hsteps
  exact hsteps ts e (he ts List.infix_rfl)

theorem lays_atMostOne (ops : List (Terminal × BinaryOp)) {first second : Form Expr}
    (h : Lays first Expr.LaidIn) (h' : Lays second Expr.LaidIn) :
    Lays (atMostOne ops first second) Expr.LaidIn := by
  refine (Peg.lays_iff (monotone_laid Expr.outline)).2
    (.map₂ h (Peg.Lays.opt (lays_step ops h')) ?_)
  intro ts us e step he hstep
  cases step with
  | none =>
    exact (he ts List.infix_rfl).mono (List.prefix_append ts us).isInfix
  | some step =>
    exact laidIn_binaryOf step.1 (he ts List.infix_rfl) (hstep us List.infix_rfl step rfl)

theorem lays_signed (op : UnaryOp) {sign : Form Token} (hs : Lays sign TokenIn)
    {operand : Form Expr} (h : Lays operand Expr.LaidIn) :
    Lays (signed op sign operand) Expr.LaidIn := by
  refine (Peg.lays_iff (monotone_laid Expr.outline)).2 (.map₂ hs h ?_)
  intro ts us t e ht he
  have ht := Outline.Laid.leaf (ht ts List.infix_rfl)
  rw [Expr.outline, ← e.root_outline]
  exact ht.till (he us List.infix_rfl) (by simp)

/-! ## Operands -/

theorem lays_numeral : Lays numeral Expr.LaidIn := by
  refine .filterMap (.token _) ?_
  intro ts t ht e he
  obtain ⟨q, _, rfl⟩ := Option.map_eq_some_iff.1 he
  exact .leaf ht

theorem lays_string : Lays string Expr.LaidIn :=
  .map (.token _) fun _ _ ht => .leaf ht

theorem lays_infinity : Lays infinity Expr.LaidIn :=
  .map (lays_word _) fun _ _ ht => .leaf ht

theorem lays_nameExpr : Lays nameExpr Expr.LaidIn :=
  .map (.token _) fun _ _ ht => .leaf ht

theorem lays_parenthesized : Lays parenthesized Expr.LaidIn :=
  .left (.right (lays_mark _) lays_expr) (lays_mark _)

/-- A list between marks that may be missing. -/
theorem lays_items {p : Form Expr} (h : Lays p Expr.LaidIn) (opening closing : String) :
    Lays ((·.getD []) <$> (mark opening *> Peg.opt (commaList p) <* mark closing))
      fun ts items => ∀ e ∈ items, e.LaidIn ts :=
  .map (.left (.right (lays_mark _) (.opt (lays_commaList h))) (lays_mark _))
    fun _ _ h => forall_getD h

theorem lays_arguments : Lays arguments fun ts items => ∀ e ∈ items, e.LaidIn ts :=
  lays_items lays_expr "(" ")"

theorem lays_tupleItems : Lays tupleItems fun ts items => ∀ e ∈ items, e.LaidIn ts :=
  .orElse (lays_items lays_additive "<" ">")
    (.map (lays_mark _) fun _ _ _ => List.forall_mem_nil _)

theorem lays_tuple : Lays tuple Expr.LaidIn := by
  refine lays_withSpan (.map lays_tupleItems ?_)
  intro ts items hitems s hs
  exact .of_along hs (Expr.forall_outlines.2 hitems)

theorem lays_doSeparator : Lays doSeparator TokenIn :=
  .orElse (lays_word _) (lays_mark _)

theorem lays_rangeContents : LaysAt rangeContents Expr.LaidIn := by
  refine .ap (.ap (.ap (.map lays_additive ?_) (.oneOf _)) lays_additive)
    (.opt (.right (lays_word _) lays_additive))
  intro ts a ha closed _ b hb step hstep s hs
  refine .of_along hs ?_
  simpa [ha, hb] using hstep

theorem lays_patternedIndexSet : Lays patternedIndexSet IndexSet.LaidIn := by
  refine .filterMap lays_indexSet ?_
  intro ts index hindex index' h
  split at h
  · cases h
    exact hindex
  · cases h

theorem lays_builderContents : LaysAt builderContents Expr.LaidIn := by
  refine .ap (.map lays_patternedIndexSet ?_) (.opt (.right lays_doSeparator lays_expr))
  intro ts index hindex member hmember s hs
  refine .of_along hs ?_
  simpa [hindex] using hmember

theorem lays_listContents : LaysAt listContents Expr.LaidIn := by
  refine .map (.opt (lays_commaList lays_additive)) ?_
  intro ts items hitems s hs
  exact .of_along hs (Expr.forall_outlines.2 (forall_getD hitems))

theorem lays_braces : Lays braces Expr.LaidIn :=
  lays_withSpan <| .left
    (.right (lays_mark _)
      (.orElse lays_rangeContents (.orElse lays_builderContents lays_listContents)))
    (lays_mark _)

theorem lays_conditional : Lays conditional Expr.LaidIn := by
  refine lays_withSpan (.ap (.ap (.map (.right (lays_word _) lays_expr) ?_)
    (.right (lays_word _) lays_expr)) (.left (.right (lays_word _) lays_expr) (lays_word _)))
  intro ts c hc a ha b hb s hs
  exact .of_along hs (by simp [hc, ha, hb])

theorem lays_builtinCall : Lays builtinCall Expr.LaidIn := by
  refine lays_withSpan (.ap (.map (lays_words _) ?_) lays_arguments)
  intro ts f _ args hargs s hs
  exact .of_along hs (Expr.forall_outlines.2 hargs)

theorem lays_indexSet_do : Lays (indexSet <* doSeparator) IndexSet.LaidIn :=
  .left lays_indexSet lays_doSeparator

theorem lays_aggregate : Lays aggregate Expr.LaidIn := by
  refine lays_withSpan (.ap (.ap (.map (lays_words _) ?_) lays_indexSet_do) lays_multiplicative)
  intro ts kind _ index hindex body hbody s hs
  exact .of_along hs (by simp [hindex, hbody])

theorem lays_argExtremum : Lays argExtremum Expr.LaidIn := by
  refine lays_withSpan (.ap (.ap (.ap (.map (lays_words _) ?_) (.opt lays_parenthesized))
    lays_indexSet_do) lays_multiplicative)
  intro ts maximize _ count hcount index hindex body hbody s hs
  refine .of_along hs ?_
  rw [List.forall_mem_append, Expr.forall_optOutlines]
  exact ⟨hcount, by simp [hindex, hbody]⟩

theorem lays_indexedSetOp : Lays indexedSetOp Expr.LaidIn := by
  refine lays_withSpan (.ap (.ap (.map (lays_words _) ?_) lays_indexSet_do) lays_unionExpr)
  intro ts op _ index hindex body hbody s hs
  exact .of_along hs (by simp [hindex, hbody])

theorem lays_nonempty : Lays nonempty Expr.LaidIn := by
  refine lays_withSpan (.map (.left (.right (.right (lays_word _) (lays_mark _)) lays_indexSet)
    (lays_mark _)) ?_)
  intro ts index hindex s hs
  exact .of_along hs (by simp [hindex])

theorem lays_proj : Lays proj Expr.LaidIn := by
  refine lays_withSpan (.ap (.map (.right (.right (lays_word _) (lays_mark _)) lays_expr) ?_)
    (.left (.right (lays_mark _) lays_expr) (lays_mark _)))
  intro ts set hset positions hpositions s hs
  exact .of_along hs (by simp [hset, hpositions])

theorem lays_indexSetOf : Lays indexSetOf Expr.LaidIn := by
  refine lays_withSpan (.map (.left (.right (.right (lays_word _) (lays_mark _)) lays_name)
    (lays_mark _)) ?_)
  intro ts x hx s hs
  exact .of_along hs (by simp [hx])

theorem lays_readOption (w : String) (key : ReadKey) :
    Lays (readOption w key) fun ts o => o.value.LaidIn ts :=
  .map (.right (lays_word _) lays_additive) fun _ _ he => he

theorem lays_readSpec : Lays readSpec (AllLaid ReadSpec.outlines) := by
  refine .ap (.ap (.map (.right (lays_word _) lays_additive) ?_)
    (.right (lays_word _) lays_additive))
    (.many (.orElse (lays_readOption _ _) (.orElse (lays_readOption _ _)
      (.orElse (lays_readOption _ _) (lays_readOption _ _)))))
  intro ts file hfile template htemplate options hoptions
  rw [AllLaid, ReadSpec.outlines, List.forall_mem_cons, List.forall_mem_cons,
    ReadOption.forall_outlines]
  exact ⟨hfile, htemplate, hoptions⟩

theorem lays_read : Lays (withSpan (Expr.read <$> readSpec)) Expr.LaidIn := by
  refine lays_withSpan (.map lays_readSpec ?_)
  intro ts table htable s hs
  exact .of_along hs htable

theorem lays_call : Lays call Expr.LaidIn := by
  refine lays_withSpan (.ap (.map (.token _) ?_) lays_arguments)
  intro ts t _ args hargs s hs
  exact .of_along hs (Expr.forall_outlines.2 hargs)

theorem lays_subscript : Lays subscript Expr.LaidIn := by
  refine lays_withSpan (.ap (.map (.token _) ?_)
    (.left (.right (lays_mark _) (lays_commaList lays_expr)) (lays_mark _)))
  intro ts t _ args hargs s hs
  exact .of_along hs (Expr.forall_outlines.2 hargs)

theorem lays_primary : Lays primary Expr.LaidIn :=
  .orElse lays_numeral <| .orElse lays_string <| .orElse lays_infinity <|
  .orElse lays_parenthesized <| .orElse lays_tuple <| .orElse lays_braces <|
  .orElse lays_conditional <| .orElse lays_builtinCall <| .orElse lays_aggregate <|
  .orElse lays_argExtremum <| .orElse lays_indexedSetOp <| .orElse lays_nonempty <|
  .orElse lays_proj <| .orElse lays_indexSetOf <| .orElse lays_read <| .orElse lays_call <|
  .orElse lays_subscript lays_nameExpr

theorem laidIn_factorial {e : Expr} {t : Token} {ts us : List Token} (he : e.LaidIn ts)
    (ht : TokenIn us t) :
    (Expr.unary .factorial e (e.span.till t.span)).LaidIn (ts ++ us) := by
  rw [Expr.LaidIn, Expr.outline, ← e.root_outline]
  exact he.till (Outline.Laid.leaf ht) (by simp)

theorem lays_postfixed : Lays postfixed Expr.LaidIn := by
  have hbangs : (Peg.many (mark "!")).Gives Rule.LaidIn fun us bangs =>
      ∀ ts (e : Expr), e.LaidIn ts →
        (bangs.foldl (fun e t => Expr.unary .factorial e (e.span.till t.span)) e).LaidIn
          (ts ++ us) := by
    refine .many (lays_mark "!") ?_ ?_
    · intro ts e he
      rw [List.append_nil]
      exact he
    · intro us vs t bangs ht hbangs ts e he
      rw [List.foldl_cons, ← List.append_assoc]
      exact hbangs (ts ++ us) _ (laidIn_factorial he (ht us List.infix_rfl))
  refine (Peg.lays_iff (monotone_laid Expr.outline)).2 (.map₂ lays_primary hbangs ?_)
  intro ts us e bangs he hbangs
  exact hbangs ts e (he ts List.infix_rfl)

theorem lays_comparison : Lays comparison Expr.LaidIn :=
  lays_atMostOne compareOps lays_unionExpr lays_unionExpr

/-! ## Index sets -/

theorem lays_pattern : Lays pattern fun ts items => ∀ e ∈ items, e.LaidIn ts :=
  .orElse lays_tupleItems (.map lays_nameExpr fun _ _ he => List.forall_mem_singleton.2 he)

theorem lays_indexSetForm : Lays indexSetForm IndexSet.LaidIn := by
  refine .withSpan (monotone_laid IndexSet.outline)
    (.ap (.ap (.map (.opt (.left lays_pattern (lays_word _))) ?_) lays_unionExpr)
      (.opt (.right (lays_word _) lays_expr)))
  intro ts pattern hpattern set hset condition hcondition s hs
  cases pattern with
  | none =>
    refine .of_along hs ?_
    simpa [hset] using hcondition
  | some items =>
    refine .of_along hs ?_
    rw [List.forall_mem_append, List.forall_mem_cons, Expr.forall_outlines,
      Expr.forall_optOutlines]
    exact ⟨hpattern items rfl, hset, hcondition⟩

/-! ## Sets and parameters -/

theorem lays_declIndex : Lays declIndex fun ts index => ∀ a ∈ index, IndexSet.LaidIn ts a := by
  refine .map (.opt (.left (.right (lays_mark _) (.opt lays_indexSet)) (lays_mark _))) ?_
  rintro ts (_ | index) h a ha
  · cases ha
  · exact h index rfl a ha

theorem lays_subsets : Lays subsets (AllLaid SetBody.outlines) := by
  refine .ap (.ap (.map (.right (.right (lays_word _) (lays_mark _)) lays_expr) ?_)
    (.right (lays_mark _) lays_expr))
    (.left (.opt (.right (lays_mark _) lays_expr)) (lays_mark _))
  intro ts set hset least hleast most hmost
  rw [AllLaid, SetBody.outlines, List.forall_mem_cons, List.forall_mem_cons,
    Expr.forall_optOutlines]
  exact ⟨hset, hleast, hmost⟩

/-- The entries of a list, each with its key. -/
theorem lays_entries {value : Form Expr} (h : Lays value Expr.LaidIn) :
    Lays (commaList (Prod.mk <$> tuple <*> value)) (AllLaid entryOutlines) := by
  have hentry : Lays (Prod.mk <$> tuple <*> value) fun ts e => e.1.LaidIn ts ∧ e.2.LaidIn ts :=
    .ap (.map lays_tuple fun _ _ hkey _ hvalue => ⟨hkey, hvalue⟩) h
  exact (lays_commaList hentry).imp fun _ _ hitems => forall_entryOutlines.2 hitems

theorem lays_setBody : Lays setBody (AllLaid SetBody.outlines) := by
  refine .orElse lays_subsets (.orElse
    (.map (.right (lays_word _) lays_parenthesized) ?powerset)
    (.orElse (.map (lays_entries lays_unionExpr) ?entries) (.map lays_expr ?value)))
  case powerset => exact fun _ _ hset => List.forall_mem_singleton.2 hset
  case entries => exact fun _ _ hitems => hitems
  case value => exact fun _ _ he => List.forall_mem_singleton.2 he

theorem lays_statement {p : Form (Span → Statement)} (h : LaysAt p Statement.LaidIn) :
    Lays (withSpan p) Statement.LaidIn :=
  .withSpan (monotone_laid Statement.outline) h

theorem lays_setDecl : Lays setDecl Statement.LaidIn := by
  refine lays_statement (.ap (.ap (.map (.right (lays_word _) lays_name) ?_)
    (.left lays_declIndex (lays_mark _))) lays_setBody)
  intro ts name hname index hindex body hbody s hs
  refine .of_along hs ?_
  rw [SetDecl.parts, List.forall_mem_cons, List.forall_mem_append, IndexSet.forall_optOutlines]
  exact ⟨hname, hindex, hbody⟩

theorem lays_row : Lays (bar *> commaList additive <* bar) (AllLaid Expr.outlines) := by
  refine (Peg.Lays.left (.right (lays_mark _) (lays_commaList lays_additive)) (lays_mark _)).imp ?_
  exact fun _ _ h => Expr.forall_outlines.2 h

theorem lays_matrixRow : Lays matrixRow (AllLaid rowOutlines) := by
  refine .ap (.map lays_row ?_) (.left (lays_commaList lays_additive) (lays_mark _))
  intro ts keys hkeys values hvalues
  exact List.forall_mem_append.2 ⟨hkeys, Expr.forall_outlines.2 hvalues⟩

theorem lays_matrix : Lays matrix (AllLaid ParamBody.outlines) := by
  refine .ap (.ap (.map lays_row ?_) lays_matrixRow) (.many lays_matrixRow)
  intro ts columns hcolumns first hfirst rest hrest
  refine List.forall_mem_append.2 ⟨hcolumns, ?_⟩
  intro o ho
  obtain ⟨row, hrow, hmem⟩ := List.mem_flatMap.1 ho
  rcases List.mem_cons.1 hrow with rfl | hrow
  · exact hfirst o hmem
  · exact hrest row hrow o hmem

theorem lays_paramBody : Lays paramBody (AllLaid ParamBody.outlines) := by
  refine .orElse (.map lays_readSpec ?read) (.orElse lays_matrix
    (.orElse (.map (lays_entries lays_additive) ?entries) (.map lays_expr ?value)))
  case read => exact fun _ _ htable => htable
  case entries => exact fun _ _ hitems => hitems
  case value => exact fun _ _ he => List.forall_mem_singleton.2 he

theorem lays_paramDecl : Lays paramDecl Statement.LaidIn := by
  refine lays_statement (.ap (.ap (.ap (.map (.right (lays_word _) lays_name) ?_)
    lays_declIndex) (.opt (.right (lays_mark _) lays_paramBody)))
    (.opt (.right (lays_word _) lays_expr)))
  intro ts name hname index hindex body hbody fallback hfallback s hs
  refine .of_along hs ?_
  have hgiven : AllLaid ParamBody.outlines ts (body.getD .empty) := by
    cases body with
    | none => exact List.forall_mem_nil _
    | some body => exact hbody body rfl
  rw [ParamDecl.parts, List.forall_mem_cons, List.forall_mem_append, List.forall_mem_append,
    IndexSet.forall_optOutlines, Expr.forall_optOutlines]
  exact ⟨hname, ⟨hindex, hgiven⟩, hfallback⟩

/-! ## Variables and objectives -/

theorem lays_varType : Lays varType fun _ _ => True :=
  .orElse (lays_words _) (.right (lays_word _) (lays_words _))

theorem VarDecl.forall_parts {P : Outline → Prop} {d : VarDecl} : (∀ o ∈ d.parts, P o) ↔
    P d.name.outline ∧ (∀ a ∈ d.index, P a.outline) ∧ (∀ e ∈ d.lower, P e.outline) ∧
      (∀ e ∈ d.upper, P e.outline) ∧ (∀ e ∈ d.priority, P e.outline) ∧
      ∀ e ∈ d.startval, P e.outline := by
  simp only [VarDecl.parts, List.forall_mem_cons, List.forall_mem_append,
    IndexSet.forall_optOutlines, Expr.forall_optOutlines, and_assoc]

/-- An attribute adds an expression to a declaration and leaves its span. -/
theorem lays_varAttribute : Lays varAttribute fun ts change => ∀ d : VarDecl,
    AllLaid VarDecl.parts ts d → AllLaid VarDecl.parts ts (change d) ∧
      (change d).span = d.span := by
  refine .orElse (.map (.right (lays_mark _) lays_additive) ?lower)
    (.orElse (.map (.right (lays_mark _) lays_additive) ?upper)
      (.orElse (.map (.right (lays_word _) lays_additive) ?priority)
        (.map (.right (lays_word _) lays_additive) ?startval)))
  all_goals
    intro ts e he d hd
    refine ⟨?_, rfl⟩
    obtain ⟨hname, hindex, hlower, hupper, hpriority, hstartval⟩ := VarDecl.forall_parts.1 hd
    have hgiven : ∀ a ∈ some e, a.outline.Laid ts := by
      intro a ha
      cases ha
      exact he
    refine VarDecl.forall_parts.2 ?_
  case lower => exact ⟨hname, hindex, hgiven, hupper, hpriority, hstartval⟩
  case upper => exact ⟨hname, hindex, hlower, hgiven, hpriority, hstartval⟩
  case priority => exact ⟨hname, hindex, hlower, hupper, hgiven, hstartval⟩
  case startval => exact ⟨hname, hindex, hlower, hupper, hpriority, hgiven⟩

theorem lays_varDecl : Lays varDecl Statement.LaidIn := by
  refine lays_statement (.ap (.ap (.ap (.map (.right (lays_word _) lays_name) ?_)
    lays_declIndex) (.opt lays_varType)) (.many lays_varAttribute))
  intro ts name hname index hindex type _ changes hchanges s hs
  have hfold (d : VarDecl) (hd : AllLaid VarDecl.parts ts d) :
      AllLaid VarDecl.parts ts (changes.foldl (fun d change => change d) d) ∧
        (changes.foldl (fun d change => change d) d).span = d.span := by
    induction changes generalizing d with
    | nil => exact ⟨hd, rfl⟩
    | cons change changes ih =>
      obtain ⟨hchange, hchanges⟩ := List.forall_mem_cons.1 hchanges
      obtain ⟨hlaid, hspan⟩ := hchange d hd
      obtain ⟨hrest, hspan'⟩ := ih hchanges (change d) hlaid
      exact ⟨hrest, hspan'.trans hspan⟩
  have hstart : AllLaid VarDecl.parts ts
      ⟨name, index, type.getD .real, none, none, none, none, s⟩ :=
    VarDecl.forall_parts.2 ⟨hname, hindex, by simp⟩
  obtain ⟨hlaid, hspan⟩ := hfold _ hstart
  refine .of_along ?_ hlaid
  rw [hspan]
  exact hs

theorem lays_objective : Lays objective Statement.LaidIn := by
  refine lays_statement (.ap (.ap (.map (lays_words _) ?_)
    (.left lays_name (lays_mark _))) lays_unionExpr)
  intro ts sense _ name hname term hterm s hs
  exact .of_along hs (by simp [ObjectiveDecl.parts, hname, hterm])

/-! ## Constraints -/

theorem lays_conRel : Lays conRel fun _ _ => True := .oneOf _

theorem lays_conFlags : Lays conFlags fun _ _ => True :=
  .map (.many (.right (lays_mark _) (lays_words _))) fun _ _ _ => trivial

theorem lays_constraintList : Lays constraintList (AllLaid Constraint.outlines) :=
  lays_rule .constraintList

theorem lays_eachConstraint : Lays eachConstraint (AllLaid Constraint.outlines) := by
  refine .ap (.map (.left (.right (lays_word _) lays_indexSet) lays_doSeparator) ?_)
    lays_constraintList
  intro ts index hindex body hbody
  rw [AllLaid, Constraint.outlines, List.forall_mem_cons]
  exact ⟨hindex, hbody⟩

theorem lays_conditionalConstraint :
    Lays conditionalConstraint (AllLaid Constraint.outlines) := by
  refine .ap (.ap (.map (.left (.right (lays_word _) lays_expr) (lays_word _)) ?_)
    lays_constraintList) (.left (.opt (.right (lays_word _) lays_constraintList)) (lays_word _))
  intro ts c hc yes hyes no hno
  rw [AllLaid, Constraint.outlines, List.forall_mem_cons, List.forall_mem_append,
    Constraint.forall_optOutlines]
  exact ⟨hc, hyes, hno⟩

theorem lays_branch : Lays branch (AllLaid Branch.outlines) := by
  refine .ap (.ap (.map lays_unionExpr ?_) lays_conRel) lays_unionExpr
  intro ts a ha _ _ b hb
  rw [AllLaid, Branch.outlines, List.forall_mem_cons, List.forall_mem_singleton]
  exact ⟨ha, hb⟩

theorem lays_vif : Lays vif (AllLaid Constraint.outlines) := by
  refine .ap (.ap (.ap (.map (.left (.right (lays_word _) lays_expr) (lays_word _)) ?_)
    lays_branch) (.left (.opt (.right (lays_word _) lays_branch)) (lays_word _))) lays_conFlags
  intro ts c hc yes hyes no hno flags _
  rw [AllLaid, Constraint.outlines, List.forall_mem_cons, List.forall_mem_append]
  refine ⟨hc, hyes, ?_⟩
  intro o ho
  obtain ⟨b, hb, hmem⟩ := List.mem_flatMap.1 ho
  exact hno b (Option.mem_toList.1 hb) o hmem

theorem lays_relation : Lays relation (AllLaid Constraint.outlines) := by
  have hsecond : Lays (Prod.mk <$> conRel <*> unionExpr) fun ts x => x.2.LaidIn ts :=
    .ap (.map lays_conRel fun _ _ _ _ he => he) lays_unionExpr
  refine .ap (.ap (.ap (.ap (.map lays_unionExpr ?_) lays_conRel) lays_unionExpr)
    (.opt hsecond)) lays_conFlags
  intro ts a ha _ _ b hb rest hrest _ _
  cases rest with
  | none =>
    rw [AllLaid, Constraint.outlines, List.forall_mem_cons, List.forall_mem_singleton]
    exact ⟨ha, hb⟩
  | some upper =>
    rw [AllLaid, Constraint.outlines, List.forall_mem_cons, List.forall_mem_cons,
      List.forall_mem_singleton]
    exact ⟨ha, hb, hrest upper rfl⟩

theorem lays_constraintListForm : Lays constraintListForm (AllLaid Constraint.outlines) := by
  refine .map (.sepBy (.orElse lays_eachConstraint (.orElse lays_conditionalConstraint
    (.orElse lays_vif lays_relation))) (lays_word _)) ?_
  intro ts parts hparts
  have hall : AllLaid Constraint.outlines ts (.all parts) := by
    rw [AllLaid, Constraint.outlines, Constraint.forall_allOutlines]
    exact hparts
  split
  · exact hparts _ List.mem_cons_self
  · exact hall

theorem lays_subtoDecl : Lays subtoDecl Statement.LaidIn := by
  refine lays_statement (.ap (.map (.left (.right (lays_word _) lays_name) (lays_mark _)) ?_)
    lays_constraintList)
  intro ts name hname body hbody s hs
  exact .of_along hs (List.forall_mem_cons.2 ⟨hname, hbody⟩)

/-! ## Special ordered sets and defines -/

theorem lays_sosBody : Lays (.rule Rule.sosBody) (AllLaid SosBody.outlines) :=
  lays_rule .sosBody

theorem lays_sosBodyForm : Lays sosBodyForm (AllLaid SosBody.outlines) := by
  have hentry : Lays (Prod.mk <$> additive <*> (mark ":" *> additive))
      fun ts e => e.1.LaidIn ts ∧ e.2.LaidIn ts :=
    .ap (.map lays_additive fun _ _ hkey _ hvalue => ⟨hkey, hvalue⟩)
      (.right (lays_mark _) lays_additive)
  refine .orElse (.ap (.map (.left (.right (lays_word _) lays_indexSet) lays_doSeparator) ?each)
    lays_sosBody) (.orElse (.map (lays_commaList hentry) ?weighted) (.map lays_unionExpr ?term))
  case each => exact fun _ _ hindex _ hbody => List.forall_mem_cons.2 ⟨hindex, hbody⟩
  case weighted => exact fun _ _ hitems => forall_entryOutlines.2 hitems
  case term => exact fun _ _ he => List.forall_mem_singleton.2 he

theorem lays_sosTypes : Lays sosTypes fun _ _ => True := lays_words _

theorem lays_namedSos : LaysAt namedSos Statement.LaidIn := by
  refine .ap (.ap (.ap (.map (.left lays_name (lays_mark _)) ?_)
    (.opt lays_sosTypes)) (.opt (.right (lays_word _) lays_additive)))
    (.right (.opt (lays_mark _)) lays_sosBody)
  intro ts name hname type _ priority hpriority body hbody s hs
  refine .of_along hs ?_
  rw [SosDecl.parts, List.forall_mem_cons, List.forall_mem_append, Expr.forall_optOutlines]
  exact ⟨hname, hpriority, hbody⟩

theorem lays_typedSos : LaysAt typedSos Statement.LaidIn := by
  refine .ap (.ap (.map (.left lays_sosTypes (lays_mark _)) ?_)
    (.left lays_name (lays_mark _))) lays_sosBody
  intro ts type _ name hname body hbody s hs
  refine .of_along hs ?_
  rw [SosDecl.parts, List.forall_mem_cons, List.forall_mem_append, Expr.forall_optOutlines]
  exact ⟨hname, by simp, hbody⟩

theorem lays_sosDecl : Lays sosDecl Statement.LaidIn :=
  lays_statement (.right (lays_word _) (.orElse lays_namedSos lays_typedSos))

theorem lays_defineDecl : Lays defineDecl Statement.LaidIn := by
  refine lays_statement (.ap (.ap (.ap (.map (lays_words _) ?_) lays_name)
    (.left (.left (.right (lays_mark _) (.opt (lays_commaList lays_name))) (lays_mark _))
      (lays_mark _))) lays_expr)
  intro ts kind _ name hname params hparams body hbody s hs
  refine .of_along hs ?_
  rw [DefineDecl.parts, List.forall_mem_cons, List.forall_mem_append, List.forall_mem_map,
    List.forall_mem_singleton]
  exact ⟨hname, forall_getD hparams, hbody⟩

/-! ## Commands -/

theorem lays_printCommand : Lays printCommand Statement.LaidIn := by
  refine lays_statement (.map (.right (lays_word _) (lays_commaList lays_expr)) ?_)
  intro ts items hitems s hs
  exact .of_along hs (Expr.forall_outlines.2 hitems)

theorem lays_checkCommand : Lays checkCommand Statement.LaidIn := by
  refine lays_statement (.map (.right (lays_word _) lays_expr) ?_)
  intro ts e he s hs
  exact .of_along hs (List.forall_mem_singleton.2 he)

theorem lays_command : Lays (.rule Rule.command) Statement.LaidIn := lays_rule .command

theorem lays_forallCommand : Lays (.rule Rule.forallCommand) Statement.LaidIn :=
  lays_rule .forallCommand

/-- A loop spans from its first word to the end of its body. -/
theorem lays_forallCommandForm : Lays forallCommandForm Statement.LaidIn := by
  have hhead : ((fun t index body => Statement.each index body (t.span.till body.span))
      <$> word "forall" <*> (indexSet <* doSeparator)).Gives Rule.LaidIn
      fun ts g => ∀ us (body : Statement), body.LaidIn us → (g body).LaidIn (ts ++ us) := by
    refine .map₂ (lays_word _) lays_indexSet_do ?_
    intro ts us t index ht hindex vs body hbody
    have ht := Outline.Laid.leaf (ht ts List.infix_rfl)
    rw [Statement.LaidIn, Statement.outline, ← body.root_outline]
    exact ht.till_around hbody (by simp [hindex us List.infix_rfl])
  refine (Peg.lays_iff (monotone_laid Statement.outline)).2
    (.ap hhead (Peg.Lays.orElse lays_forallCommand lays_command) ?_)
  intro ts us g body hg hbody
  exact hg us body (hbody us List.infix_rfl)

theorem lays_commandForm : Lays commandForm Statement.LaidIn :=
  .orElse lays_setDecl <| .orElse lays_paramDecl <| .orElse lays_varDecl <|
  .orElse lays_objective <| .orElse lays_subtoDecl <| .orElse lays_sosDecl <|
  .orElse lays_defineDecl <| .orElse (.right (lays_word _)
    (.orElse lays_forallCommand (.orElse lays_printCommand lays_checkCommand))) <|
  .orElse lays_printCommand lays_checkCommand

/-! ## The whole grammar -/

theorem form_lays (r : Rule) : Lays (form r) r.LaidIn :=
  match r with
  | .command => lays_commandForm
  | .forallCommand => lays_forallCommandForm
  | .constraintList => lays_constraintListForm
  | .sosBody => lays_sosBodyForm
  | .indexSet => lays_indexSetForm
  | .expr => lays_chain (lays_chain (lays_rule .notExpr) andOps) orOps
  | .notExpr => .orElse (lays_signed .not (lays_word _) (lays_rule .notExpr)) lays_comparison
  | .unionExpr => lays_chain (lays_chain lays_additive interOps) unionOps
  | .additive => lays_chain lays_multiplicative additiveOps
  | .multiplicative => lays_chain lays_unary multiplicativeOps
  | .unary => .orElse (lays_signed .neg (lays_mark _) lays_unary)
    (.orElse (.right (lays_mark _) lays_unary)
      (lays_atMostOne powerOps lays_postfixed lays_unary))

/-! ## Programs -/

/-- What the statement in a turn is laid out in: the tokens it takes, none of them the end mark. -/
theorem turnAt_laid {c c' : Cursor} {s : Statement} (hdet : ∀ t ∈ c.rest, t.span.IsDetermined)
    (h : (turnAt c).answer = some (s, c')) :
    ∃ ts, ts <:+: c.rest ∧ (∀ t ∈ ts, t.isEnd = false) ∧ s.LaidIn ts := by
  have hstatement : Lays statement Statement.LaidIn := .left lays_command (lays_mark _)
  obtain ⟨ts, htakes, hlaid⟩ := layers.gives
    (fun r => (Peg.lays_iff r.monotone_laidIn).1 (form_lays r)) statement_regular hstatement hdet h
  obtain ⟨us, t, hus, ht, htakes'⟩ := statement_answer h
  have hts : ts = us ++ [t] := by
    have hrest := htakes.rest.symm.trans htakes'.rest
    exact List.append_cancel_right hrest
  refine ⟨ts, ⟨[], c'.rest, by simpa using htakes.rest.symm⟩, ?_, hlaid ts List.infix_rfl⟩
  rw [hts]
  refine List.forall_mem_append.2 ⟨?_, List.forall_mem_singleton.2 (isEnd_of_mark ht)⟩
  intro u hu
  refine Bool.eq_false_iff.2 ?_
  intro hend
  exact hus u hu (.inl hend)

end Grammar

namespace Program

/-- A statement is what one of the turns reads. -/
theorem exists_turn_of_mem {tokens : List Token} {s : Statement}
    (h : s ∈ (ofTokens tokens).statements) :
    ∃ c c', c.rest <:+ tokens ∧ (Grammar.turnAt c).answer = some (s, c') := by
  obtain ⟨turn, hturn, hs⟩ := List.mem_filterMap.1 h
  rw [Grammar.turns_eq] at hturn
  obtain ⟨c, rfl, hsuffix⟩ := Grammar.exists_of_mem_turnsFrom hturn
  cases hanswer : (Grammar.turnAt c).answer with
  | none =>
    rw [Grammar.Turn.result, hanswer] at hs
    cases hs
  | some r =>
    rw [Grammar.turnAt_result_of_some hanswer] at hs
    cases hs
    exact ⟨c, r.2, hsuffix, hanswer⟩

theorem statement_laid {tokens : List Token} (hdet : ∀ t ∈ tokens, t.span.IsDetermined)
    {s : Statement} (h : s ∈ (ofTokens tokens).statements) :
    ∃ ts, ts <:+: tokens ∧ (∀ t ∈ ts, t.isEnd = false) ∧ s.LaidIn ts := by
  obtain ⟨c, c', hsuffix, hanswer⟩ := exists_turn_of_mem h
  have hdet' := fun t ht => hdet t (hsuffix.subset ht)
  obtain ⟨ts, hin, hend, hlaid⟩ := Grammar.turnAt_laid hdet' hanswer
  exact ⟨ts, hin.trans hsuffix.isInfix, hend, hlaid⟩

/-- In the statements of a text every span runs along tokens of the text, and has the spans below
inside. -/
theorem statement_nested {text : List Char} {tokens : List Token}
    (hscan : Token.scan text = .ok tokens) {s : Statement}
    (h : s ∈ (ofTokens tokens).statements) :
    s.outline.Nested ∧ s.outline.All fun span => span.Marks tokens := by
  obtain ⟨ts, hin, hend, hlaid⟩ := statement_laid (Token.scanLines_isDetermined hscan) h
  obtain ⟨body, e, rfl, he, hlines⟩ := Token.scanLines_onLines hscan
  have hcovers := hlines.covers
  have hsub : ts.Sublist body := by
    have hfilter := hin.sublist.filter fun t => ! t.isEnd
    have hts : ts.filter (fun t => ! t.isEnd) = ts :=
      List.filter_eq_self.2 fun t ht => by rw [hend t ht, Bool.not_false]
    rw [hts, List.filter_append, List.filter_singleton] at hfilter
    have hlast : e.isEnd = true := decide_eq_true he
    rw [hlast, Bool.not_true, cond_false, List.append_nil] at hfilter
    exact hfilter.trans List.filter_sublist
  refine ⟨hlaid.nested (hcovers.inOrder.sublist hsub), ?_⟩
  intro span hspan
  exact (hlaid.marks span hspan).mono hin

end Program

end ModelLang
