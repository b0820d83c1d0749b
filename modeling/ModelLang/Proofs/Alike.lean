import ModelLang.Proofs.Bare
import ModelLang.Proofs.Chunks
import ModelLang.Proofs.Respects

/-!
# ModelLang.Proofs.Alike

What the grammar reads is determined by the lexemes, apart from the spans. For each form there is
one lemma on what it keeps: the expression, the statement or whatever else it reads, without spans.
The statements of a program are determined turn by turn (`Grammar.bareTurns_congr`), and a program
that is cut after a semicolon has the statements of its parts (`Grammar.bareTurns_append`).
-/

namespace ModelLang

open Relator (LiftFun)

/-- Two things that a rule reads are the same without spans. -/
def Rule.Alike : (r : Rule) → r.Result → r.Result → Prop
  | .command | .forallCommand => SameBy Statement.bare
  | .constraintList => SameBy Constraint.bare
  | .sosBody => SameBy SosBody.bare
  | .indexSet => SameBy IndexSet.bare
  | .expr | .notExpr | .unionExpr | .additive | .multiplicative | .unary => SameBy Expr.bare

namespace Grammar

/-- What the form reads has a part, given by `f`, that the lexemes alone determine. -/
abbrev Keeps {α β : Type} (p : Form α) (f : α → β) : Prop :=
  p.Respects Rule.Alike (SameBy f)

/-- The form gives functions of a span whose values have such a part, whatever the span. -/
abbrev KeepsAt {α β : Type} (p : Form (Span → α)) (f : α → β) : Prop :=
  p.Respects Rule.Alike (LiftFun (fun _ _ => True) (SameBy f))

variable {α β : Type} {p : Form α} {f : α → β}

/-! ## Parts of forms -/

theorem keeps_word (w : String) : Keeps (word w) Token.lexeme := .token _

theorem keeps_mark (m : String) : Keeps (mark m) Token.lexeme := .token _

theorem respects_words (table : List (String × α)) : (words table).Respects Rule.Alike Eq :=
  .oneOf fun _ => rfl

theorem keeps_commaList (h : Keeps p f) : Keeps (commaList p) (List.map f) :=
  .sepBy h (keeps_mark ",")

theorem keeps_withSpan {p : Form (Span → α)} (h : KeepsAt p f) : Keeps (withSpan p) f :=
  .map (.spanned h) fun _ _ h => h trivial

theorem getD_congr {as as' : Option (List α)} (h : SameBy (Option.map (List.map f)) as as') :
    SameBy (List.map f) (as.getD []) (as'.getD []) :=
  match as, as', h with
  | none, none, _ => rfl
  | some _, some _, h => Option.some.inj h

theorem content_congr {t t' : Token} (h : SameBy Token.lexeme t t') : content t = content t' := by
  unfold content
  rw [h]

theorem keeps_name : Keeps name Name.bare := by
  refine .map (.token _) ?_
  intro t t' ht
  simp only [SameBy, Name.bare, content_congr ht]

/-! ## Operators -/

theorem keeps_expr : Keeps expr Expr.bare := .rule Rule.expr

theorem keeps_unionExpr : Keeps unionExpr Expr.bare := .rule Rule.unionExpr

theorem keeps_additive : Keeps additive Expr.bare := .rule Rule.additive

theorem keeps_multiplicative : Keeps multiplicative Expr.bare := .rule Rule.multiplicative

theorem keeps_unary : Keeps unary Expr.bare := .rule Rule.unary

theorem keeps_indexSet : Keeps indexSet IndexSet.bare := .rule Rule.indexSet

theorem bare_binaryOf_congr {step step' : BinaryOp × Expr}
    (h : SameBy (Prod.map id Expr.bare) step step') {e e' : Expr} (he : SameBy Expr.bare e e') :
    SameBy Expr.bare (.binaryOf step.1 e step.2) (.binaryOf step'.1 e' step'.2) := by
  obtain ⟨hop, hrhs⟩ := Prod.mk.inj h
  simp only [SameBy, Expr.binaryOf, Expr.bare, he, hrhs]
  exact congrArg (Expr.binary · _ _ _) hop

/-- An operator and its second operand. -/
theorem keeps_step (ops : List (Terminal × BinaryOp)) {operand : Form Expr}
    (h : Keeps operand Expr.bare) :
    Keeps (Prod.mk <$> Peg.oneOf ops <*> operand) (Prod.map id Expr.bare) := by
  refine .ap (.map (.oneOf (P := Eq) fun _ => rfl) ?_) h
  intro op op' hop e e' he
  simp only [SameBy, Prod.map_apply, id_eq, hop, he]

theorem keeps_chain {operand : Form Expr} (h : Keeps operand Expr.bare)
    (ops : List (Terminal × BinaryOp)) : Keeps (chain operand ops) Expr.bare := by
  refine .ap (.map h ?_) (.many (keeps_step ops h))
  intro e e' he steps steps' hsteps
  show (List.foldl _ e steps).bare = (List.foldl _ e' steps').bare
  induction hsteps generalizing e e' with
  | nil => exact he
  | cons hstep _ ih => exact ih (bare_binaryOf_congr hstep he)

theorem keeps_atMostOne (ops : List (Terminal × BinaryOp)) {first second : Form Expr}
    (h : Keeps first Expr.bare) (h' : Keeps second Expr.bare) :
    Keeps (atMostOne ops first second) Expr.bare := by
  refine .ap (.map h ?_) (.opt (keeps_step ops h'))
  intro e e' he step step' hstep
  match step, step', hstep with
  | none, none, _ => exact he
  | some _, some _, hstep => exact bare_binaryOf_congr (Option.some.inj hstep) he

theorem keeps_signed (op : UnaryOp) {sign : Form Token} (hs : Keeps sign Token.lexeme)
    {operand : Form Expr} (h : Keeps operand Expr.bare) :
    Keeps (signed op sign operand) Expr.bare := by
  refine .ap (.map hs ?_) h
  intro _ _ _ e e' he
  simp only [SameBy, Expr.bare, he]

/-! ## Operands -/

theorem keeps_numeral : Keeps numeral Expr.bare := by
  refine .filterMap (.token _) ?_
  intro t t' ht
  dsimp only
  rw [content_congr ht]
  rcases Numeral.value? (content t').toList with _ | q
  · exact .none
  · exact .some rfl

theorem keeps_string : Keeps string Expr.bare := by
  refine .map (.token _) ?_
  intro t t' ht
  simp only [SameBy, Expr.bare, content_congr ht]

theorem keeps_infinity : Keeps infinity Expr.bare := by
  refine .map (keeps_word _) ?_
  intro t t' _
  simp only [SameBy, Expr.bare]

theorem keeps_nameExpr : Keeps nameExpr Expr.bare := by
  refine .map (.token _) ?_
  intro t t' ht
  simp only [SameBy, Expr.bare, content_congr ht]

theorem keeps_parenthesized : Keeps parenthesized Expr.bare :=
  .left (.right (keeps_mark _) keeps_expr) (keeps_mark _)

/-- A list between marks that may be missing. -/
theorem keeps_items {p : Form Expr} (h : Keeps p Expr.bare) (opening closing : String) :
    Keeps ((·.getD []) <$> (mark opening *> Peg.opt (commaList p) <* mark closing))
      (List.map Expr.bare) := by
  refine .map (.left (.right (keeps_mark _) (.opt (keeps_commaList h))) (keeps_mark _)) ?_
  intro items items' hitems
  exact getD_congr hitems

theorem keeps_arguments : Keeps arguments (List.map Expr.bare) :=
  keeps_items keeps_expr "(" ")"

theorem keeps_tupleItems : Keeps tupleItems (List.map Expr.bare) :=
  .orElse (keeps_items keeps_additive "<" ">") (.map (keeps_mark _) fun _ _ _ => rfl)

theorem keeps_tuple : Keeps tuple Expr.bare := by
  refine keeps_withSpan (.map keeps_tupleItems ?_)
  intro items items' hitems _ _ _
  simp only [SameBy, Expr.bare, Expr.bareAll_eq_map, hitems]

theorem keeps_doSeparator : Keeps doSeparator Token.lexeme :=
  .orElse (keeps_word _) (keeps_mark _)

theorem keeps_rangeContents : KeepsAt rangeContents Expr.bare := by
  refine .ap (.ap (.ap (.map keeps_additive ?_) (.oneOf (P := Eq) fun _ => rfl)) keeps_additive)
    (.opt (.right (keeps_word _) keeps_additive))
  intro a a' ha closed closed' hclosed b b' hb step step' hstep _ _ _
  simp only [SameBy, Expr.bare, Expr.bareOption_eq_map, ha, hclosed, hb, hstep]

theorem isSome_pattern_bare (index : IndexSet) :
    index.bare.pattern.isSome = index.pattern.isSome := by
  rcases index with ⟨_ | _, _, _, _⟩ <;> rfl

theorem keeps_patternedIndexSet : Keeps patternedIndexSet IndexSet.bare := by
  refine .filterMap keeps_indexSet ?_
  intro index index' h
  dsimp only
  rw [← isSome_pattern_bare index, ← isSome_pattern_bare index', h]
  split
  · exact .some h
  · exact .none

theorem keeps_builderContents : KeepsAt builderContents Expr.bare := by
  refine .ap (.map keeps_patternedIndexSet ?_) (.opt (.right keeps_doSeparator keeps_expr))
  intro index index' hindex member member' hmember _ _ _
  simp only [SameBy, Expr.bare, Expr.bareOption_eq_map, hindex, hmember]

theorem keeps_listContents : KeepsAt listContents Expr.bare := by
  refine .map (.opt (keeps_commaList keeps_additive)) ?_
  intro items items' hitems _ _ _
  simp only [SameBy, Expr.bare, Expr.bareAll_eq_map, getD_congr hitems]

theorem keeps_braces : Keeps braces Expr.bare :=
  keeps_withSpan <| .left
    (.right (keeps_mark _)
      (.orElse keeps_rangeContents (.orElse keeps_builderContents keeps_listContents)))
    (keeps_mark _)

theorem keeps_conditional : Keeps conditional Expr.bare := by
  refine keeps_withSpan (.ap (.ap (.map (.right (keeps_word _) keeps_expr) ?_)
    (.right (keeps_word _) keeps_expr)) (.left (.right (keeps_word _) keeps_expr) (keeps_word _)))
  intro c c' hc a a' ha b b' hb _ _ _
  simp only [SameBy, Expr.bare, hc, ha, hb]

theorem keeps_builtinCall : Keeps builtinCall Expr.bare := by
  refine keeps_withSpan (.ap (.map (respects_words _) ?_) keeps_arguments)
  intro f f' hf args args' hargs _ _ _
  simp only [SameBy, Expr.bare, Expr.bareAll_eq_map, hf, hargs]

theorem keeps_indexSet_do : Keeps (indexSet <* doSeparator) IndexSet.bare :=
  .left keeps_indexSet keeps_doSeparator

theorem keeps_aggregate : Keeps aggregate Expr.bare := by
  refine keeps_withSpan (.ap (.ap (.map (respects_words _) ?_) keeps_indexSet_do)
    keeps_multiplicative)
  intro kind kind' hkind index index' hindex body body' hbody _ _ _
  simp only [SameBy, Expr.bare, hkind, hindex, hbody]

theorem keeps_argExtremum : Keeps argExtremum Expr.bare := by
  refine keeps_withSpan (.ap (.ap (.ap (.map (respects_words _) ?_) (.opt keeps_parenthesized))
    keeps_indexSet_do) keeps_multiplicative)
  intro maximize maximize' hmax count count' hcount index index' hindex body body' hbody _ _ _
  simp only [SameBy, Expr.bare, Expr.bareOption_eq_map, hmax, hcount, hindex, hbody]

theorem keeps_indexedSetOp : Keeps indexedSetOp Expr.bare := by
  refine keeps_withSpan (.ap (.ap (.map (respects_words _) ?_) keeps_indexSet_do) keeps_unionExpr)
  intro op op' hop index index' hindex body body' hbody _ _ _
  simp only [SameBy, Expr.bare, hop, hindex, hbody]

theorem keeps_nonempty : Keeps nonempty Expr.bare := by
  refine keeps_withSpan (.map (.left (.right (.right (keeps_word _) (keeps_mark _)) keeps_indexSet)
    (keeps_mark _)) ?_)
  intro index index' hindex _ _ _
  simp only [SameBy, Expr.bare, hindex]

theorem keeps_proj : Keeps proj Expr.bare := by
  refine keeps_withSpan (.ap (.map (.right (.right (keeps_word _) (keeps_mark _)) keeps_expr) ?_)
    (.left (.right (keeps_mark _) keeps_expr) (keeps_mark _)))
  intro set set' hset positions positions' hpositions _ _ _
  simp only [SameBy, Expr.bare, hset, hpositions]

theorem keeps_indexSetOf : Keeps indexSetOf Expr.bare := by
  refine keeps_withSpan (.map (.left (.right (.right (keeps_word _) (keeps_mark _)) keeps_name)
    (keeps_mark _)) ?_)
  intro x x' hx _ _ _
  simp only [SameBy, Expr.bare, (Name.mk.inj hx).1]

theorem keeps_readOption (w : String) (key : ReadKey) :
    Keeps (readOption w key) ReadOption.bare := by
  refine .map (.right (keeps_word _) keeps_additive) ?_
  intro e e' he
  simp only [SameBy, ReadOption.bare, he]

theorem keeps_readSpec : Keeps readSpec ReadSpec.bare := by
  refine .ap (.ap (.map (.right (keeps_word _) keeps_additive) ?_)
    (.right (keeps_word _) keeps_additive))
    (.many (.orElse (keeps_readOption _ _) (.orElse (keeps_readOption _ _)
      (.orElse (keeps_readOption _ _) (keeps_readOption _ _)))))
  intro file file' hfile template template' htemplate options options' hoptions
  simp only [SameBy, ReadSpec.bare, ReadOption.bareAll_eq_map, hfile, htemplate,
    map_eq_of_forall₂ hoptions]

theorem keeps_call : Keeps call Expr.bare := by
  refine keeps_withSpan (.ap (.map (.token _) ?_) keeps_arguments)
  intro t t' ht args args' hargs _ _ _
  simp only [SameBy, Expr.bare, Expr.bareAll_eq_map, content_congr ht, hargs]

theorem keeps_subscript : Keeps subscript Expr.bare := by
  refine keeps_withSpan (.ap (.map (.token _) ?_)
    (.left (.right (keeps_mark _) (keeps_commaList keeps_expr)) (keeps_mark _)))
  intro t t' ht args args' hargs _ _ _
  simp only [SameBy, Expr.bare, Expr.bareAll_eq_map, content_congr ht, hargs]

theorem keeps_read : Keeps (withSpan (Expr.read <$> readSpec)) Expr.bare := by
  refine keeps_withSpan (.map keeps_readSpec ?_)
  intro table table' htable _ _ _
  simp only [SameBy, Expr.bare, htable]

theorem keeps_primary : Keeps primary Expr.bare :=
  .orElse keeps_numeral <| .orElse keeps_string <| .orElse keeps_infinity <|
  .orElse keeps_parenthesized <| .orElse keeps_tuple <| .orElse keeps_braces <|
  .orElse keeps_conditional <| .orElse keeps_builtinCall <| .orElse keeps_aggregate <|
  .orElse keeps_argExtremum <| .orElse keeps_indexedSetOp <| .orElse keeps_nonempty <|
  .orElse keeps_proj <| .orElse keeps_indexSetOf <| .orElse keeps_read <| .orElse keeps_call <|
  .orElse keeps_subscript keeps_nameExpr

theorem keeps_postfixed : Keeps postfixed Expr.bare := by
  refine .ap (.map keeps_primary ?_) (.many (keeps_mark _))
  intro e e' he bangs bangs' hbangs
  show (List.foldl _ e bangs).bare = (List.foldl _ e' bangs').bare
  induction hbangs generalizing e e' with
  | nil => exact he
  | cons _ _ ih =>
    refine ih ?_
    simp only [SameBy, Expr.bare, he]

theorem keeps_comparison : Keeps comparison Expr.bare :=
  keeps_atMostOne compareOps keeps_unionExpr keeps_unionExpr

/-! ## Index sets -/

theorem keeps_pattern : Keeps pattern (List.map Expr.bare) := by
  refine .orElse keeps_tupleItems (.map keeps_nameExpr ?_)
  intro e e' he
  simp only [SameBy, List.map_cons, List.map_nil, he]

theorem keeps_indexSetForm : Keeps indexSetForm IndexSet.bare := by
  refine keeps_withSpan (.ap (.ap (.map (.opt (.left keeps_pattern (keeps_word _))) ?_)
    keeps_unionExpr) (.opt (.right (keeps_word _) keeps_expr)))
  intro pattern pattern' hpattern set set' hset condition condition' hcondition _ _ _
  simp only [SameBy, IndexSet.bare_mk, hpattern, hset, hcondition]

/-! ## Sets and parameters -/

theorem keeps_declIndex : Keeps declIndex (Option.map IndexSet.bare) := by
  refine .map (.opt (.left (.right (keeps_mark _) (.opt keeps_indexSet)) (keeps_mark _))) ?_
  rintro (_ | index) (_ | index') h
  · rfl
  · cases h
  · cases h
  · exact Option.some.inj h

theorem keeps_subsets : Keeps subsets SetBody.bare := by
  refine .ap (.ap (.map (.right (.right (keeps_word _) (keeps_mark _)) keeps_expr) ?_)
    (.right (keeps_mark _) keeps_expr))
    (.left (.opt (.right (keeps_mark _) keeps_expr)) (keeps_mark _))
  intro set set' hset least least' hleast most most' hmost
  simp only [SameBy, SetBody.bare, hset, hleast, hmost]

/-- The entries of a list, each with its key. -/
theorem keeps_entries {value : Form Expr} (h : Keeps value Expr.bare) :
    Keeps (commaList (Prod.mk <$> tuple <*> value)) (List.map bareEntry) := by
  refine keeps_commaList (.ap (.map keeps_tuple ?_) h)
  intro key key' hkey e e' he
  simp only [SameBy, bareEntry, hkey, he]

theorem keeps_setBody : Keeps setBody SetBody.bare := by
  refine .orElse keeps_subsets (.orElse
    (.map (.right (keeps_word _) keeps_parenthesized) ?powerset)
    (.orElse (.map (keeps_entries keeps_unionExpr) ?entries) (.map keeps_expr ?value)))
  all_goals
    intro body body' hbody
    simp only [SameBy, SetBody.bare, hbody]

theorem keeps_setDecl : Keeps setDecl Statement.bare := by
  refine keeps_withSpan (.ap (.ap (.map (.right (keeps_word _) keeps_name) ?_)
    (.left keeps_declIndex (keeps_mark _))) keeps_setBody)
  intro name name' hname index index' hindex body body' hbody _ _ _
  simp only [SameBy, Statement.bare, SetDecl.bare, hname, hindex, hbody]

theorem keeps_row : Keeps (bar *> commaList additive <* bar) (List.map Expr.bare) :=
  .left (.right (keeps_mark _) (keeps_commaList keeps_additive)) (keeps_mark _)

theorem keeps_matrixRow : Keeps matrixRow bareRow := by
  refine .ap (.map keeps_row ?_) (.left (keeps_commaList keeps_additive) (keeps_mark _))
  intro keys keys' hkeys values values' hvalues
  simp only [SameBy, bareRow, hkeys, hvalues]

theorem keeps_matrix : Keeps matrix ParamBody.bare := by
  refine .ap (.ap (.map keeps_row ?_) keeps_matrixRow) (.many keeps_matrixRow)
  intro columns columns' hcolumns first first' hfirst rest rest' hrest
  simp only [SameBy, ParamBody.bare, List.map_cons, hcolumns, hfirst, map_eq_of_forall₂ hrest]

theorem keeps_paramBody : Keeps paramBody ParamBody.bare := by
  refine .orElse (.map keeps_readSpec ?read) (.orElse keeps_matrix
    (.orElse (.map (keeps_entries keeps_additive) ?entries) (.map keeps_expr ?value)))
  all_goals
    intro body body' hbody
    simp only [SameBy, ParamBody.bare, hbody]

theorem keeps_paramDecl : Keeps paramDecl Statement.bare := by
  refine keeps_withSpan (.ap (.ap (.ap (.map (.right (keeps_word _) keeps_name) ?_)
    keeps_declIndex) (.opt (.right (keeps_mark _) keeps_paramBody)))
    (.opt (.right (keeps_word _) keeps_expr)))
  intro name name' hname index index' hindex body body' hbody fallback fallback' hfallback _ _ _
  have hbare : (body.getD .empty).bare = (body'.getD .empty).bare :=
    match body, body', hbody with
    | none, none, _ => rfl
    | some _, some _, hbody => Option.some.inj hbody
  simp only [SameBy, Statement.bare, ParamDecl.bare, hname, hindex, hbare, hfallback]

/-! ## Variables and objectives -/

theorem respects_varType : varType.Respects Rule.Alike Eq :=
  .orElse (respects_words _) (.right (keeps_word _) (respects_words _))

/-- An attribute changes declarations that are the same without spans to such declarations. -/
theorem respects_varAttribute : varAttribute.Respects Rule.Alike
    (LiftFun (SameBy VarDecl.bare) (SameBy VarDecl.bare)) := by
  refine .orElse (.map (.right (keeps_mark _) keeps_additive) ?lower)
    (.orElse (.map (.right (keeps_mark _) keeps_additive) ?upper)
      (.orElse (.map (.right (keeps_word _) keeps_additive) ?priority)
        (.map (.right (keeps_word _) keeps_additive) ?startval)))
  all_goals
    intro e e' he d d' hd
    obtain ⟨hname, hindex, htype, hlower, hupper, hpriority, hstartval, _⟩ := VarDecl.mk.inj hd
    simp only [SameBy, VarDecl.bare, Option.map_some, he, hname, hindex, htype, hlower, hupper,
      hpriority, hstartval]

theorem keeps_varDecl : Keeps varDecl Statement.bare := by
  refine keeps_withSpan (.ap (.ap (.ap (.map (.right (keeps_word _) keeps_name) ?_)
    keeps_declIndex) (.opt_eq respects_varType)) (.many respects_varAttribute))
  intro name name' hname index index' hindex type type' htype changes changes' hchanges _ _ _
  refine congrArg Statement.var ?_
  have hstart (d d' : VarDecl) (hd : SameBy VarDecl.bare d d') :
      SameBy VarDecl.bare (changes.foldl (fun d change => change d) d)
        (changes'.foldl (fun d change => change d) d') := by
    induction hchanges generalizing d d' with
    | nil => exact hd
    | cons hchange _ ih => exact ih _ _ (hchange hd)
  refine hstart _ _ ?_
  simp only [SameBy, VarDecl.bare, hname, hindex, htype]

theorem keeps_objective : Keeps objective Statement.bare := by
  refine keeps_withSpan (.ap (.ap (.map (respects_words _) ?_)
    (.left keeps_name (keeps_mark _))) keeps_unionExpr)
  intro sense sense' hsense name name' hname term term' hterm _ _ _
  simp only [SameBy, Statement.bare, ObjectiveDecl.bare, hsense, hname, hterm]

/-! ## Constraints -/

theorem respects_conRel : conRel.Respects Rule.Alike Eq := .oneOf fun _ => rfl

theorem respects_conFlags : conFlags.Respects Rule.Alike Eq := by
  refine .map (.many (.right (keeps_mark _) (respects_words _))) ?_
  intro flags flags' hflags
  rw [List.forall₂_eq_eq_eq] at hflags
  rw [hflags]

theorem keeps_constraintList : Keeps constraintList Constraint.bare := .rule Rule.constraintList

theorem keeps_eachConstraint : Keeps eachConstraint Constraint.bare := by
  refine .ap (.map (.left (.right (keeps_word _) keeps_indexSet) keeps_doSeparator) ?_)
    keeps_constraintList
  intro index index' hindex body body' hbody
  simp only [SameBy, Constraint.bare, hindex, hbody]

theorem bare_cond (condition : Expr) (yes : Constraint) (no : Option Constraint) :
    (Constraint.cond condition yes no).bare =
      .cond condition.bare yes.bare (no.map Constraint.bare) := by
  cases no <;> simp only [Constraint.bare, Option.map_some, Option.map_none]

theorem keeps_conditionalConstraint : Keeps conditionalConstraint Constraint.bare := by
  refine .ap (.ap (.map (.left (.right (keeps_word _) keeps_expr) (keeps_word _)) ?_)
    keeps_constraintList) (.left (.opt (.right (keeps_word _) keeps_constraintList)) (keeps_word _))
  intro c c' hc yes yes' hyes no no' hno
  simp only [SameBy, bare_cond, hc, hyes, hno]

theorem keeps_branch : Keeps branch Branch.bare := by
  refine .ap (.ap (.map keeps_unionExpr ?_) respects_conRel) keeps_unionExpr
  intro a a' ha rel rel' hrel b b' hb
  simp only [SameBy, Branch.bare, ha, hrel, hb]

theorem keeps_vif : Keeps vif Constraint.bare := by
  refine .ap (.ap (.ap (.map (.left (.right (keeps_word _) keeps_expr) (keeps_word _)) ?_)
    keeps_branch) (.left (.opt (.right (keeps_word _) keeps_branch)) (keeps_word _)))
    respects_conFlags
  intro c c' hc yes yes' hyes no no' hno flags flags' hflags
  simp only [SameBy, Constraint.bare, hc, hyes, hno, hflags]

theorem keeps_relation : Keeps relation Constraint.bare := by
  have hsecond : Keeps (Prod.mk <$> conRel <*> unionExpr) (Prod.map id Expr.bare) := by
    refine .ap (.map respects_conRel ?_) keeps_unionExpr
    intro rel rel' hrel e e' he
    simp only [SameBy, Prod.map_apply, id_eq, hrel, he]
  refine .ap (.ap (.ap (.ap (.map keeps_unionExpr ?_) respects_conRel) keeps_unionExpr)
    (.opt hsecond)) respects_conFlags
  intro a a' ha rel rel' hrel b b' hb rest rest' hrest flags flags' hflags
  match rest, rest', hrest with
  | none, none, _ => simp only [SameBy, Constraint.bare, ha, hrel, hb, hflags]
  | some (upper, high), some (upper', high'), hrest =>
    obtain ⟨hupper, hhigh⟩ := Prod.mk.inj (Option.some.inj hrest)
    rw [id_eq, id_eq] at hupper
    simp only [SameBy, Constraint.bare, ha, hrel, hb, hupper, hhigh, hflags]

theorem keeps_constraintListForm : Keeps constraintListForm Constraint.bare := by
  refine .map (.sepBy (.orElse keeps_eachConstraint (.orElse keeps_conditionalConstraint
    (.orElse keeps_vif keeps_relation))) (keeps_word _)) ?_
  intro parts parts' hparts
  match parts, parts', hparts with
  | [], [], _ => rfl
  | [_], [_], hparts => exact (List.cons.inj hparts).1
  | [_], _ :: _ :: _, hparts | _ :: _ :: _, [_], hparts =>
    cases (List.cons.inj hparts).2
  | _ :: _ :: _, _ :: _ :: _, hparts =>
    simp only [SameBy, Constraint.bare, Constraint.bareAll_eq_map, hparts]

theorem keeps_subtoDecl : Keeps subtoDecl Statement.bare := by
  refine keeps_withSpan (.ap (.map (.left (.right (keeps_word _) keeps_name) (keeps_mark _)) ?_)
    keeps_constraintList)
  intro name name' hname body body' hbody _ _ _
  simp only [SameBy, Statement.bare, SubtoDecl.bare, hname, hbody]

/-! ## Special ordered sets and defines -/

theorem keeps_sosBody : Keeps (.rule Rule.sosBody) SosBody.bare := .rule Rule.sosBody

theorem keeps_sosBodyForm : Keeps sosBodyForm SosBody.bare := by
  have hentry : Keeps (Prod.mk <$> additive <*> (mark ":" *> additive)) bareEntry := by
    refine .ap (.map keeps_additive ?_) (.right (keeps_mark _) keeps_additive)
    intro key key' hkey e e' he
    simp only [SameBy, bareEntry, hkey, he]
  refine .orElse (.ap (.map (.left (.right (keeps_word _) keeps_indexSet) keeps_doSeparator) ?each)
    keeps_sosBody) (.orElse (.map (keeps_commaList hentry) ?weighted) (.map keeps_unionExpr ?term))
  case each =>
    intro index index' hindex body body' hbody
    simp only [SameBy, SosBody.bare, hindex, hbody]
  all_goals
    intro body body' hbody
    simp only [SameBy, SosBody.bare, hbody]

theorem respects_sosTypes : sosTypes.Respects Rule.Alike Eq := respects_words _

theorem keeps_namedSos : KeepsAt namedSos Statement.bare := by
  refine .ap (.ap (.ap (.map (.left keeps_name (keeps_mark _)) ?_)
    (.opt_eq respects_sosTypes)) (.opt (.right (keeps_word _) keeps_additive)))
    (.right (.opt (keeps_mark _)) keeps_sosBody)
  intro name name' hname type type' htype priority priority' hpriority body body' hbody _ _ _
  simp only [SameBy, Statement.bare, SosDecl.bare, hname, htype, hpriority, hbody]

theorem keeps_typedSos : KeepsAt typedSos Statement.bare := by
  refine .ap (.ap (.map (.left respects_sosTypes (keeps_mark _)) ?_)
    (.left keeps_name (keeps_mark _))) keeps_sosBody
  intro type type' htype name name' hname body body' hbody _ _ _
  simp only [SameBy, Statement.bare, SosDecl.bare, hname, htype, hbody]

theorem keeps_sosDecl : Keeps sosDecl Statement.bare :=
  keeps_withSpan (.right (keeps_word _) (.orElse keeps_namedSos keeps_typedSos))

theorem keeps_defineDecl : Keeps defineDecl Statement.bare := by
  refine keeps_withSpan (.ap (.ap (.ap (.map (respects_words _) ?_) keeps_name)
    (.left (.left (.right (keeps_mark _) (.opt (keeps_commaList keeps_name))) (keeps_mark _))
      (keeps_mark _))) keeps_expr)
  intro kind kind' hkind name name' hname params params' hparams body body' hbody _ _ _
  simp only [SameBy, Statement.bare, DefineDecl.bare, hkind, hname, getD_congr hparams, hbody]

/-! ## Commands -/

theorem keeps_printCommand : Keeps printCommand Statement.bare := by
  refine keeps_withSpan (.map (.right (keeps_word _) (keeps_commaList keeps_expr)) ?_)
  intro items items' hitems _ _ _
  simp only [SameBy, Statement.bare, hitems]

theorem keeps_checkCommand : Keeps checkCommand Statement.bare := by
  refine keeps_withSpan (.map (.right (keeps_word _) keeps_expr) ?_)
  intro e e' he _ _ _
  simp only [SameBy, Statement.bare, he]

theorem keeps_command : Keeps (.rule Rule.command) Statement.bare := .rule Rule.command

theorem keeps_forallCommand : Keeps (.rule Rule.forallCommand) Statement.bare :=
  .rule Rule.forallCommand

theorem keeps_forallCommandForm : Keeps forallCommandForm Statement.bare := by
  refine .ap (.ap (.map (keeps_word _) ?_) keeps_indexSet_do)
    (.orElse keeps_forallCommand keeps_command)
  intro _ _ _ index index' hindex body body' hbody
  simp only [SameBy, Statement.bare, hindex, hbody]

theorem keeps_commandForm : Keeps commandForm Statement.bare :=
  .orElse keeps_setDecl <| .orElse keeps_paramDecl <| .orElse keeps_varDecl <|
  .orElse keeps_objective <| .orElse keeps_subtoDecl <| .orElse keeps_sosDecl <|
  .orElse keeps_defineDecl <| .orElse (.right (keeps_word _)
    (.orElse keeps_forallCommand (.orElse keeps_printCommand keeps_checkCommand))) <|
  .orElse keeps_printCommand keeps_checkCommand

theorem keeps_statement : Keeps statement Statement.bare :=
  .left keeps_command (keeps_mark _)

/-! ## The whole grammar -/

theorem form_respects (r : Rule) : (form r).Respects Rule.Alike r.Alike :=
  match r with
  | .command => keeps_commandForm
  | .forallCommand => keeps_forallCommandForm
  | .constraintList => keeps_constraintListForm
  | .sosBody => keeps_sosBodyForm
  | .indexSet => keeps_indexSetForm
  | .expr => keeps_chain (keeps_chain (.rule Rule.notExpr) andOps) orOps
  | .notExpr =>
    .orElse (keeps_signed .not (keeps_word _) (.rule Rule.notExpr)) keeps_comparison
  | .unionExpr => keeps_chain (keeps_chain keeps_additive interOps) unionOps
  | .additive => keeps_chain keeps_multiplicative additiveOps
  | .multiplicative => keeps_chain keeps_unary multiplicativeOps
  | .unary => .orElse (keeps_signed .neg (keeps_mark _) keeps_unary)
    (.orElse (.right (keeps_mark _) keeps_unary)
      (keeps_atMostOne powerOps keeps_postfixed keeps_unary))

/-! ## Turns without spans -/

/-- The statement of a turn without spans, if one was read. -/
def bareResult (result : Except SyntaxError Statement) : Option Statement :=
  result.toOption.map Statement.bare

/-- What the turns of tokens read. -/
def bareTurns (tokens : List Token) : List (Option Statement) :=
  (turns tokens).map fun turn => bareResult turn.result

theorem bareResult_of_alike {turn turn' : Turn}
    (h : turn.answer.Alike (SameBy Statement.bare) turn'.answer) :
    bareResult turn.result = bareResult turn'.result := by
  obtain ⟨start, answer, reach⟩ := turn
  obtain ⟨start', answer', reach'⟩ := turn'
  cases h with
  | none => rfl
  | some h => exact congrArg some h.1

theorem bareResult_turnAt {c c' : Cursor} (h : c.Ahead c') :
    bareResult (turnAt c).result = bareResult (turnAt c').result :=
  bareResult_of_alike (layers.alike_of_respects form_respects rfl keeps_statement h)

theorem recover_ahead {i i' : Nat} {tokens tokens' : List Token}
    (h : SameBy (List.map Token.lexeme) tokens tokens') :
    (recover i tokens).Ahead (recover i' tokens') := by
  induction tokens generalizing i i' tokens' with
  | nil =>
    cases tokens' with
    | nil => rfl
    | cons => cases h
  | cons t tokens ih =>
    cases tokens' with
    | nil => cases h
    | cons t' tokens' =>
      obtain ⟨ht, htokens⟩ := List.cons.inj h
      rw [recover, recover, Token.isEnd, Token.isEnd, ht]
      split
      · exact h
      split
      · exact htokens
      · exact ih htokens

theorem atEnd_congr {tokens tokens' : List Token}
    (h : SameBy (List.map Token.lexeme) tokens tokens') : atEnd tokens = atEnd tokens' := by
  match tokens, tokens', h with
  | [], [], _ => rfl
  | t :: _, t' :: _, h => rw [atEnd, atEnd, Token.isEnd, Token.isEnd, (List.cons.inj h).1]

theorem bareResult_turnsFrom {bound bound' : List Token} (hb : bound.length = bound'.length)
    {c c' : Cursor} (h : c.Ahead c') :
    (turnsFrom bound c).map (fun turn => bareResult turn.result) =
      (turnsFrom bound' c').map fun turn => bareResult turn.result := by
  induction bound generalizing bound' c c' with
  | nil =>
    rw [List.length_eq_zero_iff.1 hb.symm]
    rfl
  | cons b bound ih =>
    cases bound' with
    | nil => cases hb
    | cons b' bound' =>
      rw [turnsFrom, turnsFrom, atEnd_congr h]
      split
      · rfl
      · rw [List.map_cons, List.map_cons, bareResult_turnAt h,
          ih (Nat.succ.inj hb) (recover_ahead h)]

/-- What is read of tokens depends on their lexemes only. -/
theorem bareTurns_congr {tokens tokens' : List Token}
    (h : SameBy (List.map Token.lexeme) tokens tokens') : bareTurns tokens = bareTurns tokens' := by
  have hlength := congrArg List.length h
  rw [List.length_map, List.length_map] at hlength
  rw [bareTurns, bareTurns, turns_eq, turns_eq]
  exact bareResult_turnsFrom hlength h

/-- The tokens end with a semicolon, if there are any. -/
def Closed (tokens : List Token) : Prop :=
  ∀ t ∈ tokens.getLast?, t.lexeme = .mark ";"

instance (tokens : List Token) : Decidable (Closed tokens) :=
  inferInstanceAs (Decidable (∀ t ∈ tokens.getLast?, t.lexeme = .mark ";"))

theorem chunks_append_of_closed {body : List Token} (h : Closed body) (rest : List Token) :
    chunks (body ++ rest) = chunks body ++ chunks rest := by
  refine List.splitBy_append fun t ht _ _ => ?_
  rw [h t ht]
  rfl

/-- Tokens that are cut after a semicolon are read part by part, each part before an end mark of its
own. -/
theorem bareTurns_append {body rest : List Token} {e e' : Token} (he : e.lexeme = .endOfInput)
    (he' : e'.lexeme = .endOfInput) (hbody : ∀ t ∈ body, t.isEnd = false)
    (hrest : ∀ t ∈ rest, t.isEnd = false) (hclosed : Closed body) :
    bareTurns (body ++ rest ++ [e]) = bareTurns (body ++ [e']) ++ bareTurns (rest ++ [e]) := by
  have hmap {ts : List Token} {e : Token} (he : e.lexeme = .endOfInput)
      (hts : ∀ t ∈ ts, t.isEnd = false) : bareTurns (ts ++ [e]) =
        (chunks ts).map fun chunk => bareResult (turnAt (.ofTokens 0 (chunk ++ [e]))).result := by
    have hresults := congrArg (List.map bareResult) (turns_results (decide_eq_true he) hts)
    simpa only [bareTurns, List.map_map, Function.comp_def] using hresults
  have hsame : SameBy (List.map Token.lexeme) (body ++ [e]) (body ++ [e']) := by
    simp only [SameBy, List.map_append, List.map_cons, he, he']
  rw [← bareTurns_congr hsame, hmap he (List.forall_mem_append.2 ⟨hbody, hrest⟩), hmap he hbody,
    hmap he hrest, chunks_append_of_closed hclosed, List.map_append]

end Grammar

namespace Program

open Grammar

/-- Every turn reads a statement exactly if the program has no error. -/
theorem bareTurns_eq_iff {tokens : List Token} {ss : List Statement} :
    bareTurns tokens = ss.map some ↔
      (ofTokens tokens).errors = [] ∧ (ofTokens tokens).statements.map Statement.bare = ss := by
  rw [ofTokens, ofTurns_eq_ofResults]
  have hturns : bareTurns tokens = ((turns tokens).map Turn.result).map bareResult := by
    rw [List.map_map]
    rfl
  rw [hturns]
  generalize (turns tokens).map Turn.result = results
  induction results generalizing ss with
  | nil => cases ss <;> simp [ofResults]
  | cons r results ih =>
    rw [List.map_cons]
    cases r with
    | error e => cases ss <;> simp [ofResults, bareResult, Except.toOption]
    | ok s =>
      cases ss with
      | nil => simp [ofResults]
      | cons s' ss =>
        rw [List.map_cons, List.cons_eq_cons]
        refine (and_congr_right fun _ => ih).trans ?_
        simp [ofResults, bareResult, Except.toOption, and_left_comm]

end Program

end ModelLang
