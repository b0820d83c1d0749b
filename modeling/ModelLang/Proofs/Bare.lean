import ModelLang.Session

/-!
# ModelLang.Proofs.Bare

Expressions and statements without their spans. Two of them are written alike, wherever they stand
in a source, if they are the same without spans. Of what a session keeps, only the bodies of defines
have spans.
-/

namespace ModelLang

mutual

/-- The expression with the default span everywhere. -/
def Expr.bare : Expr → Expr
  | .number q _ => .number q default
  | .infinity _ => .infinity default
  | .string s _ => .string s default
  | .name x _ => .name x default
  | .subscript x args _ => .subscript x (Expr.bareAll args) default
  | .call f args _ => .call f (Expr.bareAll args) default
  | .builtin f args _ => .builtin f (Expr.bareAll args) default
  | .tuple items _ => .tuple (Expr.bareAll items) default
  | .setLiteral items _ => .setLiteral (Expr.bareAll items) default
  | .range first last step closed _ =>
    .range first.bare last.bare (Expr.bareOption step) closed default
  | .setBuilder index member _ => .setBuilder index.bare (Expr.bareOption member) default
  | .proj set positions _ => .proj set.bare positions.bare default
  | .indexSetOf x _ => .indexSetOf ⟨x.text, default⟩ default
  | .binary op a b _ => .binary op a.bare b.bare default
  | .unary op a _ => .unary op a.bare default
  | .aggregate kind index body _ => .aggregate kind index.bare body.bare default
  | .nonempty index _ => .nonempty index.bare default
  | .argExtremum maximize count index body _ =>
    .argExtremum maximize (Expr.bareOption count) index.bare body.bare default
  | .indexedSetOp op index body _ => .indexedSetOp op index.bare body.bare default
  | .conditional c a b _ => .conditional c.bare a.bare b.bare default
  | .read table _ => .read table.bare default

def IndexSet.bare : IndexSet → IndexSet
  | .mk none set condition _ => .mk none set.bare (Expr.bareOption condition) default
  | .mk (some items) set condition _ =>
    .mk (some (Expr.bareAll items)) set.bare (Expr.bareOption condition) default

def ReadSpec.bare : ReadSpec → ReadSpec
  | .mk file template options => .mk file.bare template.bare (ReadOption.bareAll options)

def ReadOption.bareAll : List ReadOption → List ReadOption
  | [] => []
  | .mk key value :: rest => .mk key value.bare :: ReadOption.bareAll rest

def Expr.bareAll : List Expr → List Expr
  | [] => []
  | e :: rest => e.bare :: Expr.bareAll rest

def Expr.bareOption : Option Expr → Option Expr
  | none => none
  | some e => some e.bare

end

attribute [simp] Expr.bare ReadSpec.bare

@[simp] theorem Expr.bareAll_eq_map (es : List Expr) : Expr.bareAll es = es.map Expr.bare := by
  induction es with
  | nil => rfl
  | cons e es ih => rw [bareAll, ih, List.map_cons]

@[simp] theorem Expr.bareOption_eq_map (e : Option Expr) : Expr.bareOption e = e.map Expr.bare := by
  cases e <;> rfl

def ReadOption.bare : ReadOption → ReadOption
  | mk key value => .mk key value.bare

@[simp] theorem ReadOption.bareAll_eq_map (options : List ReadOption) :
    ReadOption.bareAll options = options.map ReadOption.bare := by
  induction options with
  | nil => rfl
  | cons o options ih =>
    cases o with
    | mk key value => rw [bareAll, ih, List.map_cons, bare]

@[simp] theorem Expr.name?_bare (e : Expr) : e.bare.name? = e.name? := by
  cases e <;> rfl

@[simp] theorem IndexSet.bare_mk (pattern : Option (List Expr)) (set : Expr)
    (condition : Option Expr) (span : Span) : (IndexSet.mk pattern set condition span).bare =
      .mk (pattern.map (List.map Expr.bare)) set.bare (condition.map Expr.bare) default := by
  cases pattern <;> simp [IndexSet.bare]

/-! ## Statements -/

def Name.bare (x : Name) : Name := ⟨x.text, default⟩

@[simp] theorem Name.text_bare (x : Name) : x.bare.text = x.text := rfl

/-- The two parts of an entry. -/
def bareEntry (x : Expr × Expr) : Expr × Expr := (x.1.bare, x.2.bare)

/-- The key and the values of a row. -/
def bareRow (x : List Expr × List Expr) : List Expr × List Expr :=
  (x.1.map Expr.bare, x.2.map Expr.bare)

def SetBody.bare : SetBody → SetBody
  | value e => .value e.bare
  | entries items => .entries (items.map bareEntry)
  | subsets set least most => .subsets set.bare least.bare (most.map Expr.bare)
  | powerset set => .powerset set.bare

def SetDecl.bare (d : SetDecl) : SetDecl :=
  ⟨d.name.bare, d.index.map IndexSet.bare, d.body.bare, default⟩

@[simp] theorem SetDecl.name_bare (d : SetDecl) : d.bare.name = d.name.bare := rfl

def ParamBody.bare : ParamBody → ParamBody
  | value e => .value e.bare
  | entries items => .entries (items.map bareEntry)
  | matrix columns rows => .matrix (columns.map Expr.bare) (rows.map bareRow)
  | read table => .read table.bare
  | empty => .empty

def ParamDecl.bare (d : ParamDecl) : ParamDecl :=
  ⟨d.name.bare, d.index.map IndexSet.bare, d.body.bare, d.fallback.map Expr.bare, default⟩

@[simp] theorem ParamDecl.name_bare (d : ParamDecl) : d.bare.name = d.name.bare := rfl

def VarDecl.bare (d : VarDecl) : VarDecl :=
  ⟨d.name.bare, d.index.map IndexSet.bare, d.type, d.lower.map Expr.bare, d.upper.map Expr.bare,
    d.priority.map Expr.bare, d.startval.map Expr.bare, default⟩

def ObjectiveDecl.bare (d : ObjectiveDecl) : ObjectiveDecl :=
  ⟨d.sense, d.name.bare, d.term.bare, default⟩

def Branch.bare (b : Branch) : Branch := ⟨b.lhs.bare, b.rel, b.rhs.bare⟩

mutual

def Constraint.bare : Constraint → Constraint
  | .plain lhs rel rhs flags => .plain lhs.bare rel rhs.bare flags
  | .range low lowerRel term upperRel high flags =>
    .range low.bare lowerRel term.bare upperRel high.bare flags
  | .vif condition yes no flags => .vif condition.bare yes.bare (no.map Branch.bare) flags
  | .all parts => .all (Constraint.bareAll parts)
  | .each index body => .each index.bare body.bare
  | .cond condition yes none => .cond condition.bare yes.bare none
  | .cond condition yes (some no) => .cond condition.bare yes.bare (some no.bare)

def Constraint.bareAll : List Constraint → List Constraint
  | [] => []
  | c :: rest => c.bare :: Constraint.bareAll rest

end

theorem Constraint.bareAll_eq_map (cs : List Constraint) :
    Constraint.bareAll cs = cs.map Constraint.bare := by
  induction cs with
  | nil => rfl
  | cons c cs ih => rw [bareAll, ih, List.map_cons]

def SubtoDecl.bare (d : SubtoDecl) : SubtoDecl := ⟨d.name.bare, d.body.bare, default⟩

def SosBody.bare : SosBody → SosBody
  | weighted items => .weighted (items.map bareEntry)
  | term e => .term e.bare
  | each index body => .each index.bare body.bare

def SosDecl.bare (d : SosDecl) : SosDecl :=
  ⟨d.name.bare, d.type, d.priority.map Expr.bare, d.body.bare, default⟩

def DefineDecl.bare (d : DefineDecl) : DefineDecl :=
  ⟨d.kind, d.name.bare, d.params.map Name.bare, d.body.bare, default⟩

/-- The statement with the default span everywhere. -/
def Statement.bare : Statement → Statement
  | set d => .set d.bare
  | param d => .param d.bare
  | var d => .var d.bare
  | objective d => .objective d.bare
  | subto d => .subto d.bare
  | sos d => .sos d.bare
  | define d => .define d.bare
  | print items _ => .print (items.map Expr.bare) default
  | check condition _ => .check condition.bare default
  | each index body _ => .each index.bare body.bare default

/-! ## Sessions -/

def Define.bare (d : Define) : Define := ⟨d.kind, d.params, d.body.bare⟩

/-- The symbol without the spans in the body of a define. -/
def Symbol.bare : Symbol → Symbol
  | define d => .define d.bare
  | s => s

def Symbols.bare (symbols : Symbols) : Symbols :=
  symbols.map fun e => (e.1, e.2.bare)

def Session.bare (s : Session) : Session :=
  { s with symbols := Symbols.bare s.symbols }

end ModelLang
