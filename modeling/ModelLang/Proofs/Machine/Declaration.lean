import ModelLang.Proofs.Machine.Expr

/-!
# ModelLang.Proofs.Machine.Declaration

Declarations on the machine. They push nothing themselves, and their loops do not count for names,
but the expressions in them may call defines. Each is evaluated as with a context, the stacks
untouched.
-/

namespace ModelLang

open Eval Stacked

/-- Evaluates something that may be missing. -/
def evalOptionStacked {α β : Type} (b : Option β) (eval : β → Stacked α) : Stacked (Option α) :=
  match b with
  | none => return none
  | some b => do
    let a ← eval b
    return some a

/-- What `convert` makes of the value of an expression. -/
def Expr.takeStacked {α : Type} (e : Expr) (expand : Expansion) (scope : Scope)
    (convert : Value → Except Cause α) : Stacked α := do
  let v ← e.evalStacked expand scope
  located e.span (convert v)

/-- An integer of 64 bits, which `op` takes. -/
def Expr.evalIntegerStacked (e : Expr) (expand : Expansion) (scope : Scope) (op : String) :
    Stacked Int := do
  let q ← e.takeStacked expand scope (Value.asRat op)
  located e.span (signed64? q)

/-- The components of a tuple. -/
def Expr.evalElemsStacked (es : List Expr) (expand : Expansion) (scope : Scope) : Stacked Tuple :=
  Expr.concatStacked expand (fun v => (v.asElem "tuple").map fun e => [e]) es scope

namespace IndexSet

/-- The tuples that an index set admits, each with what `visit` makes of it. -/
def collectStacked {α : Type} (index : IndexSet) (expand : Expansion) (scope : Scope)
    (visit : Scope → Tuple → Stacked α) : Stacked (List (Tuple × α)) := do
  let s ← index.evalSetStacked expand scope
  let entries ← foldTuples (index.enterStacked expand scope)
    (fun acc frame t => do
      let a ← visit frame t
      return (t, a) :: acc)
    s.tuples []
  return entries.reverse

/-- The domain of a declaration that gives its entries one by one. -/
def domainStacked? (index : Option IndexSet) (expand : Expansion) (scope : Scope) :
    Stacked (Option TupleSet) :=
  evalOptionStacked index fun index => do
    let entries ← index.collectStacked expand scope fun _ _ => return ()
    located index.span (TupleSet.ofTuples (entries.map Prod.fst))

/-- A family with a value for each tuple that an index set admits. -/
def familyStacked {α : Type} (index : IndexSet) (expand : Expansion) (scope : Scope)
    (visit : Scope → Tuple → Stacked α) : Stacked (Family α) := do
  let entries ← index.collectStacked expand scope visit
  let s ← located index.span (TupleSet.ofTuples (entries.map Prod.fst))
  return ⟨some s, entries, none⟩

end IndexSet

namespace SetDecl

/-- Adds the entries of a list one after the other. -/
def addEntriesStacked (d : SetDecl) (expand : Expansion) (scope : Scope)
    (domain : Option TupleSet) :
    List (Expr × Expr) → List (Tuple × TupleSet) → Stacked (List (Tuple × TupleSet))
  | [], entries => return entries
  | (key, value) :: rest, entries => do
    let k ← key.evalStacked expand scope
    let k ← located key.span (k.asTuple "set entry")
    let s ← value.takeStacked expand scope (Value.asSet "set")
    let entries ← located key.span (addEntry d.name.text domain entries k s)
    d.addEntriesStacked expand scope domain rest entries

/-- The declared family. -/
def evalStacked (d : SetDecl) (expand : Expansion) (scope : Scope) : Stacked (Family TupleSet) :=
  match d.index, d.body with
  | none, .value e => do
    let s ← e.takeStacked expand scope (Value.asSet "set")
    return .scalar s
  | some index, .value e =>
    index.familyStacked expand scope fun frame _ => e.takeStacked expand frame (Value.asSet "set")
  | index, .entries items => do
    let domain ← IndexSet.domainStacked? index expand scope
    let entries ← d.addEntriesStacked expand scope domain items []
    return ⟨domain, entries, none⟩
  | _, .subsets set least most => do
    let s ← set.takeStacked expand scope (Value.asSet "set")
    let a ← least.takeStacked expand scope (Value.asCount "subsets")
    let b ← evalOptionStacked most fun e => e.takeStacked expand scope (Value.asCount "subsets")
    let sets ← located d.span (s.subsets a (b.getD a))
    return numbered sets
  | _, .powerset set => do
    let s ← set.takeStacked expand scope (Value.asSet "set")
    let sets ← located d.span s.powerset
    return numbered sets

end SetDecl

namespace ParamDecl

variable (d : ParamDecl)

/-- Adds the entries of a list one after the other. -/
def addEntriesStacked (expand : Expansion) (scope : Scope) (domain : Option TupleSet) :
    List (Expr × Expr) → List (Tuple × Value) → Stacked (List (Tuple × Value))
  | [], entries => return entries
  | (key, value) :: rest, entries => do
    let k ← key.evalStacked expand scope
    let k ← located key.span (k.asTuple "parameter entry")
    let v ← value.evalStacked expand scope
    let entries ← located key.span (addEntry d.name.text domain entries k v)
    addEntriesStacked expand scope domain rest entries

/-- Adds the entries of one row of a matrix, whose key goes before that of the column. -/
def addCellsStacked (expand : Expansion) (scope : Scope) (domain : Option TupleSet)
    (row : Tuple) :
    List (Elem × Expr) → List (Tuple × Value) → Stacked (List (Tuple × Value))
  | [], entries => return entries
  | (column, value) :: rest, entries => do
    let v ← value.evalStacked expand scope
    let entries ← located value.span (addEntry d.name.text domain entries (row ++ [column]) v)
    addCellsStacked expand scope domain row rest entries

/-- Adds the entries of the rows of a matrix. -/
def addMatrixStacked (expand : Expansion) (scope : Scope) (domain : Option TupleSet)
    (columns : List Elem) :
    List (List Expr × List Expr) → List (Tuple × Value) → Stacked (List (Tuple × Value))
  | [], entries => return entries
  | (keys, values) :: rest, entries => do
    if values.length ≠ columns.length then
      fail (.matrixShape values.length columns.length) d.span
    else
      let row ← Expr.evalElemsStacked keys expand scope
      let entries ← addCellsStacked d expand scope domain row (columns.zip values) entries
      addMatrixStacked expand scope domain columns rest entries

/-- The domain and the entries that the body gives. -/
def entriesStacked (expand : Expansion) (scope : Scope) :
    Stacked (Option TupleSet × List (Tuple × Value)) :=
  match d.index, d.body with
  | none, .value e => do
    let v ← e.evalStacked expand scope
    return (none, [([], v)])
  | some index, .value e => do
    let f ← index.familyStacked expand scope fun frame _ => e.evalStacked expand frame
    return (f.domain, f.entries)
  | index, .entries items => do
    let domain ← IndexSet.domainStacked? index expand scope
    let entries ← addEntriesStacked d expand scope domain items []
    return (domain, entries)
  | index, .matrix columns rows => do
    let domain ← IndexSet.domainStacked? index expand scope
    let columns ← Expr.evalElemsStacked columns expand scope
    let entries ← addMatrixStacked d expand scope domain columns rows []
    return (domain, entries)
  | index, .read table => do
    let domain ← IndexSet.domainStacked? index expand scope
    let rows ← table.rowsStacked expand true scope
    let entries ← located table.file.span (addRows d domain rows [])
    return (domain, entries)
  | index, .empty => do
    let domain ← IndexSet.domainStacked? index expand scope
    return (domain, [])

/-- The declared symbol. The default is evaluated first. -/
def evalStacked (expand : Expansion) (scope : Scope) : Stacked Symbol := do
  let fallback ← evalOptionStacked d.fallback fun e => e.evalStacked expand scope
  let (domain, entries) ← d.entriesStacked expand scope
  located d.span (symbol domain entries fallback)

end ParamDecl

namespace VarDecl

/-- Adds a variable to the model. -/
def addStacked (d : VarDecl) (expand : Expansion) (scope : Scope) (name : String) :
    Stacked VarId := do
  let lower ← evalOptionStacked d.lower fun e =>
    e.takeStacked expand scope (Value.asNumber "bound")
  let upper ← evalOptionStacked d.upper fun e =>
    e.takeStacked expand scope (Value.asNumber "bound")
  if d.type.isBinary && (lower.isSome || upper.isSome) then fail (.boundedBinary name) d.span
  else
    let priority ← evalOptionStacked d.priority fun e =>
      e.evalIntegerStacked expand scope "priority"
    let startval ← evalOptionStacked d.startval fun e =>
      e.takeStacked expand scope (Value.asRat "startval")
    let (lower, upper) := bounds d.type lower upper
    onModel d.span (Build.addVariable ⟨name, d.type.kind, lower, upper, priority, startval, 0⟩)

/-- The declared family. -/
def evalStacked (d : VarDecl) (expand : Expansion) (scope : Scope) : Stacked (Family VarId) :=
  match d.index with
  | none => do
    let v ← d.addStacked expand scope d.name.text
    return .scalar v
  | some index =>
    index.familyStacked expand scope fun frame t =>
      d.addStacked expand frame (d.name.text ++ "[" ++ Tuple.bare t ++ "]")

end VarDecl

/-! ## Evaluation with a context -/

section Evaluation

variable {m : Machine} {expand : Expansion} {ctx : Context}

theorem acts_evalOptionStacked {α β : Type} {evalStacked : β → Stacked α} {eval : β → Eval α}
    (b : Option β) (h : ∀ b, (evalStacked b).Acts m.withWork (eval b)) :
    (evalOptionStacked b evalStacked).Acts m.withWork (evalOption b eval) := by
  cases b with
  | none => exact .pure _
  | some b => exact .bind (h b) fun a => .pure _

theorem Expr.acts_takeStacked {α : Type} (h : m.Provides expand ctx) (e : Expr) (scope : Scope)
    (convert : Value → Except Cause α) :
    (e.takeStacked expand scope convert).Acts m.withWork (do
      let v ← e.eval ctx scope
      located e.span (convert v)) :=
  .bind (e.acts_evalStacked h scope) fun _ => acts_lift _

theorem Expr.acts_evalIntegerStacked (h : m.Provides expand ctx) (e : Expr) (scope : Scope)
    (op : String) :
    (e.evalIntegerStacked expand scope op).Acts m.withWork (e.evalInteger ctx scope op) :=
  .bind (e.acts_takeStacked h scope _) fun _ => acts_lift _

namespace IndexSet

theorem acts_collectStacked {α : Type} (h : m.Provides expand ctx) (index : IndexSet)
    (scope : Scope) {visitStacked : Scope → Tuple → Stacked α} {visit : Scope → Tuple → Eval α}
    (hv : ∀ frame t, (visitStacked frame t).Acts m.withWork (visit frame t)) :
    (index.collectStacked expand scope visitStacked).Acts m.withWork
      (index.collect ctx scope visit) := by
  refine .bind (index.acts_evalSetStacked h scope) fun s => ?_
  refine .bind (.foldTuples (index.acts_enterStacked h scope) ?_ s.tuples _) fun es => .pure _
  exact fun acc frame t => .bind (hv frame t) fun a => .pure _

theorem acts_domainStacked? (h : m.Provides expand ctx) (index : Option IndexSet)
    (scope : Scope) :
    (domainStacked? index expand scope).Acts m.withWork (domain? index ctx scope) := by
  refine acts_evalOptionStacked index fun index => ?_
  exact .bind (index.acts_collectStacked h scope fun _ _ => .pure _) fun es => acts_lift _

theorem acts_familyStacked {α : Type} (h : m.Provides expand ctx) (index : IndexSet)
    (scope : Scope) {visitStacked : Scope → Tuple → Stacked α} {visit : Scope → Tuple → Eval α}
    (hv : ∀ frame t, (visitStacked frame t).Acts m.withWork (visit frame t)) :
    (index.familyStacked expand scope visitStacked).Acts m.withWork
      (index.family ctx scope visit) := by
  refine .bind (index.acts_collectStacked h scope hv) fun es => ?_
  exact .bind (acts_lift _) fun s => .pure _

end IndexSet

namespace SetDecl

theorem acts_addEntriesStacked (h : m.Provides expand ctx) (d : SetDecl) (scope : Scope)
    (domain : Option TupleSet) (items : List (Expr × Expr)) (entries : List (Tuple × TupleSet)) :
    (d.addEntriesStacked expand scope domain items entries).Acts m.withWork
      (d.addEntries ctx scope domain items entries) := by
  induction items generalizing entries with
  | nil => exact .pure _
  | cons item items ih =>
    refine .bind (item.1.acts_evalStacked h scope) fun k => .bind (acts_lift _) fun k => ?_
    refine .bind (item.2.acts_takeStacked h scope _) fun s => ?_
    exact .bind (acts_lift _) fun entries => ih entries

theorem acts_evalStacked (h : m.Provides expand ctx) (d : SetDecl) (scope : Scope) :
    (d.evalStacked expand scope).Acts m.withWork (d.eval ctx scope) := by
  unfold evalStacked eval
  cases d.body with
  | value e =>
    cases d.index with
    | none => exact .bind (e.acts_takeStacked h scope _) fun s => .pure _
    | some index =>
      exact index.acts_familyStacked h scope fun frame _ => e.acts_takeStacked h frame _
  | entries items =>
    cases d.index
    all_goals
      refine .bind (IndexSet.acts_domainStacked? h _ scope) fun domain => ?_
      exact .bind (d.acts_addEntriesStacked h scope domain items []) fun entries => .pure _
  | subsets set least most =>
    cases d.index
    all_goals
      refine .bind (set.acts_takeStacked h scope _) fun s => ?_
      refine .bind (least.acts_takeStacked h scope _) fun a => ?_
      refine .bind (acts_evalOptionStacked most fun e => e.acts_takeStacked h scope _) fun b => ?_
      exact .bind (acts_lift _) fun sets => .pure _
  | powerset set =>
    cases d.index
    all_goals
      refine .bind (set.acts_takeStacked h scope _) fun s => ?_
      exact .bind (acts_lift _) fun sets => .pure _

end SetDecl

namespace ParamDecl

variable (d : ParamDecl)

theorem acts_addEntriesStacked (h : m.Provides expand ctx) (scope : Scope)
    (domain : Option TupleSet) (items : List (Expr × Expr)) (entries : List (Tuple × Value)) :
    (d.addEntriesStacked expand scope domain items entries).Acts m.withWork
      (d.addEntries ctx scope domain items entries) := by
  induction items generalizing entries with
  | nil => exact .pure _
  | cons item items ih =>
    refine .bind (item.1.acts_evalStacked h scope) fun k => .bind (acts_lift _) fun k => ?_
    refine .bind (item.2.acts_evalStacked h scope) fun v => ?_
    exact .bind (acts_lift _) fun entries => ih entries

theorem acts_addCellsStacked (h : m.Provides expand ctx) (scope : Scope)
    (domain : Option TupleSet) (row : Tuple) (cells : List (Elem × Expr))
    (entries : List (Tuple × Value)) :
    (d.addCellsStacked expand scope domain row cells entries).Acts m.withWork
      (d.addCells ctx scope domain row cells entries) := by
  induction cells generalizing entries with
  | nil => exact .pure _
  | cons cell cells ih =>
    refine .bind (cell.2.acts_evalStacked h scope) fun v => ?_
    exact .bind (acts_lift _) fun entries => ih entries

theorem acts_addMatrixStacked (h : m.Provides expand ctx) (scope : Scope)
    (domain : Option TupleSet) (columns : List Elem) (rows : List (List Expr × List Expr))
    (entries : List (Tuple × Value)) :
    (d.addMatrixStacked expand scope domain columns rows entries).Acts m.withWork
      (d.addMatrix ctx scope domain columns rows entries) := by
  induction rows generalizing entries with
  | nil => exact .pure _
  | cons row rows ih =>
    unfold addMatrixStacked addMatrix
    split
    · exact acts_lift _
    · refine .bind (Expr.acts_concatStacked h _ row.1 scope) fun key => ?_
      exact .bind (d.acts_addCellsStacked h scope domain key _ entries) fun entries => ih entries

theorem acts_entriesStacked (h : m.Provides expand ctx) (scope : Scope) :
    (d.entriesStacked expand scope).Acts m.withWork (d.entries ctx scope) := by
  unfold entriesStacked entries
  cases d.body with
  | value e =>
    cases d.index with
    | none => exact .bind (e.acts_evalStacked h scope) fun v => .pure _
    | some index =>
      refine .bind (index.acts_familyStacked h scope ?_) fun f => .pure _
      exact fun frame _ => e.acts_evalStacked h frame
  | entries items =>
    cases d.index
    all_goals
      refine .bind (IndexSet.acts_domainStacked? h _ scope) fun domain => ?_
      exact .bind (d.acts_addEntriesStacked h scope domain items []) fun entries => .pure _
  | matrix columns rows =>
    cases d.index
    all_goals
      refine .bind (IndexSet.acts_domainStacked? h _ scope) fun domain => ?_
      refine .bind (Expr.acts_concatStacked h _ columns scope) fun columns => ?_
      exact .bind (d.acts_addMatrixStacked h scope domain columns rows []) fun entries => .pure _
  | read table =>
    cases d.index
    all_goals
      refine .bind (IndexSet.acts_domainStacked? h _ scope) fun domain => ?_
      refine .bind (table.acts_rowsStacked h true scope) fun rows => ?_
      exact .bind (acts_lift _) fun entries => .pure _
  | empty =>
    cases d.index
    all_goals
      exact .bind (IndexSet.acts_domainStacked? h _ scope) fun domain => .pure _

theorem acts_evalStacked (h : m.Provides expand ctx) (scope : Scope) :
    (d.evalStacked expand scope).Acts m.withWork (d.eval ctx scope) := by
  refine .bind (acts_evalOptionStacked d.fallback fun e => e.acts_evalStacked h scope) ?_
  intro fallback
  exact .bind (d.acts_entriesStacked h scope) fun entries => acts_lift _

end ParamDecl

namespace VarDecl

theorem acts_addStacked (h : m.Provides expand ctx) (d : VarDecl) (scope : Scope)
    (name : String) :
    (d.addStacked expand scope name).Acts m.withWork (d.add ctx scope name) := by
  refine .bind (acts_evalOptionStacked d.lower fun e => e.acts_takeStacked h scope _) ?_
  intro lower
  refine .bind (acts_evalOptionStacked d.upper fun e => e.acts_takeStacked h scope _) ?_
  intro upper
  dsimp only
  split
  · exact acts_lift _
  · refine .bind (acts_evalOptionStacked d.priority fun e =>
      e.acts_evalIntegerStacked h scope _) fun priority => ?_
    refine .bind (acts_evalOptionStacked d.startval fun e =>
      e.acts_takeStacked h scope _) fun startval => ?_
    exact acts_lift _

theorem acts_evalStacked (h : m.Provides expand ctx) (d : VarDecl) (scope : Scope) :
    (d.evalStacked expand scope).Acts m.withWork (d.eval ctx scope) := by
  unfold evalStacked eval
  cases d.index with
  | none => exact .bind (d.acts_addStacked h scope _) fun v => .pure _
  | some index => exact index.acts_familyStacked h scope fun frame t => d.acts_addStacked h frame _

end VarDecl

end Evaluation

end ModelLang
