import ModelLang.Eval.Expr
import ModelLang.TupleSet.Choice

/-!
# ModelLang.Eval.Declaration

The symbols that declarations stand for. Declaring a variable adds it to the model, once for each
tuple of its index set.
-/

namespace ModelLang

open Eval

/-- Evaluates something that may be missing. -/
def evalOption {α β : Type} (b : Option β) (eval : β → Eval α) : Eval (Option α) :=
  match b with
  | none => return none
  | some b => do
    let a ← eval b
    return some a

/-! ## Indexed families -/

namespace IndexSet

/-- The tuples that an index set admits, each with what `visit` makes of it. -/
def collect {α : Type} (index : IndexSet) (ctx : Context) (scope : Scope)
    (visit : Scope → Tuple → Eval α) : Eval (List (Tuple × α)) := do
  let s ← index.evalSet ctx scope
  let entries ← foldTuples (index.enter ctx scope)
    (fun acc frame t => do
      let a ← visit frame t
      return (t, a) :: acc)
    s.tuples []
  return entries.reverse

/-- The set of the tuples that an index set admits. -/
def domain (index : IndexSet) (ctx : Context) (scope : Scope) : Eval TupleSet := do
  let entries ← index.collect ctx scope fun _ _ => return ()
  located index.span (TupleSet.ofTuples (entries.map Prod.fst))

/-- The domain of a declaration that gives its entries one by one. -/
def domain? (index : Option IndexSet) (ctx : Context) (scope : Scope) : Eval (Option TupleSet) :=
  evalOption index fun index => index.domain ctx scope

/-- A family with a value for each tuple that an index set admits. -/
def family {α : Type} (index : IndexSet) (ctx : Context) (scope : Scope)
    (visit : Scope → Tuple → Eval α) : Eval (Family α) := do
  let entries ← index.collect ctx scope visit
  let s ← located index.span (TupleSet.ofTuples (entries.map Prod.fst))
  return ⟨some s, entries, none⟩

end IndexSet

/-- Entries with one more at the end. Its key has to be in the domain, if there is one, and to be
new. -/
def addEntry {α : Type} (name : String) (domain : Option TupleSet) (entries : List (Tuple × α))
    (key : Tuple) (a : α) : Except Cause (List (Tuple × α)) :=
  if domain.any fun s => ! s.contains key then .error (.outsideIndexSet key name)
  else if entries.any fun e => e.1 = key then .error (.repeatedEntry name key)
  else .ok (entries ++ [(key, a)])

/-- A set of the given value. -/
def Expr.evalSet (e : Expr) (ctx : Context) (scope : Scope) : Eval TupleSet := do
  let v ← e.eval ctx scope
  located e.span (v.asSet "set")

/-- A count, which `op` takes. -/
def Expr.evalCount (e : Expr) (ctx : Context) (scope : Scope) (op : String) : Eval Nat := do
  let v ← e.eval ctx scope
  located e.span (v.asCount op)

/-- A number, which `op` takes. -/
def Expr.evalNumber (e : Expr) (ctx : Context) (scope : Scope) (op : String) : Eval Number := do
  let v ← e.eval ctx scope
  located e.span (v.asNumber op)

/-- A fraction, which `op` takes. -/
def Expr.evalRat (e : Expr) (ctx : Context) (scope : Scope) (op : String) : Eval Rat := do
  let v ← e.eval ctx scope
  located e.span (v.asRat op)

/-- An integer of 64 bits, which `op` takes. -/
def Expr.evalInteger (e : Expr) (ctx : Context) (scope : Scope) (op : String) : Eval Int := do
  let q ← e.evalRat ctx scope op
  located e.span (signed64? q)

/-- A term, which `op` takes. -/
def Expr.evalTerm (e : Expr) (ctx : Context) (scope : Scope) (op : String) : Eval Term := do
  let v ← e.eval ctx scope
  located e.span (v.asTerm op)

/-- A truth value, which `op` takes. -/
def Expr.evalTruth (e : Expr) (ctx : Context) (scope : Scope) (op : String) : Eval Bool := do
  let v ← e.eval ctx scope
  located e.span (v.asTruth op)

/-- The components of a tuple. -/
def Expr.evalElems (es : List Expr) (ctx : Context) (scope : Scope) : Eval Tuple :=
  Expr.concat ctx (fun v => (v.asElem "tuple").map fun e => [e]) es scope

/-! ## Sets -/

namespace SetDecl

/-- The sets of a list with the numbers from one on as their index. -/
def numbered (sets : List TupleSet) : Family TupleSet :=
  let keys := TupleSet.count sets.length
  ⟨some keys, keys.tuples.zip sets, none⟩

/-- Adds the entries of a list one after the other. -/
def addEntries (d : SetDecl) (ctx : Context) (scope : Scope) (domain : Option TupleSet) :
    List (Expr × Expr) → List (Tuple × TupleSet) → Eval (List (Tuple × TupleSet))
  | [], entries => return entries
  | (key, value) :: rest, entries => do
    let k ← key.eval ctx scope
    let k ← located key.span (k.asTuple "set entry")
    let s ← value.evalSet ctx scope
    let entries ← located key.span (addEntry d.name.text domain entries k s)
    d.addEntries ctx scope domain rest entries

/-- The declared family. -/
def eval (d : SetDecl) (ctx : Context) (scope : Scope) : Eval (Family TupleSet) :=
  match d.index, d.body with
  | none, .value e => do
    let s ← e.evalSet ctx scope
    return .scalar s
  | some index, .value e => index.family ctx scope fun frame _ => e.evalSet ctx frame
  | index, .entries items => do
    let domain ← IndexSet.domain? index ctx scope
    let entries ← d.addEntries ctx scope domain items []
    return ⟨domain, entries, none⟩
  | _, .subsets set least most => do
    let s ← set.evalSet ctx scope
    let a ← least.evalCount ctx scope "subsets"
    let b ← evalOption most fun e => e.evalCount ctx scope "subsets"
    let sets ← located d.span (s.subsets a (b.getD a))
    return numbered sets
  | _, .powerset set => do
    let s ← set.evalSet ctx scope
    let sets ← located d.span s.powerset
    return numbered sets

end SetDecl

/-! ## Parameters -/

namespace ParamDecl

/-- Entries with their values converted, or the first fault. -/
def convertEntries {α : Type} (convert : Value → Except Cause α) (entries : List (Tuple × Value)) :
    Except Cause (List (Tuple × α)) :=
  entries.mapM fun e => (convert e.2).map (e.1, ·)

/-- The family of values of one type; `convert` gets what faults call the value. -/
def familyOf {α : Type} (convert : String → Value → Except Cause α) (domain : Option TupleSet)
    (entries : List (Tuple × Value)) (fallback : Option Value) : Except Cause (Family α) :=
  match convertEntries (convert "parameter") entries with
  | .error e => .error e
  | .ok entries =>
    match fallback with
    | none => .ok ⟨domain, entries, none⟩
    | some v => (convert "parameter default" v).map fun a => ⟨domain, entries, some a⟩

/-- A parameter of strings if the first value is one, and of numbers otherwise. -/
def symbol (domain : Option TupleSet) (entries : List (Tuple × Value)) (fallback : Option Value) :
    Except Cause Symbol :=
  match (entries.head?.map Prod.snd).or fallback with
  | some (.string _) => (familyOf Value.asString domain entries fallback).map .string
  | _ => (familyOf Value.asNumber domain entries fallback).map .number

variable (d : ParamDecl)

/-- Adds the entries of a list one after the other. -/
def addEntries (ctx : Context) (scope : Scope) (domain : Option TupleSet) :
    List (Expr × Expr) → List (Tuple × Value) → Eval (List (Tuple × Value))
  | [], entries => return entries
  | (key, value) :: rest, entries => do
    let k ← key.eval ctx scope
    let k ← located key.span (k.asTuple "parameter entry")
    let v ← value.eval ctx scope
    let entries ← located key.span (addEntry d.name.text domain entries k v)
    addEntries ctx scope domain rest entries

/-- Adds the entries of one row of a matrix, whose key goes before that of the column. -/
def addCells (ctx : Context) (scope : Scope) (domain : Option TupleSet) (row : Tuple) :
    List (Elem × Expr) → List (Tuple × Value) → Eval (List (Tuple × Value))
  | [], entries => return entries
  | (column, value) :: rest, entries => do
    let v ← value.eval ctx scope
    let entries ← located value.span (addEntry d.name.text domain entries (row ++ [column]) v)
    addCells ctx scope domain row rest entries

/-- Adds the entries of the rows of a matrix. -/
def addMatrix (ctx : Context) (scope : Scope) (domain : Option TupleSet) (columns : List Elem) :
    List (List Expr × List Expr) → List (Tuple × Value) → Eval (List (Tuple × Value))
  | [], entries => return entries
  | (keys, values) :: rest, entries => do
    if values.length ≠ columns.length then
      fail (.matrixShape values.length columns.length) d.span
    else
      let row ← Expr.evalElems keys ctx scope
      let entries ← addCells d ctx scope domain row (columns.zip values) entries
      addMatrix ctx scope domain columns rest entries

/-- Adds the rows of a table. -/
def addRows (domain : Option TupleSet) :
    List Table.Row → List (Tuple × Value) → Except Cause (List (Tuple × Value))
  | [], entries => .ok entries
  | (_, none) :: rest, entries => addRows domain rest entries
  | (key, some e) :: rest, entries =>
    match addEntry d.name.text domain entries key e.toValue with
    | .ok entries => addRows domain rest entries
    | .error cause => .error cause

/-- The domain and the entries that the body gives. -/
def entries (ctx : Context) (scope : Scope) : Eval (Option TupleSet × List (Tuple × Value)) :=
  match d.index, d.body with
  | none, .value e => do
    let v ← e.eval ctx scope
    return (none, [([], v)])
  | some index, .value e => do
    let f ← index.family ctx scope fun frame _ => e.eval ctx frame
    return (f.domain, f.entries)
  | index, .entries items => do
    let domain ← IndexSet.domain? index ctx scope
    let entries ← addEntries d ctx scope domain items []
    return (domain, entries)
  | index, .matrix columns rows => do
    let domain ← IndexSet.domain? index ctx scope
    let columns ← Expr.evalElems columns ctx scope
    let entries ← addMatrix d ctx scope domain columns rows []
    return (domain, entries)
  | index, .read table => do
    let domain ← IndexSet.domain? index ctx scope
    let rows ← table.rows ctx true scope
    let entries ← located table.file.span (addRows d domain rows [])
    return (domain, entries)
  | index, .empty => do
    let domain ← IndexSet.domain? index ctx scope
    return (domain, [])

/-- The declared symbol. The default is evaluated first. -/
def eval (ctx : Context) (scope : Scope) : Eval Symbol := do
  let fallback ← evalOption d.fallback fun e => e.eval ctx scope
  let (domain, entries) ← d.entries ctx scope
  located d.span (symbol domain entries fallback)

end ParamDecl

/-! ## Variables -/

namespace VarType

def kind : VarType → VarKind
  | real => .continuous
  | integer => .integer
  | binary => .binary
  | implicitInteger | implicitBinary => .implicit

def isBinary : VarType → Bool
  | binary | implicitBinary => true
  | _ => false

end VarType

namespace VarDecl

/-- The bounds of a variable: from zero on, up to one if it is binary, unless declared otherwise.
Those of integral variables are rounded inwards. -/
def bounds (type : VarType) (lower upper : Option Number) : Number × Number :=
  let lower := lower.getD 0
  let upper := upper.getD (if type.isBinary then 1 else .plusInfinity)
  if type.kind = .continuous then (lower, upper)
  else (lower.onFinite fun q => q.ceil, upper.onFinite fun q => q.floor)

/-- Adds a variable to the model. -/
def add (d : VarDecl) (ctx : Context) (scope : Scope) (name : String) : Eval VarId := do
  let lower ← evalOption d.lower fun e => e.evalNumber ctx scope "bound"
  let upper ← evalOption d.upper fun e => e.evalNumber ctx scope "bound"
  if d.type.isBinary && (lower.isSome || upper.isSome) then fail (.boundedBinary name) d.span
  else
    let priority ← evalOption d.priority fun e => e.evalInteger ctx scope "priority"
    let startval ← evalOption d.startval fun e => e.evalRat ctx scope "startval"
    let (lower, upper) := bounds d.type lower upper
    onModel d.span (Build.addVariable ⟨name, d.type.kind, lower, upper, priority, startval, 0⟩)

/-- The declared family. -/
def eval (d : VarDecl) (ctx : Context) (scope : Scope) : Eval (Family VarId) :=
  match d.index with
  | none => do
    let v ← d.add ctx scope d.name.text
    return .scalar v
  | some index =>
    index.family ctx scope fun frame t =>
      d.add ctx frame (d.name.text ++ "[" ++ Tuple.bare t ++ "]")

end VarDecl

/-! ## Defines -/

/-- A parameter that appears again later in the list. -/
def repeatedName? : List String → List Name → Option Name
  | _, [] => none
  | seen, x :: rest => if x.text ∈ seen then some x else repeatedName? (x.text :: seen) rest

/-- The define of a declaration. Its parameters have to differ. -/
def DefineDecl.eval (d : DefineDecl) : Eval Define :=
  match repeatedName? [] d.params with
  | some x => Eval.fail (.repeatedParameter x.text) x.span
  | none => return ⟨d.kind, d.params.map Name.text, d.body⟩

end ModelLang
