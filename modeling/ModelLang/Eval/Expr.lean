import ModelLang.Eval.Builtin
import ModelLang.Number.Integral
import ModelLang.Table.Row
import ModelLang.TupleSet.Range

/-!
# ModelLang.Eval.Expr

The value of an expression. Operands are evaluated from left to right, and the first failure ends
the evaluation. The recursion is on the expression alone: the body of a define, which is not a part
of the expression that calls it, is run by `Context.expand`.
-/

namespace ModelLang

/-! ## Operators -/

namespace Value

/-- The value of an operator on evaluated operands. -/
def binary (op : BinaryOp) (a b : Value) : Except Cause Value :=
  match op with
  | .add => a.add b
  | .sub => a.sub b
  | .mul => a.mul b
  | .div => a.div b
  | .mod => onRats "mod" remainder a b
  | .intDiv => onRats "div" quotient a b
  | .pow => a.pow b
  | .set op => setOp op a b
  | .and => connective "and" (· && ·)
  | .or => connective "or" (· || ·)
  | .xor => connective "xor" (· != ·)
  | .compare op => (op.onValues a b).map .truth
  | .mem =>
    match b.asSet "in" with
    | .error e => .error e
    | .ok s => (a.asTuple "in").map fun t => .truth (s.contains t)
where
  connective (name : String) (f : Bool → Bool → Bool) : Except Cause Value :=
    match a.asTruth name with
    | .error e => .error e
    | .ok x => (b.asTruth name).map fun y => .truth (f x y)

def unary (op : UnaryOp) (v : Value) : Except Cause Value :=
  match op with
  | .neg => v.neg
  | .not => (v.asTruth "not").map fun b => .truth (!b)
  | .factorial =>
    match v.asRat "!" with
    | .ok q => (factorial q).map ofRat
    | .error e => .error e

/-- The places that a projection keeps. -/
def asPositions (v : Value) : Except Cause (List Nat) :=
  match v.asTuple "proj" with
  | .error e => .error e
  | .ok t => t.mapM fun
    | .number q => count? q
    | .text _ => .error (.typeMismatch "proj" "number" "string")

end Value

/-- The truth value that decides a connective without its second operand. -/
def BinaryOp.deciding? : BinaryOp → Option Bool
  | .and => some false
  | .or => some true
  | _ => none

namespace Aggregate

def name : Aggregate → String
  | sum => "sum" | prod => "prod" | min => "min" | max => "max"

/-- The result over nothing, for those that have one. -/
def start? : Aggregate → Option Value
  | sum => some (.ofRat 0)
  | prod => some (.ofRat 1)
  | min | max => none

/-- The better of two values, the later one in case of a tie for the greatest. -/
def better (kind : Aggregate) (acc v : Value) : Except Cause Value := do
  let n ← v.asNumber kind.name
  let best ← acc.asNumber kind.name
  return if decide (n < best) = decide (kind = min) then v else acc

/-- The result with one more value. -/
def step (kind : Aggregate) (acc : Option Value) (v : Value) : Except Cause Value :=
  match kind, acc with
  | sum, some acc => acc.add v
  | prod, some acc => acc.mul v
  | kind, some acc => kind.better acc v
  | kind, none => (v.asNumber kind.name).map fun _ => v

end Aggregate

namespace DefineKind

def typeName : DefineKind → String
  | numb => "number" | strg => "string" | bool => "boolean" | set => "set"

/-- Whether a value is of the declared type. Terms count as numbers. -/
def accepts : DefineKind → Value → Bool
  | numb, .number _ | numb, .term _ | strg, .string _ | bool, .truth _ | set, .set _ => true
  | _, _ => false

end DefineKind

/-- The tuples with the `k` best scores. Equal scores stay in order. -/
def bestTuples (greatest : Bool) (k : Nat) (scored : List (Number × Tuple)) : List Tuple :=
  let sorted := scored.mergeSort fun a b =>
    if greatest then decide (b.1 ≤ a.1) else decide (a.1 ≤ b.1)
  (sorted.take k).map Prod.snd

namespace Context

/-- The value of a declared symbol at an index. -/
def lookup (ctx : Context) (name : String) (index : Tuple) : Except Cause Value :=
  match ctx.symbols.get name with
  | .ok s => s.lookup name index
  | .error e => .error e

/-- The define that a call with so many arguments runs. -/
def callee (ctx : Context) (name : String) (given : Nat) : Except Cause Define :=
  match ctx.symbols.get name with
  | .error e => .error e
  | .ok (.define d) =>
    if d.params.length ≠ given then .error (.argumentCount name d.params.length given)
    else if name ∈ ctx.active then .error (.recursiveDefine name)
    else .ok d
  | .ok s => .error (.typeMismatch name "define" s.kindName)

end Context

namespace Table

/-- What a template must not lack or have, depending on whether values are wanted. -/
def Template.fault? (template : Template) (text : String) (withValue : Bool) : Option Cause :=
  match withValue, template.value with
  | true, none => some (.noValueColumn text)
  | false, some _ => some (.spareValueColumn text)
  | _, _ => none

/-- The template of a text, with a value column exactly if values are wanted. -/
def templateFor (text : String) (withValue : Bool) : Except Cause Template :=
  match Template.ofText text with
  | .error e => .error e
  | .ok template =>
    match template.fault? text withValue with
    | some cause => .error cause
    | none => .ok template

/-- The options with one more of them set to the value given for it. -/
def Options.set (patterns : Patterns) (options : Options) (key : ReadKey) (v : Value) :
    Except Cause Options :=
  match key with
  | .skip => (v.asCount "skip").map fun n => { options with skip := n }
  | .use => (v.asCount "use").map fun n => { options with limit := some n }
  | .comment => (v.asString "comment").map fun s => { options with comment := s.toList }
  | .matching =>
    match v.asString "match" with
    | .error e => .error e
    | .ok s =>
      match patterns s.toList with
      | some p => .ok { options with pattern := some p }
      | none => .error (.badPattern s)

/-- The rows of a table that a source holds. -/
def load (source : Source) (name : String) (template : Template) (options : Options) :
    Except Cause (List Row) :=
  match source.text name with
  | .error e => .error e
  | .ok text => rows name template options text.toList

end Table

/-! ## Evaluation -/

open Eval

mutual

/-- The value of an expression. -/
def Expr.eval (ctx : Context) : Expr → Scope → Eval Value
  | .number q _, _ => return .ofRat q
  | .infinity _, _ => return .number .plusInfinity
  | .string s _, _ => return .string s
  | .name x span, scope =>
    match scope.lookup? x with
    | some v => return v
    | none => located span (ctx.lookup x [])
  | .subscript x args span, scope => do
    let index ← Expr.concat ctx (Value.asTuple "subscript") args scope
    located span (ctx.lookup x index)
  | .call x args span, scope => do
    let d ← located span (ctx.callee x args.length)
    let vs ← Expr.values ctx args scope
    let v ← ctx.expand x d (scope.bindAll d.params vs)
    if d.kind.accepts v then return v
    else fail (.typeMismatch x d.kind.typeName v.typeName) span
  | .builtin f args span, scope => do
    let vs ← Expr.values ctx args scope
    f.call vs span
  | .tuple items _, scope => do
    let t ← Expr.concat ctx (fun v => (v.asElem "tuple").map fun e => [e]) items scope
    return .tuple t
  | .setLiteral items _, scope => do
    let s ← Expr.members ctx items scope .empty
    return .set s
  | .range first last step closed span, scope => do
    let a ← first.eval ctx scope
    let a ← located first.span (a.asRat "range")
    let b ← last.eval ctx scope
    let b ← located last.span (b.asRat "range")
    let s ← Expr.optional ctx step scope
    let s ← convertOr 1 (Value.asRat "range") s
    let r ← located span (TupleSet.range a b s closed)
    return .set r
  | .setBuilder index member _, scope => do
    let s ← index.evalSet ctx scope
    let r ← foldTuples (index.enter ctx scope)
      (fun acc frame t => do
        let m ← Expr.optional ctx member frame
        let m ← convertOr t (Value.asTuple "set") m
        located index.span (acc.insert m))
      s.tuples TupleSet.empty
    return .set r
  | .proj set positions span, scope => do
    let s ← set.eval ctx scope
    let s ← located set.span (s.asSet "set")
    let ps ← positions.eval ctx scope
    let ps ← located positions.span ps.asPositions
    let r ← located span (s.proj ps)
    return .set r
  | .indexSetOf x _, _ =>
    located x.span <|
      match ctx.symbols.get x.text with
      | .ok s => (s.indexSet x.text).map .set
      | .error e => .error e
  | .binary op lhs rhs span, scope =>
    match op.deciding? with
    | some decisive => do
      let name := if decisive then "or" else "and"
      let a ← lhs.eval ctx scope
      let a ← located lhs.span (a.asTruth name)
      if a = decisive then return .truth a
      else do
        let b ← rhs.eval ctx scope
        let b ← located rhs.span (b.asTruth name)
        return .truth b
    | none => do
      let a ← lhs.eval ctx scope
      let b ← rhs.eval ctx scope
      located span (a.binary op b)
  | .unary op arg span, scope => do
    let v ← arg.eval ctx scope
    located span (v.unary op)
  | .aggregate kind index body span, scope => do
    let s ← index.evalSet ctx scope
    let r ← foldTuples (index.enter ctx scope)
      (fun acc frame _ => do
        let v ← body.eval ctx frame
        let acc ← located body.span (kind.step acc v)
        return some acc)
      s.tuples kind.start?
    match r with
    | some v => return v
    | none => fail (.emptyDomain kind.name) span
  | .nonempty index _, scope => do
    let s ← index.evalSet ctx scope
    let found ← anyTuple (index.enter ctx scope) s.tuples
    return .truth found
  | .argExtremum greatest count index body span, scope => do
    let op := if greatest then "argmax" else "argmin"
    let k ← Expr.optional ctx count scope
    let k ← convertOr 1 (Value.asCount op) k
    let s ← index.evalSet ctx scope
    let scored ← foldTuples (index.enter ctx scope)
      (fun acc frame t => do
        let v ← body.eval ctx frame
        let n ← located body.span (v.asNumber op)
        return (n, t) :: acc)
      s.tuples []
    let r ← located span (TupleSet.ofTuples (bestTuples greatest k scored.reverse))
    return .set r
  | .indexedSetOp op index body _, scope => do
    let s ← index.evalSet ctx scope
    let r ← foldTuples (index.enter ctx scope)
      (fun (acc : Option TupleSet) frame _ => do
        let v ← body.eval ctx frame
        let b ← located body.span (v.asSet "set")
        match acc with
        | none => return some b
        | some a => do
          let c ← located body.span (if op = .inter then a.inter b else a.union b)
          return some c)
      s.tuples none
    return .set (r.getD .empty)
  | .conditional condition yes no _, scope => do
    let c ← condition.eval ctx scope
    let c ← located condition.span (c.asTruth "if")
    if c then yes.eval ctx scope else no.eval ctx scope
  | .read table span, scope => do
    let rows ← table.rows ctx false scope
    let r ← located span (TupleSet.ofTuples (rows.map Prod.fst))
    return .set r

/-- The values of several expressions. -/
def Expr.values (ctx : Context) : List Expr → Scope → Eval (List Value)
  | [], _ => return []
  | e :: rest, scope => do
    let v ← e.eval ctx scope
    let vs ← Expr.values ctx rest scope
    return v :: vs

/-- The tuples that `convert` makes of several expressions, joined into one. -/
def Expr.concat (ctx : Context) (convert : Value → Except Cause Tuple) :
    List Expr → Scope → Eval Tuple
  | [], _ => return []
  | e :: rest, scope => do
    let v ← e.eval ctx scope
    let t ← located e.span (convert v)
    let ts ← Expr.concat ctx convert rest scope
    return t ++ ts

/-- The value of an optional expression, with its place. -/
def Expr.optional (ctx : Context) : Option Expr → Scope → Eval (Option (Value × Span))
  | none, _ => return none
  | some e, scope => do
    let v ← e.eval ctx scope
    return some (v, e.span)

/-- A set with further members. -/
def Expr.members (ctx : Context) : List Expr → Scope → TupleSet → Eval TupleSet
  | [], _, s => return s
  | e :: rest, scope, s => do
    let v ← e.eval ctx scope
    let t ← located e.span (v.asTuple "set")
    let s ← located e.span (s.insert t)
    Expr.members ctx rest scope s

/-- Matches a pattern with the components of a tuple of the same length. The result is the scope
with the names that the pattern binds; later items see them. -/
def Expr.matchTuple (ctx : Context) : List Expr → Tuple → Scope → Eval (Option Scope)
  | item :: items, c :: cs, scope =>
    match item.name? with
    | some x => Expr.matchTuple ctx items cs (scope.bind x c.toValue)
    | none => do
      let v ← item.eval ctx scope
      let e ← located item.span (v.asElem "tuple")
      if e = c then Expr.matchTuple ctx items cs scope else return none
  | _, _, scope => return some scope

/-- The set that an index set ranges over, before its pattern and its condition. -/
def IndexSet.evalSet (ctx : Context) : IndexSet → Scope → Eval TupleSet
  | .mk _ set _ _, scope => do
    let s ← set.eval ctx scope
    located set.span (s.asSet "set")

/-- Matches an optional pattern with a tuple, which has to be of the same length. -/
def Expr.matchPattern (ctx : Context) :
    Option (List Expr) → Span → Tuple → Scope → Eval (Option Scope)
  | none, _, _, scope => return some scope
  | some items, span, t, scope =>
    if items.length ≠ t.length then fail (.arityMismatch items.length t.length) span
    else Expr.matchTuple ctx items t scope

/-- The scope in which a tuple is visited, if the index set admits it. -/
def IndexSet.enter (ctx : Context) : IndexSet → Scope → Tuple → Eval (Option Scope)
  | .mk pattern _ condition span, scope, t => do
    match ← Expr.matchPattern ctx pattern span t scope with
    | none => return none
    | some frame => do
      let c ← Expr.optional ctx condition frame
      let c ← convertOr true (Value.asTruth "with") c
      return if c then some frame else none

/-- The rows of a table, with or without values. -/
def ReadSpec.rows (ctx : Context) (withValue : Bool) : ReadSpec → Scope → Eval (List Table.Row)
  | .mk file template options, scope => do
    let name ← file.eval ctx scope
    let name ← located file.span (name.asString "read")
    let text ← template.eval ctx scope
    let text ← located template.span (text.asString "read")
    let columns ← located template.span (Table.templateFor text withValue)
    let options ← ReadOption.setAll ctx options scope .default
    located file.span (Table.load ctx.tables name columns options)

/-- The options of a table after those that are still to be evaluated. -/
def ReadOption.setAll (ctx : Context) :
    List ReadOption → Scope → Table.Options → Eval Table.Options
  | [], _, options => return options
  | .mk key e :: rest, scope, options => do
    let v ← e.eval ctx scope
    let options ← located e.span (options.set ctx.tables.patterns key v)
    ReadOption.setAll ctx rest scope options

end

namespace Context

/-- Looks up declared symbols, with so many expansions of defines inside one another. -/
def nested (symbols : Symbols) (tables : Table.Source) : Nat → List String → Context
  | 0, active => ⟨symbols, tables, active, fun x d _ => fail (.recursiveDefine x) d.body.span⟩
  | depth + 1, active =>
    ⟨symbols, tables, active, fun x d scope =>
      d.body.eval (nested symbols tables depth (x :: active)) scope⟩

/-- Looks up declared symbols. No define is expanded inside itself, so that expansions nest no
deeper than there are symbols. -/
def ofSymbols (symbols : Symbols) (tables : Table.Source) : Context :=
  nested symbols tables symbols.length []

end Context

end ModelLang
