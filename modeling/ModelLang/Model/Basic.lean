import ModelLang.Number.Arithmetic
import ModelLang.Statement
import ModelLang.Term

/-!
# ModelLang.Model.Basic

The optimization model that a program builds: variables with bounds, linear rows, special ordered
sets and an objective. Variables, rows and sets share one space of names; a name that is taken
gets the smallest free number after it.
-/

namespace ModelLang

inductive VarKind where
  | continuous
  | integer
  | binary
  /-- Integral in every feasible solution, so that a solver may relax it. -/
  | implicit
deriving DecidableEq, Inhabited

def VarKind.text : VarKind → String
  | continuous => "Continuous"
  | integer => "Integer"
  | binary => "Binary"
  | implicit => "Implicit"

structure Variable where
  name : String
  kind : VarKind
  lower : Number
  upper : Number
  priority : Option Int
  startval : Option Rat
  /-- The coefficient in the objective. -/
  objective : Rat
deriving DecidableEq, Inhabited

/-- Which sides of a row bound its term. -/
inductive Relation where
  | atLeast
  | atMost
  | equal
  | between
deriving DecidableEq, Inhabited

structure Row where
  name : String
  /-- The variable part; the constant is in the bounds. -/
  term : Term
  relation : Relation
  lhs : Number
  rhs : Number
  flags : ConFlags
deriving DecidableEq, Inhabited

/-- A special ordered set, with a weight for each variable. -/
structure Sos where
  name : String
  type : SosType
  priority : Int
  entries : List (VarId × Rat)
deriving DecidableEq, Inhabited

def Sense.text : Sense → String
  | minimize => "minimize"
  | maximize => "maximize"

structure Objective where
  sense : Sense
  name : String
  term : Term
deriving DecidableEq, Inhabited

/-- The names handed out, each with the last number tried after it, the newest in front. -/
abbrev Names := List (String × Nat)

namespace Names

def get? (names : Names) (name : String) : Option Nat :=
  (names.find? fun e => e.1 = name).map Prod.snd

def taken (names : Names) (name : String) : Bool :=
  names.any fun e => e.1 = name

/-- `base` with a number after it. -/
def numbered (base : String) (k : Nat) : String :=
  base ++ "_" ++ toString k

/-- The first number from `k` on that is free after `base`, among the next `bound` of them. -/
def firstFree (names : Names) (base : String) (k : Nat) : Nat → Nat
  | 0 => k
  | bound + 1 =>
    if names.taken (numbered base k) then firstFree names base (k + 1) bound else k

/-- Hands out `base`, or `base` with the smallest free number if it is taken. -/
def fresh (names : Names) (base : String) : String × Names :=
  match names.get? base with
  | none => (base, (base, 0) :: names)
  | some last =>
    let k := firstFree names base (last + 1) names.length
    (numbered base k, (numbered base k, 0) :: (base, k) :: names)

end Names

structure Model where
  vars : Array Variable
  rows : List Row
  sos : List Sos
  objective : Option Objective
  names : Names
deriving Inhabited

namespace Model

def empty : Model := ⟨#[], [], [], none, []⟩

/-- A variable of the model, by its number. -/
def get? (m : Model) (v : VarId) : Option Variable :=
  m.vars[v]?

def variableName (m : Model) (v : VarId) : String :=
  ((m.get? v).map Variable.name).getD ""

/-- Adds a variable under a free name, and gives its number. -/
def addVariable (m : Model) (x : Variable) : VarId × Model :=
  let (name, names) := m.names.fresh x.name
  (m.vars.size, { m with vars := m.vars.push { x with name := name }, names := names })

/-- Adds a row under a free name. -/
def addRow (m : Model) (r : Row) : Model :=
  let (name, names) := m.names.fresh r.name
  { m with rows := m.rows ++ [{ r with name := name }], names := names }

/-- Adds the row that compares `t` with zero; the constant of `t` moves to the other side. -/
def addLinear (m : Model) (name : String) (t : Term) (rel : ConRel) (flags : ConFlags) : Model :=
  let bound := Number.finite (-t.constant)
  m.addRow
    (match rel with
    | .le => ⟨name, t.linearPart, .atMost, .minusInfinity, bound, flags⟩
    | .ge => ⟨name, t.linearPart, .atLeast, bound, .plusInfinity, flags⟩
    | .eq => ⟨name, t.linearPart, .equal, bound, bound, flags⟩)

/-- Adds a special ordered set under a free name. -/
def addSos (m : Model) (s : Sos) : Model :=
  let (name, names) := m.names.fresh s.name
  { m with sos := m.sos ++ [{ s with name := name }], names := names }

/-- Sets the objective, which each variable of it learns its coefficient from. -/
def setObjective (m : Model) (o : Objective) : Except Cause Model :=
  if m.objective.isSome then .error .duplicateObjective
  else
    let vars := o.term.coefs.foldl
      (fun vs c => vs.modify c.1 fun x => { x with objective := x.objective + c.2 }) m.vars
    .ok { m with vars := vars, objective := some o }

def findVariable? (m : Model) (name : String) : Option VarId :=
  m.vars.findIdx? fun x => x.name = name

def findRow? (m : Model) (name : String) : Option Row :=
  m.rows.find? fun r => r.name = name

def findSos? (m : Model) (name : String) : Option Sos :=
  m.sos.find? fun s => s.name = name

/-! ## The model as text -/

/-- A term with the names of its variables. -/
def termText (m : Model) (t : Term) : String :=
  t.shownWith m.variableName

def rowText (m : Model) (r : Row) : String :=
  let term := m.termText r.term
  let body :=
    match r.relation with
    | .atLeast => s!"{term} >= {r.lhs.text}"
    | .atMost => s!"{term} <= {r.rhs.text}"
    | .equal => s!"{term} == {r.rhs.text}"
    | .between => s!"{r.lhs.text} <= {term} <= {r.rhs.text}"
  s!"  {r.name}: {body}"

def variableText (x : Variable) : String :=
  s!"  {x.name} {x.kind.text} [{x.lower.text}, {x.upper.text}]"

/-- The whole model, one line for each of its parts. -/
def text (m : Model) : String :=
  let objective :=
    match m.objective with
    | none => []
    | some o => [s!"{o.sense.text} {o.name}: {m.termText o.term}"]
  String.intercalate "\n" (objective
    ++ [s!"variables: {m.vars.size}"] ++ m.vars.toList.map variableText
    ++ [s!"constraints: {m.rows.length}"] ++ m.rows.map m.rowText
    ++ [s!"sos: {m.sos.length}"])

end Model

end ModelLang
