import ModelLang.Expr

/-!
# ModelLang.Statement

Declarations, constraints and commands.
-/

namespace ModelLang

inductive SetBody where
  | value (e : Expr)
  /-- One set per index tuple, `<1> {1,2}, <2> {3}`. -/
  | entries (items : List (Expr × Expr))
  /-- The subsets with `least` to `most` members, or with exactly `least`. -/
  | subsets (set least : Expr) (most : Option Expr)
  | powerset (set : Expr)
deriving Inhabited

structure SetDecl where
  name : Name
  index : Option IndexSet
  body : SetBody
  span : Span
deriving Inhabited

inductive ParamBody where
  | value (e : Expr)
  | entries (items : List (Expr × Expr))
  /-- A row has its key and its values, which stand in the columns' order. -/
  | matrix (columns : List Expr) (rows : List (List Expr × List Expr))
  | read (table : ReadSpec)
  /-- Nothing but a default is given. -/
  | empty
deriving Inhabited

structure ParamDecl where
  name : Name
  index : Option IndexSet
  body : ParamBody
  fallback : Option Expr
  span : Span
deriving Inhabited

inductive VarType where
  | real | integer | binary | implicitInteger | implicitBinary
deriving DecidableEq, Inhabited

structure VarDecl where
  name : Name
  index : Option IndexSet
  type : VarType
  lower : Option Expr
  upper : Option Expr
  priority : Option Expr
  startval : Option Expr
  span : Span
deriving Inhabited

inductive Sense where
  | minimize | maximize
deriving DecidableEq, Inhabited

structure ObjectiveDecl where
  sense : Sense
  name : Name
  term : Expr
  span : Span
deriving Inhabited

/-- How the sides of a constraint relate. -/
inductive ConRel where
  | le | ge | eq
deriving DecidableEq, Inhabited

/-- The attributes of a constraint. -/
structure ConFlags where
  scale : Bool
  separate : Bool
  checkonly : Bool
  indicator : Bool
deriving DecidableEq, Inhabited

namespace ConFlags

def empty : ConFlags := ⟨false, false, false, false⟩

def union (a b : ConFlags) : ConFlags :=
  ⟨a.scale || b.scale, a.separate || b.separate, a.checkonly || b.checkonly,
    a.indicator || b.indicator⟩

/-- The flags as a number: scale 1, separate 2, checkonly 4, indicator 8. -/
def bits (f : ConFlags) : Nat :=
  f.scale.toNat + 2 * f.separate.toNat + 4 * f.checkonly.toNat + 8 * f.indicator.toNat

end ConFlags

/-- What one case of a conditional constraint requires. -/
structure Branch where
  lhs : Expr
  rel : ConRel
  rhs : Expr
deriving Inhabited

inductive Constraint where
  | plain (lhs : Expr) (rel : ConRel) (rhs : Expr) (flags : ConFlags)
  | range (low : Expr) (lowerRel : ConRel) (term : Expr) (upperRel : ConRel) (high : Expr)
      (flags : ConFlags)
  | vif (condition : Expr) (yes : Branch) (no : Option Branch) (flags : ConFlags)
  | all (parts : List Constraint)
  | each (index : IndexSet) (body : Constraint)
  | cond (condition : Expr) (yes : Constraint) (no : Option Constraint)
deriving Inhabited

structure SubtoDecl where
  name : Name
  body : Constraint
  span : Span
deriving Inhabited

inductive SosType where
  | one | two
deriving DecidableEq, Inhabited

inductive SosBody where
  | weighted (entries : List (Expr × Expr))
  /-- A term whose coefficients are the weights. -/
  | term (e : Expr)
  | each (index : IndexSet) (body : SosBody)
deriving Inhabited

structure SosDecl where
  name : Name
  type : SosType
  priority : Option Expr
  body : SosBody
  span : Span
deriving Inhabited

inductive DefineKind where
  | numb | strg | bool | set
deriving DecidableEq, Inhabited

structure DefineDecl where
  kind : DefineKind
  name : Name
  params : List Name
  body : Expr
  span : Span
deriving Inhabited

inductive Statement where
  | set (decl : SetDecl)
  | param (decl : ParamDecl)
  | var (decl : VarDecl)
  | objective (decl : ObjectiveDecl)
  | subto (decl : SubtoDecl)
  | sos (decl : SosDecl)
  | define (decl : DefineDecl)
  | print (items : List Expr) (span : Span)
  | check (condition : Expr) (span : Span)
  /-- Runs the body once for each tuple. -/
  | each (index : IndexSet) (body : Statement) (span : Span)
deriving Inhabited

def Statement.span : Statement → Span
  | set d => d.span
  | param d => d.span
  | var d => d.span
  | objective d => d.span
  | subto d => d.span
  | sos d => d.span
  | define d => d.span
  | print _ s | check _ s | each _ _ s => s

end ModelLang
