import ModelLang.Model.Build

/-!
# ModelLang.Model.Conditional

Conditional constraints and absolute values as plain linear rows. Every comparison of a condition
gets a binary variable that is one exactly when it holds, and so does every connective. A branch
that is not selected is relaxed by the bounds of its term, and so every variable involved needs
finite bounds. The terms of a condition have to be integral, which makes `t < 0` the same as
`t + 1 <= 0`.
-/

namespace ModelLang

/-- A condition on the values of terms; an atom compares its term with zero. -/
inductive Condition where
  | atom (t : Term) (op : Comparison)
  | and (a b : Condition)
  | or (a b : Condition)
  | xor (a b : Condition)
  | not (a : Condition)

/-- That a term compares with zero in a certain way. -/
structure Requirement where
  term : Term
  rel : ConRel

structure Conditional where
  name : String
  condition : Condition
  yes : Requirement
  no : Option Requirement
  flags : ConFlags

namespace Model

/-- The bounds of a variable if both are finite. -/
def finiteBounds? (m : Model) (v : VarId) : Option (Rat × Rat) :=
  match m.get? v with
  | some ⟨_, _, .finite l, .finite u, _, _, _⟩ => some (l, u)
  | _ => none

/-- The least and the greatest value of the variable part of a term within the bounds of its
variables, or the name of a variable without finite bounds. -/
def coefBounds (m : Model) : Coefs → Except String (Rat × Rat)
  | [] => .ok (0, 0)
  | (v, q) :: rest =>
    match m.finiteBounds? v with
    | none => .error (m.variableName v)
    | some (l, u) =>
      match m.coefBounds rest with
      | .error name => .error name
      | .ok (low, high) =>
        if 0 < q then .ok (q * l + low, q * u + high) else .ok (q * u + low, q * l + high)

/-- The least and the greatest value of a term within the bounds of its variables. -/
def bounds (m : Model) (t : Term) : Except String (Rat × Rat) :=
  match m.coefBounds t.coefs with
  | .ok (low, high) => .ok (t.constant + low, t.constant + high)
  | .error name => .error name

/-- Whether a variable takes integral values only. -/
def isIntegral (m : Model) (v : VarId) : Bool :=
  match m.get? v with
  | some x => x.kind ≠ .continuous
  | none => false

/-- What keeps a term from taking integral values only. -/
def integralityFault? (m : Model) (t : Term) : Option Cause :=
  if t.constant.den ≠ 1 then some .fractionalCondition
  else
    (t.coefs.find? fun c => ! m.isIntegral c.1 || c.2.den ≠ 1).map fun c =>
      .conditionNotIntegral (m.variableName c.1)

end Model

namespace Build

def one : Term := .ofConstant 1

/-- The bounds of a term; `cause` blames a variable without finite bounds. -/
def bounds (cause : String → Cause) (t : Term) : Build (Rat × Rat) := fun m =>
  match m.bounds t with
  | .ok b => (.ok b, m)
  | .error name => (.error (cause name), m)

/-- Adds the row that compares `t` with zero, named after `base`. -/
def row (base suffix : String) (flags : ConFlags) (t : Term) (rel : ConRel) : Build Unit :=
  addLinear (base ++ "_" ++ suffix) t rel flags

/-- Adds a variable named after `base`, and gives it as a term. -/
def helper (base suffix : String) (kind : VarKind) (lower upper : Number) : Build Term := do
  let v ← addVariable ⟨base ++ "_" ++ suffix, kind, lower, upper, none, none, 0⟩
  return .ofVar v

variable (base : String) (flags : ConFlags)

def indicatorVariable : Build Term :=
  helper base "vif" .binary 0 1

/-- A binary `r` that is one exactly when the integral `t` is at most zero. -/
def atMostZero (t : Term) : Build Term := do
  let (low, high) ← bounds .conditionUnbounded t
  let r ← indicatorVariable base
  -- r = 1 gives t <= 0, from t + high * r - high <= 0
  row base "vif_c" flags ((t.add (r.scale high)).sub (.ofConstant high)) .le
  -- r = 0 gives t >= 1, from t - (low - 1) * r - 1 >= 0
  row base "vif_c" flags ((t.sub (r.scale (low - 1))).sub one) .ge
  return r

/-- A binary that is one exactly when `a` and `b` are. -/
def conjunction (a b : Term) : Build Term := do
  let r ← indicatorVariable base
  row base "vif_and" flags (r.sub a) .le
  row base "vif_and" flags (r.sub b) .le
  row base "vif_and" flags (((a.add b).sub r).sub one) .le
  return r

/-- A binary that is one exactly when `a` or `b` is. -/
def disjunction (a b : Term) : Build Term := do
  let r ← indicatorVariable base
  row base "vif_or" flags (r.sub a) .ge
  row base "vif_or" flags (r.sub b) .ge
  row base "vif_or" flags ((r.sub a).sub b) .le
  return r

/-- A binary that is one exactly when one of `a` and `b` is. -/
def exclusion (a b : Term) : Build Term := do
  let r ← indicatorVariable base
  row base "vif_xor" flags ((r.sub a).sub b) .le
  row base "vif_xor" flags ((r.sub a).add b) .ge
  row base "vif_xor" flags ((r.sub b).add a) .ge
  row base "vif_xor" flags (((r.add a).add b).sub (.ofConstant 2)) .le
  return r

/-- Refuses a term that may take values other than integers. -/
def requireIntegral (t : Term) : Build Unit := fun m =>
  match m.integralityFault? t with
  | some cause => (.error cause, m)
  | none => (.ok (), m)

/-- A 0/1 term that is one exactly when `t` is zero. -/
def zeroIndicator (t : Term) : Build Term := do
  let a ← atMostZero base flags t
  let b ← atMostZero base flags t.neg
  conjunction base flags a b

/-- A 0/1 term that is one exactly when `t` compares with zero as `op` says. -/
def atom (t : Term) (op : Comparison) : Build Term := do
  requireIntegral t
  match op with
  | .le => atMostZero base flags t
  | .lt => atMostZero base flags (t.add one)
  | .ge => atMostZero base flags t.neg
  | .gt => atMostZero base flags (t.neg.add one)
  | .eq => zeroIndicator base flags t
  | .ne => do
    let e ← zeroIndicator base flags t
    return one.sub e

/-- A 0/1 term that is one exactly when the condition holds. -/
def indicator : Condition → Build Term
  | .atom t op => atom base flags t op
  | .not c => do
    let a ← indicator c
    return one.sub a
  | .and c d => do
    let a ← indicator c
    let b ← indicator d
    conjunction base flags a b
  | .or c d => do
    let a ← indicator c
    let b ← indicator d
    disjunction base flags a b
  | .xor c d => do
    let a ← indicator c
    let b ← indicator d
    exclusion base flags a b

/-- Adds `t` compared with zero, relaxed by `slack` unless the 0/1 term `selected` is one, or
unless it is zero if not `active`. -/
def relaxed (suffix : String) (t selected : Term) (active : Bool) (slack : Rat) (rel : ConRel) :
    Build Unit :=
  row base suffix flags
    (if active then (t.add (selected.scale slack)).sub (.ofConstant slack)
    else t.sub (selected.scale slack)) rel

/-- Enforces a requirement when `selected` is one, or when it is zero if not `active`. -/
def branch (r : Requirement) (selected : Term) (active : Bool) : Build Unit := do
  let (low, high) ← bounds .conditionUnbounded r.term
  let suffix := if active then "vif_then" else "vif_else"
  match r.rel with
  | .le => relaxed base flags suffix r.term selected active high .le
  | .ge => relaxed base flags suffix r.term selected active low .ge
  | .eq => do
    relaxed base flags suffix r.term selected active high .le
    relaxed base flags suffix r.term selected active low .ge

/-- Adds the rows of a conditional constraint. -/
def conditional (c : Conditional) : Build Unit := do
  let selected ← indicator c.name c.flags c.condition
  branch c.name c.flags c.yes selected true
  match c.no with
  | none => return ()
  | some r => branch c.name c.flags r selected false

/-- A term that equals the absolute value of `t`. If the sign of `t` is open, a binary variable
tells it and a continuous one takes the value. -/
def absolute (t : Term) : Build Term := do
  let (low, high) ← bounds .absoluteUnbounded t
  if 0 ≤ low then return t
  else if high ≤ 0 then return t.neg
  else do
    let s ← helper "vabs" "sign" .binary 0 1
    let r ← helper "vabs" "abs" .continuous 0 (.finite (if -low ≤ high then high else -low))
    let add := row "vabs" "c" .empty
    -- s = 1 gives t >= 0, s = 0 gives t <= 0
    add ((t.add (s.scale low)).sub (.ofConstant low)) .ge
    add (t.sub (s.scale high)) .le
    add (r.sub t) .ge
    add (r.add t) .ge
    -- s = 1 gives r <= t, s = 0 gives r <= -t
    add (((r.sub t).add (.ofConstant (2 * low))).sub (s.scale (2 * low))) .le
    add ((r.add t).sub (s.scale (2 * high))) .le
    return r

end Build

end ModelLang
