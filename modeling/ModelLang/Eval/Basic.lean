import ModelLang.Location
import ModelLang.Model.Conditional
import ModelLang.Number.Random
import ModelLang.Symbol
import ModelLang.Table.Source

/-!
# ModelLang.Eval.Basic

The setting of an evaluation: what it can look up, what it can change, and how it fails. The only
thing in a model that an expression changes are the variables and rows of absolute values.
-/

namespace ModelLang

/-- Why and where an evaluation failed. -/
structure Failure where
  cause : Cause
  span : Span

def Failure.message (f : Failure) : String :=
  s!"{f.cause.message} at {f.span.text}"

/-- What an evaluation changes. -/
structure Workspace where
  model : Model
  random : Random
deriving Inhabited

abbrev Eval := Step Workspace Failure

/-- What an evaluation can look up. Of the defines, those in `active` are being expanded, the
innermost first, and `expand` runs the body of a further one. -/
structure Context where
  symbols : Symbols
  tables : Table.Source
  active : List String
  expand : String → Define → Scope → Eval Value

namespace Eval

variable {α : Type}

/-- Gives a result of values the place to blame for its failure. -/
def located (span : Span) (x : Except Cause α) : Eval α :=
  Step.ofExcept (x.mapError fun cause => ⟨cause, span⟩)

def fail (cause : Cause) (span : Span) : Eval α :=
  Step.fail ⟨cause, span⟩

/-- What `convert` makes of a value with its place, or the fallback if there is no value. -/
def convertOr (fallback : α) (convert : Value → Except Cause α) : Option (Value × Span) → Eval α
  | none => Step.pure fallback
  | some (v, span) => located span (convert v)

/-- Work on the model; `span` is to blame if it fails. -/
def onModel (span : Span) (x : Build α) : Eval α :=
  (x.onPart Workspace.model fun m w => { w with model := m }).mapError fun cause => ⟨cause, span⟩

/-- The next random float. -/
def nextRandom : Eval Float := fun w =>
  match w.random.next with
  | (x, random) => (.ok x, { w with random := random })

theorem located_ok {span : Span} {x : Except Cause α} {w w' : Workspace} {a : α}
    (h : located span x w = (.ok a, w')) : x = .ok a ∧ w' = w := by
  cases x with
  | ok b =>
    cases h
    exact ⟨rfl, rfl⟩
  | error c => cases h

theorem located_error {span : Span} {x : Except Cause α} {w w' : Workspace} {f : Failure}
    (h : located span x w = (.error f, w')) : x = .error f.cause := by
  cases x with
  | ok b => cases h
  | error c =>
    cases h
    rfl

theorem onModel_ok {span : Span} {x : Build α} {w w' : Workspace} {a : α}
    (h : onModel span x w = (.ok a, w')) : x w.model = (.ok a, w'.model) := by
  unfold onModel Step.mapError Step.onPart at h
  cases hx : x w.model with
  | mk r m =>
    rw [hx] at h
    cases r with
    | ok b =>
      cases h
      rfl
    | error c => cases h

end Eval

section Iteration

variable {m : Type → Type} [Monad m] {β : Type}

/-- Visits those tuples that are admitted, in order. `enter` gives the scope of the visit. -/
def foldTuples (enter : Tuple → m (Option Scope)) (visit : β → Scope → Tuple → m β) :
    List Tuple → β → m β
  | [], acc => return acc
  | t :: rest, acc => do
    match ← enter t with
    | none => foldTuples enter visit rest acc
    | some frame =>
      let acc ← visit acc frame t
      foldTuples enter visit rest acc

/-- Whether some tuple is admitted. Tuples after the first such one are not looked at. -/
def anyTuple (enter : Tuple → m (Option Scope)) : List Tuple → m Bool
  | [] => return false
  | t :: rest => do
    match ← enter t with
    | none => anyTuple enter rest
    | some _ => return true

end Iteration

end ModelLang
