import ModelLang.Model.Basic
import ModelLang.Step

/-!
# ModelLang.Model.Build

Work on a model: steps that add variables, rows and sets, or set the objective.
-/

namespace ModelLang

abbrev Build := Step Model Cause

namespace Build

/-- Adds a variable under a free name, and gives its number. -/
def addVariable (x : Variable) : Build VarId := fun m =>
  match m.addVariable x with
  | (v, m) => (.ok v, m)

/-- Adds a row under a free name. -/
def addRow (r : Row) : Build Unit :=
  Step.modify fun m => m.addRow r

/-- Adds the row that compares a term with zero. -/
def addLinear (name : String) (t : Term) (rel : ConRel) (flags : ConFlags) : Build Unit :=
  Step.modify fun m => m.addLinear name t rel flags

/-- Adds a special ordered set under a free name. -/
def addSos (s : Sos) : Build Unit :=
  Step.modify fun m => m.addSos s

/-- Sets the objective, once. -/
def setObjective (o : Objective) : Build Unit := fun m =>
  match m.setObjective o with
  | .ok m => (.ok (), m)
  | .error cause => (.error cause, m)

end Build

end ModelLang
