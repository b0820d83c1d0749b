import ModelLang.Elem

/-!
# ModelLang.Cause

Why an evaluation fails, without the place where it failed. A cause carries what its message
tells; the wording is in `Cause.message` alone.
-/

namespace ModelLang

inductive Cause where
  | typeMismatch (op expected found : String)
  | unknownSymbol (name : String)
  | duplicateSymbol (name : String)
  | arityMismatch (expected found : Nat)
  | argumentCount (name : String) (expected found : Nat)
  | divisionByZero
  | emptyDomain (op : String)
  | unknownIndex (name : String) (index : Tuple)
  | infinityArithmetic (what : String)
  | nonlinear
  | recursiveDefine (name : String)
  | notInteger (value : Rat)
  | duplicateObjective
  -- numbers
  | noFiniteResult (op : String)
  | outOfRange (value : Rat)
  | notCount (value : Rat)
  | exponentTooLarge
  | negativeFactorial (n : Int)
  | factorialTooLarge (n : Int)
  | randomRange (low high : Rat)
  | overflow
  -- sets and comparisons
  | zeroStep
  | powersetTooLarge (size : Nat)
  | subsetSizes (least most size : Nat)
  | projection (position arity : Nat)
  | noElement (n : Nat)
  | noComponent (tuple : Tuple) (component : Nat)
  | comparedTerm (symbol : String)
  -- declarations
  | outsideIndexSet (key : Tuple) (name : String)
  | repeatedEntry (name : String) (key : Tuple)
  | repeatedParameter (name : String)
  | uncalledDefine (name : String)
  | defineIndexSet (name : String)
  | matrixShape (values columns : Nat)
  | boundedBinary (name : String)
  -- constraints
  | rangeDirections
  | unboundedRange
  | infiniteSide (side : Number)
  | sosEntry
  | sosConstant
  -- conditional constraints and absolute values
  | conditionForm
  | fractionalCondition
  | conditionNotIntegral (name : String)
  | conditionUnbounded (name : String)
  | absoluteUnbounded (name : String)
  -- tables
  | malformedTemplate (template : String)
  | emptyTemplate (template : String)
  | malformedField (field : String)
  | badColumn (field : String)
  | zeroColumn
  | noValueColumn (template : String)
  | spareValueColumn (template : String)
  | badPattern (pattern : String)
  | missingField (table : String) (line fields column : Nat)
  | notNumeral (table : String) (line : Nat) (field : String)
  | unreadable (path reason : String)
deriving DecidableEq, Inhabited

namespace Cause

/-- What the user reads. -/
def message : Cause → String
  | typeMismatch op expected found => s!"type mismatch in {op}: expected {expected}, found {found}"
  | unknownSymbol name => s!"unknown symbol '{name}'"
  | duplicateSymbol name => s!"symbol '{name}' is already declared"
  | arityMismatch expected found =>
    s!"arity mismatch: expected tuples of {expected} elements, found {found}"
  | argumentCount name expected found => s!"'{name}' takes {expected} arguments, {found} given"
  | divisionByZero => "division by zero"
  | emptyDomain op => s!"{op} over an empty domain"
  | unknownIndex name index => s!"'{name}' has no entry for {Tuple.shown index}"
  | infinityArithmetic what => s!"undefined arithmetic on infinity: {what}"
  | nonlinear => "product of two variable terms is not linear"
  | recursiveDefine name => s!"define '{name}' refers to itself"
  | notInteger value => s!"expected an integer, found {ratText value}"
  | duplicateObjective => "an objective is already set"
  | noFiniteResult op => s!"{op} has no finite result"
  | outOfRange value => s!"{ratText value} is out of range"
  | notCount value => s!"{ratText value} is not a valid count"
  | exponentTooLarge => "exponent is too large"
  | negativeFactorial n => s!"factorial of negative number {intText n}"
  | factorialTooLarge n => s!"factorial of {intText n} is too large"
  | randomRange low high =>
    let low := String.ofList (Double.text (Double.ofRat low))
    let high := String.ofList (Double.text (Double.ofRat high))
    s!"random: {low} is larger than {high}"
  | overflow => "attempt to negate with overflow"
  | zeroStep => "range step must not be zero"
  | powersetTooLarge size => s!"powerset of a set with {size} elements is too large"
  | subsetSizes least most size => s!"cannot choose between {least} and {most} of {size} elements"
  | projection position arity =>
    s!"projection index {position} is out of range for tuples of {arity} elements"
  | noElement n => s!"ord: set has no element {n}"
  | noComponent tuple component => s!"ord: {Tuple.shown tuple} has no component {component}"
  | comparedTerm symbol => s!"cannot compare a term with {symbol} outside of a constraint"
  | outsideIndexSet key name => s!"{Tuple.shown key} is not in the index set of '{name}'"
  | repeatedEntry name key => s!"'{name}' has two entries for {Tuple.shown key}"
  | repeatedParameter name => s!"parameter '{name}' appears twice"
  | uncalledDefine name => s!"define '{name}' must be called with arguments"
  | defineIndexSet name => s!"define '{name}' has no index set"
  | matrixShape values columns => s!"matrix row has {values} values for {columns} columns"
  | boundedBinary name => s!"binary variable '{name}' cannot have bounds"
  | rangeDirections => "both relations of a range constraint must point the same way"
  | unboundedRange => "range constraint is unbounded on both sides"
  | infiniteSide side =>
    s!"constraint side is infinite ({Number.text side}), use a range constraint for a free bound"
  | sosEntry => "sos entries must be single variables"
  | sosConstant => "sos term must not have a constant"
  | conditionForm => "vif: condition must be a comparison"
  | fractionalCondition => "vif: condition has a fractional constant"
  | conditionNotIntegral name => s!"vif: condition on {name} is not integral"
  | conditionUnbounded name => s!"vif: variable {name} needs finite bounds"
  | absoluteUnbounded name => s!"vabs: variable {name} needs finite bounds"
  | malformedTemplate template => s!"read: malformed template \"{template}\""
  | emptyTemplate template => s!"read: template \"{template}\" selects no columns"
  | malformedField field => s!"read: malformed template field \"{field}\""
  | badColumn field => s!"read: bad column in \"{field}\""
  | zeroColumn => "read: columns are counted from 1"
  | noValueColumn template => s!"read: template \"{template}\" has no value column"
  | spareValueColumn template => s!"read: template \"{template}\" of a set has a value column"
  | badPattern pattern => s!"read: bad pattern \"{pattern}\""
  | missingField table line fields column =>
    s!"read: {table}, line {line}: has {fields} fields, column {column} requested"
  | notNumeral table line field => s!"read: {table}, line {line}: \"{field}\" is not a number"
  | unreadable path reason => s!"cannot read '{path}': {reason}"

end Cause

end ModelLang
