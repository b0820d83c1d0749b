import ModelLang.Eval.Expr

/-!
# ModelLang.Proofs.Vocabulary

What expressions mention. `Expr.Within` says that an expression keeps to a vocabulary of names,
functions and defines, apart from the names that patterns and calls bind for it. `Scope.Fits` says
of a scope that it binds these names, and to values of a given kind.
-/

namespace ModelLang

/-- What an expression may mention: names to look up, functions to call, and defines to call where
certain names are bound. -/
structure Vocabulary where
  names : String → Prop
  builtins : Builtin → Prop
  defines : String → List String → Prop

/-- The bound names after the items of a pattern. -/
def Expr.bindItems : List Expr → List String → List String
  | [], bound => bound
  | item :: items, bound => Expr.bindItems items (item.name?.toList ++ bound)

/-- The bound names while a tuple is visited. -/
def IndexSet.bind (index : IndexSet) (bound : List String) : List String :=
  Expr.bindItems (index.pattern.getD []) bound

mutual

/-- The expression mentions the vocabulary only, apart from the names that are bound. -/
def Expr.Within (L : Vocabulary) : Expr → List String → Prop
  | .number _ _, _ | .infinity _, _ | .string _ _, _ | .indexSetOf _ _, _ => True
  | .name x _, bound => x ∈ bound ∨ L.names x
  | .subscript x args _, bound => L.names x ∧ Expr.AllWithin L args bound
  | .call x args _, bound => L.defines x bound ∧ Expr.AllWithin L args bound
  | .builtin f args _, bound => L.builtins f ∧ Expr.AllWithin L args bound
  | .tuple items _, bound | .setLiteral items _, bound => Expr.AllWithin L items bound
  | .range first last step _ _, bound =>
    first.Within L bound ∧ last.Within L bound ∧ Expr.OptionWithin L step bound
  | .setBuilder index member _, bound =>
    index.Within L bound ∧ Expr.OptionWithin L member (index.bind bound)
  | .proj set positions _, bound => set.Within L bound ∧ positions.Within L bound
  | .binary _ lhs rhs _, bound => lhs.Within L bound ∧ rhs.Within L bound
  | .unary _ arg _, bound => arg.Within L bound
  | .aggregate _ index body _, bound =>
    index.Within L bound ∧ body.Within L (index.bind bound)
  | .nonempty index _, bound => index.Within L bound
  | .argExtremum _ count index body _, bound =>
    Expr.OptionWithin L count bound ∧ index.Within L bound ∧
      body.Within L (index.bind bound)
  | .indexedSetOp _ index body _, bound =>
    index.Within L bound ∧ body.Within L (index.bind bound)
  | .conditional condition yes no _, bound =>
    condition.Within L bound ∧ yes.Within L bound ∧ no.Within L bound
  | .read table _, bound => table.Within L bound

def Expr.AllWithin (L : Vocabulary) : List Expr → List String → Prop
  | [], _ => True
  | e :: rest, bound => e.Within L bound ∧ Expr.AllWithin L rest bound

def Expr.OptionWithin (L : Vocabulary) : Option Expr → List String → Prop
  | none, _ => True
  | some e, bound => e.Within L bound

/-- A bare name in a pattern is bound, not looked up, and later items see it. -/
def Expr.ItemsWithin (L : Vocabulary) : List Expr → List String → Prop
  | [], _ => True
  | item :: items, bound =>
    (item.name? = none → item.Within L bound) ∧
      Expr.ItemsWithin L items (item.name?.toList ++ bound)

def Expr.PatternWithin (L : Vocabulary) : Option (List Expr) → List String → Prop
  | none, _ => True
  | some items, bound => Expr.ItemsWithin L items bound

def IndexSet.Within (L : Vocabulary) : IndexSet → List String → Prop
  | .mk pattern set condition span, bound =>
    Expr.PatternWithin L pattern bound ∧ set.Within L bound ∧
      Expr.OptionWithin L condition ((IndexSet.mk pattern set condition span).bind bound)

def ReadSpec.Within (L : Vocabulary) : ReadSpec → List String → Prop
  | .mk file template options, bound =>
    file.Within L bound ∧ template.Within L bound ∧ ReadOption.AllWithin L options bound

def ReadOption.AllWithin (L : Vocabulary) : List ReadOption → List String → Prop
  | [], _ => True
  | .mk _ e :: rest, bound => e.Within L bound ∧ ReadOption.AllWithin L rest bound

end

/-- The innermost binding of a name counts. -/
theorem Scope.lookup?_bind (scope : Scope) (x y : String) (v : Value) :
    (scope.bind x v).lookup? y = if x = y then some v else scope.lookup? y := by
  by_cases h : x = y <;> simp [lookup?, bind, h]

/-- Names that count as bound have a binding, and bindings of these and of the names in the
vocabulary are values of the given kind. -/
structure Scope.Fits (L : Vocabulary) (V : Value → Prop) (bound : List String) (scope : Scope) :
    Prop where
  values {x : String} {v : Value} : x ∈ bound ∨ L.names x → scope.lookup? x = some v → V v
  binds {x : String} : x ∈ bound → scope.lookup? x = none → L.names x

namespace Scope.Fits

variable {L : Vocabulary} {V : Value → Prop} {bound bound' : List String} {scope : Scope}

theorem mono (h : scope.Fits L V bound) (hb : bound' ⊆ bound) : scope.Fits L V bound' where
  values hx := h.values (hx.imp_left fun hx => hb hx)
  binds hx := h.binds (hb hx)

theorem bind (h : scope.Fits L V bound) {v : Value} (hv : V v) (name : String) :
    (scope.bind name v).Fits L V (name :: bound) := by
  refine ⟨?_, ?_⟩
  · intro x u hx hu
    rw [Scope.lookup?_bind] at hu
    split at hu
    · exact Option.some.inj hu ▸ hv
    · rename_i hn
      refine h.values (hx.imp_left fun hx => ?_) hu
      exact (List.mem_cons.1 hx).resolve_left fun he => hn he.symm
  · intro x hx hu
    rw [Scope.lookup?_bind] at hu
    split at hu
    · cases hu
    · rename_i hn
      exact h.binds ((List.mem_cons.1 hx).resolve_left fun he => hn he.symm) hu

theorem bindAll (h : scope.Fits L V bound) {names : List String} {vs : List Value}
    (hl : names.length = vs.length) (hv : ∀ v ∈ vs, V v) :
    (scope.bindAll names vs).Fits L V (names ++ bound) := by
  induction names generalizing scope vs bound with
  | nil => exact h
  | cons name names ih =>
    cases vs with
    | nil => cases hl
    | cons v vs =>
      rw [List.forall_mem_cons] at hv
      have hrest := ih (h.bind hv.1 name) (Nat.succ.inj hl) hv.2
      refine hrest.mono ?_
      exact List.perm_middle.symm.subset

end Scope.Fits

/-! ## The full vocabulary -/

/-- Everything may be mentioned. -/
def Vocabulary.all : Vocabulary := ⟨fun _ => True, fun _ => True, fun _ _ => True⟩

mutual

theorem Expr.within_all : ∀ (e : Expr) (bound : List String), e.Within .all bound
  | .number _ _, _ | .infinity _, _ | .string _ _, _ | .indexSetOf _ _, _ => trivial
  | .name _ _, _ => .inr trivial
  | .subscript _ args _, bound => ⟨trivial, Expr.allWithin_all args bound⟩
  | .call _ args _, bound => ⟨trivial, Expr.allWithin_all args bound⟩
  | .builtin _ args _, bound => ⟨trivial, Expr.allWithin_all args bound⟩
  | .tuple items _, bound => Expr.allWithin_all items bound
  | .setLiteral items _, bound => Expr.allWithin_all items bound
  | .range first last step _ _, bound =>
    ⟨first.within_all bound, last.within_all bound, Expr.optionWithin_all step bound⟩
  | .setBuilder index member _, bound => ⟨index.within_all bound, Expr.optionWithin_all member _⟩
  | .proj set positions _, bound => ⟨set.within_all bound, positions.within_all bound⟩
  | .binary _ lhs rhs _, bound => ⟨lhs.within_all bound, rhs.within_all bound⟩
  | .unary _ arg _, bound => arg.within_all bound
  | .aggregate _ index body _, bound => ⟨index.within_all bound, body.within_all _⟩
  | .nonempty index _, bound => index.within_all bound
  | .argExtremum _ count index body _, bound =>
    ⟨Expr.optionWithin_all count bound, index.within_all bound, body.within_all _⟩
  | .indexedSetOp _ index body _, bound => ⟨index.within_all bound, body.within_all _⟩
  | .conditional condition yes no _, bound =>
    ⟨condition.within_all bound, yes.within_all bound, no.within_all bound⟩
  | .read table _, bound => table.within_all bound

theorem Expr.allWithin_all : ∀ (es : List Expr) (bound : List String), Expr.AllWithin .all es bound
  | [], _ => trivial
  | e :: rest, bound => ⟨e.within_all bound, Expr.allWithin_all rest bound⟩

theorem Expr.optionWithin_all :
    ∀ (e : Option Expr) (bound : List String), Expr.OptionWithin .all e bound
  | none, _ => trivial
  | some e, bound => e.within_all bound

theorem Expr.itemsWithin_all :
    ∀ (items : List Expr) (bound : List String), Expr.ItemsWithin .all items bound
  | [], _ => trivial
  | item :: items, bound => ⟨fun _ => item.within_all bound, Expr.itemsWithin_all items _⟩

theorem Expr.patternWithin_all :
    ∀ (pattern : Option (List Expr)) (bound : List String), Expr.PatternWithin .all pattern bound
  | none, _ => trivial
  | some items, bound => Expr.itemsWithin_all items bound

theorem IndexSet.within_all : ∀ (index : IndexSet) (bound : List String), index.Within .all bound
  | .mk pattern set condition _, bound =>
    ⟨Expr.patternWithin_all pattern bound, set.within_all bound, Expr.optionWithin_all condition _⟩

theorem ReadSpec.within_all : ∀ (table : ReadSpec) (bound : List String), table.Within .all bound
  | .mk file template options, bound =>
    ⟨file.within_all bound, template.within_all bound, ReadOption.allWithin_all options bound⟩

theorem ReadOption.allWithin_all :
    ∀ (os : List ReadOption) (bound : List String), ReadOption.AllWithin .all os bound
  | [], _ => trivial
  | .mk _ e :: rest, bound => ⟨e.within_all bound, ReadOption.allWithin_all rest bound⟩

end

/-- Everything may be mentioned, but only some functions may be called. -/
def Vocabulary.calling (functions : Builtin → Prop) : Vocabulary :=
  ⟨fun _ => True, functions, fun _ _ => True⟩

/-- In the full vocabulary a scope fits if all its values do. -/
theorem Scope.fits_all {V : Value → Prop} {scope : Scope} {bound : List String}
    (h : ∀ x v, scope.lookup? x = some v → V v) : scope.Fits .all V bound :=
  ⟨fun _ hv => h _ _ hv, fun _ _ => trivial⟩

end ModelLang
