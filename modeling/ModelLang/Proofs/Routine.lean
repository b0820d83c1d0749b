import ModelLang.Eval.Expr

/-!
# ModelLang.Proofs.Routine

Which operations can fail because a product or a quotient is not linear, and which for an overflow.
Conversions, sets and arithmetic on numbers do neither (`Usual`). An operator is not linear for
terms only, so that without terms nothing fails for that reason and no terms arise (`binary_plain`,
`onValues_plain`). Tables overflow where one of their fields does (`Table.load_usual`).
-/

namespace ModelLang

/-- A cause that many operations may fail for: neither want of linearity nor an overflow. -/
abbrev Cause.Usual (c : Cause) : Prop :=
  c ≠ .nonlinear ∧ c ≠ .overflow

/-- The operation does not fail for one of the causes that only few operations have. -/
abbrev Usual {α : Type} (x : Except Cause α) : Prop :=
  x ≠ .error .nonlinear ∧ x ≠ .error .overflow

/-- The operation does not fail for such a cause either, but for an overflow if `P` is the case. -/
abbrev UsualUnless {α : Type} (P : Prop) (x : Except Cause α) : Prop :=
  x ≠ .error .nonlinear ∧ (x = .error .overflow → P)

theorem Usual.cause {α : Type} {x : Except Cause α} (h : Usual x) {c : Cause}
    (hx : x = .error c) : c.Usual := by
  subst hx
  exact ⟨fun hc => h.1 (congrArg _ hc), fun hc => h.2 (congrArg _ hc)⟩

/-! ## Results that pass on a failure -/

@[grind =] theorem map_eq_error {α β : Type} (f : α → β) (x : Except Cause α) (c : Cause) :
    x.map f = .error c ↔ x = .error c := by
  cases x <;> simp [Except.map]

@[grind =] theorem bind_eq_error {α β : Type} (x : Except Cause α) (f : α → Except Cause β)
    (c : Cause) : (x >>= f) = .error c ↔ x = .error c ∨ ∃ a, x = .ok a ∧ f a = .error c := by
  cases x <;> simp [Bind.bind, Except.bind]

@[grind =] theorem bind_eq_ok {α β : Type} (x : Except Cause α) (f : α → Except Cause β) (b : β) :
    (x >>= f) = .ok b ↔ ∃ a, x = .ok a ∧ f a = .ok b := by
  cases x <;> simp [Bind.bind, Except.bind]

@[grind =] theorem pure_eq_ok {α : Type} (a : α) : (pure a : Except Cause α) = .ok a := rfl

@[grind =] theorem map_eq_ok {α β : Type} (f : α → β) (x : Except Cause α) (b : β) :
    x.map f = .ok b ↔ ∃ a, x = .ok a ∧ f a = b := by
  cases x <;> simp [Except.map]

theorem map_usual {α β : Type} {x : Except Cause α} (hx : Usual x) (f : α → β) :
    Usual (x.map f) := by
  grind

theorem bind_usual {α β : Type} {x : Except Cause α} {f : α → Except Cause β} (hx : Usual x)
    (hf : ∀ a, Usual (f a)) : Usual (x >>= f) := by
  grind

theorem mapM_usual {α β : Type} {f : α → Except Cause β} (h : ∀ a, Usual (f a)) (as : List α) :
    Usual (as.mapM f) := by
  induction as with
  | nil => exact ⟨nofun, nofun⟩
  | cons a as ih =>
    rw [List.mapM_cons]
    refine bind_usual (h a) fun b => bind_usual ih fun bs => ?_
    exact ⟨nofun, nofun⟩

/-! ## Numbers -/

section Numbers

variable (op : String) (m n : Number) (a b : Rat)

@[grind .] theorem finite?_usual : Usual (n.finite? op) := by
  cases n <;> grind [Number.finite?]

@[grind .] theorem numberAdd_usual : Usual (m.add n) := by
  cases m <;> cases n <;> grind [Number.add]

@[grind .] theorem numberSub_usual : Usual (m.sub n) := numberAdd_usual m n.neg

@[grind .] theorem numberMul_usual : Usual (m.mul n) := by
  cases m <;> cases n <;> grind [Number.mul]

@[grind .] theorem numberDiv_usual : Usual (m.div n) := by
  cases m <;> cases n <;> grind [Number.div]

@[grind .] theorem integer?_usual : Usual (integer? a) := by
  grind [integer?]

@[grind .] theorem count?_usual : Usual (count? a) := by
  grind [count?]

@[grind .] theorem ofDouble_usual (x : Float) : Usual (ofDouble op x) := by
  grind [ofDouble]

@[grind .] theorem remainder_usual : Usual (remainder a b) := by
  grind [remainder, quotient]

@[grind .] theorem quotient_usual : Usual (quotient a b) := by
  grind [quotient]

@[grind .] theorem power_usual : Usual (power a b) := by
  grind [power, wholePower]

@[grind .] theorem factorial_usual : Usual (factorial a) := by
  grind [factorial]

end Numbers

/-! ## Sets -/

namespace TupleSet

variable (s t : TupleSet)

@[grind .] theorem clash?_usual (a b : Tuple) :
    clash? a b ≠ some .nonlinear ∧ clash? a b ≠ some .overflow := by
  grind [clash?]

@[grind .] theorem insert_usual (a : Tuple) : Usual (s.insert a) := by
  grind [insert]

@[grind .] theorem ofTuples_usual (ts : List Tuple) : Usual (ofTuples ts) := by
  have hall : ∀ s : TupleSet, Usual (s.insertAll ts) := by
    induction ts <;> grind [insertAll]
  exact hall empty

@[grind .] theorem combine_usual (f) : Usual (combine s t f) := by
  grind [combine, conflict?]

@[grind .] theorem union_usual : Usual (s.union t) := combine_usual s t _

@[grind .] theorem inter_usual : Usual (s.inter t) := combine_usual s t _

@[grind .] theorem without_usual : Usual (s.without t) := combine_usual s t _

@[grind .] theorem symDiff_usual : Usual (s.symDiff t) := combine_usual s t _

@[grind .] theorem proj_usual (positions : List Nat) : Usual (s.proj positions) := by
  grind [proj]

@[grind .] theorem range_usual (first last step : Rat) (closed : Bool) :
    Usual (range first last step closed) := by
  grind [range]

end TupleSet

/-! ## Conversions -/

namespace Value

variable (op : String) (v : Value)

@[grind .] theorem asNumber_usual : Usual (v.asNumber op) := by
  cases v <;> grind [asNumber]

@[grind .] theorem asRat_usual : Usual (v.asRat op) := by
  grind [asRat]

@[grind .] theorem asCount_usual : Usual (v.asCount op) := by
  grind [asCount]

@[grind .] theorem asString_usual : Usual (v.asString op) := by
  cases v <;> grind [asString]

@[grind .] theorem asTruth_usual : Usual (v.asTruth op) := by
  cases v <;> grind [asTruth]

@[grind .] theorem asSet_usual : Usual (v.asSet op) := by
  cases v <;> grind [asSet]

@[grind .] theorem asElem_usual : Usual (v.asElem op) := by
  cases v <;> grind [asElem]

@[grind .] theorem asTuple_usual : Usual (v.asTuple op) := by
  cases v <;> grind [asTuple]

@[grind .] theorem asPositions_usual : Usual v.asPositions := by
  unfold asPositions
  split
  · grind
  · refine mapM_usual ?_ _
    intro e
    cases e <;> grind

end Value

/-! ## Symbols and tables -/

@[grind .] theorem Family.get_usual {α : Type} (f : Family α) (name : String) (index : Tuple) :
    Usual (f.get name index) := by
  grind [get]

@[grind .] theorem Family.indexSet_usual {α : Type} (f : Family α) :
    Usual f.indexSet := by
  grind [indexSet]

@[grind .] theorem Symbol.lookup_usual (s : Symbol) (name : String) (index : Tuple) :
    Usual (s.lookup name index) := by
  cases s <;> grind [lookup]

@[grind .] theorem Symbol.indexSet_usual (s : Symbol) (name : String) :
    Usual (s.indexSet name) := by
  cases s <;> grind [indexSet]

@[grind .] theorem Symbols.get_usual (symbols : Symbols) (name : String) :
    Usual (symbols.get name) := by
  grind [get]

@[grind .] theorem Context.lookup_usual (ctx : Context) (name : String) (index : Tuple) :
    Usual (ctx.lookup name index) := by
  grind [lookup]

@[grind .] theorem Context.callee_usual (ctx : Context) (name : String) (given : Nat) :
    Usual (ctx.callee name given) := by
  grind [callee]

namespace Table

/-- The only way in which a source fails is that a table cannot be read. -/
def Source.FailsUnreadable (source : Source) : Prop :=
  ∀ name c, source.text name = .error c → ∃ path reason, c = .unreadable path reason

theorem Source.ofDirectory_failsUnreadable (patterns : Patterns) (disk : Source.Disk)
    (directory : String) : (ofDirectory patterns disk directory).FailsUnreadable := by
  intro name c h
  dsimp only [ofDirectory] at h
  split at h
  · cases h
  · exact ⟨_, _, (Except.error.inj h).symm⟩

theorem Source.ofList_failsUnreadable (patterns : Patterns) (tables : List (String × String)) :
    (ofList patterns tables).FailsUnreadable := by
  intro name c h
  dsimp only [ofList] at h
  split at h
  · cases h
  · exact ⟨_, _, (Except.error.inj h).symm⟩

@[grind .] theorem Template.column_usual (field : List Char) :
    Usual (column field) := by
  grind [column]

@[grind .] theorem Template.columns_usual (fs : List (List Char)) :
    Usual (columns fs) := by
  induction fs <;> grind [columns]

@[grind .] theorem Template.ofText_usual (text : String) : Usual (ofText text) := by
  grind [ofText]

@[grind .] theorem Template.fault?_usual (template : Template) (text : String)
    (withValue : Bool) : template.fault? text withValue ≠ some .nonlinear ∧
      template.fault? text withValue ≠ some .overflow := by
  unfold fault?
  split <;> simp

@[grind .] theorem templateFor_usual (text : String) (withValue : Bool) :
    Usual (templateFor text withValue) := by
  grind [templateFor]

@[grind .] theorem set_usual (patterns : Patterns) (options : Options) (key : ReadKey) (v : Value) :
    Usual (options.set patterns key v) := by
  cases key <;> grind [Options.set]

/-- Some field is a numeral on which the arithmetic overflows. -/
def Overflows (fields : List (List Char)) : Prop :=
  ∃ field ∈ fields, Numeral.signed? field = some .overflow

/-- Some line of a table has such a field. -/
def Source.Overflows (source : Source) : Prop :=
  ∃ name text, source.text name = .ok text ∧ ∃ line ∈ Text.lines text.toList,
    ∃ (options : Options) (content : List Char), options.content? line = some content ∧
      Table.Overflows (fields content)

section Rows

variable (table : String) (line : Nat) (fs : List (List Char))

@[grind .] theorem tableConvert_usual (kind : Elem.Kind) (field : List Char) :
    UsualUnless (Numeral.signed? field = some .overflow) (convert table line kind field) := by
  unfold convert
  split
  · split <;> simp_all [UsualUnless]
  · exact ⟨nofun, nofun⟩

@[grind .] theorem pick_usual (c : Column) :
    UsualUnless (Overflows fs) (pick table line fs c) := by
  grind [pick, Overflows]

@[grind .] theorem pickAll_usual (cs : List Column) :
    UsualUnless (Overflows fs) (pickAll table line fs cs) := by
  induction cs <;> grind [pickAll]

@[grind .] theorem row_usual (template : Template) :
    UsualUnless (Overflows fs) (row table template line fs) := by
  grind [row]

theorem rowsFrom_usual (template : Template) (options : Options) (limit : Option Nat)
    (lines : List (List Char)) :
    UsualUnless (∃ cs ∈ lines, ∃ content, options.content? cs = some content ∧
      Overflows (fields content)) (rowsFrom table template options line limit lines) := by
  induction lines generalizing line limit <;> grind [rowsFrom]

end Rows

/-- Reading a table is the only operation that overflows, and only does where a field does. -/
theorem load_usual {source : Source} (h : source.FailsUnreadable) (name : String)
    (template : Template) (options : Options) :
    UsualUnless source.Overflows (load source name template options) := by
  unfold load
  split
  · rename_i c hc
    obtain ⟨path, reason, rfl⟩ := h name c hc
    exact ⟨nofun, nofun⟩
  · rename_i text htext
    obtain ⟨hlinear, hover⟩ := rowsFrom_usual name (options.skip + 1) template options
      options.limit ((Text.lines text.toList).drop options.skip)
    refine ⟨hlinear, fun hx => ?_⟩
    obtain ⟨cs, hcs, content, hcontent, hfields⟩ := hover hx
    exact ⟨name, text, htext, cs, List.mem_of_mem_drop hcs, options, content, hcontent, hfields⟩

end Table

/-! ## Values without variables -/

namespace Value

def NoTerm (v : Value) : Prop :=
  ∀ t, v ≠ .term t

/-- No uncommon failure, and no term. -/
def Plain (x : Except Cause Value) : Prop :=
  Usual x ∧ ∀ v, x = .ok v → v.NoTerm

variable {a b : Value}

theorem Plain.bind {α : Type} {x : Except Cause α} {f : α → Except Cause Value}
    (hx : Usual x) (hf : ∀ a, Plain (f a)) : Plain (x >>= f) := by
  grind [Plain]

theorem onRats_plain (op : String) {f : Rat → Rat → Except Cause Rat}
    (hf : ∀ q r, Usual (f q r)) : Plain (onRats op f a b) := by
  unfold onRats
  split
  · grind [Plain]
  · split
    · grind [Plain]
    · split
      · grind [Plain]
      · split
        · grind [Plain]
        · grind [Plain, NoTerm, ofRat]

theorem setOp_plain (op : SetOp) : Plain (setOp op a b) := by
  unfold setOp
  split
  · grind [Plain]
  · split
    · grind [Plain]
    · cases op <;> grind [Plain, NoTerm]

theorem connective_plain (name : String) (f : Bool → Bool → Bool) :
    Plain (binary.connective a b name f) := by
  unfold binary.connective
  split <;> grind [Plain, NoTerm]

theorem onValues_usual (op : Comparison) : Usual (op.onValues a b) := by
  cases a <;> cases b <;> grind [Comparison.onValues, mismatch]

theorem binary_plain (ha : a.NoTerm) (hb : b.NoTerm) (op : BinaryOp) : Plain (a.binary op b) := by
  cases op with
  | add => cases a <;> cases b <;> grind [binary, add, NoTerm, mismatch, Plain]
  | sub => cases a <;> cases b <;> grind [binary, sub, NoTerm, mismatch, Plain]
  | mul => cases a <;> cases b <;> grind [binary, mul, NoTerm, mismatch, Plain]
  | div => cases a <;> cases b <;> grind [binary, div, NoTerm, mismatch, Plain]
  | mod => exact onRats_plain "mod" remainder_usual
  | intDiv => exact onRats_plain "div" quotient_usual
  | pow => cases a <;> grind [binary, pow, NoTerm, onRats_plain]
  | set op => exact setOp_plain op
  | and => exact connective_plain "and" _
  | or => exact connective_plain "or" _
  | xor => exact connective_plain "xor" _
  | compare op => grind [binary, onValues_usual, NoTerm, Plain]
  | mem => grind [binary, NoTerm, Plain]

theorem unary_plain (ha : a.NoTerm) (op : UnaryOp) : Plain (a.unary op) := by
  cases op with
  | neg => cases a <;> grind [unary, neg, NoTerm, Plain]
  | not => grind [unary, NoTerm, Plain]
  | factorial => grind [unary, NoTerm, Plain, ofRat]

end Value

/-! ## Aggregates and functions -/

theorem Aggregate.better_plain (kind : Aggregate) {acc v : Value} (ha : acc.NoTerm)
    (hv : v.NoTerm) : Value.Plain (kind.better acc v) := by
  grind [better, Value.Plain]

theorem Aggregate.step_plain (kind : Aggregate) {acc : Option Value} {v : Value}
    (ha : ∀ a ∈ acc, a.NoTerm) (hv : v.NoTerm) : Value.Plain (kind.step acc v) := by
  cases acc with
  | none => cases kind <;> grind [step, Value.Plain]
  | some a =>
    have ha := ha a rfl
    cases kind with
    | sum => exact Value.binary_plain ha hv .add
    | prod => exact Value.binary_plain ha hv .mul
    | min => exact better_plain .min ha hv
    | max => exact better_plain .max ha hv

namespace Builtin

theorem candidates_usual (op : String) (vs : List Value) :
    Usual (candidates op vs) := by
  unfold candidates
  split
  · refine mapM_usual ?_ _
    intro t
    unfold memberNumber
    split <;> exact ⟨nofun, nofun⟩
  · exact mapM_usual (Value.asNumber_usual op) _

theorem extremum_plain (greatest : Bool) (vs : List Value) :
    Value.Plain (extremum greatest vs) := by
  simp only [extremum]
  split
  · grind [Value.Plain, candidates_usual]
  · split
    · grind [Value.Plain, Value.NoTerm]
    · grind [Value.Plain]

theorem substring_plain (s start count : Value) :
    Value.Plain (Value.substring s start count) := by
  grind [Value.substring, Value.Plain, Value.NoTerm]

theorem component_plain (set n component : Value) :
    Value.Plain (Value.component set n component) := by
  refine .bind (by grind) fun s => .bind (by grind) fun n => .bind (by grind) fun k => ?_
  split
  · grind [Value.Plain]
  · split
    · grind [Value.Plain]
    · split
      · rename_i e _
        cases e <;> grind [Value.Plain, Value.NoTerm, Elem.toValue]
      · grind [Value.Plain]

theorem onValues_plain (f : Builtin) (vs : List Value) : Value.Plain (f.onValues vs) := by
  unfold onValues
  split
  · grind [Value.Plain, Value.NoTerm, Value.ofNat, Value.ofRat]
  · grind [Value.Plain, Value.NoTerm, Value.absolute]
  · grind [Value.Plain, Value.NoTerm, Value.onRat, Value.ofRat]
  · grind [Value.Plain, Value.NoTerm, Value.onRat, Value.ofRat]
  · grind [Value.Plain, Value.NoTerm, Value.onRat, Value.ofRat]
  · grind [Value.Plain, Value.NoTerm, Value.onRat, Value.ofRat]
  · grind [Value.Plain, Value.NoTerm, Value.ofNat, Value.ofRat]
  · exact substring_plain _ _ _
  · exact component_plain _ _ _
  · exact extremum_plain _ _
  · exact extremum_plain _ _
  · grind [Value.Plain, Value.NoTerm, Value.absolute]
  · split
    · grind [Value.Plain, Value.NoTerm, Value.real, RealFunction.apply, Value.ofRat]
    · grind [Value.Plain]
  · grind [Value.Plain]

theorem randomBounds_usual (low high : Value) : Usual (randomBounds low high) := by
  grind [randomBounds]

theorem drawn_usual (low high : Rat) (sample : Float) :
    Usual (drawn low high sample) := by
  grind [drawn]

end Builtin

end ModelLang
