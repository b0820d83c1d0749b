import ModelLang.Proofs.Absolute
import ModelLang.Proofs.Constant
import ModelLang.Proofs.Linear

/-!
# ModelLang.Proofs.Cells

Evaluations that overflow. No operation on values does, terms included, and reading a table does for
a field of that table only, so that nothing overflows as long as no field of any table does
(`Expr.overflows_of_eval`).
-/

namespace ModelLang

open Eval

/-! ## Operations -/

namespace Value

variable (u v : Value)

theorem pow_ne_overflow : u.pow v ≠ .error .overflow := by
  unfold pow
  split
  · split
    · exact nofun
    · exact nofun
  · exact nofun
  · exact (onRats_plain "^" power_usual).1.2

theorem binary_ne_overflow (op : BinaryOp) : u.binary op v ≠ .error .overflow := by
  cases op with
  | add => exact (add_usual u v).2
  | sub => exact (sub_usual u v).2
  | mul => exact mul_ne_overflow u v
  | div => exact div_ne_overflow u v
  | mod => exact (onRats_plain "mod" remainder_usual).1.2
  | intDiv => exact (onRats_plain "div" quotient_usual).1.2
  | pow => exact pow_ne_overflow u v
  | set op => exact (setOp_plain op).1.2
  | and => exact (connective_plain "and" _).1.2
  | or => exact (connective_plain "or" _).1.2
  | xor => exact (connective_plain "xor" _).1.2
  | compare op => exact (map_usual (onValues_usual op) _).2
  | mem => grind [binary]

theorem unary_ne_overflow (op : UnaryOp) : u.unary op ≠ .error .overflow := by
  cases op with
  | neg => exact (neg_usual u).2
  | not => exact (map_usual (asTruth_usual "not" u) _).2
  | factorial => grind [unary]

end Value

theorem Aggregate.step_ne_overflow (kind : Aggregate) (acc : Option Value) (v : Value) :
    kind.step acc v ≠ .error .overflow := by
  have hnumber := Value.asNumber_usual kind.name v
  cases acc with
  | none =>
    have hstart := (map_usual hnumber fun _ => v).2
    cases kind <;> exact hstart
  | some acc =>
    have hbetter : kind.better acc v ≠ .error .overflow := by
      grind [better]
    cases kind with
    | sum => exact (Value.add_usual acc v).2
    | prod => exact Value.mul_ne_overflow acc v
    | min => exact hbetter
    | max => exact hbetter

/-! ## Evaluation -/

/-- Without a field that overflows in a table, nothing overflows. -/
theorem Reasoning.no_overflow {symbols : Symbols} {tables : Table.Source} {L : Vocabulary}
    (ht : tables.FailsUnreadable) (hcells : ¬ tables.Overflows) :
    Reasoning symbols tables L (fun _ => True) (· ≠ .overflow) (Meets (· ≠ .overflow)) where
  located := Meets.located
  bind := Meets.bind
  harmless _ h := h.2
  noTerm _ := trivial
  binary {a b} op _ _ := .of_ne (a.binary_ne_overflow b op)
  unary {a} op _ := .of_ne (a.unary_ne_overflow op)
  step {acc v} kind _ _ := .of_ne (kind.step_ne_overflow acc v)
  lookup _ _ _ := trivial
  load := by
    rintro name template options c hc rfl
    exact hcells ((Table.load_usual ht name template options).2 hc)
  call {f vs} span _ _ := by
    refine Builtin.call_meets (fun _ h => h.2) (fun _ _ => trivial) span fun t _ => ?_
    refine .bind (.onModel span fun m m' c hc => ?_) fun u _ => .pure trivial
    obtain ⟨-, name, rfl⟩ := Build.absolute_fails hc
    exact nofun

/-- An evaluation only overflows if a table has such a field. -/
theorem Expr.overflows_of_eval {symbols : Symbols} {tables : Table.Source}
    (ht : tables.FailsUnreadable) {e : Expr} {scope : Scope} {w w' : Workspace} {f : Failure}
    (h : e.eval (.ofSymbols symbols tables) scope w = (.error f, w')) (hf : f.cause = .overflow) :
    tables.Overflows := by
  by_contra hcells
  have R := (Reasoning.no_overflow (L := .all) ht hcells).ensures_ofSymbols
    (Vocabulary.closed_all symbols)
  have hscope : scope.Fits .all (fun _ => True) [] := Scope.fits_all fun _ _ _ => trivial
  exact (e.eval_ensures R scope [] (e.within_all []) hscope w).2 f w' h hf

end ModelLang
