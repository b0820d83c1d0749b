import Mathlib.Algebra.BigOperators.Ring.List
import Mathlib.Algebra.Order.Group.Unbundled.Int
import Mathlib.Algebra.Order.Ring.Int
import Mathlib.Algebra.Order.Ring.Rat
import Mathlib.Tactic.Linarith
import ModelLang.Proofs.Assignment
import ModelLang.Proofs.Extremal

/-!
# ModelLang.Proofs.Totals

Sums and products of numbers, infinities among them. Neither depends on the order of the numbers nor
on where the brackets stand: whichever way it is computed, the total is one function of the numbers
(`Number.sum`, `Number.product`), a failure included. Both are computed piece by piece
(`Number.Totals`), and a loop is the case of brackets that all open at the front
(`Number.Bracketing.chain`).
-/

namespace ModelLang

namespace Number

/-! ## Bracketings -/

/-- Numbers in a row, with brackets around two neighbours at a time. -/
inductive Bracketing where
  | single (n : Number)
  | pair (left right : Bracketing)

namespace Bracketing

variable (op : Number → Number → Except Cause Number)

/-- The numbers from left to right. -/
def numbers : Bracketing → List Number
  | single n => [n]
  | pair left right => left.numbers ++ right.numbers

/-- What an operation makes of the numbers, with the brackets evaluated first. -/
def value : Bracketing → Except Cause Number
  | single n => .ok n
  | pair left right => do
    let a ← left.value
    let b ← right.value
    op a b

/-- Further numbers, taken one by one behind the others. -/
def chain (t : Bracketing) (ns : List Number) : Bracketing :=
  ns.foldl (fun t n => t.pair (.single n)) t

theorem numbers_chain (t : Bracketing) (ns : List Number) :
    (t.chain ns).numbers = t.numbers ++ ns := by
  induction ns generalizing t with
  | nil => simp [chain]
  | cons n ns ih =>
    show ((t.pair (.single n)).chain ns).numbers = _
    rw [ih, numbers, numbers, List.append_assoc, List.singleton_append]

theorem value_chain (t : Bracketing) (ns : List Number) :
    (t.chain ns).value op = t.value op >>= fun a => ns.foldlM op a := by
  induction ns generalizing t with
  | nil =>
    show t.value op = t.value op >>= pure
    rw [bind_pure]
  | cons n ns ih =>
    show ((t.pair (.single n)).chain ns).value op = _
    rw [ih, value, bind_assoc]
    rfl

end Bracketing

/-- The totals of an operation: that of two lists together comes of the totals of both. -/
structure Totals (op : Number → Number → Except Cause Number)
    (total : List Number → Except Cause Number) : Prop where
  single (n : Number) : total [n] = .ok n
  append (ns ms : List Number) : total (ns ++ ms) = do
    let a ← total ns
    let b ← total ms
    op a b
  perm {ns ms : List Number} : ns.Perm ms → total ns = total ms

namespace Totals

variable {op : Number → Number → Except Cause Number}
  {total : List Number → Except Cause Number} (h : Totals op total)

include h

theorem value_eq (t : Bracketing) : t.value op = total t.numbers := by
  induction t with
  | single n => exact (h.single n).symm
  | pair left right ihl ihr => rw [Bracketing.value, Bracketing.numbers, h.append, ihl, ihr]

/-- A loop puts all brackets at the front. -/
theorem foldlM_eq (a : Number) (ns : List Number) : ns.foldlM op a = total (a :: ns) := by
  have hchain := Bracketing.value_chain op (.single a) ns
  rw [h.value_eq, Bracketing.numbers_chain] at hchain
  exact hchain.symm

end Totals

/-! ## Sums -/

/-- The fractions among some numbers. -/
def fractions (ns : List Number) : List Rat :=
  ns.filterMap fun
    | finite q => some q
    | _ => none

theorem fractions_append (ns ms : List Number) :
    fractions (ns ++ ms) = fractions ns ++ fractions ms :=
  List.filterMap_append

/-- An infinity absorbs all fractions, and two different ones have no sum. -/
def sum (ns : List Number) : Except Cause Number :=
  if plusInfinity ∈ ns then
    if minusInfinity ∈ ns then .error (.infinityArithmetic "infinity - infinity")
    else .ok plusInfinity
  else if minusInfinity ∈ ns then .ok minusInfinity
  else .ok (finite (fractions ns).sum)

protected theorem zero_add (n : Number) : add 0 n = .ok n := by
  cases n with
  | finite q => exact congrArg (fun q => Except.ok (finite q)) (Rat.zero_add q)
  | minusInfinity | plusInfinity => rfl

theorem sum_totals : Totals add sum where
  single n := by
    cases n <;> simp [sum, fractions]
  append ns ms := by
    unfold sum
    simp only [List.mem_append, fractions_append, List.sum_append]
    by_cases hp : plusInfinity ∈ ns <;> by_cases hm : minusInfinity ∈ ns <;>
      by_cases hp' : plusInfinity ∈ ms <;> by_cases hm' : minusInfinity ∈ ms <;>
      simp only [hp, hm, hp', hm', or_true, or_false, if_true, if_false] <;> rfl
  perm {ns ms} h := by
    have hsum : (fractions ns).sum = (fractions ms).sum := (h.filterMap _).sum_eq
    simp only [sum, h.mem_iff, hsum]

/-! ## Products -/

/-- An infinity is among the numbers. -/
def SomeInfinite (ns : List Number) : Prop :=
  plusInfinity ∈ ns ∨ minusInfinity ∈ ns

instance (ns : List Number) : Decidable (SomeInfinite ns) :=
  inferInstanceAs (Decidable (_ ∨ _))

/-- The product of the signs. -/
def signs (ns : List Number) : Int :=
  (ns.map sign).prod

/-- An infinity absorbs all fractions but zero, and has the sign of all numbers together. -/
def product (ns : List Number) : Except Cause Number :=
  if SomeInfinite ns then
    if 0 ∈ ns then .error (.infinityArithmetic "infinity * 0")
    else .ok (infinity (signs ns))
  else .ok (finite (fractions ns).prod)

theorem sign_eq_zero_iff {n : Number} : n.sign = 0 ↔ n = 0 := by
  cases n <;> simp [sign]

theorem sign_sign (n : Number) : n.sign.sign = n.sign := by
  cases n <;> simp [sign, Int.sign_sign]

theorem sign_finite_mul (a b : Rat) :
    (finite (a * b)).sign = (finite a).sign * (finite b).sign := by
  have h := congrArg Int.sign (Rat.mul_num_den' a b)
  simpa [sign, Int.sign_mul, Int.sign_natCast_of_ne_zero] using h

theorem sign_infinity {s : Int} (hs : s.sign = s) (hne : s ≠ 0) : (infinity s).sign = s := by
  rcases Int.lt_or_gt_of_ne hne with h | h
  · rw [Int.sign_eq_neg_one_of_neg h] at hs
    subst hs
    rfl
  · rw [Int.sign_eq_one_of_pos h] at hs
    subst hs
    rfl

theorem mul_of_infinite {a b : Number} (h : a.isFinite = false ∨ b.isFinite = false) :
    a.mul b = if a.sign * b.sign = 0 then .error (.infinityArithmetic "infinity * 0")
      else .ok (infinity (a.sign * b.sign)) := by
  cases a with
  | finite p =>
    cases b with
    | finite q => simp [isFinite] at h
    | minusInfinity | plusInfinity => rfl
  | minusInfinity | plusInfinity => rfl

theorem signs_cons (n : Number) (ns : List Number) : signs (n :: ns) = n.sign * signs ns := by
  rw [signs, List.map_cons, List.prod_cons]
  rfl

theorem signs_append (ns ms : List Number) : signs (ns ++ ms) = signs ns * signs ms := by
  rw [signs, List.map_append, List.prod_append]
  rfl

theorem signs_eq_zero_iff {ns : List Number} : signs ns = 0 ↔ 0 ∈ ns := by
  rw [signs, List.prod_eq_zero_iff, List.mem_map]
  simp only [sign_eq_zero_iff, exists_eq_right]

theorem sign_signs (ns : List Number) : (signs ns).sign = signs ns := by
  induction ns with
  | nil => rfl
  | cons n ns ih => rw [signs_cons, Int.sign_mul, sign_sign, ih]

theorem someInfinite_append {ns ms : List Number} :
    SomeInfinite (ns ++ ms) ↔ SomeInfinite ns ∨ SomeInfinite ms := by
  simp only [SomeInfinite, List.mem_append]
  tauto

theorem sign_fractions {ns : List Number} (h : ¬ SomeInfinite ns) :
    (finite (fractions ns).prod).sign = signs ns := by
  induction ns with
  | nil => rfl
  | cons n ns ih =>
    rw [← List.singleton_append, someInfinite_append, not_or] at h
    cases n with
    | finite q =>
      have hq : (fractions (finite q :: ns)).prod = q * (fractions ns).prod := List.prod_cons
      rw [hq, sign_finite_mul, ih h.2, signs_cons]
    | minusInfinity | plusInfinity => simp [SomeInfinite] at h

/-- A product has the sign of all numbers together, and is infinite if one of them is. It fails
where an infinity meets zero. -/
theorem product_cases (ns : List Number) :
    (∃ a, product ns = .ok a ∧ a.sign = signs ns ∧ (a.isFinite = false ↔ SomeInfinite ns)) ∨
      product ns = .error (.infinityArithmetic "infinity * 0") ∧ SomeInfinite ns ∧ 0 ∈ ns := by
  by_cases hi : SomeInfinite ns
  · by_cases hz : 0 ∈ ns
    · exact .inr ⟨by rw [product, if_pos hi, if_pos hz], hi, hz⟩
    · have hs := sign_infinity (sign_signs ns) (mt signs_eq_zero_iff.1 hz)
      refine .inl ⟨infinity (signs ns), by rw [product, if_pos hi, if_neg hz], hs, ?_⟩
      unfold infinity
      split <;> simp [isFinite, hi]
  · exact .inl ⟨_, by rw [product, if_neg hi], sign_fractions hi, by simp [isFinite, hi]⟩

protected theorem one_mul (n : Number) : mul 1 n = .ok n := by
  cases n with
  | finite q => exact congrArg (fun q => Except.ok (finite q)) (Rat.one_mul q)
  | minusInfinity | plusInfinity => rfl

theorem product_totals : Totals mul product where
  single n := by
    cases n with
    | finite q => simp [product, SomeInfinite, fractions]
    | minusInfinity | plusInfinity => simp [product, SomeInfinite, signs, sign, infinity]
  append ns ms := by
    by_cases hi : SomeInfinite (ns ++ ms)
    · have hinf := someInfinite_append.1 hi
      rw [product, if_pos hi, signs_append]
      rcases product_cases ns with ⟨a, ha, hsa, hia⟩ | ⟨ha, _, hz⟩
      · rcases product_cases ms with ⟨b, hb, hsb, hib⟩ | ⟨hb, _, hz⟩
        · rw [← hia, ← hib] at hinf
          have hzero : 0 ∈ ns ++ ms ↔ signs ns * signs ms = 0 := by
            rw [← signs_append, signs_eq_zero_iff]
          rw [ha, hb]
          show _ = a.mul b
          rw [mul_of_infinite hinf, hsa, hsb]
          simp only [hzero]
        · rw [ha, hb, if_pos (List.mem_append_right ns hz)]
          rfl
      · rw [ha, if_pos (List.mem_append_left ms hz)]
        rfl
    · have hboth := hi
      rw [someInfinite_append, not_or] at hboth
      simp only [product, if_neg hi, if_neg hboth.1, if_neg hboth.2, fractions_append,
        List.prod_append]
      rfl
  perm {ns ms} h := by
    have hsigns : signs ns = signs ms := (h.map _).prod_eq
    have hprod : (fractions ns).prod = (fractions ms).prod := (h.filterMap _).prod_eq
    have hinf : SomeInfinite ns ↔ SomeInfinite ms := by simp only [SomeInfinite, h.mem_iff]
    simp only [product, hinf, h.mem_iff, hsigns, hprod]

/-! ## Order -/

protected theorem add_comm (a b : Number) : a.add b = b.add a := by
  cases a <;> cases b <;> simp [add, Rat.add_comm]

theorem add_finite (a : Number) (q : Rat) : a.add (finite q) = .ok (a.onFinite (· + q)) := by
  cases a <;> rfl

/-- Whatever an infinity is added to, it is the sum if there is one. -/
theorem eq_of_add_infinite {a c x : Number} (hc : c.isFinite = false) (h : a.add c = .ok x) :
    x = c := by
  cases a <;> cases c <;> simp_all [add, isFinite]

theorem onFinite_add_le {a b : Number} (h : a ≤ b) (q : Rat) :
    a.onFinite (· + q) ≤ b.onFinite (· + q) := by
  cases a <;> cases b <;> simp_all [onFinite]

protected theorem add_le_add {a b c x y : Number} (h : a ≤ b) (hx : a.add c = .ok x)
    (hy : b.add c = .ok y) : x ≤ y := by
  cases hc : c.isFinite with
  | false =>
    rw [eq_of_add_infinite hc hx, eq_of_add_infinite hc hy]
    exact le_iff_rank.2 (le_refl _)
  | true =>
    obtain ⟨q, rfl⟩ : ∃ q, c = finite q := by
      cases c with
      | finite q => exact ⟨q, rfl⟩
      | minusInfinity | plusInfinity => cases hc
    rw [add_finite] at hx hy
    cases hx
    cases hy
    exact onFinite_add_le h q

protected theorem neg_le_neg {a b : Number} (h : a ≤ b) : b.neg ≤ a.neg := by
  cases a <;> cases b <;> simp_all [neg]

protected theorem sub_le_sub {a b c x y : Number} (h : a ≤ b) (hx : c.sub b = .ok x)
    (hy : c.sub a = .ok y) : x ≤ y := by
  rw [sub, Number.add_comm] at hx hy
  exact Number.add_le_add (Number.neg_le_neg h) hx hy

end Number

/-! ## Evaluation -/

open Eval

section Evaluation

variable {kind : Aggregate} {op : Number → Number → Except Cause Number} {index : IndexSet}
  {body : Expr} {ctx : Context} {scope : Scope} {w w' : Workspace} {name : String}

/-- Where the values of a loop are numbers, its result is that of the operation on the numbers. -/
theorem foldTuples_total
    (hstep : ∀ m n, kind.step (some (.number m)) (.number n) = (op m n).map Value.number)
    {enter : Tuple → Eval (Option Scope)} {ts : List Tuple} {es es' : List (Tuple × Number)}
    (h : foldTuples enter
      (fun acc frame t => do
        let n ← body.evalNumber ctx frame name
        return (t, n) :: acc)
      ts es w = (.ok es', w')) :
    ∃ ns : List Number, es'.map Prod.snd = ns.reverse ++ es.map Prod.snd ∧
      ∀ m, (foldTuples enter
          (fun acc frame _ => do
            let v ← body.eval ctx frame
            let acc ← located body.span (kind.step acc v)
            return some acc)
          ts (some (.number m)) w).1 =
        ((ns.foldlM op m).map fun n => some (.number n)).mapError fun c => ⟨c, body.span⟩ := by
  induction ts generalizing es w with
  | nil =>
    cases h
    exact ⟨[], rfl, fun m => rfl⟩
  | cons t ts ih =>
    unfold foldTuples at h ⊢
    obtain ⟨o, w₁, ho, h⟩ := Step.bind_eq_ok.1 h
    simp only [Step.bind_of_ok ho]
    cases o with
    | none => exact ih h
    | some frame =>
      obtain ⟨_, w₃, hvisit, h⟩ := Step.bind_eq_ok.1 h
      obtain ⟨n, w₂, hn, hpure⟩ := Step.bind_eq_ok.1 hvisit
      cases hpure
      obtain ⟨ns, hns, htotal⟩ := ih h
      refine ⟨n :: ns, by simp [hns], fun m => ?_⟩
      dsimp only
      rw [bind_assoc, Step.bind_of_ok (Expr.eval_of_evalNumber hn), hstep, List.foldlM_cons]
      cases op m n with
      | error c => rfl
      | ok a => exact htotal a

variable {start : Number} {scored : List (Tuple × Number)}

theorem Expr.eval_total
    (hstep : ∀ m n, kind.step (some (.number m)) (.number n) = (op m n).map Value.number)
    (hstart : kind.start? = some (.number start)) (span : Span)
    (h : index.collect ctx scope (fun frame _ => body.evalNumber ctx frame name) w =
      (.ok scored, w')) :
    ((Expr.aggregate kind index body span).eval ctx scope w).1 =
      (((scored.map Prod.snd).foldlM op start).map Value.number).mapError
        fun c => ⟨c, body.span⟩ := by
  obtain ⟨s, w₁, hs, h⟩ := Step.bind_eq_ok.1 h
  obtain ⟨es, w₂, hes, hpure⟩ := Step.bind_eq_ok.1 h
  cases hpure
  obtain ⟨ns, hns, htotal⟩ := foldTuples_total hstep hes
  have hnumbers : es.reverse.map Prod.snd = ns := by
    rw [List.map_reverse, hns, List.map_nil, List.append_nil, List.reverse_reverse]
  have hfold := htotal start
  rw [hnumbers, Expr.eval, Step.bind_of_ok hs, hstart, Step.bind_apply]
  generalize ns.foldlM op start = total at hfold ⊢
  split <;> rename_i hrun <;> rw [hrun] at hfold
  · cases total with
    | ok n =>
      cases hfold
      rfl
    | error c => cases hfold
  · cases total with
    | ok n => cases hfold
    | error c =>
      cases hfold
      rfl

end Evaluation

namespace Number

/-- What an aggregate makes of numbers, from `start` on by an operation. Either it fails or it gives
the total, but it does the same for any order and any brackets. -/
structure OrderFree (kind : Aggregate) (op : Number → Number → Except Cause Number)
    (start : Number) (Fails : Prop) (total : Number) (ns : List Number) : Prop where
  fails : (∃ c, ns.foldlM op start = .error c) ↔ Fails
  value : ¬ Fails → ns.foldlM op start = .ok total
  perm (ms : List Number) : ms.Perm ns → ms.foldlM op start = ns.foldlM op start
  brackets (t : Bracketing) :
    t.numbers.Perm ns ∨ t.numbers.Perm (start :: ns) → t.value op = ns.foldlM op start
  evaluates (index : IndexSet) (body : Expr) (span : Span) (ctx : Context) (scope : Scope)
    (w w' : Workspace) (name : String) (scored : List (Tuple × Number)) :
    index.collect ctx scope (fun frame _ => body.evalNumber ctx frame name) w =
        (.ok scored, w') →
      (scored.map Prod.snd).Perm ns →
      ((Expr.aggregate kind index body span).eval ctx scope w).1 =
        ((ns.foldlM op start).map Value.number).mapError fun c => ⟨c, body.span⟩

/-- The start must be neutral. -/
theorem Totals.orderFree {op : Number → Number → Except Cause Number}
    {total : List Number → Except Cause Number} (h : Totals op total) {kind : Aggregate}
    {start : Number} (hneutral : ∀ n, op start n = .ok n)
    (hkind : kind.start? = some (.number start))
    (hstep : ∀ m n, kind.step (some (.number m)) (.number n) = (op m n).map Value.number)
    {Fails : Prop} {a : Number} {ns : List Number}
    (hfails : Fails → ∃ c, total ns = .error c) (hvalue : ¬ Fails → total ns = .ok a) :
    OrderFree kind op start Fails a ns := by
  have hstart : ∀ ms, total (start :: ms) = total ms := by
    intro ms
    rw [← List.singleton_append, h.append, h.single]
    show (total ms >>= fun b => op start b) = _
    simp only [hneutral]
    exact bind_pure _
  have hfold : ∀ ms : List Number, ms.foldlM op start = total ms := fun ms => by
    rw [h.foldlM_eq, hstart]
  have hperm : ∀ ms : List Number, ms.Perm ns → ms.foldlM op start = ns.foldlM op start := by
    intro ms hms
    rw [hfold, hfold, h.perm hms]
  refine ⟨⟨fun ⟨c, hc⟩ => ?_, fun hf => ?_⟩, fun hf => ?_, hperm, fun t ht => ?_, ?_⟩
  · by_contra hf
    rw [hfold, hvalue hf] at hc
    cases hc
  · rw [hfold]
    exact hfails hf
  · rw [hfold, hvalue hf]
  · rw [hfold, h.value_eq]
    rcases ht with ht | ht
    · exact h.perm ht
    · rw [h.perm ht, hstart]
  · intro index body span ctx scope w w' name scored hscored hms
    rw [← hperm _ hms]
    exact Expr.eval_total hstep hkind span hscored

/-- Sums and products depend neither on the order of the numbers nor on the brackets. They fail
only for two different infinities, and for an infinity and zero. Sums and differences are compatible
with the order. -/
theorem totals :
    (∀ ns, OrderFree .sum add 0 (plusInfinity ∈ ns ∧ minusInfinity ∈ ns)
      (if plusInfinity ∈ ns then plusInfinity
        else if minusInfinity ∈ ns then minusInfinity else finite (fractions ns).sum) ns) ∧
    (∀ ns, OrderFree .prod mul 1 (SomeInfinite ns ∧ 0 ∈ ns)
      (if SomeInfinite ns then infinity (signs ns) else finite (fractions ns).prod) ns) ∧
    ∀ a b : Number, a ≤ b → ∀ c x y,
      (a.add c = .ok x → b.add c = .ok y → x ≤ y) ∧
        (c.sub b = .ok x → c.sub a = .ok y → x ≤ y) := by
  refine ⟨fun ns => ?_, fun ns => ?_, fun a b h c x y => ⟨Number.add_le_add h, Number.sub_le_sub h⟩⟩
  · refine sum_totals.orderFree Number.zero_add rfl (fun m n => rfl) (fun ⟨hp, hm⟩ => ?_) fun hf => ?_
    · exact ⟨_, by rw [sum, if_pos hp, if_pos hm]⟩
    · rw [not_and] at hf
      unfold sum
      split
      · rw [if_neg (hf ‹_›)]
      · split <;> rfl
  · refine product_totals.orderFree Number.one_mul rfl (fun m n => rfl) (fun ⟨hi, hz⟩ => ?_)
      fun hf => ?_
    · exact ⟨_, by rw [product, if_pos hi, if_pos hz]⟩
    · rw [not_and] at hf
      unfold product
      split
      · rw [if_neg (hf ‹_›)]
      · rfl

/-- Some numbers in another order and with brackets at the end. -/
theorem totals_mixed :
    let ns := [finite 3, minusInfinity, finite (-2)]
    let t : Bracketing := .pair (.single minusInfinity) (.pair (.single (finite (-2)))
      (.single (finite 3)))
    t.numbers.Perm ns ∧ t.value add = .ok minusInfinity ∧ t.value mul = .ok plusInfinity ∧
      ¬ (SomeInfinite ns ∧ 0 ∈ ns) ∧ ns.foldlM mul 1 = .ok plusInfinity ∧
      (finite 2 ≤ finite 3 ∧ finite (2 + 1) ≤ finite (3 + 1)) := by
  intro ns t
  have hperm : t.numbers.Perm ns := by decide
  have hprod : ¬ (SomeInfinite ns ∧ 0 ∈ ns) := by decide
  have hle : finite 2 ≤ finite 3 := by decide
  refine ⟨hperm, (totals.1 ns).brackets t (.inl hperm), ?_, hprod,
    (totals.2.1 ns).value hprod, hle, (totals.2.2 _ _ hle (finite 1) _ _).1 rfl rfl⟩
  exact ((totals.2.1 ns).brackets t (.inl hperm)).trans ((totals.2.1 ns).value hprod)

end Number

end ModelLang
