import ModelLang.Proofs.Ends
import ModelLang.Proofs.Growth

/-!
# ModelLang.Proofs.Edit

What work on a model can do to it. There are four ways to edit a model, and what is added is well
formed each time: its terms have variables of the model only, the sides of a row go with its
relation, and the bounds of a variable with its kind (`Model.Edit`). Every step of `Build` is a
sequence of such edits, whether it succeeds or fails.
-/

namespace ModelLang

/-! ## Well-formed parts -/

/-- Which sides go with a relation: the one that does not bound the term is infinite. -/
def Relation.Sides (lhs rhs : Number) : Relation → Prop
  | atLeast => rhs = .plusInfinity
  | atMost => lhs = .minusInfinity
  | equal => lhs = rhs ∧ ∃ q, rhs = .finite q
  | between => lhs ≠ rhs ∧ lhs ≠ .minusInfinity ∧ rhs ≠ .plusInfinity

/-- A row about the first `n` variables. -/
structure Row.WellFormed (n : Nat) (r : Row) : Prop where
  below : r.term.Below n
  constant : r.term.constant = 0
  nonzero : ∀ c ∈ r.term.coefs, c.2 ≠ 0
  sides : r.relation.Sides r.lhs r.rhs

theorem Row.WellFormed.mono {n k : Nat} {r : Row} (h : r.WellFormed n) (hk : n ≤ k) :
    r.WellFormed k :=
  ⟨h.below.mono hk, h.constant, h.nonzero, h.sides⟩

/-- Infinite, or an integer. -/
def Number.IsWhole (n : Number) : Prop :=
  ∀ q, n = .finite q → q.den = 1

structure Variable.WellFormed (x : Variable) : Prop where
  binary : x.kind = .binary → x.lower = 0 ∧ x.upper = 1
  whole : x.kind ≠ .continuous → x.lower.IsWhole ∧ x.upper.IsWhole

theorem Number.isWhole_zero : (0 : Number).IsWhole := by
  rintro q ⟨⟩
  rfl

theorem Number.isWhole_one : (1 : Number).IsWhole := by
  rintro q ⟨⟩
  rfl

/-! ## Coefficients -/

namespace Coefs

theorem get_head (v : VarId) (q : Rat) (cs : Coefs) : get v ((v, q) :: cs) = q := by
  simp [get]

theorem get_cons_of_ne {v w : VarId} (h : w ≠ v) (q : Rat) (cs : Coefs) :
    get v ((w, q) :: cs) = get v cs := by
  simp [get, h]

theorem get_of_absent {v : VarId} {cs : Coefs} (h : ∀ c ∈ cs, c.1 ≠ v) : get v cs = 0 := by
  have hn : cs.find? (fun c => c.1 = v) = none := by
    rw [List.find?_eq_none]
    simpa using h
  rw [get, hn]
  rfl

end Coefs

/-! ## Edits -/

namespace Model

/-- One model comes from another by one addition, or by setting the objective. -/
inductive Edit : Model → Model → Prop where
  | variable {m : Model} {x : Variable} (hx : x.WellFormed) (ho : x.objective = 0) :
      Edit m (m.addVariable x).2
  | row {m : Model} {r : Row} (hr : r.WellFormed m.vars.size) : Edit m (m.addRow r)
  | sos {m : Model} {s : Sos} (hs : ∀ e ∈ s.entries, e.1 < m.vars.size) : Edit m (m.addSos s)
  | objective {m m' : Model} {o : Objective} (ht : o.term.Below m.vars.size)
      (h : m.setObjective o = .ok m') : Edit m m'

abbrev Edits : Model → Model → Prop := Relation.ReflTransGen Edit

/-- An edit that adds a part, and leaves the objective. -/
def Addition (m m' : Model) : Prop :=
  m.Edit m' ∧ m'.objective = m.objective

abbrev Additions : Model → Model → Prop := Relation.ReflTransGen Addition

theorem addVariable_size (m : Model) (x : Variable) :
    (m.addVariable x).2.vars.size = m.vars.size + 1 :=
  (m.addVariable_grows x).size

/-! ### The objective -/

/-- Each variable with its coefficient added to the one that it has in the objective. -/
def addObjective (cs : Coefs) (vars : Array Variable) : Array Variable :=
  cs.foldl (fun vs c => vs.modify c.1 fun x => { x with objective := x.objective + c.2 }) vars

theorem setObjective_ok {m m' : Model} {o : Objective} (h : m.setObjective o = .ok m') :
    m.objective = none ∧
      m' = { m with vars := addObjective o.term.coefs m.vars, objective := some o } := by
  unfold setObjective at h
  split at h
  · cases h
  · rename_i hn
    cases h
    exact ⟨by simpa using hn, rfl⟩

theorem addObjective_size (cs : Coefs) (vars : Array Variable) :
    (addObjective cs vars).size = vars.size := by
  unfold addObjective
  induction cs generalizing vars with
  | nil => rfl
  | cons c cs ih =>
    rw [List.foldl_cons, ih, Array.size_modify]

/-- Since no variable appears twice, each of them gets its coefficient once. -/
theorem addObjective_getElem? {cs : Coefs} (h : cs.Canonical) (vars : Array Variable)
    (v : VarId) :
    (addObjective cs vars)[v]? =
      vars[v]?.map fun x => { x with objective := x.objective + cs.get v } := by
  induction cs generalizing vars with
  | nil => simp [addObjective, Coefs.get]
  | cons c cs ih =>
    obtain ⟨w, q⟩ := c
    obtain ⟨habove, _, hcs⟩ := Coefs.canonical_cons.1 h
    have hstep : addObjective ((w, q) :: cs) vars =
        addObjective cs (vars.modify w fun x => { x with objective := x.objective + q }) := rfl
    rw [hstep, ih hcs, Array.getElem?_modify]
    by_cases hw : w = v
    · subst hw
      rw [if_pos rfl, Coefs.get_of_absent (fun d hd => (habove d hd).ne'), Coefs.get_head,
        Option.map_map]
      simp [Function.comp_def]
    · rw [if_neg hw, Coefs.get_cons_of_ne hw]

/-! ### What edits keep -/

theorem Edit.size_le {m m' : Model} (h : m.Edit m') : m.vars.size ≤ m'.vars.size := by
  cases h with
  | «variable» =>
    rw [addVariable_size]
    omega
  | row => exact le_refl _
  | sos => exact le_refl _
  | objective _ h =>
    rw [(setObjective_ok h).2, addObjective_size]

theorem Edits.size_le {m m' : Model} (h : m.Edits m') : m.vars.size ≤ m'.vars.size :=
  preserved_of_changes (I := fun m' => m.vars.size ≤ m'.vars.size)
    (fun _ _ h hs => hs.trans h.size_le) h (le_refl _)

theorem Additions.edits {m m' : Model} (h : m.Additions m') : m.Edits m' :=
  Relation.ReflTransGen.mono (fun _ _ h => h.1) _ _ h

theorem Additions.size_le {m m' : Model} (h : m.Additions m') : m.vars.size ≤ m'.vars.size :=
  h.edits.size_le

end Model

/-! ## Steps of building -/

namespace Build

open Model (Addition Additions)

variable {α : Type} {m : Model} {Q : Model → α → Prop}

/-- The variable gets the next number. -/
theorem addVariable_ends {x : Variable} (hx : x.WellFormed) (ho : x.objective = 0) :
    (addVariable x).Ends Addition m fun m' v =>
      v = m.vars.size ∧ m'.vars.size = m.vars.size + 1 := by
  refine .single ⟨.variable hx ho, rfl⟩ fun v hv => ?_
  cases hv
  exact ⟨rfl, m.addVariable_size x⟩

theorem addRow_ends {r : Row} (hr : r.WellFormed m.vars.size) :
    (addRow r).Ends Addition m fun _ _ => True :=
  .single ⟨.row hr, rfl⟩ fun _ _ => trivial

theorem addSos_ends {s : Sos} (hs : ∀ e ∈ s.entries, e.1 < m.vars.size) :
    (addSos s).Ends Addition m fun _ _ => True :=
  .single ⟨.sos hs, rfl⟩ fun _ _ => trivial

theorem setObjective_ends {o : Objective} (ht : o.term.Below m.vars.size) :
    (setObjective o).Ends Model.Edit m fun _ _ => True := by
  refine ⟨?_, fun _ _ => trivial⟩
  unfold setObjective
  rcases h : m.setObjective o with c | m'
  · exact .refl
  · exact .single (.objective ht h)

/-- Moving the constant to the other side leaves a row without one. -/
theorem addLinear_ends (name : String) {t : Term} (rel : ConRel) (flags : ConFlags)
    (ht : t.Below m.vars.size) : (addLinear name t rel flags).Ends Addition m fun _ _ => True := by
  refine .single ⟨.row ?_, rfl⟩ fun _ _ => trivial
  cases rel with
  | le => exact ⟨ht, rfl, t.canonical.2, rfl⟩
  | ge => exact ⟨ht, rfl, t.canonical.2, rfl⟩
  | eq => exact ⟨ht, rfl, t.canonical.2, rfl, _, rfl⟩

theorem helper_ends (base suffix : String) {kind : VarKind} {lower upper : Number}
    (h : Variable.WellFormed ⟨base ++ "_" ++ suffix, kind, lower, upper, none, none, 0⟩) :
    (helper base suffix kind lower upper).Ends Addition m fun m' t =>
      m.vars.size ≤ m'.vars.size ∧ t.Below m'.vars.size := by
  refine (addVariable_ends h rfl).bind ?_
  rintro m' v _ ⟨rfl, hs⟩
  refine .pure ⟨?_, Term.below_ofVar ?_⟩ <;> omega

theorem indicatorVariable_ends (base : String) :
    (indicatorVariable base).Ends Addition m fun m' t =>
      m.vars.size ≤ m'.vars.size ∧ t.Below m'.vars.size :=
  helper_ends base "vif" ⟨fun _ => ⟨rfl, rfl⟩, fun _ => ⟨Number.isWhole_zero, Number.isWhole_one⟩⟩

/-- A row does not change the number of variables, so that the terms of all rows to come may be
compared with one number. -/
theorem row_then {n : Nat} {base suffix : String} {flags : ConFlags} {t : Term} {rel : ConRel}
    {f : Unit → Build α} (hm : m.vars.size = n) (ht : t.Below n)
    (hf : ∀ m', m'.vars.size = n → (f ()).Ends Addition m' Q) :
    (row base suffix flags t rel >>= f).Ends Addition m Q := by
  have hrow : (row base suffix flags t rel).Ends Addition m fun m' _ => m'.vars.size = n := by
    refine ⟨(addLinear_ends _ rel flags (hm ▸ ht)).changes, ?_⟩
    intro _ _
    cases rel <;> exact hm
  exact hrow.bind fun m' _ _ hm' => hf m' hm'

theorem row_ends (base suffix : String) (flags : ConFlags) {t : Term} (rel : ConRel)
    (ht : t.Below m.vars.size) : (row base suffix flags t rel).Ends Addition m fun _ _ => True :=
  addLinear_ends _ rel flags ht

/-- Only terms with variables of the model have bounds. -/
theorem bounds_ends (cause : String → Cause) (t : Term) :
    (bounds cause t).Ends Addition m fun m' _ => m' = m ∧ t.Below m.vars.size := by
  unfold bounds
  refine ⟨?_, ?_⟩
  · split <;> exact .refl
  · split
    · rename_i b hb
      exact fun _ _ => ⟨rfl, (Model.bounds_ok hb).1⟩
    · exact fun _ ha => nomatch ha

theorem requireIntegral_ends (t : Term) :
    (requireIntegral t).Ends Addition m fun m' _ => m' = m ∧ t.Below m.vars.size := by
  unfold requireIntegral
  refine ⟨?_, ?_⟩
  · split <;> exact .refl
  · split
    · exact fun _ ha => nomatch ha
    · rename_i hf
      exact fun _ _ => ⟨rfl, (Model.integral_of_no_fault hf).1⟩

/-! ### Conditions -/

section Conditions

variable (base : String) (flags : ConFlags)

theorem below_one (n : Nat) : one.Below n := Term.below_ofConstant n 1

theorem atMostZero_ends (t : Term) :
    (atMostZero base flags t).Ends Addition m fun m' r => r.Below m'.vars.size := by
  refine (bounds_ends _ t).bind ?_
  rintro m b _ ⟨rfl, ht⟩
  refine (indicatorVariable_ends base).bind ?_
  rintro m₁ r _ ⟨hs, hr⟩
  have ht₁ := ht.mono hs
  refine row_then rfl ?_ fun m₂ h₂ => row_then h₂ ?_ fun m₃ h₃ => .pure (h₃ ▸ hr)
  · exact Term.below_sub (Term.below_add ht₁ (Term.below_scale hr)) (Term.below_ofConstant _ _)
  · exact Term.below_sub (Term.below_sub ht₁ (Term.below_scale hr)) (below_one _)

variable {a b : Term} (ha : a.Below m.vars.size) (hb : b.Below m.vars.size)

include ha hb

theorem conjunction_ends :
    (conjunction base flags a b).Ends Addition m fun m' r => r.Below m'.vars.size := by
  refine (indicatorVariable_ends base).bind ?_
  rintro m₁ r _ ⟨hs, hr⟩
  have ha₁ := ha.mono hs
  have hb₁ := hb.mono hs
  refine row_then rfl (Term.below_sub hr ha₁) fun m₂ h₂ =>
    row_then h₂ (Term.below_sub hr hb₁) fun m₃ h₃ => row_then h₃ ?_ fun m₄ h₄ => .pure (h₄ ▸ hr)
  exact Term.below_sub (Term.below_sub (Term.below_add ha₁ hb₁) hr) (below_one _)

theorem disjunction_ends :
    (disjunction base flags a b).Ends Addition m fun m' r => r.Below m'.vars.size := by
  refine (indicatorVariable_ends base).bind ?_
  rintro m₁ r _ ⟨hs, hr⟩
  have ha₁ := ha.mono hs
  have hb₁ := hb.mono hs
  refine row_then rfl (Term.below_sub hr ha₁) fun m₂ h₂ =>
    row_then h₂ (Term.below_sub hr hb₁) fun m₃ h₃ => row_then h₃ ?_ fun m₄ h₄ => .pure (h₄ ▸ hr)
  exact Term.below_sub (Term.below_sub hr ha₁) hb₁

theorem exclusion_ends :
    (exclusion base flags a b).Ends Addition m fun m' r => r.Below m'.vars.size := by
  refine (indicatorVariable_ends base).bind ?_
  rintro m₁ r _ ⟨hs, hr⟩
  have ha₁ := ha.mono hs
  have hb₁ := hb.mono hs
  refine row_then rfl (Term.below_sub (Term.below_sub hr ha₁) hb₁) fun m₂ h₂ =>
    row_then h₂ (Term.below_add (Term.below_sub hr ha₁) hb₁) fun m₃ h₃ =>
    row_then h₃ (Term.below_add (Term.below_sub hr hb₁) ha₁) fun m₄ h₄ =>
    row_then h₄ ?_ fun m₅ h₅ => .pure (h₅ ▸ hr)
  exact Term.below_sub (Term.below_add (Term.below_add hr ha₁) hb₁) (Term.below_ofConstant _ _)

omit ha hb

theorem zeroIndicator_ends (t : Term) :
    (zeroIndicator base flags t).Ends Addition m fun m' r => r.Below m'.vars.size := by
  refine (atMostZero_ends base flags t).bind fun m₁ a _ ha => ?_
  refine (atMostZero_ends base flags t.neg).bind fun m₂ b h₂ hb => ?_
  exact conjunction_ends base flags (ha.mono (Additions.size_le h₂)) hb

theorem atom_ends (t : Term) (op : Comparison) :
    (atom base flags t op).Ends Addition m fun m' r => r.Below m'.vars.size := by
  refine (requireIntegral_ends t).bind fun m₁ _ _ _ => ?_
  cases op with
  | eq => exact zeroIndicator_ends base flags t
  | ne =>
    exact (zeroIndicator_ends base flags t).bind fun _ _ _ he =>
      .pure (Term.below_sub (below_one _) he)
  | lt | le | gt | ge => exact atMostZero_ends base flags _

/-- By induction on the condition. Its operands are evaluated one after the other, and the first
term is still about the variables of the model when the second is there. -/
theorem indicator_ends (c : Condition) :
    (indicator base flags c).Ends Addition m fun m' r => r.Below m'.vars.size := by
  induction c generalizing m with
  | atom t op => exact atom_ends base flags t op
  | not c ih => exact ih.bind fun _ _ _ ha => .pure (Term.below_sub (below_one _) ha)
  | and c d ihc ihd =>
    exact ihc.bind fun _ _ _ ha => ihd.bind fun _ _ h₂ hb =>
      conjunction_ends base flags (ha.mono (Additions.size_le h₂)) hb
  | or c d ihc ihd =>
    exact ihc.bind fun _ _ _ ha => ihd.bind fun _ _ h₂ hb =>
      disjunction_ends base flags (ha.mono (Additions.size_le h₂)) hb
  | xor c d ihc ihd =>
    exact ihc.bind fun _ _ _ ha => ihd.bind fun _ _ h₂ hb =>
      exclusion_ends base flags (ha.mono (Additions.size_le h₂)) hb

/-! ### Conditional constraints and absolute values -/

theorem relaxed_ends (suffix : String) {t selected : Term} (active : Bool) (slack : Rat)
    (rel : ConRel) (ht : t.Below m.vars.size) (hs : selected.Below m.vars.size) :
    (relaxed base flags suffix t selected active slack rel).Ends Addition m fun _ _ => True := by
  refine row_ends base suffix flags rel ?_
  cases active with
  | true =>
    exact Term.below_sub (Term.below_add ht (Term.below_scale hs)) (Term.below_ofConstant _ _)
  | false => exact Term.below_sub ht (Term.below_scale hs)

theorem branch_ends (r : Requirement) {selected : Term} (active : Bool)
    (hs : selected.Below m.vars.size) :
    (branch base flags r selected active).Ends Addition m fun _ _ => True := by
  refine (bounds_ends _ r.term).bind ?_
  rintro m₁ b _ ⟨rfl, ht⟩
  obtain ⟨t, rel⟩ := r
  cases rel with
  | le => exact relaxed_ends base flags _ active _ .le ht hs
  | ge => exact relaxed_ends base flags _ active _ .ge ht hs
  | eq =>
    refine (relaxed_ends base flags _ active _ .le ht hs).bind fun m₂ _ h₂ _ => ?_
    have hsize := Additions.size_le h₂
    exact relaxed_ends base flags _ active _ .ge (ht.mono hsize) (hs.mono hsize)

end Conditions

theorem conditional_ends (c : Conditional) : (conditional c).Ends Addition m fun _ _ => True := by
  refine (indicator_ends c.name c.flags c.condition).bind fun m₁ selected _ hs => ?_
  refine (branch_ends c.name c.flags c.yes true hs).bind fun m₂ _ h₂ _ => ?_
  split
  · exact .pure trivial
  · exact branch_ends c.name c.flags _ false (hs.mono (Additions.size_le h₂))

theorem absolute_ends (t : Term) :
    (absolute t).Ends Addition m fun m' r => r.Below m'.vars.size := by
  refine (bounds_ends _ t).bind ?_
  rintro m₁ ⟨low, high⟩ _ ⟨rfl, ht⟩
  dsimp only
  split
  · exact .pure ht
  split
  · exact .pure (Term.below_neg ht)
  refine (helper_ends "vabs" "sign" ⟨fun _ => ⟨rfl, rfl⟩, fun _ =>
    ⟨Number.isWhole_zero, Number.isWhole_one⟩⟩).bind ?_
  rintro m₂ s _ ⟨hs₂, hs⟩
  have habs (upper : Number) : Variable.WellFormed
      ⟨"vabs" ++ "_" ++ "abs", .continuous, 0, upper, none, none, 0⟩ :=
    ⟨nofun, fun h => absurd rfl h⟩
  refine (helper_ends "vabs" "abs" (habs _)).bind ?_
  rintro m₃ r _ ⟨hs₃, hr⟩
  have ht := ht.mono (hs₂.trans hs₃)
  have hs := hs.mono hs₃
  have hrt := Term.below_sub hr ht
  refine row_then rfl ?_ fun m₄ h₄ => row_then h₄ (Term.below_sub ht (Term.below_scale hs))
    fun m₅ h₅ => row_then h₅ hrt fun m₆ h₆ => row_then h₆ (Term.below_add hr ht)
    fun m₇ h₇ => row_then h₇ ?_ fun m₈ h₈ => row_then h₈ ?_ fun m₉ h₉ => .pure (h₉ ▸ hr)
  · exact Term.below_sub (Term.below_add ht (Term.below_scale hs)) (Term.below_ofConstant _ _)
  · exact Term.below_sub (Term.below_add hrt (Term.below_ofConstant _ _)) (Term.below_scale hs)
  · exact Term.below_sub (Term.below_add hr ht) (Term.below_scale hs)

end Build

end ModelLang
