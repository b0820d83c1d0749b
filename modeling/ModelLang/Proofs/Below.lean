import ModelLang.Proofs.Edit
import ModelLang.Proofs.Keyed

/-!
# ModelLang.Proofs.Below

Evaluation gives values about variables of the model only. A term is below `n` if it mentions the
first `n` variables only; the operators on values keep this, and what an expression adds to the
model leaves older values below the new number of variables. Hence the value of an expression is
below the number of variables where its evaluation ends, if the declared symbols and the scope are
below that where it starts (`Eval.sound`).
-/

namespace ModelLang

/-! ## Values -/

namespace Value

/-- The variables of the value are among the first `n`. -/
def Below (n : Nat) : Value → Prop
  | term t => t.Below n
  | _ => True

variable {n k : Nat} {a b v : Value}

theorem Below.mono (h : v.Below n) (hk : n ≤ k) : v.Below k := by
  cases v with
  | term t => exact Term.Below.mono h hk
  | number _ | string _ | truth _ | tuple _ | set _ => trivial

theorem below_of_noTerm (h : v.NoTerm) : v.Below n := by
  cases v with
  | term t => exact absurd rfl (h t)
  | number _ | string _ | truth _ | tuple _ | set _ => trivial

theorem below_ofTerm {t : Term} (h : t.Below n) : (ofTerm t).Below n := by
  unfold ofTerm
  split
  · trivial
  · exact h

theorem below_asTerm {op : String} {t : Term} (hv : v.Below n) (h : v.asTerm op = .ok t) :
    t.Below n := by
  cases v with
  | term u =>
    cases h
    exact hv
  | number m =>
    obtain ⟨q, _, rfl⟩ := (map_eq_ok _ _ _).1 h
    exact Term.below_ofConstant n q
  | string _ | truth _ | tuple _ | set _ => cases h

end Value

theorem Term.below_mul {n : Nat} {t u r : Term} (ht : t.Below n) (hu : u.Below n)
    (h : t.mul u = .ok r) : r.Below n := by
  unfold mul at h
  split at h
  · cases h
    exact below_scale ht
  · split at h
    · cases h
      exact below_scale hu
    · cases h

theorem Term.below_div {n : Nat} {t r : Term} {q : Rat} (ht : t.Below n) (h : t.div q = .ok r) :
    r.Below n := by
  unfold div at h
  split at h
  · cases h
  · cases h
    exact below_scale ht

namespace Value

variable {n : Nat} {a b v : Value}

/-- An operation on terms that adds no variables. -/
theorem below_linear {op : String} {f : Term → Term → Except Cause Term}
    (hf : ∀ s t r, s.Below n → t.Below n → f s t = .ok r → r.Below n) (ha : a.Below n)
    (hb : b.Below n) (h : linear op f a b = .ok v) : v.Below n := by
  unfold linear at h
  split at h
  · cases h
  · rename_i s hs
    split at h
    · cases h
    · rename_i t ht
      obtain ⟨r, hr, rfl⟩ := (map_eq_ok _ _ _).1 h
      exact below_ofTerm (hf s t r (below_asTerm ha hs) (below_asTerm hb ht) hr)

theorem below_add (ha : a.Below n) (hb : b.Below n) (h : a.add b = .ok v) : v.Below n := by
  have hl {c : Value} (h : linear "+" (fun s t => .ok (s.add t)) a b = .ok c) : c.Below n := by
    refine below_linear ?_ ha hb h
    rintro s t _ hs ht ⟨⟩
    exact Term.below_add hs ht
  unfold add at h
  split at h
  · obtain ⟨_, _, rfl⟩ := (map_eq_ok _ _ _).1 h
    trivial
  · cases h
    trivial
  · obtain ⟨_, _, rfl⟩ := (map_eq_ok _ _ _).1 h
    trivial
  · exact hl h
  · exact hl h
  · exact hl h
  · cases h

theorem below_sub (ha : a.Below n) (hb : b.Below n) (h : a.sub b = .ok v) : v.Below n := by
  have hl {c : Value} (h : linear "-" (fun s t => .ok (s.sub t)) a b = .ok c) : c.Below n := by
    refine below_linear ?_ ha hb h
    rintro s t _ hs ht ⟨⟩
    exact Term.below_sub hs ht
  unfold sub at h
  split at h
  · obtain ⟨_, _, rfl⟩ := (map_eq_ok _ _ _).1 h
    trivial
  · obtain ⟨_, _, rfl⟩ := (map_eq_ok _ _ _).1 h
    trivial
  · exact hl h
  · exact hl h
  · exact hl h
  · cases h

theorem below_mul (ha : a.Below n) (hb : b.Below n) (h : a.mul b = .ok v) : v.Below n := by
  have hl {c : Value} (h : linear "*" Term.mul a b = .ok c) : c.Below n :=
    below_linear (fun _ _ _ => Term.below_mul) ha hb h
  unfold mul at h
  split at h
  · obtain ⟨_, _, rfl⟩ := (map_eq_ok _ _ _).1 h
    trivial
  · cases h
    trivial
  · exact hl h
  · exact hl h
  · exact hl h
  · cases h

theorem below_div (ha : a.Below n) (h : a.div b = .ok v) : v.Below n := by
  unfold div at h
  split at h
  · obtain ⟨_, _, rfl⟩ := (map_eq_ok _ _ _).1 h
    trivial
  · split at h
    · obtain ⟨r, hr, rfl⟩ := (map_eq_ok _ _ _).1 h
      exact below_ofTerm (Term.below_div ha hr)
    · cases h
  · cases h
  · cases h
  · cases h

theorem below_pow (ha : a.Below n) (h : a.pow b = .ok v) : v.Below n := by
  unfold pow at h
  split at h
  · split at h
    · cases h
      exact ha
    · cases h
  · cases h
  · exact below_of_noTerm ((onRats_plain "^" power_usual).2 v h)

/-- The operators of arithmetic combine terms; all others give no term. -/
theorem below_binary (op : BinaryOp) (ha : a.Below n) (hb : b.Below n)
    (h : a.binary op b = .ok v) : v.Below n := by
  cases op with
  | add => exact below_add ha hb h
  | sub => exact below_sub ha hb h
  | mul => exact below_mul ha hb h
  | div => exact below_div ha h
  | pow => exact below_pow ha h
  | mod => exact below_of_noTerm ((onRats_plain "mod" remainder_usual).2 v h)
  | intDiv => exact below_of_noTerm ((onRats_plain "div" quotient_usual).2 v h)
  | set op => exact below_of_noTerm ((setOp_plain op).2 v h)
  | and => exact below_of_noTerm ((connective_plain "and" _).2 v h)
  | or => exact below_of_noTerm ((connective_plain "or" _).2 v h)
  | xor => exact below_of_noTerm ((connective_plain "xor" _).2 v h)
  | compare op =>
    obtain ⟨_, _, rfl⟩ := (map_eq_ok _ _ _).1 h
    trivial
  | mem =>
    simp only [binary] at h
    split at h
    · cases h
    · obtain ⟨_, _, rfl⟩ := (map_eq_ok _ _ _).1 h
      trivial

theorem below_unary (op : UnaryOp) (ha : a.Below n) (h : a.unary op = .ok v) : v.Below n := by
  cases op with
  | neg =>
    cases a with
    | number m =>
      cases h
      trivial
    | term t =>
      cases h
      exact Term.below_neg ha
    | string _ | truth _ | tuple _ | set _ => cases h
  | not =>
    obtain ⟨_, _, rfl⟩ := (map_eq_ok _ _ _).1 h
    trivial
  | factorial =>
    simp only [unary] at h
    split at h
    · obtain ⟨_, _, rfl⟩ := (map_eq_ok _ _ _).1 h
      trivial
    · cases h

end Value

theorem Aggregate.below_better (kind : Aggregate) {n : Nat} {acc v r : Value} (ha : acc.Below n)
    (hv : v.Below n) (h : kind.better acc v = .ok r) : r.Below n := by
  unfold better at h
  obtain ⟨_, _, h⟩ := (bind_eq_ok _ _ _).1 h
  obtain ⟨_, _, h⟩ := (bind_eq_ok _ _ _).1 h
  cases h
  split
  · exact hv
  · exact ha

theorem Aggregate.below_step (kind : Aggregate) {n : Nat} {acc : Option Value} {v r : Value}
    (ha : ∀ a ∈ acc, a.Below n) (hv : v.Below n) (h : kind.step acc v = .ok r) : r.Below n := by
  unfold step at h
  split at h
  · exact Value.below_add (ha _ rfl) hv h
  · exact Value.below_mul (ha _ rfl) hv h
  · exact below_better _ (ha _ rfl) hv h
  · obtain ⟨_, _, rfl⟩ := (map_eq_ok _ _ _).1 h
    exact hv

/-! ## Symbols and scopes -/

/-- All values of the family have `p`. -/
structure Family.All {α : Type} (p : α → Prop) (f : Family α) : Prop where
  entries : ∀ e ∈ f.entries, p e.2
  fallback : ∀ a ∈ f.fallback, p a

theorem Family.All.get {α : Type} {p : α → Prop} {f : Family α} (h : f.All p) {name : String}
    {index : Tuple} {a : α} (ha : f.get name index = .ok a) : p a := by
  unfold Family.get at ha
  split at ha
  · rename_i b hb
    cases ha
    rcases Option.or_eq_some_iff.1 hb with hf | ⟨_, hf⟩
    · exact h.entries _ (mem_of_find?_key hf)
    · exact h.fallback _ hf
  · cases ha

namespace Symbol

/-- The variables of the symbol are among the first `n`. -/
def Below (n : Nat) : Symbol → Prop
  | var f => f.All (· < n)
  | _ => True

theorem Below.mono {n k : Nat} {s : Symbol} (h : s.Below n) (hk : n ≤ k) : s.Below k := by
  cases s with
  | var f =>
    exact ⟨fun e he => (h.entries e he).trans_le hk, fun a ha => (h.fallback a ha).trans_le hk⟩
  | set _ | number _ | string _ | define _ => trivial

theorem below_lookup {n : Nat} {s : Symbol} {x : String} {index : Tuple} {v : Value}
    (hs : s.Below n) (h : s.lookup x index = .ok v) : v.Below n := by
  cases s with
  | var f =>
    obtain ⟨w, hw, rfl⟩ := (map_eq_ok _ _ _).1 h
    exact Term.below_ofVar (Family.All.get hs hw)
  | set f | number f | string f =>
    obtain ⟨_, _, rfl⟩ := (map_eq_ok _ _ _).1 h
    trivial
  | define d => cases h

end Symbol

namespace Symbols

/-- The variables of all symbols are among the first `n`. -/
def Below (n : Nat) (symbols : Symbols) : Prop :=
  ∀ e ∈ symbols, e.2.Below n

theorem Below.mono {n k : Nat} {symbols : Symbols} (h : symbols.Below n) (hk : n ≤ k) :
    symbols.Below k :=
  fun e he => (h e he).mono hk

theorem mem_of_get? {symbols : Symbols} {x : String} {s : Symbol} (h : symbols.get? x = some s) :
    (x, s) ∈ symbols :=
  mem_of_find?_key h

theorem mem_of_get {symbols : Symbols} {x : String} {s : Symbol} (h : symbols.get x = .ok s) :
    (x, s) ∈ symbols := by
  unfold get at h
  split at h
  · rename_i hs
    cases h
    exact mem_of_get? hs
  · cases h

end Symbols

/-- The variables of all bound values are among the first `n`. -/
def Scope.Below (n : Nat) (scope : Scope) : Prop :=
  ∀ x v, scope.lookup? x = some v → v.Below n

theorem Scope.below_nil (n : Nat) : Scope.Below n [] :=
  fun _ _ h => nomatch h

theorem Scope.Below.mono {n k : Nat} {scope : Scope} (h : scope.Below n) (hk : n ≤ k) :
    scope.Below k :=
  fun x v hv => (h x v hv).mono hk

theorem Scope.below_iff_fits {n : Nat} {scope : Scope} (bound : List String) :
    scope.Fits .all (Value.Below n) bound ↔ scope.Below n :=
  ⟨fun h _ _ hv => h.values (.inr trivial) hv, fun h => fits_all h⟩

/-! ## Evaluation -/

namespace Workspace

/-- The number of variables. -/
def size (w : Workspace) : Nat := w.model.vars.size

/-- What an evaluation may do at a time: add to the model, or leave it. -/
def Change (w w' : Workspace) : Prop :=
  Relation.ReflGen Model.Addition w.model w'.model

abbrev Changes : Workspace → Workspace → Prop := Relation.ReflTransGen Change

theorem Changes.additions {w w' : Workspace} (h : w.Changes w') : w.model.Additions w'.model :=
  Relation.ReflTransGen.lift' model (fun _ _ h => h.to_reflTransGen) _ _ h

theorem Changes.edits {w w' : Workspace} (h : w.Changes w') : w.model.Edits w'.model :=
  h.additions.edits

theorem Changes.size_le {w w' : Workspace} (h : w.Changes w') : w.size ≤ w'.size :=
  h.edits.size_le

/-- What a statement may do to the model at a time: edit it, or leave it. -/
def Revision (w w' : Workspace) : Prop :=
  Relation.ReflGen Model.Edit w.model w'.model

theorem Change.revision {w w' : Workspace} (h : w.Change w') : w.Revision w' :=
  h.mono fun _ _ h => h.1

theorem Revision.size_le {w w' : Workspace} (h : w.Revision w') : w.size ≤ w'.size :=
  Model.Edits.size_le h.to_reflTransGen

end Workspace

open Workspace (Change Changes)

namespace Eval

variable {α : Type} {w : Workspace}

/-- With declared symbols about variables of the model, the evaluation takes the workspace through
additions to the model, and its result has `Q`. -/
def Sound (symbols : Symbols) (w : Workspace) (α : Type) (Q : Workspace → α → Prop)
    (x : Eval α) : Prop :=
  symbols.Below w.size → x.Ends Change w Q

theorem Sound.rules (symbols : Symbols) : Rules Changes (Sound symbols) where
  refl _ := .refl
  trans := .trans
  pure h _ := .pure h
  bind hx hf hs := (hx hs).bind fun w₁ a h₁ ha => hf w₁ a h₁ ha (hs.mono (Changes.size_le h₁))

namespace Sound

variable {symbols : Symbols} {Q : Workspace → α → Prop} {x : Eval α}

theorem pure {a : α} (h : Q w a) : Sound symbols w α Q (Pure.pure a) :=
  (rules symbols).pure h

theorem bind {β : Type} {S : Workspace → β → Prop} {f : α → Eval β} (hx : Sound symbols w α Q x)
    (hf : ∀ w₁ a, w.Changes w₁ → Q w₁ a → Sound symbols w₁ β S (f a)) :
    Sound symbols w β S (x >>= f) :=
  (rules symbols).bind hx hf

theorem located {r : Except Cause α} (span : Span) (h : ∀ a, r = .ok a → Q w a) :
    Sound symbols w α Q (Eval.located span r) := by
  refine fun _ => .ofExcept fun a ha => h a ?_
  cases r with
  | error c => cases ha
  | ok b =>
    cases ha
    rfl

theorem fail (c : Cause) (span : Span) : Sound symbols w α Q (Eval.fail c span) :=
  fun _ => .fail _

theorem imp {S : Workspace → α → Prop} (h : Sound symbols w α Q x)
    (hQ : ∀ w₁ a, w.Changes w₁ → Q w₁ a → S w₁ a) : Sound symbols w α S x :=
  fun hs => (h hs).imp hQ

theorem anyhow (h : Sound symbols w α Q x) : Sound symbols w α (fun _ _ => True) x :=
  h.imp fun _ _ _ _ => trivial

/-- Work on the model changes the workspace as it changes the model. -/
theorem onModel {P : Model → α → Prop} {x : Build α} (span : Span)
    (h : x.Ends Model.Addition w.model P) (hQ : ∀ m a, P m a → Q { w with model := m } a) :
    Sound symbols w α Q (Eval.onModel span x) :=
  fun _ => (h.onPart rfl (fun _ _ h => .single h) hQ).mapError

theorem nextRandom : Sound symbols w Float (fun _ _ => True) Eval.nextRandom := by
  refine fun _ => .single ?_ fun _ _ => trivial
  unfold Eval.nextRandom
  rcases w.random.next with ⟨x, random⟩
  exact Relation.ReflGen.refl

end Sound

end Eval

open Eval (Sound)

theorem Builtin.call_sound {symbols : Symbols} {w : Workspace} {f : Builtin} {vs : List Value}
    (span : Span) (h : ∀ v ∈ vs, v.Below w.size) :
    Sound symbols w Value (fun w' v => v.Below w'.size) (f.call vs span) := by
  unfold call
  split
  · refine .bind (Q := fun _ _ => True) (.located span fun _ _ => trivial) fun w₁ b _ _ => ?_
    refine .bind .nextRandom fun w₂ x _ _ => ?_
    exact .bind (Q := fun _ _ => True) (.located span fun _ _ => trivial) fun w₃ q _ _ =>
      .pure trivial
  · rename_i t
    refine .bind (Q := fun w' u => u.Below w'.size)
      (.onModel span (Build.absolute_ends t) fun _ _ h => h) fun w₁ u _ hu => ?_
    exact .pure (Value.below_ofTerm hu)
  · exact .located span fun v hv => Value.below_of_noTerm ((onValues_plain f vs).2 v hv)

/-- Evaluation builds up values about variables of the model. -/
theorem Eval.sound_reasoning (symbols : Symbols) (tables : Table.Source) :
    ReasoningIn Changes symbols tables .all (fun w => Value.Below w.size) (fun _ => True)
      (Sound symbols) where
  refl _ := .refl
  trans := .trans
  mono h hv := hv.mono h.size_le
  located span h := Sound.located span h.1
  bind := Sound.bind
  harmless _ _ := trivial
  noTerm h := Value.below_of_noTerm h
  binary op ha hb := ⟨fun _ h => Value.below_binary op ha hb h, fun _ _ => trivial⟩
  unary op ha := ⟨fun _ h => Value.below_unary op ha h, fun _ _ => trivial⟩
  step kind ha hv := ⟨fun _ h => kind.below_step ha hv h, fun _ _ => trivial⟩
  lookup := by
    intro w x s index span _ hx hs
    exact Sound.located span (fun v hv => Symbol.below_lookup (hs _ (Symbols.mem_of_get hx)) hv) hs
  load _ _ _ _ _ := trivial
  call span _ hvs := Builtin.call_sound span hvs

theorem Eval.sound (symbols : Symbols) (tables : Table.Source) :
    EnsuresIn Changes (.ofSymbols symbols tables) .all (fun w => Value.Below w.size)
      (fun _ => True) (Sound symbols) :=
  (sound_reasoning symbols tables).ensures_ofSymbols (Vocabulary.closed_all symbols)

end ModelLang
