import ModelLang.Eval.Declaration
import ModelLang.Proofs.Ends
import ModelLang.Proofs.Shape

/-!
# ModelLang.Proofs.Collect

Tuples that an index set admits, collected with what is evaluated for each. They come in the order
of the set that they are taken from, each once at most, so that they always make a set again, and
this set has them in the same order (`Collected.ofTuples`). Building the index set of a declaration
therefore never fails once the tuples are collected.
-/

namespace ModelLang

open Eval

/-- The keys are some members of a set, in its order. -/
def Collected {α : Type} (entries : List (Tuple × α)) : Prop :=
  ∃ s : TupleSet, (entries.map Prod.fst).Sublist s.tuples

/-- The same while the set is visited, the newest tuple in front. -/
def CollectedFrom {α : Type} (visited : List Tuple) (acc : List (Tuple × α)) : Prop :=
  (acc.reverse.map Prod.fst).Sublist visited

theorem Collected.ofTuples {α : Type} {entries : List (Tuple × α)} (h : Collected entries) :
    ∃ r, TupleSet.ofTuples (entries.map Prod.fst) = .ok r ∧ r.tuples = entries.map Prod.fst := by
  obtain ⟨s, hs⟩ := h
  exact s.ofTuples_of_nodup (fun _ ht => hs.subset ht) (hs.nodup s.nodup)

/-- What is collected may have a property `J` that speaks of the values, too. -/
theorem Rules.collect {W : Workspace → Workspace → Prop}
    {P : Workspace → (α : Type) → (Workspace → α → Prop) → Eval α → Prop} (L : Rules W P)
    {α : Type} {F : Workspace → Scope → Prop} {index : IndexSet} {ctx : Context} {scope : Scope}
    {visit : Scope → Tuple → Eval α} {w : Workspace} (J : Workspace → List (Tuple × α) → Prop)
    (hmono : ∀ {w₁ w₂ es}, W w₁ w₂ → J w₁ es → J w₂ es)
    (hset : P w _ (fun _ _ => True) (index.evalSet ctx scope))
    (henter : ∀ w₁ t, W w w₁ →
      P w₁ _ (fun w₂ r => ∀ frame ∈ r, F w₂ frame) (index.enter ctx scope t))
    (hvisit : ∀ w₁ frame t es, W w w₁ → F w₁ frame → J w₁ es →
      P w₁ α (fun w₂ a => J w₂ (es ++ [(t, a)])) (visit frame t))
    (hnil : J w []) :
    P w _ (fun w' es => Collected es ∧ J w' es) (index.collect ctx scope visit) := by
  refine L.bind hset fun w₁ s h₁ _ => ?_
  have hfold : P w₁ _ (fun w' acc => CollectedFrom ([] ++ s.tuples) acc ∧ J w' acc.reverse)
      (ModelLang.foldTuples (index.enter ctx scope)
        (fun acc frame t => do
          let a ← visit frame t
          return (t, a) :: acc)
        s.tuples []) := by
    refine L.foldTuples (fun visited w' acc => CollectedFrom visited acc ∧ J w' acc.reverse)
      (fun hw h => ⟨h.1, hmono hw h.2⟩)
      (fun t h => ⟨h.1.trans (List.sublist_append_left _ _), h.2⟩)
      (fun w₂ t h₂ => henter w₂ t (L.trans h₁ h₂)) ?_ [] s.tuples ⟨.slnil, hmono h₁ hnil⟩
    intro visited acc w₂ frame t h₂ h hframe
    have hw := L.trans h₁ h₂
    refine L.bind (hvisit w₂ frame t acc.reverse hw hframe h.2) fun w₃ a _ ha => L.pure ⟨?_, ?_⟩
    · rw [CollectedFrom, List.reverse_cons, List.map_append]
      exact h.1.append (List.Sublist.refl _)
    · rwa [List.reverse_cons]
  exact L.bind hfold fun w₂ acc _ h => L.pure ⟨⟨s, h.1⟩, h.2⟩

/-! ## Index sets of declarations -/

section Domains

variable {α : Type} {index : IndexSet} {ctx : Context} {scope : Scope}
  {visit : Scope → Tuple → Eval α} {w w' : Workspace}

theorem Step.ends_any {σ ε β : Type} (x : Step σ ε β) (s : σ) :
    x.Ends (fun _ _ => True) s fun _ _ => True :=
  .single trivial fun _ _ => trivial

/-- Whatever is evaluated in between, and in every context. -/
theorem IndexSet.collect_ok {es : List (Tuple × α)}
    (h : index.collect ctx scope visit w = (.ok es, w')) : Collected es := by
  have hc : (index.collect ctx scope visit).Ends (fun _ _ => True) w
      fun _ es => Collected es ∧ True :=
    (Step.rules_ends _).collect (F := fun _ _ => True) (fun _ _ => True) (fun _ _ => trivial)
      (Step.ends_any _ w) (fun w₁ t _ => (Step.ends_any _ w₁).imp fun _ _ _ _ _ _ => trivial)
      (fun w₁ frame t _ _ _ _ => Step.ends_any _ w₁) trivial
  have hes := hc.result es
  rw [h] at hes
  exact (hes rfl).1

/-- The index set of a family holds the keys in the order of the entries. -/
theorem IndexSet.family_eq {es : List (Tuple × α)}
    (h : index.collect ctx scope visit w = (.ok es, w')) :
    ∃ s : TupleSet, s.tuples = es.map Prod.fst ∧
      index.family ctx scope visit w = (.ok ⟨some s, es, none⟩, w') := by
  obtain ⟨s, hs, ht⟩ := (collect_ok h).ofTuples
  refine ⟨s, ht, Step.bind_eq_ok.2 ⟨es, w', h, Step.bind_eq_ok.2 ⟨s, w', ?_, rfl⟩⟩⟩
  rw [hs]
  rfl

theorem IndexSet.domain_eq {es : List (Tuple × Unit)}
    (h : index.collect ctx scope (fun _ _ => pure ()) w = (.ok es, w')) :
    ∃ s : TupleSet, s.tuples = es.map Prod.fst ∧ index.domain ctx scope w = (.ok s, w') := by
  obtain ⟨s, hs, ht⟩ := (collect_ok h).ofTuples
  refine ⟨s, ht, Step.bind_eq_ok.2 ⟨es, w', h, ?_⟩⟩
  rw [hs]
  rfl

end Domains

/-! ## Sets in general -/

namespace TupleSet

/-- What is true of a set, whatever built it. -/
structure Regular (s : TupleSet) : Prop where
  nodup : s.tuples.Nodup
  length : ∀ t ∈ s, t.length = s.arity
  kinds : ∀ t ∈ s, ∀ u ∈ s, ∀ i : Nat, (t[i]?).map Elem.kind = (u[i]?).map Elem.kind
  arity_empty : s.isEmpty = true → s.arity = 0
  /-- Any member of another shape keeps a tuple out, and nothing else does. A refusal makes no set,
  so that the one at hand stays as it is. -/
  rejects : ∀ t, (∃ c, s.insert t = .error c) ↔ ∃ u ∈ s, Tuple.shape u ≠ Tuple.shape t
  accepts : ∀ t r, s.insert t = .ok r →
    r.tuples = (if t ∈ s then s.tuples else s.tuples ++ [t]) ∧
      r.arity = if s.isEmpty then t.length else s.arity
  /-- Members go into a new set in any order, some of them or all, also repeatedly. -/
  again : ∀ ts : List Tuple, (∀ t ∈ ts, t ∈ s) →
    ∃ r, ofTuples ts = .ok r ∧ r.tuples = firsts ts
  again_perm : ∀ ts : List Tuple, ts.Perm s.tuples → ∃ r, ofTuples ts = .ok r ∧ r.tuples = ts
  /-- Any two members tell whether two sets go together, and without members they always do. -/
  compatible : ∀ b : TupleSet, ∀ t ∈ s, ∀ u ∈ b, conflict? s b = clash? t u
  compatible_empty : ∀ b : TupleSet, s.isEmpty = true ∨ b.isEmpty = true → conflict? s b = none
  components : ∀ positions r, s.proj positions = .ok r →
    ∀ t ∈ s, ∀ p ∈ positions, 1 ≤ p ∧ ∃ e, t[p - 1]? = some e
  /-- Every part that is picked is a set again, with the tuples picked. -/
  parts : ∀ sets, (s.powerset = .ok sets ∨ ∃ least most, s.subsets least most = .ok sets) →
    ∀ p ∈ sets, p.tuples.Sublist s.tuples ∧ ofTuples p.tuples = .ok p

/-- The arity of what operations make, of two sets, of a list of places or of numbers. -/
structure Arities (a b : TupleSet) : Prop where
  joined : ∀ r, (a.union b = .ok r ∨ a.inter b = .ok r ∨ a.without b = .ok r ∨
    a.symDiff b = .ok r) → r.arity = if r.isEmpty then 0 else max a.arity b.arity
  cross : (a.cross b).arity = if (a.cross b).isEmpty then 0 else a.arity + b.arity
  proj : ∀ positions r, a.proj positions = .ok r →
    r.arity = if r.isEmpty then 0 else positions.length
  range : ∀ first last step closed r, range first last step closed = .ok r →
    r.arity = if r.isEmpty then 0 else 1
  count : ∀ n, (count n).arity = if (count n).isEmpty then 0 else 1

theorem conflict?_of_isEmpty {a b : TupleSet} (h : a.isEmpty = true ∨ b.isEmpty = true) :
    conflict? a b = none := by
  unfold conflict?
  split
  · rename_i s as t bs ha hb
    simp [isEmpty, ha, hb] at h
  · rfl

theorem regular (s : TupleSet) : s.Regular where
  nodup := s.nodup
  length _ := length_of_mem
  kinds := by
    intro t ht u hu i
    have h := congrArg (·[i]?) (s.uniform t ht u hu)
    simpa [Tuple.shape] using h
  arity_empty := arity_of_isEmpty
  rejects _ := insert_error_iff
  accepts := by
    intro t r h
    refine ⟨?_, insert_arity h⟩
    obtain ⟨hu, rfl⟩ := insert_ok_iff.1 h
    exact push_tuples hu
  again _ := s.ofTuples_of_subset
  again_perm ts h := s.ofTuples_of_nodup (fun _ ht => h.subset ht) (h.nodup_iff.2 s.nodup)
  compatible _ _ ht _ hu := conflict?_of_mem ht hu
  compatible_empty _ := conflict?_of_isEmpty
  components := by
    intro positions r h t ht p hp
    obtain ⟨h₁, h₂⟩ := proj_in_range h ht hp
    exact ⟨h₁, _, List.getElem?_eq_getElem (by omega)⟩
  parts := by
    rintro sets (h | ⟨least, most, h⟩) p hp
    · exact ⟨powerset_sublist h hp, p.ofTuples_tuples⟩
    · exact ⟨subsets_sublist h hp, p.ofTuples_tuples⟩

theorem arities (a b : TupleSet) : Arities a b where
  joined := by
    rintro r (h | h | h | h)
    · exact (joins_union h).arity
    · exact (joins_inter h).arity
    · exact (joins_without h).arity
    · exact (joins_symDiff h).arity
  cross := cross_arity a b
  proj _ _ := proj_arity
  range _ _ _ _ _ := range_arity
  count := count_arity

end TupleSet

/-- Every set has distinct members of one shape and its arity, which no operation needs to check
again: building the index set of a family or the domain of a declaration fails only where an
evaluation before it fails. -/
theorem TupleSet.representation :
    (∀ s : TupleSet, s.Regular) ∧ (∀ a b : TupleSet, Arities a b) ∧
      ∀ (index : IndexSet) (ctx : Context) (scope : Scope) (w w' : Workspace) (f : Failure),
        (index.domain ctx scope w = (.error f, w') →
          index.collect ctx scope (fun _ _ => pure ()) w = (.error f, w')) ∧
        ∀ (α : Type) (visit : Scope → Tuple → Eval α),
          index.family ctx scope visit w = (.error f, w') →
            index.collect ctx scope visit w = (.error f, w') := by
  refine ⟨regular, arities, fun index ctx scope w w' f => ⟨fun h => ?_, fun α visit h => ?_⟩⟩
  · rcases Step.bind_eq_error.1 h with h | ⟨es, w₁, hc, _⟩
    · exact h
    · obtain ⟨s, _, hs⟩ := IndexSet.domain_eq hc
      rw [hs] at h
      cases h
  · rcases Step.bind_eq_error.1 h with h | ⟨es, w₁, hc, _⟩
    · exact h
    · obtain ⟨s, _, hs⟩ := IndexSet.family_eq hc
      rw [hs] at h
      cases h

end ModelLang
