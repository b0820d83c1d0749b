import Mathlib.Data.Set.List
import ModelLang.Proofs.Extremal

/-!
# ModelLang.Proofs.MinMax

The least and the greatest number. The aggregate keeps a number while it visits tuples, and the
function compares the numbers that it is given; both come to the best number, which is the same in
any order (`Builtin.extremum_numbers`). So the aggregate is the function of the collected values,
failures included (`Expr.eval_extremum_eq`), and fails by itself only over nothing.
-/

namespace ModelLang

open Eval

variable {greatest : Bool}

/-! ## The best of some numbers -/

namespace Number

theorem IsBest.cons {best n : Number} {ns : List Number} (h : IsBest greatest best ns)
    (hb : Better greatest best n) : IsBest greatest best (n :: ns) := by
  refine ⟨List.mem_cons_of_mem n h.1, List.forall_mem_cons.2 ⟨?_, h.2⟩⟩
  rcases AsGood.total best n with hle | hle
  · exact hle
  · exact absurd hb (not_better.2 hle)

theorem IsBest.cons_self {best n : Number} {ns : List Number} (h : IsBest greatest best ns)
    (hb : ¬ Better greatest best n) : IsBest greatest n (n :: ns) :=
  ⟨List.mem_cons_self, List.forall_mem_cons.2
    ⟨.refl n, fun m hm => (not_better.1 hb).trans (h.2 m hm)⟩⟩

theorem extreme?_cons {best : Number} {ns : List Number} (h : extreme? greatest ns = some best)
    (n : Number) :
    Better greatest best n ∧ extreme? greatest (n :: ns) = some best ∨
      ¬ Better greatest best n ∧ extreme? greatest (n :: ns) = some n := by
  rw [extreme?, h]
  cases greatest with
  | false => exact (em (best < n)).imp (fun hb => ⟨hb, if_pos hb⟩) fun hb => ⟨hb, if_neg hb⟩
  | true => exact (em (n < best)).imp (fun hb => ⟨hb, if_pos hb⟩) fun hb => ⟨hb, if_neg hb⟩

theorem extreme?_isBest (greatest : Bool) {ns : List Number} (hne : ns ≠ []) :
    ∃ n, extreme? greatest ns = some n ∧ IsBest greatest n ns := by
  induction ns with
  | nil => exact absurd rfl hne
  | cons n ns ih =>
    cases ns with
    | nil => exact ⟨n, rfl, .singleton n⟩
    | cons m ns =>
      obtain ⟨best, hbest, h⟩ := ih (List.cons_ne_nil m ns)
      rcases extreme?_cons hbest n with ⟨hb, he⟩ | ⟨hb, he⟩
      · exact ⟨best, he, h.cons hb⟩
      · exact ⟨n, he, h.cons_self hb⟩

theorem extreme?_perm {ns ms : List Number} (h : ns.Perm ms) :
    extreme? greatest ns = extreme? greatest ms := by
  cases ns with
  | nil => rw [List.nil_perm.1 h]
  | cons n ns =>
    have hms : ms ≠ [] := by
      rintro rfl
      exact List.cons_ne_nil _ _ (List.perm_nil.1 h)
    obtain ⟨a, ha, hbest⟩ := extreme?_isBest greatest (List.cons_ne_nil n ns)
    obtain ⟨b, hb, hbest'⟩ := extreme?_isBest greatest hms
    rw [ha, hb, hbest.unique (hbest'.perm h)]

end Number

/-! ## The function -/

namespace Builtin

/-- What finds the greatest or the least of its arguments. -/
def best (greatest : Bool) : Builtin := if greatest then .max else .min

theorem candidates_numbers (op : String) (ns : List Number) :
    candidates op (ns.map Value.number) = .ok ns := by
  have hmap : (ns.map Value.number).mapM (Value.asNumber op) = .ok ns := by
    induction ns with
    | nil => rfl
    | cons n ns ih =>
      rw [List.map_cons, List.mapM_cons, ih]
      rfl
  cases ns with
  | nil => rfl
  | cons n ns => exact hmap

theorem candidates_set (op : String) {s : TupleSet} {qs : List Rat}
    (hs : s.tuples = qs.map fun q => [.number q]) :
    candidates op [.set s] = .ok (qs.map .finite) := by
  show s.tuples.mapM (memberNumber op) = _
  rw [hs]
  clear hs
  induction qs with
  | nil => rfl
  | cons q qs ih =>
    rw [List.map_cons, List.mapM_cons, ih]
    rfl

theorem memberNumber_eq (op : String) (t : Tuple) :
    (∃ n, memberNumber op t = .ok n) ∨ ∃ a b, memberNumber op t = .error (.typeMismatch op a b) := by
  unfold memberNumber
  split
  · exact .inl ⟨_, rfl⟩
  · exact .inr ⟨_, _, rfl⟩

theorem mapM_memberNumber (op : String) (ts : List Tuple) :
    (∃ ns, ts.mapM (memberNumber op) = .ok ns ∧ (ns = [] ↔ ts = [])) ∨
      ∃ a b, ts.mapM (memberNumber op) = .error (.typeMismatch op a b) := by
  induction ts with
  | nil => exact .inl ⟨[], rfl, iff_of_true rfl rfl⟩
  | cons t ts ih =>
    rw [List.mapM_cons]
    rcases memberNumber_eq op t with ⟨n, hn⟩ | ⟨a, b, hn⟩
    · rcases ih with ⟨ns, hns, _⟩ | ⟨a, b, h⟩
      · rw [hn, hns]
        exact .inl ⟨n :: ns, rfl, iff_of_false nofun nofun⟩
      · rw [hn, h]
        exact .inr ⟨a, b, rfl⟩
    · rw [hn]
      exact .inr ⟨a, b, rfl⟩

/-- The best of the candidates, if they are numbers and there are some. -/
theorem extremum_eq (greatest : Bool) (vs : List Value) :
    extremum greatest vs =
      match candidates (Aggregate.extremum greatest).name vs with
      | .error c => .error c
      | .ok ns =>
        match Number.extreme? greatest ns with
        | some n => .ok (.number n)
        | none => .error (.emptyDomain (Aggregate.extremum greatest).name) := by
  cases greatest <;> rfl

theorem extremum_numbers_eq (ns : List Number) :
    extremum greatest (ns.map .number) =
      match Number.extreme? greatest ns with
      | some n => .ok (.number n)
      | none => .error (.emptyDomain (Aggregate.extremum greatest).name) := by
  rw [extremum_eq, candidates_numbers]

/-- Numbers in the opposite order, as a loop leaves them behind. -/
theorem extremum_reverse (es : List (Tuple × Number)) :
    extremum greatest ((es.reverse.map Prod.snd).map .number) =
      match Number.extreme? greatest (es.map Prod.snd) with
      | some n => .ok (.number n)
      | none => .error (.emptyDomain (Aggregate.extremum greatest).name) := by
  have hperm : (es.reverse.map Prod.snd).Perm (es.map Prod.snd) := es.reverse_perm.map _
  rw [extremum_numbers_eq, Number.extreme?_perm hperm]

/-- Members that are no numbers are another matter. -/
theorem extremum_set_error (greatest : Bool) (s : TupleSet) :
    extremum greatest [.set s] = .error (.emptyDomain (Aggregate.extremum greatest).name) ↔
      s.tuples = [] := by
  have heq := extremum_eq greatest [.set s]
  dsimp only [candidates] at heq
  rcases mapM_memberNumber (Aggregate.extremum greatest).name s.tuples with
    ⟨ns, hns, hnil⟩ | ⟨a, b, h⟩
  · rw [← hnil, heq, hns]
    dsimp only
    by_cases hne : ns = []
    · subst hne
      exact iff_of_true rfl rfl
    · obtain ⟨n, hn, _⟩ := Number.extreme?_isBest greatest hne
      rw [hn]
      exact iff_of_false nofun hne
  · rw [heq, h]
    refine iff_of_false nofun fun hnil => ?_
    rw [hnil] at h
    cases h

theorem call_best {vs : List Value} (hne : vs ≠ []) (span : Span) :
    (best greatest).call vs span = located span (extremum greatest vs) := by
  cases vs with
  | nil => exact absurd rfl hne
  | cons v vs => cases greatest <;> rfl

theorem extremum_nil :
    extremum greatest [] = .error (.emptyDomain (Aggregate.extremum greatest).name) :=
  extremum_numbers_eq []

/-- The best number is found, in whatever order the numbers come. -/
theorem extremum_numbers (greatest : Bool) {ns : List Number} (hne : ns ≠ []) :
    ∃ n, Number.IsBest greatest n ns ∧
      ∀ ms : List Number, ms.Perm ns → extremum greatest (ms.map .number) = .ok (.number n) := by
  obtain ⟨n, hn, hbest⟩ := Number.extreme?_isBest greatest hne
  refine ⟨n, hbest, fun ms hms => ?_⟩
  rw [extremum_numbers_eq, Number.extreme?_perm hms, hn]

end Builtin

/-! ## The aggregate -/

/-- A visit that is another one up to what it keeps is so all along. -/
theorem foldTuples_map {β γ : Type} {enter : Tuple → Eval (Option Scope)}
    {visit : β → Scope → Tuple → Eval β} {visit' : γ → Scope → Tuple → Eval γ} (f : β → γ)
    (hstep : ∀ b frame t, visit' (f b) frame t = f <$> visit b frame t) (ts : List Tuple) (b : β) :
    foldTuples enter visit' ts (f b) = f <$> foldTuples enter visit ts b := by
  induction ts generalizing b with
  | nil => rfl
  | cons t ts ih =>
    rw [foldTuples, foldTuples, map_bind]
    congr 1
    funext o
    cases o with
    | none => exact ih b
    | some frame =>
      dsimp only
      rw [hstep, map_bind, bind_map_left]
      simp only [ih]

namespace Aggregate

theorem found_iff {ns : List Number} {acc : Option Value} :
    Found greatest ns acc ↔ acc = (Number.extreme? greatest ns).map .number := by
  cases ns with
  | nil =>
    cases acc with
    | none => exact iff_of_true rfl rfl
    | some v =>
      refine iff_of_false ?_ nofun
      rintro ⟨n, _, hn, _⟩
      cases hn
  | cons n ns =>
    obtain ⟨m, hm, hbest⟩ := Number.extreme?_isBest greatest (List.cons_ne_nil n ns)
    rw [hm]
    cases acc with
    | none => exact iff_of_false (List.cons_ne_nil n ns) nofun
    | some v =>
      constructor
      · rintro ⟨k, rfl, hk⟩
        rw [hk.unique hbest]
        rfl
      · rintro ⟨⟩
        exact ⟨m, rfl, hbest⟩

/-- With one more value, what is kept is still what the function finds. -/
theorem step_extreme (ns : List Number) (v : Value) :
    ((extremum greatest).step ((Number.extreme? greatest ns).map .number) v).map some =
      (v.asNumber (extremum greatest).name).map
        fun n => (Number.extreme? greatest (n :: ns)).map .number := by
  cases v with
  | number n =>
    obtain ⟨r, hr, hfound⟩ := step_found (found_iff.2 rfl) n
    rw [hr]
    exact congrArg Except.ok (found_iff.1 hfound)
  | string _ | truth _ | tuple _ | set _ | term _ =>
    cases Number.extreme? greatest ns <;> cases greatest <;> rfl

end Aggregate

section Evaluation

/-- Two results that are the same for what goes on with them. -/
theorem Eval.located_bind_pure {α β γ : Type} {x : Except Cause α} {y : Except Cause β} {f : α → γ}
    {g : β → γ} (span : Span) (h : x.map f = y.map g) :
    (do
      let a ← located span x
      return f a) = (do
      let b ← located span y
      return g b) := by
  have hmap {δ : Type} (x : Except Cause δ) (f : δ → γ) :
      (located span x >>= fun a => pure (f a)) = located span (x.map f) := by
    cases x <;> rfl
  rw [hmap, hmap, h]

variable {index : IndexSet} {body : Expr} {ctx : Context} {scope : Scope} {w w' : Workspace}

/-- The aggregate is the function of the numbers that are collected. -/
theorem Expr.eval_extremum_eq (span : Span) :
    (Expr.aggregate (.extremum greatest) index body span).eval ctx scope = (do
      let scored ← index.collect ctx scope fun frame _ =>
        body.evalNumber ctx frame (Aggregate.extremum greatest).name
      located span (Builtin.extremum greatest ((scored.map Prod.snd).map .number))) := by
  have hstart : (Aggregate.extremum greatest).start? = none := by cases greatest <;> rfl
  let kept (es : List (Tuple × Number)) : Option Value :=
    (Number.extreme? greatest (es.map Prod.snd)).map .number
  have hfold (s : TupleSet) :
      foldTuples (index.enter ctx scope)
        (fun acc frame _ => do
          let v ← body.eval ctx frame
          let acc ← located body.span ((Aggregate.extremum greatest).step acc v)
          return some acc)
        s.tuples (kept []) =
      kept <$> foldTuples (index.enter ctx scope)
        (fun es frame t => do
          let n ← body.evalNumber ctx frame (Aggregate.extremum greatest).name
          return (t, n) :: es)
        s.tuples [] := by
    refine foldTuples_map kept (fun es frame t => ?_) s.tuples []
    rw [map_bind, Expr.evalNumber, bind_assoc]
    congr 1
    funext v
    exact Eval.located_bind_pure body.span (Aggregate.step_extreme (es.map Prod.snd) v)
  rw [Expr.eval, hstart, IndexSet.collect, bind_assoc]
  congr 1
  funext s
  rw [show none = kept [] from rfl, hfold, bind_map_left, bind_assoc]
  congr 1
  funext es
  rw [pure_bind, Builtin.extremum_reverse]
  dsimp only [kept]
  cases Number.extreme? greatest (es.map Prod.snd) <;> rfl

/-! ## A set of numbers -/

variable {e : Expr} {x : String} {at₁ at₂ at₃ : Span} {op : String} {s : TupleSet} {qs : List Rat}

theorem IndexSet.enter_number (q : Rat) :
    (IndexSet.mk (some [.name x at₁]) e none at₂).enter ctx scope [.number q] =
      pure (some (scope.bind x (.number (.finite q)))) := by
  rfl

theorem Expr.evalNumber_bind (n : Number) :
    (Expr.name x at₃).evalNumber ctx (scope.bind x (.number n)) op = pure n := by
  rw [evalNumber, eval, Scope.lookup?_bind, if_pos rfl]
  rfl

theorem IndexSet.collect_numbers (hs : s.tuples = qs.map fun q => [.number q])
    (h : e.eval ctx scope w = (.ok (.set s), w')) :
    (IndexSet.mk (some [.name x at₁]) e none at₂).collect ctx scope
        (fun frame _ => (Expr.name x at₃).evalNumber ctx frame op) w =
      (.ok (qs.map fun q => ([.number q], .finite q)), w') := by
  have hset : (IndexSet.mk (some [.name x at₁]) e none at₂).evalSet ctx scope w = (.ok s, w') := by
    rw [IndexSet.evalSet, Step.bind_of_ok h]
    rfl
  have hfold (qs : List Rat) (es : List (Tuple × Number)) :
      foldTuples ((IndexSet.mk (some [.name x at₁]) e none at₂).enter ctx scope)
        (fun es frame t => do
          let n ← (Expr.name x at₃).evalNumber ctx frame op
          return (t, n) :: es)
        (qs.map fun q => [.number q]) es =
      pure ((qs.map fun q => ([.number q], .finite q)).reverse ++ es) := by
    induction qs generalizing es with
    | nil => rfl
    | cons q qs ih =>
      rw [List.map_cons, foldTuples, IndexSet.enter_number, pure_bind]
      dsimp only
      rw [Expr.evalNumber_bind, pure_bind, pure_bind, ih]
      simp
  rw [IndexSet.collect, Step.bind_of_ok hset, hs, hfold, pure_bind]
  simp

/-- The members of a set of numbers are compared as they are. -/
theorem Expr.eval_best_set (span : Span)
    (hset : ∀ v w', e.eval ctx scope w = (.ok v, w') →
      ∃ s, v = .set s ∧ ∀ t ∈ s, ∃ q, t = [.number q]) :
    (Expr.builtin (Builtin.best greatest) [e] span).eval ctx scope w =
      (Expr.aggregate (.extremum greatest) (.mk (some [.name x at₁]) e none at₂) (.name x at₃)
        span).eval ctx scope w := by
  rw [Expr.eval_extremum_eq, Expr.eval, Expr.values]
  rcases h : e.eval ctx scope w with ⟨f | v, w'⟩
  · have hindex : (IndexSet.mk (some [.name x at₁]) e none at₂).evalSet ctx scope w =
        (.error f, w') := by
      rw [IndexSet.evalSet, Step.bind_of_error h]
    rw [bind_assoc, Step.bind_of_error h, IndexSet.collect, bind_assoc, Step.bind_of_error hindex]
  · obtain ⟨s, rfl, hs⟩ := hset v w' h
    obtain ⟨qs, hqs⟩ : s.tuples ∈ Set.range (List.map fun q => [Elem.number q]) := by
      rw [Set.range_list_map]
      exact fun t ht => (hs t ht).imp fun q => Eq.symm
    have hnumbers : (qs.map fun q => ([Elem.number q], Number.finite q)).map Prod.snd =
        qs.map Number.finite := List.map_map
    have hextremum : Builtin.extremum greatest [.set s] =
        Builtin.extremum greatest ((qs.map Number.finite).map .number) := by
      rw [Builtin.extremum_eq, Builtin.candidates_set _ hqs.symm, Builtin.extremum_numbers_eq]
    rw [Step.bind_of_ok (IndexSet.collect_numbers hqs.symm h), hnumbers, ← hextremum, bind_assoc,
      Step.bind_of_ok h]
    exact congrFun (Builtin.call_best (List.cons_ne_nil _ _) span) w'

/-! ## No tuple -/

theorem foldTuples_ne_nil {α : Type} {enter : Tuple → Eval (Option Scope)}
    {visit : Scope → Tuple → Eval α} {ts : List Tuple} {es es' : List (Tuple × α)} (hne : es ≠ [])
    (h : foldTuples enter
      (fun es frame t => do
        let a ← visit frame t
        return (t, a) :: es)
      ts es w = (.ok es', w')) : es' ≠ [] := by
  induction ts generalizing es w with
  | nil =>
    cases h
    exact hne
  | cons t ts ih =>
    obtain ⟨o, w₁, _, h⟩ := Step.bind_eq_ok.1 h
    cases o with
    | none => exact ih hne h
    | some frame =>
      obtain ⟨_, w₂, hvisit, h⟩ := Step.bind_eq_ok.1 h
      obtain ⟨a, _, _, hpure⟩ := Step.bind_eq_ok.1 hvisit
      cases hpure
      exact ih (List.cons_ne_nil _ _) h

/-- Nothing is collected exactly if no tuple is admitted. -/
theorem foldTuples_eq_nil {α : Type} {enter : Tuple → Eval (Option Scope)}
    (visit : Scope → Tuple → Eval α) {ts : List Tuple} :
    foldTuples enter
        (fun es frame t => do
          let a ← visit frame t
          return (t, a) :: es)
        ts [] w = (.ok [], w') ↔
      anyTuple enter ts w = (.ok false, w') := by
  induction ts generalizing w with
  | nil => exact ⟨fun h => by cases h; rfl, fun h => by cases h; rfl⟩
  | cons t ts ih =>
    rw [foldTuples, anyTuple, Step.bind_eq_ok, Step.bind_eq_ok]
    refine exists_congr fun o => exists_congr fun w₁ => and_congr_right fun _ => ?_
    cases o with
    | none => exact ih
    | some frame =>
      refine iff_of_false (fun h => ?_) nofun
      obtain ⟨_, w₂, hvisit, h⟩ := Step.bind_eq_ok.1 h
      obtain ⟨a, _, _, hpure⟩ := Step.bind_eq_ok.1 hvisit
      cases hpure
      exact foldTuples_ne_nil (List.cons_ne_nil _ _) h rfl

theorem IndexSet.collect_eq_nil {α : Type} {visit : Scope → Tuple → Eval α} :
    index.collect ctx scope visit w = (.ok [], w') ↔
      (index.evalSet ctx scope >>= fun s => anyTuple (index.enter ctx scope) s.tuples) w =
        (.ok false, w') := by
  rw [IndexSet.collect, Step.bind_eq_ok, Step.bind_eq_ok]
  refine exists_congr fun s => exists_congr fun w₁ => and_congr_right fun _ => ?_
  rw [← foldTuples_eq_nil visit, Step.bind_eq_ok]
  constructor
  · rintro ⟨es, w₂, hes, hpure⟩
    obtain ⟨hreverse, rfl⟩ := Prod.mk.inj hpure
    rwa [List.reverse_eq_nil_iff.1 (Except.ok.inj hreverse)] at hes
  · intro hes
    exact ⟨[], w', hes, rfl⟩

/-- By itself the aggregate only fails over nothing. -/
theorem Expr.eval_extremum_error (span : Span) (f : Failure) :
    (Expr.aggregate (.extremum greatest) index body span).eval ctx scope w = (.error f, w') ↔
      index.collect ctx scope (fun frame _ =>
        body.evalNumber ctx frame (Aggregate.extremum greatest).name) w = (.error f, w') ∨
      index.collect ctx scope (fun _ _ => pure ()) w = (.ok [], w') ∧
        f = ⟨.emptyDomain (Aggregate.extremum greatest).name, span⟩ := by
  rw [eval_extremum_eq, Step.bind_eq_error]
  refine or_congr_right ⟨?_, ?_⟩
  · rintro ⟨scored, w₁, hscored, h⟩
    by_cases hne : scored = []
    · subst hne
      rw [List.map_nil, List.map_nil, Builtin.extremum_nil] at h
      cases h
      exact ⟨IndexSet.collect_eq_nil.2 (IndexSet.collect_eq_nil.1 hscored), rfl⟩
    · obtain ⟨n, _, hn⟩ := Builtin.extremum_numbers greatest
        (mt List.map_eq_nil_iff.1 hne : scored.map Prod.snd ≠ [])
      rw [hn _ (.refl _)] at h
      cases h
  · rintro ⟨hnil, rfl⟩
    refine ⟨[], w', IndexSet.collect_eq_nil.2 (IndexSet.collect_eq_nil.1 hnil), ?_⟩
    rw [List.map_nil, List.map_nil, Builtin.extremum_nil]
    rfl

end Evaluation

/-! ## Both ways to the best number -/

/-- Every sequence of numbers has a least and a greatest one, which the aggregate and the function
find in whatever order the numbers come. On a set of numbers they are the same evaluation. They fail
by themselves only where there is nothing to compare. -/
theorem least_and_greatest (greatest : Bool) :
    (∀ ns : List Number, ns ≠ [] → ∃ n, Number.IsBest greatest n ns ∧
      ∀ ms : List Number, ms.Perm ns →
        (∀ span, (Builtin.best greatest).call (ms.map .number) span = pure (.number n)) ∧
        ∀ (index : IndexSet) (body : Expr) (span : Span) (ctx : Context) (scope : Scope)
          (w w' : Workspace) (op : String) (scored : List (Tuple × Number)),
          index.collect ctx scope (fun frame _ => body.evalNumber ctx frame op) w =
              (.ok scored, w') →
            scored.map Prod.snd = ms →
            (Expr.aggregate (.extremum greatest) index body span).eval ctx scope w =
              (.ok (.number n), w')) ∧
    (∀ (e : Expr) (x : String) (at₁ at₂ at₃ span : Span) (ctx : Context) (scope : Scope)
      (w : Workspace),
      (∀ v w', e.eval ctx scope w = (.ok v, w') →
          ∃ s, v = .set s ∧ ∀ t ∈ s, ∃ q, t = [.number q]) →
        (Expr.builtin (Builtin.best greatest) [e] span).eval ctx scope w =
          (Expr.aggregate (.extremum greatest) (.mk (some [.name x at₁]) e none at₂) (.name x at₃)
            span).eval ctx scope w) ∧
    (∀ (index : IndexSet) (body : Expr) (span : Span) (ctx : Context) (scope : Scope)
      (w w' : Workspace) (f : Failure),
      (Expr.aggregate (.extremum greatest) index body span).eval ctx scope w = (.error f, w') ↔
        index.collect ctx scope (fun frame _ =>
          body.evalNumber ctx frame (Aggregate.extremum greatest).name) w = (.error f, w') ∨
        index.collect ctx scope (fun _ _ => pure ()) w = (.ok [], w') ∧
          f = ⟨.emptyDomain (Aggregate.extremum greatest).name, span⟩) ∧
    ∀ (s : TupleSet) (span : Span) (w : Workspace),
      (Builtin.best greatest).call [.set s] span w =
          (.error ⟨.emptyDomain (Aggregate.extremum greatest).name, span⟩, w) ↔
        s.tuples = [] := by
  refine ⟨fun ns hne => ?_, ?_, ?_, fun s span w => ?_⟩
  · obtain ⟨n, hbest, hn⟩ := Builtin.extremum_numbers greatest hne
    have hne' {ms : List Number} (h : ms.Perm ns) : ms ≠ [] := by
      rintro rfl
      exact hne (List.nil_perm.1 h)
    refine ⟨n, hbest, fun ms hms => ⟨fun span => ?_, ?_⟩⟩
    · rw [Builtin.call_best (mt List.map_eq_nil_iff.1 (hne' hms)), hn ms hms]
      rfl
    · rintro index body span ctx scope w w' op scored hscored rfl
      obtain ⟨m, hm, hbest'⟩ := Expr.eval_extremum greatest span
        (mt (congrArg (List.map Prod.snd)) (hne' hms)) hscored
      rw [hm, hbest'.unique (hbest.perm hms)]
  · intro e x at₁ at₂ at₃ span ctx scope w hset
    exact Expr.eval_best_set span hset
  · intro index body span ctx scope w w' f
    exact Expr.eval_extremum_error span f
  · rw [Builtin.call_best (List.cons_ne_nil _ _), ← Builtin.extremum_set_error]
    refine ⟨located_error, fun h => ?_⟩
    rw [h]
    rfl

/-- Two numbers as a set. -/
def TupleSet.oneAndThree : TupleSet :=
  ofUniform [[.number 1], [.number 3]] (by simp [Tuple.shape, Elem.kind])

/-- The greatest of a set in both ways, and the greatest with an infinity in another order. -/
theorem least_and_greatest_three :
    let scope : Scope := [("S", .set .oneAndThree)]
    let at₀ := Span.indetermined
    let e := Expr.name "S" at₀
    let ctx := Context.ofSymbols [] .empty
    let w : Workspace := ⟨.empty, default⟩
    let ns : List Number := [.finite 1, .finite 3, .plusInfinity]
    let ms : List Number := [.plusInfinity, .finite 1, .finite 3]
    (∀ v w', e.eval ctx scope w = (.ok v, w') →
        ∃ s, v = .set s ∧ ∀ t ∈ s, ∃ q, t = [.number q]) ∧
      (Expr.builtin .max [e] at₀).eval ctx scope w =
        (Expr.aggregate .max (.mk (some [.name "i" at₀]) e none at₀) (.name "i" at₀) at₀).eval
          ctx scope w ∧
      ns ≠ [] ∧ ms.Perm ns ∧
      ∃ n, Number.IsBest true n ns ∧ Builtin.max.call (ms.map .number) at₀ = pure (.number n) := by
  intro scope at₀ e ctx w ns ms
  have hset : ∀ v w', e.eval ctx scope w = (.ok v, w') →
      ∃ s, v = .set s ∧ ∀ t ∈ s, ∃ q, t = [.number q] := by
    rintro v w' ⟨⟩
    refine ⟨.oneAndThree, rfl, fun t ht => ?_⟩
    have ht' : t ∈ [[Elem.number 1], [Elem.number 3]] := ht
    simp only [List.mem_cons, List.not_mem_nil, or_false] at ht'
    rcases ht' with rfl | rfl
    · exact ⟨1, rfl⟩
    · exact ⟨3, rfl⟩
  have hne : ns ≠ [] := List.cons_ne_nil _ _
  have hperm : ms.Perm ns := by decide
  obtain ⟨n, hbest, hn⟩ := (least_and_greatest true).1 ns hne
  exact ⟨hset, (least_and_greatest true).2.1 e "i" at₀ at₀ at₀ at₀ ctx scope w hset, hne, hperm,
    n, hbest, (hn ms hperm).1 at₀⟩

end ModelLang
