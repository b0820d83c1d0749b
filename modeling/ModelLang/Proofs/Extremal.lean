import ModelLang.Proofs.Collect
import ModelLang.Proofs.Ranking

/-!
# ModelLang.Proofs.Extremal

The tuples whose scores are the least or the greatest, and these scores. Both evaluations visit the
tuples that an index set admits, and do so in step with collecting the scores
(`IndexSet.collect_along`). What they make of the scores is the ranking of the tuples on the one
hand, and a number that is kept as long as no better one comes on the other
(`Aggregate.step_found`).
-/

namespace ModelLang

open Eval

/-! ## Visits in step -/

/-- A visit that gets along with every step of another one gets along with all of it, through the
same states. -/
theorem foldTuples_along {β γ : Type} {enter : Tuple → Eval (Option Scope)}
    {visit : β → Scope → Tuple → Eval β} {visit' : γ → Scope → Tuple → Eval γ} (R : β → γ → Prop)
    (hstep : ∀ b c frame t w b' w', R b c → visit b frame t w = (.ok b', w') →
      ∃ c', visit' c frame t w = (.ok c', w') ∧ R b' c')
    {ts : List Tuple} {b b' : β} {c : γ} {w w' : Workspace} (hR : R b c)
    (h : foldTuples enter visit ts b w = (.ok b', w')) :
    ∃ c', foldTuples enter visit' ts c w = (.ok c', w') ∧ R b' c' := by
  induction ts generalizing b c w with
  | nil =>
    cases h
    exact ⟨c, rfl, hR⟩
  | cons t ts ih =>
    unfold foldTuples at h ⊢
    simp only [Step.bind_eq_ok] at h ⊢
    obtain ⟨o, w₁, ho, h⟩ := h
    cases o with
    | none =>
      obtain ⟨c', hc', hR'⟩ := ih hR h
      exact ⟨c', ⟨none, w₁, ho, hc'⟩, hR'⟩
    | some frame =>
      simp only [Step.bind_eq_ok] at h
      obtain ⟨b₁, w₂, hb, h⟩ := h
      obtain ⟨c₁, hc, hR₁⟩ := hstep b c frame t w₁ b₁ w₂ hR hb
      obtain ⟨c', hc', hR'⟩ := ih hR₁ h
      exact ⟨c', ⟨some frame, w₁, ho, Step.bind_eq_ok.2 ⟨c₁, w₂, hc, hc'⟩⟩, hR'⟩

section Scores

variable {index : IndexSet} {ctx : Context} {scope : Scope} {w w' : Workspace} {op : String}
  {body : Expr}

theorem Expr.eval_of_evalNumber {n : Number} (h : body.evalNumber ctx scope op w = (.ok n, w')) :
    body.eval ctx scope w = (.ok (.number n), w') := by
  obtain ⟨v, w₁, hv, hn⟩ := Step.bind_eq_ok.1 h
  obtain ⟨hnumber, rfl⟩ := located_ok hn
  cases v with
  | number m =>
    cases hnumber
    exact hv
  | string _ | truth _ | tuple _ | set _ | term _ => cases hnumber

/-- A visit in step with collecting the scores, which it gets along with score by score. -/
theorem IndexSet.collect_along {γ : Type} {scored : List (Tuple × Number)}
    {visit : γ → Scope → Tuple → Eval γ} (R : List (Tuple × Number) → γ → Prop)
    (hstep : ∀ es c frame t w n w', R es c → body.eval ctx frame w = (.ok (.number n), w') →
      ∃ c', visit c frame t w = (.ok c', w') ∧ R ((t, n) :: es) c')
    {c : γ} (hR : R [] c)
    (h : index.collect ctx scope (fun frame _ => body.evalNumber ctx frame op) w =
      (.ok scored, w')) :
    ∃ s w₁ c', index.evalSet ctx scope w = (.ok s, w₁) ∧
      foldTuples (index.enter ctx scope) visit s.tuples c w₁ = (.ok c', w') ∧
      R scored.reverse c' := by
  obtain ⟨s, w₁, hs, h⟩ := Step.bind_eq_ok.1 h
  obtain ⟨es, w₂, hes, h⟩ := Step.bind_eq_ok.1 h
  cases h
  have hvisit : ∃ c', foldTuples (index.enter ctx scope) visit s.tuples c w₁ = (.ok c', w') ∧
      R es c' := by
    refine foldTuples_along R (fun es c frame t w es' w' hes h => ?_) hR hes
    obtain ⟨n, w₁, hn, h⟩ := Step.bind_eq_ok.1 h
    cases h
    exact hstep es c frame t w n w' hes (Expr.eval_of_evalNumber hn)
  obtain ⟨c', hc', hR'⟩ := hvisit
  rw [List.reverse_reverse]
  exact ⟨s, w₁, c', hs, hc', hR'⟩

end Scores

/-! ## The best number -/

namespace Aggregate

/-- What finds the greatest or the least number. -/
def extremum (greatest : Bool) : Aggregate := if greatest then .max else .min

/-- What is found among some numbers: nothing if there are none, otherwise the best. -/
def Found (greatest : Bool) (ns : List Number) : Option Value → Prop
  | none => ns = []
  | some v => ∃ n, v = .number n ∧ Number.IsBest greatest n ns

variable {greatest : Bool}

theorem better_eq (kind : Aggregate) (m n : Number) :
    kind.better (.number m) (.number n) =
      .ok (.number (if decide (n < m) = decide (kind = .min) then n else m)) := by
  show Except.ok (ite _ _ _) = _
  split <;> rfl

/-- Of two numbers the better is kept, whichever it is if they are equal. -/
theorem better_numbers (greatest : Bool) (m n : Number) :
    ∃ r, (extremum greatest).better (.number m) (.number n) = .ok (.number r) ∧
      (r = n ∨ r = m) ∧ Number.AsGood greatest r n ∧ Number.AsGood greatest r m := by
  rw [better_eq]
  by_cases hlt : n < m
  · have hle : n ≤ m := Number.le_of_lt hlt
    cases greatest with
    | false => exact ⟨n, by simp [extremum, hlt], .inl rfl, .refl n, hle⟩
    | true => exact ⟨m, by simp [extremum, hlt], .inr rfl, hle, .refl m⟩
  · have hle : m ≤ n := Number.le_of_not_lt hlt
    cases greatest with
    | false => exact ⟨m, by simp [extremum, hlt], .inr rfl, hle, .refl m⟩
    | true => exact ⟨n, by simp [extremum, hlt], .inl rfl, .refl n, hle⟩

/-- With one more number, what is found is still the best. -/
theorem step_found {ns : List Number} {acc : Option Value} (h : Found greatest ns acc)
    (n : Number) :
    ∃ v, (extremum greatest).step acc (.number n) = .ok v ∧ Found greatest (n :: ns) (some v) := by
  cases acc with
  | none =>
    obtain rfl : ns = [] := h
    exact ⟨.number n, by cases greatest <;> rfl, n, rfl, .singleton n⟩
  | some v =>
    obtain ⟨m, rfl, hm, hbest⟩ := h
    obtain ⟨r, hr, hor, hrn, hrm⟩ := better_numbers greatest m n
    have hstep : (extremum greatest).step (some (.number m)) (.number n) =
        (extremum greatest).better (.number m) (.number n) := by
      cases greatest <;> rfl
    refine ⟨.number r, hstep.trans hr, r, rfl, ?_, ?_⟩
    · rcases hor with rfl | rfl
      · exact List.mem_cons_self
      · exact List.mem_cons_of_mem _ hm
    · intro l hl
      rcases List.mem_cons.1 hl with rfl | hl
      · exact hrn
      · exact hrm.trans (hbest l hl)

end Aggregate

/-! ## Evaluation -/

section Evaluation

variable {index : IndexSet} {body : Expr} {ctx : Context} {scope : Scope}
  {w w₁ w' : Workspace} {op : String} {scored : List (Tuple × Number)}

/-- The score that an aggregate finds is the best of those that are collected. -/
theorem Expr.eval_extremum (greatest : Bool) (span : Span) (hne : scored ≠ [])
    (h : index.collect ctx scope (fun frame _ => body.evalNumber ctx frame op) w =
      (.ok scored, w')) :
    ∃ n, (Expr.aggregate (.extremum greatest) index body span).eval ctx scope w =
        (.ok (.number n), w') ∧ Number.IsBest greatest n (scored.map Prod.snd) := by
  have hstart : (Aggregate.extremum greatest).start? = none := by
    cases greatest <;> rfl
  have hvisit : ∃ s w₁ r, index.evalSet ctx scope w = (.ok s, w₁) ∧
      foldTuples (index.enter ctx scope)
        (fun acc frame _ => do
          let v ← body.eval ctx frame
          let acc ← located body.span ((Aggregate.extremum greatest).step acc v)
          return some acc)
        s.tuples (Aggregate.extremum greatest).start? w₁ = (.ok r, w') ∧
      Aggregate.Found greatest (scored.reverse.map Prod.snd) r := by
    refine IndexSet.collect_along
      (fun es acc => Aggregate.Found greatest (es.map Prod.snd) acc) ?_ (by rw [hstart]; rfl) h
    intro es acc frame t w n w' hes hn
    obtain ⟨v, hv, hfound⟩ := Aggregate.step_found hes n
    refine ⟨some v, Step.bind_eq_ok.2 ⟨_, w', hn, Step.bind_eq_ok.2 ⟨v, w', ?_, rfl⟩⟩, hfound⟩
    rw [hv]
    rfl
  obtain ⟨s, w₁, r, hs, hr, hfound⟩ := hvisit
  cases r with
  | none => exact absurd hfound (by simpa [Aggregate.Found] using hne)
  | some v =>
    obtain ⟨n, rfl, hmem, hbest⟩ := hfound
    refine ⟨n, ?_, by simpa using hmem, fun m hm => hbest m (by simpa using hm)⟩
    rw [Expr.eval]
    exact Step.bind_eq_ok.2 ⟨s, w₁, hs, Step.bind_eq_ok.2 ⟨_, w', hr, rfl⟩⟩

/-- The best tuples are tuples of a set, so that they make a set again. -/
theorem Collected.ofBest (h : Collected scored) (greatest : Bool) (k : Nat) :
    ∃ r, TupleSet.ofTuples (bestTuples greatest k (scored.map Prod.swap)) = .ok r ∧
      r.tuples = bestTuples greatest k (scored.map Prod.swap) := by
  obtain ⟨s, hs⟩ := h
  have hperm := (List.mergeSort_perm scored fun a b =>
    decide (Number.AsGood greatest a.2 b.2)).map Prod.fst
  have hsub := (List.take_sublist k (scored.mergeSort fun a b =>
    decide (Number.AsGood greatest a.2 b.2))).map Prod.fst
  rw [bestTuples_swap]
  refine s.ofTuples_of_nodup (fun t ht => ?_) ?_
  · exact hs.subset (hperm.subset (hsub.subset ht))
  · exact hsub.nodup (hperm.nodup_iff.2 (hs.nodup s.nodup))

/-- What takes a count matters only where there is none. -/
theorem Value.asCount_ok {v : Value} {n : Nat} (h : v.asCount op = .ok n) (op' : String) :
    v.asCount op' = .ok n := by
  cases v with
  | number m =>
    cases m with
    | finite q => exact h
    | minusInfinity | plusInfinity => cases h
  | string _ | truth _ | tuple _ | set _ | term _ => cases h

/-- A missing count stands for one. -/
theorem Expr.optional_count {count : Option Expr} {c : Option Nat}
    (h : evalOption count (fun e => e.evalCount ctx scope op) w = (.ok c, w')) (op' : String) :
    ∃ k, Expr.optional ctx count scope w = (.ok k, w') ∧
      convertOr 1 (Value.asCount op') k w' = (.ok (c.getD 1), w') := by
  cases count with
  | none =>
    cases h
    exact ⟨none, rfl, rfl⟩
  | some e =>
    obtain ⟨n, w₁, hn, h⟩ := Step.bind_eq_ok.1 h
    cases h
    obtain ⟨v, w₂, hv, hn⟩ := Step.bind_eq_ok.1 hn
    obtain ⟨hcount, rfl⟩ := located_ok hn
    refine ⟨some (v, e.span), ?_, ?_⟩
    · rw [Expr.optional]
      exact Step.bind_eq_ok.2 ⟨v, w', hv, rfl⟩
    · show located e.span (v.asCount op') w' = _
      rw [Value.asCount_ok hcount op']
      rfl

theorem Expr.eval_argExtremum (greatest : Bool) {count : Option Expr} {c : Option Nat} (span : Span)
    (hcount : evalOption count (fun e => e.evalCount ctx scope op) w = (.ok c, w₁))
    (h : index.collect ctx scope (fun frame _ => body.evalNumber ctx frame op) w₁ =
      (.ok scored, w')) :
    ∃ r, (Expr.argExtremum greatest count index body span).eval ctx scope w = (.ok (.set r), w') ∧
      r.tuples = bestTuples greatest (c.getD 1) (scored.map Prod.swap) := by
  obtain ⟨k, hk, hconvert⟩ := Expr.optional_count hcount (if greatest then "argmax" else "argmin")
  obtain ⟨r, hr, htuples⟩ := (IndexSet.collect_ok h).ofBest greatest (c.getD 1)
  have hvisit : ∃ s w₂ es, index.evalSet ctx scope w₁ = (.ok s, w₂) ∧
      foldTuples (index.enter ctx scope)
        (fun acc frame t => do
          let v ← body.eval ctx frame
          let n ← located body.span (v.asNumber (if greatest then "argmax" else "argmin"))
          return (n, t) :: acc)
        s.tuples [] w₂ = (.ok es, w') ∧ es = scored.reverse.map Prod.swap := by
    refine IndexSet.collect_along (fun es acc => acc = es.map Prod.swap) ?_ rfl h
    rintro es _ frame t w n w' rfl hn
    exact ⟨_, Step.bind_eq_ok.2 ⟨_, w', hn, Step.bind_eq_ok.2 ⟨n, w', rfl, rfl⟩⟩, rfl⟩
  obtain ⟨s, w₂, es, hs, hes, rfl⟩ := hvisit
  refine ⟨r, ?_, htuples⟩
  rw [Expr.eval]
  refine Step.bind_eq_ok.2 ⟨k, w₁, hk, Step.bind_eq_ok.2 ⟨_, w₁, hconvert, ?_⟩⟩
  refine Step.bind_eq_ok.2 ⟨s, w₂, hs, Step.bind_eq_ok.2 ⟨_, w', hes, ?_⟩⟩
  refine Step.bind_eq_ok.2 ⟨r, w', ?_, rfl⟩
  rw [List.map_reverse, List.reverse_reverse, hr]
  rfl

end Evaluation

/-- With the scores of the tuples that an index set admits, `argmax` and `argmin` give the tuples of
the best ranks, in the order of their ranks. Without a count this is the first tuple whose score is
what `max` or `min` finds. -/
theorem extremal_tuples (greatest : Bool) (count : Option Expr) (index : IndexSet) (body : Expr)
    (span₁ span₂ : Span) (ctx : Context) (scope : Scope) (w w₁ w' : Workspace) (op : String)
    (c : Option Nat) (scored : List (Tuple × Number))
    (hcount : evalOption count (fun e => e.evalCount ctx scope op) w = (.ok c, w₁))
    (hscored : index.collect ctx scope (fun frame _ => body.evalNumber ctx frame op) w₁ =
      (.ok scored, w')) :
    (∃ r, (Expr.argExtremum greatest count index body span₁).eval ctx scope w =
        (.ok (.set r), w') ∧ Selects greatest (c.getD 1) scored r.tuples) ∧
      (count = none → scored ≠ [] → ∃ r n t,
        (Expr.argExtremum greatest count index body span₁).eval ctx scope w = (.ok (.set r), w') ∧
        (Expr.aggregate (.extremum greatest) index body span₂).eval ctx scope w =
          (.ok (.number n), w') ∧
        r.tuples = [t] ∧ scored.find? (fun e => e.2 = n) = some (t, n)) := by
  obtain ⟨r, hr, htuples⟩ := Expr.eval_argExtremum greatest span₁ hcount hscored
  have hselects : Selects greatest (c.getD 1) scored r.tuples := by
    rw [htuples]
    exact bestTuples_selects greatest _ scored
  refine ⟨⟨r, hr, hselects⟩, fun hnone hne => ?_⟩
  subst hnone
  cases hcount
  obtain ⟨n, hn, hbest⟩ := Expr.eval_extremum greatest span₂ hne hscored
  obtain ⟨t, ht, hfind⟩ := hselects.find?_best hbest
  exact ⟨r, n, t, hr, hn, ht, hfind⟩

/-- Names with a number each, the greatest number at two of them. -/
def TupleSet.named : TupleSet :=
  ofUniform [[.text "a", .number 5], [.text "b", .number 4], [.text "c", .number 5]]
    (by simp [Tuple.shape, Elem.kind])

/-- The two names with the greatest number, and the first of them. -/
theorem extremal_tuples_named :
    let scope : Scope := [("S", .set .named)]
    let at₀ := Span.indetermined
    let index := IndexSet.mk (some [.name "x" at₀, .name "n" at₀]) (.name "S" at₀) none at₀
    let body := Expr.name "n" at₀
    let two := Expr.number 2 at₀
    let ctx := Context.ofSymbols [] .empty
    let w : Workspace := ⟨.empty, default⟩
    let scored : List (Tuple × Number) := [([.text "a", .number 5], .finite 5),
      ([.text "b", .number 4], .finite 4), ([.text "c", .number 5], .finite 5)]
    evalOption (some two) (fun e => e.evalCount ctx scope "argmax") w = (.ok (some 2), w) ∧
      evalOption (none : Option Expr) (fun e => e.evalCount ctx scope "argmax") w = (.ok none, w) ∧
      index.collect ctx scope (fun frame _ => body.evalNumber ctx frame "argmax") w =
        (.ok scored, w) ∧ scored ≠ [] ∧
      (∃ r, (Expr.argExtremum true (some two) index body at₀).eval ctx scope w =
        (.ok (.set r), w) ∧ Selects true 2 scored r.tuples) ∧
      ∃ r n t, (Expr.argExtremum true none index body at₀).eval ctx scope w = (.ok (.set r), w) ∧
        (Expr.aggregate (.extremum true) index body at₀).eval ctx scope w = (.ok (.number n), w) ∧
        r.tuples = [t] ∧ scored.find? (fun e => e.2 = n) = some (t, n) := by
  intro scope at₀ index body two ctx w scored
  have hcollect : index.collect ctx scope (fun frame _ => body.evalNumber ctx frame "argmax") w =
      (.ok scored, w) := rfl
  have hne : scored ≠ [] := List.cons_ne_nil _ _
  exact ⟨rfl, rfl, hcollect, hne,
    (extremal_tuples true (some two) index body at₀ at₀ ctx scope w w w "argmax" (some 2) scored
      rfl hcollect).1,
    (extremal_tuples true none index body at₀ at₀ ctx scope w w w "argmax" none scored
      rfl hcollect).2 rfl hne⟩

end ModelLang
