import ModelLang.Proofs.Blameless
import ModelLang.Proofs.Collect
import ModelLang.Proofs.Settled

/-!
# ModelLang.Proofs.Filtering

Filtering while a set is visited, and filtering the set beforehand. Where evaluations are settled,
an index set determines which tuples are visited and in which scopes (`Visits`), whatever is done
there, and every loop is one over these visits (`Visits.foldTuples_eq`). A set builder lists the
visited tuples, and the same pattern over its set visits them again in the same scopes
(`IndexSet.Visits.again`). So the two index sets can stand for each other.
-/

namespace ModelLang

open Eval

/-! ## Visits -/

/-- The tuples that are admitted, each with the scope of its visit. -/
inductive Visits (enter : Tuple → Eval (Option Scope)) :
    List Tuple → List (Tuple × Scope) → Prop where
  | nil : Visits enter [] []
  | skip {t : Tuple} {ts : List Tuple} {vs : List (Tuple × Scope)} :
      enter t = pure none → Visits enter ts vs → Visits enter (t :: ts) vs
  | visit {t : Tuple} {frame : Scope} {ts : List Tuple} {vs : List (Tuple × Scope)} :
      enter t = pure (some frame) → Visits enter ts vs →
        Visits enter (t :: ts) ((t, frame) :: vs)

namespace Visits

variable {enter enter' : Tuple → Eval (Option Scope)} {ts : List Tuple}
  {vs : List (Tuple × Scope)}

theorem sublist (h : Visits enter ts vs) : (vs.map Prod.fst).Sublist ts := by
  induction h with
  | nil => exact .slnil
  | skip _ _ ih => exact ih.cons _
  | visit _ _ ih => exact ih.cons_cons _

/-- Visited tuples are visited again where they are entered into the same scopes. -/
theorem again (h : Visits enter ts vs)
    (henter : ∀ t frame, enter t = pure (some frame) → enter' t = pure (some frame)) :
    Visits enter' (vs.map Prod.fst) vs := by
  induction h with
  | nil => exact .nil
  | skip _ _ ih => exact ih
  | visit ht _ ih => exact .visit (henter _ _ ht) ih

/-- A loop does something at the visits only. -/
theorem foldTuples_eq {β : Type} (h : Visits enter ts vs) (visit : β → Scope → Tuple → Eval β)
    (b : β) : foldTuples enter visit ts b = vs.foldlM (fun b v => visit b v.2 v.1) b := by
  induction h generalizing b with
  | nil => rfl
  | skip ht _ ih => rw [foldTuples, ht, pure_bind, ih]
  | visit ht _ ih =>
    rw [foldTuples, ht, pure_bind, List.foldlM_cons]
    simp only [ih]

theorem anyTuple_eq (h : Visits enter ts vs) : anyTuple enter ts = pure (!vs.isEmpty) := by
  induction h with
  | nil => rfl
  | skip ht _ ih => rw [anyTuple, ht, pure_bind, ih]
  | visit ht _ ih =>
    rw [anyTuple, ht, pure_bind]
    rfl

/-- A loop that comes to its end has visited all that it could. -/
theorem of_foldTuples {β : Type} {visit : β → Scope → Tuple → Eval β}
    (henter : ∀ t, Settled (enter t)) {b b' : β} {w w' : Workspace}
    (h : foldTuples enter visit ts b w = (.ok b', w')) : ∃ vs, Visits enter ts vs := by
  induction ts generalizing b w with
  | nil => exact ⟨[], .nil⟩
  | cons t ts ih =>
    obtain ⟨o, w₁, ho, h⟩ := Step.bind_eq_ok.1 h
    have hpure := ((henter t).of_run ho).1
    cases o with
    | none =>
      obtain ⟨vs, hvs⟩ := ih h
      exact ⟨vs, .skip hpure hvs⟩
    | some frame =>
      obtain ⟨b₁, w₂, _, h⟩ := Step.bind_eq_ok.1 h
      obtain ⟨vs, hvs⟩ := ih h
      exact ⟨(t, frame) :: vs, .visit hpure hvs⟩

end Visits

/-! ## Visits of an index set -/

/-- The tuples that an index set admits, each with the scope of its visit. -/
def IndexSet.Visits (ctx : Context) (scope : Scope) (index : IndexSet)
    (vs : List (Tuple × Scope)) : Prop :=
  ∃ s, index.evalSet ctx scope = pure s ∧ ModelLang.Visits (index.enter ctx scope) s.tuples vs

namespace IndexSet.Visits

variable {ctx : Context} {scope : Scope} {index : IndexSet} {vs : List (Tuple × Scope)}

theorem fold_eq {β γ : Type} (h : index.Visits ctx scope vs) (visit : β → Scope → Tuple → Eval β)
    (b : β) (k : β → Eval γ) :
    (do
      let s ← index.evalSet ctx scope
      let b ← foldTuples (index.enter ctx scope) visit s.tuples b
      k b) = vs.foldlM (fun b v => visit b v.2 v.1) b >>= k := by
  obtain ⟨s, hs, hvs⟩ := h
  rw [hs, pure_bind, hvs.foldTuples_eq]

/-- The same visits make the same loop. -/
theorem fold_congr {β γ : Type} {index' : IndexSet} (h : index.Visits ctx scope vs)
    (h' : index'.Visits ctx scope vs) (visit : β → Scope → Tuple → Eval β) (b : β)
    (k : β → Eval γ) :
    (do
      let s ← index.evalSet ctx scope
      let b ← foldTuples (index.enter ctx scope) visit s.tuples b
      k b) = (do
      let s ← index'.evalSet ctx scope
      let b ← foldTuples (index'.enter ctx scope) visit s.tuples b
      k b) :=
  (h.fold_eq visit b k).trans (h'.fold_eq visit b k).symm

theorem nonempty_eq (h : index.Visits ctx scope vs) (span : Span) :
    (Expr.nonempty index span).eval ctx scope = pure (.truth (!vs.isEmpty)) := by
  obtain ⟨s, hs, hvs⟩ := h
  rw [Expr.eval, hs, pure_bind, hvs.anyTuple_eq, pure_bind]

theorem collect_eq {α : Type} (h : index.Visits ctx scope vs) (visit : Scope → Tuple → Eval α) :
    index.collect ctx scope visit = (do
      let es ← vs.foldlM (fun es v => do
        let a ← visit v.2 v.1
        return (v.1, a) :: es) []
      return es.reverse) :=
  h.fold_eq _ _ _

theorem collect_unit (h : index.Visits ctx scope vs) :
    index.collect ctx scope (fun _ _ => pure ()) =
      pure ((vs.map Prod.fst).map fun t => (t, ())) := by
  have hfold (es : List (Tuple × Unit)) :
      vs.foldlM (fun es v => pure ((v.1, ()) :: es)) es =
        (pure (((vs.map Prod.fst).map fun t => (t, ())).reverse ++ es) :
          Eval (List (Tuple × Unit))) := by
    clear h
    induction vs generalizing es with
    | nil => rfl
    | cons v vs ih =>
      rw [List.foldlM_cons, pure_bind, ih]
      simp
  have hcollect := h.collect_eq fun _ _ => pure ()
  simp only [pure_bind, hfold] at hcollect
  simpa using hcollect

theorem foldlM_insert {span : Span} {acc r : TupleSet}
    (h : acc.insertAll (vs.map Prod.fst) = .ok r) :
    vs.foldlM (fun acc v => located span (acc.insert v.1)) acc = pure r := by
  induction vs generalizing acc with
  | nil =>
    cases h
    rfl
  | cons v vs ih =>
    rw [List.map_cons, TupleSet.insertAll] at h
    rw [List.foldlM_cons]
    split at h
    · rename_i s hs
      rw [hs]
      exact ih h
    · cases h

/-- Visited tuples are in a set, so that they make one again. -/
theorem ofTuples_eq (h : index.Visits ctx scope vs) :
    ∃ r, TupleSet.ofTuples (vs.map Prod.fst) = .ok r ∧ r.tuples = vs.map Prod.fst := by
  obtain ⟨s, _, hvs⟩ := h
  exact s.ofTuples_of_nodup (fun _ ht => hvs.sublist.subset ht) (hvs.sublist.nodup s.nodup)

/-- The set builder lists the visited tuples. -/
theorem setBuilder_eq (h : index.Visits ctx scope vs) (span : Span) :
    ∃ r, (Expr.setBuilder index none span).eval ctx scope = pure (.set r) ∧
      r.tuples = vs.map Prod.fst := by
  obtain ⟨r, hr, ht⟩ := h.ofTuples_eq
  refine ⟨r, ?_, ht⟩
  have hfold := h.fold_eq (fun acc _ t => located index.span (acc.insert t)) .empty
    fun r => pure (Value.set r)
  rw [foldlM_insert hr, pure_bind] at hfold
  rw [Expr.eval]
  exact hfold

variable {L : Vocabulary} {bound : List String} (hctx : ctx.Settles L)
  (hi : index.Within L bound)

include hctx hi

theorem of_fold {β γ : Type} {visit : β → Scope → Tuple → Eval β} {k : β → Eval γ} {b : β} {c : γ}
    {w w' : Workspace}
    (h : (do
      let s ← index.evalSet ctx scope
      let b ← foldTuples (index.enter ctx scope) visit s.tuples b
      k b : Eval γ) w = (.ok c, w')) :
    ∃ vs, index.Visits ctx scope vs := by
  obtain ⟨s, w₁, hs, h⟩ := Step.bind_eq_ok.1 h
  obtain ⟨b', w₂, hb, _⟩ := Step.bind_eq_ok.1 h
  obtain ⟨vs, hvs⟩ := Visits.of_foldTuples (hctx.enter hi scope) hb
  exact ⟨vs, s, ((hctx.evalSet hi scope).of_run hs).1, hvs⟩

theorem of_setBuilder {span : Span} {v : Value} {w w' : Workspace}
    (h : (Expr.setBuilder index none span).eval ctx scope w = (.ok v, w')) :
    ∃ vs, index.Visits ctx scope vs := by
  rw [Expr.eval] at h
  exact of_fold hctx hi h

end IndexSet.Visits

/-! ## The pattern over the filtered set -/

/-- The place of a pattern is told only where the number of components is wrong. -/
theorem Expr.matchPattern_span {ctx : Context} {pattern : Option (List Expr)} {span : Span}
    {t : Tuple} {scope : Scope} {r : Option Scope}
    (h : Expr.matchPattern ctx pattern span t scope = pure r) (span' : Span) :
    Expr.matchPattern ctx pattern span' t scope = pure r := by
  cases pattern with
  | none => exact h
  | some items =>
    unfold Expr.matchPattern at h ⊢
    split at h
    · cases congrFun h default
    · rename_i hl
      rwa [if_neg hl]

section Again

variable {ctx : Context} {scope : Scope} {index : IndexSet} {L : Vocabulary} {bound : List String}
  (hctx : ctx.Settles L) (hi : index.Within L bound)

include hctx hi

/-- An admitted tuple needs no condition. -/
theorem IndexSet.enter_again {t : Tuple} {frame : Scope}
    (h : index.enter ctx scope t = pure (some frame)) (set : Expr) (span : Span) :
    (IndexSet.mk index.pattern set none span).enter ctx scope t = pure (some frame) := by
  obtain ⟨pattern, set', condition, span'⟩ := index
  rw [IndexSet.enter] at h
  have hpattern : Settled (Expr.matchPattern ctx pattern span' t scope) :=
    (Expr.matchPattern_ensures hctx.toEnsures pattern span' t scope bound hi.1
      (hctx.fits _ _)).1
  obtain ⟨m, hm, h⟩ := hpattern.bind_eq_pure h
  have hframe : m = some frame := by
    cases m with
    | none => cases Eval.pure_inj.1 h
    | some frame' =>
      have hcondition : Settled (Expr.optional ctx condition frame') :=
        (Expr.optional_ensures hctx.toEnsures condition frame' _ hi.2.2 (hctx.fits _ _)).1
      obtain ⟨c, _, h⟩ := hcondition.bind_eq_pure h
      have htruth : Settled (convertOr true (Value.asTruth "with") c) :=
        (hctx.convertOr true (Value.asTruth_usual _) c).1
      obtain ⟨b, _, h⟩ := htruth.bind_eq_pure h
      have hb := Eval.pure_inj.1 h
      split at hb
      · exact hb
      · cases hb
  rw [IndexSet.enter, IndexSet.pattern, Expr.matchPattern_span hm span, pure_bind, hframe]
  rfl

theorem IndexSet.Visits.again {vs : List (Tuple × Scope)} (h : index.Visits ctx scope vs)
    (at₁ at₂ : Span) :
    (IndexSet.mk index.pattern (.setBuilder index none at₁) none at₂).Visits ctx scope vs := by
  obtain ⟨r, hr, ht⟩ := h.setBuilder_eq at₁
  obtain ⟨_, _, hvs⟩ := h
  refine ⟨r, ?_, ?_⟩
  · rw [IndexSet.evalSet, hr, pure_bind]
    rfl
  · rw [ht]
    exact hvs.again fun t frame ht => IndexSet.enter_again hctx hi ht _ at₂

end Again

/-! ## Entries

Of a declaration, the addition of entries only needs the name. -/

section Entries

variable (ctx : Context) (scope : Scope) (domain : Option TupleSet)

theorem SetDecl.addEntries_congr {d d' : SetDecl} (h : d.name = d'.name)
    (items : List (Expr × Expr)) (entries : List (Tuple × TupleSet)) :
    d.addEntries ctx scope domain items entries = d'.addEntries ctx scope domain items entries := by
  induction items generalizing entries with
  | nil => rfl
  | cons item items ih => simp only [addEntries, h, ih]

namespace ParamDecl

variable {d d' : ParamDecl} (h : d.name = d'.name) (entries : List (Tuple × Value))

include h

theorem addEntries_congr (items : List (Expr × Expr)) :
    d.addEntries ctx scope domain items entries = d'.addEntries ctx scope domain items entries := by
  induction items generalizing entries with
  | nil => rfl
  | cons item items ih => simp only [addEntries, h, ih]

theorem addCells_congr (row : Tuple) (cells : List (Elem × Expr)) :
    d.addCells ctx scope domain row cells entries =
      d'.addCells ctx scope domain row cells entries := by
  induction cells generalizing entries with
  | nil => rfl
  | cons cell cells ih => simp only [addCells, h, ih]

theorem addMatrix_congr (hspan : d.span = d'.span) (columns : List Elem)
    (rows : List (List Expr × List Expr)) :
    d.addMatrix ctx scope domain columns rows entries =
      d'.addMatrix ctx scope domain columns rows entries := by
  induction rows generalizing entries with
  | nil => rfl
  | cons row rows ih => simp only [addMatrix, hspan, addCells_congr ctx scope domain h, ih]

theorem addRows_congr (rows : List Table.Row) :
    d.addRows domain rows entries = d'.addRows domain rows entries := by
  induction rows generalizing entries with
  | nil => rfl
  | cons row rows ih =>
    obtain ⟨key, value⟩ := row
    cases value <;> simp only [addRows, h, ih]

end ParamDecl

end Entries

/-! ## Index sets that stand for each other -/

namespace IndexSet

/-- Two index sets that can stand for each other wherever tuples are visited. The place of a failure
differs only where a set builder blames the index set itself. -/
structure Interchangeable (a : IndexSet) (ctx : Context) (scope : Scope) (b : IndexSet) :
    Prop where
  aggregate (kind : Aggregate) (body : Expr) (span : Span) :
    (Expr.aggregate kind a body span).eval ctx scope =
      (Expr.aggregate kind b body span).eval ctx scope
  argExtremum (greatest : Bool) (count : Option Expr) (body : Expr) (span : Span) :
    (Expr.argExtremum greatest count a body span).eval ctx scope =
      (Expr.argExtremum greatest count b body span).eval ctx scope
  nonempty (span : Span) :
    (Expr.nonempty a span).eval ctx scope = (Expr.nonempty b span).eval ctx scope
  indexedSetOp (op : SetOp) (body : Expr) (span : Span) :
    (Expr.indexedSetOp op a body span).eval ctx scope =
      (Expr.indexedSetOp op b body span).eval ctx scope
  setBuilder (member : Option Expr) (span : Span) :
    blameless ((Expr.setBuilder a member span).eval ctx scope) =
      blameless ((Expr.setBuilder b member span).eval ctx scope)
  setBuilder_same (member : Option Expr) (span : Span) : a.span = b.span →
    (Expr.setBuilder a member span).eval ctx scope = (Expr.setBuilder b member span).eval ctx scope
  param (d : ParamDecl) :
    { d with index := some a }.eval ctx scope = { d with index := some b }.eval ctx scope
  set (d : SetDecl) :
    { d with index := some a }.eval ctx scope = { d with index := some b }.eval ctx scope

theorem family_congr {α : Type} {ctx : Context} {scope : Scope} {a b : IndexSet}
    {visit : Scope → Tuple → Eval α}
    (h : a.collect ctx scope visit = b.collect ctx scope visit) :
    a.family ctx scope visit = b.family ctx scope visit := by
  funext w
  rcases ha : a.collect ctx scope visit w with ⟨f | es, w'⟩
  · have hb := h ▸ ha
    rw [family, family, Step.bind_of_error ha, Step.bind_of_error hb]
  · have hb := h ▸ ha
    obtain ⟨s, hs, hfa⟩ := family_eq ha
    obtain ⟨s', hs', hfb⟩ := family_eq hb
    rw [hfa, hfb, TupleSet.eq_of_tuples (hs.trans hs'.symm)]

theorem domain_congr {ctx : Context} {scope : Scope} {a b : IndexSet}
    (h : a.collect ctx scope (fun _ _ => pure ()) = b.collect ctx scope (fun _ _ => pure ())) :
    a.domain ctx scope = b.domain ctx scope := by
  funext w
  rcases ha : a.collect ctx scope (fun _ _ => pure ()) w with ⟨f | es, w'⟩
  · have hb := h ▸ ha
    rw [domain, domain, Step.bind_of_error ha, Step.bind_of_error hb]
  · have hb := h ▸ ha
    obtain ⟨s, hs, hda⟩ := domain_eq ha
    obtain ⟨s', hs', hdb⟩ := domain_eq hb
    rw [hda, hdb, TupleSet.eq_of_tuples (hs.trans hs'.symm)]

theorem blameless_foldlM {α β : Type} {f g : β → α → Eval β}
    (h : ∀ b a, blameless (f b a) = blameless (g b a)) (as : List α) (b : β) :
    blameless (as.foldlM f b) = blameless (as.foldlM g b) := by
  induction as generalizing b with
  | nil => rfl
  | cons a as ih =>
    rw [List.foldlM_cons, List.foldlM_cons, blameless_bind, blameless_bind, h]
    simp only [ih]

/-- Whatever is done while tuples are visited, only the visits matter. -/
theorem Visits.interchangeable {ctx : Context} {scope : Scope} {a b : IndexSet}
    {vs : List (Tuple × Scope)} (ha : a.Visits ctx scope vs) (hb : b.Visits ctx scope vs) :
    a.Interchangeable ctx scope b := by
  have hcollect {α : Type} (visit : Scope → Tuple → Eval α) :
      a.collect ctx scope visit = b.collect ctx scope visit :=
    ha.fold_congr hb _ _ _
  have hdomain : domain? (some a) ctx scope = domain? (some b) ctx scope := by
    rw [domain?, evalOption, domain_congr (hcollect fun _ _ => pure ())]
    rfl
  refine ⟨fun kind body span => ?_, fun greatest count body span => ?_, fun span => ?_,
    fun op body span => ?_, fun member span => ?_, fun member span hspan => ?_, fun d => ?_,
    fun d => ?_⟩
  · rw [Expr.eval, Expr.eval]
    exact ha.fold_congr hb _ _ _
  · rw [Expr.eval, Expr.eval]
    refine bind_congr fun k => bind_congr fun n => ?_
    exact ha.fold_congr hb _ _ _
  · rw [ha.nonempty_eq, hb.nonempty_eq]
  · rw [Expr.eval, Expr.eval]
    exact ha.fold_congr hb _ _ _
  · rw [Expr.eval, Expr.eval, ha.fold_eq, hb.fold_eq, blameless_bind, blameless_bind]
    refine congrArg (· >>= _) (blameless_foldlM (fun acc v => ?_) vs _)
    simp only [blameless_bind, blameless_located]
  · rw [Expr.eval, Expr.eval, hspan]
    exact ha.fold_congr hb _ _ _
  · have hentries : { d with index := some a }.entries ctx scope =
        { d with index := some b }.entries ctx scope := by
      unfold ParamDecl.entries
      cases d.body with
      | value e => simp only [family_congr (hcollect _)]
      | entries items =>
        dsimp only
        rw [hdomain]
        exact bind_congr fun domain => congrArg (· >>= _)
          (ParamDecl.addEntries_congr ctx scope domain (by rfl) [] items)
      | matrix columns rows =>
        dsimp only
        rw [hdomain]
        exact bind_congr fun domain => bind_congr fun columns => congrArg (· >>= _)
          (ParamDecl.addMatrix_congr ctx scope domain (by rfl) [] (by rfl) columns rows)
      | read table =>
        dsimp only
        rw [hdomain]
        refine bind_congr fun domain => bind_congr fun rows => congrArg (· >>= _) ?_
        exact congrArg (located _) (ParamDecl.addRows_congr domain (by rfl) [] rows)
      | empty =>
        dsimp only
        rw [hdomain]
    rw [ParamDecl.eval, ParamDecl.eval, hentries]
  · unfold SetDecl.eval
    cases d.body with
    | value e => exact family_congr (hcollect _)
    | entries items =>
      dsimp only
      rw [hdomain]
      exact bind_congr fun domain => congrArg (· >>= _)
        (SetDecl.addEntries_congr ctx scope domain (by rfl) items [])
    | subsets | powerset => rfl

end IndexSet

/-! ## The filtered set -/

/-- Everything but the two functions that need a workspace. -/
def Vocabulary.workspaceFree : Vocabulary := .calling fun f => f ≠ .vabs ∧ f ≠ .random

theorem Vocabulary.workspaceFree_isPure : workspaceFree.IsPure :=
  ⟨fun _ => trivial, fun h => h.1 rfl, fun h => h.2 rfl⟩

/-- The set builder over an index set lists the visited tuples in their order, and the pattern of
the index set over the built set stands for the index set itself, provided that the index set and
the defines call neither `vabs` nor `random`. Whatever is being expanded, this is so in the bodies
of defines, too. -/
theorem filtered_set {symbols : Symbols} {tables : Table.Source} {depth : Nat}
    {active : List String} {ctx : Context} (hctx : ctx = .nested symbols tables depth active)
    (index : IndexSet) (scope : Scope) (at₁ at₂ : Span)
    (hdefines : Vocabulary.workspaceFree.Closed symbols)
    (hindex : index.Within .workspaceFree []) :
    let builder := Expr.setBuilder index none at₁
    (∀ (w w' : Workspace) (ts : List Tuple),
      (∃ r, builder.eval ctx scope w = (.ok (.set r), w') ∧ r.tuples = ts) ↔
        index.collect ctx scope (fun _ _ => pure ()) w =
          (.ok (ts.map fun t => (t, ())), w')) ∧
    ∀ (w w' : Workspace) (v : Value), builder.eval ctx scope w = (.ok v, w') →
      ∃ r, v = .set r ∧
        (∀ span, (Expr.nonempty index span).eval ctx scope =
          pure (.truth (!r.tuples.isEmpty))) ∧
        index.Interchangeable ctx scope (.mk index.pattern builder none at₂) := by
  intro builder
  have hctx : ctx.Settles .workspaceFree := hctx ▸
    Context.settles_nested Vocabulary.workspaceFree_isPure hdefines tables depth active
  refine ⟨fun w w' ts => ⟨?_, fun h => ?_⟩, fun w w' v h => ?_⟩
  · rintro ⟨r, h, rfl⟩
    obtain ⟨vs, hvs⟩ := IndexSet.Visits.of_setBuilder hctx hindex h
    obtain ⟨r', hr', ht⟩ := hvs.setBuilder_eq at₁
    cases h.symm.trans (congrFun hr' w)
    rw [hvs.collect_unit, ← ht]
    rfl
  · obtain ⟨vs, hvs⟩ := IndexSet.Visits.of_fold hctx hindex h
    obtain ⟨r, hr, ht⟩ := hvs.setBuilder_eq at₁
    rw [hvs.collect_unit, ← ht] at h
    obtain ⟨hts, rfl⟩ := Prod.mk.inj h
    refine ⟨r, congrFun hr w, ?_⟩
    exact List.map_injective_iff.2 (fun a b hab => (Prod.mk.inj hab).1) (Except.ok.inj hts)
  · obtain ⟨vs, hvs⟩ := IndexSet.Visits.of_setBuilder hctx hindex h
    obtain ⟨r, hr, ht⟩ := hvs.setBuilder_eq at₁
    cases h.symm.trans (congrFun hr w)
    refine ⟨r, rfl, fun span => ?_, hvs.interchangeable (hvs.again hctx hindex at₁ at₂)⟩
    rw [hvs.nonempty_eq, ht, List.isEmpty_map]

/-- Three pairs of numbers. -/
def TupleSet.pairs : TupleSet :=
  ofUniform [[.number 1, .number 2], [.number 1, .number 3], [.number 2, .number 3]]
    (by simp [Tuple.shape, Elem.kind])

/-- The pairs that start with 1 and have a second component above `n`, in the body of a define with
this parameter. -/
theorem filtered_set_pairs :
    let at₀ := Span.indetermined
    let index := IndexSet.mk (some [.number 1 at₀, .name "y" at₀]) (.name "S" at₀)
      (some (.binary (.compare .gt) (.name "y" at₀) (.name "n" at₀) at₀)) at₀
    let builder := Expr.setBuilder index none at₀
    let symbols : Symbols :=
      [("S", .set (.scalar .pairs)), ("above", .define ⟨.set, ["n"], builder⟩)]
    let ctx := Context.nested symbols .empty 1 ["above"]
    let scope : Scope := [("n", .ofRat 2)]
    let w : Workspace := ⟨.empty, default⟩
    Vocabulary.workspaceFree.Closed symbols ∧ index.Within .workspaceFree [] ∧
      ∃ r, builder.eval ctx scope w = (.ok (.set r), w) ∧ r.tuples = [[.number 1, .number 3]] ∧
        (Expr.nonempty index at₀).eval ctx scope = pure (.truth true) ∧
        index.Interchangeable ctx scope (.mk index.pattern builder none at₀) := by
  intro at₀ index builder symbols ctx scope w
  have hwithin (bound : List String) : index.Within .workspaceFree bound :=
    ⟨⟨fun _ => trivial, nofun, trivial⟩, .inr trivial, .inr trivial, .inr trivial⟩
  have hdefines : Vocabulary.workspaceFree.Closed symbols := by
    refine .of_mem fun x d bound hd => ?_
    rcases List.mem_cons.1 hd with hset | hdefine
    · cases hset
    · cases List.mem_singleton.1 hdefine
      exact ⟨hwithin _, trivial⟩
  have hctx : ctx = .nested symbols .empty 1 ["above"] := rfl
  have hlists := filtered_set hctx index scope at₀ at₀ hdefines (hwithin [])
  have hcollect : index.collect ctx scope (fun _ _ => pure ()) w =
      (.ok ([[.number 1, .number 3]].map fun t => (t, ())), w) := rfl
  obtain ⟨r, hr, ht⟩ := (hlists.1 w w _).2 hcollect
  obtain ⟨_, ⟨⟩, hnonempty, hsame⟩ := hlists.2 w w _ hr
  refine ⟨hdefines, hwithin [], r, hr, ht, ?_, hsame⟩
  rw [hnonempty, ht]
  rfl

end ModelLang
