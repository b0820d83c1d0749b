import ModelLang.Proofs.Below
import ModelLang.Proofs.Collect

/-!
# ModelLang.Proofs.Declared

What declarations evaluate to. The keys of a family are in its domain, and where the family is given
by an expression for each tuple of an index set, they are the domain in its order. Declaring a
variable numbers the members of its family in ascending order, from the number of variables on.
-/

namespace ModelLang

open Eval

/-! ## Expressions -/

section Expressions

variable {symbols : Symbols} {tables : Table.Source} {w : Workspace} {scope : Scope}
  (hs : scope.Below w.size)

include hs

theorem Expr.eval_sound (e : Expr) :
    Sound symbols w Value (fun w' v => v.Below w'.size)
      (e.eval (.ofSymbols symbols tables) scope) :=
  e.eval_ensuresIn (Eval.sound symbols tables) scope [] w (e.within_all []) (Scope.fits_all hs)

/-- What is made of the value of an expression. -/
theorem Expr.convert_sound {α : Type} {Q : Workspace → α → Prop} (e : Expr)
    {convert : Value → Except Cause α} (span : Span)
    (h : ∀ w' v a, v.Below w'.size → convert v = .ok a → Q w' a) :
    Sound symbols w α Q
      (e.eval (.ofSymbols symbols tables) scope >>= fun v => located span (convert v)) :=
  (e.eval_sound hs).bind fun w₁ v _ hv => .located span fun a ha => h w₁ v a hv ha

theorem Expr.evalSet_sound (e : Expr) :
    Sound symbols w TupleSet (fun _ _ => True) (e.evalSet (.ofSymbols symbols tables) scope) :=
  e.convert_sound hs e.span fun _ _ _ _ _ => trivial

theorem Expr.evalCount_sound (e : Expr) (op : String) :
    Sound symbols w Nat (fun _ _ => True) (e.evalCount (.ofSymbols symbols tables) scope op) :=
  e.convert_sound hs e.span fun _ _ _ _ _ => trivial

theorem Expr.evalNumber_sound (e : Expr) (op : String) :
    Sound symbols w Number (fun _ _ => True) (e.evalNumber (.ofSymbols symbols tables) scope op) :=
  e.convert_sound hs e.span fun _ _ _ _ _ => trivial

theorem Expr.evalRat_sound (e : Expr) (op : String) :
    Sound symbols w Rat (fun _ _ => True) (e.evalRat (.ofSymbols symbols tables) scope op) :=
  e.convert_sound hs e.span fun _ _ _ _ _ => trivial

theorem Expr.evalInteger_sound (e : Expr) (op : String) :
    Sound symbols w Int (fun _ _ => True) (e.evalInteger (.ofSymbols symbols tables) scope op) :=
  (e.evalRat_sound hs op).bind fun _ _ _ _ => .located e.span fun _ _ => trivial

theorem Expr.evalTruth_sound (e : Expr) (op : String) :
    Sound symbols w Bool (fun _ _ => True) (e.evalTruth (.ofSymbols symbols tables) scope op) :=
  e.convert_sound hs e.span fun _ _ _ _ _ => trivial

theorem Expr.evalTerm_sound (e : Expr) (op : String) :
    Sound symbols w Term (fun w' t => t.Below w'.size)
      (e.evalTerm (.ofSymbols symbols tables) scope op) :=
  e.convert_sound hs e.span fun _ _ _ hv ha => Value.below_asTerm hv ha

theorem Expr.evalElems_sound (es : List Expr) :
    Sound symbols w Tuple (fun _ _ => True)
      (Expr.evalElems es (.ofSymbols symbols tables) scope) := by
  refine Expr.concat_ensuresIn (Eval.sound symbols tables) (fun v => ?_) es scope [] w
    (Expr.allWithin_all es []) (Scope.fits_all hs)
  exact map_usual (Value.asElem_usual "tuple" v) _

theorem IndexSet.evalSet_sound (index : IndexSet) :
    Sound symbols w TupleSet (fun _ _ => True)
      (index.evalSet (.ofSymbols symbols tables) scope) :=
  index.evalSet_ensuresIn (Eval.sound symbols tables) scope [] w (index.within_all [])
    (Scope.fits_all hs)

theorem IndexSet.enter_sound (index : IndexSet) (t : Tuple) :
    Sound symbols w (Option Scope) (fun w' r => ∀ frame ∈ r, frame.Below w'.size)
      (index.enter (.ofSymbols symbols tables) scope t) :=
  Sound.imp (index.enter_ensuresIn (Eval.sound symbols tables) scope t [] w (index.within_all [])
    (Scope.fits_all hs)) fun _ _ _ h frame hf => (Scope.below_iff_fits _).1 (h frame hf)

theorem ReadSpec.rows_sound (table : ReadSpec) (withValue : Bool) :
    Sound symbols w (List Table.Row) (fun _ _ => True)
      (table.rows (.ofSymbols symbols tables) withValue scope) :=
  table.rows_ensuresIn (Eval.sound symbols tables) withValue scope [] w (table.within_all [])
    (Scope.fits_all hs)

omit hs in
theorem evalOption_sound {α β : Type} (b : Option β) {eval : β → Eval α}
    (h : ∀ b, Sound symbols w α (fun _ _ => True) (eval b)) :
    Sound symbols w (Option α) (fun _ _ => True) (evalOption b eval) := by
  cases b with
  | none => exact .pure trivial
  | some b => exact (h b).bind fun _ _ _ _ => .pure trivial

/-- What is collected in sound evaluations. -/
theorem IndexSet.collect_sound {α : Type} (index : IndexSet) {visit : Scope → Tuple → Eval α}
    (J : Workspace → List (Tuple × α) → Prop)
    (hmono : ∀ {w₁ w₂ es}, w₁.Changes w₂ → J w₁ es → J w₂ es)
    (hvisit : ∀ w₁ frame t es, w.Changes w₁ → frame.Below w₁.size → J w₁ es →
      Sound symbols w₁ α (fun w₂ a => J w₂ (es ++ [(t, a)])) (visit frame t))
    (hnil : J w []) :
    Sound symbols w _ (fun w' es => Collected es ∧ J w' es)
      (index.collect (.ofSymbols symbols tables) scope visit) :=
  (Sound.rules symbols).collect (F := fun w frame => frame.Below w.size) J hmono
    (index.evalSet_sound hs)
    (fun _ t h => index.enter_sound (hs.mono h.size_le) t) hvisit hnil

end Expressions

/-! ## Entries and families -/

/-- The keys of the entries are in the domain, if there is one. -/
def EntriesIn {α : Type} (domain : Option TupleSet) (entries : List (Tuple × α)) : Prop :=
  ∀ s ∈ domain, ∀ e ∈ entries, e.1 ∈ s

/-- The keys of the entries are the domain, in its order. -/
def EntriesOn {α : Type} (domain : Option TupleSet) (entries : List (Tuple × α)) : Prop :=
  ∃ s, domain = some s ∧ entries.map Prod.fst = s.tuples

section Entries

variable {α : Type} {domain : Option TupleSet} {entries : List (Tuple × α)}

theorem entriesIn_nil (domain : Option TupleSet) : EntriesIn domain ([] : List (Tuple × α)) :=
  fun _ _ _ he => nomatch he

theorem entriesIn_none (entries : List (Tuple × α)) : EntriesIn none entries :=
  fun _ hs => nomatch hs

theorem EntriesOn.entriesIn (h : EntriesOn domain entries) : EntriesIn domain entries := by
  obtain ⟨s, rfl, hk⟩ := h
  rintro _ ⟨⟩ e he
  rw [← TupleSet.mem_tuples, ← hk]
  exact List.mem_map_of_mem he

/-- Only the keys matter. -/
theorem EntriesIn.congr {β : Type} {entries' : List (Tuple × β)} (h : EntriesIn domain entries)
    (hk : entries'.map Prod.fst = entries.map Prod.fst) : EntriesIn domain entries' := by
  intro s hs e he
  have hm : e.1 ∈ entries.map Prod.fst := hk ▸ List.mem_map_of_mem he
  obtain ⟨e', he', hee⟩ := List.mem_map.1 hm
  exact hee ▸ h s hs e' he'

theorem addEntry_in {name : String} {key : Tuple} {a : α} {entries' : List (Tuple × α)}
    (h : EntriesIn domain entries) (ha : addEntry name domain entries key a = .ok entries') :
    EntriesIn domain entries' := by
  unfold addEntry at ha
  split at ha
  · cases ha
  · rename_i hin
    split at ha
    · cases ha
    · cases ha
      intro s hs e he
      rcases List.mem_append.1 he with he | he
      · exact h s hs e he
      · obtain rfl := List.mem_singleton.1 he
        cases hs
        simpa [TupleSet.contains] using hin

end Entries

/-- A family with a value for each admitted tuple. -/
theorem IndexSet.family_sound {symbols : Symbols} {tables : Table.Source} {w : Workspace}
    {scope : Scope} (hs : scope.Below w.size) {α : Type} (index : IndexSet)
    {visit : Scope → Tuple → Eval α} (J : Workspace → List (Tuple × α) → Prop)
    (hmono : ∀ {w₁ w₂ es}, w₁.Changes w₂ → J w₁ es → J w₂ es)
    (hvisit : ∀ w₁ frame t es, w.Changes w₁ → frame.Below w₁.size → J w₁ es →
      Sound symbols w₁ α (fun w₂ a => J w₂ (es ++ [(t, a)])) (visit frame t))
    (hnil : J w []) :
    Sound symbols w (Family α)
      (fun w' f => EntriesOn f.domain f.entries ∧ f.fallback = none ∧ J w' f.entries)
      (index.family (.ofSymbols symbols tables) scope visit) := by
  refine .bind (index.collect_sound hs J hmono hvisit hnil) fun w₁ es _ ⟨hc, hj⟩ => ?_
  obtain ⟨r, hr, ht⟩ := hc.ofTuples
  refine .bind (Q := fun w' s => s = r ∧ J w' es) (.located index.span fun s h => ?_) ?_
  · rw [hr] at h
    cases h
    exact ⟨rfl, hj⟩
  · rintro w₂ s _ ⟨rfl, hj⟩
    exact .pure ⟨⟨s, rfl, ht.symm⟩, rfl, hj⟩

theorem IndexSet.domain?_sound {symbols : Symbols} {tables : Table.Source} {w : Workspace}
    {scope : Scope} (hs : scope.Below w.size) (index : Option IndexSet) :
    Sound symbols w (Option TupleSet) (fun _ _ => True)
      (IndexSet.domain? index (.ofSymbols symbols tables) scope) := by
  refine evalOption_sound index fun index => ?_
  refine .bind (index.collect_sound hs (fun _ _ => True) (fun _ _ => trivial)
    (fun _ _ _ _ _ _ _ => .pure trivial) trivial) fun w₁ es _ _ => ?_
  exact .located index.span fun _ _ => trivial

/-! ## Sets -/

namespace SetDecl

/-- A set for each tuple of an index set. -/
def IsIndexed (d : SetDecl) : Prop :=
  ∃ index e, d.index = some index ∧ d.body = .value e

theorem numbered_on (sets : List TupleSet) :
    EntriesOn (numbered sets).domain (numbered sets).entries := by
  refine ⟨_, rfl, List.map_fst_zip ?_⟩
  simp [TupleSet.count, TupleSet.terms]

variable {symbols : Symbols} {tables : Table.Source} {w : Workspace} {scope : Scope}

theorem addEntries_sound (d : SetDecl) (domain : Option TupleSet) (hs : scope.Below w.size)
    (items : List (Expr × Expr)) {entries : List (Tuple × TupleSet)}
    (h : EntriesIn domain entries) :
    Sound symbols w _ (fun _ es => EntriesIn domain es)
      (d.addEntries (.ofSymbols symbols tables) scope domain items entries) := by
  induction items generalizing w entries with
  | nil => exact .pure h
  | cons item rest ih =>
    obtain ⟨key, value⟩ := item
    refine .bind (key.eval_sound hs) fun w₁ k h₁ _ => ?_
    have hs := hs.mono h₁.size_le
    refine .bind (Q := fun _ _ => True) (.located key.span fun _ _ => trivial) fun w₂ k h₂ _ => ?_
    have hs := hs.mono h₂.size_le
    refine .bind (value.evalSet_sound hs) fun w₃ s h₃ _ => ?_
    have hs := hs.mono h₃.size_le
    refine .bind (Q := fun _ es => EntriesIn domain es)
      (.located key.span fun _ ha => addEntry_in h ha) fun w₄ es h₄ he => ?_
    exact ih (hs.mono h₄.size_le) he

theorem eval_sound (d : SetDecl) (hs : scope.Below w.size) :
    Sound symbols w (Family TupleSet)
      (fun _ f => EntriesIn f.domain f.entries ∧ (d.IsIndexed → EntriesOn f.domain f.entries))
      (d.eval (.ofSymbols symbols tables) scope) := by
  have hon {f : Family TupleSet} (h : EntriesOn f.domain f.entries) :
      EntriesIn f.domain f.entries ∧ (d.IsIndexed → EntriesOn f.domain f.entries) :=
    ⟨h.entriesIn, fun _ => h⟩
  unfold eval
  split
  · rename_i e hi hb
    refine .bind (e.evalSet_sound hs) fun w₁ s _ _ => .pure ⟨entriesIn_none _, ?_⟩
    rintro ⟨index, _, hi', _⟩
    cases hi.symm.trans hi'
  · rename_i index e hi hb
    refine .imp (index.family_sound hs (fun _ _ => True) (fun _ _ => trivial) ?_ trivial)
      fun _ f _ hf => hon hf.1
    intro w₁ frame t es _ hf _
    exact e.evalSet_sound hf
  · rename_i items hb
    refine .bind (IndexSet.domain?_sound hs d.index) fun w₁ domain h₁ _ => ?_
    refine .bind (d.addEntries_sound domain (hs.mono h₁.size_le) items (entriesIn_nil domain)) ?_
    intro w₂ es _ he
    refine .pure ⟨he, ?_⟩
    rintro ⟨_, _, _, hb'⟩
    cases hb.symm.trans hb'
  · rename_i set least most hb
    refine .bind (set.evalSet_sound hs) fun w₁ s h₁ _ => ?_
    have hs := hs.mono h₁.size_le
    refine .bind (least.evalCount_sound hs "subsets") fun w₂ a h₂ _ => ?_
    have hs := hs.mono h₂.size_le
    refine .bind (evalOption_sound most fun e => e.evalCount_sound hs "subsets") fun w₃ b _ _ => ?_
    refine .bind (Q := fun _ _ => True) (.located d.span fun _ _ => trivial) fun w₄ sets _ _ => ?_
    exact .pure (hon (numbered_on sets))
  · rename_i set hb
    refine .bind (set.evalSet_sound hs) fun w₁ s _ _ => ?_
    refine .bind (Q := fun _ _ => True) (.located d.span fun _ _ => trivial) fun w₂ sets _ _ => ?_
    exact .pure (hon (numbered_on sets))

end SetDecl

/-! ## Parameters -/

namespace Symbol

/-- Whether the symbol is a parameter. -/
def IsParameter : Symbol → Prop
  | number _ | string _ => True
  | _ => False

/-- The keys of the symbol are in its domain, if it has one. -/
def KeysIn : Symbol → Prop
  | set f | number f | string f | var f => EntriesIn f.domain f.entries
  | define _ => True

/-- The keys of the symbol are its domain, in the order of the domain. -/
def KeysOn : Symbol → Prop
  | set f | number f | string f | var f => EntriesOn f.domain f.entries
  | define _ => False

end Symbol

namespace ParamDecl

/-- A value for each tuple of an index set. -/
def IsIndexed (d : ParamDecl) : Prop :=
  ∃ index e, d.index = some index ∧ d.body = .value e

section Conversion

variable {α : Type} {domain : Option TupleSet} {entries : List (Tuple × Value)}
  {fallback : Option Value}

theorem convertEntries_keys {convert : Value → Except Cause α} {entries' : List (Tuple × α)}
    (h : convertEntries convert entries = .ok entries') :
    entries'.map Prod.fst = entries.map Prod.fst := by
  unfold convertEntries at h
  induction entries generalizing entries' with
  | nil =>
    cases h
    rfl
  | cons e rest ih =>
    rw [List.mapM_cons] at h
    obtain ⟨a, ha, h⟩ := (bind_eq_ok _ _ _).1 h
    obtain ⟨es, hes, h⟩ := (bind_eq_ok _ _ _).1 h
    obtain ⟨b, _, rfl⟩ := (map_eq_ok _ _ _).1 ha
    cases h
    rw [List.map_cons, List.map_cons, ih hes]

theorem familyOf_ok {convert : String → Value → Except Cause α} {f : Family α}
    (h : familyOf convert domain entries fallback = .ok f) :
    f.domain = domain ∧ f.entries.map Prod.fst = entries.map Prod.fst := by
  unfold familyOf at h
  split at h
  · cases h
  · rename_i es hes
    have hk := convertEntries_keys hes
    split at h
    · cases h
      exact ⟨rfl, hk⟩
    · obtain ⟨a, _, rfl⟩ := (map_eq_ok _ _ _).1 h
      exact ⟨rfl, hk⟩

/-- Whatever the type of the parameter, it has the keys that were given. -/
theorem symbol_ok {s : Symbol} (h : symbol domain entries fallback = .ok s) :
    s.IsParameter ∧ (EntriesIn domain entries → s.KeysIn) ∧
      (EntriesOn domain entries → s.KeysOn) := by
  have key {β : Type} {f : Family β} (hd : f.domain = domain)
      (hk : f.entries.map Prod.fst = entries.map Prod.fst) :
      (EntriesIn domain entries → EntriesIn f.domain f.entries) ∧
        (EntriesOn domain entries → EntriesOn f.domain f.entries) := by
    refine ⟨fun h => hd ▸ h.congr hk, ?_⟩
    rintro ⟨s, hs, hks⟩
    exact ⟨s, hd.trans hs, hk.trans hks⟩
  unfold symbol at h
  split at h
  · obtain ⟨f, hf, rfl⟩ := (map_eq_ok _ _ _).1 h
    obtain ⟨hd, hk⟩ := familyOf_ok hf
    exact ⟨trivial, key hd hk⟩
  · obtain ⟨f, hf, rfl⟩ := (map_eq_ok _ _ _).1 h
    obtain ⟨hd, hk⟩ := familyOf_ok hf
    exact ⟨trivial, key hd hk⟩

theorem addRows_in {d : ParamDecl} {rows : List Table.Row} {entries' : List (Tuple × Value)}
    (h : EntriesIn domain entries) (ha : addRows d domain rows entries = .ok entries') :
    EntriesIn domain entries' := by
  induction rows generalizing entries with
  | nil =>
    cases ha
    exact h
  | cons row rest ih =>
    obtain ⟨key, value⟩ := row
    cases value with
    | none => exact ih h ha
    | some e =>
      unfold addRows at ha
      split at ha
      · rename_i es he
        exact ih (addEntry_in h he) ha
      · cases ha

end Conversion

variable {symbols : Symbols} {tables : Table.Source} {w : Workspace} {scope : Scope}

theorem addEntries_sound (d : ParamDecl) (domain : Option TupleSet) (hs : scope.Below w.size)
    (items : List (Expr × Expr)) {entries : List (Tuple × Value)}
    (h : EntriesIn domain entries) :
    Sound symbols w _ (fun _ es => EntriesIn domain es)
      (addEntries d (.ofSymbols symbols tables) scope domain items entries) := by
  induction items generalizing w entries with
  | nil => exact .pure h
  | cons item rest ih =>
    obtain ⟨key, value⟩ := item
    refine .bind (key.eval_sound hs) fun w₁ k h₁ _ => ?_
    have hs := hs.mono h₁.size_le
    refine .bind (Q := fun _ _ => True) (.located key.span fun _ _ => trivial) fun w₂ k h₂ _ => ?_
    have hs := hs.mono h₂.size_le
    refine .bind (value.eval_sound hs) fun w₃ v h₃ _ => ?_
    have hs := hs.mono h₃.size_le
    refine .bind (Q := fun _ es => EntriesIn domain es)
      (.located key.span fun _ ha => addEntry_in h ha) fun w₄ es h₄ he => ?_
    exact ih (hs.mono h₄.size_le) he

theorem addCells_sound (d : ParamDecl) (domain : Option TupleSet) (hs : scope.Below w.size)
    (row : Tuple) (cells : List (Elem × Expr)) {entries : List (Tuple × Value)}
    (h : EntriesIn domain entries) :
    Sound symbols w _ (fun _ es => EntriesIn domain es)
      (addCells d (.ofSymbols symbols tables) scope domain row cells entries) := by
  induction cells generalizing w entries with
  | nil => exact .pure h
  | cons cell rest ih =>
    obtain ⟨column, value⟩ := cell
    refine .bind (value.eval_sound hs) fun w₁ v h₁ _ => ?_
    have hs := hs.mono h₁.size_le
    refine .bind (Q := fun _ es => EntriesIn domain es)
      (.located value.span fun _ ha => addEntry_in h ha) fun w₂ es h₂ he => ?_
    exact ih (hs.mono h₂.size_le) he

theorem addMatrix_sound (d : ParamDecl) (domain : Option TupleSet) (hs : scope.Below w.size)
    (columns : List Elem) (rows : List (List Expr × List Expr)) {entries : List (Tuple × Value)}
    (h : EntriesIn domain entries) :
    Sound symbols w _ (fun _ es => EntriesIn domain es)
      (addMatrix d (.ofSymbols symbols tables) scope domain columns rows entries) := by
  induction rows generalizing w entries with
  | nil => exact .pure h
  | cons row rest ih =>
    obtain ⟨keys, values⟩ := row
    unfold addMatrix
    split
    · exact .fail _ _
    · refine .bind (Expr.evalElems_sound hs keys) fun w₁ t h₁ _ => ?_
      have hs := hs.mono h₁.size_le
      refine .bind (addCells_sound d domain hs t _ h) fun w₂ es h₂ he => ?_
      exact ih (hs.mono h₂.size_le) he

/-- The bodies that give their entries one by one have nothing to do with an indexed expression. -/
theorem entries_sound (d : ParamDecl) (hs : scope.Below w.size) :
    Sound symbols w (Option TupleSet × List (Tuple × Value))
      (fun _ r => EntriesIn r.1 r.2 ∧ (d.IsIndexed → EntriesOn r.1 r.2))
      (d.entries (.ofSymbols symbols tables) scope) := by
  have hlisted {domain : Option TupleSet} {es : List (Tuple × Value)} (he : EntriesIn domain es)
      (hb : ∀ e, d.body ≠ .value e) :
      EntriesIn domain es ∧ (d.IsIndexed → EntriesOn domain es) := by
    refine ⟨he, ?_⟩
    rintro ⟨_, e, _, hb'⟩
    exact absurd hb' (hb e)
  have hdomain : Sound symbols w _ (fun _ _ => True)
      (IndexSet.domain? d.index (.ofSymbols symbols tables) scope) :=
    IndexSet.domain?_sound hs d.index
  unfold entries
  split
  · rename_i e hi hb
    refine .bind (e.eval_sound hs) fun w₁ v _ _ => .pure ⟨entriesIn_none _, ?_⟩
    rintro ⟨index, _, hi', _⟩
    cases hi.symm.trans hi'
  · rename_i index e hi hb
    refine .bind (index.family_sound hs (fun _ _ => True) (fun _ _ => trivial) ?_ trivial)
      fun w₁ f _ hf => .pure ⟨hf.1.entriesIn, fun _ => hf.1⟩
    intro w₁ frame t es _ hf _
    exact (e.eval_sound hf).anyhow
  · rename_i items hb
    refine .bind hdomain fun w₁ domain h₁ _ => ?_
    refine .bind (addEntries_sound d domain (hs.mono h₁.size_le) items (entriesIn_nil domain)) ?_
    exact fun w₂ es _ he => .pure (hlisted he (by simp [hb]))
  · rename_i columns rows hb
    refine .bind hdomain fun w₁ domain h₁ _ => ?_
    have hs := hs.mono h₁.size_le
    refine .bind (Expr.evalElems_sound hs columns) fun w₂ t h₂ _ => ?_
    have hs := hs.mono h₂.size_le
    refine .bind (addMatrix_sound d domain hs t rows (entriesIn_nil domain)) ?_
    exact fun w₃ es _ he => .pure (hlisted he (by simp [hb]))
  · rename_i table hb
    refine .bind hdomain fun w₁ domain h₁ _ => ?_
    refine .bind (table.rows_sound (hs.mono h₁.size_le) true) fun w₂ rows _ _ => ?_
    refine .bind (Q := fun _ es => EntriesIn domain es)
      (.located _ fun _ ha => addRows_in (entriesIn_nil domain) ha) ?_
    exact fun w₃ es _ he => .pure (hlisted he (by simp [hb]))
  · rename_i hb
    refine .bind hdomain fun w₁ domain _ _ => ?_
    exact .pure (hlisted (entriesIn_nil domain) (by simp [hb]))

theorem eval_sound (d : ParamDecl) (hs : scope.Below w.size) :
    Sound symbols w Symbol
      (fun _ s => s.IsParameter ∧ s.KeysIn ∧ (d.IsIndexed → s.KeysOn))
      (d.eval (.ofSymbols symbols tables) scope) := by
  refine .bind (evalOption_sound d.fallback fun e => (e.eval_sound hs).anyhow) ?_
  intro w₁ fallback h₁ _
  refine .bind (d.entries_sound (hs.mono h₁.size_le)) ?_
  rintro w₂ ⟨domain, es⟩ _ ⟨hin, hon⟩
  refine .located d.span fun s h => ?_
  obtain ⟨hp, hi, ho⟩ := symbol_ok h
  exact ⟨hp, hi hin, fun h => ho (hon h)⟩

end ParamDecl

/-! ## Variables -/

namespace VarDecl

/-- Only a binary variable without bounds gets this far, and bounds of integral ones are rounded. -/
theorem bounds_wellFormed (name : String) (type : VarType) (lower upper : Option Number)
    (h : (type.isBinary && (lower.isSome || upper.isSome)) = false) (priority : Option Int)
    (startval : Option Rat) :
    Variable.WellFormed ⟨name, type.kind, (bounds type lower upper).1, (bounds type lower upper).2,
      priority, startval, 0⟩ := by
  have hwhole (n : Number) (f : Rat → Int) : (n.onFinite fun q => (f q : Rat)).IsWhole := by
    intro q hq
    cases n with
    | finite p =>
      cases hq
      exact Rat.den_intCast _
    | minusInfinity | plusInfinity => cases hq
  refine ⟨fun hk => ?_, fun hk => ?_⟩
  · obtain rfl : type = .binary := by cases type <;> simp_all [VarType.kind]
    obtain rfl : lower = none := by simp_all [VarType.isBinary]
    obtain rfl : upper = none := by simp_all [VarType.isBinary]
    exact ⟨rfl, rfl⟩
  · simp only [bounds, if_neg hk]
    exact ⟨hwhole _ Rat.ceil, hwhole _ Rat.floor⟩

variable {symbols : Symbols} {tables : Table.Source} {w : Workspace} {scope : Scope}

/-- The variable gets a new number. -/
theorem add_sound (d : VarDecl) (hs : scope.Below w.size) (name : String) :
    Sound symbols w VarId (fun w' v => w.size ≤ v ∧ v < w'.size)
      (d.add (.ofSymbols symbols tables) scope name) := by
  refine .bind (evalOption_sound d.lower fun e => e.evalNumber_sound hs "bound") ?_
  intro w₁ lower h₁ _
  have hs₁ := hs.mono h₁.size_le
  refine .bind (evalOption_sound d.upper fun e => e.evalNumber_sound hs₁ "bound") ?_
  intro w₂ upper h₂ _
  have hs₂ := hs₁.mono h₂.size_le
  split
  · exact .fail _ _
  · rename_i hb
    refine .bind (evalOption_sound d.priority fun e => e.evalInteger_sound hs₂ "priority") ?_
    intro w₃ priority h₃ _
    have hs₃ := hs₂.mono h₃.size_le
    refine .bind (evalOption_sound d.startval fun e => e.evalRat_sound hs₃ "startval") ?_
    intro w₄ startval h₄ _
    have hx := bounds_wellFormed name d.type lower upper (by simpa using hb) priority startval
    refine .onModel d.span (Build.addVariable_ends hx rfl) ?_
    rintro m v ⟨rfl, hm⟩
    have hle := Workspace.Changes.size_le (((h₁.trans h₂).trans h₃).trans h₄)
    refine ⟨hle, ?_⟩
    show w₄.model.vars.size < m.vars.size
    omega

end VarDecl

/-- One variable for each tuple of the index set, in its order, with ascending numbers from `k` on
and below `n`. -/
structure Family.Numbered (k n : Nat) (f : Family VarId) : Prop where
  keys : ∃ s, f.indexSet = .ok s ∧ f.entries.map Prod.fst = s.tuples
  fallback : f.fallback = none
  range : ∀ e ∈ f.entries, k ≤ e.2 ∧ e.2 < n
  ascending : (f.entries.map Prod.snd).Pairwise (· < ·)

theorem Family.numbered_scalar {k n v : Nat} (h : k ≤ v ∧ v < n) :
    (Family.scalar v).Numbered k n where
  keys := ⟨_, rfl, rfl⟩
  fallback := rfl
  range := by
    intro e he
    obtain rfl := List.mem_singleton.1 he
    exact h
  ascending := by simp [scalar]

theorem VarDecl.eval_sound {symbols : Symbols} {tables : Table.Source} {w : Workspace}
    {scope : Scope} (d : VarDecl) (hs : scope.Below w.size) :
    Sound symbols w (Family VarId)
      (fun w' f => f.Numbered w.size w'.size ∧ EntriesIn f.domain f.entries ∧
        (d.index ≠ none → EntriesOn f.domain f.entries))
      (d.eval (.ofSymbols symbols tables) scope) := by
  unfold eval
  split
  · rename_i hi
    refine .bind (d.add_sound hs d.name.text) fun w₁ v _ hv => .pure ?_
    exact ⟨Family.numbered_scalar hv, entriesIn_none _, fun h => absurd hi h⟩
  · rename_i index hi
    -- the members numbered so far come before the next one
    let J (w' : Workspace) (es : List (Tuple × VarId)) : Prop :=
      (∀ e ∈ es, w.size ≤ e.2 ∧ e.2 < w'.size) ∧ (es.map Prod.snd).Pairwise (· < ·)
    have hmono {w₁ w₂ : Workspace} {es : List (Tuple × VarId)} (h : w₁.Changes w₂)
        (hj : J w₁ es) : J w₂ es :=
      ⟨fun e he => ⟨(hj.1 e he).1, (hj.1 e he).2.trans_le h.size_le⟩, hj.2⟩
    have hvisit (w₁ : Workspace) (frame : Scope) (t : Tuple) (es : List (Tuple × VarId))
        (h₁ : w.Changes w₁) (hf : frame.Below w₁.size) (hj : J w₁ es) :
        Sound symbols w₁ VarId (fun w₂ v => J w₂ (es ++ [(t, v)]))
          (d.add (.ofSymbols symbols tables) frame
            (d.name.text ++ "[" ++ Tuple.bare t ++ "]")) := by
      refine (d.add_sound hf _).imp fun w₂ v h₂ hv => ?_
      have hold := hmono h₂ hj
      refine ⟨?_, ?_⟩
      · intro e he
        rcases List.mem_append.1 he with he | he
        · exact hold.1 e he
        · obtain rfl := List.mem_singleton.1 he
          exact ⟨h₁.size_le.trans hv.1, hv.2⟩
      · rw [List.map_append, List.pairwise_append]
        refine ⟨hj.2, List.pairwise_singleton _ _, ?_⟩
        intro a ha b hb
        obtain ⟨e, he, rfl⟩ := List.mem_map.1 ha
        obtain rfl := List.mem_singleton.1 hb
        exact (hj.1 e he).2.trans_le hv.1
    refine (index.family_sound hs J hmono hvisit ⟨nofun, .nil⟩).imp ?_
    rintro w₁ f _ ⟨hon, hfallback, hj⟩
    refine ⟨⟨?_, hfallback, hj.1, hj.2⟩, hon.entriesIn, fun _ => hon⟩
    obtain ⟨s, hd, hk⟩ := hon
    exact ⟨s, by simp [Family.indexSet, hd], hk⟩

end ModelLang
