import Mathlib.Data.List.Forall2
import ModelLang.Proofs.Filtering
import ModelLang.Proofs.Groups
import ModelLang.Proofs.Layout
import ModelLang.Session

/-!
# ModelLang.Proofs.Matrix

A matrix is another way to write entries. Row by row, and within a row column by column, its values
are those of the keys that the row's key and the column make (`ParamDecl.rowMajor`). A matrix
evaluates its columns first and the key of a row once, where the list evaluates them for each entry;
without `vabs` and `random` this makes no difference to what succeeds
(`ParamDecl.addMatrix_succeedsAs`). Only a matrix without columns or rows could fail where the
list does not, and none is read from a text (`Program.statement_isProper`).
-/

namespace ModelLang

open Eval

/-! ## Success in the same cases -/

/-- One computation succeeds where the other one does, and then both do the same. -/
def Step.SucceedsAs {σ ε α : Type} (x y : Step σ ε α) : Prop :=
  ∀ s a s', x s = (.ok a, s') ↔ y s = (.ok a, s')

namespace Step.SucceedsAs

variable {σ ε α β : Type} {x y : Step σ ε α} {f g : α → Step σ ε β}

theorem refl (x : Step σ ε α) : x.SucceedsAs x := fun _ _ _ => Iff.rfl

theorem bind (h : x.SucceedsAs y) (hfg : ∀ a, (f a).SucceedsAs (g a)) :
    (x >>= f).SucceedsAs (y >>= g) := by
  intro s b s'
  rw [bind_eq_ok, bind_eq_ok]
  refine exists_congr fun a => exists_congr fun s₁ => ?_
  exact and_congr (h s a s₁) (hfg a s₁ b s')

theorem located (span span' : Span) (r : Except Cause α) :
    SucceedsAs (Eval.located span r) (Eval.located span' r) := by
  intro w a w'
  cases r with
  | ok b => exact Iff.rfl
  | error c => exact ⟨nofun, nofun⟩

end Step.SucceedsAs

/-! ## Components of keys -/

namespace Expr

variable {ctx : Context} {scope : Scope} {e : Expr} {es fs : List Expr} {t : Tuple}

/-- The value of an expression as a component of a tuple. -/
def evalElem (e : Expr) (ctx : Context) (scope : Scope) : Eval Elem := do
  let v ← e.eval ctx scope
  located e.span (v.asElem "tuple")

theorem evalElems_cons (e : Expr) (es : List Expr) (ctx : Context) (scope : Scope) :
    evalElems (e :: es) ctx scope = do
      let c ← e.evalElem ctx scope
      let cs ← evalElems es ctx scope
      return c :: cs := by
  rw [evalElems, concat, evalElem, bind_assoc]
  refine bind_congr fun v => ?_
  cases v.asElem "tuple" <;> rfl

theorem evalElems_append (es fs : List Expr) (ctx : Context) (scope : Scope) :
    evalElems (es ++ fs) ctx scope = do
      let t ← evalElems es ctx scope
      let u ← evalElems fs ctx scope
      return t ++ u := by
  induction es with
  | nil => exact (bind_pure _).symm
  | cons e es ih => simp only [List.cons_append, evalElems_cons, ih, bind_assoc, pure_bind]

theorem settled_evalElems (h : ∀ e ∈ es, Settled (e.evalElem ctx scope)) :
    Settled (evalElems es ctx scope) := by
  induction es with
  | nil => exact .ofExcept (.ok [])
  | cons e es ih =>
    obtain ⟨he, hes⟩ := List.forall_mem_cons.1 h
    rw [evalElems_cons]
    exact he.bind fun c => (ih hes).bind fun cs => .ofExcept (.ok (c :: cs))

/-- The components are evaluated one by one. -/
theorem evalElem_of_evalElems (h : ∀ e ∈ es, Settled (e.evalElem ctx scope))
    (ht : evalElems es ctx scope = pure t) :
    List.Forall₂ (fun e c => e.evalElem ctx scope = pure c) es t := by
  induction es generalizing t with
  | nil =>
    cases Eval.pure_inj.1 ht
    exact .nil
  | cons e es ih =>
    obtain ⟨he, hes⟩ := List.forall_mem_cons.1 h
    rw [evalElems_cons] at ht
    obtain ⟨c, hc, ht⟩ := he.bind_eq_pure ht
    obtain ⟨cs, hcs, ht⟩ := (settled_evalElems hes).bind_eq_pure ht
    cases Eval.pure_inj.1 ht
    exact .cons hc (ih hes hcs)

theorem exists_evalElems (h : ∀ e ∈ es, ∃ c, e.evalElem ctx scope = pure c) :
    ∃ t, evalElems es ctx scope = pure t := by
  induction es with
  | nil => exact ⟨[], rfl⟩
  | cons e es ih =>
    obtain ⟨⟨c, hc⟩, hes⟩ := List.forall_mem_cons.1 h
    obtain ⟨cs, hcs⟩ := ih hes
    refine ⟨c :: cs, ?_⟩
    rw [evalElems_cons, hc, hcs, pure_bind, pure_bind]

theorem evalElem_settled {L : Vocabulary} (hctx : ctx.Settles L) {bound : List String}
    (h : AllWithin L es bound) (scope : Scope) : ∀ e ∈ es, Settled (e.evalElem ctx scope) := by
  induction es with
  | nil => exact List.forall_mem_nil _
  | cons e es ih =>
    refine List.forall_mem_cons.2 ⟨?_, ih h.2⟩
    exact (hctx.eval h.1 scope).bind fun v => .ofExcept _

end Expr

/-! ## The entries of a matrix -/

namespace ParamDecl

/-- The entries of a row, one for each column. The keys may stand anywhere. -/
def cells (place : List Expr → Expr → Span) (keys columns values : List Expr) :
    List (Expr × Expr) :=
  (columns.zip values).map fun c => (.tuple (keys ++ [c.1]) (place keys c.1), c.2)

/-- The entries of a matrix, row by row. -/
def rowMajor (place : List Expr → Expr → Span) (columns : List Expr)
    (rows : List (List Expr × List Expr)) : List (Expr × Expr) :=
  rows.flatMap fun row => cells place row.1 columns row.2

variable {d d' : ParamDecl} {ctx : Context} {scope : Scope} {domain : Option TupleSet}
  {place : List Expr → Expr → Span} {columns : List Expr} {rows : List (List Expr × List Expr)}

theorem addEntries_append (d : ParamDecl) (ctx : Context) (scope : Scope)
    (domain : Option TupleSet) (items items' : List (Expr × Expr))
    (entries : List (Tuple × Value)) :
    d.addEntries ctx scope domain (items ++ items') entries =
      d.addEntries ctx scope domain items entries >>= d.addEntries ctx scope domain items' := by
  induction items generalizing entries with
  | nil => exact (pure_bind _ _).symm
  | cons item items ih => simp only [List.cons_append, addEntries, ih, bind_assoc]

section Denoted

variable (hname : d.name = d'.name)

include hname

theorem addCells_succeedsAs {keys values : List Expr} {key cs : Tuple}
    (hkey : Expr.evalElems keys ctx scope = pure key)
    (hcs : List.Forall₂ (fun e c => e.evalElem ctx scope = pure c) columns cs)
    (entries : List (Tuple × Value)) :
    (d.addCells ctx scope domain key (cs.zip values) entries).SucceedsAs
      (d'.addEntries ctx scope domain (cells place keys columns values) entries) := by
  induction hcs generalizing values entries with
  | nil => exact .refl _
  | @cons e c columns cs hc hcs ih =>
    cases values with
    | nil => exact .refl _
    | cons v values =>
      have htuple : (Expr.tuple (keys ++ [e]) (place keys e)).eval ctx scope =
          pure (.tuple (key ++ [c])) := by
        have hlast : Expr.evalElems [e] ctx scope = pure [c] := by
          rw [Expr.evalElems_cons, hc]
          rfl
        have hkeys : Expr.evalElems (keys ++ [e]) ctx scope = pure (key ++ [c]) := by
          rw [Expr.evalElems_append, hkey, hlast]
          rfl
        rw [Expr.eval]
        exact congrArg (· >>= fun t => pure (Value.tuple t)) hkeys
      have hconvert (span : Span) :
          (located span ((Value.tuple (key ++ [c])).asTuple "parameter entry") : Eval Tuple) =
            pure (key ++ [c]) := rfl
      simp only [cells, List.zip_cons_cons, List.map_cons, addCells, addEntries, htuple, hconvert,
        pure_bind, hname]
      refine .bind (.refl _) fun u => .bind (.located _ _ _) fun entries => ?_
      exact ih entries

/-- Where columns and keys have values, a matrix adds the entries that the list adds. -/
theorem addMatrix_succeedsAs {cs : Tuple}
    (hcs : List.Forall₂ (fun e c => e.evalElem ctx scope = pure c) columns cs)
    (hkeys : ∀ row ∈ rows, ∃ key, Expr.evalElems row.1 ctx scope = pure key)
    (hshape : ∀ row ∈ rows, row.2.length = columns.length) (entries : List (Tuple × Value)) :
    (d.addMatrix ctx scope domain cs rows entries).SucceedsAs
      (d'.addEntries ctx scope domain (rowMajor place columns rows) entries) := by
  induction rows generalizing entries with
  | nil => exact .refl _
  | cons row rows ih =>
    obtain ⟨⟨key, hkey⟩, hkeys⟩ := List.forall_mem_cons.1 hkeys
    obtain ⟨hlength, hshape⟩ := List.forall_mem_cons.1 hshape
    have hfits : ¬ row.2.length ≠ cs.length := not_not.2 (hlength.trans hcs.length_eq)
    rw [addMatrix, if_neg hfits, hkey, pure_bind, rowMajor, List.flatMap_cons, addEntries_append]
    exact .bind (addCells_succeedsAs hname hkey hcs entries) (ih hkeys hshape)

end Denoted

/-! ## Keys that have no value -/

/-- Every column and the key of every row has a value. -/
def KeysDenote (ctx : Context) (scope : Scope) (columns : List Expr)
    (rows : List (List Expr × List Expr)) : Prop :=
  (∃ cs, Expr.evalElems columns ctx scope = pure cs) ∧
    ∀ row ∈ rows, ∃ key, Expr.evalElems row.1 ctx scope = pure key

/-- None of the columns and keys depends on the workspace. -/
structure KeysSettled (ctx : Context) (scope : Scope) (columns : List Expr)
    (rows : List (List Expr × List Expr)) : Prop where
  columns : ∀ e ∈ columns, Settled (e.evalElem ctx scope)
  keys : ∀ row ∈ rows, ∀ e ∈ row.1, Settled (e.evalElem ctx scope)

theorem addMatrix_keys (d : ParamDecl) {cs : Tuple}
    (hkeys : ∀ row ∈ rows, ∀ e ∈ row.1, Settled (e.evalElem ctx scope))
    {entries entries' : List (Tuple × Value)} {w w' : Workspace}
    (h : d.addMatrix ctx scope domain cs rows entries w = (.ok entries', w')) :
    ∀ row ∈ rows, ∃ key, Expr.evalElems row.1 ctx scope = pure key := by
  induction rows generalizing entries w with
  | nil => exact List.forall_mem_nil _
  | cons row rows ih =>
    obtain ⟨hrow, hkeys⟩ := List.forall_mem_cons.1 hkeys
    rw [addMatrix] at h
    split at h
    · cases h
    · obtain ⟨key, w₁, hkey, h⟩ := Step.bind_eq_ok.1 h
      obtain ⟨entries₁, w₂, _, h⟩ := Step.bind_eq_ok.1 h
      refine List.forall_mem_cons.2 ⟨⟨key, ?_⟩, ih hkeys h⟩
      exact ((Expr.settled_evalElems hrow).of_run hkey).1

theorem addEntries_keys (d : ParamDecl) {items : List (Expr × Expr)}
    {entries entries' : List (Tuple × Value)} {w w' : Workspace}
    (h : d.addEntries ctx scope domain items entries w = (.ok entries', w')) :
    ∀ item ∈ items, ∃ v w₁ w₂, item.1.eval ctx scope w₁ = (.ok v, w₂) := by
  induction items generalizing entries w with
  | nil => exact List.forall_mem_nil _
  | cons item items ih =>
    rw [addEntries] at h
    obtain ⟨v, w₁, hv, h⟩ := Step.bind_eq_ok.1 h
    obtain ⟨key, w₂, _, h⟩ := Step.bind_eq_ok.1 h
    obtain ⟨u, w₃, _, h⟩ := Step.bind_eq_ok.1 h
    obtain ⟨entries₁, w₄, _, h⟩ := Step.bind_eq_ok.1 h
    exact List.forall_mem_cons.2 ⟨⟨v, w, w₁, hv⟩, ih h⟩

/-- Every row and column meet in an entry. -/
theorem exists_mem_rowMajor (place : List Expr → Expr → Span)
    (hshape : ∀ row ∈ rows, row.2.length = columns.length)
    {row : List Expr × List Expr} (hrow : row ∈ rows) {e : Expr} (he : e ∈ columns) :
    ∃ v, (.tuple (row.1 ++ [e]) (place row.1 e), v) ∈ rowMajor place columns rows := by
  have hcolumns : (columns.zip row.2).map Prod.fst = columns :=
    List.map_fst_zip (hshape row hrow).ge
  rw [← hcolumns] at he
  obtain ⟨⟨e, v⟩, hmem, rfl⟩ := List.mem_map.1 he
  exact ⟨v, List.mem_flatMap.2 ⟨row, hrow, List.mem_map.2 ⟨(e, v), hmem, rfl⟩⟩⟩

/-- If all entries can be added, then each column and each key is evaluated for one of them. -/
theorem keysDenote_of_addEntries (hsettled : KeysSettled ctx scope columns rows)
    (hcolumns : columns ≠ []) (hrows : rows ≠ [])
    (hshape : ∀ row ∈ rows, row.2.length = columns.length)
    {entries entries' : List (Tuple × Value)} {w w' : Workspace}
    (h : d.addEntries ctx scope domain (rowMajor place columns rows) entries w =
      (.ok entries', w')) :
    KeysDenote ctx scope columns rows := by
  have hmeet {row : List Expr × List Expr} (hrow : row ∈ rows) {e : Expr} (he : e ∈ columns) :
      (∃ key, Expr.evalElems row.1 ctx scope = pure key) ∧
        ∃ c, e.evalElem ctx scope = pure c := by
    obtain ⟨v, hmem⟩ := exists_mem_rowMajor place hshape hrow he
    obtain ⟨u, w₁, w₂, hu⟩ := addEntries_keys d h _ hmem
    rw [Expr.eval] at hu
    obtain ⟨t, w₃, ht, _⟩ := Step.bind_eq_ok.1 hu
    have ht : Expr.evalElems (row.1 ++ [e]) ctx scope w₁ = (.ok t, w₃) := ht
    rw [Expr.evalElems_append] at ht
    obtain ⟨key, w₄, hkey, ht⟩ := Step.bind_eq_ok.1 ht
    obtain ⟨last, w₅, hlast, _⟩ := Step.bind_eq_ok.1 ht
    rw [Expr.evalElems_cons] at hlast
    obtain ⟨c, w₆, hc, _⟩ := Step.bind_eq_ok.1 hlast
    have hkeys := Expr.settled_evalElems (hsettled.keys row hrow)
    exact ⟨⟨key, (hkeys.of_run hkey).1⟩, c, ((hsettled.columns e he).of_run hc).1⟩
  obtain ⟨e₀, he₀⟩ := List.exists_mem_of_ne_nil columns hcolumns
  obtain ⟨row₀, hrow₀⟩ := List.exists_mem_of_ne_nil rows hrows
  exact ⟨Expr.exists_evalElems fun e he => (hmeet hrow₀ he).2, fun row hrow => (hmeet hrow he₀).1⟩

theorem keysDenote_of_addMatrix (hsettled : KeysSettled ctx scope columns rows)
    {entries entries' : List (Tuple × Value)} {w w' : Workspace}
    (h : (Expr.evalElems columns ctx scope >>= fun cs =>
      d.addMatrix ctx scope domain cs rows entries) w = (.ok entries', w')) :
    KeysDenote ctx scope columns rows := by
  obtain ⟨cs, w₁, hcs, h⟩ := Step.bind_eq_ok.1 h
  refine ⟨⟨cs, ?_⟩, addMatrix_keys d hsettled.keys h⟩
  exact ((Expr.settled_evalElems hsettled.columns).of_run hcs).1

theorem matrix_succeedsAs (hname : d.name = d'.name)
    (hsettled : KeysSettled ctx scope columns rows) (hcolumns : columns ≠ []) (hrows : rows ≠ [])
    (hshape : ∀ row ∈ rows, row.2.length = columns.length) (entries : List (Tuple × Value)) :
    Step.SucceedsAs
      (Expr.evalElems columns ctx scope >>= fun cs =>
        d.addMatrix ctx scope domain cs rows entries)
      (d'.addEntries ctx scope domain (rowMajor place columns rows) entries) := by
  by_cases h : KeysDenote ctx scope columns rows
  · obtain ⟨⟨cs, hcs⟩, hkeys⟩ := h
    rw [hcs, pure_bind]
    have hcs := Expr.evalElem_of_evalElems hsettled.columns hcs
    exact addMatrix_succeedsAs hname hcs hkeys hshape entries
  · intro w entries' w'
    constructor
    · intro hmatrix
      exact absurd (keysDenote_of_addMatrix hsettled hmatrix) h
    · intro hlist
      exact absurd (keysDenote_of_addEntries hsettled hcolumns hrows hshape hlist) h

theorem entries_of_matrix (hbody : d.body = .matrix columns rows) :
    d.entries ctx scope = do
      let domain ← IndexSet.domain? d.index ctx scope
      let columns ← Expr.evalElems columns ctx scope
      let entries ← d.addMatrix ctx scope domain columns rows []
      return (domain, entries) := by
  rw [entries, hbody]
  cases d.index <;> rfl

theorem entries_of_items {items : List (Expr × Expr)} (hbody : d.body = .entries items) :
    d.entries ctx scope = do
      let domain ← IndexSet.domain? d.index ctx scope
      let entries ← d.addEntries ctx scope domain items []
      return (domain, entries) := by
  rw [entries, hbody]
  cases d.index <;> rfl

/-- The same parameter with the entries of the matrix as a list. -/
def listed (d : ParamDecl) (place : List Expr → Expr → Span) (columns : List Expr)
    (rows : List (List Expr × List Expr)) : ParamDecl :=
  { d with body := .entries (rowMajor place columns rows) }

theorem eval_matrix_succeedsAs (place : List Expr → Expr → Span)
    (hbody : d.body = .matrix columns rows) (hsettled : KeysSettled ctx scope columns rows)
    (hcolumns : columns ≠ []) (hrows : rows ≠ [])
    (hshape : ∀ row ∈ rows, row.2.length = columns.length) :
    (d.eval ctx scope).SucceedsAs ((d.listed place columns rows).eval ctx scope) := by
  refine .bind (.refl _) fun fallback => .bind ?entries fun r => .refl _
  rw [entries_of_matrix hbody, entries_of_items rfl]
  refine .bind (.refl _) fun domain => ?_
  rw [← bind_assoc]
  have hname : d.name = (d.listed place columns rows).name := rfl
  exact .bind (matrix_succeedsAs hname hsettled hcolumns hrows hshape []) fun es => .refl _

end ParamDecl

/-! ## Declarations in texts -/

/-- A matrix has columns and rows. -/
def ParamBody.IsProper : ParamBody → Prop
  | matrix columns rows => columns ≠ [] ∧ rows ≠ []
  | _ => True

/-- The statement, or what it repeats, declares no matrix without columns or rows. -/
def Statement.IsProper : Statement → Prop
  | param d => d.body.IsProper
  | each _ body _ => body.IsProper
  | _ => True

def Rule.ProperIn : (r : Rule) → List Token → r.Result → Prop
  | .command | .forallCommand => fun _ (s : Statement) => s.IsProper
  | .constraintList | .sosBody | .indexSet | .expr | .notExpr | .unionExpr | .additive
  | .multiplicative | .unary => fun _ _ => True

namespace Grammar

/-- What the form reads has `F`. -/
abbrev Reads {α : Type} (p : Form α) (F : α → Prop) : Prop :=
  p.Gives Rule.ProperIn fun _ => F

section Reads

variable {α β : Type} {p : Form α} {q : Form β} {F : α → Prop} {G : β → Prop}

theorem Reads.map {f : α → β} (h : Reads p F) (hf : ∀ a, F a → G (f a)) : Reads (f <$> p) G :=
  Peg.Gives.map h fun _ => hf

theorem Reads.ap {p : Form (α → β)} {q : Form α} (h : Reads p fun f => ∀ a, F a → G (f a))
    (h' : Reads q F) : Reads (p <*> q) G :=
  Peg.Gives.ap h h' fun _ _ _ a hf ha => hf a ha

/-- A function that leads to the property for every argument. -/
theorem Reads.apply {p : Form (α → β)} (h : Reads p fun f => ∀ a, G (f a)) (q : Form α) :
    Reads (p <*> q) G :=
  .ap (F := fun _ => True) (Peg.Gives.mono h fun _ _ hf a _ => hf a) q.gives_true

theorem Reads.left (h : Reads p F) (q : Form β) : Reads (p <* q) F :=
  Peg.Gives.map (Q := fun _ => F) (P := fun _ x => F x.1)
    ⟨_, _, h, q.gives_true, fun _ _ _ _ ha _ => ha⟩ fun _ _ hx => hx

theorem Reads.right (p : Form α) (h : Reads q G) : Reads (p *> q) G :=
  Peg.Gives.map (Q := fun _ => G) (P := fun _ x => G x.2)
    ⟨_, _, p.gives_true, h, fun _ _ _ _ _ hb => hb⟩ fun _ _ hx => hx

theorem Reads.orElse {q : Form α} (h : Reads p F) (h' : Reads q F) : Reads (p <|> q) F :=
  ⟨h, h'⟩

theorem Reads.opt (h : Reads p F) : Reads (.opt p) fun x => ∀ a ∈ x, F a :=
  ⟨_, h, nofun, fun _ _ ha _ hb => Option.some.inj hb ▸ ha⟩

theorem Reads.withSpan {p : Form (Span → α)} (h : Reads p fun g => ∀ s, F (g s)) :
    Reads (withSpan p) F :=
  ⟨fun _ x => F (x.1 x.2), ⟨_, h, fun _ _ s _ hg => hg s⟩, fun _ _ hx => hx⟩

/-- The values do not matter where all have the property. -/
theorem Reads.const {f : β → α} (hf : ∀ b, F (f b)) (q : Form β) : Reads (f <$> q) F :=
  .map (F := fun _ => True) q.gives_true fun b _ => hf b

theorem reads_commaList (p : Form α) : Reads (commaList p) fun as => as ≠ [] :=
  .apply (.const (fun a as => List.cons_ne_nil a as) p) _

end Reads

theorem reads_matrix : Reads matrix ParamBody.IsProper := by
  have hcolumns : Reads (bar *> commaList additive <* bar) fun columns => columns ≠ [] :=
    .left (.right bar (reads_commaList additive)) bar
  refine .apply (.apply (.map hcolumns ?_) matrixRow) (.many matrixRow)
  intro columns hcolumns first rest
  exact ⟨hcolumns, List.cons_ne_nil first rest⟩

theorem reads_paramBody : Reads paramBody ParamBody.IsProper :=
  .orElse (.const (fun _ => trivial) _) <| .orElse reads_matrix <|
  .orElse (.const (fun _ => trivial) _) (.const (fun _ => trivial) _)

theorem reads_paramDecl : Reads paramDecl Statement.IsProper := by
  refine .withSpan (.apply (.ap (.apply (.const ?_ _) _) (.opt (.right _ reads_paramBody))) _)
  intro name index body hbody fallback span
  cases body with
  | none => trivial
  | some body => exact hbody body rfl

theorem reads_command : Reads (.rule Rule.command) Statement.IsProper := fun _ _ h => h

theorem reads_forallCommand : Reads (.rule Rule.forallCommand) Statement.IsProper :=
  fun _ _ h => h

/-- A loop is proper if its body is. -/
theorem reads_forallCommandForm : Reads forallCommandForm Statement.IsProper := by
  refine .ap (.apply (.const ?_ _) _) (.orElse reads_forallCommand reads_command)
  intro t index body hbody
  exact hbody

theorem reads_sosDecl : Reads sosDecl Statement.IsProper := by
  refine .withSpan (.right _ (.orElse ?named ?typed))
  case named => exact .apply (.apply (.apply (.const (fun _ _ _ _ _ => trivial) _) _) _) _
  case typed => exact .apply (.apply (.const (fun _ _ _ _ => trivial) _) _) _

theorem reads_printCommand : Reads printCommand Statement.IsProper :=
  .withSpan (.const (fun _ _ => trivial) _)

theorem reads_checkCommand : Reads checkCommand Statement.IsProper :=
  .withSpan (.const (fun _ _ => trivial) _)

theorem reads_commandForm : Reads commandForm Statement.IsProper := by
  have hcommands : Reads (printCommand <|> checkCommand) Statement.IsProper :=
    .orElse reads_printCommand reads_checkCommand
  refine .orElse ?set <| .orElse reads_paramDecl <| .orElse ?var <| .orElse ?objective <|
    .orElse ?subto <| .orElse reads_sosDecl <| .orElse ?define <|
    .orElse (.right _ (.orElse reads_forallCommand hcommands)) hcommands
  case set => exact .withSpan (.apply (.apply (.const (fun _ _ _ _ => trivial) _) _) _)
  case var => exact .withSpan (.apply (.apply (.apply (.const (fun _ _ _ _ _ => trivial) _) _) _) _)
  case objective => exact .withSpan (.apply (.apply (.const (fun _ _ _ _ => trivial) _) _) _)
  case subto => exact .withSpan (.apply (.const (fun _ _ _ => trivial) _) _)
  case define =>
    exact .withSpan (.apply (.apply (.apply (.const (fun _ _ _ _ _ => trivial) _) _) _) _)

theorem form_reads (r : Rule) : (form r).Gives Rule.ProperIn r.ProperIn :=
  match r with
  | .command => reads_commandForm
  | .forallCommand => reads_forallCommandForm
  | .constraintList | .sosBody | .indexSet | .expr | .notExpr | .unionExpr | .additive
  | .multiplicative | .unary => Peg.gives_true _

end Grammar

/-- A text cannot declare a matrix without columns or rows. -/
theorem Program.statement_isProper {text : List Char} {tokens : List Token}
    (hscan : Token.scan text = .ok tokens) {st : Statement}
    (h : st ∈ (ofTokens tokens).statements) : st.IsProper := by
  obtain ⟨c, c', hsuffix, hanswer⟩ := exists_turn_of_mem h
  have hdet : ∀ t ∈ c.rest, t.span.IsDetermined :=
    fun t ht => Token.scanLines_isDetermined hscan t (hsuffix.subset ht)
  have hstatement : Grammar.Reads Grammar.statement Statement.IsProper :=
    .left Grammar.reads_command _
  obtain ⟨ts, _, hproper⟩ :=
    Grammar.layers.gives Grammar.form_reads Grammar.statement_regular hstatement hdet hanswer
  exact hproper

/-! ## Declared parameters -/

namespace Statement

variable {tables : Table.Source} {d : ParamDecl} {path : List Tuple} {scope : Scope}
  {s s' : Session}

/-- A parameter is declared as what it evaluates to. -/
theorem run_param_eq_ok : run tables (.param d) path scope s = (.ok (), s') ↔
    s.symbols.declares d.name.text = false ∧ ∃ symbol w,
      d.eval (.ofSymbols s.symbols tables) scope s.work = (.ok symbol, w) ∧
        s' = { s with symbols := s.symbols ++ [(d.name.text, symbol)], work := w } := by
  rw [run, Step.bind_apply, Exec.requireNew]
  by_cases hnew : s.symbols.declares d.name.text = true
  · simp [hnew]
  · rw [if_neg hnew]
    simp only [Step.bind_apply, Exec.eval, Step.onPart]
    rcases d.eval (.ofSymbols s.symbols tables) scope s.work with ⟨f | symbol, w⟩
    · simp
    · simp [Exec.declare, Symbols.declare, hnew, eq_comm]

theorem run_param_congr {d' : ParamDecl} (hname : d.name = d'.name)
    (h : (d.eval (.ofSymbols s.symbols tables) scope).SucceedsAs
      (d'.eval (.ofSymbols s.symbols tables) scope)) :
    run tables (.param d) path scope s = (.ok (), s') ↔
      run tables (.param d') path scope s = (.ok (), s') := by
  rw [run_param_eq_ok, run_param_eq_ok, hname]
  refine and_congr_right fun _ => exists_congr fun symbol => exists_congr fun w => ?_
  exact and_congr_left fun _ => h s.work symbol w

end Statement

/-- No text declares a matrix without columns or rows. Any other whose rows have a value for each
column can be declared as the list of its entries, row by row: unless a column or the key of a row
calls `vabs` or `random`, both declarations leave the same session, with the same new symbol, or
both fail. -/
theorem ParamDecl.matrix_as_entries :
    (∀ {text : List Char} {tokens : List Token}, Token.scan text = .ok tokens →
      ∀ st ∈ (Program.ofTokens tokens).statements, st.IsProper) ∧
    ∀ {L : Vocabulary} {s : Session} {d : ParamDecl} {columns : List Expr}
      {rows : List (List Expr × List Expr)}, L.IsPure → L.Closed s.symbols →
      d.body = .matrix columns rows → d.body.IsProper →
      (∀ row ∈ rows, row.2.length = columns.length) → Expr.AllWithin L columns [] →
      (∀ row ∈ rows, Expr.AllWithin L row.1 []) →
      ∀ (place : List Expr → Expr → Span) (tables : Table.Source) (path : List Tuple)
        (scope : Scope),
        let matrix := (Statement.param d).run tables path scope s
        let list := (Statement.param (d.listed place columns rows)).run tables path scope s
        (∃ symbol s', s'.symbols = s.symbols ++ [(d.name.text, symbol)] ∧
          matrix = (.ok (), s') ∧ list = (.ok (), s')) ∨
        matrix.1.isOk = false ∧ list.1.isOk = false := by
  refine ⟨fun hscan st hst => Program.statement_isProper hscan hst, ?_⟩
  intro L s d columns rows hL hclosed hbody hproper hshape hcolumns hkeys place tables path scope
    matrix list
  rw [hbody] at hproper
  have hctx := Context.settles_ofSymbols hL hclosed tables
  have hsettled : KeysSettled (.ofSymbols s.symbols tables) scope columns rows :=
    ⟨Expr.evalElem_settled hctx hcolumns scope,
      fun row hrow => Expr.evalElem_settled hctx (hkeys row hrow) scope⟩
  have heval := eval_matrix_succeedsAs place hbody hsettled hproper.1 hproper.2 hshape
  have hrun (s' : Session) : matrix = (.ok (), s') ↔ list = (.ok (), s') :=
    Statement.run_param_congr rfl heval
  by_cases hok : ∃ s', matrix = (.ok (), s')
  · obtain ⟨s', hs'⟩ := hok
    obtain ⟨_, symbol, w, _, rfl⟩ := Statement.run_param_eq_ok.1 hs'
    exact .inl ⟨symbol, _, rfl, hs', (hrun _).1 hs'⟩
  · have hfails {r : Except Failure Unit × Session} (h : ¬ ∃ s', r = (.ok (), s')) :
        r.1.isOk = false := by
      rcases r with ⟨_ | _, s'⟩
      · rfl
      · exact absurd ⟨s', rfl⟩ h
    exact .inr ⟨hfails hok, hfails fun ⟨s', hs'⟩ => hok ⟨s', (hrun s').2 hs'⟩⟩

/-- A text with one statement, and the statement that it stands for. -/
def squareSource : List Char :=
  "param m := |1, 2| |1| 3, 4| |2| 5, 6|;".toList

def squareColumns : List Expr :=
  [.number 1 .indetermined, .number 2 .indetermined]

def squareRows : List (List Expr × List Expr) :=
  [([.number 1 .indetermined], [.number 3 .indetermined, .number 4 .indetermined]),
    ([.number 2 .indetermined], [.number 5 .indetermined, .number 6 .indetermined])]

def square : ParamDecl :=
  ⟨⟨"m", .indetermined⟩, none, .matrix squareColumns squareRows, none, .indetermined⟩

theorem ParamDecl.matrix_as_entries_square :
    (∃ tokens, Token.scan squareSource = .ok tokens ∧
      ∃ st, (Program.ofTokens tokens).statements = [st] ∧ st.IsProper) ∧
    Vocabulary.workspaceFree.IsPure ∧
    Vocabulary.workspaceFree.Closed (Session.start default).symbols ∧
    square.body.IsProper ∧ (∀ row ∈ squareRows, row.2.length = squareColumns.length) ∧
    Expr.AllWithin .workspaceFree squareColumns [] ∧
    (∀ row ∈ squareRows, Expr.AllWithin .workspaceFree row.1 []) ∧
    ∃ symbol s', s'.symbols = [("m", symbol)] ∧
      (Statement.param square).run .empty [] [] (.start default) = (.ok (), s') ∧
      (Statement.param (square.listed (fun _ e => e.span) squareColumns squareRows)).run
        .empty [] [] (.start default) = (.ok (), s') := by
  have hclosed : Vocabulary.workspaceFree.Closed (Session.start default).symbols := nofun
  have hproper : square.body.IsProper := ⟨List.cons_ne_nil _ _, List.cons_ne_nil _ _⟩
  have hshape : ∀ row ∈ squareRows, row.2.length = squareColumns.length := by decide
  have hcolumns : Expr.AllWithin .workspaceFree squareColumns [] := ⟨trivial, trivial, trivial⟩
  have hkeys : ∀ row ∈ squareRows, Expr.AllWithin .workspaceFree row.1 [] := by
    simp [squareRows, Expr.AllWithin, Expr.Within]
  refine ⟨?_, Vocabulary.workspaceFree_isPure, hclosed, hproper, hshape, hcolumns, hkeys, ?_⟩
  · have hsample : ∃ tokens ∈ (Token.scan squareSource).toOption,
        (Program.ofTurns (Grammar.turnsFrom tokens (.ofTokens 0 tokens))).statements.length = 1 := by
      decide +kernel
    obtain ⟨tokens, htokens, hsample⟩ := hsample
    rw [← Grammar.turns_eq, ← Program.ofTokens] at hsample
    have hscan := Token.mem_toOption.1 htokens
    obtain ⟨st, hst⟩ := List.length_eq_one_iff.1 hsample
    exact ⟨tokens, hscan, st, hst, matrix_as_entries.1 hscan st (hst ▸ List.mem_singleton_self st)⟩
  · have hok : ((Statement.param square).run .empty [] [] (.start default)).1.isOk = true := by
      decide +kernel
    rcases matrix_as_entries.2 Vocabulary.workspaceFree_isPure hclosed rfl hproper hshape hcolumns
      hkeys (fun _ e => e.span) .empty [] [] with h | ⟨hfails, -⟩
    · exact h
    · rw [hok] at hfails
      cases hfails

end ModelLang
