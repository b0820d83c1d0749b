import ModelLang.Compile
import ModelLang.Console
import ModelLang.Proofs.Added

/-!
# ModelLang.Proofs.Run

Sessions along the execution of statements. A statement that is not a loop edits the model while it
evaluates, and may then declare one symbol, print a line or count a failed check
(`Session.Change`); a loop does the same as its innermost body, time and again. Hence a property
that these changes preserve holds of every session (`Session.after_induction`), whichever of the
statements before have failed.
-/

namespace ModelLang

open Eval (Sound)

/-! ## What a statement may change -/

namespace Statement

/-- The statement that is run for the tuples of all loops around it. -/
def innermost : Statement → Statement
  | each _ body _ => body.innermost
  | s => s

/-- The name of the symbol that the statement declares. -/
def declared? : Statement → Option String
  | set d => some d.name.text
  | param d => some d.name.text
  | var d => some d.name.text
  | define d => some d.name.text
  | _ => none

/-- Whether the statement declares a set or a parameter with an expression for each tuple of an
index set, or a variable over an index set. -/
def IsIndexed : Statement → Prop
  | set d => d.IsIndexed
  | param d => d.IsIndexed
  | var d => d.index ≠ none
  | _ => False

end Statement

/-- The numbers of variables in the declared symbols are numbers of the model. -/
def Session.Below (s : Session) : Prop :=
  s.symbols.Below s.work.size

/-- What a symbol is like that a statement declares. The variables of a family are younger than
those of all other families. -/
structure Symbol.Fits (d : Statement) (s : Session) (symbol : Symbol) : Prop where
  keysIn : symbol.KeysIn
  keysOn : d.IsIndexed → symbol.KeysOn
  numbered : ∀ f, symbol = .var f → ∃ k, s.symbols.Below k ∧ f.Numbered k s.work.size

/-- What the statement `d`, not a loop, does to a session at a time. -/
inductive Session.Change (d : Statement) : Session → Session → Prop where
  | work {s : Session} {w : Workspace} (h : s.work.Revision w) : Change d s { s with work := w }
  | declare {s : Session} {x : String} {symbol : Symbol} {symbols : Symbols}
      (hd : d.declared? = some x) (h : s.symbols.declare x symbol = .ok symbols)
      (hf : symbol.Fits d s) : Change d s { s with symbols := symbols }
  | print {s : Session} (line : String) :
      Change d s { s with printed := s.printed ++ [line] }
  | check {s : Session} : Change d s { s with failedChecks := s.failedChecks + 1 }

theorem Symbols.declare_ok {symbols symbols' : Symbols} {x : String} {symbol : Symbol}
    (h : symbols.declare x symbol = .ok symbols') :
    symbols.get? x = none ∧ symbols' = symbols ++ [(x, symbol)] := by
  unfold Symbols.declare at h
  split at h
  · cases h
  · rename_i hd
    cases h
    exact ⟨by simpa [Symbols.declares] using hd, rfl⟩

namespace Session

abbrev Changes (d : Statement) : Session → Session → Prop := Relation.ReflTransGen (Change d)

theorem Change.below {d : Statement} {s s' : Session} (h : Change d s s') (hs : s.Below) :
    s'.Below := by
  cases h with
  | work h => exact hs.mono h.size_le
  | @declare x symbol symbols hd h hf =>
    obtain ⟨_, rfl⟩ := Symbols.declare_ok h
    refine List.forall_mem_append.2 ⟨hs, List.forall_mem_singleton.2 ?_⟩
    cases symbol with
    | var f =>
      obtain ⟨k, _, hn⟩ := hf.numbered f rfl
      exact ⟨fun e he => (hn.range e he).2, fun a ha => by simp [hn.fallback] at ha⟩
    | set _ | number _ | string _ | define _ => trivial
  | print line => exact hs
  | check => exact hs

theorem Changes.below {d : Statement} {s s' : Session} (h : Changes d s s') (hs : s.Below) :
    s'.Below :=
  preserved_of_changes (I := Below) (fun _ _ h => h.below) h hs

theorem Changes.size_le {d : Statement} {s s' : Session} (h : Changes d s s') :
    s.work.size ≤ s'.work.size := by
  induction h with
  | refl => exact le_refl _
  | tail _ hstep ih =>
    cases hstep with
    | work h => exact ih.trans h.size_le
    | declare | print | check => exact ih

end Session

/-! ## Execution -/

namespace Exec

variable {d : Statement} {s : Session} {α : Type} {Q : Session → α → Prop}

/-- With declared symbols about variables of the model, the execution takes the session through
changes that `d` may make, and its result has `Q`. -/
def Sound (d : Statement) (s : Session) (α : Type) (Q : Session → α → Prop) (x : Exec α) : Prop :=
  s.Below → x.Ends (Session.Change d) s Q

theorem Sound.rules (d : Statement) : Rules (Session.Changes d) (Sound d) where
  refl _ := .refl
  trans := .trans
  pure h _ := .pure h
  bind hx hf hs := (hx hs).bind fun s₁ a h₁ ha => hf s₁ a h₁ ha (Session.Changes.below h₁ hs)

namespace Sound

theorem pure {a : α} (h : Q s a) : Sound d s α Q (Pure.pure a) :=
  (rules d).pure h

theorem bind {β : Type} {S : Session → β → Prop} {x : Exec α} {f : α → Exec β}
    (hx : Sound d s α Q x)
    (hf : ∀ s₁ a, Session.Changes d s s₁ → Q s₁ a → Sound d s₁ β S (f a)) :
    Sound d s β S (x >>= f) :=
  (rules d).bind hx hf

/-- An evaluation only works on the workspace. -/
theorem revise {tables : Table.Source} {x : Context → Eval α} {P : Workspace → α → Prop}
    (h : s.Below → (x (.ofSymbols s.symbols tables)).Ends Workspace.Revision s.work P) :
    Sound d s α (fun s' a => s'.symbols = s.symbols ∧ P s'.work a) (Exec.eval tables x) := by
  intro hs
  have hx : ((x (.ofSymbols s.symbols tables)).onPart Session.work
      fun w s => { s with work := w }).Ends (Session.Change d) s
      fun s' a => s'.symbols = s.symbols ∧ P s'.work a :=
    (h hs).onPart rfl (fun _ _ hw => .work hw) fun _ _ ha => ⟨rfl, ha⟩
  exact ⟨hx.changes, hx.result⟩

theorem eval {tables : Table.Source} {x : Context → Eval α} {P : Workspace → α → Prop}
    (h : Eval.Sound s.symbols s.work α P (x (.ofSymbols s.symbols tables))) :
    Sound d s α (fun s' a => s'.symbols = s.symbols ∧ P s'.work a) (Exec.eval tables x) :=
  revise fun hs => (h hs).mono fun _ _ hw => hw.revision

theorem requireNew (x : Name) : Sound d s Unit (fun s' _ => s' = s) (Exec.requireNew x) := by
  intro _
  unfold Exec.requireNew
  refine ⟨?_, ?_⟩
  · split <;> exact .refl
  · split
    · exact fun _ ha => nomatch ha
    · exact fun _ _ => rfl

theorem declare {x : Name} {symbol : Symbol} (hd : d.declared? = some x.text)
    (hf : symbol.Fits d s) : Sound d s Unit (fun _ _ => True) (Exec.declare x symbol) := by
  intro _
  refine ⟨?_, fun _ _ => trivial⟩
  unfold Exec.declare
  split
  · rename_i symbols h
    exact .single (.declare hd h hf)
  · exact .refl

theorem printLine (line : String) : Sound d s Unit (fun _ _ => True) (Exec.printLine line) :=
  fun _ => .single (.print line) fun _ _ => trivial

theorem countFailedCheck : Sound d s Unit (fun _ _ => True) Exec.countFailedCheck :=
  fun _ => .single .check fun _ _ => trivial

end Sound

end Exec

theorem DefineDecl.eval_sound {symbols : Symbols} {w : Workspace} (d : DefineDecl) :
    Eval.Sound symbols w Define (fun _ _ => True) d.eval := by
  unfold DefineDecl.eval
  split
  · exact .fail _ _
  · exact .pure trivial

/-- By induction on the loops around the statement proper. A loop takes its body through sessions
that differ, and the frames of its tuples stay below the growing number of variables. -/
theorem Statement.run_sound (tables : Table.Source) (st : Statement) (path : List Tuple)
    {scope : Scope} {s : Session} (hs : scope.Below s.work.size) :
    Exec.Sound st.innermost s Unit (fun _ _ => True) (st.run tables path scope) := by
  induction st generalizing path scope s with
  | set d =>
    refine .bind (.requireNew d.name) ?_
    rintro _ _ _ rfl
    refine .bind (.eval (d.eval_sound hs)) ?_
    rintro s₁ f _ ⟨_, hin, hon⟩
    exact .declare rfl ⟨hin, hon, nofun⟩
  | param d =>
    refine .bind (.requireNew d.name) ?_
    rintro _ _ _ rfl
    refine .bind (.eval (d.eval_sound hs)) ?_
    rintro s₁ symbol _ ⟨_, hp, hin, hon⟩
    refine .declare rfl ⟨hin, hon, ?_⟩
    rintro f rfl
    exact hp.elim
  | var d =>
    intro hb
    refine Exec.Sound.bind (.requireNew d.name) ?_ hb
    rintro _ _ _ rfl
    refine .bind (.eval (d.eval_sound hs)) ?_
    rintro s₁ f _ ⟨hsymbols, hn, hin, hon⟩
    refine .declare rfl ⟨hin, hon, ?_⟩
    rintro _ ⟨⟩
    exact ⟨_, hsymbols ▸ hb, hn⟩
  | objective d => exact fun hb => (Exec.Sound.revise (fun _ => d.set_ends hb hs) hb).anyhow
  | subto d => exact fun hb => (Exec.Sound.eval (d.body.add_sound d.name.text path hs) hb).anyhow
  | sos d => exact fun hb => (Exec.Sound.eval (d.add_sound path hs) hb).anyhow
  | define d =>
    refine .bind (.eval d.eval_sound) fun s₁ f _ _ => ?_
    exact .declare rfl ⟨trivial, False.elim, nofun⟩
  | print items span =>
    exact .bind (.eval (Expr.evalLine_sound items hs)) fun s₁ line _ _ => .printLine line
  | check condition span =>
    refine .bind (.eval (condition.evalTruth_sound hs "check")) fun s₁ holds _ _ => ?_
    split
    · exact .pure trivial
    · exact .countFailedCheck
  | each index body span ih =>
    refine .bind (.eval (index.evalSet_sound hs)) fun s₁ S h₁ _ => ?_
    refine (Exec.Sound.rules body.innermost).foldTuples
      (F := fun s frame => frame.Below s.work.size) (fun _ _ _ => True) (fun _ _ => trivial)
      (fun _ _ => trivial) ?_ ?_ [] S.tuples trivial
    · intro s₂ t h₂ hb
      have hs₂ := hs.mono (Session.Changes.size_le (h₁.trans h₂))
      exact (Exec.Sound.eval (index.enter_sound hs₂ t) hb).imp fun _ _ _ h => h.2
    · intro _ _ s₂ frame t _ _ hframe
      exact ih (path ++ [t]) hframe

/-! ## Sessions in the course of execution -/

namespace Session

/-- The session after statements, each with the tables that it finds. One that fails does not keep
the next from execution. -/
def runAll (s : Session) (history : List (Table.Source × Statement)) : Session :=
  history.foldl (fun s e => (e.2.execute e.1 s).2) s

/-- The session that statements lead to from the start. -/
def after (random : Random) (history : List (Table.Source × Statement)) : Session :=
  (start random).runAll history

theorem runAll_append (s : Session) (before rest : List (Table.Source × Statement)) :
    s.runAll (before ++ rest) = (s.runAll before).runAll rest :=
  List.foldl_append

theorem execute_changes (tables : Table.Source) (st : Statement) {s : Session} (hs : s.Below) :
    Changes st.innermost s (st.execute tables s).2 :=
  (st.run_sound tables [] (Scope.below_nil _) hs).changes

/-- What holds of a session and is preserved by every change holds after any statements. -/
theorem runAll_induction {I : Session → Prop} (hI : ∀ s, I s → s.Below)
    (hstep : ∀ d s s', Change d s s' → I s → I s') (history : List (Table.Source × Statement))
    {s : Session} (hs : I s) : I (s.runAll history) := by
  induction history generalizing s with
  | nil => exact hs
  | cons e history ih =>
    exact ih (preserved_of_changes (hstep _) (execute_changes e.1 e.2 (hI s hs)) hs)

theorem start_below (random : Random) : (start random).Below :=
  fun _ he => nomatch he

theorem after_below (random : Random) (history : List (Table.Source × Statement)) :
    (after random history).Below :=
  runAll_induction (fun _ h => h) (fun _ _ _ => Change.below) history (start_below random)

theorem after_induction {I : Session → Prop} (hI : ∀ s, I s → s.Below)
    (hstep : ∀ d s s', Change d s s' → I s → I s') (random : Random)
    (history : List (Table.Source × Statement)) (hstart : I (start random)) :
    I (after random history) :=
  runAll_induction hI hstep history hstart

/-- The model comes from the empty one by edits. -/
theorem after_edits (random : Random) (history : List (Table.Source × Statement)) :
    Model.empty.Edits (after random history).model := by
  have hboth : (after random history).Below ∧ Model.empty.Edits (after random history).model := by
    refine after_induction (I := fun s => s.Below ∧ Model.empty.Edits s.model)
      (fun _ h => h.1) ?_ random history ⟨start_below random, .refl⟩
    rintro d s s' h ⟨hb, he⟩
    refine ⟨h.below hb, ?_⟩
    cases h with
    | work h => exact he.trans h.to_reflTransGen
    | declare | print | check => exact he
  exact hboth.2

end Session

/-! ## Programs and the interactive mode -/

/-- A program executes its statements up to the first that fails. -/
theorem Statement.executeAll_runAll (tables : Table.Source) (sts : List Statement) (s : Session) :
    ∃ k, (executeAll tables sts s).2 = s.runAll ((sts.take k).map fun st => (tables, st)) := by
  induction sts generalizing s with
  | nil => exact ⟨0, rfl⟩
  | cons st rest ih =>
    unfold executeAll
    rw [Step.bind_apply]
    rcases h : st.execute tables s with ⟨_ | u, s₁⟩
    · exact ⟨1, by simp [Session.runAll, h]⟩
    · obtain ⟨k, hk⟩ := ih s₁
      refine ⟨k + 1, ?_⟩
      rw [List.take_succ_cons, List.map_cons]
      simp only [Session.runAll, List.foldl_cons, h]
      exact hk

/-- The session of a program is one that its statements lead to. -/
theorem Program.run_after (p : Program) (tables : Table.Source) (random : Random) :
    ∃ k, (p.run tables random).2 =
      .after random ((p.statements.take k).map fun st => (tables, st)) := by
  obtain ⟨k, hk⟩ := Statement.executeAll_runAll tables p.statements (.start random)
  refine ⟨k, ?_⟩
  unfold Program.run
  rcases h : Statement.executeAll tables p.statements (.start random) with ⟨_ | u, s⟩
  · rw [h] at hk
    exact hk
  · rw [h] at hk
    exact hk

/-- Each line that is typed executes some statements, and reading errors none. -/
theorem Console.feed_runAll (tables : Table.Source) (tree : Bool) (c : Console) (line : List Char) :
    ∃ sts : List Statement, (c.feed tables tree line).session =
      c.session.runAll (sts.map fun st => (tables, st)) := by
  have hexecute (c : Console) (st : Statement) :
      (c.execute tables tree st).session = (st.execute tables c.session).2 := by
    unfold execute
    rcases st.execute tables c.session with ⟨_ | u, s⟩ <;> rfl
  have hreport (errors : List SyntaxError) (c : Console) :
      (errors.foldl (fun c e => c.report e.message) c).session = c.session := by
    induction errors generalizing c with
    | nil => rfl
    | cons e rest ih => exact ih _
  have hrun (sts : List Statement) (c : Console) :
      (sts.foldl (execute tables tree) c).session =
        c.session.runAll (sts.map fun st => (tables, st)) := by
    induction sts generalizing c with
    | nil => rfl
    | cons st rest ih =>
      rw [List.foldl_cons, ih, hexecute]
      rfl
  unfold feed
  dsimp only
  split
  · unfold executeText
    split
    · exact ⟨[], rfl⟩
    · rename_i program _
      refine ⟨program.statements, ?_⟩
      rw [hrun, hreport]
  · exact ⟨[], rfl⟩

end ModelLang
