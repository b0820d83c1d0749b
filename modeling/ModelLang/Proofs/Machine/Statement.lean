import ModelLang.Proofs.Machine.Constraint

/-!
# ModelLang.Proofs.Machine.Statement

Statements on the machine. Execution empties both stacks first. Every statement leaves the stacks as
they were, whatever is on them and however it ends (`Statement.runStacked_balanced`); and as long as
no define is being expanded, the machine runs it as it is run when the tuples of the enclosing loops
are passed along (`Statement.acts_runStacked`).
-/

namespace ModelLang

open Eval Stacked

namespace Stacked

/-- Evaluates with the symbols declared so far. -/
def evaluate {α : Type} (x : Expansion → Stacked α) : Stacked α := fun m =>
  x (expansion m.session.symbols.length) m

end Stacked

namespace Statement

/-- Runs a statement in a scope, inside of the loops on the stack. -/
def runStacked : Statement → Scope → Stacked Unit
  | .set d, scope => do
    Exec.requireNew d.name
    let f ← evaluate fun expand => d.evalStacked expand scope
    Exec.declare d.name (.set f)
  | .param d, scope => do
    Exec.requireNew d.name
    let s ← evaluate fun expand => d.evalStacked expand scope
    Exec.declare d.name s
  | .var d, scope => do
    Exec.requireNew d.name
    let f ← evaluate fun expand => d.evalStacked expand scope
    Exec.declare d.name (.var f)
  | .objective d, scope => evaluate fun expand => d.setStacked expand scope
  | .subto d, scope => evaluate fun expand => d.body.addStacked expand d.name.text scope
  | .sos d, scope => evaluate fun expand => d.addStacked expand scope
  | .define d, _ => do
    let f ← evaluate fun _ => d.eval
    Exec.declare d.name (.define f)
  | .print items _, scope => do
    let line ← evaluate fun expand => Expr.evalLineStacked expand scope items
    Exec.printLine line
  | .check condition _, scope => do
    let holds ← evaluate fun expand => condition.takeStacked expand scope (Value.asTruth "check")
    if holds then return () else Exec.countFailedCheck
  | .each index body _, scope => do
    let s ← evaluate fun expand => index.evalSetStacked expand scope
    foldTuples (fun t => evaluate fun expand => index.enterStacked expand scope t)
      (fun _ frame t => under t (body.runStacked frame)) s.tuples ()

/-- Executes a statement of a program. -/
def executeStacked (s : Statement) : Stacked Unit := do
  Step.modify Machine.clear
  s.runStacked []

end Statement

/-! ## Balance -/

namespace Stacked

variable {α β : Type}

/-- The machine evaluates as with a context: it does nothing but work on the model. -/
def Works (x : Expansion → Stacked α) : Prop :=
  ∀ (m : Machine) expand ctx, m.Provides expand ctx → ∃ y, (x expand).Acts m.withWork y

namespace Works

variable {x : Expansion → Stacked α}

theorem balanced (h : Works x) (depth : Nat) : (x (expansion depth)).Balanced :=
  balanced_of_acts fun m => h m _ _ (m.provides_nested depth)

theorem evaluate_balanced (h : Works x) : (evaluate x).Balanced :=
  fun m => h.balanced _ m

end Works

namespace Balanced

variable {x : Stacked α}

theorem stack_eq (h : x.Balanced) {m m' : Machine} {r : Except Failure α} (hx : x m = (r, m')) :
    m'.stack = m.stack := by
  have hm := h m
  rwa [hx] at hm

theorem pure (a : α) : (Pure.pure a : Stacked α).Balanced :=
  fun _ => rfl

theorem onSession (x : Exec α) : (liftM x : Stacked α).Balanced :=
  fun _ => rfl

theorem bind {f : α → Stacked β} (hx : x.Balanced) (hf : ∀ a, (f a).Balanced) :
    (x >>= f).Balanced := by
  intro m
  rcases h : x m with ⟨_ | a, m₁⟩
  · rw [Step.bind_of_error h]
    exact hx.stack_eq h
  · rw [Step.bind_of_ok h]
    exact (hf a m₁).trans (hx.stack_eq h)

theorem foldTuples {enter : Tuple → Stacked (Option Scope)}
    {visit : β → Scope → Tuple → Stacked β} (he : ∀ t, (enter t).Balanced)
    (hv : ∀ acc frame t, (visit acc frame t).Balanced) (ts : List Tuple) (acc : β) :
    (ModelLang.foldTuples enter visit ts acc).Balanced := by
  induction ts generalizing acc with
  | nil => exact .pure acc
  | cons t ts ih =>
    refine .bind (he t) fun r => ?_
    cases r with
    | none => exact ih acc
    | some frame => exact .bind (hv acc frame t) ih

/-- The body of a loop finds one more tuple on the stack, and that one is popped. -/
theorem under (hx : x.Balanced) (t : Tuple) : (Stacked.under t x).Balanced := by
  intro m
  have hm : (x (m.mapStacks (.pushTuple t))).2.stack = m.stack.pushTuple t := hx _
  show (x (m.mapStacks (.pushTuple t))).2.stack.popTuple = m.stack
  rw [hm, Stacks.popTuple_pushTuple]

end Balanced

end Stacked

section Works

variable (scope : Scope)

theorem Expr.evalStacked_works (e : Expr) : Works fun expand => e.evalStacked expand scope :=
  fun _ _ _ h => ⟨_, e.acts_evalStacked h scope⟩

theorem Expr.takeStacked_works {α : Type} (e : Expr) (convert : Value → Except Cause α) :
    Works fun expand => e.takeStacked expand scope convert :=
  fun _ _ _ h => ⟨_, e.acts_takeStacked h scope convert⟩

theorem IndexSet.evalSetStacked_works (index : IndexSet) :
    Works fun expand => index.evalSetStacked expand scope :=
  fun _ _ _ h => ⟨_, index.acts_evalSetStacked h scope⟩

theorem IndexSet.enterStacked_works (index : IndexSet) (t : Tuple) :
    Works fun expand => index.enterStacked expand scope t :=
  fun _ _ _ h => ⟨_, index.acts_enterStacked h scope t⟩

theorem Constraint.addStacked_works (base : String) (c : Constraint) :
    Works fun expand => c.addStacked expand base scope :=
  fun m _ _ h => ⟨_, c.acts_addStacked base m h scope⟩

theorem SosBody.addStacked_works (d : SosDecl) (priority : Int) (body : SosBody) :
    Works fun expand => body.addStacked expand d priority scope :=
  fun _ _ _ h => ⟨_, body.acts_addStacked d priority h scope⟩

end Works

theorem Statement.runStacked_balanced : ∀ (s : Statement) (scope : Scope),
    (s.runStacked scope).Balanced
  | .set d, scope => by
    refine .bind (.onSession _) fun _ => .bind ?_ fun f => .onSession _
    exact Works.evaluate_balanced fun _ _ _ h => ⟨_, d.acts_evalStacked h scope⟩
  | .param d, scope => by
    refine .bind (.onSession _) fun _ => .bind ?_ fun s => .onSession _
    exact Works.evaluate_balanced fun _ _ _ h => ⟨_, d.acts_evalStacked h scope⟩
  | .var d, scope => by
    refine .bind (.onSession _) fun _ => .bind ?_ fun f => .onSession _
    exact Works.evaluate_balanced fun _ _ _ h => ⟨_, d.acts_evalStacked h scope⟩
  | .objective d, scope =>
    Works.evaluate_balanced fun _ _ _ h => ⟨_, ObjectiveDecl.acts_setStacked h d scope⟩
  | .subto d, scope => (d.body.addStacked_works scope d.name.text).evaluate_balanced
  | .sos d, scope =>
    Works.evaluate_balanced fun _ _ _ h => ⟨_, SosDecl.acts_addStacked h d scope⟩
  | .define d, _ => by
    refine .bind ?_ fun f => .onSession _
    exact Works.evaluate_balanced fun _ _ _ _ => ⟨_, acts_lift _⟩
  | .print items _, scope => by
    refine .bind ?_ fun line => .onSession _
    exact Works.evaluate_balanced fun _ _ _ h => ⟨_, Expr.acts_evalLineStacked h scope items⟩
  | .check condition _, scope => by
    refine .bind (condition.takeStacked_works scope _).evaluate_balanced fun holds => ?_
    cases holds with
    | true => exact .pure _
    | false => exact .onSession _
  | .each index body _, scope => by
    refine .bind (index.evalSetStacked_works scope).evaluate_balanced fun s => ?_
    refine .foldTuples ?_ ?_ s.tuples ()
    · exact fun t => (index.enterStacked_works scope t).evaluate_balanced
    · exact fun _ frame t => (body.runStacked_balanced frame).under t

/-! ## Statements with the tuples passed along -/

namespace Stacked

variable {α : Type} {m : Machine}

theorem acts_onSession (y : Exec α) : (liftM y : Stacked α).Acts m.withSession y :=
  fun _ => rfl

/-- Outside of defines, the machine evaluates in the context of the declared symbols. -/
theorem acts_evaluate (hm : m.stack.defines = []) {x : Expansion → Stacked α}
    {y : Context → Eval α}
    (h : ∀ s expand ctx, (m.withSession s).Provides expand ctx →
      (x expand).Acts (m.withSession s).withWork (y ctx)) :
    (evaluate x).Acts m.withSession (Exec.eval m.tables y) := by
  intro s
  have hprovides := (m.withSession s).provides_nested s.symbols.length
  have hcontext : Context.nested (m.withSession s).session.symbols (m.withSession s).tables
      s.symbols.length (m.withSession s).stack.defines = .ofSymbols s.symbols m.tables := by
    show Context.nested s.symbols m.tables s.symbols.length m.stack.defines = _
    rw [hm]
    rfl
  rw [hcontext] at hprovides
  exact h s _ _ hprovides s.work

end Stacked

/-- What is on the stack of loops is what is passed along, one loop after the other. -/
theorem Statement.acts_runStacked : ∀ (s : Statement) (m : Machine)
    (_ : m.stack.defines = []) (scope : Scope),
    (s.runStacked scope).Acts m.withSession (s.run m.tables m.stack.path scope)
  | .set d, m, hm, scope => by
    refine .bind (acts_onSession _) fun _ => .bind ?_ fun f => acts_onSession _
    exact acts_evaluate hm fun s expand ctx h => d.acts_evalStacked h scope
  | .param d, m, hm, scope => by
    refine .bind (acts_onSession _) fun _ => .bind ?_ fun s => acts_onSession _
    exact acts_evaluate hm fun s expand ctx h => d.acts_evalStacked h scope
  | .var d, m, hm, scope => by
    refine .bind (acts_onSession _) fun _ => .bind ?_ fun f => acts_onSession _
    exact acts_evaluate hm fun s expand ctx h => d.acts_evalStacked h scope
  | .objective d, m, hm, scope =>
    acts_evaluate hm fun s expand ctx h => ObjectiveDecl.acts_setStacked h d scope
  | .subto d, m, hm, scope =>
    acts_evaluate hm fun s expand ctx h => d.body.acts_addStacked d.name.text _ h scope
  | .sos d, m, hm, scope =>
    acts_evaluate hm fun s expand ctx h => SosDecl.acts_addStacked h d scope
  | .define d, m, hm, _ => by
    refine .bind ?_ fun f => acts_onSession _
    exact acts_evaluate hm fun s expand ctx h => acts_lift _
  | .print items _, m, hm, scope => by
    refine .bind ?_ fun line => acts_onSession _
    exact acts_evaluate hm fun s expand ctx h => Expr.acts_evalLineStacked h scope items
  | .check condition _, m, hm, scope => by
    refine .bind ?_ fun holds => ?_
    · exact acts_evaluate hm fun s expand ctx h => condition.acts_takeStacked h scope _
    · cases holds with
      | true => exact .pure _
      | false => exact acts_onSession _
  | .each index body _, m, hm, scope => by
    refine .bind ?_ fun s => ?_
    · exact acts_evaluate hm fun s expand ctx h => index.acts_evalSetStacked h scope
    · refine .foldTuples ?_ ?_ s.tuples ()
      · exact fun t => acts_evaluate hm fun s expand ctx h => index.acts_enterStacked h scope t
      · intro _ frame t
        exact acts_under (body.acts_runStacked (m.mapStacks (.pushTuple t)) hm frame)

/-- Whatever is on the stacks before, the machine executes statements as they are executed, and both
stacks are empty afterwards. -/
theorem Statement.executeStacked_eq (s : Statement) (m : Machine) :
    s.executeStacked m =
      ((s.execute m.tables m.session).1, m.clear.withSession (s.execute m.tables m.session).2) :=
  s.acts_runStacked m.clear rfl [] m.session

end ModelLang
