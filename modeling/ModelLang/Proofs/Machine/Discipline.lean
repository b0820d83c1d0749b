import ModelLang.Proofs.Machine.Statement

/-!
# ModelLang.Proofs.Machine.Discipline

What balanced stacks are good for. A run leads from a loop to its body and from a statement to the
constraints in it (`Spot.Reaches`), and wherever it comes, the stack holds the tuples of precisely
the loops on the way, the outermost first; so do the names of what is added there. A failure there
ends the whole run with balanced stacks. Between statements both stacks are empty, so that emptying
them makes no difference after the first statement.
-/

namespace ModelLang

open Eval Stacked

/-- What is run inside of loops: statements, constraints and bodies of special ordered sets. -/
inductive Node where
  | statement (s : Statement)
  | constraint (base : String) (c : Constraint)
  | sos (d : SosDecl) (priority : Int) (body : SosBody)

namespace Node

def run : Node → Scope → Stacked Unit
  | statement s, scope => s.runStacked scope
  | constraint base c, scope => evaluate fun expand => c.addStacked expand base scope
  | sos d priority body, scope => evaluate fun expand => body.addStacked expand d priority scope

/-- The index set and the body of a loop. -/
def loop? : Node → Option (IndexSet × Node)
  | statement (.each index body _) => some (index, statement body)
  | constraint base (.each index body) => some (index, constraint base body)
  | sos d priority (.each index body) => some (index, sos d priority body)
  | _ => none

/-- Runs the body of a loop for some tuples. -/
def rounds (index : IndexSet) (body : Node) (scope : Scope) (ts : List Tuple) : Stacked Unit :=
  foldTuples (fun t => evaluate fun expand => index.enterStacked expand scope t)
    (fun _ frame t => under t (body.run frame)) ts ()

end Node

/-- A node that a machine is about to run in a scope. -/
structure Spot where
  node : Node
  scope : Scope
  machine : Machine

namespace Spot

def run (a : Spot) : Except Failure Unit × Machine := a.node.run a.scope a.machine

/-- The run of one node comes to another one, after all that is run before went well. The list holds
the tuple for which the body of a loop is run. -/
inductive Leads : Spot → List Tuple → Spot → Prop
  | round {node body : Node} {index : IndexSet} {scope frame : Scope} {m m₁ m₂ m₃ : Machine}
      {s : TupleSet} {before after : List Tuple} {t : Tuple} :
    node.loop? = some (index, body) →
    evaluate (fun expand => index.evalSetStacked expand scope) m = (.ok s, m₁) →
    s.tuples = before ++ t :: after →
    Node.rounds index body scope before m₁ = (.ok (), m₂) →
    evaluate (fun expand => index.enterStacked expand scope t) m₂ = (.ok (some frame), m₃) →
    Leads ⟨node, scope, m⟩ [t] ⟨body, frame, m₃.mapStacks (.pushTuple t)⟩
  | subto {d : SubtoDecl} {scope : Scope} {m : Machine} :
    Leads ⟨.statement (.subto d), scope, m⟩ [] ⟨.constraint d.name.text d.body, scope, m⟩
  | sos {d : SosDecl} {scope : Scope} {m m₁ : Machine} {priority : Option Int} :
    evaluate (fun expand => evalOptionStacked d.priority fun e =>
      e.evalIntegerStacked expand scope "priority") m = (.ok priority, m₁) →
    Leads ⟨.statement (.sos d), scope, m⟩ [] ⟨.sos d (priority.getD 0) d.body, scope, m₁⟩
  | part {base : String} {before after : List Constraint} {c : Constraint} {scope : Scope}
      {m m₁ : Machine} :
    evaluate (fun expand => Constraint.addAllStacked expand base before scope) m = (.ok (), m₁) →
    Leads ⟨.constraint base (.all (before ++ c :: after)), scope, m⟩ []
      ⟨.constraint base c, scope, m₁⟩
  | yes {base : String} {condition : Expr} {yes : Constraint} {no : Option Constraint}
      {scope : Scope} {m m₁ : Machine} :
    evaluate (fun expand => condition.takeStacked expand scope (Value.asTruth "if")) m =
      (.ok true, m₁) →
    Leads ⟨.constraint base (.cond condition yes no), scope, m⟩ []
      ⟨.constraint base yes, scope, m₁⟩
  | no {base : String} {condition : Expr} {yes no : Constraint} {scope : Scope} {m m₁ : Machine} :
    evaluate (fun expand => condition.takeStacked expand scope (Value.asTruth "if")) m =
      (.ok false, m₁) →
    Leads ⟨.constraint base (.cond condition yes (some no)), scope, m⟩ []
      ⟨.constraint base no, scope, m₁⟩

/-- The run of one node comes to another one, with the tuples of the loops on the way, the outermost
first. -/
inductive Reaches : Spot → List Tuple → Spot → Prop
  | refl (a : Spot) : Reaches a [] a
  | step {a b c : Spot} {ts us : List Tuple} :
    a.Leads ts b → b.Reaches us c → Reaches a (ts ++ us) c

end Spot

/-! ## Parts of a run -/

theorem SosDecl.priority_works (d : SosDecl) (scope : Scope) :
    Works fun expand => evalOptionStacked d.priority fun e =>
      e.evalIntegerStacked expand scope "priority" :=
  fun _ _ _ h =>
    ⟨_, acts_evalOptionStacked d.priority fun e => e.acts_evalIntegerStacked h scope _⟩

theorem Constraint.addAllStacked_works (scope : Scope) (base : String) (cs : List Constraint) :
    Works fun expand => Constraint.addAllStacked expand base cs scope :=
  fun m _ _ h => ⟨_, Constraint.acts_addAllStacked base cs m h scope⟩

namespace Stacked

variable {α β : Type}

/-- An evaluation in two parts: the first one declares nothing, so that the second one nests
defines no deeper. -/
theorem evaluate_bind {x : Expansion → Stacked α} (hx : Works x)
    (f : Expansion → α → Stacked β) :
    (evaluate fun expand => x expand >>= f expand) =
      evaluate x >>= fun a => evaluate fun expand => f expand a := by
  funext m
  -- What is left after the first part is the machine with other work, so the same symbols.
  obtain ⟨y, hy⟩ := hx m _ _ (m.provides_nested m.session.symbols.length)
  have hm : evaluate x m = ((y m.session.work).1, m.withWork (y m.session.work).2) :=
    hy m.session.work
  rcases hw : y m.session.work with ⟨_ | a, w⟩
  · rw [hw] at hm
    rw [Step.bind_of_error hm]
    exact Step.bind_of_error hm _
  · rw [hw] at hm
    rw [Step.bind_of_ok hm]
    exact Step.bind_of_ok hm _

theorem Works.under {x : Expansion → Stacked α} (h : Works x) (t : Tuple) :
    Works fun expand => Stacked.under t (x expand) := by
  intro m expand ctx hprovides
  obtain ⟨y, hy⟩ := h _ _ _ (hprovides.pushTuple t)
  exact ⟨y, acts_under hy⟩

/-- A loop within an evaluation, with every round as an evaluation of its own. -/
theorem evaluate_foldTuples {enter : Expansion → Tuple → Stacked (Option Scope)}
    {body : Expansion → Scope → Stacked Unit} (he : ∀ t, Works fun expand => enter expand t)
    (hb : ∀ frame, Works fun expand => body expand frame) (ts : List Tuple) :
    (evaluate fun expand =>
      foldTuples (enter expand) (fun _ frame t => Stacked.under t (body expand frame)) ts ()) =
    foldTuples (fun t => evaluate fun expand => enter expand t)
      (fun _ frame t => Stacked.under t (evaluate fun expand => body expand frame)) ts () := by
  induction ts with
  | nil => rfl
  | cons t ts ih =>
    unfold foldTuples
    rw [evaluate_bind (he t)]
    congr 1
    funext r
    cases r with
    | none => exact ih
    | some frame =>
      dsimp only
      rw [evaluate_bind ((hb frame).under t)]
      congr 1
      funext _
      exact ih

theorem evaluate_forEach (index : IndexSet) (scope : Scope)
    {body : Expansion → Scope → Stacked Unit}
    (hb : ∀ frame, Works fun expand => body expand frame) :
    (evaluate fun expand => index.forEachStacked expand scope (body expand)) = (do
      let s ← evaluate fun expand => index.evalSetStacked expand scope
      foldTuples (fun t => evaluate fun expand => index.enterStacked expand scope t)
        (fun _ frame t => Stacked.under t (evaluate fun expand => body expand frame))
        s.tuples ()) := by
  unfold IndexSet.forEachStacked
  rw [evaluate_bind (index.evalSetStacked_works scope)]
  congr 1
  funext s
  exact evaluate_foldTuples (index.enterStacked_works scope) hb s.tuples

end Stacked

theorem foldTuples_append {m : Type → Type} [Monad m] [LawfulMonad m] {β : Type}
    (enter : Tuple → m (Option Scope)) (visit : β → Scope → Tuple → m β) (ts us : List Tuple)
    (acc : β) :
    foldTuples enter visit (ts ++ us) acc =
      foldTuples enter visit ts acc >>= fun acc => foldTuples enter visit us acc := by
  induction ts generalizing acc with
  | nil => rw [foldTuples, pure_bind, List.nil_append]
  | cons t ts ih =>
    rw [List.cons_append, foldTuples, foldTuples, bind_assoc]
    congr 1
    funext r
    cases r with
    | none => exact ih acc
    | some frame =>
      dsimp only
      rw [bind_assoc]
      simp only [ih]

theorem Constraint.addAllStacked_append (expand : Expansion) (base : String)
    (cs ds : List Constraint) (scope : Scope) :
    Constraint.addAllStacked expand base (cs ++ ds) scope = (do
      Constraint.addAllStacked expand base cs scope
      Constraint.addAllStacked expand base ds scope) := by
  induction cs with
  | nil => rfl
  | cons c cs ih =>
    simp only [List.cons_append, Constraint.addAllStacked, ih, bind_assoc]

theorem Constraint.evaluate_cond (base : String) (condition : Expr) (yes : Constraint)
    (no : Option Constraint) (scope : Scope) :
    (evaluate fun expand => (Constraint.cond condition yes no).addStacked expand base scope) = (do
      let c ← evaluate fun expand => condition.takeStacked expand scope (Value.asTruth "if")
      evaluate fun expand =>
        if c then yes.addStacked expand base scope
        else
          match no with
          | none => return ()
          | some no => no.addStacked expand base scope) := by
  conv => lhs; unfold Constraint.addStacked
  exact evaluate_bind (condition.takeStacked_works scope _) _

namespace Node

/-- A loop determines its tuples and runs its body for them, whatever is run in it. -/
theorem run_of_loop {n body : Node} {index : IndexSet} (h : n.loop? = some (index, body))
    (scope : Scope) :
    n.run scope = (do
      let s ← evaluate fun expand => index.evalSetStacked expand scope
      rounds index body scope s.tuples) := by
  unfold loop? at h
  split at h
  · cases h
    rfl
  · rename_i base _ body
    cases h
    exact evaluate_forEach index scope fun frame => body.addStacked_works frame base
  · rename_i d priority _ body
    cases h
    exact evaluate_forEach index scope fun frame => body.addStacked_works frame d priority
  · cases h

theorem run_balanced (n : Node) (scope : Scope) : (n.run scope).Balanced := by
  cases n with
  | statement s => exact s.runStacked_balanced scope
  | constraint base c => exact (c.addStacked_works scope base).evaluate_balanced
  | sos d priority body => exact (body.addStacked_works scope d priority).evaluate_balanced

theorem rounds_balanced (index : IndexSet) (body : Node) (scope : Scope) (ts : List Tuple) :
    (rounds index body scope ts).Balanced :=
  .foldTuples (fun t => (index.enterStacked_works scope t).evaluate_balanced)
    (fun _ frame t => (body.run_balanced frame).under t) ts ()

end Node

/-! ## Where a run comes -/

namespace Spot

variable {a b : Spot} {ts : List Tuple}

theorem Leads.stack (h : a.Leads ts b) :
    b.machine.stack = ⟨a.machine.stack.defines, a.machine.stack.path ++ ts⟩ := by
  cases h with
  | @round node body index scope frame m m₁ m₂ m₃ s before after t _ hset _ hbefore henter =>
    have hset := (index.evalSetStacked_works scope).evaluate_balanced.stack_eq hset
    have hbefore := (Node.rounds_balanced index body scope before).stack_eq hbefore
    have henter := (index.enterStacked_works scope t).evaluate_balanced.stack_eq henter
    show m₃.stack.pushTuple t = _
    rw [henter, hbefore, hset]
    rfl
  | subto => simp
  | @sos d scope _ _ _ hpriority =>
    simpa using (d.priority_works scope).evaluate_balanced.stack_eq hpriority
  | @part base before _ _ scope _ _ hbefore =>
    have hworks := Constraint.addAllStacked_works scope base before
    simpa using hworks.evaluate_balanced.stack_eq hbefore
  | @yes _ condition _ _ scope _ _ hc | @no _ condition _ _ scope _ _ hc =>
    simpa using (condition.takeStacked_works scope _).evaluate_balanced.stack_eq hc

/-- A failure of what a run comes to is the failure of the run. -/
theorem Leads.run_error (h : a.Leads ts b) {f : Failure} {m : Machine}
    (hb : b.run = (.error f, m)) : ∃ m', a.run = (.error f, m') ∧ m'.session = m.session := by
  cases h with
  | @round node body index scope frame _ _ _ m₃ s before after t hloop hset hs hbefore henter =>
    -- The failure passes the pop, so that the loop ends with the session of the body.
    have hround : under t (body.run frame) m₃ = (.error f, m.mapStacks .popTuple) := by
      show (match body.run frame (m₃.mapStacks (.pushTuple t)) with
        | (r, m) => (r, m.mapStacks .popTuple)) = _
      rw [show body.run frame (m₃.mapStacks (.pushTuple t)) = _ from hb]
    refine ⟨m.mapStacks .popTuple, ?_, rfl⟩
    rw [run, Node.run_of_loop hloop, Step.bind_of_ok hset, hs, Node.rounds, foldTuples_append]
    refine (Step.bind_of_ok hbefore _).trans ?_
    rw [foldTuples, Step.bind_of_ok henter]
    exact Step.bind_of_error hround _
  | subto => exact ⟨m, hb, rfl⟩
  | @sos d scope _ _ _ hpriority =>
    have hrun := evaluate_bind (d.priority_works scope) fun expand priority =>
      d.body.addStacked expand d (priority.getD 0) scope
    exact ⟨m, (congrFun hrun _).trans ((Step.bind_of_ok hpriority _).trans hb), rfl⟩
  | @part base before after c scope _ _ hbefore =>
    have hrest := evaluate_bind (c.addStacked_works scope base) fun expand _ =>
      Constraint.addAllStacked expand base after scope
    have hrun := evaluate_bind (Constraint.addAllStacked_works scope base before) fun expand _ =>
      Constraint.addAllStacked expand base (c :: after) scope
    simp only [← Constraint.addAllStacked_append] at hrun
    refine ⟨m, (congrFun hrun _).trans ((Step.bind_of_ok hbefore _).trans ?_), rfl⟩
    exact (congrFun hrest _).trans (Step.bind_of_error hb _)
  | @yes base condition yes no scope _ _ hc =>
    have hrun := Constraint.evaluate_cond base condition yes no scope
    exact ⟨m, (congrFun hrun _).trans ((Step.bind_of_ok hc _).trans hb), rfl⟩
  | @no base condition yes no scope _ _ hc =>
    have hrun := Constraint.evaluate_cond base condition yes (some no) scope
    exact ⟨m, (congrFun hrun _).trans ((Step.bind_of_ok hc _).trans hb), rfl⟩

theorem Reaches.stack (h : a.Reaches ts b) :
    b.machine.stack = ⟨a.machine.stack.defines, a.machine.stack.path ++ ts⟩ := by
  induction h with
  | refl a => simp
  | step hab _ ih => rw [ih, hab.stack, List.append_assoc]

theorem Reaches.run_error (h : a.Reaches ts b) {f : Failure} {m : Machine}
    (hb : b.run = (.error f, m)) : ∃ m', a.run = (.error f, m') ∧ m'.session = m.session := by
  induction h with
  | refl a => exact ⟨m, hb, rfl⟩
  | step hab _ ih =>
    obtain ⟨m₁, hrun, hm₁⟩ := ih hb
    obtain ⟨m₂, hrun, hm₂⟩ := hab.run_error hrun
    exact ⟨m₂, hrun, hm₂.trans hm₁⟩

end Spot

/-! ## One statement after another -/

/-- Runs statements one after another, also after failures, with the result of each. -/
def Stacked.inTurn (run : Statement → Stacked Unit) :
    List Statement → Machine → List (Except Failure Unit) × Machine
  | [], m => ([], m)
  | s :: rest, m =>
    match run s m with
    | (r, m) =>
      match inTurn run rest m with
      | (rs, m) => (r :: rs, m)

theorem Machine.clear_of_empty {m : Machine} (h : m.stack = .empty) : m.clear = m := by
  rw [clear, mapStacks, ← h]

theorem Statement.executeStacked_stack (s : Statement) (m : Machine) :
    (s.executeStacked m).2.stack = .empty := by
  rw [s.executeStacked_eq]
  rfl

/-- With empty stacks, it makes no difference that they are emptied before every statement. -/
theorem Stacked.inTurn_executeStacked {m : Machine} (h : m.stack = .empty)
    (ss : List Statement) :
    inTurn Statement.executeStacked ss m = inTurn (fun s => s.runStacked []) ss m := by
  induction ss generalizing m with
  | nil => rfl
  | cons s ss ih =>
    have hs : s.executeStacked m = s.runStacked [] m := by
      show s.runStacked [] m.clear = _
      rw [Machine.clear_of_empty h]
    have hstack := s.executeStacked_stack m
    unfold inTurn
    dsimp only
    rw [← hs]
    rcases hm : s.executeStacked m with ⟨r, m₁⟩
    rw [hm] at hstack
    rw [ih hstack]

/-! ## The discipline -/

/-- The context of the declared symbols, inside of the defines that are being expanded. -/
def Machine.surroundings (m : Machine) : Context :=
  .nested m.session.symbols m.tables m.session.symbols.length m.stack.defines

/-- What holds of the stacks on every path through a program. -/
structure StackDiscipline : Prop where
  /-- The machine evaluates as it is done with a context that has the defines of its stack. -/
  evaluation (depth : Nat) (e : Expr) (scope : Scope) (m : Machine) :
    (e.evalStacked (expansion depth) scope).Acts m.withWork
      (e.eval (.nested m.session.symbols m.tables depth m.stack.defines) scope)
  /-- It executes as it is done with the tuples passed along, and both stacks are empty then. -/
  execution (s : Statement) (m : Machine) :
    s.executeStacked m =
      ((s.execute m.tables m.session).1, m.clear.withSession (s.execute m.tables m.session).2)
  expression (depth : Nat) (e : Expr) (scope : Scope) :
    (e.evalStacked (expansion depth) scope).Balanced
  constraint (depth : Nat) (base : String) (c : Constraint) (scope : Scope) :
    (c.addStacked (expansion depth) base scope).Balanced
  sos (depth : Nat) (d : SosDecl) (priority : Int) (body : SosBody) (scope : Scope) :
    (body.addStacked (expansion depth) d priority scope).Balanced
  statement (s : Statement) (scope : Scope) : (s.runStacked scope).Balanced
  /-- The path is that of the loops on the way, each with the tuple that its body runs for. -/
  path {a b : Spot} {ts : List Tuple} : a.Reaches ts b →
    b.machine.stack = ⟨a.machine.stack.defines, a.machine.stack.path ++ ts⟩
  name {a b : Spot} {ts : List Tuple} (base : String) : a.Reaches ts b →
    pathName base b.machine = (.ok (qualified base (a.machine.stack.path ++ ts)), b.machine)
  /-- So are the names of rows. -/
  rows {a : Spot} {ts : List Tuple} {base : String} {c : Constraint} {scope : Scope}
      {m : Machine} : a.Reaches ts ⟨.constraint base c, scope, m⟩ →
    ((Node.constraint base c).run scope).Acts m.withWork
      (c.add m.surroundings base (a.machine.stack.path ++ ts) scope)
  /-- So are the names of special ordered sets. -/
  sets {a : Spot} {ts : List Tuple} {d : SosDecl} {priority : Int} {body : SosBody}
      {scope : Scope} {m : Machine} : a.Reaches ts ⟨.sos d priority body, scope, m⟩ →
    ((Node.sos d priority body).run scope).Acts m.withWork
      (body.add m.surroundings d priority (a.machine.stack.path ++ ts) scope)
  /-- A failure at any depth ends the run, with the stacks as they were at its start. -/
  failure {a b : Spot} {ts : List Tuple} {f : Failure} {m : Machine} : a.Reaches ts b →
    b.run = (.error f, m) →
    ∃ m', a.run = (.error f, m') ∧ m'.session = m.session ∧ m'.stack = a.machine.stack
  /-- After a first statement, with whatever result, emptying the stacks changes nothing. -/
  clearing (first : Statement) (rest : List Statement) (m : Machine) :
    (first.executeStacked m).2.clear = (first.executeStacked m).2 ∧
    inTurn Statement.executeStacked rest (first.executeStacked m).2 =
      inTurn (fun s => s.runStacked []) rest (first.executeStacked m).2

theorem stackDiscipline : StackDiscipline where
  evaluation depth e scope m := e.acts_evalStacked (m.provides_nested depth) scope
  execution := Statement.executeStacked_eq
  expression depth e scope := (e.evalStacked_works scope).balanced depth
  constraint depth base c scope := (c.addStacked_works scope base).balanced depth
  sos depth d priority body scope := (body.addStacked_works scope d priority).balanced depth
  statement := Statement.runStacked_balanced
  path h := h.stack
  name base h := by rw [pathName, look, h.stack]
  rows {a ts base c scope m} h := by
    rw [← show m.stack.path = a.machine.stack.path ++ ts from congrArg Stacks.path h.stack]
    exact fun w => c.acts_addStacked base m (m.provides_nested _) scope w
  sets {a ts d priority body scope m} h := by
    rw [← show m.stack.path = a.machine.stack.path ++ ts from congrArg Stacks.path h.stack]
    exact fun w => body.acts_addStacked d priority (m.provides_nested _) scope w
  failure {a b ts f m} h hb := by
    obtain ⟨m', hrun, hm'⟩ := h.run_error hb
    exact ⟨m', hrun, hm', (a.node.run_balanced a.scope).stack_eq hrun⟩
  clearing first rest m :=
    have h := first.executeStacked_stack m
    ⟨Machine.clear_of_empty h, inTurn_executeStacked h rest⟩

/-! ## Where a run comes, computed -/

/-- What a run gives and leaves if it goes well. -/
def Step.done? {σ ε α : Type} (x : Step σ ε α) (s : σ) : Option (α × σ) :=
  (x s).1.toOption.map fun a => (a, (x s).2)

theorem Step.eq_ok_of_done? {σ ε α : Type} {x : Step σ ε α} {s s' : σ} {a : α}
    (h : x.done? s = some (a, s')) : x s = (.ok a, s') := by
  unfold done? at h
  rcases hx : x s with ⟨_ | b, s₁⟩
  · rw [hx] at h
    cases h
  · rw [hx] at h
    cases h
    rfl

namespace Spot

/-- The tuple at a place of a loop, and what its body is run with for it, if the run comes there. -/
def round? (index : IndexSet) (body : Node) (scope : Scope) (m : Machine) (place : Nat) :
    Option (Tuple × Scope × Machine) := do
  let (s, m₁) ← (evaluate fun expand => index.evalSetStacked expand scope).done? m
  let t ← s.tuples[place]?
  let (_, m₂) ← (Node.rounds index body scope (s.tuples.take place)).done? m₁
  let (frame?, m₃) ← (evaluate fun expand => index.enterStacked expand scope t).done? m₂
  let frame ← frame?
  return (t, frame, m₃.mapStacks (.pushTuple t))

theorem Leads.of_round? {node body : Node} {index : IndexSet} {scope frame : Scope}
    {m m' : Machine} {place : Nat} {t : Tuple} (hloop : node.loop? = some (index, body))
    (h : round? index body scope m place = some (t, frame, m')) :
    Leads ⟨node, scope, m⟩ [t] ⟨body, frame, m'⟩ := by
  obtain ⟨⟨s, m₁⟩, hset, h⟩ := Option.bind_eq_some_iff.1 h
  obtain ⟨u, hu, h⟩ := Option.bind_eq_some_iff.1 h
  obtain ⟨⟨_, m₂⟩, hbefore, h⟩ := Option.bind_eq_some_iff.1 h
  obtain ⟨⟨_, m₃⟩, henter, h⟩ := Option.bind_eq_some_iff.1 h
  obtain ⟨frame, rfl, h⟩ := Option.bind_eq_some_iff.1 h
  cases h
  obtain ⟨hlt, rfl⟩ := List.getElem?_eq_some_iff.1 hu
  have hs : s.tuples = s.tuples.take place ++ s.tuples[place] :: s.tuples.drop (place + 1) := by
    rw [List.getElem_cons_drop, List.take_append_drop]
  exact .round hloop (Step.eq_ok_of_done? hset) hs (Step.eq_ok_of_done? hbefore)
    (Step.eq_ok_of_done? henter)

end Spot

namespace FailingLoops

def index (x : String) (first : Expr) : IndexSet :=
  .mk (some [.name x default]) (.range first (.number 2 default) none true default) none default

/-- `x >= 1 / (2 - i)`. -/
def innermost : Constraint :=
  let divisor := Expr.binary .sub (.number 2 default) (.name "i" default) default
  .plain (.name "x" default) .ge (.binary .div (.number 1 default) divisor default) .empty

/-- `subto c: forall <j> in {i..2}: x >= 1 / (2 - i)`. -/
def inner : SubtoDecl :=
  ⟨⟨"c", default⟩, .each (index "j" (.name "i" default)) innermost, default⟩

/-- `forall <i> in {1..2} do subto c: forall <j> in {i..2}: x >= 1 / (2 - i)`. -/
def outer : Statement :=
  .each (index "i" (.number 1 default)) (.subto inner) default

/-- A machine with a variable, inside of a define and of another loop. -/
def machine : Machine :=
  ⟨{ Session.start default with symbols := [("x", .var (.scalar 0))] }, .empty,
    ⟨["f"], [[.number 7]]⟩⟩

end FailingLoops

open FailingLoops in
/-- The division fails inside of both loops, after two rows. -/
theorem stackDiscipline_failingLoops :
    let start : Spot := ⟨.statement outer, [], machine⟩
    ∃ scope m f m₁ m₂,
      start.Reaches [[.number 2], [.number 2]] ⟨.constraint "c" innermost, scope, m⟩ ∧
      m.session.model.rows.map Row.name = ["c[7,1,1]", "c[7,1,2]"] ∧
      m.stack = ⟨["f"], [[.number 7], [.number 2], [.number 2]]⟩ ∧
      pathName "c" m = (.ok "c[7,2,2]", m) ∧
      ((Node.constraint "c" innermost).run scope).Acts m.withWork
        (innermost.add m.surroundings "c" [[.number 7], [.number 2], [.number 2]] scope) ∧
      (Node.constraint "c" innermost).run scope m = (.error f, m₁) ∧
      start.run = (.error f, m₂) ∧ m₂.session = m₁.session ∧ m₂.stack = machine.stack := by
  intro start
  have hrun :
      ∃ x ∈ Spot.round? (index "i" (.number 1 default)) (.statement (.subto inner)) [] machine 1,
        ∃ y ∈ Spot.round? (index "j" (.name "i" default)) (.constraint "c" innermost) x.2.1 x.2.2 0,
          x.1 = [.number 2] ∧ y.1 = [.number 2] ∧
            y.2.2.session.model.rows.map Row.name = ["c[7,1,1]", "c[7,1,2]"] ∧
            ((Node.constraint "c" innermost).run y.2.1 y.2.2).1.isOk = false := by
    decide +kernel
  obtain ⟨⟨_, scope, m⟩, hx, ⟨_, scope', m'⟩, hy, rfl, rfl, hrows, hfails⟩ := hrun
  have hreaches : start.Reaches [[.number 2], [.number 2]]
      ⟨.constraint "c" innermost, scope', m'⟩ :=
    .step (.of_round? rfl hx) (.step .subto (.step (.of_round? rfl hy) (.refl _)))
  have hpath : start.machine.stack.path ++ [[.number 2], [.number 2]] =
      [[.number 7], [.number 2], [.number 2]] := rfl
  have hname : qualified "c" [[.number 7], [.number 2], [.number 2]] = "c[7,2,2]" := by
    decide +kernel
  have hnamed := stackDiscipline.name "c" hreaches
  have hadds := stackDiscipline.rows hreaches
  rw [hpath, hname] at hnamed
  rw [hpath] at hadds
  rcases hrun : (Node.constraint "c" innermost).run scope' m' with ⟨f | _, m₁⟩
  · obtain ⟨m₂, hstart, hsession, hstack⟩ := stackDiscipline.failure hreaches hrun
    exact ⟨scope', m', f, m₁, m₂, hreaches, hrows, stackDiscipline.path hreaches, hnamed, hadds,
      hrun, hstart, hsession, hstack⟩
  · rw [hrun] at hfails
    cases hfails

end ModelLang
