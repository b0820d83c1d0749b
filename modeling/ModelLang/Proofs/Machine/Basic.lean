import ModelLang.Session

/-!
# ModelLang.Proofs.Machine.Basic

A machine that keeps what evaluation is inside of in its state: a stack of the defines that are
being expanded, and one of the tuples of the enclosing loops. Both are pushed before a body runs and
popped after it, whether the body succeeds or fails. Where evaluation gets its surroundings as
arguments, the machine looks them up in what earlier pushes and pops have left. `Step.Acts` relates
the two: on a part of its state, a computation of the machine does what another computation does,
and leaves the rest.
-/

namespace ModelLang

/-- The defines that are being expanded, the innermost first, and the tuples of the enclosing loops,
the outermost first. -/
structure Stacks where
  defines : List String
  path : List Tuple

namespace Stacks

def empty : Stacks := ⟨[], []⟩

def pushDefine (x : String) (k : Stacks) : Stacks := { k with defines := x :: k.defines }

def popDefine (k : Stacks) : Stacks := { k with defines := k.defines.tail }

def pushTuple (t : Tuple) (k : Stacks) : Stacks := { k with path := k.path ++ [t] }

def popTuple (k : Stacks) : Stacks := { k with path := k.path.dropLast }

@[simp] theorem popTuple_pushTuple (t : Tuple) (k : Stacks) : (k.pushTuple t).popTuple = k := by
  simp [pushTuple, popTuple]

end Stacks

structure Machine where
  session : Session
  tables : Table.Source
  stack : Stacks

namespace Machine

variable (m : Machine)

def withSession (s : Session) : Machine := { m with session := s }

def withWork (w : Workspace) : Machine := m.withSession { m.session with work := w }

def mapStacks (f : Stacks → Stacks) : Machine := { m with stack := f m.stack }

def withPath (path : List Tuple) : Machine := m.mapStacks fun k => { k with path := path }

/-- Empties both stacks. -/
def clear : Machine := m.mapStacks fun _ => .empty

/-- What an evaluation finds when it looks up a name or is about to expand a define. -/
def context : Context := .nested m.session.symbols m.tables 0 m.stack.defines

end Machine

/-- Work on a machine. -/
abbrev Stacked := Step Machine Failure

namespace Stacked

variable {α : Type}

def onWork (x : Eval α) : Stacked α :=
  x.onPart (fun m => m.session.work) fun w m => m.withWork w

def onSession (x : Exec α) : Stacked α :=
  x.onPart Machine.session fun s m => m.withSession s

/-- What needs no stacks runs as it is. -/
instance : MonadLift Eval Stacked := ⟨onWork⟩

instance : MonadLift Exec Stacked := ⟨onSession⟩

/-- Something that depends on the machine. -/
def look (f : Machine → α) : Stacked α := fun m => (.ok (f m), m)

/-- A result that depends on the symbols and on the defines that are being expanded. -/
def consult (span : Span) (f : Context → Except Cause α) : Stacked α := do
  let r ← look fun m => f m.context
  Eval.located span r

/-- A name followed by the tuples of the enclosing loops. -/
def pathName (base : String) : Stacked String :=
  look fun m => qualified base m.stack.path

/-- Changes the stacks, runs `body` and changes them back, after a failure as well. -/
def between (push pop : Stacks → Stacks) (body : Stacked α) : Stacked α := fun m =>
  match body (m.mapStacks push) with
  | (r, m) => (r, m.mapStacks pop)

/-- Runs the body of a define. -/
def inside (x : String) (body : Stacked α) : Stacked α :=
  between (.pushDefine x) .popDefine body

/-- Runs the body of a loop for one of its tuples. -/
def under (t : Tuple) (body : Stacked α) : Stacked α :=
  between (.pushTuple t) .popTuple body

/-- The stacks at the end are those at the start, however the computation ends. -/
def Balanced (x : Stacked α) : Prop :=
  ∀ m, (x m).2.stack = m.stack

end Stacked

/-! ## Computations on a part of the state -/

namespace Step

variable {σ τ ε α β : Type}

/-- With `put` as the rest of the state around a part, `x` does to the part what `y` does, with the
same result, and leaves the rest. -/
def Acts (put : τ → σ) (x : Step σ ε α) (y : Step τ ε α) : Prop :=
  ∀ t, x (put t) = ((y t).1, put (y t).2)

namespace Acts

variable {put : τ → σ} {x : Step σ ε α} {y : Step τ ε α}

theorem ofExcept (r : Except ε α) : (Step.ofExcept r : Step σ ε α).Acts put (.ofExcept r) :=
  fun _ => rfl

theorem pure (a : α) : (Pure.pure a : Step σ ε α).Acts put (Pure.pure a) :=
  fun _ => rfl

theorem bind {f : α → Step σ ε β} {g : α → Step τ ε β} (hx : x.Acts put y)
    (hf : ∀ a, (f a).Acts put (g a)) : (x >>= f).Acts put (y >>= g) := by
  intro t
  rw [bind_apply, bind_apply, hx t]
  rcases y t with ⟨_ | a, t'⟩
  · rfl
  · exact hf a t'

section Iteration

variable {enter : Tuple → Step σ ε (Option Scope)} {enter' : Tuple → Step τ ε (Option Scope)}

theorem foldTuples {visit : β → Scope → Tuple → Step σ ε β}
    {visit' : β → Scope → Tuple → Step τ ε β} (he : ∀ t, (enter t).Acts put (enter' t))
    (hv : ∀ acc frame t, (visit acc frame t).Acts put (visit' acc frame t)) (ts : List Tuple)
    (acc : β) :
    (ModelLang.foldTuples enter visit ts acc).Acts put
      (ModelLang.foldTuples enter' visit' ts acc) := by
  induction ts generalizing acc with
  | nil => exact .pure acc
  | cons t ts ih =>
    refine .bind (he t) fun r => ?_
    cases r with
    | none => exact ih acc
    | some frame => exact .bind (hv acc frame t) ih

theorem anyTuple (he : ∀ t, (enter t).Acts put (enter' t)) (ts : List Tuple) :
    (ModelLang.anyTuple enter ts).Acts put (ModelLang.anyTuple enter' ts) := by
  induction ts with
  | nil => exact .pure false
  | cons t ts ih =>
    refine .bind (he t) fun r => ?_
    cases r with
    | none => exact ih
    | some frame => exact .pure true

end Iteration

end Acts

end Step

namespace Stacked

variable {α : Type} {m : Machine}

/-- The machine with everything but the work on the model fixed acts on it as before. -/
theorem acts_lift (y : Eval α) : (liftM y : Stacked α).Acts m.withWork y :=
  fun _ => rfl

/-- What the machine shows does not depend on the work on the model. -/
theorem acts_look {β : Type} {f : Machine → β} {b : β} {g : β → Stacked α} {y : Eval α}
    (hf : ∀ w, f (m.withWork w) = b) (h : (g b).Acts m.withWork y) :
    (look f >>= g).Acts m.withWork y := by
  intro w
  have hlook : look f (m.withWork w) = (.ok b, m.withWork w) := by
    rw [look, hf w]
  rw [Step.bind_of_ok hlook, h w]

theorem acts_consult {span : Span} {f : Context → Except Cause α} {r : Except Cause α}
    (h : ∀ w, f (m.withWork w).context = r) :
    (consult span f).Acts m.withWork (Eval.located span r) :=
  acts_look h (acts_lift _)

/-- What is pushed around the body is popped from what the body has left as it was. -/
theorem acts_between {τ : Type} {put put' : τ → Machine} {push pop : Stacks → Stacks}
    {body : Stacked α} {y : Step τ Failure α} (hpush : ∀ t, (put t).mapStacks push = put' t)
    (hpop : ∀ t, (put' t).mapStacks pop = put t) (h : body.Acts put' y) :
    (between push pop body).Acts put y := by
  intro t
  -- Whether the body succeeds is not looked at.
  rw [between, hpush, h t]
  exact congrArg (Prod.mk _) (hpop _)

theorem acts_inside {τ : Type} {put : τ → Machine} {x : String} {body : Stacked α}
    {y : Step τ Failure α} (h : body.Acts (fun s => (put s).mapStacks (.pushDefine x)) y) :
    (inside x body).Acts put y :=
  acts_between (fun _ => rfl) (fun _ => rfl) h

theorem acts_under {τ : Type} {put : τ → Machine} {t : Tuple} {body : Stacked α}
    {y : Step τ Failure α} (h : body.Acts (fun s => (put s).mapStacks (.pushTuple t)) y) :
    (under t body).Acts put y := by
  refine acts_between (fun _ => rfl) (fun s => ?_) h
  simp [Machine.mapStacks]

theorem balanced_of_acts {x : Stacked α} (h : ∀ m : Machine, ∃ y, x.Acts m.withWork y) :
    x.Balanced := by
  intro m
  obtain ⟨y, hy⟩ := h m
  have hm : x m = _ := hy m.session.work
  rw [hm]
  rfl

end Stacked

end ModelLang
