import Mathlib.Data.List.Perm.Subperm
import ModelLang.Proofs.Cells
import ModelLang.Proofs.Congruence

/-!
# ModelLang.Proofs.Expansion

Defines may call one another in any way, and evaluation ends all the same. The defines that are
being expanded differ from one another, so that expansions nest no deeper than there are defines
(`Symbols.Running.admits`), and the depth that a context provides is never used up: what it would do
beyond does not matter (`Symbols.terminates`).

That an evaluation comes to an expansion is said without a trace of it. Failures are never caught,
so it comes to one if any failure that it meets there is the failure of the whole (`Expr.Expands`).
-/

namespace ModelLang

open Eval

/-! ## Calls -/

def Symbol.isDefine : Symbol → Bool
  | define _ => true
  | _ => false

/-- The names of the declared defines. -/
def Symbols.defines (symbols : Symbols) : List String :=
  (symbols.filter fun e => e.2.isDefine).map Prod.fst

theorem Symbols.defines_length_le (symbols : Symbols) :
    symbols.defines.length ≤ symbols.length := by
  rw [defines, List.length_map]
  exact List.length_filter_le _ _

theorem Symbols.mem_defines {symbols : Symbols} {x : String} {d : Define}
    (h : symbols.get x = .ok (.define d)) : x ∈ symbols.defines := by
  unfold get get? at h
  split at h
  · rename_i s hs
    cases h
    obtain ⟨e, he, hsymbol⟩ := Option.map_eq_some_iff.1 hs
    have hname : e.1 = x := by simpa using List.find?_some he
    refine List.mem_map.2 ⟨e, List.mem_filter.2 ⟨List.mem_of_find?_eq_some he, ?_⟩, hname⟩
    rw [hsymbol, Symbol.isDefine]
  · cases h

namespace Context

variable {ctx : Context} {x : String} {n : Nat} {d : Define}

theorem callee_define (h : ctx.symbols.get x = .ok (.define d)) :
    ctx.callee x n =
      if d.params.length ≠ n then .error (.argumentCount x d.params.length n)
      else if x ∈ ctx.active then .error (.recursiveDefine x)
      else .ok d := by
  rw [callee, h]

/-- A call runs the define of its name if it gives as many arguments as that has parameters and is
not inside an expansion of it. -/
theorem callee_eq_ok_iff : ctx.callee x n = .ok d ↔
    ctx.symbols.get x = .ok (.define d) ∧ d.params.length = n ∧ x ∉ ctx.active := by
  constructor
  · intro h
    unfold callee at h
    split at h
    · cases h
    · rename_i d' hd
      split at h
      · cases h
      · split at h
        · cases h
        · rename_i hcount hactive
          cases h
          exact ⟨hd, not_not.1 hcount, hactive⟩
    · cases h
  · rintro ⟨hd, hcount, hactive⟩
    rw [callee_define hd, if_neg (not_not.2 hcount), if_neg hactive]

/-- A call refers to itself if it would run a define but for being inside an expansion of it. -/
theorem callee_eq_recursiveDefine_iff {y : String} : ctx.callee x n = .error (.recursiveDefine y) ↔
    y = x ∧ x ∈ ctx.active ∧ ∃ d, ctx.symbols.get x = .ok (.define d) ∧ d.params.length = n := by
  constructor
  · intro h
    unfold callee at h
    split at h
    · rename_i cause hcause
      cases h
      unfold Symbols.get at hcause
      split at hcause <;> cases hcause
    · rename_i d hd
      split at h
      · cases h
      · split at h
        · rename_i hcount hactive
          cases h
          exact ⟨rfl, hactive, d, hd, not_not.1 hcount⟩
        · cases h
    · cases h
  · rintro ⟨rfl, hactive, d, hd, hcount⟩
    rw [callee_define hd, if_neg (not_not.2 hcount), if_pos hactive]

end Context

/-! ## The defines that are being expanded -/

namespace Symbols

variable {symbols : Symbols} {tables : Table.Source} {active : List String} {x : String}
  {d : Define} {n m : Nat}

/-- Defines can be inside one another like this: each is declared, and none is inside itself. -/
structure Admits (symbols : Symbols) (active : List String) : Prop where
  nodup : active.Nodup
  declared : active ⊆ symbols.defines

theorem Admits.nil : symbols.Admits [] := ⟨List.nodup_nil, List.nil_subset _⟩

theorem Admits.length_le (h : symbols.Admits active) : active.length ≤ symbols.defines.length :=
  (h.nodup.subperm h.declared).length_le

theorem Admits.cons (ctx : Context) (h : symbols.Admits ctx.active) (hs : ctx.symbols = symbols)
    (hd : ctx.callee x n = .ok d) : symbols.Admits (x :: ctx.active) := by
  obtain ⟨hget, _, hactive⟩ := Context.callee_eq_ok_iff.1 hd
  have hx : x ∈ symbols.defines := mem_defines (hs ▸ hget)
  exact ⟨List.nodup_cons.2 ⟨hactive, h.nodup⟩, List.cons_subset.2 ⟨hx, h.declared⟩⟩

end Symbols

namespace Context

variable (symbols : Symbols) (tables : Table.Source)

/-- The context of an evaluation inside expansions. -/
def inside (active : List String) : Context :=
  nested symbols tables (symbols.length - active.length) active

/-- Looks up declared symbols, with so many expansions of defines inside one another; `stuck` is
what a further one does. -/
def limited (stuck : String → Define → Scope → Eval Value) : Nat → List String → Context
  | 0, active => ⟨symbols, tables, active, stuck⟩
  | depth + 1, active =>
    ⟨symbols, tables, active, fun x d scope =>
      d.body.eval (limited stuck depth (x :: active)) scope⟩

variable {symbols} {tables} {stuck stuck' : String → Define → Scope → Eval Value}
  {active : List String} {x : String} {d : Define} {n m : Nat}

@[simp] theorem inside_symbols : (inside symbols tables active).symbols = symbols := by
  unfold inside
  cases symbols.length - active.length <;> rfl

@[simp] theorem inside_active : (inside symbols tables active).active = active := by
  unfold inside
  cases symbols.length - active.length <;> rfl

@[simp] theorem limited_symbols : (limited symbols tables stuck n active).symbols = symbols := by
  cases n <;> rfl

@[simp] theorem limited_tables : (limited symbols tables stuck n active).tables = tables := by
  cases n <;> rfl

@[simp] theorem limited_active : (limited symbols tables stuck n active).active = active := by
  cases n <;> rfl

theorem nested_eq_limited (n : Nat) (active : List String) :
    nested symbols tables n active =
      limited symbols tables (fun x d _ => fail (.recursiveDefine x) d.body.span) n active := by
  induction n generalizing active with
  | zero => rfl
  | succ n ih =>
    rw [nested, limited]
    simp only [ih]

/-- An expansion adds its define to those it is inside of. -/
theorem inside_expand (h : symbols.Admits (x :: active)) (scope : Scope) :
    (inside symbols tables active).expand x d scope =
      d.body.eval (inside symbols tables (x :: active)) scope := by
  have hlength := h.length_le
  have hdefines := symbols.defines_length_le
  rw [List.length_cons] at hlength
  obtain ⟨k, hk⟩ : ∃ k, symbols.length - active.length = k + 1 :=
    ⟨symbols.length - active.length - 1, by omega⟩
  have hrest : symbols.length - (x :: active).length = k := by
    rw [List.length_cons]
    omega
  rw [inside, inside, hk, hrest, nested]

/-- As long as there is depth for all defines, there may as well be more, and nothing is stuck. -/
theorem limited_agrees (h : symbols.Admits active)
    (hn : symbols.defines.length ≤ n + active.length)
    (hm : symbols.defines.length ≤ m + active.length) :
    (limited symbols tables stuck n active).Agrees (limited symbols tables stuck' m active) := by
  -- on the depth; each expansion leaves one define less that can be expanded
  induction n generalizing m active with
  | zero =>
    refine ⟨by simp, by simp, by simp, fun hd scope => ?_⟩
    have hpush := (Symbols.Admits.cons (limited symbols tables stuck 0 active) h rfl hd).length_le
    rw [List.length_cons, limited_active] at hpush
    omega
  | succ n ih =>
    refine ⟨by simp, by simp, by simp, fun {x _ _} hd scope => ?_⟩
    have hpush := Symbols.Admits.cons (limited symbols tables stuck (n + 1) active) h rfl hd
    have hlength := hpush.length_le
    rw [List.length_cons, limited_active] at hlength
    cases m with
    | zero => omega
    | succ m =>
      refine Expr.eval_congr (ih hpush ?_ ?_) _ scope <;>
        · rw [List.length_cons, limited_active]
          omega

end Context

/-! ## Coming to an expansion -/

section Reaching

open Classical in
/-- The same context, but for a failure that one expansion meets. -/
noncomputable def Context.meeting (ctx : Context) (x : String) (d : Define) (frame : Scope)
    (w : Workspace) (f : Failure) : Context :=
  { ctx with
    expand := fun x' d' frame' w' =>
      if x' = x ∧ d' = d ∧ frame' = frame ∧ w' = w then (.error f, w)
      else ctx.expand x' d' frame' w' }

/-- Evaluating the expression comes to an expansion of `d` in the scope `frame`, at which time the
workspace is `w'`: any failure that it meets there is the failure of the whole. -/
def Expr.Expands (ctx : Context) (e : Expr) (scope : Scope) (w : Workspace) (x : String)
    (d : Define) (frame : Scope) (w' : Workspace) : Prop :=
  ∀ f, e.eval (ctx.meeting x d frame w' f) scope w = (.error f, w')

variable {ctx : Context} {e : Expr} {scope frame : Scope} {w w' : Workspace} {x : String}
  {d : Define}

theorem Context.meeting_agrees (h : ∀ n, ctx.callee x n ≠ .ok d) (f : Failure) :
    ctx.Agrees (ctx.meeting x d frame w f) where
  symbols := rfl
  tables := rfl
  active := rfl
  expand {x' n d'} hd scope := by
    have hother : ¬ (x' = x ∧ d' = d) := by
      rintro ⟨rfl, rfl⟩
      exact h n hd
    funext w'
    exact if_neg fun hsame => hother ⟨hsame.1, hsame.2.1⟩

/-- What is expanded is what some call may run. -/
theorem Expr.Expands.callee (h : e.Expands ctx scope w x d frame w') :
    ∃ n, ctx.callee x n = .ok d := by
  by_contra hnone
  rw [not_exists] at hnone
  have hsame (f : Failure) : e.eval ctx scope w = (.error f, w') := by
    rw [← Expr.eval_congr (ctx.meeting_agrees hnone f), h f]
  have hcause := (hsame ⟨.nonlinear, default⟩).symm.trans (hsame ⟨.divisionByZero, default⟩)
  cases hcause

/-- A call comes to the expansion of its define once its arguments are evaluated. -/
theorem Expr.expands_call {args : List Expr} (vs : List Value) (span : Span)
    (hd : ctx.callee x args.length = .ok d)
    (hvs : ∀ f, Expr.values (ctx.meeting x d (scope.bindAll d.params vs) w' f) args scope w =
      (.ok vs, w')) :
    (Expr.call x args span).Expands ctx scope w x d (scope.bindAll d.params vs) w' := by
  intro f
  have hcallee : (ctx.meeting x d (scope.bindAll d.params vs) w' f).callee x args.length = .ok d :=
    hd
  have hexpand : (ctx.meeting x d (scope.bindAll d.params vs) w' f).expand x d
      (scope.bindAll d.params vs) w' = (.error f, w') := if_pos ⟨rfl, rfl, rfl, rfl⟩
  rw [Expr.eval, hcallee, Step.bind_eq_error]
  refine .inr ⟨d, w, rfl, ?_⟩
  rw [Step.bind_eq_error]
  refine .inr ⟨vs, w', hvs f, ?_⟩
  rw [Step.bind_eq_error]
  exact .inl hexpand

end Reaching

namespace Symbols

variable {symbols : Symbols} {tables : Table.Source} {active : List String} {e : Expr}
  {scope : Scope} {w : Workspace}

/-- An evaluation of declared symbols has come to this expression, inside expansions of these
defines, the innermost first. -/
inductive Running (symbols : Symbols) (tables : Table.Source) :
    List String → Expr → Scope → Workspace → Prop where
  | start (e : Expr) (scope : Scope) (w : Workspace) : Running symbols tables [] e scope w
  | body {active : List String} {e : Expr} {scope frame : Scope} {w w' : Workspace} {x : String}
      {d : Define} (h : Running symbols tables active e scope w)
      (hx : e.Expands (.inside symbols tables active) scope w x d frame w') :
      Running symbols tables (x :: active) d.body frame w'

/-- Defines are never expanded inside themselves. -/
theorem Running.admits (h : Running symbols tables active e scope w) : symbols.Admits active := by
  induction h with
  | start => exact .nil
  | body _ hx ih =>
    obtain ⟨n, hd⟩ := hx.callee
    have hcons := Admits.cons (.inside symbols tables _) (by simpa using ih)
      Context.inside_symbols hd
    simpa using hcons

/-- Evaluation ends, however defines call one another. -/
structure Terminates (symbols : Symbols) (tables : Table.Source) : Prop where
  /-- As many expansions inside one another as there are defines are enough: what a further one
  would do does not matter. -/
  bounded (stuck : String → Define → Scope → Eval Value) {n : Nat}
    (hn : symbols.defines.length ≤ n) (e : Expr) (scope : Scope) :
    e.eval (.limited symbols tables stuck n []) scope = e.eval (.ofSymbols symbols tables) scope
  /-- The defines that are being expanded are declared, and each of them only once. -/
  stack {active : List String} {e : Expr} {scope : Scope} {w : Workspace}
    (h : Running symbols tables active e scope w) :
    active.Nodup ∧ active ⊆ symbols.defines ∧ active.length ≤ symbols.defines.length
  /-- A call inside an expansion of its own define fails before anything is evaluated. -/
  refused {active : List String} {x : String} {d : Define}
    (hd : symbols.get x = .ok (.define d)) {args : List Expr}
    (hargs : args.length = d.params.length) (hx : x ∈ active) (span : Span) (scope : Scope)
    (w : Workspace) :
    (Expr.call x args span).eval (.inside symbols tables active) scope w =
      (.error ⟨.recursiveDefine x, span⟩, w)
  /-- Any other call of a define evaluates its arguments where it stands, so that these may call the
  define as well, and then the body inside one more expansion. -/
  run {active : List String} {e : Expr} {scope : Scope} {w : Workspace}
    (h : Running symbols tables active e scope w) {x : String} {d : Define}
    (hd : symbols.get x = .ok (.define d)) {args : List Expr}
    (hargs : args.length = d.params.length) (hx : x ∉ active) (span : Span) (frame : Scope) :
    (Expr.call x args span).eval (.inside symbols tables active) frame = (do
      let vs ← Expr.values (.inside symbols tables active) args frame
      let v ← d.body.eval (.inside symbols tables (x :: active)) (frame.bindAll d.params vs)
      if d.kind.accepts v then return v
      else fail (.typeMismatch x d.kind.typeName v.typeName) span)
  /-- A call that cannot be made fails for another reason. -/
  impossible {active : List String} {x : String} {args : List Expr}
    (hx : ∀ d, symbols.get x = .ok (.define d) → args.length ≠ d.params.length) (span : Span)
    (scope : Scope) (w : Workspace) :
    ∃ cause, (∀ y, cause ≠ .recursiveDefine y) ∧
      (Expr.call x args span).eval (.inside symbols tables active) scope w =
        (.error ⟨cause, span⟩, w)
  /-- There is an outcome unless the arithmetic overflows, which it does for no other reason than
  that a numeral in a table does. -/
  computes (ht : tables.FailsUnreadable) {e : Expr} {scope : Scope} {w w' : Workspace}
    {f : Failure} (h : e.eval (.ofSymbols symbols tables) scope w = (.error f, w'))
    (hf : f.cause = .overflow) : tables.Overflows

theorem terminates (symbols : Symbols) (tables : Table.Source) : symbols.Terminates tables where
  bounded stuck n hn e scope := by
    have hdefines := symbols.defines_length_le
    rw [Context.ofSymbols, Context.nested_eq_limited]
    exact Expr.eval_congr
      (Context.limited_agrees .nil (by simpa using hdefines) (by simpa using hn)) e scope
  stack h := ⟨h.admits.nodup, h.admits.declared, h.admits.length_le⟩
  refused {active x d} hd args hargs hx span scope w := by
    have hcallee : (Context.inside symbols tables active).callee x args.length =
        .error (.recursiveDefine x) :=
      Context.callee_eq_recursiveDefine_iff.2
        ⟨rfl, by simpa using hx, d, by simpa using hd, hargs.symm⟩
    rw [Expr.eval, hcallee]
    rfl
  run {active _ _ _} h x d hd args hargs hx span frame := by
    have hcallee : (Context.inside symbols tables active).callee x args.length = .ok d :=
      Context.callee_eq_ok_iff.2 ⟨by simpa using hd, hargs.symm, by simpa using hx⟩
    have hcons : symbols.Admits (x :: active) := by
      have hcons := Admits.cons (.inside symbols tables active) (by simpa using h.admits)
        Context.inside_symbols hcallee
      simpa using hcons
    rw [Expr.eval, hcallee]
    simp only [Context.inside_expand hcons]
    rfl
  impossible {active x args} hx span scope w := by
    cases hcallee : (Context.inside symbols tables active).callee x args.length with
    | ok d =>
      obtain ⟨hd, hcount, _⟩ := Context.callee_eq_ok_iff.1 hcallee
      exact absurd hcount.symm (hx d (by simpa using hd))
    | error cause =>
      refine ⟨cause, ?_, ?_⟩
      · rintro y rfl
        obtain ⟨_, _, d, hd, hcount⟩ := Context.callee_eq_recursiveDefine_iff.1 hcallee
        exact hx d (by simpa using hd) hcount.symm
      · rw [Expr.eval, hcallee]
        rfl
  computes ht _ _ _ _ _ h hf := Expr.overflows_of_eval ht h hf

/-- A define that calls another one with its only parameter. -/
def calling (x : String) : Define :=
  ⟨.numb, ["a"], .call x [.name "a" default] default⟩

/-- `f(a) := g(a)` and `g(a) := f(a)`. -/
def circular : Symbols :=
  [("f", .define (calling "g")), ("g", .define (calling "f"))]

/-- Evaluating `f(1)` comes to `f(a)` inside an expansion of `g` inside one of `f`, and fails. -/
theorem terminates_circular :
    Running circular .empty ["g", "f"] (calling "f").body
        [("a", .ofRat 1), ("a", .ofRat 1)] default ∧
      (calling "f").body.eval (.inside circular .empty ["g", "f"])
        [("a", .ofRat 1), ("a", .ofRat 1)] default =
        (.error ⟨.recursiveDefine "f", default⟩, default) := by
  have hfirst : Running circular .empty ["f"] (calling "g").body [("a", .ofRat 1)] default :=
    .body (.start (.call "f" [.number 1 default] default) [] default)
      (Expr.expands_call (d := calling "g") [.ofRat 1] _ rfl fun _ => rfl)
  have hsecond : Running circular .empty ["g", "f"] (calling "f").body
      [("a", .ofRat 1), ("a", .ofRat 1)] default :=
    .body hfirst (Expr.expands_call (d := calling "f") [.ofRat 1] _ rfl fun _ => rfl)
  have hget : circular.get "f" = .ok (.define (calling "g")) := rfl
  exact ⟨hsecond, (terminates circular .empty).refused hget rfl (by decide) _ _ _⟩

end Symbols

end ModelLang
