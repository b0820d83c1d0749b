import ModelLang.Grammar.Terminal

/-!
# ModelLang.Grammar.Peg

Parsing expressions as data. `Peg Result α` describes how to read an `α` from tokens; it may refer
to rules `r`, which read a `Result r`. Choice is ordered: the first alternative that reads
something wins, and it is never taken back.

A run also records its reach: the furthest position at which a terminal was asked for in vain, and
all terminals asked for there.
-/

namespace ModelLang

inductive Peg {R : Type} (Result : R → Type) : Type → Type 1 where
  | token (t : Terminal) : Peg Result Token
  /-- The value of the first terminal that fits. -/
  | oneOf {α : Type} (table : List (Terminal × α)) : Peg Result α
  | seq {α β : Type} (p : Peg Result α) (q : Peg Result β) : Peg Result (α × β)
  | choice {α : Type} (p q : Peg Result α) : Peg Result α
  | map {α β : Type} (f : α → β) (p : Peg Result α) : Peg Result β
  /-- What `p` reads, as far as `f` accepts it. -/
  | filterMap {α β : Type} (f : α → Option β) (p : Peg Result α) : Peg Result β
  | opt {α : Type} (p : Peg Result α) : Peg Result (Option α)
  | many {α : Type} (p : Peg Result α) : Peg Result (List α)
  /-- What `p` reads, with the span of its tokens. -/
  | spanned {α : Type} (p : Peg Result α) : Peg Result (α × Span)
  | rule (r : R) : Peg Result (Result r)

namespace Peg

variable {R : Type} {Result : R → Type}

instance : Functor (Peg Result) where
  map := Peg.map

instance : Seq (Peg Result) where
  seq p q := .map (fun x => x.1 x.2) (.seq p (q ()))

instance : SeqLeft (Peg Result) where
  seqLeft p q := .map Prod.fst (.seq p (q ()))

instance : SeqRight (Peg Result) where
  seqRight p q := .map Prod.snd (.seq p (q ()))

instance {α : Type} : OrElse (Peg Result α) where
  orElse p q := .choice p (q ())

/-- One `p` or more, with `separator` between them. -/
def sepBy {α β : Type} (p : Peg Result α) (separator : Peg Result β) : Peg Result (List α) :=
  List.cons <$> p <*> many (separator *> p)

end Peg

/-- A place in the tokens: how many were read, which are left, and where the last one read ends. -/
structure Cursor where
  position : Nat
  rest : List Token
  before : Location

namespace Cursor

/-- The place before tokens that start at a position, as if nothing had been read before. -/
def ofTokens (position : Nat) (tokens : List Token) : Cursor :=
  ⟨position, tokens, ⟨0, 0⟩⟩

/-- Where the next token starts. -/
def start (c : Cursor) : Location :=
  match c.rest with
  | t :: _ => t.span.start
  | [] => c.before

/-- The span of what is read from one place to another. If that is no token, it has none. -/
def spanTo (c c' : Cursor) : Span :=
  if c.position < c'.position then .determined c.start c'.before else .indetermined

/-- Reads the next token if it fits. -/
def next? (c : Cursor) (t : Terminal) : Option (Token × Cursor) :=
  match c.rest with
  | found :: rest =>
    if t.fits found.lexeme then some (found, ⟨c.position + 1, rest, found.span.stop⟩) else none
  | [] => none

end Cursor

/-- The furthest position where reading failed, and the terminals that would have gone on. -/
structure Reach where
  position : Nat
  expected : List Terminal

namespace Reach

/-- The reach of a reading that starts at a position. -/
def start (position : Nat) : Reach := ⟨position, []⟩

/-- Records that `t` was asked for in vain at `position`. -/
def note (r : Reach) (position : Nat) (t : Terminal) : Reach :=
  if position < r.position then r
  else if r.position < position then ⟨position, [t]⟩
  else if t ∈ r.expected then r
  else ⟨position, t :: r.expected⟩

def noteAll (r : Reach) (position : Nat) (ts : List Terminal) : Reach :=
  ts.foldl (fun r t => r.note position t) r

end Reach

/-- What reading yields: a value and the place after it, or nothing. -/
abbrev Answer (α : Type) := Option (α × Cursor)

/-- A reader that records its reach and carries a memory `σ` from one reading to the next. -/
abbrev Reader (σ α : Type) := Cursor → Reach × σ → Answer α × Reach × σ

namespace Reader

variable {σ α : Type}

/-- Reads as often as there is something to read. Every reading takes a token, so the tokens left
bound their number. -/
def many (p : Reader σ α) : List Token → Cursor → Reach × σ → (List α × Cursor) × Reach × σ
  | [], c, s => (([], c), (p c s).2)
  | _ :: bound, c, s =>
    match p c s with
    | (none, s) => (([], c), s)
    | (some (a, c), s) =>
      match many p bound c s with
      | ((as, c), s) => ((a :: as, c), s)

end Reader

namespace Peg

variable {R σ : Type} {Result : R → Type}

/-- Reads as a parsing expression says, with `call` for the rules it refers to. -/
def run (call : (r : R) → Reader σ (Result r)) {α : Type} : Peg Result α → Reader σ α
  | .token t, c, (reach, memory) =>
    match c.next? t with
    | some (found, c) => (some (found, c), reach, memory)
    | none => (none, reach.note c.position t, memory)
  | .oneOf table, c, (reach, memory) =>
    match table.findSome? fun e => (c.next? e.1).map fun x => (e.2, x.2) with
    | some (a, c) => (some (a, c), reach, memory)
    | none => (none, reach.noteAll c.position (table.map Prod.fst), memory)
  | .seq p q, c, s =>
    match p.run call c s with
    | (none, s) => (none, s)
    | (some (a, c), s) =>
      match q.run call c s with
      | (none, s) => (none, s)
      | (some (b, c), s) => (some ((a, b), c), s)
  | .choice p q, c, s =>
    match p.run call c s with
    | (none, s) => q.run call c s
    | answer => answer
  | .map f p, c, s =>
    match p.run call c s with
    | (none, s) => (none, s)
    | (some (a, c), s) => (some (f a, c), s)
  | .filterMap f p, c, s =>
    match p.run call c s with
    | (none, s) => (none, s)
    | (some (a, c), s) => ((f a).map (·, c), s)
  | .opt p, c, s =>
    match p.run call c s with
    | (none, s) => (some (none, c), s)
    | (some (a, c), s) => (some (some a, c), s)
  | .many p, c, s =>
    match Reader.many (p.run call) c.rest c s with
    | ((as, c), s) => (some (as, c), s)
  | .spanned p, c, s =>
    match p.run call c s with
    | (none, s) => (none, s)
    | (some (a, c'), s) => (some ((a, c.spanTo c'), c'), s)
  | .rule r, c, s => call r c s

/-- Reads by the rules of a grammar, at most `depth` of them inside one another. -/
def runRule (grammar : (r : R) → Peg Result (Result r)) : Nat → (r : R) → Reader σ (Result r)
  | 0, _, _, s => (none, s)
  | depth + 1, r, c, s => (grammar r).run (runRule grammar depth) c s

end Peg

end ModelLang
