/-!
# ModelLang.Location

Places in a source text. Lines and columns count from one, columns in bytes of UTF-8; a span ends
one past its last byte.
-/

namespace ModelLang

structure Location where
  line : Nat
  column : Nat
deriving DecidableEq, Inhabited

def Location.text (l : Location) : String :=
  s!"line {l.line}, column {l.column}"

/-- Where something stands, if that is known. -/
inductive Span where
  | indetermined
  | determined (start stop : Location)
deriving DecidableEq, Inhabited

namespace Span

def start : Span → Location
  | indetermined => default
  | determined start _ => start

def stop : Span → Location
  | indetermined => default
  | determined _ stop => stop

/-- From the start of one span to the end of another, as far as they are known. -/
def till : Span → Span → Span
  | indetermined, last => last
  | first, indetermined => first
  | determined start _, determined _ stop => determined start stop

/-- A span is reported by where it starts. -/
def text : Span → String
  | indetermined => "unknown position"
  | determined start _ => start.text

end Span

end ModelLang
