import ModelLang.Text.CharClass.Conjunct
import ModelLang.Text.CharClass.GraphemeBreak

/-!
# ModelLang.Text.Cluster

Cutting a text into clusters, each of which a reader takes for one character: a letter with its
marks, a syllable, a flag, a picture put together from others.
-/

namespace ModelLang.Text

namespace Cluster

/-- What kind of character bounds a cluster. -/
inductive Kind where
  | carriageReturn
  | lineFeed
  | standalone
  | extend
  | joiner
  | flag
  | prepend
  | spacing
  | leading
  | vowel
  | trailing
  | openSyllable
  | closedSyllable
  | other
deriving DecidableEq

namespace Kind

open CharClass GraphemeBreak in
/-- The kinds that a class decides. -/
def classes : List (CharClass × Kind) := [
  (GraphemeBreak.extend, .extend),
  (regionalIndicator, .flag),
  (GraphemeBreak.prepend, .prepend),
  (GraphemeBreak.standalone, .standalone),
  (GraphemeBreak.spacing, .spacing),
  (GraphemeBreak.leading, .leading),
  (GraphemeBreak.vowel, .vowel),
  (GraphemeBreak.trailing, .trailing),
  (GraphemeBreak.openSyllable, .openSyllable),
  (GraphemeBreak.closedSyllable, .closedSyllable)]

def ofChar (c : Char) : Kind :=
  if c = '\r' then .carriageReturn
  else if c = '\n' then .lineFeed
  else if c = '\u200d' then .joiner
  else ((classes.find? fun e => e.1.contains c).map (·.2)).getD .other

/-- Whether a character of this kind stands apart from both neighbours. -/
def isApart (k : Kind) : Bool :=
  k = .carriageReturn || k = .lineFeed || k = .standalone

/-- Whether two letters or syllables of Hangul belong to one syllable. -/
def inSyllable : Kind → Kind → Bool
  | leading, k => k = leading || k = vowel || k = openSyllable || k = closedSyllable
  | openSyllable, k | vowel, k => k = vowel || k = trailing
  | closedSyllable, k | trailing, k => k = trailing
  | _, _ => false

end Kind

/-- How far a picture goes that stands before a place. -/
inductive Picture where
  | none
  /-- A picture, perhaps with marks. -/
  | open
  /-- Such a picture and a joiner. -/
  | joined
deriving DecidableEq

/-- How far a conjunct goes that stands before a place. -/
inductive Conjunct where
  | none
  /-- A consonant, perhaps with marks. -/
  | open
  /-- Such a consonant with a mark that joins it to the next one. -/
  | linked
deriving DecidableEq

/-- What of the text before a place decides whether a cluster ends there. -/
structure Edge where
  kind : Kind
  /-- Whether the number of flag letters just before is odd. -/
  oddFlags : Bool
  picture : Picture
  conjunct : Conjunct

namespace Edge

/-- The start of a text, where nothing attaches. -/
def start : Edge := ⟨.standalone, false, .none, .none⟩

/-- The edge after one more character. -/
def next (e : Edge) (c : Char) : Edge :=
  let kind := Kind.ofChar c
  let picture : Picture :=
    if CharClass.pictographic.contains c then .open
    else if e.picture = .open ∧ kind = .extend then .open
    else if e.picture = .open ∧ kind = .joiner then .joined
    else .none
  let conjunct : Conjunct :=
    if CharClass.conjunctConsonant.contains c then .open
    else if e.conjunct = .none then .none
    else if CharClass.conjunctLinker.contains c then .linked
    else if (kind = .extend ∧ c ≠ '\u200c') ∨ kind = .joiner then e.conjunct
    else .none
  ⟨kind, kind = .flag && ! e.oddFlags, picture, conjunct⟩

/-- Whether the character `c` at this edge belongs to the cluster before. -/
def attaches (e : Edge) (c : Char) : Bool :=
  let kind := Kind.ofChar c
  if e.kind = .carriageReturn && kind = .lineFeed then true
  else if e.kind.isApart || kind.isApart then false
  else
    e.kind.inSyllable kind || kind = .extend || kind = .joiner || kind = .spacing
      || e.kind = .prepend
      || (e.conjunct = .linked && CharClass.conjunctConsonant.contains c)
      || (e.picture = .joined && CharClass.pictographic.contains c)
      || (e.oddFlags && kind = .flag)

end Edge

/-- The clusters of a text after the edge `e`; the current one so far is `cluster`, in reverse. -/
def clustersFrom (e : Edge) (cluster : List Char) : List Char → List (List Char)
  | [] => if cluster.isEmpty then [] else [cluster.reverse]
  | c :: rest =>
    if e.attaches c || cluster.isEmpty then clustersFrom (e.next c) (c :: cluster) rest
    else cluster.reverse :: clustersFrom (e.next c) [c] rest

end Cluster

/-- The clusters of a text. -/
def clusters (text : List Char) : List (List Char) :=
  Cluster.clustersFrom .start [] text

end ModelLang.Text
