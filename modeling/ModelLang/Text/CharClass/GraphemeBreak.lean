import ModelLang.Text.CharClass.Emoji
import ModelLang.Text.CharClass.Format
import ModelLang.Text.CharClass.Grapheme

/-!
# ModelLang.Text.CharClass.GraphemeBreak

Characters by how they bound the clusters that a reader takes for one character (version 16.0).
-/

namespace ModelLang.Text.CharClass

namespace GraphemeBreak

def carriageReturn : CharClass := single '\r'

def lineFeed : CharClass := single '\n'

def extend : CharClass := graphemeExtend.union emojiModifier

def joiner : CharClass := single '\u200d'

/-- Letters that are written as marks of what follows, and marks of numbers. -/
def prepend : CharClass :=
  prependedMark.union ⟨[
    0xd4e, 0xd4f, 0x111c2, 0x111c4, 0x113d1, 0x113d2, 0x1193f, 0x11940, 0x11941, 0x11942, 0x11a84,
    0x11a8a, 0x11d46, 0x11d47, 0x11f02, 0x11f03]⟩

/-- Controls stand alone. -/
def standalone : CharClass :=
  (unionAll [lineSeparator, paragraphSeparator, control, format,
    unassigned.inter defaultIgnorable]).without
    (unionAll [carriageReturn, lineFeed, joinControl, prependedMark, graphemeExtend])

/-- Spacing marks that stand apart from the character before them. -/
def unattached : CharClass where
  boundaries := [
    0x102b, 0x102d, 0x1038, 0x1039, 0x1062, 0x1065, 0x1067, 0x106e, 0x1083, 0x1084, 0x1087, 0x108d,
    0x108f, 0x1090, 0x109a, 0x109d, 0x1a61, 0x1a62, 0x1a63, 0x1a65, 0xaa7b, 0xaa7c, 0xaa7d, 0xaa7e,
    0x11720, 0x11722]

def spacing : CharClass :=
  ((spacingMark.without extend).union ⟨[0xe33, 0xe34, 0xeb3, 0xeb4]⟩).without unattached

/-! The letters of Hangul, and its syllables without and with a final consonant. -/

def leading : CharClass := ⟨[0x1100, 0x1160, 0xa960, 0xa97d]⟩

def vowel : CharClass := ⟨[0x1160, 0x11a8, 0xd7b0, 0xd7c7, 0x16d63, 0x16d64, 0x16d67, 0x16d6b]⟩

def trailing : CharClass := ⟨[0x11a8, 0x1200, 0xd7cb, 0xd7fc]⟩

def openSyllable : CharClass :=
  ⟨(List.range 399).flatMap fun i => [0xac00 + 28 * i, 0xac00 + 28 * i + 1]⟩

def closedSyllable : CharClass := (⟨[0xac00, 0xd7a4]⟩ : CharClass).without openSyllable

end GraphemeBreak

/-- The kinds of characters by name. -/
def graphemeBreaks : List Named := [
  ⟨["CR"], GraphemeBreak.carriageReturn⟩,
  ⟨["LF"], GraphemeBreak.lineFeed⟩,
  ⟨["Control", "CN"], GraphemeBreak.standalone⟩,
  ⟨["Extend", "EX"], GraphemeBreak.extend⟩,
  ⟨["ZWJ"], GraphemeBreak.joiner⟩,
  ⟨["Regional_Indicator", "RI"], regionalIndicator⟩,
  ⟨["Prepend", "PP"], GraphemeBreak.prepend⟩,
  ⟨["SpacingMark", "SM"], GraphemeBreak.spacing⟩,
  ⟨["L"], GraphemeBreak.leading⟩,
  ⟨["V"], GraphemeBreak.vowel⟩,
  ⟨["T"], GraphemeBreak.trailing⟩,
  ⟨["LV"], GraphemeBreak.openSyllable⟩,
  ⟨["LVT"], GraphemeBreak.closedSyllable⟩]

end ModelLang.Text.CharClass
