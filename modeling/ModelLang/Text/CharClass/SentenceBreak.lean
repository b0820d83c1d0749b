import ModelLang.Text.CharClass.Blank
import ModelLang.Text.CharClass.WordBreak

/-!
# ModelLang.Text.CharClass.SentenceBreak

Characters by how they bound sentences (version 16.0).
-/

namespace ModelLang.Text.CharClass

namespace SentenceBreak

def extend : CharClass := unionAll [graphemeExtend, spacingMark, single '\u200d']

def separators : CharClass := ⟨[0x85, 0x86, 0x2028, 0x202a]⟩

def formatting : CharClass :=
  format.without (unionAll [joinControl, prependedMark.without (single '\u070f'), graphemeExtend])

def blanks : CharClass := blank.without (unionAll [⟨[0xa, 0xb, 0xd, 0xe]⟩, separators])

/-- Letters of Georgian, which start no sentence. -/
def georgian : CharClass := ⟨[0x10d0, 0x10fb, 0x10fd, 0x1100, 0x1c90, 0x1cbb, 0x1cbd, 0x1cc0]⟩

def lower : CharClass := lowercase.without (graphemeExtend.union georgian)

def upper : CharClass := (uppercase.union titlecaseLetter).without georgian

def otherLetters : CharClass :=
  (alphabetic.union (single '\u05f3')).without (unionAll [lower, upper, extend])

def numeric : CharClass := WordBreak.numeric.union (single '\u066c')

/-- Full stops, which need not end a sentence. -/
def stops : CharClass := ⟨[0x2e, 0x2f, 0x2024, 0x2025, 0xfe52, 0xfe53, 0xff0e, 0xff0f]⟩

def continuing : CharClass where
  boundaries := [
    0x2c, 0x2e, 0x3a, 0x3c, 0x37e, 0x37f, 0x55d, 0x55e, 0x60c, 0x60e, 0x7f8, 0x7f9, 0x1802, 0x1803,
    0x1808, 0x1809, 0x2013, 0x2015, 0x3001, 0x3002, 0xfe10, 0xfe12, 0xfe13, 0xfe15, 0xfe31, 0xfe33,
    0xfe50, 0xfe52, 0xfe54, 0xfe56, 0xfe58, 0xfe59, 0xfe63, 0xfe64, 0xff0c, 0xff0e, 0xff1a, 0xff1c,
    0xff64, 0xff65]

def terminal : CharClass := sentenceTerminal.without stops

/-- Quotation marks that neither open nor close. -/
def quotes : CharClass where
  boundaries := [
    0x22, 0x23, 0x27, 0x28, 0x275b, 0x2761, 0x2e00, 0x2e02, 0x2e06, 0x2e09, 0x2e0b, 0x2e0c, 0x1f676,
    0x1f679]

def closing : CharClass :=
  (unionAll [openPunctuation, closePunctuation, initialPunctuation, finalPunctuation,
    quotes]).without (unionAll [single '\u05f3', terminal, stops])

end SentenceBreak

/-- The kinds of characters by name. -/
def sentenceBreaks : List Named := [
  ⟨["CR"], single '\r'⟩,
  ⟨["LF"], single '\n'⟩,
  ⟨["Extend", "EX"], SentenceBreak.extend⟩,
  ⟨["Sep", "SE"], SentenceBreak.separators⟩,
  ⟨["Format", "FO"], SentenceBreak.formatting⟩,
  ⟨["Sp", "SP"], SentenceBreak.blanks⟩,
  ⟨["Lower", "LO"], SentenceBreak.lower⟩,
  ⟨["Upper", "UP"], SentenceBreak.upper⟩,
  ⟨["OLetter", "LE"], SentenceBreak.otherLetters⟩,
  ⟨["Numeric", "NU"], SentenceBreak.numeric⟩,
  ⟨["ATerm", "AT"], SentenceBreak.stops⟩,
  ⟨["SContinue", "SC"], SentenceBreak.continuing⟩,
  ⟨["STerm", "ST"], SentenceBreak.terminal⟩,
  ⟨["Close", "CL"], SentenceBreak.closing⟩]

end ModelLang.Text.CharClass
