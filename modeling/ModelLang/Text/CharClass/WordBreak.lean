import ModelLang.Text.CharClass.GraphemeBreak
import ModelLang.Text.CharClass.Ideograph
import ModelLang.Text.CharClass.Word

/-!
# ModelLang.Text.CharClass.WordBreak

Characters by how they bound words (version 16.0).
-/

namespace ModelLang.Text.CharClass

namespace WordBreak

def newline : CharClass := ⟨[0xb, 0xd, 0x85, 0x86, 0x2028, 0x202a]⟩

def extend : CharClass :=
  (unionAll [graphemeExtend, spacingMark, emojiModifier]).without (single '\u200d')

def formatting : CharClass :=
  format.without (unionAll [⟨[0x200b, 0x200e]⟩, prependedMark, single '\u070f', graphemeExtend])

def katakana : CharClass where
  boundaries := [
    0x3031, 0x3036, 0x309b, 0x309d, 0x30a0, 0x30fb, 0x30fc, 0x3100, 0x31f0, 0x3200, 0x32d0, 0x32ff,
    0x3300, 0x3358, 0xff66, 0xff9e, 0x1aff0, 0x1aff4, 0x1aff5, 0x1affc, 0x1affd, 0x1afff, 0x1b000,
    0x1b001, 0x1b120, 0x1b123, 0x1b155, 0x1b156, 0x1b164, 0x1b168]

def hebrew : CharClass where
  boundaries := [
    0x5d0, 0x5eb, 0x5ef, 0x5f3, 0xfb1d, 0xfb1e, 0xfb1f, 0xfb29, 0xfb2a, 0xfb37, 0xfb38, 0xfb3d,
    0xfb3e, 0xfb3f, 0xfb40, 0xfb42, 0xfb43, 0xfb45, 0xfb46, 0xfb50]

def hiragana : CharClass where
  boundaries := [
    0x3041, 0x3097, 0x309d, 0x30a0, 0x1b001, 0x1b120, 0x1b132, 0x1b133, 0x1b150, 0x1b153, 0x1f200,
    0x1f201]

/-- Characters of scripts whose words are not divided by blanks. -/
def complex : CharClass where
  boundaries := [
    0xe01, 0xe3b, 0xe40, 0xe4f, 0xe81, 0xe83, 0xe84, 0xe85, 0xe86, 0xe8b, 0xe8c, 0xea4, 0xea5,
    0xea6, 0xea7, 0xebe, 0xec0, 0xec5, 0xec6, 0xec7, 0xec8, 0xecf, 0xedc, 0xee0, 0x1000, 0x1040,
    0x1050, 0x1090, 0x109a, 0x10a0, 0x1780, 0x17d4, 0x17d7, 0x17d8, 0x17dc, 0x17de, 0x1950, 0x196e,
    0x1970, 0x1975, 0x1980, 0x19ac, 0x19b0, 0x19ca, 0x19da, 0x19db, 0x19de, 0x19e0, 0x1a20, 0x1a5f,
    0x1a60, 0x1a7d, 0x1aa0, 0x1aae, 0xa9e0, 0xa9f0, 0xa9fa, 0xa9ff, 0xaa60, 0xaac3, 0xaadb, 0xaae0,
    0x11700, 0x1171b, 0x1171d, 0x1172c, 0x1173a, 0x1173c, 0x1173f, 0x11747]

/-- Symbols and punctuation that count as letters of words. -/
def otherLetters : CharClass where
  boundaries := [
    0x2c2, 0x2c6, 0x2d2, 0x2d8, 0x2de, 0x2e0, 0x2e5, 0x2ec, 0x2ed, 0x2ee, 0x2ef, 0x300, 0x55a,
    0x55d, 0x55e, 0x55f, 0x58a, 0x58b, 0x5f3, 0x5f4, 0x70f, 0x710, 0xa708, 0xa717, 0xa720, 0xa722,
    0xa789, 0xa78b, 0xab5b, 0xab5c]

def letters : CharClass :=
  (alphabetic.union otherLetters).without
    (unionAll [ideographic, katakana, complex, hiragana, extend, hebrew])

def singleQuote : CharClass := single '\x27'

def doubleQuote : CharClass := single '"'

def midNumLet : CharClass where
  boundaries := [
    0x2e, 0x2f, 0x2018, 0x201a, 0x2024, 0x2025, 0xfe52, 0xfe53, 0xff07, 0xff08, 0xff0e, 0xff0f]

def midLetter : CharClass where
  boundaries := [
    0x3a, 0x3b, 0xb7, 0xb8, 0x387, 0x388, 0x55f, 0x560, 0x5f4, 0x5f5, 0x2027, 0x2028, 0xfe13,
    0xfe14, 0xfe55, 0xfe56, 0xff1a, 0xff1b]

def midNum : CharClass where
  boundaries := [
    0x2c, 0x2d, 0x3b, 0x3c, 0x37e, 0x37f, 0x589, 0x58a, 0x60c, 0x60e, 0x66c, 0x66d, 0x7f8, 0x7f9,
    0x2044, 0x2045, 0xfe10, 0xfe11, 0xfe14, 0xfe15, 0xfe50, 0xfe51, 0xfe54, 0xfe55, 0xff0c, 0xff0d,
    0xff1b, 0xff1c]

def numeric : CharClass :=
  unionAll [digit, single '\u066b', prependedMark.without (single '\u070f')]

def connector : CharClass := connectorPunctuation.union (single '\u202f')

/-- Blanks at which a line may end. -/
def blanks : CharClass := spaceSeparator.without ⟨[0xa0, 0xa1, 0x2007, 0x2008, 0x202f, 0x2030]⟩

end WordBreak

/-- The kinds of characters by name. -/
def wordBreaks : List Named := [
  ⟨["CR"], single '\r'⟩,
  ⟨["LF"], single '\n'⟩,
  ⟨["Newline", "NL"], WordBreak.newline⟩,
  ⟨["Extend"], WordBreak.extend⟩,
  ⟨["ZWJ"], single '\u200d'⟩,
  ⟨["Regional_Indicator", "RI"], regionalIndicator⟩,
  ⟨["Format", "FO"], WordBreak.formatting⟩,
  ⟨["Katakana", "KA"], WordBreak.katakana⟩,
  ⟨["Hebrew_Letter", "HL"], WordBreak.hebrew⟩,
  ⟨["ALetter", "LE"], WordBreak.letters⟩,
  ⟨["Single_Quote", "SQ"], WordBreak.singleQuote⟩,
  ⟨["Double_Quote", "DQ"], WordBreak.doubleQuote⟩,
  ⟨["MidNumLet", "MB"], WordBreak.midNumLet⟩,
  ⟨["MidLetter", "ML"], WordBreak.midLetter⟩,
  ⟨["MidNum", "MN"], WordBreak.midNum⟩,
  ⟨["Numeric", "NU"], WordBreak.numeric⟩,
  ⟨["ExtendNumLet", "EX"], WordBreak.connector⟩,
  ⟨["WSegSpace"], WordBreak.blanks⟩]

/-- Characters that do not matter for the case of what follows them. -/
def caseIgnorable : CharClass :=
  unionAll [nonspacingMark, enclosingMark, format, modifierLetter, modifierSymbol,
    WordBreak.midLetter, WordBreak.midNumLet, WordBreak.singleQuote]

end ModelLang.Text.CharClass
