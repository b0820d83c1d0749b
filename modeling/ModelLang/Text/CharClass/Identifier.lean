import ModelLang.Text.CharClass.Category

/-!
# ModelLang.Text.CharClass.Identifier

Characters of identifiers (version 16.0). The closed variants stay the same when compatible
characters are replaced.
-/

namespace ModelLang.Text.CharClass

/-- Code points that are kept for the syntax of patterns. -/
def patternSyntax : CharClass where
  boundaries := [
    0x21, 0x30, 0x3a, 0x41, 0x5b, 0x5f, 0x60, 0x61, 0x7b, 0x7f, 0xa1, 0xa8, 0xa9, 0xaa, 0xab, 0xad,
    0xae, 0xaf, 0xb0, 0xb2, 0xb6, 0xb7, 0xbb, 0xbc, 0xbf, 0xc0, 0xd7, 0xd8, 0xf7, 0xf8, 0x2010,
    0x2028, 0x2030, 0x203f, 0x2041, 0x2054, 0x2055, 0x205f, 0x2190, 0x2460, 0x2500, 0x2776, 0x2794,
    0x2c00, 0x2e00, 0x2e80, 0x3001, 0x3004, 0x3008, 0x3021, 0x3030, 0x3031, 0xfd3e, 0xfd40, 0xfe45,
    0xfe47]

/-- White space of patterns. -/
def patternBlank : CharClass where
  boundaries := [9, 0xe, 0x20, 0x21, 0x85, 0x86, 0x200e, 0x2010, 0x2028, 0x202a]

def otherIdStart : CharClass where
  boundaries := [0x1885, 0x1887, 0x2118, 0x2119, 0x212e, 0x212f, 0x309b, 0x309d]

def otherIdContinue : CharClass where
  boundaries := [
    0xb7, 0xb8, 0x387, 0x388, 0x1369, 0x1372, 0x19da, 0x19db, 0x200c, 0x200e, 0x30fb, 0x30fc,
    0xff65, 0xff66]

def idStart : CharClass :=
  (unionAll [letter, letterNumber, otherIdStart]).without (patternSyntax.union patternBlank)

def idContinue : CharClass :=
  unionAll [idStart, nonspacingMark, spacingMark, digit, connectorPunctuation, otherIdContinue]

/-- Characters of identifiers that compatible characters may turn into others. -/
def openContinue : CharClass where
  boundaries := [
    0x37a, 0x37b, 0x309b, 0x309d, 0xfc5e, 0xfc64, 0xfdfa, 0xfdfc, 0xfe70, 0xfe71, 0xfe72, 0xfe73,
    0xfe74, 0xfe75, 0xfe76, 0xfe77, 0xfe78, 0xfe79, 0xfe7a, 0xfe7b, 0xfe7c, 0xfe7d, 0xfe7e, 0xfe7f]

/-- Characters that compatible characters may turn into marks. -/
def openStart : CharClass where
  boundaries := [0xe33, 0xe34, 0xeb3, 0xeb4, 0xff9e, 0xffa0]

def closedIdContinue : CharClass := idContinue.without openContinue

def closedIdStart : CharClass := idStart.without (openContinue.union openStart)

/-- Symbols that identifiers of mathematics may start with. -/
def mathIdStart : CharClass where
  boundaries := [
    0x2202, 0x2203, 0x2207, 0x2208, 0x221e, 0x221f, 0x1d6c1, 0x1d6c2, 0x1d6db, 0x1d6dc, 0x1d6fb,
    0x1d6fc, 0x1d715, 0x1d716, 0x1d735, 0x1d736, 0x1d74f, 0x1d750, 0x1d76f, 0x1d770, 0x1d789,
    0x1d78a, 0x1d7a9, 0x1d7aa, 0x1d7c3, 0x1d7c4]

/-- Characters that may follow in identifiers of mathematics. -/
def mathIdContinue : CharClass :=
  mathIdStart.union ⟨[0xb2, 0xb4, 0xb9, 0xba, 0x2070, 0x2071, 0x2074, 0x207f, 0x2080, 0x208f]⟩

end ModelLang.Text.CharClass
