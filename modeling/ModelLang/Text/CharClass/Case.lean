import ModelLang.Text.CharClass.Letter

/-!
# ModelLang.Text.CharClass.Case

Upper and lower case. A class that takes a character by the mapping to a case holds those that the
mapping changes; which ones it leaves as they are is tabulated (version 16.0).
-/

namespace ModelLang.Text.CharClass

/-- Characters other than letters of lower case that count as lower case. -/
def otherLowercase : CharClass where
  boundaries := [
    0xaa, 0xab, 0xba, 0xbb, 0x2b0, 0x2b9, 0x2c0, 0x2c2, 0x2e0, 0x2e5, 0x345, 0x346, 0x37a, 0x37b,
    0x10fc, 0x10fd, 0x1d2c, 0x1d6b, 0x1d78, 0x1d79, 0x1d9b, 0x1dc0, 0x2071, 0x2072, 0x207f, 0x2080,
    0x2090, 0x209d, 0x2170, 0x2180, 0x24d0, 0x24ea, 0x2c7c, 0x2c7e, 0xa69c, 0xa69e, 0xa770, 0xa771,
    0xa7f2, 0xa7f5, 0xa7f8, 0xa7fa, 0xab5c, 0xab60, 0xab69, 0xab6a, 0x10780, 0x10781, 0x10783,
    0x10786, 0x10787, 0x107b1, 0x107b2, 0x107bb, 0x1e030, 0x1e06e]

/-- Characters other than letters of upper case that count as upper case. -/
def otherUppercase : CharClass where
  boundaries := [
    0x2160, 0x2170, 0x24b6, 0x24d0, 0x1f130, 0x1f14a, 0x1f150, 0x1f16a, 0x1f170, 0x1f18a]

def lowercase : CharClass := lowercaseLetter.union otherLowercase

def uppercase : CharClass := uppercaseLetter.union otherUppercase

def cased : CharClass := unionAll [lowercase, uppercase, titlecaseLetter]

/-- Letters whose dot disappears below an accent. -/
def softDotted : CharClass where
  boundaries := [
    0x69, 0x6b, 0x12f, 0x130, 0x249, 0x24a, 0x268, 0x269, 0x29d, 0x29e, 0x2b2, 0x2b3, 0x3f3, 0x3f4,
    0x456, 0x457, 0x458, 0x459, 0x1d62, 0x1d63, 0x1d96, 0x1d97, 0x1da4, 0x1da5, 0x1da8, 0x1da9,
    0x1e2d, 0x1e2e, 0x1ecb, 0x1ecc, 0x2071, 0x2072, 0x2148, 0x214a, 0x2c7c, 0x2c7d, 0x1d422,
    0x1d424, 0x1d456, 0x1d458, 0x1d48a, 0x1d48c, 0x1d4be, 0x1d4c0, 0x1d4f2, 0x1d4f4, 0x1d526,
    0x1d528, 0x1d55a, 0x1d55c, 0x1d58e, 0x1d590, 0x1d5c2, 0x1d5c4, 0x1d5f6, 0x1d5f8, 0x1d62a,
    0x1d62c, 0x1d65e, 0x1d660, 0x1d692, 0x1d694, 0x1df1a, 0x1df1b, 0x1e04c, 0x1e04e, 0x1e068,
    0x1e069]

/-- Characters of upper or title case that have no lower case. -/
def withoutLowercase : CharClass where
  boundaries := [
    0x3d2, 0x3d5, 0x2102, 0x2103, 0x2107, 0x2108, 0x210b, 0x210e, 0x2110, 0x2113, 0x2115, 0x2116,
    0x2119, 0x211e, 0x2124, 0x2125, 0x2128, 0x2129, 0x212c, 0x212e, 0x2130, 0x2132, 0x2133, 0x2134,
    0x213e, 0x2140, 0x2145, 0x2146, 0x1d400, 0x1d41a, 0x1d434, 0x1d44e, 0x1d468, 0x1d482, 0x1d49c,
    0x1d49d, 0x1d49e, 0x1d4a0, 0x1d4a2, 0x1d4a3, 0x1d4a5, 0x1d4a7, 0x1d4a9, 0x1d4ad, 0x1d4ae,
    0x1d4b6, 0x1d4d0, 0x1d4ea, 0x1d504, 0x1d506, 0x1d507, 0x1d50b, 0x1d50d, 0x1d515, 0x1d516,
    0x1d51d, 0x1d538, 0x1d53a, 0x1d53b, 0x1d53f, 0x1d540, 0x1d545, 0x1d546, 0x1d547, 0x1d54a,
    0x1d551, 0x1d56c, 0x1d586, 0x1d5a0, 0x1d5ba, 0x1d5d4, 0x1d5ee, 0x1d608, 0x1d622, 0x1d63c,
    0x1d656, 0x1d670, 0x1d68a, 0x1d6a8, 0x1d6c1, 0x1d6e2, 0x1d6fb, 0x1d71c, 0x1d735, 0x1d756,
    0x1d76f, 0x1d790, 0x1d7a9, 0x1d7ca, 0x1d7cb, 0x1f130, 0x1f14a, 0x1f150, 0x1f16a, 0x1f170,
    0x1f18a]

/-- Characters of lower or title case that have no upper case. -/
def withoutUppercase : CharClass where
  boundaries := [
    0xaa, 0xab, 0xba, 0xbb, 0x138, 0x139, 0x18d, 0x18e, 0x1aa, 0x1ac, 0x1ba, 0x1bb, 0x1be, 0x1bf,
    0x221, 0x222, 0x234, 0x23a, 0x255, 0x256, 0x258, 0x259, 0x25a, 0x25b, 0x25d, 0x260, 0x262,
    0x263, 0x267, 0x268, 0x26d, 0x26f, 0x270, 0x271, 0x273, 0x275, 0x276, 0x27d, 0x27e, 0x280,
    0x281, 0x282, 0x284, 0x287, 0x28d, 0x292, 0x293, 0x294, 0x296, 0x29d, 0x29f, 0x2b9, 0x2c0,
    0x2c2, 0x2e0, 0x2e5, 0x37a, 0x37b, 0x3fc, 0x3fd, 0x560, 0x561, 0x588, 0x589, 0x10fc, 0x10fd,
    0x1d00, 0x1d79, 0x1d7a, 0x1d7d, 0x1d7e, 0x1d8e, 0x1d8f, 0x1dc0, 0x1e9c, 0x1e9e, 0x1e9f, 0x1ea0,
    0x2071, 0x2072, 0x207f, 0x2080, 0x2090, 0x209d, 0x210a, 0x210b, 0x210e, 0x2110, 0x2113, 0x2114,
    0x212f, 0x2130, 0x2134, 0x2135, 0x2139, 0x213a, 0x213c, 0x213e, 0x2146, 0x214a, 0x2c71, 0x2c72,
    0x2c74, 0x2c75, 0x2c77, 0x2c7e, 0x2ce4, 0x2ce5, 0xa69c, 0xa69e, 0xa730, 0xa732, 0xa770, 0xa779,
    0xa78e, 0xa78f, 0xa795, 0xa796, 0xa7af, 0xa7b0, 0xa7d3, 0xa7d4, 0xa7d5, 0xa7d6, 0xa7f2, 0xa7f5,
    0xa7f8, 0xa7fb, 0xab30, 0xab53, 0xab54, 0xab5b, 0xab5c, 0xab6a, 0x10780, 0x10781, 0x10783,
    0x10786, 0x10787, 0x107b1, 0x107b2, 0x107bb, 0x1d41a, 0x1d434, 0x1d44e, 0x1d455, 0x1d456,
    0x1d468, 0x1d482, 0x1d49c, 0x1d4b6, 0x1d4ba, 0x1d4bb, 0x1d4bc, 0x1d4bd, 0x1d4c4, 0x1d4c5,
    0x1d4d0, 0x1d4ea, 0x1d504, 0x1d51e, 0x1d538, 0x1d552, 0x1d56c, 0x1d586, 0x1d5a0, 0x1d5ba,
    0x1d5d4, 0x1d5ee, 0x1d608, 0x1d622, 0x1d63c, 0x1d656, 0x1d670, 0x1d68a, 0x1d6a6, 0x1d6c2,
    0x1d6db, 0x1d6dc, 0x1d6e2, 0x1d6fc, 0x1d715, 0x1d716, 0x1d71c, 0x1d736, 0x1d74f, 0x1d750,
    0x1d756, 0x1d770, 0x1d789, 0x1d78a, 0x1d790, 0x1d7aa, 0x1d7c3, 0x1d7c4, 0x1d7ca, 0x1d7cb,
    0x1d7cc, 0x1df00, 0x1df0a, 0x1df0b, 0x1df1f, 0x1df25, 0x1df2b, 0x1e030, 0x1e06e]

/-- Characters that have an upper case and are their own title case. -/
def ownTitlecase : CharClass where
  boundaries := [
    0x1c5, 0x1c6, 0x1c8, 0x1c9, 0x1cb, 0x1cc, 0x1f2, 0x1f3, 0x10d0, 0x10fb, 0x10fd, 0x1100, 0x1f88,
    0x1f90, 0x1f98, 0x1fa0, 0x1fa8, 0x1fb0, 0x1fbc, 0x1fbd, 0x1fcc, 0x1fcd, 0x1ffc, 0x1ffd]

/-- Characters of upper case that have another title case. -/
def titlecaseOnly : CharClass where
  boundaries := [0x1c4, 0x1c5, 0x1c7, 0x1c8, 0x1ca, 0x1cb, 0x1f1, 0x1f2]

/-- Characters that folding changes and the mapping to lower case does not. -/
def foldedOnly : CharClass where
  boundaries := [
    0xb5, 0xb6, 0xdf, 0xe0, 0x149, 0x14a, 0x17f, 0x180, 0x345, 0x346, 0x3c2, 0x3c3, 0x3d0, 0x3d2,
    0x3d5, 0x3d7, 0x3f0, 0x3f2, 0x3f5, 0x3f6, 0x587, 0x588, 0x13f8, 0x13fe, 0x1c80, 0x1c89, 0x1e9a,
    0x1e9c, 0x1f80, 0x1f88, 0x1f90, 0x1f98, 0x1fa0, 0x1fa8, 0x1fb2, 0x1fb5, 0x1fb7, 0x1fb8, 0x1fc2,
    0x1fc5, 0x1fc7, 0x1fc8, 0x1ff2, 0x1ff5, 0x1ff7, 0x1ff8, 0xab70, 0xabc0, 0xfb00, 0xfb07, 0xfb13,
    0xfb18]

/-- Characters that the mapping to lower case changes and folding does not. -/
def lowercasedOnly : CharClass where
  boundaries := [0x13a0, 0x13f6]

def changesWhenLowercased : CharClass :=
  (uppercase.union titlecaseLetter).without withoutLowercase

def changesWhenUppercased : CharClass :=
  (lowercase.union titlecaseLetter).without withoutUppercase

def changesWhenTitlecased : CharClass :=
  (changesWhenUppercased.without ownTitlecase).union titlecaseOnly

def changesWhenCasefolded : CharClass :=
  (changesWhenLowercased.without lowercasedOnly).union foldedOnly

def changesWhenCasemapped : CharClass :=
  unionAll [changesWhenLowercased, changesWhenUppercased, changesWhenTitlecased]

end ModelLang.Text.CharClass
