import ModelLang.Text.CharClass.Category

/-!
# ModelLang.Text.CharClass.Grapheme

How characters attach to their neighbours (version 16.0).
-/

namespace ModelLang.Text.CharClass

/-- Characters that attach to the one before them without being nonspacing or enclosing marks. -/
def otherGraphemeExtend : CharClass where
  boundaries := [
    0x9be, 0x9bf, 0x9d7, 0x9d8, 0xb3e, 0xb3f, 0xb57, 0xb58, 0xbbe, 0xbbf, 0xbd7, 0xbd8, 0xcc0,
    0xcc1, 0xcc2, 0xcc3, 0xcc7, 0xcc9, 0xcca, 0xccc, 0xcd5, 0xcd7, 0xd3e, 0xd3f, 0xd57, 0xd58,
    0xdcf, 0xdd0, 0xddf, 0xde0, 0x1715, 0x1716, 0x1734, 0x1735, 0x1b35, 0x1b36, 0x1b3b, 0x1b3c,
    0x1b3d, 0x1b3e, 0x1b43, 0x1b45, 0x1baa, 0x1bab, 0x1bf2, 0x1bf4, 0x200c, 0x200d, 0x302e, 0x3030,
    0xa953, 0xa954, 0xa9c0, 0xa9c1, 0xff9e, 0xffa0, 0x111c0, 0x111c1, 0x11235, 0x11236, 0x1133e,
    0x1133f, 0x1134d, 0x1134e, 0x11357, 0x11358, 0x113b8, 0x113b9, 0x113c2, 0x113c3, 0x113c5,
    0x113c6, 0x113c7, 0x113ca, 0x113cf, 0x113d0, 0x114b0, 0x114b1, 0x114bd, 0x114be, 0x115af,
    0x115b0, 0x116b6, 0x116b7, 0x11930, 0x11931, 0x1193d, 0x1193e, 0x11f41, 0x11f42, 0x16ff0,
    0x16ff2, 0x1d165, 0x1d167, 0x1d16d, 0x1d173, 0xe0020, 0xe0080]

def graphemeExtend : CharClass := unionAll [nonspacingMark, enclosingMark, otherGraphemeExtend]

def graphemeBase : CharClass :=
  (unionAll [control, format, surrogate, privateUse, unassigned, lineSeparator, paragraphSeparator,
    graphemeExtend]).compl

/-- Marks that suppress a vowel and so link consonants. -/
def virama : CharClass where
  boundaries := [
    0x94d, 0x94e, 0x9cd, 0x9ce, 0xa4d, 0xa4e, 0xacd, 0xace, 0xb4d, 0xb4e, 0xbcd, 0xbce, 0xc4d,
    0xc4e, 0xccd, 0xcce, 0xd3b, 0xd3d, 0xd4d, 0xd4e, 0xdca, 0xdcb, 0xe3a, 0xe3b, 0xeba, 0xebb,
    0xf84, 0xf85, 0x1039, 0x103b, 0x1714, 0x1716, 0x1734, 0x1735, 0x17d2, 0x17d3, 0x1a60, 0x1a61,
    0x1b44, 0x1b45, 0x1baa, 0x1bac, 0x1bf2, 0x1bf4, 0x2d7f, 0x2d80, 0xa806, 0xa807, 0xa82c, 0xa82d,
    0xa8c4, 0xa8c5, 0xa953, 0xa954, 0xa9c0, 0xa9c1, 0xaaf6, 0xaaf7, 0xabed, 0xabee, 0x10a3f,
    0x10a40, 0x11046, 0x11047, 0x11070, 0x11071, 0x1107f, 0x11080, 0x110b9, 0x110ba, 0x11133,
    0x11135, 0x111c0, 0x111c1, 0x11235, 0x11236, 0x112ea, 0x112eb, 0x1134d, 0x1134e, 0x113ce,
    0x113d1, 0x11442, 0x11443, 0x114c2, 0x114c3, 0x115bf, 0x115c0, 0x1163f, 0x11640, 0x116b6,
    0x116b7, 0x1172b, 0x1172c, 0x11839, 0x1183a, 0x1193d, 0x1193f, 0x119e0, 0x119e1, 0x11a34,
    0x11a35, 0x11a47, 0x11a48, 0x11a99, 0x11a9a, 0x11c3f, 0x11c40, 0x11d44, 0x11d46, 0x11d97,
    0x11d98, 0x11f41, 0x11f43, 0x1612f, 0x16130]

set_option maxRecDepth 8000 in
def diacritic : CharClass where
  boundaries := [
    0x5e, 0x5f, 0x60, 0x61, 0xa8, 0xa9, 0xaf, 0xb0, 0xb4, 0xb5, 0xb7, 0xb9, 0x2b0, 0x34f, 0x350,
    0x358, 0x35d, 0x363, 0x374, 0x376, 0x37a, 0x37b, 0x384, 0x386, 0x483, 0x488, 0x559, 0x55a,
    0x591, 0x5be, 0x5bf, 0x5c0, 0x5c1, 0x5c3, 0x5c4, 0x5c6, 0x5c7, 0x5c8, 0x64b, 0x653, 0x657,
    0x659, 0x6df, 0x6e1, 0x6e5, 0x6e7, 0x6ea, 0x6ed, 0x730, 0x74b, 0x7a6, 0x7b1, 0x7eb, 0x7f6,
    0x818, 0x81a, 0x898, 0x8a0, 0x8c9, 0x8d3, 0x8e3, 0x8ff, 0x93c, 0x93d, 0x94d, 0x94e, 0x951,
    0x955, 0x971, 0x972, 0x9bc, 0x9bd, 0x9cd, 0x9ce, 0xa3c, 0xa3d, 0xa4d, 0xa4e, 0xabc, 0xabd,
    0xacd, 0xace, 0xafd, 0xb00, 0xb3c, 0xb3d, 0xb4d, 0xb4e, 0xb55, 0xb56, 0xbcd, 0xbce, 0xc3c,
    0xc3d, 0xc4d, 0xc4e, 0xcbc, 0xcbd, 0xccd, 0xcce, 0xd3b, 0xd3d, 0xd4d, 0xd4e, 0xdca, 0xdcb,
    0xe3a, 0xe3b, 0xe47, 0xe4d, 0xe4e, 0xe4f, 0xeba, 0xebb, 0xec8, 0xecd, 0xf18, 0xf1a, 0xf35,
    0xf36, 0xf37, 0xf38, 0xf39, 0xf3a, 0xf3e, 0xf40, 0xf82, 0xf85, 0xf86, 0xf88, 0xfc6, 0xfc7,
    0x1037, 0x1038, 0x1039, 0x103b, 0x1063, 0x1065, 0x1069, 0x106e, 0x1087, 0x108e, 0x108f, 0x1090,
    0x109a, 0x109c, 0x135d, 0x1360, 0x1714, 0x1716, 0x1734, 0x1735, 0x17c9, 0x17d4, 0x17dd, 0x17de,
    0x1939, 0x193c, 0x1a60, 0x1a61, 0x1a75, 0x1a7d, 0x1a7f, 0x1a80, 0x1ab0, 0x1abf, 0x1ac1, 0x1acc,
    0x1b34, 0x1b35, 0x1b44, 0x1b45, 0x1b6b, 0x1b74, 0x1baa, 0x1bac, 0x1be6, 0x1be7, 0x1bf2, 0x1bf4,
    0x1c36, 0x1c38, 0x1c78, 0x1c7e, 0x1cd0, 0x1ce9, 0x1ced, 0x1cee, 0x1cf4, 0x1cf5, 0x1cf7, 0x1cfa,
    0x1d2c, 0x1d6b, 0x1d9b, 0x1dbf, 0x1dc4, 0x1dd0, 0x1df5, 0x1e00, 0x1fbd, 0x1fbe, 0x1fbf, 0x1fc2,
    0x1fcd, 0x1fd0, 0x1fdd, 0x1fe0, 0x1fed, 0x1ff0, 0x1ffd, 0x1fff, 0x2cef, 0x2cf2, 0x2e2f, 0x2e30,
    0x302a, 0x3030, 0x3099, 0x309d, 0x30fc, 0x30fd, 0xa66f, 0xa670, 0xa67c, 0xa67e, 0xa67f, 0xa680,
    0xa69c, 0xa69e, 0xa6f0, 0xa6f2, 0xa700, 0xa722, 0xa788, 0xa78b, 0xa7f8, 0xa7fa, 0xa806, 0xa807,
    0xa82c, 0xa82d, 0xa8c4, 0xa8c5, 0xa8e0, 0xa8f2, 0xa92b, 0xa92f, 0xa953, 0xa954, 0xa9b3, 0xa9b4,
    0xa9c0, 0xa9c1, 0xa9e5, 0xa9e6, 0xaa7b, 0xaa7e, 0xaabf, 0xaac3, 0xaaf6, 0xaaf7, 0xab5b, 0xab60,
    0xab69, 0xab6c, 0xabec, 0xabee, 0xfb1e, 0xfb1f, 0xfe20, 0xfe30, 0xff3e, 0xff3f, 0xff40, 0xff41,
    0xff70, 0xff71, 0xff9e, 0xffa0, 0xffe3, 0xffe4, 0x102e0, 0x102e1, 0x10780, 0x10786, 0x10787,
    0x107b1, 0x107b2, 0x107bb, 0x10a38, 0x10a3b, 0x10a3f, 0x10a40, 0x10ae5, 0x10ae7, 0x10d22,
    0x10d28, 0x10d4e, 0x10d4f, 0x10d69, 0x10d6e, 0x10efd, 0x10f00, 0x10f46, 0x10f51, 0x10f82,
    0x10f86, 0x11046, 0x11047, 0x11070, 0x11071, 0x110b9, 0x110bb, 0x11133, 0x11135, 0x11173,
    0x11174, 0x111c0, 0x111c1, 0x111ca, 0x111cd, 0x11235, 0x11237, 0x112e9, 0x112eb, 0x1133b,
    0x1133d, 0x1134d, 0x1134e, 0x11366, 0x1136d, 0x11370, 0x11375, 0x113ce, 0x113d1, 0x113d2,
    0x113d4, 0x113e1, 0x113e3, 0x11442, 0x11443, 0x11446, 0x11447, 0x114c2, 0x114c4, 0x115bf,
    0x115c1, 0x1163f, 0x11640, 0x116b6, 0x116b8, 0x1172b, 0x1172c, 0x11839, 0x1183b, 0x1193d,
    0x1193f, 0x11943, 0x11944, 0x119e0, 0x119e1, 0x11a34, 0x11a35, 0x11a47, 0x11a48, 0x11a99,
    0x11a9a, 0x11c3f, 0x11c40, 0x11d42, 0x11d43, 0x11d44, 0x11d46, 0x11d97, 0x11d98, 0x11f41,
    0x11f43, 0x11f5a, 0x11f5b, 0x13447, 0x13456, 0x1612f, 0x16130, 0x16af0, 0x16af5, 0x16b30,
    0x16b37, 0x16d6b, 0x16d6d, 0x16f8f, 0x16fa0, 0x16ff0, 0x16ff2, 0x1aff0, 0x1aff4, 0x1aff5,
    0x1affc, 0x1affd, 0x1afff, 0x1cf00, 0x1cf2e, 0x1cf30, 0x1cf47, 0x1d167, 0x1d16a, 0x1d16d,
    0x1d173, 0x1d17b, 0x1d183, 0x1d185, 0x1d18c, 0x1d1aa, 0x1d1ae, 0x1e030, 0x1e06e, 0x1e130,
    0x1e137, 0x1e2ae, 0x1e2af, 0x1e2ec, 0x1e2f0, 0x1e5ee, 0x1e5f0, 0x1e8d0, 0x1e8d7, 0x1e944,
    0x1e947, 0x1e948, 0x1e94b]

/-- Characters that extend or repeat the value of the one before them. -/
def extender : CharClass where
  boundaries := [
    0xb7, 0xb8, 0x2d0, 0x2d2, 0x640, 0x641, 0x7fa, 0x7fb, 0xa71, 0xa72, 0xafb, 0xafc, 0xb55, 0xb56,
    0xe46, 0xe47, 0xec6, 0xec7, 0x180a, 0x180b, 0x1843, 0x1844, 0x1aa7, 0x1aa8, 0x1c36, 0x1c37,
    0x1c7b, 0x1c7c, 0x3005, 0x3006, 0x3031, 0x3036, 0x309d, 0x309f, 0x30fc, 0x30ff, 0xa015, 0xa016,
    0xa60c, 0xa60d, 0xa9cf, 0xa9d0, 0xa9e6, 0xa9e7, 0xaa70, 0xaa71, 0xaadd, 0xaade, 0xaaf3, 0xaaf5,
    0xff70, 0xff71, 0x10781, 0x10783, 0x10d4e, 0x10d4f, 0x10d6a, 0x10d6b, 0x10d6f, 0x10d70, 0x11237,
    0x11238, 0x1135d, 0x1135e, 0x113d2, 0x113d4, 0x115c6, 0x115c9, 0x11a98, 0x11a99, 0x16b42,
    0x16b44, 0x16fe0, 0x16fe2, 0x16fe3, 0x16fe4, 0x1e13c, 0x1e13e, 0x1e5ef, 0x1e5f0, 0x1e944,
    0x1e947]

/-- Arabic marks that come first in the order of marks. -/
def modifierCombiningMark : CharClass where
  boundaries := [
    0x654, 0x656, 0x658, 0x659, 0x6dc, 0x6dd, 0x6e3, 0x6e4, 0x6e7, 0x6e9, 0x8ca, 0x8cc, 0x8cd,
    0x8d0, 0x8d3, 0x8d4, 0x8f3, 0x8f4]

end ModelLang.Text.CharClass
