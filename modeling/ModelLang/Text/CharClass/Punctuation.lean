import ModelLang.Text.CharClass

/-!
# ModelLang.Text.CharClass.Punctuation

Punctuation (general categories Pc, Pd, Ps, Pe, Pi, Pf and Po, version 16.0), and its roles.
-/

namespace ModelLang.Text.CharClass

def connectorPunctuation : CharClass where
  boundaries := [
    0x5f, 0x60, 0x203f, 0x2041, 0x2054, 0x2055, 0xfe33, 0xfe35, 0xfe4d, 0xfe50, 0xff3f, 0xff40]

def dashPunctuation : CharClass where
  boundaries := [
    0x2d, 0x2e, 0x58a, 0x58b, 0x5be, 0x5bf, 0x1400, 0x1401, 0x1806, 0x1807, 0x2010, 0x2016, 0x2e17,
    0x2e18, 0x2e1a, 0x2e1b, 0x2e3a, 0x2e3c, 0x2e40, 0x2e41, 0x2e5d, 0x2e5e, 0x301c, 0x301d, 0x3030,
    0x3031, 0x30a0, 0x30a1, 0xfe31, 0xfe33, 0xfe58, 0xfe59, 0xfe63, 0xfe64, 0xff0d, 0xff0e, 0x10d6e,
    0x10d6f, 0x10ead, 0x10eae]

def openPunctuation : CharClass where
  boundaries := [
    0x28, 0x29, 0x5b, 0x5c, 0x7b, 0x7c, 0xf3a, 0xf3b, 0xf3c, 0xf3d, 0x169b, 0x169c, 0x201a, 0x201b,
    0x201e, 0x201f, 0x2045, 0x2046, 0x207d, 0x207e, 0x208d, 0x208e, 0x2308, 0x2309, 0x230a, 0x230b,
    0x2329, 0x232a, 0x2768, 0x2769, 0x276a, 0x276b, 0x276c, 0x276d, 0x276e, 0x276f, 0x2770, 0x2771,
    0x2772, 0x2773, 0x2774, 0x2775, 0x27c5, 0x27c6, 0x27e6, 0x27e7, 0x27e8, 0x27e9, 0x27ea, 0x27eb,
    0x27ec, 0x27ed, 0x27ee, 0x27ef, 0x2983, 0x2984, 0x2985, 0x2986, 0x2987, 0x2988, 0x2989, 0x298a,
    0x298b, 0x298c, 0x298d, 0x298e, 0x298f, 0x2990, 0x2991, 0x2992, 0x2993, 0x2994, 0x2995, 0x2996,
    0x2997, 0x2998, 0x29d8, 0x29d9, 0x29da, 0x29db, 0x29fc, 0x29fd, 0x2e22, 0x2e23, 0x2e24, 0x2e25,
    0x2e26, 0x2e27, 0x2e28, 0x2e29, 0x2e42, 0x2e43, 0x2e55, 0x2e56, 0x2e57, 0x2e58, 0x2e59, 0x2e5a,
    0x2e5b, 0x2e5c, 0x3008, 0x3009, 0x300a, 0x300b, 0x300c, 0x300d, 0x300e, 0x300f, 0x3010, 0x3011,
    0x3014, 0x3015, 0x3016, 0x3017, 0x3018, 0x3019, 0x301a, 0x301b, 0x301d, 0x301e, 0xfd3f, 0xfd40,
    0xfe17, 0xfe18, 0xfe35, 0xfe36, 0xfe37, 0xfe38, 0xfe39, 0xfe3a, 0xfe3b, 0xfe3c, 0xfe3d, 0xfe3e,
    0xfe3f, 0xfe40, 0xfe41, 0xfe42, 0xfe43, 0xfe44, 0xfe47, 0xfe48, 0xfe59, 0xfe5a, 0xfe5b, 0xfe5c,
    0xfe5d, 0xfe5e, 0xff08, 0xff09, 0xff3b, 0xff3c, 0xff5b, 0xff5c, 0xff5f, 0xff60, 0xff62, 0xff63]

def closePunctuation : CharClass where
  boundaries := [
    0x29, 0x2a, 0x5d, 0x5e, 0x7d, 0x7e, 0xf3b, 0xf3c, 0xf3d, 0xf3e, 0x169c, 0x169d, 0x2046, 0x2047,
    0x207e, 0x207f, 0x208e, 0x208f, 0x2309, 0x230a, 0x230b, 0x230c, 0x232a, 0x232b, 0x2769, 0x276a,
    0x276b, 0x276c, 0x276d, 0x276e, 0x276f, 0x2770, 0x2771, 0x2772, 0x2773, 0x2774, 0x2775, 0x2776,
    0x27c6, 0x27c7, 0x27e7, 0x27e8, 0x27e9, 0x27ea, 0x27eb, 0x27ec, 0x27ed, 0x27ee, 0x27ef, 0x27f0,
    0x2984, 0x2985, 0x2986, 0x2987, 0x2988, 0x2989, 0x298a, 0x298b, 0x298c, 0x298d, 0x298e, 0x298f,
    0x2990, 0x2991, 0x2992, 0x2993, 0x2994, 0x2995, 0x2996, 0x2997, 0x2998, 0x2999, 0x29d9, 0x29da,
    0x29db, 0x29dc, 0x29fd, 0x29fe, 0x2e23, 0x2e24, 0x2e25, 0x2e26, 0x2e27, 0x2e28, 0x2e29, 0x2e2a,
    0x2e56, 0x2e57, 0x2e58, 0x2e59, 0x2e5a, 0x2e5b, 0x2e5c, 0x2e5d, 0x3009, 0x300a, 0x300b, 0x300c,
    0x300d, 0x300e, 0x300f, 0x3010, 0x3011, 0x3012, 0x3015, 0x3016, 0x3017, 0x3018, 0x3019, 0x301a,
    0x301b, 0x301c, 0x301e, 0x3020, 0xfd3e, 0xfd3f, 0xfe18, 0xfe19, 0xfe36, 0xfe37, 0xfe38, 0xfe39,
    0xfe3a, 0xfe3b, 0xfe3c, 0xfe3d, 0xfe3e, 0xfe3f, 0xfe40, 0xfe41, 0xfe42, 0xfe43, 0xfe44, 0xfe45,
    0xfe48, 0xfe49, 0xfe5a, 0xfe5b, 0xfe5c, 0xfe5d, 0xfe5e, 0xfe5f, 0xff09, 0xff0a, 0xff3d, 0xff3e,
    0xff5d, 0xff5e, 0xff60, 0xff61, 0xff63, 0xff64]

def initialPunctuation : CharClass where
  boundaries := [
    0xab, 0xac, 0x2018, 0x2019, 0x201b, 0x201d, 0x201f, 0x2020, 0x2039, 0x203a, 0x2e02, 0x2e03,
    0x2e04, 0x2e05, 0x2e09, 0x2e0a, 0x2e0c, 0x2e0d, 0x2e1c, 0x2e1d, 0x2e20, 0x2e21]

def finalPunctuation : CharClass where
  boundaries := [
    0xbb, 0xbc, 0x2019, 0x201a, 0x201d, 0x201e, 0x203a, 0x203b, 0x2e03, 0x2e04, 0x2e05, 0x2e06,
    0x2e0a, 0x2e0b, 0x2e0d, 0x2e0e, 0x2e1d, 0x2e1e, 0x2e21, 0x2e22]

def otherPunctuation : CharClass where
  boundaries := [
    0x21, 0x24, 0x25, 0x28, 0x2a, 0x2b, 0x2c, 0x2d, 0x2e, 0x30, 0x3a, 0x3c, 0x3f, 0x41, 0x5c, 0x5d,
    0xa1, 0xa2, 0xa7, 0xa8, 0xb6, 0xb8, 0xbf, 0xc0, 0x37e, 0x37f, 0x387, 0x388, 0x55a, 0x560, 0x589,
    0x58a, 0x5c0, 0x5c1, 0x5c3, 0x5c4, 0x5c6, 0x5c7, 0x5f3, 0x5f5, 0x609, 0x60b, 0x60c, 0x60e,
    0x61b, 0x61c, 0x61d, 0x620, 0x66a, 0x66e, 0x6d4, 0x6d5, 0x700, 0x70e, 0x7f7, 0x7fa, 0x830,
    0x83f, 0x85e, 0x85f, 0x964, 0x966, 0x970, 0x971, 0x9fd, 0x9fe, 0xa76, 0xa77, 0xaf0, 0xaf1,
    0xc77, 0xc78, 0xc84, 0xc85, 0xdf4, 0xdf5, 0xe4f, 0xe50, 0xe5a, 0xe5c, 0xf04, 0xf13, 0xf14,
    0xf15, 0xf85, 0xf86, 0xfd0, 0xfd5, 0xfd9, 0xfdb, 0x104a, 0x1050, 0x10fb, 0x10fc, 0x1360, 0x1369,
    0x166e, 0x166f, 0x16eb, 0x16ee, 0x1735, 0x1737, 0x17d4, 0x17d7, 0x17d8, 0x17db, 0x1800, 0x1806,
    0x1807, 0x180b, 0x1944, 0x1946, 0x1a1e, 0x1a20, 0x1aa0, 0x1aa7, 0x1aa8, 0x1aae, 0x1b4e, 0x1b50,
    0x1b5a, 0x1b61, 0x1b7d, 0x1b80, 0x1bfc, 0x1c00, 0x1c3b, 0x1c40, 0x1c7e, 0x1c80, 0x1cc0, 0x1cc8,
    0x1cd3, 0x1cd4, 0x2016, 0x2018, 0x2020, 0x2028, 0x2030, 0x2039, 0x203b, 0x203f, 0x2041, 0x2044,
    0x2047, 0x2052, 0x2053, 0x2054, 0x2055, 0x205f, 0x2cf9, 0x2cfd, 0x2cfe, 0x2d00, 0x2d70, 0x2d71,
    0x2e00, 0x2e02, 0x2e06, 0x2e09, 0x2e0b, 0x2e0c, 0x2e0e, 0x2e17, 0x2e18, 0x2e1a, 0x2e1b, 0x2e1c,
    0x2e1e, 0x2e20, 0x2e2a, 0x2e2f, 0x2e30, 0x2e3a, 0x2e3c, 0x2e40, 0x2e41, 0x2e42, 0x2e43, 0x2e50,
    0x2e52, 0x2e55, 0x3001, 0x3004, 0x303d, 0x303e, 0x30fb, 0x30fc, 0xa4fe, 0xa500, 0xa60d, 0xa610,
    0xa673, 0xa674, 0xa67e, 0xa67f, 0xa6f2, 0xa6f8, 0xa874, 0xa878, 0xa8ce, 0xa8d0, 0xa8f8, 0xa8fb,
    0xa8fc, 0xa8fd, 0xa92e, 0xa930, 0xa95f, 0xa960, 0xa9c1, 0xa9ce, 0xa9de, 0xa9e0, 0xaa5c, 0xaa60,
    0xaade, 0xaae0, 0xaaf0, 0xaaf2, 0xabeb, 0xabec, 0xfe10, 0xfe17, 0xfe19, 0xfe1a, 0xfe30, 0xfe31,
    0xfe45, 0xfe47, 0xfe49, 0xfe4d, 0xfe50, 0xfe53, 0xfe54, 0xfe58, 0xfe5f, 0xfe62, 0xfe68, 0xfe69,
    0xfe6a, 0xfe6c, 0xff01, 0xff04, 0xff05, 0xff08, 0xff0a, 0xff0b, 0xff0c, 0xff0d, 0xff0e, 0xff10,
    0xff1a, 0xff1c, 0xff1f, 0xff21, 0xff3c, 0xff3d, 0xff61, 0xff62, 0xff64, 0xff66, 0x10100,
    0x10103, 0x1039f, 0x103a0, 0x103d0, 0x103d1, 0x1056f, 0x10570, 0x10857, 0x10858, 0x1091f,
    0x10920, 0x1093f, 0x10940, 0x10a50, 0x10a59, 0x10a7f, 0x10a80, 0x10af0, 0x10af7, 0x10b39,
    0x10b40, 0x10b99, 0x10b9d, 0x10f55, 0x10f5a, 0x10f86, 0x10f8a, 0x11047, 0x1104e, 0x110bb,
    0x110bd, 0x110be, 0x110c2, 0x11140, 0x11144, 0x11174, 0x11176, 0x111c5, 0x111c9, 0x111cd,
    0x111ce, 0x111db, 0x111dc, 0x111dd, 0x111e0, 0x11238, 0x1123e, 0x112a9, 0x112aa, 0x113d4,
    0x113d6, 0x113d7, 0x113d9, 0x1144b, 0x11450, 0x1145a, 0x1145c, 0x1145d, 0x1145e, 0x114c6,
    0x114c7, 0x115c1, 0x115d8, 0x11641, 0x11644, 0x11660, 0x1166d, 0x116b9, 0x116ba, 0x1173c,
    0x1173f, 0x1183b, 0x1183c, 0x11944, 0x11947, 0x119e2, 0x119e3, 0x11a3f, 0x11a47, 0x11a9a,
    0x11a9d, 0x11a9e, 0x11aa3, 0x11b00, 0x11b0a, 0x11be1, 0x11be2, 0x11c41, 0x11c46, 0x11c70,
    0x11c72, 0x11ef7, 0x11ef9, 0x11f43, 0x11f50, 0x11fff, 0x12000, 0x12470, 0x12475, 0x12ff1,
    0x12ff3, 0x16a6e, 0x16a70, 0x16af5, 0x16af6, 0x16b37, 0x16b3c, 0x16b44, 0x16b45, 0x16d6d,
    0x16d70, 0x16e97, 0x16e9b, 0x16fe2, 0x16fe3, 0x1bc9f, 0x1bca0, 0x1da87, 0x1da8c, 0x1e5ff,
    0x1e600, 0x1e95e, 0x1e960]

def dash : CharClass :=
  dashPunctuation.union ⟨[0x2053, 0x2054, 0x207b, 0x207c, 0x208b, 0x208c, 0x2212, 0x2213]⟩

def hyphen : CharClass where
  boundaries := [
    0x2d, 0x2e, 0xad, 0xae, 0x58a, 0x58b, 0x1806, 0x1807, 0x2010, 0x2012, 0x2e17, 0x2e18, 0x30fb,
    0x30fc, 0xfe63, 0xfe64, 0xff0d, 0xff0e, 0xff65, 0xff66]

def quotationMark : CharClass where
  boundaries := [
    0x22, 0x23, 0x27, 0x28, 0xab, 0xac, 0xbb, 0xbc, 0x2018, 0x2020, 0x2039, 0x203b, 0x2e42, 0x2e43,
    0x300c, 0x3010, 0x301d, 0x3020, 0xfe41, 0xfe45, 0xff02, 0xff03, 0xff07, 0xff08, 0xff62, 0xff64]

/-- Punctuation that ends a unit of text. -/
def terminalPunctuation : CharClass where
  boundaries := [
    0x21, 0x22, 0x2c, 0x2d, 0x2e, 0x2f, 0x3a, 0x3c, 0x3f, 0x40, 0x37e, 0x37f, 0x387, 0x388, 0x589,
    0x58a, 0x5c3, 0x5c4, 0x60c, 0x60d, 0x61b, 0x61c, 0x61d, 0x620, 0x6d4, 0x6d5, 0x700, 0x70b,
    0x70c, 0x70d, 0x7f8, 0x7fa, 0x830, 0x836, 0x837, 0x83f, 0x85e, 0x85f, 0x964, 0x966, 0xe5a,
    0xe5c, 0xf08, 0xf09, 0xf0d, 0xf13, 0x104a, 0x104c, 0x1361, 0x1369, 0x166e, 0x166f, 0x16eb,
    0x16ee, 0x1735, 0x1737, 0x17d4, 0x17d7, 0x17da, 0x17db, 0x1802, 0x1806, 0x1808, 0x180a, 0x1944,
    0x1946, 0x1aa8, 0x1aac, 0x1b4e, 0x1b50, 0x1b5a, 0x1b5c, 0x1b5d, 0x1b60, 0x1b7d, 0x1b80, 0x1c3b,
    0x1c40, 0x1c7e, 0x1c80, 0x2024, 0x2025, 0x203c, 0x203e, 0x2047, 0x204a, 0x2cf9, 0x2cfc, 0x2e2e,
    0x2e2f, 0x2e3c, 0x2e3d, 0x2e41, 0x2e42, 0x2e4c, 0x2e4d, 0x2e4e, 0x2e50, 0x2e53, 0x2e55, 0x3001,
    0x3003, 0xa4fe, 0xa500, 0xa60d, 0xa610, 0xa6f3, 0xa6f8, 0xa876, 0xa878, 0xa8ce, 0xa8d0, 0xa92f,
    0xa930, 0xa9c7, 0xa9ca, 0xaa5d, 0xaa60, 0xaadf, 0xaae0, 0xaaf0, 0xaaf2, 0xabeb, 0xabec, 0xfe12,
    0xfe13, 0xfe15, 0xfe17, 0xfe50, 0xfe53, 0xfe54, 0xfe58, 0xff01, 0xff02, 0xff0c, 0xff0d, 0xff0e,
    0xff0f, 0xff1a, 0xff1c, 0xff1f, 0xff20, 0xff61, 0xff62, 0xff64, 0xff65, 0x1039f, 0x103a0,
    0x103d0, 0x103d1, 0x10857, 0x10858, 0x1091f, 0x10920, 0x10a56, 0x10a58, 0x10af0, 0x10af6,
    0x10b3a, 0x10b40, 0x10b99, 0x10b9d, 0x10f55, 0x10f5a, 0x10f86, 0x10f8a, 0x11047, 0x1104e,
    0x110be, 0x110c2, 0x11141, 0x11144, 0x111c5, 0x111c7, 0x111cd, 0x111ce, 0x111de, 0x111e0,
    0x11238, 0x1123d, 0x112a9, 0x112aa, 0x113d4, 0x113d6, 0x1144b, 0x1144e, 0x1145a, 0x1145c,
    0x115c2, 0x115c6, 0x115c9, 0x115d8, 0x11641, 0x11643, 0x1173c, 0x1173f, 0x11944, 0x11945,
    0x11946, 0x11947, 0x11a42, 0x11a44, 0x11a9b, 0x11a9d, 0x11aa1, 0x11aa3, 0x11c41, 0x11c44,
    0x11c71, 0x11c72, 0x11ef7, 0x11ef9, 0x11f43, 0x11f45, 0x12470, 0x12475, 0x16a6e, 0x16a70,
    0x16af5, 0x16af6, 0x16b37, 0x16b3a, 0x16b44, 0x16b45, 0x16d6e, 0x16d70, 0x16e97, 0x16e99,
    0x1bc9f, 0x1bca0, 0x1da87, 0x1da8b]

/-- Punctuation that ends a sentence. -/
def sentenceTerminal : CharClass where
  boundaries := [
    0x21, 0x22, 0x2e, 0x2f, 0x3f, 0x40, 0x589, 0x58a, 0x61d, 0x620, 0x6d4, 0x6d5, 0x700, 0x703,
    0x7f9, 0x7fa, 0x837, 0x838, 0x839, 0x83a, 0x83d, 0x83f, 0x964, 0x966, 0x104a, 0x104c, 0x1362,
    0x1363, 0x1367, 0x1369, 0x166e, 0x166f, 0x1735, 0x1737, 0x17d4, 0x17d6, 0x1803, 0x1804, 0x1809,
    0x180a, 0x1944, 0x1946, 0x1aa8, 0x1aac, 0x1b4e, 0x1b50, 0x1b5a, 0x1b5c, 0x1b5e, 0x1b60, 0x1b7d,
    0x1b80, 0x1c3b, 0x1c3d, 0x1c7e, 0x1c80, 0x2024, 0x2025, 0x203c, 0x203e, 0x2047, 0x204a, 0x2cf9,
    0x2cfc, 0x2e2e, 0x2e2f, 0x2e3c, 0x2e3d, 0x2e53, 0x2e55, 0x3002, 0x3003, 0xa4ff, 0xa500, 0xa60e,
    0xa610, 0xa6f3, 0xa6f4, 0xa6f7, 0xa6f8, 0xa876, 0xa878, 0xa8ce, 0xa8d0, 0xa92f, 0xa930, 0xa9c8,
    0xa9ca, 0xaa5d, 0xaa60, 0xaaf0, 0xaaf2, 0xabeb, 0xabec, 0xfe12, 0xfe13, 0xfe15, 0xfe17, 0xfe52,
    0xfe53, 0xfe56, 0xfe58, 0xff01, 0xff02, 0xff0e, 0xff0f, 0xff1f, 0xff20, 0xff61, 0xff62, 0x10a56,
    0x10a58, 0x10f55, 0x10f5a, 0x10f86, 0x10f8a, 0x11047, 0x11049, 0x110be, 0x110c2, 0x11141,
    0x11144, 0x111c5, 0x111c7, 0x111cd, 0x111ce, 0x111de, 0x111e0, 0x11238, 0x1123a, 0x1123b,
    0x1123d, 0x112a9, 0x112aa, 0x113d4, 0x113d6, 0x1144b, 0x1144d, 0x115c2, 0x115c4, 0x115c9,
    0x115d8, 0x11641, 0x11643, 0x1173c, 0x1173f, 0x11944, 0x11945, 0x11946, 0x11947, 0x11a42,
    0x11a44, 0x11a9b, 0x11a9d, 0x11c41, 0x11c43, 0x11ef7, 0x11ef9, 0x11f43, 0x11f45, 0x16a6e,
    0x16a70, 0x16af5, 0x16af6, 0x16b37, 0x16b39, 0x16b44, 0x16b45, 0x16d6e, 0x16d70, 0x16e98,
    0x16e99, 0x1bc9f, 0x1bca0, 0x1da88, 0x1da89]

end ModelLang.Text.CharClass
