import ModelLang.Text.CharClass

/-!
# ModelLang.Text.CharClass.Format

Characters that only direct how others are shown, and code points that are set aside (version 16.0).
-/

namespace ModelLang.Text.CharClass

def joinControl : CharClass where
  boundaries := [0x200c, 0x200e]

def bidiControl : CharClass where
  boundaries := [0x61c, 0x61d, 0x200e, 0x2010, 0x202a, 0x202f, 0x2066, 0x206a]

/-- Characters that are mirrored in text from right to left. -/
def bidiMirrored : CharClass where
  boundaries := [
    0x28, 0x2a, 0x3c, 0x3d, 0x3e, 0x3f, 0x5b, 0x5c, 0x5d, 0x5e, 0x7b, 0x7c, 0x7d, 0x7e, 0xab, 0xac,
    0xbb, 0xbc, 0xf3a, 0xf3e, 0x169b, 0x169d, 0x2039, 0x203b, 0x2045, 0x2047, 0x207d, 0x207f,
    0x208d, 0x208f, 0x2140, 0x2141, 0x2201, 0x2205, 0x2208, 0x220e, 0x2211, 0x2212, 0x2215, 0x2217,
    0x221a, 0x221e, 0x221f, 0x2223, 0x2224, 0x2225, 0x2226, 0x2227, 0x222b, 0x2234, 0x2239, 0x223a,
    0x223b, 0x224d, 0x2252, 0x2256, 0x225f, 0x2261, 0x2262, 0x2263, 0x2264, 0x226c, 0x226d, 0x228d,
    0x228f, 0x2293, 0x2298, 0x2299, 0x22a2, 0x22a4, 0x22a6, 0x22b9, 0x22be, 0x22c0, 0x22c9, 0x22ce,
    0x22d0, 0x22d2, 0x22d6, 0x22ee, 0x22f0, 0x2300, 0x2308, 0x230c, 0x2320, 0x2322, 0x2329, 0x232b,
    0x2768, 0x2776, 0x27c0, 0x27c1, 0x27c3, 0x27c7, 0x27c8, 0x27ca, 0x27cb, 0x27ce, 0x27d3, 0x27d7,
    0x27dc, 0x27df, 0x27e2, 0x27f0, 0x2983, 0x2999, 0x299b, 0x29a1, 0x29a2, 0x29b0, 0x29b8, 0x29b9,
    0x29c0, 0x29c6, 0x29c9, 0x29ca, 0x29ce, 0x29d3, 0x29d4, 0x29d6, 0x29d8, 0x29dd, 0x29e1, 0x29e2,
    0x29e3, 0x29e6, 0x29e8, 0x29ea, 0x29f4, 0x29fa, 0x29fc, 0x29fe, 0x2a0a, 0x2a1d, 0x2a1e, 0x2a22,
    0x2a24, 0x2a25, 0x2a26, 0x2a27, 0x2a29, 0x2a2a, 0x2a2b, 0x2a2f, 0x2a34, 0x2a36, 0x2a3c, 0x2a3f,
    0x2a57, 0x2a59, 0x2a64, 0x2a66, 0x2a6a, 0x2a6e, 0x2a6f, 0x2a71, 0x2a73, 0x2a75, 0x2a79, 0x2aa4,
    0x2aa6, 0x2aae, 0x2aaf, 0x2ad7, 0x2adc, 0x2add, 0x2ade, 0x2adf, 0x2ae2, 0x2ae7, 0x2aec, 0x2aef,
    0x2af3, 0x2af4, 0x2af7, 0x2afc, 0x2afd, 0x2afe, 0x2bfe, 0x2bff, 0x2e02, 0x2e06, 0x2e09, 0x2e0b,
    0x2e0c, 0x2e0e, 0x2e1c, 0x2e1e, 0x2e20, 0x2e2a, 0x2e55, 0x2e5d, 0x3008, 0x3012, 0x3014, 0x301c,
    0xfe59, 0xfe5f, 0xfe64, 0xfe66, 0xff08, 0xff0a, 0xff1c, 0xff1d, 0xff1e, 0xff1f, 0xff3b, 0xff3c,
    0xff3d, 0xff3e, 0xff5b, 0xff5c, 0xff5d, 0xff5e, 0xff5f, 0xff61, 0xff62, 0xff64, 0x1d6db,
    0x1d6dc, 0x1d715, 0x1d716, 0x1d74f, 0x1d750, 0x1d789, 0x1d78a, 0x1d7c3, 0x1d7c4]

/-- Format characters that stand before the numbers which they mark. -/
def prependedMark : CharClass where
  boundaries := [
    0x600, 0x606, 0x6dd, 0x6de, 0x70f, 0x710, 0x890, 0x892, 0x8e2, 0x8e3, 0x110bd, 0x110be, 0x110cd,
    0x110ce]

def variationSelector : CharClass where
  boundaries := [0x180b, 0x180e, 0x180f, 0x1810, 0xfe00, 0xfe10, 0xe0100, 0xe01f0]

def noncharacter : CharClass where
  boundaries := [
    0xfdd0, 0xfdf0, 0xfffe, 0x10000, 0x1fffe, 0x20000, 0x2fffe, 0x30000, 0x3fffe, 0x40000, 0x4fffe,
    0x50000, 0x5fffe, 0x60000, 0x6fffe, 0x70000, 0x7fffe, 0x80000, 0x8fffe, 0x90000, 0x9fffe,
    0xa0000, 0xafffe, 0xb0000, 0xbfffe, 0xc0000, 0xcfffe, 0xd0000, 0xdfffe, 0xe0000, 0xefffe,
    0xf0000, 0xffffe, 0x100000, 0x10fffe, 0x110000]

def deprecated : CharClass where
  boundaries := [
    0x149, 0x14a, 0x673, 0x674, 0xf77, 0xf78, 0xf79, 0xf7a, 0x17a3, 0x17a5, 0x206a, 0x2070, 0x2329,
    0x232b, 0xe0001, 0xe0002]

/-- Code points that are not shown where they are not supported. -/
def defaultIgnorable : CharClass where
  boundaries := [
    0xad, 0xae, 0x34f, 0x350, 0x61c, 0x61d, 0x115f, 0x1161, 0x17b4, 0x17b6, 0x180b, 0x1810, 0x200b,
    0x2010, 0x202a, 0x202f, 0x2060, 0x2070, 0x3164, 0x3165, 0xfe00, 0xfe10, 0xfeff, 0xff00, 0xffa0,
    0xffa1, 0xfff0, 0xfff9, 0x1bca0, 0x1bca4, 0x1d173, 0x1d17b, 0xe0000, 0xe1000]

/-- Those of the default ignorable code points that no other property implies. -/
def otherDefaultIgnorable : CharClass where
  boundaries := [
    0x34f, 0x350, 0x115f, 0x1161, 0x17b4, 0x17b6, 0x2065, 0x2066, 0x3164, 0x3165, 0xffa0, 0xffa1,
    0xfff0, 0xfff9, 0xe0000, 0xe0001, 0xe0002, 0xe0020, 0xe0080, 0xe0100, 0xe01f0, 0xe1000]

/-- Vowels that are written before the consonant after which they are spoken. -/
def logicalOrderException : CharClass where
  boundaries := [
    0xe40, 0xe45, 0xec0, 0xec5, 0x19b5, 0x19b8, 0x19ba, 0x19bb, 0xaab5, 0xaab7, 0xaab9, 0xaaba,
    0xaabb, 0xaabd]

def regionalIndicator : CharClass where
  boundaries := [0x1f1e6, 0x1f200]

end ModelLang.Text.CharClass
