import ModelLang.Text.CharClass

/-!
# ModelLang.Text.CharClass.Ideograph

Ideographs and how they are described (version 16.0).
-/

namespace ModelLang.Text.CharClass

def ideographic : CharClass where
  boundaries := [
    0x3006, 0x3008, 0x3021, 0x302a, 0x3038, 0x303b, 0x3400, 0x4dc0, 0x4e00, 0xa000, 0xf900, 0xfa6e,
    0xfa70, 0xfada, 0x16fe4, 0x16fe5, 0x17000, 0x187f8, 0x18800, 0x18cd6, 0x18cff, 0x18d09, 0x1b170,
    0x1b2fc, 0x20000, 0x2a6e0, 0x2a700, 0x2b73a, 0x2b740, 0x2b81e, 0x2b820, 0x2cea2, 0x2ceb0,
    0x2ebe1, 0x2ebf0, 0x2ee5e, 0x2f800, 0x2fa1e, 0x30000, 0x3134b, 0x31350, 0x323b0]

def unifiedIdeograph : CharClass where
  boundaries := [
    0x3400, 0x4dc0, 0x4e00, 0xa000, 0xfa0e, 0xfa10, 0xfa11, 0xfa12, 0xfa13, 0xfa15, 0xfa1f, 0xfa20,
    0xfa21, 0xfa22, 0xfa23, 0xfa25, 0xfa27, 0xfa2a, 0x20000, 0x2a6e0, 0x2a700, 0x2b73a, 0x2b740,
    0x2b81e, 0x2b820, 0x2cea2, 0x2ceb0, 0x2ebe1, 0x2ebf0, 0x2ee5e, 0x30000, 0x3134b, 0x31350,
    0x323b0]

/-- Parts of ideographs. -/
def radical : CharClass where
  boundaries := [0x2e80, 0x2e9a, 0x2e9b, 0x2ef4, 0x2f00, 0x2fd6]

/-- Operators that describe an ideograph by one other. -/
def unaryDescription : CharClass where
  boundaries := [0x2ffe, 0x3000]

def binaryDescription : CharClass where
  boundaries := [0x2ff0, 0x2ff2, 0x2ff4, 0x2ffe, 0x31ef, 0x31f0]

def trinaryDescription : CharClass where
  boundaries := [0x2ff2, 0x2ff4]

end ModelLang.Text.CharClass
