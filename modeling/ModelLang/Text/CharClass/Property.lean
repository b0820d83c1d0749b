import ModelLang.Text.CharClass.Age
import ModelLang.Text.CharClass.Identifier
import ModelLang.Text.CharClass.Script
import ModelLang.Text.CharClass.SentenceBreak

/-!
# ModelLang.Text.CharClass.Property

Properties of characters by name. A property that characters have or lack is a class of its own;
one with several values gives a class for each of them.
-/

namespace ModelLang.Text.CharClass

/-- The properties that characters have or lack. -/
def properties : List Named := [
  ⟨["Alphabetic", "Alpha"], alphabetic⟩,
  ⟨["ASCII_Hex_Digit", "AHex"], asciiHexDigit⟩,
  ⟨["Bidi_Control", "Bidi_C"], bidiControl⟩,
  ⟨["Bidi_Mirrored", "Bidi_M"], bidiMirrored⟩,
  ⟨["Case_Ignorable", "CI"], caseIgnorable⟩,
  ⟨["Cased"], cased⟩,
  ⟨["Changes_When_Casefolded", "CWCF"], changesWhenCasefolded⟩,
  ⟨["Changes_When_Casemapped", "CWCM"], changesWhenCasemapped⟩,
  ⟨["Changes_When_Lowercased", "CWL"], changesWhenLowercased⟩,
  ⟨["Changes_When_Titlecased", "CWT"], changesWhenTitlecased⟩,
  ⟨["Changes_When_Uppercased", "CWU"], changesWhenUppercased⟩,
  ⟨["Dash"], dash⟩,
  ⟨["Default_Ignorable_Code_Point", "DI"], defaultIgnorable⟩,
  ⟨["Deprecated", "Dep"], deprecated⟩,
  ⟨["Diacritic", "Dia"], diacritic⟩,
  ⟨["Emoji"], emoji⟩,
  ⟨["Emoji_Component", "EComp"], emojiComponent⟩,
  ⟨["Emoji_Modifier", "EMod"], emojiModifier⟩,
  ⟨["Emoji_Modifier_Base", "EBase"], emojiModifierBase⟩,
  ⟨["Emoji_Presentation", "EPres"], emojiPresentation⟩,
  ⟨["Extended_Pictographic", "ExtPict"], pictographic⟩,
  ⟨["Extender", "Ext"], extender⟩,
  ⟨["Grapheme_Base", "Gr_Base"], graphemeBase⟩,
  ⟨["Grapheme_Extend", "Gr_Ext"], graphemeExtend⟩,
  ⟨["Grapheme_Link", "Gr_Link"], virama⟩,
  ⟨["Hex_Digit", "Hex"], hexDigit⟩,
  ⟨["Hyphen"], hyphen⟩,
  ⟨["ID_Compat_Math_Continue"], mathIdContinue⟩,
  ⟨["ID_Compat_Math_Start"], mathIdStart⟩,
  ⟨["ID_Continue", "IDC"], idContinue⟩,
  ⟨["ID_Start", "IDS"], idStart⟩,
  ⟨["Ideographic", "Ideo"], ideographic⟩,
  ⟨["IDS_Binary_Operator", "IDSB"], binaryDescription⟩,
  ⟨["IDS_Trinary_Operator", "IDST"], trinaryDescription⟩,
  ⟨["IDS_Unary_Operator", "IDSU"], unaryDescription⟩,
  ⟨["Join_Control", "Join_C"], joinControl⟩,
  ⟨["Logical_Order_Exception", "LOE"], logicalOrderException⟩,
  ⟨["Lowercase", "Lower"], lowercase⟩,
  ⟨["Math"], math⟩,
  ⟨["Modifier_Combining_Mark", "MCM"], modifierCombiningMark⟩,
  ⟨["Noncharacter_Code_Point", "NChar"], noncharacter⟩,
  ⟨["Other_Alphabetic", "OAlpha"], otherAlphabetic⟩,
  ⟨["Other_Default_Ignorable_Code_Point", "ODI"], otherDefaultIgnorable⟩,
  ⟨["Other_Grapheme_Extend", "OGr_Ext"], otherGraphemeExtend⟩,
  ⟨["Other_ID_Continue", "OIDC"], otherIdContinue⟩,
  ⟨["Other_ID_Start", "OIDS"], otherIdStart⟩,
  ⟨["Other_Lowercase", "OLower"], otherLowercase⟩,
  ⟨["Other_Math", "OMath"], otherMath⟩,
  ⟨["Other_Uppercase", "OUpper"], otherUppercase⟩,
  ⟨["Pattern_Syntax", "Pat_Syn"], patternSyntax⟩,
  ⟨["Pattern_White_Space", "Pat_WS"], patternBlank⟩,
  ⟨["Prepended_Concatenation_Mark", "PCM"], prependedMark⟩,
  ⟨["Quotation_Mark", "QMark"], quotationMark⟩,
  ⟨["Radical"], radical⟩,
  ⟨["Regional_Indicator", "RI"], regionalIndicator⟩,
  ⟨["Sentence_Terminal", "STerm"], sentenceTerminal⟩,
  ⟨["Soft_Dotted", "SD"], softDotted⟩,
  ⟨["Terminal_Punctuation", "Term"], terminalPunctuation⟩,
  ⟨["Unified_Ideograph", "UIdeo"], unifiedIdeograph⟩,
  ⟨["Uppercase", "Upper"], uppercase⟩,
  ⟨["Variation_Selector", "VS"], variationSelector⟩,
  ⟨["White_Space", "WSpace", "space"], blank⟩,
  ⟨["XID_Continue", "XIDC"], closedIdContinue⟩,
  ⟨["XID_Start", "XIDS"], closedIdStart⟩]

/-- The properties with several values. -/
def valued : List (List String × List Named) := [
  (["General_Category", "gc"], categories),
  (["Script", "sc"], scripts),
  (["Script_Extensions", "scx"], scriptExtensions),
  (["Age"], ages),
  (["Grapheme_Cluster_Break", "GCB"], graphemeBreaks),
  (["Word_Break", "WB"], wordBreaks),
  (["Sentence_Break", "SB"], sentenceBreaks)]

/-- The class that a single name stands for: a property, a category or a script, in this order. The
three names that a property shares with a category stand for the category. -/
def ofName? (name : List Char) : Option CharClass :=
  let name := loose name
  let ownProperty :=
    if name = ['c', 'f'] ∨ name = ['s', 'c'] ∨ name = ['l', 'c'] then none
    else Named.find? properties name
  (ownProperty.or (Named.find? categories name)).or (Named.find? scripts name)

/-- The class of the characters whose property has a value. -/
def ofValue? (property value : List Char) : Option CharClass :=
  match valued.find? fun entry => entry.1.any fun n => loose n.toList = loose property with
  | some (_, values) => Named.find? values (loose value)
  | none => none

end ModelLang.Text.CharClass
