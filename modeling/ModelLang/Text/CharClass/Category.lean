import ModelLang.Text.CharClass.Control
import ModelLang.Text.CharClass.Digit
import ModelLang.Text.CharClass.Letter
import ModelLang.Text.CharClass.Mark
import ModelLang.Text.CharClass.Named
import ModelLang.Text.CharClass.Number
import ModelLang.Text.CharClass.Punctuation
import ModelLang.Text.CharClass.Symbol

/-!
# ModelLang.Text.CharClass.Category

The general categories: every code point has one of them, and groups of them have names too.
-/

namespace ModelLang.Text.CharClass

def casedLetter : CharClass := unionAll [uppercaseLetter, lowercaseLetter, titlecaseLetter]

def letter : CharClass := unionAll [casedLetter, modifierLetter, otherLetter]

def combiningMark : CharClass := unionAll [nonspacingMark, spacingMark, enclosingMark]

def number : CharClass := unionAll [digit, letterNumber, otherNumber]

def punctuation : CharClass :=
  unionAll [connectorPunctuation, dashPunctuation, openPunctuation, closePunctuation,
    initialPunctuation, finalPunctuation, otherPunctuation]

def symbol : CharClass := unionAll [mathSymbol, currencySymbol, modifierSymbol, otherSymbol]

def separator : CharClass := unionAll [spaceSeparator, lineSeparator, paragraphSeparator]

/-- Code points that have no character yet, or never will. -/
def unassigned : CharClass :=
  (unionAll [letter, combiningMark, number, punctuation, symbol, separator, control, format,
    privateUse, surrogate]).compl

def assigned : CharClass := unassigned.compl

def anyChar : CharClass := empty.compl

def ascii : CharClass := range '\x00' '\x7f'

/-- The categories by name. -/
def categories : List Named := [
  ⟨["Any"], anyChar⟩,
  ⟨["Assigned"], assigned⟩,
  ⟨["ASCII"], ascii⟩,
  ⟨["C", "Other"], unionAll [control, format, privateUse, unassigned]⟩,
  ⟨["Cc", "Control", "cntrl"], control⟩,
  ⟨["Cf", "Format"], format⟩,
  ⟨["Cn", "Unassigned"], unassigned⟩,
  ⟨["Co", "Private_Use"], privateUse⟩,
  ⟨["L", "Letter"], letter⟩,
  ⟨["LC", "Cased_Letter"], casedLetter⟩,
  ⟨["Ll", "Lowercase_Letter"], lowercaseLetter⟩,
  ⟨["Lm", "Modifier_Letter"], modifierLetter⟩,
  ⟨["Lo", "Other_Letter"], otherLetter⟩,
  ⟨["Lt", "Titlecase_Letter"], titlecaseLetter⟩,
  ⟨["Lu", "Uppercase_Letter"], uppercaseLetter⟩,
  ⟨["M", "Mark", "Combining_Mark"], combiningMark⟩,
  ⟨["Mc", "Spacing_Mark"], spacingMark⟩,
  ⟨["Me", "Enclosing_Mark"], enclosingMark⟩,
  ⟨["Mn", "Nonspacing_Mark"], nonspacingMark⟩,
  ⟨["N", "Number"], number⟩,
  ⟨["Nd", "Decimal_Number", "digit"], digit⟩,
  ⟨["Nl", "Letter_Number"], letterNumber⟩,
  ⟨["No", "Other_Number"], otherNumber⟩,
  ⟨["P", "Punctuation", "punct"], punctuation⟩,
  ⟨["Pc", "Connector_Punctuation"], connectorPunctuation⟩,
  ⟨["Pd", "Dash_Punctuation"], dashPunctuation⟩,
  ⟨["Pe", "Close_Punctuation"], closePunctuation⟩,
  ⟨["Pf", "Final_Punctuation"], finalPunctuation⟩,
  ⟨["Pi", "Initial_Punctuation"], initialPunctuation⟩,
  ⟨["Po", "Other_Punctuation"], otherPunctuation⟩,
  ⟨["Ps", "Open_Punctuation"], openPunctuation⟩,
  ⟨["S", "Symbol"], symbol⟩,
  ⟨["Sc", "Currency_Symbol"], currencySymbol⟩,
  ⟨["Sk", "Modifier_Symbol"], modifierSymbol⟩,
  ⟨["Sm", "Math_Symbol"], mathSymbol⟩,
  ⟨["So", "Other_Symbol"], otherSymbol⟩,
  ⟨["Z", "Separator"], separator⟩,
  ⟨["Zl", "Line_Separator"], lineSeparator⟩,
  ⟨["Zp", "Paragraph_Separator"], paragraphSeparator⟩,
  ⟨["Zs", "Space_Separator"], spaceSeparator⟩]

end ModelLang.Text.CharClass
