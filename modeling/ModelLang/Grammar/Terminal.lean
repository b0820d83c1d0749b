import ModelLang.Token

/-!
# ModelLang.Grammar.Terminal

What a grammar asks of a single token: to be of a class, or to be one certain word or mark.
-/

namespace ModelLang

inductive Terminal where
  | name
  | numeral
  | string
  | word (text : String)
  | mark (text : String)
deriving DecidableEq

namespace Terminal

def fits : Terminal → Lexeme → Bool
  | name, .name _ => true
  | numeral, .numeral _ => true
  | string, .string _ => true
  | word s, .word t => s = t
  | mark s, .mark t => s = t
  | _, _ => false

/-- The terminal in a list of what was expected. -/
def shown : Terminal → String
  | name => "name"
  | numeral => "number"
  | string => "string"
  | word s | mark s => "'" ++ s ++ "'"

end Terminal

end ModelLang
