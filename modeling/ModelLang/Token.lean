import ModelLang.Location

/-!
# ModelLang.Token

The words of the language: names, numerals, strings, reserved words and punctuation marks, and
the mark of the end of the input.
-/

namespace ModelLang

inductive Lexeme where
  | name (text : String)
  | numeral (text : String)
  | string (content : String)
  | word (text : String)
  | mark (text : String)
  | endOfInput
deriving DecidableEq, Inhabited

/-- The lexeme as a message shows it. -/
def Lexeme.shown : Lexeme → String
  | .name s | .numeral s | .word s | .mark s => "'" ++ s ++ "'"
  | .string s => "\"" ++ s ++ "\""
  | .endOfInput => "end of input"

structure Token where
  lexeme : Lexeme
  span : Span
deriving DecidableEq, Inhabited

namespace Token

/-- Whether the token ends the input. -/
def isEnd (t : Token) : Bool :=
  t.lexeme = .endOfInput

/-- Names that are reserved. -/
def reserved : List String := [
  "and", "argmax", "argmin", "as", "abs", "acos", "asin", "atan", "binary", "by", "card", "ceil",
  "check", "checkonly", "comment", "cos", "cross", "default", "defbool", "defnumb", "defset",
  "defstrg", "div", "do", "else", "end", "exists", "exp", "floor", "forall", "if", "implicit",
  "in", "indexset", "indicator", "infinity", "integer", "inter", "length", "ln", "log", "match",
  "max", "maximize", "min", "minimize", "mod", "not", "or", "ord", "param", "powerset", "print",
  "priority", "prod", "proj", "random", "read", "real", "round", "scale", "separate", "set",
  "sgn", "sin", "skip", "sos", "sqrt", "startval", "subsets", "substr", "subto", "sum",
  "symdiff", "tan", "then", "to", "type1", "type2", "union", "until", "use", "vabs", "var",
  "vif", "with", "without", "xor"]

/-- Punctuation marks, each before those that it starts with. -/
def marks : List String := [
  ":=", "..", "==", "!=", "<>", "<=", ">=", "**", "(", ")", "[", "]", "\x7b", "\x7d", ":", ",",
  ";", "+", "-", "*", "/", "^", "!", "|", "<", ">"]

end Token

end ModelLang
