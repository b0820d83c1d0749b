import ModelLang.Command
import ModelLang.Number.SplitMix
import ModelLang.Text.Pattern.Parser

/-!
# ModelLang.Standard

The libraries that the program runs with. What is proved about programs holds for all others, too.
-/

namespace ModelLang.Libraries

def standard : Libraries where
  generator := SplitMix.generator
  patterns text := (Text.Pattern.ofText? text).map Text.Pattern.occursIn

end ModelLang.Libraries
