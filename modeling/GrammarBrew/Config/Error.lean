import GrammarBrew.Files.Fault
import GrammarBrew.Files.Path
import GrammarBrew.Toml.Reading

/-!
Why there is no configuration, and the message for each cause.
-/

set_option autoImplicit false
set_option relaxedAutoImplicit false

namespace GrammarBrew

/-- A cause for which no configuration can be made. -/
inductive ConfigError where
  | badKey (key : Text)
  | missingFile (path : Path)
  | unreadable (path : Path) (fault : FileFault)
  | badFile (path : Path) (fault : Toml.Fault)
  /-- A value that is neither the text nor the count that its key asks for. -/
  | wrongType (key : Text)
  /-- A key without a value, a value that is no table, or an unknown mode. -/
  | invalid (key : Text)
  deriving DecidableEq, Repr

namespace ConfigError

def message : ConfigError → Text
  | badKey key => "invalid configuration key \"".toList ++ key ++ ['"']
  | missingFile path =>
    "configuration file \"".toList ++ path.display ++ "\" not found".toList
  | unreadable path fault => path.display ++ ": ".toList ++ fault.message
  | badFile path fault => fault.message ++ " in ".toList ++ path.display
  | wrongType key => "invalid type of value for ".toList ++ key
  | invalid key => "invalid value for ".toList ++ key

end ConfigError

end GrammarBrew
