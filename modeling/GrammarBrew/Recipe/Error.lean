import GrammarBrew.BrewError
import GrammarBrew.Files.Fault
import GrammarBrew.Files.Path
import GrammarBrew.Pattern.Parser

/-!
Why a recipe cannot be followed, and the message for each cause.
-/

set_option autoImplicit false
set_option relaxedAutoImplicit false

namespace GrammarBrew

def Pattern.Fault.message : Pattern.Fault → Text
  | unfinished => "a group, class or escape is not finished".toList
  | unopenedGroup => "a closing parenthesis closes no group".toList
  | nothingToRepeat => "a repetition has nothing to repeat".toList
  | badCount => "a repetition count is not valid".toList
  | badEscape => "an escape is not known".toList
  | badRange => "a range of characters is not valid".toList
  | badFlag => "a flag is not valid".toList
  | badGroupName => "a group name is not valid".toList
  | lookAround => "conditions on the text around are not supported".toList
  | unknownProperty => "a property of characters is not known".toList
  | notText => "the pattern can match bytes that are no text".toList
  | tooDeep => "the pattern is nested too deep".toList
  | tooLarge => "the pattern is too large".toList

inductive RecipeError where
  | files (path : Path) (fault : FileFault)
  | noSource (directory : Path) (pattern : Text)
  | invalidPattern (fault : Pattern.Fault)
  | brew (path : Path) (error : BrewError)
  deriving DecidableEq, Repr

namespace RecipeError

def message : RecipeError → Text
  | files path fault =>
    "IO error on ".toList ++ path.display ++ ": ".toList ++ fault.message
  | noSource directory pattern =>
    "There is no grammar file matching `".toList ++ pattern ++ "` in ".toList ++ directory.display
  | invalidPattern fault => "Invalid source pattern: ".toList ++ fault.message
  | brew path error => path.display ++ ": ".toList ++ error.message

end RecipeError

end GrammarBrew
