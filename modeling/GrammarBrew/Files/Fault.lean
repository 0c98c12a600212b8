import GrammarBrew.Text.Basic

/-!
Why a file operation fails, with the text shown for each cause.
-/

set_option autoImplicit false
set_option relaxedAutoImplicit false

namespace GrammarBrew

inductive FileFault where
  | notFound
  | notADirectory
  | isADirectory
  | alreadyExists
  | tooManyLinks
  | nameTooLong
  | holdsNul
  | notText
  | noDirectoryMade
  | other (text : Text)
  deriving DecidableEq, Repr

namespace FileFault

def numbered (what : String) (number : Nat) : Text :=
  what.toList ++ " (os error ".toList ++ Text.ofNat number ++ [')']

def message : FileFault → Text
  | notFound => numbered "No such file or directory" 2
  | notADirectory => numbered "Not a directory" 20
  | isADirectory => numbered "Is a directory" 21
  | alreadyExists => numbered "File exists" 17
  | tooManyLinks => numbered "Too many levels of symbolic links" 40
  | nameTooLong => numbered "File name too long" 36
  | holdsNul => "file name contained an unexpected NUL byte".toList
  | notText => "stream did not contain valid UTF-8".toList
  | noDirectoryMade => "failed to create whole tree".toList
  | other text => text

end FileFault

end GrammarBrew
