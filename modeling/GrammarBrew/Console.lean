import GrammarBrew.Expander
import GrammarBrew.Files.Path

/-!
What a run tells its user: printed text, and events of graded importance with one line of text each.
A line gives the message first and then the event's details as `key=value`.
-/

set_option autoImplicit false
set_option relaxedAutoImplicit false

namespace GrammarBrew

/-- How important an event is, the most important first. -/
inductive Level where
  | error
  | warn
  | info
  | debug
  | trace
  deriving DecidableEq, Repr

namespace Level

def label : Level → Text
  | error => "ERROR".toList
  | warn => "WARN".toList
  | info => "INFO".toList
  | debug => "DEBUG".toList
  | trace => "TRACE".toList

def rank : Level → Nat
  | error => 1
  | warn => 2
  | info => 3
  | debug => 4
  | trace => 5

end Level

inductive Event where
  | scanned (directory : Path) (candidates : Nat)
  | selected (source output : Path)
  | substituted (pass : Nat) (substitution : Substitution)
  | upToDate
  | brewed (macros passes : Nat)
  | brewedInto (source output : Path) (macros passes : Nat)
  | nothingToDo (source output : Path)
  | noMacros (source : Path)
  | completed (elapsed : Text)
  | failed (message : Text)
  deriving DecidableEq, Repr

namespace Event

def level : Event → Level
  | scanned _ _ => .debug
  | selected _ _ => .debug
  | substituted _ _ => .trace
  | upToDate => .info
  | brewed _ _ => .info
  | brewedInto _ _ _ _ => .debug
  | nothingToDo _ _ => .debug
  | noMacros _ => .warn
  | completed _ => .info
  | failed _ => .error

/-- The part of the program that an event comes from, as a filter names it. -/
def origin : Event → Text
  | scanned _ _ => "chef_brewer::recipe".toList
  | selected _ _ => "chef_brewer::recipe".toList
  | substituted _ _ => "chef_brewer::expansion".toList
  | upToDate => "chef_brewer::recipe".toList
  | brewed _ _ => "chef_brewer::recipe".toList
  | brewedInto _ _ _ _ => "chef::commands".toList
  | nothingToDo _ _ => "chef::commands".toList
  | noMacros _ => "chef::commands".toList
  | completed _ => "chef".toList
  | failed _ => "chef".toList

/-- A message in which a terminal finds nothing to obey: its control characters are spelled out. -/
def harmless (message : Text) : Text :=
  message.flatMap fun c =>
    if c = '\x1b' then "\\x1b".toList
    else if c = '\x07' then "\\x07".toList
    else if c = '\x08' then "\\x08".toList
    else if c = '\x0c' then "\\x0c".toList
    else if c = '\x7f' then "\\x7f".toList
    else if 0x80 ≤ c.toNat ∧ c.toNat ≤ 0x9f then
      ['\\', 'u', '\x7b'] ++ Nat.toDigits 16 c.toNat ++ ['\x7d']
    else [c]

def detail (key : String) (value : Text) : Text := ' ' :: key.toList ++ '=' :: value

def message : Event → Text
  | scanned directory candidates =>
    "scanned grammar directory".toList ++ detail "dir" directory.display
      ++ detail "candidates" (Text.ofNat candidates)
  | selected source output =>
    "selected grammar".toList ++ detail "source" source.display ++ detail "output" output.display
  | substituted pass substitution =>
    "substituted macro".toList ++ detail "pass" (Text.ofNat pass)
      ++ detail "name" substitution.name ++ detail "matches" (Text.ofNat substitution.count)
  | upToDate => "The brewed grammar is up-to-date.".toList
  | brewed macros passes =>
    "Grammar file brewed.".toList ++ detail "macros" (Text.ofNat macros)
      ++ detail "passes" (Text.ofNat passes)
  | brewedInto source output macros passes =>
    harmless ("Brewed ".toList ++ source.display ++ " into ".toList ++ output.display ++ " (".toList
      ++ Text.ofNat macros ++ " macros, ".toList ++ Text.ofNat passes ++ " passes).".toList)
  | nothingToDo source output =>
    harmless (output.display ++ " is newer than ".toList ++ source.display
      ++ ", nothing to do.".toList)
  | noMacros source => harmless (source.display ++ " declares no macros.".toList)
  | completed elapsed => "Completed in ".toList ++ elapsed ++ ".".toList
  | failed text => harmless text

def line (event : Event) : Text := event.level.label ++ ' ' :: event.message

end Event

class Console (m : Type → Type) where
  print : Text → m Unit
  note : Event → m Unit
  elapsed : m Text

/-- Where errors may end a run, what was told before stays told. -/
instance {ε : Type} {m : Type → Type} [Monad m] [Console m] : Console (ExceptT ε m) where
  print text := ExceptT.lift (Console.print text)
  note event := ExceptT.lift (Console.note event)
  elapsed := ExceptT.lift Console.elapsed

end GrammarBrew
