import GrammarBrew.Brewer
import GrammarBrew.Config.Error
import GrammarBrew.Recipe.Basic
import GrammarBrew.Setting.Key

/-!
The configuration: how documents are brewed, where sources are found, and where the brewed grammar
goes. It is read off a table of settings with the two tables `brew` and `paths`; lists in their
place hold the values in order.
-/

set_option autoImplicit false
set_option relaxedAutoImplicit false

namespace GrammarBrew

structure Config where
  options : BrewOptions := {}
  grammarDirectory : Path := Path.ofText "grammar".toList
  sourcePattern : Text := "Caramel_v([0-9]+)\\.g4".toList
  output : Path := Path.ofText "grammar/Caramel.g4".toList
  deriving DecidableEq, Repr

namespace Config

def latestSource (config : Config) : SourceSelector :=
  .latest config.grammarDirectory config.sourcePattern

def toSetting (config : Config) : Setting :=
  .table [
    ("brew".toList, .table [
      ("separator".toList, .text config.options.separator),
      ("header".toList, .text config.options.header),
      ("matching".toList, .text config.options.matching.label),
      ("extra_iterations".toList, .integer config.options.extraIterations)]),
    ("paths".toList, .table [
      ("grammar_dir".toList, .text config.grammarDirectory.display),
      ("source_pattern".toList, .text config.sourcePattern),
      ("output".toList, .text config.output.display)])]

/-- The matching mode that a setting names, in letters of any case; a table names the mode of its
one entry. -/
def modeOf? : Setting → Option MatchMode
  | .text label => MatchMode.all.find? fun mode => mode.label == label.lower
  | .table [(label, _)] => MatchMode.all.find? fun mode => mode.label == label.lower
  | _ => none

/-- The value at a place of a list or under a name of a table. -/
def field (holder : Option Setting) (place : Nat) (name : String) : Except ConfigError Setting :=
  let value? := match holder with
    | some (.table entries) => entries.lookup name.toList
    | some (.list items) => items[place]?
    | _ => none
  match value? with
  | some value => .ok value
  | none => .error (.invalid name.toList)

def textField (holder : Option Setting) (place : Nat) (name : String) :
    Except ConfigError Text := do
  match (← field holder place name).asText? with
  | some text => return text
  | none => throw (.wrongType name.toList)

def countField (holder : Option Setting) (place : Nat) (name : String) :
    Except ConfigError Nat := do
  match (← field holder place name).asCount? with
  | some count => return count
  | none => throw (.wrongType name.toList)

def modeField (holder : Option Setting) (place : Nat) (name : String) :
    Except ConfigError MatchMode := do
  match modeOf? (← field holder place name) with
  | some mode => return mode
  | none => throw (.invalid name.toList)

def ofSetting (setting : Setting) : Except ConfigError Config := do
  let brew := setting.get? "brew".toList
  let separator ← textField brew 0 "separator"
  let header ← textField brew 1 "header"
  let matching ← modeField brew 2 "matching"
  let extraIterations ← countField brew 3 "extra_iterations"
  let paths := setting.get? "paths".toList
  let directory ← textField paths 0 "grammar_dir"
  let pattern ← textField paths 1 "source_pattern"
  let output ← textField paths 2 "output"
  return ⟨⟨separator, header, matching, extraIterations⟩, Path.ofText directory, pattern,
    Path.ofText output⟩

example : (ofSetting ({} : Config).toSetting).toOption = some {} := by decide +kernel

end Config

end GrammarBrew
