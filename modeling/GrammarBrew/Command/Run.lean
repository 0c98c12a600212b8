import GrammarBrew.Command.Arguments
import GrammarBrew.Command.Filter
import GrammarBrew.Config.Layers
import GrammarBrew.MacroTable.Json
import GrammarBrew.Recipe.Basic

/-!
Following a command line: make the configuration, then brew the source or list its macros. Whatever
fails is told as an event, and nothing is printed then.
-/

set_option autoImplicit false
set_option relaxedAutoImplicit false

namespace GrammarBrew

variable {m : Type → Type} [Monad m] [FileAccess m] [Console m]

namespace Invocation

/-- The layers of the configuration that a command line asks for. -/
def layers (invocation : Invocation) : Except ConfigError Layers :=
  match invocation.task with
  | .brew task => do
    let layers ← (Layers.forProject invocation.config?).withMatching task.matching?
    layers.withOutput task.output?
  | .macros _ => .ok (Layers.forProject invocation.config?)

def configure (invocation : Invocation) : ExceptT Text m Config := do
  let explain (error : ConfigError) : Text := "Configuration error: ".toList ++ error.message
  match invocation.layers with
  | .error error => throw (explain error)
  | .ok layers =>
    match ← (layers.load : ExceptT Text m _) with
    | .error error => throw (explain error)
    | .ok config => return config

def recipe (invocation : Invocation) (config : Config) : Recipe where
  options := config.options
  source := match invocation.source? with
    | some path => .fixed path
    | none => config.latestSource
  output := config.output

end Invocation

def orMessage {α : Type} (step : ExceptT RecipeError m α) : ExceptT Text m α :=
  ExceptT.adapt RecipeError.message step

namespace BrewTask

def perform (task : BrewTask) (recipe : Recipe) : ExceptT Text m Unit := do
  if task.toStdout then Console.print (← orMessage recipe.render)
  else
    match ← orMessage (recipe.cook task.force) with
    | .brewed source output macros passes =>
      Console.note (.brewedInto source output macros passes)
    | .upToDate source output => Console.note (.nothingToDo source output)

end BrewTask

def macroLine (entry : Text × Text) : Text := entry.1 ++ " = ".toList ++ entry.2 ++ ['\n']

def listMacros (format : ListFormat) (recipe : Recipe) : ExceptT Text m Unit := do
  let (source, text) ← orMessage recipe.readSource
  match recipe.options.tableOf text with
  | .error error => throw (RecipeError.brew source error).message
  | .ok table =>
    match format with
    | .json => Console.print (table.prettyJson ++ ['\n'])
    | .text =>
      if table.isEmpty then Console.note (.noMacros source)
      Console.print (table.entries.flatMap macroLine)

namespace Invocation

/-- Do what a command line asks for; what stands in the way is the message of the failure. -/
def perform (invocation : Invocation) : ExceptT Text m Unit := do
  let config ← invocation.configure
  let recipe := invocation.recipe config
  match invocation.task with
  | .brew task => task.perform recipe
  | .macros format => listMacros format recipe

/-- Follow a command line, and tell whether it could be followed. -/
def run (invocation : Invocation) : m Bool := do
  match ← invocation.perform.run with
  | .ok () =>
    Console.note (.completed (← Console.elapsed))
    return true
  | .error message =>
    Console.note (.failed message)
    return false

/-- Which events of a run are shown, given the text that asks for it elsewhere, if any. -/
def filter (invocation : Invocation) (text? : Option Text) : Filter :=
  Filter.choose text? invocation.verbose invocation.quiet

end Invocation

def versionLine : Text := "chef 0.1.0\n".toList

def usage : Text :=
  ("Usage: chef [-c FILE] [-v | -q]... brew [SOURCE] [-o FILE] [-m MODE] [-f] [--stdout]\n" ++
    "       chef [-c FILE] [-v | -q]... macros [SOURCE] [-F FORMAT]\n").toList

def failureStatus : Nat := 1

def misuseStatus : Nat := 2

namespace Request

/-- Follow what arguments ask for, and give the exit status. How a misuse is told is left to the
caller. -/
def follow : Request → m Nat
  | run invocation => do
    if ← invocation.run then return 0 else return failureStatus
  | help => do
    Console.print usage
    return 0
  | version => do
    Console.print versionLine
    return 0
  | misuse => return misuseStatus

/-- Which events are shown, given the text that asks for it elsewhere, if any. -/
def filter (request : Request) (text? : Option Text) : Filter :=
  match request with
  | run invocation => invocation.filter text?
  | _ => Filter.choose text? 0 0

end Request

end GrammarBrew
