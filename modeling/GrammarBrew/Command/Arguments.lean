import GrammarBrew.Files.Path
import GrammarBrew.Matcher

/-!
The arguments of the command line. They name a task, `brew` or `macros`, with its options and at
most one source; options that concern any task may stand before it as well, and those after it win.
Short options without a value may stand together after one dash. After two dashes alone nothing is
an option.
-/

set_option autoImplicit false
set_option relaxedAutoImplicit false

namespace GrammarBrew

inductive ListFormat where
  | text
  | json
  deriving DecidableEq, Repr

structure BrewTask where
  /-- Where the brewed grammar goes, if not where the configuration says. -/
  output? : Option Path := none
  /-- How macro names are found, if not as the configuration says. -/
  matching? : Option Text := none
  force : Bool := false
  toStdout : Bool := false
  deriving DecidableEq, Repr

inductive Task where
  | brew (task : BrewTask)
  | macros (format : ListFormat)
  deriving DecidableEq, Repr

structure Invocation where
  task : Task
  source? : Option Path := none
  config? : Option Path := none
  verbose : Nat := 0
  quiet : Nat := 0
  deriving DecidableEq, Repr

inductive Request where
  | run (invocation : Invocation)
  | help
  | version
  | misuse
  deriving DecidableEq, Repr

inductive Interruption where
  | help
  | version
  | misuse
  deriving DecidableEq, Repr

def Interruption.request : Interruption → Request
  | help => .help
  | version => .version
  | misuse => .misuse

namespace Arguments

/-- Where options stand: before the task, or after it. -/
inductive Scope where
  | general
  | brew
  | macros
  deriving DecidableEq, Repr

inductive Flag where
  | config
  | verbose
  | quiet
  | help
  | version
  | output
  | force
  | stdout
  | matching
  | format
  deriving DecidableEq, Repr

namespace Flag

def all : List Flag :=
  [config, verbose, quiet, help, version, output, force, stdout, matching, format]

def long : Flag → Text
  | config => "config".toList
  | verbose => "verbose".toList
  | quiet => "quiet".toList
  | help => "help".toList
  | version => "version".toList
  | output => "output".toList
  | force => "force".toList
  | stdout => "stdout".toList
  | matching => "matching".toList
  | format => "format".toList

def short? : Flag → Option Char
  | config => some 'c'
  | verbose => some 'v'
  | quiet => some 'q'
  | help => some 'h'
  | version => some 'V'
  | output => some 'o'
  | force => some 'f'
  | stdout => none
  | matching => some 'm'
  | format => some 'F'

def takesValue : Flag → Bool
  | config | output | matching | format => true
  | _ => false

def knownIn : Scope → Flag → Bool
  | _, config | _, verbose | _, quiet | _, help => true
  | .general, version => true
  | .brew, output | .brew, force | .brew, stdout | .brew, matching => true
  | .macros, format => true
  | _, _ => false

def ofLong? (scope : Scope) (name : Text) : Option Flag :=
  all.find? fun flag => flag.knownIn scope && flag.long == name

def ofShort? (scope : Scope) (letter : Char) : Option Flag :=
  all.find? fun flag => flag.knownIn scope && flag.short? == some letter

end Flag

structure Given where
  config? : Option Text := none
  verbose : Nat := 0
  quiet : Nat := 0
  output? : Option Text := none
  force : Bool := false
  stdout : Bool := false
  matching? : Option Text := none
  format? : Option ListFormat := none
  source? : Option Text := none
  deriving DecidableEq, Repr

def once {α : Type} (old : Option α) (value : α) : Except Interruption (Option α) :=
  if old.isSome then .error .misuse else .ok (some value)

def formatOf? (label : Text) : Option ListFormat :=
  if label = "text".toList then some .text
  else if label = "json".toList then some .json
  else none

namespace Given

def setValue (given : Given) (flag : Flag) (value : Text) : Except Interruption Given := do
  match flag with
  | .config => return { given with config? := ← once given.config? value }
  | .output => return { given with output? := ← once given.output? value }
  | .matching =>
    if (MatchMode.ofLabel? value).isNone then throw .misuse
    return { given with matching? := ← once given.matching? value }
  | .format =>
    match formatOf? value with
    | some format => return { given with format? := ← once given.format? format }
    | none => throw .misuse
  | _ => throw .misuse

def set (given : Given) (flag : Flag) : Except Interruption Given :=
  match flag with
  | .verbose => .ok { given with verbose := given.verbose + 1 }
  | .quiet => .ok { given with quiet := given.quiet + 1 }
  | .force => if given.force then .error .misuse else .ok { given with force := true }
  | .stdout => if given.stdout then .error .misuse else .ok { given with stdout := true }
  | .help => .error .help
  | .version => .error .version
  | _ => .error .misuse

def setSource (given : Given) (scope : Scope) (value : Text) : Except Interruption Given := do
  if scope = .general then throw .misuse
  return { given with source? := ← once given.source? value }

def isConsistent (given : Given) : Bool := given.verbose == 0 || given.quiet == 0

end Given

/-- Whether an argument is one or more options; a dash alone is not. -/
def isDashed (argument : Text) : Bool := argument.head? == some '-' && argument != ['-']

/-- Read an option by its name. If its value is still to come, it is left over. -/
def readLong (scope : Scope) (argument : Text) (given : Given) :
    Except Interruption (Given × Option Flag) := do
  let name := argument.takeWhile fun c => c != '='
  match Flag.ofLong? scope name, argument.drop name.length with
  | none, _ => throw .misuse
  | some flag, [] =>
    if flag.takesValue then return (given, some flag) else return (← given.set flag, none)
  | some flag, _ :: value => return (← given.setValue flag value, none)

/-- Read options by their letters. What follows one that takes a value is its value, an equals sign
before it left out; if nothing follows, the option is left over. -/
def readShort (scope : Scope) : Text → Given → Except Interruption (Given × Option Flag)
  | [], given => .ok (given, none)
  | letter :: rest, given => do
    match Flag.ofShort? scope letter with
    | none => throw .misuse
    | some flag =>
      if !flag.takesValue then readShort scope rest (← given.set flag)
      else match rest with
        | [] => return (given, some flag)
        | c :: value => return (← given.setValue flag (if c = '=' then value else rest), none)

def readOptions (scope : Scope) (argument : Text) (given : Given) :
    Except Interruption (Given × Option Flag) :=
  match argument with
  | _ :: '-' :: name => readLong scope name given
  | _ => readShort scope argument.tail given

def scopeOf? (word : Text) : Option Scope :=
  if word = "brew".toList then some .brew
  else if word = "macros".toList then some .macros
  else none

/-- What a call for help with some words after it asks for. -/
def helpWith (words : List Text) : Interruption :=
  match words with
  | [] => .help
  | [word] => if (scopeOf? word).isSome || word == "help".toList then .help else .misuse
  | _ => .misuse

/-- Read one argument, which is the value of an option that waits for it, or options, or the
source. -/
def readOne (scope : Scope) (argument : Text) (waiting : Option Flag) (given : Given) :
    Except Interruption (Given × Option Flag) := do
  match waiting with
  | some flag =>
    if isDashed argument then throw .misuse
    return (← given.setValue flag argument, none)
  | none =>
    if isDashed argument then readOptions scope argument given
    else return (← given.setSource scope argument, none)

/-- Read arguments up to the name of a task, which is left over with what follows. `waiting` is an
option whose value comes next. -/
def read (scope : Scope) : List Text → Option Flag → Given →
    Except Interruption (Given × Option (Scope × List Text))
  | [], none, given => .ok (given, none)
  | [], some _, _ => .error .misuse
  | argument :: rest, waiting, given => do
    if waiting.isNone then
      if scope = .general then
        if argument = "help".toList then throw (helpWith rest)
        if let some inner := scopeOf? argument then return (given, some (inner, rest))
      if argument = ['-', '-'] then
        return (← rest.foldlM (fun given source => given.setSource scope source) given, none)
    let (given, waiting) ← readOne scope argument waiting given
    read scope rest waiting given

def taskOf (scope : Scope) (given : Given) : Task :=
  match scope with
  | .macros => .macros (given.format?.getD .text)
  | _ => .brew ⟨given.output?.map Path.ofText, given.matching?, given.force, given.stdout⟩

/-- What was given before the task and after it, put together. -/
def together (scope : Scope) (outer inner : Given) : Except Interruption Invocation :=
  if !inner.isConsistent || !outer.isConsistent then .error .misuse
  else .ok {
    task := taskOf scope inner
    source? := inner.source?.map Path.ofText
    config? := (inner.config? <|> outer.config?).map Path.ofText
    verbose := if 0 < inner.verbose then inner.verbose else outer.verbose
    quiet := if 0 < inner.quiet then inner.quiet else outer.quiet }

def readAll (arguments : List Text) : Except Interruption Invocation := do
  match ← read .general arguments none {} with
  | (_, none) => throw .misuse
  | (outer, some (scope, rest)) =>
    let (inner, _) ← read scope rest none {}
    together scope outer inner

end Arguments

def Request.ofArguments (arguments : List Text) : Request :=
  match Arguments.readAll arguments with
  | .ok invocation => .run invocation
  | .error interruption => interruption.request

example : Request.ofArguments ["brew".toList, "-vo=x".toList] =
    .run { task := .brew { output? := some (Path.ofText ['x']) }, verbose := 1 } := by
      decide +kernel
example : Request.ofArguments ["-v".toList, "-q".toList, "brew".toList] = .misuse := by
  decide +kernel
example : Request.ofArguments ["-c".toList, "brew".toList] = .misuse := by decide +kernel

end GrammarBrew
