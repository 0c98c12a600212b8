import GrammarBrew.Brewer
import GrammarBrew.Console
import GrammarBrew.Files.Access
import GrammarBrew.Recipe.Error
import GrammarBrew.Recipe.Version

/-!
A recipe brews one source file into one output file. The source is a fixed file or the newest
version in a directory; the work is skipped while the output is at least as new as the source, and
nothing is written before the source has been read and brewed.
-/

set_option autoImplicit false
set_option relaxedAutoImplicit false

namespace GrammarBrew

inductive SourceSelector where
  | latest (directory : Path) (pattern : Text)
  | fixed (path : Path)
  deriving DecidableEq, Repr

structure Recipe where
  options : BrewOptions
  source : SourceSelector
  output : Path
  deriving DecidableEq, Repr

inductive Outcome where
  | brewed (source output : Path) (macros passes : Nat)
  | upToDate (source output : Path)
  deriving DecidableEq, Repr

variable {m : Type → Type} [Monad m] [FileAccess m] [Console m]

/-- What a file operation on a path gives, or its fault with the path. -/
def onFile {α : Type} (path : Path) (operation : m (Except FileFault α)) :
    ExceptT RecipeError m α := do
  match ← operation with
  | .ok given => return given
  | .error fault => throw (.files path fault)

def newestName? (machine : Machine) (names : List Text) : Option Candidate :=
  Candidate.newest? (names.filterMap (Candidate.ofName? machine))

/-- The path of the newest version in a directory. The pattern is read before the directory is. -/
def findLatest (directory : Path) (pattern : Text) : ExceptT RecipeError m Path :=
  match Pattern.parse (Candidate.wholeName pattern) with
  | .error fault => throw (.invalidPattern fault)
  | .ok regex => do
    let files ← onFile directory (FileAccess.regularFiles directory)
    let names := files.filterMap Text.decode?
    Console.note (.scanned directory names.length)
    match newestName? (Machine.ofRegex regex) names with
    | some newest => return directory.join (Text.encode newest.name)
    | none => throw (.noSource directory pattern)

/-- Whether an output has to be made again: its source is newer, or there is no output. Without a
source nothing can be made. -/
def isStale (source output : Path) : m Bool := do
  match ← FileAccess.modified source, ← FileAccess.modified output with
  | .ok sourceTime, .ok outputTime => return decide (outputTime < sourceTime)
  | .ok _, .error _ => return true
  | .error _, _ => return false

namespace SourceSelector

def resolve : SourceSelector → ExceptT RecipeError m Path
  | latest directory pattern => findLatest directory pattern
  | fixed path => return path

end SourceSelector

namespace Recipe

def notePasses (passes : List Pass) : m Unit :=
  (passes.zip (List.range' 1 passes.length)).forM fun (pass, number) =>
    pass.substitutions.forM fun substitution => Console.note (.substituted number substitution)

def readFile (path : Path) : ExceptT RecipeError m Text := onFile path (FileAccess.readText path)

def brewText (recipe : Recipe) (source : Path) (text : Text) : ExceptT RecipeError m Brew := do
  notePasses (recipe.options.passes text)
  match recipe.options.brew text with
  | .ok brew => return brew
  | .error error => throw (.brew source error)

def readSource (recipe : Recipe) : ExceptT RecipeError m (Path × Text) := do
  let source ← recipe.source.resolve
  return (source, ← readFile source)

/-- The generated grammar of the source; the output is left alone. -/
def render (recipe : Recipe) : ExceptT RecipeError m Text := do
  let (source, text) ← recipe.readSource
  let brew ← recipe.brewText source text
  return recipe.options.withHeader brew.body

/-- Make the directory that a file is to be in, and those it lies in. -/
def makeRoom (path : Path) : ExceptT RecipeError m Unit :=
  match path.parent? with
  | none => return ()
  | some parent =>
    if parent.isEmpty then return () else onFile parent (FileAccess.makeDirectories parent)

def brewInto (recipe : Recipe) (source : Path) : ExceptT RecipeError m Outcome := do
  let text ← readFile source
  let brew ← recipe.brewText source text
  makeRoom recipe.output
  let content := Text.encode (recipe.options.withHeader brew.body)
  onFile recipe.output (FileAccess.write recipe.output content)
  Console.note (.brewed brew.table.size brew.passes)
  return .brewed source recipe.output brew.table.size brew.passes

/-- Brew the source into the output, unless the output is new enough and nothing forces it. -/
def cook (recipe : Recipe) (force : Bool) : ExceptT RecipeError m Outcome := do
  let source ← recipe.source.resolve
  Console.note (.selected source recipe.output)
  let _ ← onFile source (FileAccess.modified source)
  if !force && !(← isStale source recipe.output) then
    Console.note .upToDate
    return .upToDate source recipe.output
  else recipe.brewInto source

end Recipe

end GrammarBrew
