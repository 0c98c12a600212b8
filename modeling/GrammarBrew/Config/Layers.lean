import GrammarBrew.Config.Basic
import GrammarBrew.Files.Access
import GrammarBrew.Toml.Document

/-!
The layers of the configuration, each laid over the ones before: the built-in defaults, files in the
order they were added, and single settings, which win over all files. A file is sought by its path
and, where no file stands, by its path with the extension `toml`.
-/

set_option autoImplicit false
set_option relaxedAutoImplicit false

namespace GrammarBrew

structure FileLayer where
  path : Path
  required : Bool
  deriving DecidableEq, Repr

structure Layers where
  files : List FileLayer := []
  overrides : List (Setting.Key × Setting) := []

namespace Layers

def projectFile : Path := Path.ofText "chef.toml".toList

def withFile (layers : Layers) (path : Path) : Layers :=
  { layers with files := layers.files ++ [⟨path, true⟩] }

def withOptionalFile (layers : Layers) (path : Path) : Layers :=
  { layers with files := layers.files ++ [⟨path, false⟩] }

/-- The layers of a project: the given file, or else the usual one if it is there. -/
def forProject : Option Path → Layers
  | some path => withFile {} path
  | none => withOptionalFile {} projectFile

def withOverride (layers : Layers) (key : Text) (value : Setting) : Except ConfigError Layers :=
  match Setting.Key.parse? key with
  | some key => .ok { layers with overrides := layers.overrides ++ [(key, value)] }
  | none => .error (.badKey key)

def withMatching (layers : Layers) : Option Text → Except ConfigError Layers
  | some label => layers.withOverride "brew.matching".toList (.text label)
  | none => .ok layers

def withOutput (layers : Layers) : Option Path → Except ConfigError Layers
  | some path => layers.withOverride "paths.output".toList (.text path.display)
  | none => .ok layers

variable {m : Type → Type} [Monad m] [FileAccess m]

def findFile (path : Path) : m (Option Path) := do
  if ← FileAccess.isRegular path then return some path
  match path.addExtension? (Path.ofText "toml".toList) with
  | some extended => return if ← FileAccess.isRegular extended then some extended else none
  | none => return none

/-- The settings that a file holds. A byte order mark counts for nothing. -/
def settingsOf (path : Path) (content : Text) : Except ConfigError Setting :=
  match Toml.parse (Toml.withoutMark content) with
  | .ok setting => .ok setting
  | .error fault => .error (.badFile path fault)

/-- Read a file. One that may be missing gives no settings where it is, or where it cannot be read
as text. -/
def readFile (layer : FileLayer) : m (Except ConfigError Setting) := do
  match ← findFile layer.path with
  | none => return if layer.required then .error (.missingFile layer.path) else .ok (.table [])
  | some path =>
    match ← FileAccess.readText path with
    | .error fault =>
      return if layer.required then .error (.unreadable path fault) else .ok (.table [])
    | .ok content => return settingsOf path content

/-- Lay the settings of a file over others. Its names at the top are keys where they can be. -/
def layFile (below file : Setting) : Setting :=
  file.entries.foldl (fun setting (name, value) => setting.assign (Setting.Key.ofText name) value)
    below

/-- Lay files over settings. The first file that cannot be used ends it. -/
def layFiles : List FileLayer → Setting → m (Except ConfigError Setting)
  | [], below => return .ok below
  | layer :: layers, below => do
    match ← readFile layer with
    | .error error => return .error error
    | .ok file => layFiles layers (layFile below file)

def layOverrides (overrides : List (Setting.Key × Setting)) (below : Setting) : Setting :=
  overrides.foldl (fun setting (key, value) => setting.assign key value) below

def load (layers : Layers) : m (Except ConfigError Config) := do
  match ← layFiles layers.files ({} : Config).toSetting with
  | .error error => return .error error
  | .ok setting => return Config.ofSetting (layOverrides layers.overrides setting)

end Layers

end GrammarBrew
