import GrammarBrew.Config.Layers
import GrammarBrew.Proofs.Recipe.Looking

/-!
What the layers of a configuration see. To find and read the files and to lay them over each other
only looks at the files, so that the configuration, or the error in its place, depends on the files
alone.
-/

set_option autoImplicit false
set_option relaxedAutoImplicit false

namespace GrammarBrew

namespace Workspace

/-- The file that a path of a configuration stands for: the one it leads to, or else the one that it
leads to with the extension `toml`. -/
def configFile? (workspace : Workspace) (path : Path) : Option Path :=
  if workspace.isRegular path then some path
  else (path.addExtension? (Path.ofText "toml".toList)).filter workspace.isRegular

def settingsOf (workspace : Workspace) (layer : FileLayer) : Except ConfigError Setting :=
  (workspace.configFile? layer.path).elim
    (if layer.required then .error (.missingFile layer.path) else .ok (.table [])) fun path =>
      match workspace.text path with
      | .error fault => if layer.required then .error (.unreadable path fault) else .ok (.table [])
      | .ok content => Layers.settingsOf path content

def layFiles (workspace : Workspace) : List FileLayer → Setting → Except ConfigError Setting
  | [], below => .ok below
  | layer :: layers, below =>
    (workspace.settingsOf layer).bind fun file => workspace.layFiles layers
    (Layers.layFile below file)

def configOf (workspace : Workspace) (layers : Layers) : Except ConfigError Config :=
  (workspace.layFiles layers.files ({} : Config).toSetting).bind fun setting =>
    Config.ofSetting (Layers.layOverrides layers.overrides setting)

end Workspace

namespace Session

variable (session : Session)

private theorem run_findFile (path : Path) :
    Layers.findFile (m := StateM Session) path session
      = (session.workspace.configFile? path, session) := by
  have hregular : ∀ path, FileAccess.isRegular (m := StateM Session) path session
      = (session.workspace.isRegular path, session) := fun _ => rfl
  unfold Layers.findFile Workspace.configFile?
  rw [run_bind (hregular path)]
  cases session.workspace.isRegular path with
  | true => rfl
  | false =>
    cases path.addExtension? (Path.ofText "toml".toList) with
    | none => rfl
    | some extended =>
      simp only [Bool.false_eq_true, if_false, run_bind (hregular extended), Option.filter_some]
      rfl

private theorem run_readFile (layer : FileLayer) :
    Layers.readFile (m := StateM Session) layer session
      = (session.workspace.settingsOf layer, session) := by
  unfold Layers.readFile Workspace.settingsOf
  rw [run_bind (run_findFile session layer.path)]
  cases session.workspace.configFile? layer.path with
  | none => rfl
  | some path =>
    simp only [run_bind (run_readText session path), Option.elim]
    cases session.workspace.text path <;> rfl

private theorem run_layFiles (layers : List FileLayer) (below : Setting) :
    Layers.layFiles (m := StateM Session) layers below session
      = (session.workspace.layFiles layers below, session) := by
  induction layers generalizing below with
  | nil => rfl
  | cons layer layers ih =>
    unfold Layers.layFiles Workspace.layFiles
    rw [run_bind (run_readFile session layer)]
    cases session.workspace.settingsOf layer with
    | error error => rfl
    | ok file => exact ih _

theorem run_load (layers : Layers) :
    layers.load (m := StateM Session) session = (session.workspace.configOf layers, session) := by
  unfold Layers.load Workspace.configOf
  rw [run_bind (run_layFiles session layers.files _)]
  cases session.workspace.layFiles layers.files ({} : Config).toSetting <;> rfl

end Session

end GrammarBrew
