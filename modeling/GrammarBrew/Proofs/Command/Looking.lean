import GrammarBrew.Command.Run
import GrammarBrew.Proofs.Session

/-!
What a run sees before it does anything: the layers of its configuration are only looked at.
-/

set_option autoImplicit false
set_option relaxedAutoImplicit false

namespace GrammarBrew.Session

variable {ε : Type}

private theorem onlyLooks_isRegular (path : Path) :
    OnlyLooks (FileAccess.isRegular path : ExceptT ε (StateM Session) Bool) :=
  (sees_inspect _).lift.onlyLooks

private theorem onlyLooks_readText (path : Path) :
    OnlyLooks (FileAccess.readText path : ExceptT ε (StateM Session) (Except FileFault Text)) := by
  unfold FileAccess.readText
  refine (sees_inspect _).lift.onlyLooks.bindExcept fun opened => ?_
  cases opened with
  | error fault => exact (sees_return _).onlyLooks
  | ok bytes =>
    dsimp only
    cases Text.decode? bytes <;> exact (sees_return _).onlyLooks

private theorem onlyLooks_findFile (path : Path) :
    OnlyLooks (Layers.findFile path : ExceptT ε (StateM Session) (Option Path)) := by
  unfold Layers.findFile
  refine (onlyLooks_isRegular path).bindExcept fun regular => ?_
  cases regular with
  | true => exact (sees_return _).onlyLooks
  | false =>
    cases path.addExtension? (Path.ofText "toml".toList) with
    | none => exact (sees_return _).onlyLooks
    | some extended =>
      refine (onlyLooks_isRegular extended).bindExcept fun regular => ?_
      cases regular <;> exact (sees_return _).onlyLooks

private theorem onlyLooks_readLayer (layer : FileLayer) :
    OnlyLooks (Layers.readFile layer : ExceptT ε (StateM Session)
      (Except ConfigError Setting)) := by
  unfold Layers.readFile
  refine (onlyLooks_findFile layer.path).bindExcept fun found => ?_
  cases found with
  | none => exact (sees_return _).onlyLooks
  | some path =>
    refine (onlyLooks_readText path).bindExcept fun opened => ?_
    cases opened <;> exact (sees_return _).onlyLooks

private theorem onlyLooks_layFiles (layers : List FileLayer) (below : Setting) :
    OnlyLooks (Layers.layFiles layers below : ExceptT ε (StateM Session)
      (Except ConfigError Setting)) := by
  induction layers generalizing below with
  | nil => exact (sees_return _).onlyLooks
  | cons layer layers ih =>
    refine (onlyLooks_readLayer layer).bindExcept fun read => ?_
    cases read with
    | error error => exact (sees_return _).onlyLooks
    | ok file => exact ih _

private theorem onlyLooks_load (layers : Layers) :
    OnlyLooks (layers.load : ExceptT ε (StateM Session) (Except ConfigError Config)) := by
  unfold Layers.load
  refine (onlyLooks_layFiles layers.files _).bindExcept fun laid => ?_
  cases laid <;> exact (sees_return _).onlyLooks

theorem onlyLooks_configure (invocation : Invocation) :
    OnlyLooks (invocation.configure : ExceptT Text (StateM Session) Config) := by
  unfold Invocation.configure
  cases invocation.layers with
  | error error => exact (sees_throw _).onlyLooks
  | ok layers =>
    refine (onlyLooks_load layers).bindExcept fun loaded => ?_
    cases loaded with
    | error error => exact (sees_throw _).onlyLooks
    | ok config => exact (sees_return _).onlyLooks

end GrammarBrew.Session
