import GrammarBrew.Proofs.Config.Layers
import GrammarBrew.Proofs.Config.Leaf

/-!
Which layer a configuration has each of its values from. A key keeps the default until a file sets
it, each file that does takes the place of the ones before, and a single setting takes the place of
all files; what is set under other keys does not matter.
-/

set_option autoImplicit false
set_option relaxedAutoImplicit false

namespace GrammarBrew

/-- The settings of the file that a layer stands for, if there is such a file. -/
def Workspace.settings? (workspace : Workspace) (layer : FileLayer) : Option Setting :=
  (workspace.configFile? layer.path).bind fun path =>
    (workspace.text path).toOption.bind fun content => (Layers.settingsOf path content).toOption

/-- A layer can be laid: its file is there if it has to be, and a file that is there holds values
for the keys of a configuration and nothing else. -/
structure FileLayer.Usable (workspace : Workspace) (layer : FileLayer) : Prop where
  present : layer.required = true → (workspace.configFile? layer.path).isSome
  fits : (workspace.configFile? layer.path).isSome → ∃ settings ∈ workspace.settings? layer,
    settings.Fits

instance (workspace : Workspace) (layer : FileLayer) : Decidable (layer.Usable workspace) :=
  decidable_of_iff
    ((layer.required = true → (workspace.configFile? layer.path).isSome) ∧
      ((workspace.configFile? layer.path).isSome → ∃ settings ∈ workspace.settings? layer,
        settings.Fits))
    ⟨fun ⟨present, fits⟩ => ⟨present, fits⟩, fun h => ⟨h.present, h.fits⟩⟩

inductive LayerStep where
  | file (path : Path)
  | optionalFile (path : Path)
  | matching (label? : Option Text)
  | output (path? : Option Path)
  | override (leaf : Leaf) (value : Setting)

namespace LayerStep

def apply (layers : Layers) : LayerStep → Except ConfigError Layers
  | file path => .ok (layers.withFile path)
  | optionalFile path => .ok (layers.withOptionalFile path)
  | matching label? => layers.withMatching label?
  | output path? => layers.withOutput path?
  | override leaf value => layers.withOverride leaf.key value

def files : LayerStep → List FileLayer
  | file path => [⟨path, true⟩]
  | optionalFile path => [⟨path, false⟩]
  | _ => []

/-- The single values that a step sets; a path is set as its text. -/
def settings : LayerStep → List (Leaf × Setting)
  | matching label? => label?.toList.map fun label => (.matching, .text label)
  | output path? => path?.toList.map fun path => (.output, .text path.display)
  | override leaf value => [(leaf, value)]
  | _ => []

end LayerStep

/-- The value that counts for a key: the last one that was set singly, or else the last one in the
files, or else the default. -/
def Leaf.chosen (leaf : Leaf) (workspace : Workspace) (files : List FileLayer)
    (overrides : List (Leaf × Setting)) : Setting :=
  ((overrides.filterMap fun entry => if leaf = entry.1 then some entry.2 else none).getLast?.or
    (files.flatMap fun layer => (workspace.settings? layer).elim [] leaf.valuesIn).getLast?).getD
      leaf.default

namespace Layers

variable {workspace : Workspace} {start : Layers} {steps : List LayerStep} {layer : FileLayer}

private def kept (entry : Leaf × Setting) : Setting.Key × Setting :=
  (⟨entry.1.holder, [.child entry.1.name]⟩, entry.2)

private theorem withOverride_key (layers : Layers) (leaf : Leaf) (value : Setting) :
    layers.withOverride leaf.key value
      = .ok { layers with overrides := layers.overrides ++ [kept (leaf, value)] } := by
  rw [withOverride, Leaf.parse?_key]
  rfl

private theorem apply_eq (layers : Layers) (step : LayerStep) : step.apply layers
    = .ok ⟨layers.files ++ step.files, layers.overrides ++ step.settings.map kept⟩ := by
  have hkept : ∀ (leaf : Leaf) (value : Setting), layers.withOverride leaf.key value
      = .ok ⟨layers.files ++ [], layers.overrides ++ [kept (leaf, value)]⟩ := by
    intro leaf value
    rw [withOverride_key, List.append_nil]
  cases step with
  | file path => simp [LayerStep.apply, withFile, LayerStep.files, LayerStep.settings]
  | optionalFile path =>
    simp [LayerStep.apply, withOptionalFile, LayerStep.files, LayerStep.settings]
  | matching label? =>
    cases label? with
    | none => simp [LayerStep.apply, withMatching, LayerStep.files, LayerStep.settings]
    | some label => exact hkept .matching (.text label)
  | output path? =>
    cases path? with
    | none => simp [LayerStep.apply, withOutput, LayerStep.files, LayerStep.settings]
    | some path => exact hkept .output (.text path.display)
  | override leaf value => exact hkept leaf value

private theorem foldlM_apply (layers : Layers) (steps : List LayerStep) :
    steps.foldlM LayerStep.apply layers
      = .ok ⟨layers.files ++ steps.flatMap LayerStep.files,
          layers.overrides ++ (steps.flatMap LayerStep.settings).map kept⟩ := by
  induction steps generalizing layers with
  | nil =>
    simp only [List.flatMap_nil, List.map_nil, List.append_nil]
    rfl
  | cons step steps ih =>
    rw [List.foldlM_cons, apply_eq]
    show steps.foldlM LayerStep.apply _ = _
    rw [ih]
    simp

private theorem eq_ok_of_toOption {ε α : Type} {result : Except ε α} {a : α}
    (h : result.toOption = some a) :
    result = .ok a := by
  cases result with
  | error e => cases h
  | ok b => exact congrArg Except.ok (Option.some.inj h)

private theorem exists_settingsOf (usable : layer.Usable workspace) :
    ∃ file, workspace.settingsOf layer = .ok file ∧ file.Fits ∧
      ∀ leaf : Leaf, (workspace.settings? layer).elim [] leaf.valuesIn = leaf.valuesIn file := by
  cases hfile : workspace.configFile? layer.path with
  | none =>
    have hoptional : ¬ layer.required = true := by
      intro hrequired
      simpa [hfile] using usable.present hrequired
    refine ⟨.table [], ?_, ⟨by simp [Setting.entries], by simp [Setting.entries]⟩, fun leaf => ?_⟩
    · rw [Workspace.settingsOf, hfile, Option.elim_none, if_neg hoptional]
    · rw [Workspace.settings?, hfile]
      rfl
  | some path =>
    obtain ⟨file, hsettings, hfits⟩ := usable.fits (by rw [hfile]; rfl)
    have hread := Option.mem_def.1 hsettings
    rw [Workspace.settings?, hfile, Option.bind_some] at hread
    obtain ⟨content, hcontent, hgiven⟩ := Option.bind_eq_some_iff.1 hread
    refine ⟨file, ?_, hfits, fun leaf => by rw [Option.mem_def.1 hsettings, Option.elim_some]⟩
    rw [Workspace.settingsOf, hfile, Option.elim_some, eq_ok_of_toOption hcontent]
    exact eq_ok_of_toOption hgiven

private theorem exists_layFiles {files : List FileLayer}
    (usable : ∀ layer ∈ files, layer.Usable workspace)
    (below : Setting) : ∃ setting, workspace.layFiles files below = .ok setting ∧ ∀ leaf : Leaf,
      leaf.valueIn setting
        = (files.flatMap fun layer => (workspace.settings? layer).elim [] leaf.valuesIn).getLast?.or
          (leaf.valueIn below) := by
  induction files generalizing below with
  | nil => exact ⟨below, rfl, fun leaf => rfl⟩
  | cons layer files ih =>
    obtain ⟨hlayer, hfiles⟩ := List.forall_mem_cons.1 usable
    obtain ⟨file, hfile, hfits, hvalues⟩ := exists_settingsOf hlayer
    obtain ⟨setting, hsetting, hleaf⟩ := ih hfiles (layFile below file)
    refine ⟨setting, ?_, fun leaf => ?_⟩
    · rw [Workspace.layFiles, hfile]
      exact hsetting
    · rw [hleaf, Leaf.valueIn_layFile leaf hfits, List.flatMap_cons, List.getLast?_append,
        Option.or_assoc, hvalues]

private theorem wellTyped_chosen {files : List FileLayer} {overrides : List (Leaf × Setting)}
    (usable : ∀ layer ∈ files, layer.Usable workspace)
    (typed : ∀ entry ∈ overrides, entry.1.WellTyped entry.2) (leaf : Leaf) :
    leaf.WellTyped (leaf.chosen workspace files overrides) := by
  unfold Leaf.chosen
  cases hset : (overrides.filterMap fun entry =>
      if leaf = entry.1 then some entry.2 else none).getLast? with
  | some value =>
    obtain ⟨entry, hentry, hsome⟩ := List.mem_filterMap.1 (List.mem_of_getLast? hset)
    split at hsome
    next hleaf =>
      obtain rfl := hleaf
      obtain rfl := Option.some.inj hsome
      exact typed entry hentry
    · cases hsome
  | none =>
    cases hread : (files.flatMap fun layer =>
        (workspace.settings? layer).elim [] leaf.valuesIn).getLast? with
    | some value =>
      obtain ⟨layer, hlayer, hvalue⟩ := List.mem_flatMap.1 (List.mem_of_getLast? hread)
      obtain ⟨file, -, hfits, hvalues⟩ := exists_settingsOf (usable layer hlayer)
      rw [hvalues] at hvalue
      exact Leaf.wellTyped_of_mem_valuesIn hfits hvalue
    | none => exact Leaf.wellTyped_default leaf

private theorem overrides_eq_nil (begins : start = {} ∨ ∃ explicit, start = forProject explicit) :
    start.overrides = [] := by
  rcases begins with rfl | ⟨explicit, rfl⟩
  · rfl
  · cases explicit <;> rfl

def oneFile (name content : Text) : Session :=
  { workspace := ((Workspace.start [0x77] 0).write (Path.ofText name) (Text.encode content)).2 }

def mixedSteps : List LayerStep := [
  .override .header (.text ['y']), .file (Path.ofText "a.toml".toList),
    .matching (some "substring".toList),
  .optionalFile (Path.ofText ['b']), .output none]

end Layers

end GrammarBrew
