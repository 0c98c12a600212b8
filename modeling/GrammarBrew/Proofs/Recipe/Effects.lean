import GrammarBrew.Proofs.Recipe.FixedSource

/-!
What following a recipe leaves behind. Without a brewed output every file is what it was; with one,
only the file that the output leads to has changed, and it holds the grammar of the text that the
source had before. Besides, only missing directories above the output come, and none before the
source has been brewed.
-/

set_option autoImplicit false
set_option relaxedAutoImplicit false

namespace GrammarBrew

open FileTree

/-- If a file stands at a location, it stood there with the same content and the same time; and if
none stands there, none did. -/
def Workspace.SameFileAt (workspace later : Workspace) (there : Location) : Prop :=
  ∀ content modified, later.tree.get? there = some (.file content modified)
    ↔ workspace.tree.get? there = some (.file content modified)

namespace Recipe

variable {recipe : Recipe} {workspace later : Workspace} {result : Except RecipeError Outcome}

def Brewed (result : Except RecipeError Outcome) : Prop :=
  ∃ source output macros passes, result = .ok (.brewed source output macros passes)

/-- What following a recipe may do to the files. The times of directories are left out: every entry
that comes changes that of its directory. -/
structure Effects (recipe : Recipe) (workspace : Workspace) (result : Except RecipeError Outcome)
    (later : Workspace) : Prop where
  unbrewed : ¬ Brewed result → ∀ there, workspace.SameFileAt later there
  /-- A brewed output is the one file that has changed or come. It stands where the output's path
  leads, and did so before if the path led anywhere; it holds the grammar of the text that the
  source had before. -/
  brewed : ∀ source output macros passes, result = .ok (.brewed source output macros passes) →
    output = recipe.output ∧ recipe.source.Finds workspace source ∧
      ∃ text brew spot modified, workspace.read source = .ok (Text.encode text) ∧
        recipe.options.brew text = .ok brew ∧ macros = brew.table.size ∧ passes = brew.passes ∧
        later.locate .entry recipe.output = .ok (.found spot) ∧
        (∀ goal, workspace.locate .entry recipe.output = .ok (.found goal) → goal = spot) ∧
        later.tree.get? spot
          = some (.file (Text.encode (recipe.options.header ++ '\n' :: brew.body)) modified) ∧
        ∀ there, there ≠ spot → workspace.SameFileAt later there
  /-- Besides, only directories have come, where nothing stood, and one of the directories that the
  output lies in leads to each of them. -/
  others : ∀ there, later.tree.view? there = workspace.tree.view? there ∨
    (workspace.tree.view? there = none ∧ later.tree.view? there = some (.directory 0) ∧
      ∃ path ∈ recipe.output.enclosing, later.locate .entry path = .ok (.found there)) ∨
    (Brewed result ∧ later.locate .entry recipe.output = .ok (.found there))
  here : later.here = workspace.here
  late : later = workspace ∨ ∃ source text brew, recipe.source.Finds workspace source ∧
    workspace.read source = .ok (Text.encode text) ∧ recipe.options.brew text = .ok brew

private theorem Effects.unchanged (h : ¬ Brewed result) :
    recipe.Effects workspace result workspace where
  unbrewed _ _ _ _ := Iff.rfl
  here := rfl
  brewed source output macros passes hresult := absurd ⟨source, output, macros, passes, hresult⟩ h
  others _ := Or.inl rfl
  late := Or.inl rfl

end Recipe

namespace Workspace

variable {workspace middle later : Workspace} {paths : List Path} {path : Path} {content : Bytes}
  {spot : Location}

private theorem GrownAlong.view_cases (h : GrownAlong paths workspace later) (there : Location) :
    later.tree.view? there = workspace.tree.view? there ∨
      (workspace.tree.view? there = none ∧ later.tree.view? there = some (.directory 0) ∧
        ∃ path ∈ paths, later.locate .entry path = .ok (.found there)) := by
  rcases h.view there with hsame | ⟨hnone, hdirectory⟩
  · exact Or.inl hsame
  · refine Or.inr ⟨hnone, hdirectory, h.along there ?_⟩
    rw [hnone, hdirectory]
    simp

private theorem Written.view_of_ne (h : Written middle path content later spot) {there : Location}
    (hne : there ≠ spot) :
    later.tree.view? there = middle.tree.view? there := by
  rw [h.change.view, Function.update_of_ne hne]

private theorem Written.sameFileAt_of_grown (h : Written middle path content later spot)
    (grown : Grown workspace middle) {there : Location} (hne : there ≠ spot) :
    workspace.SameFileAt later there := by
  intro old modified
  rw [← grown.get?_eq_file_iff, FileTree.get?_eq_file_iff, h.view_of_ne hne,
    FileTree.get?_eq_file_iff]

end Workspace

namespace Recipe

open Workspace

variable {recipe : Recipe} {workspace later : Workspace} {force : Bool}
  {result : Except RecipeError Outcome}
  {session after : Session}

private theorem Cooked.effects (cooked : recipe.Cooked force workspace result later) :
    recipe.Effects workspace result later := by
  cases cooked with
  | refused error => exact .unchanged (by simp [Brewed])
  | upToDate => exact .unchanged (by simp [Brewed])
  | @unwritten source text later error finds grown none read brew brews =>
    -- Only directories have been made.
    refine ⟨fun _ there _ _ => grown.get?_eq_file_iff there, by simp, ?_, grown.here, ?_⟩
    · intro there
      exact (grown.view_cases there).imp_right Or.inl
    · exact Or.inr ⟨source, text, brew, finds, read, brews⟩
  | @brewed source text brew middle later finds due read brews grown writes =>
    obtain ⟨spot, written⟩ := exists_written grown.wellFormed writes
    refine ⟨fun hnot => absurd ⟨_, _, _, _, rfl⟩ hnot, ?_, ?_,
      written.change.here.trans grown.here, ?_⟩
    · rintro found output macros passes hresult
      obtain ⟨rfl, rfl, rfl, rfl⟩ := Outcome.brewed.inj (Except.ok.inj hresult)
      refine ⟨rfl, finds, text, brew, spot, middle.clock, read, brews, rfl, rfl,
        written.leads, ?_, ?_, ?_⟩
      · intro goal hgoal
        have hlater := written.locate_found (grown.locate_found hgoal)
        exact Place.found.inj (Except.ok.inj (hlater.symm.trans written.leads))
      · rw [written.change.get?_eq_file_iff, if_pos rfl]
        rfl
      · exact fun there hne => written.sameFileAt_of_grown grown.toGrown hne
    · intro there
      by_cases hspot : there = spot
      · exact Or.inr (Or.inr ⟨⟨_, _, _, _, rfl⟩, hspot ▸ written.leads⟩)
      · rw [written.view_of_ne hspot]
        rcases grown.view_cases there with hsame | ⟨hnone, hdirectory, path, hpath, hlocate⟩
        · exact Or.inl hsame
        · exact Or.inr (Or.inl ⟨hnone, hdirectory, path, hpath, written.locate_found hlocate⟩)
    · exact Or.inr ⟨source, text, brew, finds, read, brews⟩

/-- Following a recipe has no other effects than these, whatever the files are and whatever comes of
it. -/
theorem cook_effects (wf : session.workspace.WellFormed)
    (cooks : recipe.cook (m := StateM Session) force session = (result, after)) :
    recipe.Effects session.workspace result after.workspace :=
  (Session.cook_spec wf cooks).effects

def overGrammar : Text := ['x', '/', '.', '.', '/', 's']

def overBrewed : Session := ((single overGrammar).cook (m := StateM Session) true grammarWritten).2

theorem overBrewed_effects :
    grammarWritten.workspace.WellFormed ∧
      (single overGrammar).cook (m := StateM Session) true grammarWritten
        = (.ok (.brewed grammar (Path.ofText overGrammar) 0 0), overBrewed) ∧
      (single overGrammar).Effects grammarWritten.workspace
        (.ok (.brewed grammar (Path.ofText overGrammar) 0 0)) overBrewed.workspace ∧
      overBrewed.workspace.isDirectory (Path.ofText ['x']) = true ∧
      overBrewed.workspace.read grammar
        = .ok (Text.encode ((single overGrammar).options.header ++ ['\n', 'a'])) := by
  have hwrite := eq_of_toOption (x := (Workspace.start [0x77] 0).write grammar (Text.encode ['a']))
    (a := ()) (by decide +kernel)
  obtain ⟨spot, written⟩ := exists_written wellFormed_working hwrite
  have wf : grammarWritten.workspace.WellFormed := written.wellFormed
  have cooks := eq_of_toOption
    (x := (single overGrammar).cook (m := StateM Session) true grammarWritten)
    (a := .brewed grammar (Path.ofText overGrammar) 0 0) (by decide +kernel)
  have hread := eq_of_toOption (x := (overBrewed.workspace.read grammar, ()))
    (a := Text.encode ((single overGrammar).options.header ++ ['\n', 'a'])) (by decide +kernel)
  exact ⟨wf, cooks, cook_effects wf cooks, by decide +kernel, congrArg Prod.fst hread⟩

end Recipe

end GrammarBrew
