import GrammarBrew.Proofs.Recipe.Cook

/-!
Rendering as a preview of a forced run on the same files: an error is the error of the run, which
then changes nothing, and a grammar is what the output holds afterwards, unless the output or its
directory cannot be written.
-/

set_option autoImplicit false
set_option relaxedAutoImplicit false

namespace GrammarBrew.Recipe

/-- What a rendered grammar, or the error in its place, says of a forced run. -/
structure Foretells (recipe : Recipe) (rendered : Except RecipeError Text) (workspace : Workspace)
    (result : Except RecipeError Outcome) (later : Workspace) : Prop where
  error : ∀ error, rendered = .error error → result = .error error ∧ later = workspace
  /-- A grammar is what the output holds, byte for byte; only the output and its directory can still
  be in the way. -/
  ok : ∀ text, rendered = .ok text →
    (∃ source macros passes, result = .ok (.brewed source recipe.output macros passes) ∧
      later.read recipe.output = .ok (Text.encode text)) ∨
    ∃ path fault, result = .error (.files path fault) ∧
      (path = recipe.output ∨ recipe.output.parent? = some path)

variable {recipe : Recipe} {workspace later : Workspace} {result : Except RecipeError Outcome}

private theorem rendered_of_foreseen {source : Path} {brew : Brew}
    (h : recipe.preview workspace = .ok (source, brew)) :
    recipe.rendered workspace = .ok (recipe.options.withHeader brew.body) := by
  rw [rendered, h]
  rfl

theorem Cooked.foretells (cooked : recipe.Cooked true workspace result later) :
    recipe.Foretells (recipe.rendered workspace) workspace result later := by
  cases cooked with
  | refused error foreseen =>
    have hrendered : recipe.rendered workspace = .error error := by
      rw [rendered, foreseen]
      rfl
    rw [hrendered]
    refine ⟨fun other h => ⟨congrArg _ (Except.error.inj h), rfl⟩, fun text h => ?_⟩
    cases h
  | upToDate finds unforced => cases unforced
  | unwritten error finds grown none read brews foreseen blames =>
    rw [rendered_of_foreseen foreseen]
    obtain ⟨path, fault, rfl, hpath⟩ := blames
    refine ⟨fun other h => ?_, fun text _ => Or.inr ⟨path, fault, rfl, hpath⟩⟩
    cases h
  | brewed finds due read brews grown writes foreseen =>
    rw [rendered_of_foreseen foreseen]
    obtain ⟨spot, written⟩ := Workspace.exists_written grown.wellFormed writes
    refine ⟨fun other h => ?_, fun text h => Or.inl ⟨_, _, _, rfl, ?_⟩⟩
    · cases h
    · obtain rfl := Except.ok.inj h
      exact Workspace.read_eq_ok_iff.2 ⟨_, written.entry_file⟩

end GrammarBrew.Recipe
