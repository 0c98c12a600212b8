import GrammarBrew.Proofs.Session
import GrammarBrew.Proofs.Text.Utf8

/-!
What a recipe sees before anything is changed. To choose the source, to read it and to brew its text
only look at the files, so that the rendered grammar, or the error in its place, depends on the
files alone.
-/

set_option autoImplicit false
set_option relaxedAutoImplicit false

namespace GrammarBrew

def Workspace.text (workspace : Workspace) (path : Path) : Except FileFault Text :=
  (workspace.read path).bind fun bytes => (Text.decode? bytes).elim (.error .notText) .ok

namespace Session

variable {workspace : Workspace} {path : Path} {recipe : Recipe}

private theorem onlyLooks_findLatest (directory : Path) (pattern : Text) :
    OnlyLooks (findLatest (m := StateM Session) directory pattern) := by
  unfold findLatest
  cases Pattern.parse (Candidate.wholeName pattern) with
  | error fault => exact (sees_throw _).onlyLooks
  | ok regex =>
    refine ((sees_inspect _).onFile directory).onlyLooks.bindExcept fun files => ?_
    refine (sees_note _).onlyLooks.bindExcept fun _ => ?_
    cases newestName? (Machine.ofRegex regex) (files.filterMap Text.decode?) with
    | none => exact (sees_throw _).onlyLooks
    | some newest => exact (sees_return _).onlyLooks

theorem onlyLooks_resolve (selector : SourceSelector) :
    OnlyLooks (selector.resolve (m := StateM Session)) := by
  cases selector with
  | latest directory pattern => exact onlyLooks_findLatest directory pattern
  | fixed path => exact (sees_return path).onlyLooks

/-! ### The text -/

theorem run_readText (session : Session) (path : Path) :
    FileAccess.readText (m := StateM Session) path session
      = (session.workspace.text path, session) := by
  have hread : FileAccess.read (m := StateM Session) path session
      = (session.workspace.read path, session) := rfl
  simp only [FileAccess.readText, run_bind hread, Workspace.text]
  cases session.workspace.read path with
  | error fault => rfl
  | ok bytes =>
    simp only [Except.bind]
    cases Text.decode? bytes <;> rfl

private theorem sees_readText (path : Path) :
    Sees (FileAccess.readText (m := StateM Session) path) fun workspace => workspace.text path :=
  fun session => ⟨session, run_readText session path, rfl, rfl⟩

end Session

namespace Workspace

variable {workspace : Workspace} {path : Path}

theorem read_of_text {text : Text} (h : workspace.text path = .ok text) :
    workspace.read path = .ok (Text.encode text) := by
  unfold Workspace.text at h
  cases hread : workspace.read path with
  | error fault => simp [hread, Except.bind] at h
  | ok bytes =>
    simp only [hread, Except.bind] at h
    cases hdecode : Text.decode? bytes with
    | none => simp [hdecode] at h
    | some read =>
      obtain rfl : read = text := by simpa [hdecode] using h
      rw [Text.encode_of_decode? hdecode]

theorem text_of_modified {fault : FileFault} (h : workspace.modified path = .error fault) :
    workspace.text path = .error fault := by
  have hread : workspace.read path = .error fault := by
    unfold Workspace.modified at h
    unfold Workspace.read
    cases hentry : workspace.entry path with
    | error cause => simpa [hentry] using h
    | ok entry =>
      cases entry with
      | file content modified => simp [hentry] at h
      | directory modified => simp [hentry] at h
      | link target => simpa [hentry] using h
  rw [text, hread]
  rfl

end Workspace

namespace Session

/-! ### The grammar -/

theorem sees_brewText (recipe : Recipe) (source : Path) (text : Text) :
    Sees (recipe.brewText (m := StateM Session) source text)
      fun _ => (recipe.options.brew text).mapError (RecipeError.brew source) := by
  have hnotes : Sees
      (Recipe.notePasses (m := ExceptT RecipeError (StateM Session)) (recipe.options.passes text))
      fun _ => .ok () := sees_forM (fun _ => sees_forM (fun _ => sees_note _) _) _
  unfold Recipe.brewText
  cases recipe.options.brew text with
  | error error => exact hnotes.bindExcept fun _ => sees_throw (RecipeError.brew source error)
  | ok brew => exact hnotes.bindExcept fun _ => sees_return brew

theorem sees_readFile (path : Path) :
    Sees (Recipe.readFile (m := StateM Session) path)
      fun workspace => (workspace.text path).mapError (RecipeError.files path) :=
  (sees_readText path).onFile path

end Session

namespace Recipe

open Session

def preview (recipe : Recipe) (workspace : Workspace) : Except RecipeError (Path × Brew) :=
  (look (recipe.source.resolve (m := StateM Session)) workspace).bind fun source =>
    ((workspace.text source).mapError (RecipeError.files source)).bind fun text =>
      ((recipe.options.brew text).mapError (RecipeError.brew source)).map fun brew => (source, brew)

section

variable {recipe : Recipe} {workspace : Workspace} {source : Path} {text : Text}

theorem preview_of_unresolved {error : RecipeError}
    (h : look (recipe.source.resolve (m := StateM Session)) workspace = .error error) :
    recipe.preview workspace = .error error := by
  rw [preview, h]
  rfl

private theorem preview_of_resolved
    (h : look (recipe.source.resolve (m := StateM Session)) workspace = .ok source) :
    recipe.preview workspace
      = ((workspace.text source).mapError (RecipeError.files source)).bind fun text =>
        ((recipe.options.brew text).mapError (RecipeError.brew source)).map fun brew =>
          (source, brew) := by
  rw [preview, h]
  rfl

variable (found : look (recipe.source.resolve (m := StateM Session)) workspace = .ok source)
include found

theorem preview_of_unread {fault : FileFault} (h : workspace.text source = .error fault) :
    recipe.preview workspace = .error (.files source fault) := by
  rw [preview_of_resolved found, h]
  rfl

theorem preview_of_unbrewed {error : BrewError} (htext : workspace.text source = .ok text)
    (h : recipe.options.brew text = .error error) :
      recipe.preview workspace = .error (.brew source error) := by
  rw [preview_of_resolved found, htext]
  simp only [Except.mapError, Except.bind, h, Except.map]

theorem preview_of_brewed {brew : Brew} (htext : workspace.text source = .ok text)
    (h : recipe.options.brew text = .ok brew) : recipe.preview workspace = .ok (source, brew) := by
  rw [preview_of_resolved found, htext]
  simp only [Except.mapError, Except.bind, h, Except.map]

end

def rendered (recipe : Recipe) (workspace : Workspace) : Except RecipeError Text :=
  (recipe.preview workspace).map fun found => recipe.options.withHeader found.2.body

/-- Rendering changes nothing. -/
theorem sees_render (recipe : Recipe) :
    Sees (recipe.render (m := StateM Session)) recipe.rendered := by
  have hsource := Sees.bindExcept (onlyLooks_resolve recipe.source) fun source =>
    (sees_readFile source).bindExcept fun text => sees_return (source, text)
  have hgrammar := hsource.bindExcept fun read =>
    (sees_brewText recipe read.1 read.2).bindExcept fun brew =>
      sees_return (recipe.options.withHeader brew.body)
  intro session
  obtain ⟨after, hrun, hsame⟩ := hgrammar session
  refine ⟨after, hrun.trans ?_, hsame⟩
  simp only [rendered, preview]
  cases look (recipe.source.resolve (m := StateM Session)) session.workspace with
  | error error => rfl
  | ok source =>
    simp only [Except.bind]
    cases session.workspace.text source with
    | error fault => rfl
    | ok text =>
      simp only [Except.mapError]
      cases recipe.options.brew text <;> rfl

end Recipe

end GrammarBrew
