import GrammarBrew.Proofs.Files.Directories
import GrammarBrew.Proofs.Recipe.Looking
import GrammarBrew.Proofs.Recipe.Source

/-!
All that following a recipe can do to the files. It leaves them alone unless it makes the output's
directory, and only a source that has been brewed gets as far as that.
-/

set_option autoImplicit false
set_option relaxedAutoImplicit false

namespace GrammarBrew

open FileTree

def Workspace.Stale (workspace : Workspace) (source output : Path) : Prop :=
  ∃ sourceTime, workspace.modified source = .ok sourceTime ∧
    ∀ outputTime, workspace.modified output = .ok outputTime → outputTime < sourceTime

/-- The directories that a path lies in, the longest first. -/
def Path.enclosing (path : Path) : List Path := (path.parent?.map ancestors).getD []

/-- What following a recipe comes to, with the files before and after. -/
inductive Recipe.Cooked (recipe : Recipe) (force : Bool) (workspace : Workspace) :
    Except RecipeError Outcome → Workspace → Prop
  | refused (error : RecipeError) (foreseen : recipe.preview workspace = .error error) :
      Cooked recipe force workspace (.error error) workspace
  | upToDate {source : Path} {sourceTime outputTime : Time}
    (finds : recipe.source.Finds workspace source)
      (unforced : force = false) (there : workspace.modified source = .ok sourceTime)
      (made : workspace.modified recipe.output = .ok outputTime) (new : sourceTime ≤ outputTime) :
      Cooked recipe force workspace (.ok (.upToDate source recipe.output)) workspace
  | unwritten {source : Path} {text : Text} {later : Workspace} (error : RecipeError)
      (finds : recipe.source.Finds workspace source)
      (grown : workspace.GrownAlong recipe.output.enclosing later)
      (none : later.isRegular recipe.output = false)
      (read : workspace.read source = .ok (Text.encode text)) {brew : Brew}
      (brews : recipe.options.brew text = .ok brew)
        (foreseen : recipe.preview workspace = .ok (source, brew))
      (blames : ∃ path fault, error = .files path fault ∧
        (path = recipe.output ∨ recipe.output.parent? = some path)) :
      Cooked recipe force workspace (.error error) later
  | brewed {source : Path} {text : Text} {brew : Brew} {middle later : Workspace}
      (finds : recipe.source.Finds workspace source)
      (due : force = true ∨ workspace.Stale source recipe.output)
      (read : workspace.read source = .ok (Text.encode text))
        (brews : recipe.options.brew text = .ok brew)
      (grown : workspace.GrownAlong recipe.output.enclosing middle)
      (writes : middle.write recipe.output (Text.encode (recipe.options.withHeader brew.body))
        = (.ok (), later))
      (foreseen : recipe.preview workspace = .ok (source, brew)) :
      Cooked recipe force workspace
        (.ok (.brewed source recipe.output brew.table.size brew.passes)) later

namespace Workspace

variable {workspace : Workspace} {path : Path} {content : Bytes}

private theorem exists_write (h : workspace.isRegular path = true) (content : Bytes) :
    ∃ later, workspace.write path content = (.ok (), later) := by
  obtain ⟨old, modified, hentry⟩ := isRegular_iff.1 h
  obtain ⟨location, hlocate, hget⟩ := entry_eq_ok_iff.1 hentry
  obtain ⟨hspelled, hleads⟩ := locate_eq_ok_iff.1 hlocate
  have hfile := hleads.file_of_entry (kind?_eq_file hget)
  have hdirectory : workspace.tree.isDirectory location = false := by
    rw [← Bool.not_eq_true, FileTree.isDirectory_iff, kind?_eq_file hget]
    simp
  have hwrite : workspace.write path content = (.ok (), { workspace with
      tree := workspace.tree.set location (.file content workspace.clock)
      clock := workspace.clock + 1 }) := by
    simp [write, locate_eq_ok_iff.2 ⟨hspelled, hfile⟩, hdirectory]
  exact ⟨_, hwrite⟩

private theorem write_error {later : Workspace} {fault : FileFault} (wf : workspace.WellFormed)
    (h : workspace.write path content = (.error fault, later)) :
    later = workspace ∧ workspace.isRegular path = false := by
  constructor
  · rcases write_cases wf path content with ⟨fault, hfail⟩ | ⟨changed, spot, hmade, -⟩
    · exact (Prod.mk.inj (h.symm.trans hfail)).2
    · exact nomatch (Prod.mk.inj (h.symm.trans hmade)).1
  · rw [← Bool.not_eq_true]
    intro hregular
    obtain ⟨changed, hmade⟩ := exists_write hregular content
    exact nomatch (Prod.mk.inj (h.symm.trans hmade)).1

end Workspace

namespace Session

variable {session after : Session} {recipe : Recipe} {source path : Path} {text : Text}

private theorem run_isStale {sourceTime : Time}
    (h : session.workspace.modified source = .ok sourceTime)
    (path : Path) :
    ∃ stale, isStale (m := ExceptT RecipeError (StateM Session)) source path session
        = (.ok stale, session) ∧ (stale = true ↔ session.workspace.Stale source path) := by
  have hsource : FileAccess.modified (m := ExceptT RecipeError (StateM Session)) source session
      = (.ok (.ok sourceTime), session) := by rw [← h]; rfl
  have hpath : FileAccess.modified (m := ExceptT RecipeError (StateM Session)) path session
      = (.ok (session.workspace.modified path), session) := rfl
  rw [isStale, run_bind_ok hsource, run_bind_ok hpath]
  cases hmodified : session.workspace.modified path with
  | error fault => exact ⟨true, rfl, by simp [Workspace.Stale, h, hmodified]⟩
  | ok time => exact ⟨decide (time < sourceTime), rfl, by simp [Workspace.Stale, h, hmodified]⟩

private theorem exists_of_not_stale {workspace : Workspace} {sourceTime : Time}
    (there : workspace.modified source = .ok sourceTime) (h : ¬ workspace.Stale source path) :
    ∃ outputTime, workspace.modified path = .ok outputTime ∧ sourceTime ≤ outputTime := by
  by_contra hnone
  refine h ⟨sourceTime, there, fun outputTime hmade => ?_⟩
  by_contra hlt
  exact hnone ⟨outputTime, hmade, Int.not_lt.1 hlt⟩

private theorem makeRoom_spec {result : Except RecipeError Unit} (wf : session.workspace.WellFormed)
    (h : Recipe.makeRoom (m := StateM Session) path session = (result, after)) :
    session.workspace.GrownAlong path.enclosing after.workspace ∧
      ∀ error, result = .error error → after.workspace.isRegular path = false ∧
        ∃ parent fault, error = .files parent fault ∧ path.parent? = some parent := by
  unfold Recipe.makeRoom at h
  cases hparent : path.parent? with
  | none =>
    rw [hparent] at h
    obtain ⟨rfl, rfl⟩ := Prod.mk.inj h
    exact ⟨.refl wf, by simp⟩
  | some parent =>
    have henclosing : path.enclosing = parent.ancestors := by rw [Path.enclosing, hparent]; rfl
    simp only [hparent] at h
    split at h
    · obtain ⟨rfl, rfl⟩ := Prod.mk.inj h
      exact ⟨.refl wf, by simp⟩
    next hne =>
      cases hmake : FileAccess.makeDirectories (m := StateM Session) parent session with
      | mk made later =>
        obtain ⟨hgrown, hfail⟩ := makeDirectories_spec wf hmake
        rw [← henclosing] at hgrown
        cases made with
        | ok _ =>
          rw [run_onFile_ok hmake] at h
          obtain ⟨rfl, rfl⟩ := Prod.mk.inj h
          exact ⟨hgrown, by simp⟩
        | error fault =>
          rw [run_onFile_error hmake] at h
          obtain ⟨rfl, rfl⟩ := Prod.mk.inj h
          refine ⟨hgrown, fun error herror =>
            ⟨?_, parent, fault, (Except.error.inj herror).symm, rfl⟩⟩
          rw [← Bool.not_eq_true]
          intro hregular
          obtain ⟨content, modified, hentry⟩ := Workspace.isRegular_iff.1 hregular
          obtain ⟨goal, hlocate, -⟩ := Workspace.entry_eq_ok_iff.1 hentry
          have hdirectory := Workspace.isDirectory_parent hlocate hparent (by simpa using hne)
          simp [hfail fault rfl] at hdirectory

private theorem run_write (path : Path) (content : Bytes) (session : Session) :
    ∃ result after, FileAccess.write (m := StateM Session) path content session = (result, after) ∧
      session.workspace.write path content = (result, after.workspace) :=
  ⟨_, _, rfl, rfl⟩

private theorem writeOut_spec {force : Bool} {result : Except RecipeError Outcome} {brew : Brew}
    (wf : session.workspace.WellFormed) (finds : recipe.source.Finds session.workspace source)
    (due : force = true ∨ session.workspace.Stale source recipe.output)
    (read : session.workspace.read source = .ok (Text.encode text))
    (brews : recipe.options.brew text = .ok brew)
    (foreseen : recipe.preview session.workspace = .ok (source, brew))
    (h : (do
      Recipe.makeRoom recipe.output
      onFile recipe.output
        (FileAccess.write recipe.output (Text.encode (recipe.options.withHeader brew.body)))
      Console.note (.brewed brew.table.size brew.passes)
      return .brewed source recipe.output brew.table.size brew.passes :
        ExceptT RecipeError (StateM Session) Outcome) session = (result, after)) :
    recipe.Cooked force session.workspace result after.workspace := by
  cases hroom : Recipe.makeRoom (m := StateM Session) recipe.output session with
  | mk made middle =>
    obtain ⟨hgrown, hfail⟩ := makeRoom_spec wf hroom
    cases made with
    | error error =>
      rw [run_bind_error hroom] at h
      obtain ⟨rfl, rfl⟩ := Prod.mk.inj h
      obtain ⟨hnone, parent, fault, herror, hparent⟩ := hfail error rfl
      exact .unwritten _ finds hgrown hnone read brews foreseen
        ⟨parent, fault, herror, Or.inr hparent⟩
    | ok _ =>
      rw [run_bind_ok hroom] at h
      obtain ⟨outcome, written, hwrite, hchanged⟩ :=
        run_write recipe.output (Text.encode (recipe.options.withHeader brew.body)) middle
      cases outcome with
      | error fault =>
        rw [run_bind_error (run_onFile_error hwrite)] at h
        obtain ⟨rfl, rfl⟩ := Prod.mk.inj h
        obtain ⟨hleft, hnone⟩ := Workspace.write_error hgrown.wellFormed hchanged
        rw [hleft]
        exact .unwritten _ finds hgrown hnone read brews foreseen
          ⟨recipe.output, fault, rfl, Or.inl rfl⟩
      | ok _ =>
        obtain ⟨told, htold, htoldSame⟩ := exists_run_note (ε := RecipeError)
          (.brewed brew.table.size brew.passes) written
        rw [run_bind_ok (run_onFile_ok hwrite), run_bind_ok htold] at h
        obtain ⟨rfl, rfl⟩ := Prod.mk.inj h
        rw [htoldSame]
        exact .brewed finds due read brews hgrown hchanged foreseen

private theorem brewInto_spec {force : Bool} {result : Except RecipeError Outcome}
    (wf : session.workspace.WellFormed) (finds : recipe.source.Finds session.workspace source)
    (found : look (recipe.source.resolve (m := StateM Session)) session.workspace = .ok source)
    (due : force = true ∨ session.workspace.Stale source recipe.output)
    (h : recipe.brewInto (m := StateM Session) source session = (result, after)) :
    recipe.Cooked force session.workspace result after.workspace := by
  unfold Recipe.brewInto at h
  obtain ⟨opened, hread, hopened, -⟩ := sees_readFile source session
  cases htext : session.workspace.text source with
  | error fault =>
    simp only [htext] at hread
    rw [run_bind_error hread] at h
    obtain ⟨rfl, rfl⟩ := Prod.mk.inj h
    rw [hopened]
    exact .refused _ (Recipe.preview_of_unread found htext)
  | ok text =>
    simp only [htext] at hread
    rw [run_bind_ok hread] at h
    obtain ⟨noted, hrun, hnoted, -⟩ := sees_brewText recipe source text opened
    have hsame : noted.workspace = session.workspace := hnoted.trans hopened
    cases hbrew : recipe.options.brew text with
    | error error =>
      simp only [hbrew] at hrun
      rw [run_bind_error hrun] at h
      obtain ⟨rfl, rfl⟩ := Prod.mk.inj h
      rw [hsame]
      exact .refused _ (Recipe.preview_of_unbrewed found htext hbrew)
    | ok brew =>
      have foreseen := Recipe.preview_of_brewed found htext hbrew
      have hbytes := Workspace.read_of_text htext
      simp only [hbrew] at hrun
      rw [run_bind_ok hrun] at h
      rw [← hsame] at finds due hbytes foreseen wf ⊢
      exact writeOut_spec wf finds due hbytes hbrew foreseen h

theorem cook_spec {force : Bool} {result : Except RecipeError Outcome}
    (wf : session.workspace.WellFormed)
    (h : recipe.cook (m := StateM Session) force session = (result, after)) :
    recipe.Cooked force session.workspace result after.workspace := by
  unfold Recipe.cook at h
  obtain ⟨resolved, hresolve, hsame, -⟩ := onlyLooks_resolve recipe.source session
  cases found : look (recipe.source.resolve (m := StateM Session)) session.workspace with
  | error error =>
    rw [found] at hresolve
    rw [run_bind_error hresolve] at h
    obtain ⟨rfl, rfl⟩ := Prod.mk.inj h
    rw [hsame]
    exact .refused error (Recipe.preview_of_unresolved found)
  | ok source =>
    rw [found] at hresolve
    have hfinds := (resolve_spec hresolve).2 source rfl
    obtain ⟨noted, hnote, hnoted⟩ := exists_run_note (ε := RecipeError)
      (.selected source recipe.output) resolved
    rw [run_bind_ok hresolve, run_bind_ok hnote] at h
    rw [← hsame, ← hnoted] at hfinds found wf ⊢
    have hmodified : FileAccess.modified (m := StateM Session) source noted
        = (noted.workspace.modified source, noted) := rfl
    cases htime : noted.workspace.modified source with
    | error fault =>
      -- The time is asked for first, but the text could not be read either.
      rw [run_bind_error (run_onFile_error (htime ▸ hmodified))] at h
      obtain ⟨rfl, rfl⟩ := Prod.mk.inj h
      exact .refused _ (Recipe.preview_of_unread found (Workspace.text_of_modified htime))
    | ok sourceTime =>
      obtain ⟨stale, hstale, hiff⟩ := run_isStale htime recipe.output
      rw [run_bind_ok (run_onFile_ok (htime ▸ hmodified)), run_bind_ok hstale] at h
      split at h
      next hfresh =>
        obtain ⟨told, htold, hsame'⟩ := exists_run_note (ε := RecipeError) .upToDate noted
        rw [run_bind_ok htold] at h
        obtain ⟨rfl, rfl⟩ := Prod.mk.inj h
        rw [hsame']
        simp only [Bool.and_eq_true, Bool.not_eq_true', ← Bool.not_eq_true] at hfresh
        rw [hiff] at hfresh
        obtain ⟨outputTime, hmade, hnew⟩ := exists_of_not_stale htime hfresh.2
        exact .upToDate hfinds (by simpa using hfresh.1) htime hmade hnew
      next hdue =>
        refine brewInto_spec wf hfinds found ?_ h
        rw [← hiff]
        cases force with
        | true => exact Or.inl rfl
        | false => exact Or.inr (by simpa using hdue)

/-- A fixed source that is no younger than the output is left alone. -/
theorem exists_cook_upToDate {sourceTime outputTime : Time}
    (hsource : recipe.source = .fixed source)
    (there : session.workspace.modified source = .ok sourceTime)
    (made : session.workspace.modified recipe.output = .ok outputTime)
    (new : sourceTime ≤ outputTime) :
    ∃ after, recipe.cook (m := StateM Session) false session
      = (.ok (.upToDate source recipe.output), after) := by
  have hresolve : recipe.source.resolve (m := StateM Session) session = (.ok source, session) := by
    rw [hsource]
    rfl
  obtain ⟨noted, hnote, hnoted⟩ :=
    exists_run_note (ε := RecipeError) (.selected source recipe.output) session
  rw [← hnoted] at there made
  have hmodified : FileAccess.modified (m := StateM Session) source noted
      = (.ok sourceTime, noted) := by
    rw [← there]
    rfl
  obtain ⟨stale, hstale, hiff⟩ := run_isStale there recipe.output
  have hfresh : stale = false := by
    rw [← Bool.not_eq_true, hiff]
    rintro ⟨time, htime, hlate⟩
    obtain rfl := Except.ok.inj (htime.symm.trans there)
    exact Int.not_lt.2 new (hlate outputTime made)
  subst hfresh
  obtain ⟨told, htold, -⟩ := exists_run_note (ε := RecipeError) .upToDate noted
  refine ⟨told, ?_⟩
  unfold Recipe.cook
  rw [run_bind_ok hresolve, run_bind_ok hnote, run_bind_ok (run_onFile_ok hmodified),
    run_bind_ok hstale]
  exact run_bind_ok htold

end Session

end GrammarBrew
