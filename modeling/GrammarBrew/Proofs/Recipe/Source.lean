import GrammarBrew.Proofs.Files.Workspace
import GrammarBrew.Proofs.Recipe.Version
import GrammarBrew.Proofs.Session
import GrammarBrew.Proofs.Text.Utf8

/-!
Which file the source is. The newest version in a directory stands right below where the directory's
path leads, under the name that its candidate has.
-/

set_option autoImplicit false
set_option relaxedAutoImplicit false

namespace GrammarBrew

open FileTree

/-- The candidate that a file in the source directory is. -/
def Candidate.ofFile? (pattern : Text) (file : Bytes) : Option Candidate :=
  match Pattern.parse (wholeName pattern) with
  | .error _ => none
  | .ok regex => (Text.decode? file).bind (ofName? (Machine.ofRegex regex))

private theorem Candidate.encode_name {pattern : Text} {file : Bytes} {candidate : Candidate}
    (h : ofFile? pattern file = some candidate) : Text.encode candidate.name = file := by
  unfold ofFile? at h
  split at h
  · simp at h
  · obtain ⟨name, hname, hmatch⟩ := Option.bind_eq_some_iff.1 h
    obtain ⟨captures, -, rfl⟩ := Option.map_eq_some_iff.1 hmatch
    exact Text.encode_of_decode? hname

def SourceSelector.Finds (workspace : Workspace) (source : Path) : SourceSelector → Prop
  | .fixed path => source = path
  | .latest directory pattern =>
    ∃ files newest, workspace.regularFiles directory = .ok files ∧
      Candidate.newest? (files.filterMap (Candidate.ofFile? pattern)) = some newest ∧
      source = directory.join (Text.encode newest.name)

/-- The newest candidate among the files at a location. -/
structure Newest (tree : FileTree) (spot : Location) (pattern : Text)
    (newest : Candidate) : Prop where
  listed : ∃ content modified, tree.get? (spot ++ [Text.encode newest.name])
    = some (.file content modified)
  isCandidate : Candidate.ofFile? pattern (Text.encode newest.name) = some newest
  greatest : ∀ name candidate content modified,
    tree.get? (spot ++ [name]) = some (.file content modified) →
    Candidate.ofFile? pattern name = some candidate → newest.isOlder candidate = false

theorem SourceSelector.Finds.exists_newest {workspace : Workspace} {source directory : Path}
    {pattern : Text}
    (h : (latest directory pattern).Finds workspace source) :
    ∃ spot newest, workspace.locate .entry directory = .ok (.found spot) ∧
      workspace.tree.kind? spot = some .directory ∧ Newest workspace.tree spot pattern newest ∧
      source = directory.join (Text.encode newest.name) := by
  obtain ⟨files, newest, hfiles, hnewest, hsource⟩ := h
  obtain ⟨spot, hlocate, hspot, rfl⟩ := Workspace.regularFiles_eq_ok_iff.1 hfiles
  obtain ⟨hmem, hnone⟩ := Candidate.newest?_spec hnewest
  obtain ⟨name, hlisted, hcandidate⟩ := List.mem_filterMap.1 hmem
  obtain rfl := Candidate.encode_name hcandidate
  refine ⟨spot, newest, hlocate, hspot, ⟨mem_regularFiles_iff.1 hlisted, hcandidate, ?_⟩, hsource⟩
  intro name candidate content modified hfile hname
  exact hnone candidate (List.mem_filterMap.2 ⟨name, mem_regularFiles_iff.2 ⟨_, _, hfile⟩, hname⟩)

namespace Session

variable {session after : Session} {result : Except RecipeError Path} {selector : SourceSelector}

private theorem findLatest_spec {directory : Path} {pattern : Text}
    (h : findLatest (m := StateM Session) directory pattern session = (result, after)) :
    after.workspace = session.workspace ∧
      ∀ source, result = .ok source →
        (SourceSelector.latest directory pattern).Finds session.workspace source := by
  unfold findLatest at h
  cases hparse : Pattern.parse (Candidate.wholeName pattern) with
  | error fault =>
    rw [hparse] at h
    obtain ⟨rfl, rfl⟩ := Prod.mk.inj h
    exact ⟨rfl, by simp⟩
  | ok regex =>
    rw [hparse] at h
    have hrun : FileAccess.regularFiles (m := StateM Session) directory session
        = (session.workspace.regularFiles directory, session) := rfl
    cases hfiles : session.workspace.regularFiles directory with
    | error fault =>
      simp only [run_bind_error (run_onFile_error (hfiles ▸ hrun))] at h
      obtain ⟨rfl, rfl⟩ := Prod.mk.inj h
      exact ⟨rfl, by simp⟩
    | ok files =>
      obtain ⟨noted, hnote, hsame⟩ := exists_run_note (ε := RecipeError)
        (.scanned directory (files.filterMap Text.decode?).length) session
      simp only [run_bind_ok (run_onFile_ok (hfiles ▸ hrun)), run_bind_ok hnote] at h
      have hcandidates :
          (files.filterMap Text.decode?).filterMap (Candidate.ofName? (Machine.ofRegex regex))
          = files.filterMap (Candidate.ofFile? pattern) := by
        rw [List.filterMap_filterMap]
        refine List.filterMap_congr fun file _ => ?_
        rw [Candidate.ofFile?, hparse]
      rw [newestName?, hcandidates] at h
      cases hnewest : Candidate.newest? (files.filterMap (Candidate.ofFile? pattern)) with
      | none =>
        rw [hnewest] at h
        obtain ⟨rfl, rfl⟩ := Prod.mk.inj h
        exact ⟨hsame, by simp⟩
      | some newest =>
        rw [hnewest] at h
        obtain ⟨rfl, rfl⟩ := Prod.mk.inj h
        refine ⟨hsame, fun source hsource => ?_⟩
        exact ⟨files, newest, hfiles, hnewest, (Except.ok.inj hsource).symm⟩

theorem resolve_spec (h : selector.resolve (m := StateM Session) session = (result, after)) :
    after.workspace = session.workspace ∧
      ∀ source, result = .ok source → selector.Finds session.workspace source := by
  cases selector with
  | latest directory pattern => exact findLatest_spec h
  | fixed path =>
    obtain ⟨rfl, rfl⟩ := Prod.mk.inj h
    exact ⟨rfl, fun source hsource => (Except.ok.inj hsource).symm⟩

end Session

end GrammarBrew
