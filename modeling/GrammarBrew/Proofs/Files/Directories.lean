import GrammarBrew.Proofs.Files.Workspace
import GrammarBrew.Proofs.Session

/-!
Making a directory and those it lies in. Whatever comes of it, nothing but directories has come
where nothing stood; and where it fails, the directory is not there.
-/

set_option autoImplicit false
set_option relaxedAutoImplicit false

namespace GrammarBrew

open FileTree

namespace Workspace

variable {workspace middle later : Workspace} {aim : Aim} {path parent : Path}
  {goal spot : Location}
  {content : Bytes} {modified : Time} {kind : Entry.Kind}

/-! ### Workspaces that grow -/

/-- A workspace in which directories have come, and nothing else has changed. -/
structure Grown (workspace later : Workspace) : Prop where
  view : ∀ there, later.tree.view? there = workspace.tree.view? there ∨
    (workspace.tree.view? there = none ∧ later.tree.view? there = some (.directory 0))
  here : later.here = workspace.here
  clock : workspace.clock ≤ later.clock
  wellFormed : later.WellFormed

private theorem Grown.refl (wf : workspace.WellFormed) : Grown workspace workspace :=
  ⟨fun _ => Or.inl rfl, rfl, Int.le_refl _, wf⟩

private theorem Grown.trans (h : Grown workspace middle) (h' : Grown middle later) :
    Grown workspace later := by
  refine ⟨fun there => ?_, h'.here.trans h.here, Int.le_trans h.clock h'.clock, h'.wellFormed⟩
  rcases h'.view there with heq | ⟨hnone, hdirectory⟩
  · rw [heq]
    exact h.view there
  · rcases h.view there with heq | ⟨-, hdirectory'⟩
    · exact Or.inr ⟨heq ▸ hnone, hdirectory⟩
    · simp [hnone] at hdirectory'

private theorem Changed.grown (h : Changed workspace later spot (some (.directory 0)))
    (habsent : workspace.tree.kind? spot = none) (wf : later.WellFormed) :
      Grown workspace later := by
  refine ⟨fun there => ?_, h.here, h.clock ▸ Int.le_add_one (Int.le_refl _), wf⟩
  rw [h.view, Function.update_apply]
  split
  next heq =>
    refine Or.inr ⟨?_, rfl⟩
    rw [heq]
    simpa [kind?_eq_view?] using habsent
  · exact Or.inl rfl

theorem Grown.keeps (h : Grown workspace later) (there : Location) (kind : Entry.Kind)
    (hthere : workspace.tree.kind? there = some kind) : later.tree.kind? there = some kind := by
  rw [kind?_eq_view?] at hthere ⊢
  rcases h.view there with heq | ⟨hnone, -⟩
  · rw [heq, hthere]
  · simp [hnone] at hthere

theorem Grown.get?_eq_file_iff (h : Grown workspace later) (there : Location) :
    later.tree.get? there = some (.file content modified)
      ↔ workspace.tree.get? there = some (.file content modified) := by
  rw [FileTree.get?_eq_file_iff, FileTree.get?_eq_file_iff]
  rcases h.view there with heq | ⟨hnone, hdirectory⟩
  · rw [heq]
  · simp [hnone, hdirectory]

theorem Grown.locate_found (h : Grown workspace later)
    (hlocate : workspace.locate aim path = .ok (.found goal)) :
    later.locate aim path = .ok (.found goal) := by
  obtain ⟨hspelled, hleads⟩ := locate_eq_ok_iff.1 hlocate
  refine locate_eq_ok_iff.2 ⟨hspelled, ?_⟩
  have horigin : later.origin path = workspace.origin path := by rw [origin, origin, h.here]
  rw [horigin]
  exact hleads.found_mono h.keeps

theorem Grown.entry_file (h : Grown workspace later)
    (hentry : workspace.entry path = .ok (.file content modified)) :
    later.entry path = .ok (.file content modified) := by
  obtain ⟨location, hlocate, hget⟩ := entry_eq_ok_iff.1 hentry
  exact entry_eq_ok_iff.2 ⟨location, h.locate_found hlocate, (h.get?_eq_file_iff location).2 hget⟩

structure GrownAlong (paths : List Path)
    (workspace later : Workspace) : Prop extends Grown workspace later where
  along : ∀ there, later.tree.view? there ≠ workspace.tree.view? there →
    ∃ path ∈ paths, later.locate .entry path = .ok (.found there)

variable {paths others : List Path}

theorem GrownAlong.refl (wf : workspace.WellFormed) : GrownAlong paths workspace workspace :=
  ⟨.refl wf, fun _ hchange => absurd rfl hchange⟩

private theorem GrownAlong.trans (h : GrownAlong paths workspace middle)
    (h' : GrownAlong paths middle later) :
    GrownAlong paths workspace later := by
  refine ⟨h.toGrown.trans h'.toGrown, fun there hchange => ?_⟩
  by_cases hlater : later.tree.view? there = middle.tree.view? there
  · obtain ⟨path, hpath, hlocate⟩ := h.along there (hlater ▸ hchange)
    exact ⟨path, hpath, h'.locate_found hlocate⟩
  · exact h'.along there hlater

private theorem GrownAlong.mono (h : GrownAlong paths workspace later) (hpaths : paths ⊆ others) :
    GrownAlong others workspace later := by
  refine ⟨h.toGrown, fun there hchange => ?_⟩
  obtain ⟨path, hpath, hlocate⟩ := h.along there hchange
  exact ⟨path, hpaths hpath, hlocate⟩

private theorem Changed.grownAlong (h : Changed workspace later spot (some (.directory 0)))
    (habsent : workspace.tree.kind? spot = none)
    (hlocate : later.locate .entry path = .ok (.found spot))
    (wf : later.WellFormed) : GrownAlong [path] workspace later := by
  refine ⟨h.grown habsent wf, fun there hchange => ⟨path, by simp, ?_⟩⟩
  obtain rfl : there = spot := by
    by_contra hne
    exact hchange (by rw [h.view, Function.update_of_ne hne])
  exact hlocate

/-! ### A directory and what lies in it -/

private theorem isDirectory_root : workspace.isDirectory [Path.slash] = true := by
  have hspelled : Spelled [Path.slash] := ⟨by decide, by simp, by decide⟩
  refine isDirectory_iff.2 ⟨[], locate_eq_ok_iff.2 ⟨hspelled, ?_⟩, kind?_root⟩
  exact .stay kind?_root (Or.inl rfl) .here

/-- Where a path leads somewhere, the path that it lies in leads to a directory. -/
theorem isDirectory_parent (hlocate : workspace.locate .entry path = .ok (.found goal))
    (hparent : path.parent? = some parent) (hne : parent ≠ []) :
    workspace.isDirectory parent = true := by
  obtain ⟨hspelled, hleads⟩ := locate_eq_ok_iff.1 hlocate
  rcases Path.parent?_cases hparent with hnil | ⟨rfl, -⟩ | ⟨rest, rfl⟩
  · exact absurd hnil hne
  · exact isDirectory_root
  · obtain ⟨more, hmore, hnames⟩ : ∃ more, more ≠ [] ∧
        (parent ++ Path.slash :: rest).names = parent.named ++ more := Path.names_append_slash
    rw [hnames] at hleads
    obtain ⟨middle, fewer, hfirst, hlast⟩ := hleads.split
    obtain ⟨name, others, rfl⟩ := List.exists_cons_of_ne_nil hmore
    have inside := hlast.isDirectory
    have horigin : workspace.origin (parent ++ Path.slash :: rest) = workspace.origin parent := by
      obtain ⟨b, front, rfl⟩ := List.exists_cons_of_ne_nil hne
      rfl
    rw [horigin] at hfirst
    have hspelled' : Spelled parent := by
      refine ⟨fun hmem => hspelled.noNul (List.mem_append_left _ hmem), hne, ?_⟩
      have hfits := hspelled.fits
      rw [List.length_append] at hfits
      omega
    exact isDirectory_iff.2 ⟨middle, locate_of_named hspelled' hfirst inside, inside⟩

private theorem locate_named (hlocate : workspace.locate .entry path = .ok (.found goal)) :
    Spelled path ∧ Leads workspace.tree .entry linkLimit (workspace.origin path) path.named
      (.found goal) := by
  obtain ⟨hspelled, hleads⟩ := locate_eq_ok_iff.1 hlocate
  refine ⟨hspelled, ?_⟩
  by_cases hslash : path.getLast? = some Path.slash
  · rw [Path.names_eq_of_slash hslash] at hleads
    exact hleads.isDirectory_of_slash.2
  · rwa [Path.names_eq_of_no_slash hslash] at hleads

theorem eq_of_locate_join {directory : Path} {name : Bytes}
    (hdirectory : workspace.locate .entry directory = .ok (.found spot)) (hname : IsName name)
    (hlink : ∀ target, workspace.tree.kind? (spot ++ [name]) ≠ some (.link target))
    (h : workspace.locate .entry (directory.join name) = .ok (.found goal)) :
      goal = spot ++ [name] := by
  obtain ⟨hspelled, hspot⟩ := locate_named hdirectory
  have hne : name ≠ [] := fun hne => hname.moves (Or.inl hne)
  have hleads := (locate_eq_ok_iff.1 h).2
  rw [Path.names_join hspelled.ne hne hname.noSlash, origin, Path.isAbsolute_join hspelled.ne,
    ← origin]
    at hleads
  obtain ⟨middle, fewer, hmiddle, hlast⟩ := hleads.split
  obtain rfl := Place.found.inj (hmiddle.unique hspot)
  cases hlast with
  | stay _ stays => exact absurd stays hname.moves
  | up _ goesUp => exact absurd goesUp hname.descends
  | down _ _ _ _ onward => exact Place.found.inj (onward.unique .here)
  | through _ _ there => exact absurd there (hlink _)

private theorem makeDirectory_of_isDirectory (h : workspace.isDirectory path = true) :
    workspace.makeDirectory path = (.error .alreadyExists, workspace) := by
  obtain ⟨goal, hlocate, -⟩ := isDirectory_iff.1 h
  obtain ⟨hspelled, hleads⟩ := locate_named hlocate
  obtain ⟨there, hthere⟩ := hleads.itself_of_entry
  exact makeDirectory_of_found (walkFrom_eq_ok_iff.2 ⟨hspelled, hthere⟩)

theorem exists_makeDirectory (wf : workspace.WellFormed) (path : Path) :
    ∃ result later, workspace.makeDirectory path = (result, later) ∧
      GrownAlong [path] workspace later ∧ ∀ fault, result = .error fault → later = workspace := by
  rcases makeDirectory_cases wf path with
    ⟨fault, hfail⟩ | ⟨later, spot, hmade, hchanged, habsent, hlocate, wf'⟩
  · exact ⟨_, _, hfail, .refl wf, fun _ _ => rfl⟩
  · exact ⟨_, _, hmade, hchanged.grownAlong habsent hlocate wf', by simp⟩

end Workspace

namespace Session

open FileAccess Workspace

variable {session after : Session} {result : Except FileFault Unit} {path parent : Path}
  {fault : FileFault}

private theorem unlessDirectory_spec
    (h : unlessDirectory (m := StateM Session) path fault session = (result, after)) :
    after = session ∧ ∀ fault, result = .error fault → session.workspace.isDirectory path
      = false := by
  have hrun : FileAccess.isDirectory (m := StateM Session) path session
      = (session.workspace.isDirectory path, session) := rfl
  rw [unlessDirectory, run_bind hrun] at h
  cases hdirectory : session.workspace.isDirectory path with
  | true =>
    rw [hdirectory, if_pos rfl] at h
    obtain ⟨rfl, rfl⟩ := Prod.mk.inj h
    exact ⟨rfl, by simp⟩
  | false =>
    rw [hdirectory, if_neg (by simp)] at h
    exact ⟨(Prod.mk.inj h).2.symm, fun _ _ => rfl⟩

private theorem exists_run_makeDirectory (wf : session.workspace.WellFormed) (path : Path) :
    ∃ result after, makeDirectory (m := StateM Session) path session = (result, after) ∧
      GrownAlong [path] session.workspace after.workspace ∧
        (∀ fault, result = .error fault → after = session) ∧
      (result = .error .notFound → session.workspace.isDirectory path = false) := by
  obtain ⟨result, later, hmake, hgrown, hsame⟩ := exists_makeDirectory wf path
  have hrun : makeDirectory (m := StateM Session) path session
      = (result, { session with workspace := later }) := by
    show Session.change (Workspace.makeDirectory · path) session = _
    simp only [Session.change, hmake]
  refine ⟨result, _, hrun, hgrown, fun fault hfault => by rw [hsame fault hfault], ?_⟩
  rintro rfl
  rw [← Bool.not_eq_true]
  intro hdirectory
  simp [makeDirectory_of_isDirectory hdirectory] at hmake

private theorem makeFirst_cons {parents : List Path} (wf : session.workspace.WellFormed)
    (hparents : ∀ {middle : Session} {result : Except FileFault Unit} {after : Session},
      middle.workspace.WellFormed → middle.workspace.isDirectory path = false →
      makeFirst (m := StateM Session) parents middle = (result, after) →
      GrownAlong parents middle.workspace after.workspace ∧
        ∀ fault, result = .error fault → after.workspace.isDirectory path = false)
    (h : makeFirst (m := StateM Session) (path :: parents) session = (result, after)) :
    GrownAlong (path :: parents) session.workspace after.workspace ∧
      ∀ fault, result = .error fault → after.workspace.isDirectory path = false := by
  have hfirst : [path] ⊆ path :: parents := by simp
  have hothers : parents ⊆ path :: parents := List.subset_cons_self path parents
  by_cases hempty : path.isEmpty = true
  · rw [makeFirst, if_pos hempty] at h
    obtain ⟨rfl, rfl⟩ := Prod.mk.inj h
    exact ⟨.refl wf, by simp⟩
  rw [makeFirst, if_neg hempty] at h
  obtain ⟨first, made, hmake, hgrown, hsame, habsent⟩ := exists_run_makeDirectory wf path
  rw [run_bind hmake] at h
  cases first with
  | ok _ =>
    obtain ⟨rfl, rfl⟩ := Prod.mk.inj h
    exact ⟨hgrown.mono hfirst, by simp⟩
  | error fault =>
    obtain rfl := hsame fault rfl
    by_cases hfault : fault = .notFound
    · -- Something above is missing: it is made first, and then the directory is tried again.
      subst hfault
      cases hrun : makeFirst (m := StateM Session) parents made with
      | mk others middle =>
        obtain ⟨hmiddle, hnone⟩ := hparents wf (habsent rfl) hrun
        simp only [run_bind hrun] at h
        cases others with
        | error fault =>
          obtain ⟨rfl, rfl⟩ := Prod.mk.inj h
          exact ⟨hmiddle.mono hothers, hnone⟩
        | ok _ =>
          obtain ⟨again, last, hagain, hlast, hsame', -⟩ :=
            exists_run_makeDirectory hmiddle.wellFormed path
          simp only [run_bind hagain] at h
          cases again with
          | ok _ =>
            obtain ⟨rfl, rfl⟩ := Prod.mk.inj h
            exact ⟨(hmiddle.mono hothers).trans (hlast.mono hfirst), by simp⟩
          | error fault =>
            obtain rfl := hsame' fault rfl
            obtain ⟨rfl, hnone⟩ := unlessDirectory_spec h
            exact ⟨hmiddle.mono hothers, hnone⟩
    · have hunless : unlessDirectory (m := StateM Session) path fault made = (result, after) := by
        cases fault <;> first | exact absurd rfl hfault | exact h
      obtain ⟨rfl, hnone⟩ := unlessDirectory_spec hunless
      exact ⟨hgrown.mono hfirst, hnone⟩

private theorem makeFirst_nil (wf : session.workspace.WellFormed)
    (hnone : session.workspace.isDirectory path = false)
    (h : makeFirst (m := StateM Session) [] session = (result, after)) :
    GrownAlong [] session.workspace after.workspace ∧
      ∀ fault, result = .error fault → after.workspace.isDirectory path = false := by
  obtain ⟨rfl, rfl⟩ := Prod.mk.inj h
  exact ⟨.refl wf, fun _ _ => hnone⟩

private theorem makeFirst_spec (bound : Nat) (wf : session.workspace.WellFormed)
    (h : makeFirst (m := StateM Session) (path.ancestorsUpTo bound) session = (result, after)) :
    GrownAlong (path.ancestorsUpTo bound) session.workspace after.workspace ∧
      ∀ fault, result = .error fault → after.workspace.isDirectory path = false := by
  induction bound generalizing path session result after with
  | zero => exact makeFirst_cons wf makeFirst_nil h
  | succ bound ih =>
    cases hparent : path.parent? with
    | none =>
      simp only [Path.ancestorsUpTo, hparent] at h ⊢
      exact makeFirst_cons wf makeFirst_nil h
    | some parent =>
      simp only [Path.ancestorsUpTo, hparent] at h ⊢
      refine makeFirst_cons wf ?_ h
      intro middle result after wf hnone h
      obtain ⟨hgrown, hfail⟩ := ih wf h
      refine ⟨hgrown, ?_⟩
      rintro fault rfl
      rw [← Bool.not_eq_true]
      intro hdirectory
      obtain ⟨goal, hlocate, -⟩ := isDirectory_iff.1 hdirectory
      by_cases hne : parent = []
      · subst hne
        have hancestors : Path.ancestorsUpTo bound [] = [[]] := by cases bound <;> rfl
        rw [hancestors] at h
        exact nomatch (Prod.mk.inj h).1
      · simp [isDirectory_parent hlocate hparent hne] at hfail

theorem makeDirectories_spec (wf : session.workspace.WellFormed)
    (h : makeDirectories (m := StateM Session) path session = (result, after)) :
    GrownAlong path.ancestors session.workspace after.workspace ∧
      ∀ fault, result = .error fault → after.workspace.isDirectory path = false :=
  makeFirst_spec path.length wf h

end Session

end GrammarBrew
