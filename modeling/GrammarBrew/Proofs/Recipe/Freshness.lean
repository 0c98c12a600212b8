import GrammarBrew.Proofs.Recipe.Cook

/-!
An output that counts as new. The source is picked by version and the output's age is taken by the
clock; the two rules agree as long as the version that was brewed last is still there. Once it has
gone, an older version counts as brewed although it never was.
-/

set_option autoImplicit false
set_option relaxedAutoImplicit false

namespace GrammarBrew

open FileTree

/-- The regular file that a path leads to, with the moment of its last change. -/
def Workspace.file? (workspace : Workspace) (path : Path) : Option (Bytes × Time) :=
  match workspace.entry path with
  | .ok (.file content modified) => some (content, modified)
  | _ => none

def SourceSelector.Selects (workspace : Workspace) (location : Location) : SourceSelector → Prop
  | .fixed path => workspace.locate .entry path = .ok (.found location)
  | .latest directory pattern =>
    ∃ spot name, workspace.locate .entry directory = .ok (.found spot) ∧ location = spot ++ [name] ∧
      Candidate.ofFile? pattern name ≠ none

/-- The output is no file that the recipe's pattern selects. -/
def Recipe.Apart (recipe : Recipe) (workspace : Workspace) : Prop :=
  ∀ location, workspace.locate .entry recipe.output = .ok (.found location) →
    ¬ recipe.source.Selects workspace location

/-- The source that was brewed last, after a recipe has been followed. -/
def lastBrewed (last : Option Path) : Except RecipeError Outcome → Option Path
  | .ok (.brewed source _ _ _) => some source
  | _ => last

/-- Runs that begin without an output, in which files are written and removed, but not the output,
and the recipe is followed at any time; with the source that was brewed last. -/
inductive Recipe.Run (recipe : Recipe) : Session → Option Path → Prop
  | start {session : Session} (wf : session.workspace.WellFormed)
      (missing : session.workspace.file? recipe.output = none) : Run recipe session none
  | write {session : Session} {last : Option Path} {result : Except FileFault Unit}
    {later : Workspace}
      (before : Run recipe session last) (path : Path) (content : Bytes)
      (writes : session.workspace.write path content = (result, later))
      (untouched : later.file? recipe.output = session.workspace.file? recipe.output) :
      Run recipe { session with workspace := later } last
  | remove {session : Session} {last : Option Path} {result : Except FileFault Unit}
    {later : Workspace}
      (before : Run recipe session last) (path : Path)
      (removes : session.workspace.remove path = (result, later))
      (untouched : later.file? recipe.output = session.workspace.file? recipe.output) :
      Run recipe { session with workspace := later } last
  | cook {session after : Session} {last : Option Path} {result : Except RecipeError Outcome}
      (before : Run recipe session last) (force : Bool)
      (cooks : recipe.cook (m := StateM Session) force session = (result, after))
      (apart : recipe.Apart after.workspace) : Run recipe after (lastBrewed last result)

namespace Workspace

variable {workspace middle later : Workspace} {path output directory : Path} {content : Bytes}
  {modified moment : Time}
  {spot location : Location} {pattern text : Text} {newest : Candidate}

theorem file?_eq_some_iff :
    workspace.file? path = some (content, modified)
      ↔ workspace.entry path = .ok (.file content modified) := by
  unfold file?
  cases workspace.entry path with
  | error fault => simp
  | ok entry => cases entry <;> simp

theorem file?_of_not_isRegular (h : workspace.isRegular path = false) :
    workspace.file? path = none := by
  rw [Option.eq_none_iff_forall_ne_some]
  rintro ⟨content, modified⟩ hfile
  rw [← Bool.not_eq_true, isRegular_iff] at h
  exact h ⟨content, modified, file?_eq_some_iff.1 hfile⟩

/-! ### The source directory since a moment -/

/-- What holds of the source directory since its newest version was brewed: whatever is not younger
counts no more than that version, which has the text that was brewed. -/
structure Since (workspace : Workspace) (directory : Path) (pattern : Text) (spot : Location)
    (newest : Candidate) (text : Text) (moment : Time) : Prop where
  past : moment < workspace.clock
  leads : ∀ there, workspace.locate .entry directory = .ok (.found there) →
    workspace.tree.kind? there = some .directory → there = spot
  isName : IsName (Text.encode newest.name)
  isCandidate : Candidate.ofFile? pattern (Text.encode newest.name) = some newest
  noLink : ∀ target, workspace.tree.kind? (spot ++ [Text.encode newest.name]) ≠ some (.link target)
  greatest : ∀ name candidate content modified,
    workspace.tree.get? (spot ++ [name]) = some (.file content modified) → modified ≤ moment →
    Candidate.ofFile? pattern name = some candidate → newest.isOlder candidate = false
  same : ∀ content modified,
    workspace.tree.get? (spot ++ [Text.encode newest.name]) = some (.file content modified) →
    modified ≤ moment → content = Text.encode text

private theorem Since.step (h : Since workspace directory pattern spot newest text moment)
    (hclock : workspace.clock ≤ later.clock)
    (hleads : ∀ there, later.locate .entry directory = .ok (.found there) →
      later.tree.kind? there = some .directory →
      workspace.locate .entry directory = .ok (.found there) ∧
        workspace.tree.kind? there = some .directory)
    (hlinks : ∀ there target, later.tree.kind? there = some (.link target) →
      workspace.tree.kind? there = some (.link target))
    (hfiles : ∀ there content modified, later.tree.get? there = some (.file content modified) →
      modified ≤ moment → workspace.tree.get? there = some (.file content modified)) :
    Since later directory pattern spot newest text moment := by
  refine ⟨Int.lt_of_lt_of_le h.past hclock, ?_, h.isName, h.isCandidate, ?_, ?_, ?_⟩
  · intro there hlocate hdirectory
    obtain ⟨hlocate, hdirectory⟩ := hleads there hlocate hdirectory
    exact h.leads there hlocate hdirectory
  · exact fun target htarget => h.noLink target (hlinks _ target htarget)
  · intro name candidate content modified hthere hmoment
    exact h.greatest name candidate content modified (hfiles _ _ _ hthere hmoment) hmoment
  · intro content modified hthere hmoment
    exact h.same content modified (hfiles _ _ _ hthere hmoment) hmoment

private theorem Since.write {target : Path}
    (h : Since workspace directory pattern spot newest text moment)
    (hwritten : Written workspace target content later location) :
    Since later directory pattern spot newest text moment := by
  have hkind : ∀ there kind, later.tree.kind? there = some kind → kind ≠ .file →
      workspace.tree.kind? there = some kind := by
    intro there kind hthere hkind
    rw [hwritten.change.kind?] at hthere
    split at hthere
    · exact absurd (Option.some.inj hthere).symm hkind
    · exact hthere
  refine h.step ?_ ?_ ?_ ?_
  · exact hwritten.change.clock ▸ Int.le_add_one (Int.le_refl _)
  · intro there hlocate hdirectory
    exact ⟨hwritten.locate_directory hlocate hdirectory, hkind there _ hdirectory (by simp)⟩
  · exact fun there target htarget => hkind there _ htarget (by simp)
  · intro there content modified hthere hmoment
    rw [hwritten.change.get?_eq_file_iff] at hthere
    split at hthere
    · obtain ⟨-, rfl⟩ := Entry.file.inj (Option.some.inj hthere)
      exact absurd h.past (Int.not_lt.2 hmoment)
    · exact FileTree.get?_eq_file_iff.2 hthere

private theorem Since.remove (h : Since workspace directory pattern spot newest text moment)
    (hchanged : Changed workspace later location none) :
    Since later directory pattern spot newest text moment := by
  have hkind : ∀ there kind, later.tree.kind? there = some kind →
      workspace.tree.kind? there = some kind := by
    intro there kind hthere
    rw [hchanged.kind?] at hthere
    split at hthere
    · simp at hthere
    · exact hthere
  refine h.step ?_ ?_ ?_ ?_
  · exact hchanged.clock ▸ Int.le_add_one (Int.le_refl _)
  · exact fun there hlocate hdirectory =>
      ⟨hchanged.locate_of_gone hlocate, hkind there _ hdirectory⟩
  · exact fun there target => hkind there _
  · intro there content modified hthere _
    rw [hchanged.get?_eq_file_iff] at hthere
    split at hthere
    · simp at hthere
    · exact FileTree.get?_eq_file_iff.2 hthere

private theorem get?_of_entry_join (hlocate : workspace.locate .entry directory = .ok (.found spot))
    (hname : IsName (Text.encode newest.name))
    (hlink : ∀ target, workspace.tree.kind? (spot ++ [Text.encode newest.name])
      ≠ some (.link target))
    {entry : Entry} (hentry : workspace.entry (directory.join (Text.encode newest.name))
      = .ok entry) :
    workspace.tree.get? (spot ++ [Text.encode newest.name]) = some entry := by
  obtain ⟨goal, hgoal, hget⟩ := entry_eq_ok_iff.1 hentry
  obtain rfl := eq_of_locate_join hlocate hname hlink hgoal
  exact hget

private theorem exists_read_newest (wf : workspace.WellFormed)
    (hlocate : workspace.locate .entry directory = .ok (.found spot))
    (hnewest : Newest workspace.tree spot pattern newest)
    (htime : workspace.modified (directory.join (Text.encode newest.name)) = .ok modified) :
    ∃ content, workspace.read (directory.join (Text.encode newest.name)) = .ok content ∧
      workspace.tree.get? (spot ++ [Text.encode newest.name]) = some (.file content modified) := by
  obtain ⟨old, made, hlisted⟩ := hnewest.listed
  have hname : IsName (Text.encode newest.name) :=
    wf.tree.isName spot _ (by simp [kind?_eq_file hlisted])
  have hlink : ∀ target, workspace.tree.kind? (spot ++ [Text.encode newest.name])
      ≠ some (.link target) := by
    simp [kind?_eq_file hlisted]
  rcases modified_eq_ok_iff.1 htime with ⟨content, hentry⟩ | hentry
  · exact ⟨content, read_eq_ok_iff.2 ⟨_, hentry⟩, get?_of_entry_join hlocate hname hlink hentry⟩
  · have hget := get?_of_entry_join hlocate hname hlink hentry
    simp [hlisted] at hget

private theorem Since.start (wf : workspace.WellFormed)
    (hlocate : workspace.locate .entry directory = .ok (.found spot))
    (hnewest : Newest workspace.tree spot pattern newest)
    (hread : workspace.read (directory.join (Text.encode newest.name)) = .ok (Text.encode text))
    (hgrown : workspace.Grown middle) (hwritten : Written middle output content later location)
    (hapart : ¬ (SourceSelector.latest directory pattern).Selects later location) :
    Since later directory pattern spot newest text middle.clock := by
  obtain ⟨old, made, hlisted⟩ := hnewest.listed
  have hname : IsName (Text.encode newest.name) :=
    wf.tree.isName spot _ (by simp [kind?_eq_file hlisted])
  have hmiddle := hgrown.locate_found hlocate
  have hlater := hwritten.locate_found hmiddle
  have hkind : later.tree.kind? (spot ++ [Text.encode newest.name]) = some .file :=
    hwritten.keeps _ _ (hgrown.keeps _ _ (kind?_eq_file hlisted))
  -- The output is no candidate, so the candidates are those that there were.
  have hget : ∀ name candidate content modified, Candidate.ofFile? pattern name = some candidate →
      later.tree.get? (spot ++ [name]) = some (.file content modified) →
      workspace.tree.get? (spot ++ [name]) = some (.file content modified) := by
    intro name candidate content modified hcandidate hthere
    rw [hwritten.change.get?_eq_file_iff, if_neg ?_] at hthere
    · exact (hgrown.get?_eq_file_iff _).1 (FileTree.get?_eq_file_iff.2 hthere)
    · intro heq
      exact hapart ⟨spot, name, hlater, heq.symm, by simp [hcandidate]⟩
  refine ⟨?_, ?_, hname, hnewest.isCandidate, by simp [hkind], ?_, ?_⟩
  · rw [hwritten.change.clock]
    exact Int.lt_succ _
  · intro there hthere hdirectory
    have hback := hwritten.locate_directory hthere hdirectory
    rw [hmiddle] at hback
    exact (Place.found.inj (Except.ok.inj hback)).symm
  · intro name candidate content modified hthere _ hcandidate
    exact hnewest.greatest name candidate content modified
      (hget _ _ _ _ hcandidate hthere) hcandidate
  · intro content modified hthere _
    have hthere := hget _ _ _ _ hnewest.isCandidate hthere
    obtain ⟨time, hentry⟩ := read_eq_ok_iff.1 hread
    have hentry := get?_of_entry_join hlocate hname (by simp [kind?_eq_file hlisted]) hentry
    exact (Entry.file.inj (Option.some.inj (hthere.symm.trans hentry))).1

end Workspace

namespace Recipe

open Workspace

variable {recipe : Recipe} {directory : Path} {pattern : Text} {workspace later : Workspace}
  {last : Option Path} {session after : Session}

def Fresh (recipe : Recipe) (directory : Path) (pattern : Text) (workspace : Workspace)
    (last : Option Path) : Prop :=
  ∀ content modified, workspace.file? recipe.output = some (content, modified) →
    ∃ spot newest text brew, last = some (directory.join (Text.encode newest.name)) ∧
      recipe.options.brew text = .ok brew ∧
      content = Text.encode (recipe.options.withHeader brew.body) ∧
      Since workspace directory pattern spot newest text modified

private theorem Fresh.step (h : recipe.Fresh directory pattern workspace last)
    (untouched : later.file? recipe.output = workspace.file? recipe.output)
    (hsince : ∀ spot newest text moment, Since workspace directory pattern spot newest text moment →
      Since later directory pattern spot newest text moment) :
    recipe.Fresh directory pattern later last := by
  intro content modified hfile
  obtain ⟨spot, newest, text, brew, hlast, hbrew, hcontent, since⟩ :=
    h content modified (untouched ▸ hfile)
  exact ⟨spot, newest, text, brew, hlast, hbrew, hcontent, hsince _ _ _ _ since⟩

private theorem Fresh.cook {force : Bool} {result : Except RecipeError Outcome}
    (h : recipe.Fresh directory pattern workspace last)
    (hsource : recipe.source = .latest directory pattern) (wf : workspace.WellFormed)
    (cooked : recipe.Cooked force workspace result later) (apart : recipe.Apart later) :
    later.WellFormed ∧ recipe.Fresh directory pattern later (lastBrewed last result) := by
  cases cooked with
  | refused error => exact ⟨wf, h⟩
  | upToDate finds unforced there made new => exact ⟨wf, h⟩
  | unwritten error finds grown none =>
    refine ⟨grown.wellFormed, fun content modified hfile => ?_⟩
    simp [file?_of_not_isRegular none] at hfile
  | @brewed source text brew middle later finds due read brews grown writes =>
    rw [hsource] at finds
    obtain ⟨spot, newest, hlocate, -, hnewest, rfl⟩ := finds.exists_newest
    obtain ⟨goal, written⟩ := exists_written grown.wellFormed writes
    refine ⟨written.wellFormed, fun content modified hfile => ?_⟩
    obtain ⟨rfl, rfl⟩ := entry_file_unique written.entry_file (file?_eq_some_iff.1 hfile)
    have hapart := apart goal written.leads
    rw [hsource] at hapart
    exact ⟨spot, newest, text, brew, rfl, brews, rfl,
      .start wf hlocate hnewest read grown.toGrown written
      hapart⟩

theorem Cooked.upToDate_spec {force : Bool} {source output : Path}
    (cooked : recipe.Cooked force workspace (.ok (.upToDate source output)) later) :
    later = workspace ∧ output = recipe.output ∧ recipe.source.Finds workspace source ∧
      ∃ sourceTime outputTime, workspace.modified source = .ok sourceTime ∧
        workspace.modified recipe.output = .ok outputTime ∧ sourceTime ≤ outputTime := by
  cases cooked with
  | upToDate finds unforced there made new => exact ⟨rfl, rfl, finds, _, _, there, made, new⟩

private theorem Run.fresh (run : recipe.Run session last)
    (hsource : recipe.source = .latest directory pattern) :
    session.workspace.WellFormed ∧ recipe.Fresh directory pattern session.workspace last := by
  induction run with
  | start wf missing =>
    refine ⟨wf, fun content modified hfile => ?_⟩
    simp [missing] at hfile
  | @write session last result later before path content writes untouched ih =>
    obtain ⟨wf, fresh⟩ := ih
    rcases write_cases wf path content with ⟨fault, hfail⟩ | ⟨changed, spot, hmade, written⟩
    · obtain rfl := (Prod.mk.inj (writes.symm.trans hfail)).2
      exact ⟨wf, fresh⟩
    · obtain rfl := (Prod.mk.inj (writes.symm.trans hmade)).2
      exact ⟨written.wellFormed, fresh.step untouched fun _ _ _ _ since => since.write written⟩
  | @remove session last result later before path removes untouched ih =>
    obtain ⟨wf, fresh⟩ := ih
    rcases remove_cases wf path with ⟨fault, hfail⟩ | ⟨changed, spot, hmade, hchanged, -, wf'⟩
    · obtain rfl := (Prod.mk.inj (removes.symm.trans hfail)).2
      exact ⟨wf, fresh⟩
    · obtain rfl := (Prod.mk.inj (removes.symm.trans hmade)).2
      exact ⟨wf', fresh.step untouched fun _ _ _ _ since => since.remove hchanged⟩
  | cook before force cooks apart ih =>
    obtain ⟨wf, fresh⟩ := ih
    exact fresh.cook hsource wf (Session.cook_spec wf cooks) apart

/-- As long as the version that was brewed last is still there, an output that counts as new is what
that version's text is brewed into, and no other version counts as brewed. -/
theorem cook_upToDate_fresh {source output : Path}
    (hsource : recipe.source = .latest directory pattern)
    (run : recipe.Run session last)
    (cooks : recipe.cook (m := StateM Session) false session
      = (.ok (.upToDate source output), after))
    (hfile : session.workspace.isRegular recipe.output = true)
    (hthere : ∀ brewed, last = some brewed → session.workspace.isRegular brewed = true) :
    output = recipe.output ∧ last = some source ∧
      ∃ text brew, after.workspace.read source = .ok (Text.encode text) ∧
        recipe.options.brew text = .ok brew ∧
        after.workspace.read output = .ok (Text.encode (recipe.options.withHeader brew.body)) := by
  obtain ⟨wf, fresh⟩ := run.fresh hsource
  obtain ⟨hsame, rfl, finds, sourceTime, outputTime, hsourceTime, houtputTime, hnew⟩ :=
    (Session.cook_spec wf cooks).upToDate_spec
  rw [hsource] at finds
  obtain ⟨spot, newest, hlocate, hdirectory, hnewest, rfl⟩ := finds.exists_newest
  obtain ⟨content, time, houtput⟩ := isRegular_iff.1 hfile
  obtain rfl : time = outputTime := by simpa [modified_eq_ok_iff, houtput] using houtputTime
  obtain ⟨spot', brewed, text, brew, rfl, hbrew, rfl, since⟩ :=
    fresh _ _ (file?_eq_some_iff.2 houtput)
  obtain rfl := since.leads spot hlocate hdirectory
  -- The newest version is not younger than the output, so it counts no more than the one that was
  -- brewed.
  obtain ⟨source, hread, hget⟩ := exists_read_newest wf hlocate hnewest hsourceTime
  have hbelow := since.greatest _ newest source sourceTime hget hnew hnewest.isCandidate
  -- The one that was brewed is still there, so it counts no more than the newest.
  obtain ⟨old, made, hbrewed⟩ := isRegular_iff.1 (hthere _ rfl)
  have hold := get?_of_entry_join hlocate since.isName since.noLink hbrewed
  have habove := hnewest.greatest _ brewed old made hold since.isCandidate
  obtain rfl := Candidate.eq_of_not_isOlder hbelow habove
  obtain rfl := since.same source sourceTime hget hnew
  rw [hsame]
  exact ⟨rfl, rfl, text, brew, hread, hbrew, read_eq_ok_iff.2 ⟨time, houtput⟩⟩

/-! ### Two versions of a grammar -/

private theorem apart_of_dropLast_ne {spot goal : Location}
    (hsource : recipe.source = .latest directory pattern)
    (hdirectory : workspace.locate .entry directory = .ok (.found spot))
    (houtput : workspace.locate .entry recipe.output = .ok (.found goal))
    (h : goal.dropLast ≠ spot) :
    recipe.Apart workspace := by
  rintro location hlocate hselects
  rw [houtput] at hlocate
  obtain rfl := Place.found.inj (Except.ok.inj hlocate)
  rw [hsource] at hselects
  obtain ⟨there, name, hthere, rfl, -⟩ := hselects
  rw [hdirectory] at hthere
  obtain rfl := Place.found.inj (Except.ok.inj hthere)
  exact h List.dropLast_concat

theorem eq_of_toOption {ε α σ : Type} {x : Except ε α × σ} {a : α} (h : x.1.toOption = some a) :
    x = (.ok a, x.2) := by
  obtain ⟨result, state⟩ := x
  cases result with
  | error error => simp [Except.toOption] at h
  | ok b => rw [Option.some.inj h]

def versions : Recipe := ⟨{}, .latest (Path.ofText ['g']) "v([0-9]+)".toList, Path.ofText ['o']⟩

def version (digit : Char) : Path := Path.ofText ['g', '/', 'v', digit]

def twoVersions : Session :=
  let made := ((Workspace.start [0x77] 0).makeDirectory (Path.ofText ['g'])).2
  let first := (made.write (version '1') (Text.encode ['a'])).2
  { workspace := (first.write (version '2') (Text.encode ['b'])).2 }

def secondBrewed : Session := (versions.cook (m := StateM Session) false twoVersions).2

def secondGone : Session :=
  { secondBrewed with workspace := (secondBrewed.workspace.remove (version '2')).2 }

theorem wellFormed_working : (Workspace.start [0x77] 0).WellFormed := by
  have hname : IsName [0x77] :=
    ⟨by simp [StaysPut, Path.dot], by simp [GoesUp, Path.dot], by decide⟩
  exact wellFormed_start hname 0

private theorem run_twoVersions : versions.Run twoVersions none := by
  obtain ⟨result, made, hmake, grown, -⟩ :=
    exists_makeDirectory wellFormed_working (Path.ofText ['g'])
  obtain rfl : ((Workspace.start [0x77] 0).makeDirectory (Path.ofText ['g'])).2 = made := by
    rw [hmake]
  have hstart : versions.Run { workspace := _ } none := .start grown.wellFormed (by decide +kernel)
  have hfirst := hstart.write (version '1') (Text.encode ['a']) rfl (by decide +kernel)
  exact hfirst.write (version '2') (Text.encode ['b']) rfl (by decide +kernel)

private theorem run_secondBrewed : versions.Run secondBrewed (some (version '2')) := by
  have hcook := eq_of_toOption (x := versions.cook (m := StateM Session) false twoVersions)
    (a := .brewed (version '2') (Path.ofText ['o']) 0 0) (by decide +kernel)
  have hdirectory :=
    eq_of_toOption (x := (secondBrewed.workspace.locate .entry (Path.ofText ['g']), ()))
    (a := .found [[0x77], [0x67]]) (by decide +kernel)
  have houtput := eq_of_toOption
    (x := (secondBrewed.workspace.locate .entry (Path.ofText ['o']), ()))
    (a := .found [[0x77], [0x6f]]) (by decide +kernel)
  exact .cook run_twoVersions false hcook
    (apart_of_dropLast_ne rfl (congrArg Prod.fst hdirectory)
    (congrArg Prod.fst houtput) (by decide))

private theorem run_secondGone : versions.Run secondGone (some (version '2')) :=
  run_secondBrewed.remove (version '2') rfl (by decide +kernel)

theorem secondBrewed_fresh :
    ∃ after, versions.cook (m := StateM Session) false secondBrewed
        = (.ok (.upToDate (version '2') (Path.ofText ['o'])), after) ∧
      ∃ text brew, after.workspace.read (version '2') = .ok (Text.encode text) ∧
        versions.options.brew text = .ok brew ∧
        after.workspace.read (Path.ofText ['o'])
          = .ok (Text.encode (versions.options.withHeader brew.body)) := by
  have hcook := eq_of_toOption (x := versions.cook (m := StateM Session) false secondBrewed)
    (a := .upToDate (version '2') (Path.ofText ['o'])) (by decide +kernel)
  have hthere : ∀ brewed, some (version '2') = some brewed →
      secondBrewed.workspace.isRegular brewed = true := by
    intro brewed hbrewed
    rw [← Option.some.inj hbrewed]
    decide +kernel
  exact ⟨_, hcook, (cook_upToDate_fresh rfl run_secondBrewed hcook (by decide +kernel) hthere).2.2⟩

/-- Without the version that was brewed last, an older one counts as brewed. -/
theorem secondGone_not_fresh :
    ∃ last after brew, versions.Run secondGone last ∧
      versions.cook (m := StateM Session) false secondGone
        = (.ok (.upToDate (version '1') (Path.ofText ['o'])), after) ∧
      after.workspace.read (version '1') = .ok (Text.encode ['a']) ∧
      versions.options.brew ['a'] = .ok brew ∧
      after.workspace.isRegular (Path.ofText ['o']) = true ∧
      after.workspace.read (Path.ofText ['o'])
        ≠ .ok (Text.encode (versions.options.withHeader brew.body)) := by
  have hcook := eq_of_toOption (x := versions.cook (m := StateM Session) false secondGone)
    (a := .upToDate (version '1') (Path.ofText ['o'])) (by decide +kernel)
  have hread := eq_of_toOption (a := Text.encode ['a']) (x :=
    ((versions.cook (m := StateM Session) false secondGone).2.workspace.read (version '1'), ()))
    (by decide +kernel)
  refine ⟨_, _, ⟨['a'], MacroTable.empty, 0⟩, run_secondGone, hcook, congrArg Prod.fst hread, rfl,
    by decide +kernel, fun houtput => ?_⟩
  have htext := congrArg Except.toOption houtput
  revert htext
  decide +kernel

end Recipe

end GrammarBrew
