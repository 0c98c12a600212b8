import GrammarBrew.Proofs.Recipe.Freshness

/-!
An output that counts as new, made from a file that is always the same one. After a brew the output
is the younger of the two until the source is written again, and then the source is until the next
brew. What stays out of this account is an output that leads to a directory: that counts as new
without ever being made.
-/

set_option autoImplicit false
set_option relaxedAutoImplicit false

namespace GrammarBrew

open FileTree

namespace Recipe

inductive Step where
  | written
  | removed
  | cooked (result : Except RecipeError Outcome)

/-- The steps of a run, the latest first, have a brew after which the source was not written. -/
def Current (steps : List Step) : Prop :=
  ∃ later source output macros passes earlier,
    steps = later ++ .cooked (.ok (.brewed source output macros passes)) :: earlier ∧
      Step.written ∉ later

/-- Runs that begin without an output and with a source from before, if there is one. The source is
written and removed and the recipe is followed, with the output changed by the recipe only. The
steps stand with the latest first. -/
inductive Traced (recipe : Recipe) (source : Path) : Session → List Step → Prop
  | start {session : Session} (wf : session.workspace.WellFormed)
      (missing : session.workspace.file? recipe.output = none)
      (past : ∀ content modified, session.workspace.file? source = some (content, modified) →
        modified < session.workspace.clock) : Traced recipe source session []
  | write {session : Session} {steps : List Step} {later : Workspace}
      (before : Traced recipe source session steps) (content : Bytes)
      (writes : session.workspace.write source content = (.ok (), later))
      (untouched : later.file? recipe.output = session.workspace.file? recipe.output) :
      Traced recipe source { session with workspace := later } (.written :: steps)
  | remove {session : Session} {steps : List Step} {later : Workspace}
      (before : Traced recipe source session steps)
      (removes : session.workspace.remove source = (.ok (), later))
      (untouched : later.file? recipe.output = session.workspace.file? recipe.output) :
      Traced recipe source { session with workspace := later } (.removed :: steps)
  | cook {session after : Session} {steps : List Step} {result : Except RecipeError Outcome}
      (before : Traced recipe source session steps) (force : Bool)
      (cooks : recipe.cook (m := StateM Session) force session = (result, after))
      (apart : recipe.Apart after.workspace) : Traced recipe source after (.cooked result :: steps)

end Recipe

namespace Workspace

variable {workspace later : Workspace} {path : Path} {spot : Location} {content : Bytes}
  {modified : Time}
  {holds : Bytes → Time → Prop}

def OnlyFile (workspace : Workspace) (path : Path) (holds : Bytes → Time → Prop) : Prop :=
  ∀ entry, workspace.entry path = .ok entry →
    ∃ content modified, entry = .file content modified ∧ holds content modified

private theorem onlyFile_of_entry (hentry : workspace.entry path = .ok (.file content modified))
    (h : holds content modified) : workspace.OnlyFile path holds := by
  intro entry hthere
  obtain rfl := Except.ok.inj (hentry.symm.trans hthere)
  exact ⟨content, modified, rfl, h⟩

private theorem OnlyFile.of_modified (h : workspace.OnlyFile path holds)
    (there : workspace.modified path = .ok modified) :
    ∃ content, workspace.entry path = .ok (.file content modified) ∧ holds content modified := by
  rcases modified_eq_ok_iff.1 there with ⟨content, hentry⟩ | hentry
  · obtain ⟨_, _, hsame, hholds⟩ := h _ hentry
    obtain ⟨rfl, rfl⟩ := Entry.file.inj hsame
    exact ⟨content, hentry, hholds⟩
  · obtain ⟨_, _, hsame, -⟩ := h _ hentry
    simp at hsame

private theorem OnlyFile.remove (h : workspace.OnlyFile path holds)
    (hchanged : Changed workspace later spot none) :
    later.OnlyFile path holds := by
  intro entry hentry
  obtain ⟨old, hold, hstill⟩ := hchanged.exists_entry_of_gone hentry
  obtain ⟨content, modified, rfl, hholds⟩ := h old hold
  exact ⟨content, modified, Entry.still_eq_file_iff.1 hstill.symm, hholds⟩

end Workspace

namespace Recipe

open Workspace

variable {recipe : Recipe} {source : Path} {workspace later : Workspace} {session after : Session}
  {step : Step} {steps : List Step} {result : Except RecipeError Outcome} {current : Prop}

/-! ### Steps since the last brew -/

private theorem not_current_nil : ¬ Current [] := by
  rintro ⟨later, source, output, macros, passes, earlier, hsteps, -⟩
  simp at hsteps

private theorem current_cons : Current (step :: steps) ↔
    (∃ source output macros passes, step = .cooked (.ok (.brewed source output macros passes))) ∨
      (step ≠ .written ∧ Current steps) := by
  constructor
  · rintro ⟨later, source, output, macros, passes, earlier, hsteps, hunwritten⟩
    cases later with
    | nil => exact Or.inl ⟨source, output, macros, passes, (List.cons.inj hsteps).1⟩
    | cons first later =>
      obtain ⟨rfl, rfl⟩ := List.cons.inj hsteps
      obtain ⟨hfirst, hrest⟩ := not_or.1 (mt List.mem_cons.2 hunwritten)
      exact Or.inr ⟨Ne.symm hfirst, later, source, output, macros, passes, earlier, rfl, hrest⟩
  · rintro (⟨source, output, macros, passes, rfl⟩ | ⟨hstep, later, source, output, macros, passes,
      earlier, rfl, hrest⟩)
    · exact ⟨[], source, output, macros, passes, steps, rfl, List.not_mem_nil⟩
    · refine ⟨step :: later, source, output, macros, passes, earlier, rfl, ?_⟩
      exact fun hmem => (List.mem_cons.1 hmem).elim (Ne.symm hstep) hrest

private theorem not_current_written : ¬ Current (.written :: steps) := by simp [current_cons]

private theorem current_removed : Current (.removed :: steps) ↔ Current steps := by
  simp [current_cons]

/-! ### What a run keeps -/

/-- What holds after a run of the source and the output, where the output is current if it was
brewed after the source was written last. -/
structure Consistent (recipe : Recipe) (source : Path) (workspace : Workspace)
    (current : Prop) : Prop where
  wellFormed : workspace.WellFormed
  past : ∀ content modified, workspace.entry source = .ok (.file content modified) →
    modified < workspace.clock
  made : current → workspace.file? recipe.output ≠ none
  written : ∀ content modified, workspace.file? recipe.output = some (content, modified) →
    modified < workspace.clock
  brewed : ∀ content modified, current → workspace.file? recipe.output = some (content, modified) →
    ∃ text brew, recipe.options.brew text = .ok brew ∧
      content = Text.encode (recipe.options.withHeader brew.body) ∧
      workspace.OnlyFile source fun held time => held = Text.encode text ∧ time < modified
  overtaken : ∀ content modified, ¬ current →
    workspace.file? recipe.output = some (content, modified) →
    workspace.OnlyFile source fun _ time => modified < time

private theorem Consistent.write {content : Bytes} {spot : Location}
    (h : recipe.Consistent source workspace current)
    (hwritten : Written workspace source content later spot)
    (untouched : later.file? recipe.output = workspace.file? recipe.output) :
    recipe.Consistent source later False := by
  have hclock : workspace.clock < later.clock := hwritten.change.clock ▸ Int.lt_succ _
  refine ⟨hwritten.wellFormed, ?_, False.elim, ?_, fun _ _ => False.elim, ?_⟩
  · intro held modified hthere
    obtain ⟨-, rfl⟩ := entry_file_unique hwritten.entry_file hthere
    exact hclock
  · intro held modified hmade
    exact Int.lt_trans (h.written held modified (untouched ▸ hmade)) hclock
  · intro held modified _ hmade
    exact onlyFile_of_entry hwritten.entry_file (h.written held modified (untouched ▸ hmade))

private theorem Consistent.remove {spot : Location} (h : recipe.Consistent source workspace current)
    (hchanged : Changed workspace later spot none) (wf : later.WellFormed)
    (untouched : later.file? recipe.output = workspace.file? recipe.output) :
    recipe.Consistent source later current := by
  have hclock : workspace.clock < later.clock := hchanged.clock ▸ Int.lt_succ _
  refine ⟨wf, ?_, ?_, ?_, ?_, ?_⟩
  · intro held modified hthere
    obtain ⟨old, hold, hstill⟩ := hchanged.exists_entry_of_gone hthere
    obtain rfl := Entry.still_eq_file_iff.1 hstill
    exact Int.lt_trans (h.past held modified hold) hclock
  · rw [untouched]
    exact h.made
  · intro held modified hmade
    exact Int.lt_trans (h.written held modified (untouched ▸ hmade)) hclock
  · intro held modified hcurrent hmade
    obtain ⟨text, brew, hbrew, hheld, honly⟩ := h.brewed held modified hcurrent (untouched ▸ hmade)
    exact ⟨text, brew, hbrew, hheld, honly.remove hchanged⟩
  · intro held modified hcurrent hmade
    exact (h.overtaken held modified hcurrent (untouched ▸ hmade)).remove hchanged

private theorem Consistent.unwritten {text : Text} (h : recipe.Consistent source workspace current)
    (read : workspace.read source = .ok (Text.encode text)) (grown : workspace.Grown later)
    (none : later.isRegular recipe.output = false) : recipe.Consistent source later current := by
  have hmissing : later.file? recipe.output = Option.none := file?_of_not_isRegular none
  have hold : workspace.file? recipe.output = Option.none := by
    rw [Option.eq_none_iff_forall_ne_some]
    rintro ⟨content, modified⟩ hmade
    have hkept := grown.entry_file (file?_eq_some_iff.1 hmade)
    rw [file?_eq_some_iff.2 hkept] at hmissing
    simp at hmissing
  obtain ⟨time, hentry⟩ := read_eq_ok_iff.1 read
  refine ⟨grown.wellFormed, ?_, fun hcurrent => absurd hold (h.made hcurrent), ?_, ?_, ?_⟩
  · intro held modified hthere
    obtain ⟨-, rfl⟩ := entry_file_unique (grown.entry_file hentry) hthere
    exact Int.lt_of_lt_of_le (h.past _ _ hentry) grown.clock
  all_goals
    intro held modified
    simp [hmissing]

private theorem Consistent.brew {text : Text} {brew : Brew} {middle : Workspace} {spot : Location}
    (h : recipe.Consistent source workspace current) (hsource : recipe.source = .fixed source)
    (read : workspace.read source = .ok (Text.encode text))
    (brews : recipe.options.brew text = .ok brew)
    (grown : workspace.Grown middle)
    (hwritten : Written middle recipe.output (Text.encode (recipe.options.withHeader brew.body))
      later spot)
    (apart : recipe.Apart later) : recipe.Consistent source later True := by
  obtain ⟨time, hentry⟩ := read_eq_ok_iff.1 read
  have helsewhere : later.locate .entry source ≠ .ok (.found spot) := by
    intro hthere
    have hapart := apart spot hwritten.leads
    rw [hsource] at hapart
    exact hapart hthere
  have hkept : later.entry source = .ok (.file (Text.encode text) time) :=
    hwritten.entry_of_ne (grown.entry_file hentry) helsewhere
  have holder : time < middle.clock := Int.lt_of_lt_of_le (h.past _ _ hentry) grown.clock
  have hclock : middle.clock < later.clock := hwritten.change.clock ▸ Int.lt_succ _
  refine ⟨hwritten.wellFormed, ?_, ?_, ?_, ?_, fun _ _ hnot => absurd trivial hnot⟩
  · intro held modified hthere
    obtain ⟨-, rfl⟩ := entry_file_unique hkept hthere
    exact Int.lt_trans holder hclock
  · intro _
    simp [file?_eq_some_iff.2 hwritten.entry_file]
  · intro held modified hmade
    obtain ⟨-, rfl⟩ := entry_file_unique hwritten.entry_file (file?_eq_some_iff.1 hmade)
    exact hclock
  · intro held modified _ hmade
    obtain ⟨rfl, rfl⟩ := entry_file_unique hwritten.entry_file (file?_eq_some_iff.1 hmade)
    exact ⟨text, brew, brews, rfl, onlyFile_of_entry hkept ⟨rfl, holder⟩⟩

private theorem Consistent.cook {force : Bool}
    (h : recipe.Consistent source workspace (Current steps))
    (hsource : recipe.source = .fixed source) (cooked : recipe.Cooked force workspace result later)
    (apart : recipe.Apart later) :
      recipe.Consistent source later (Current (.cooked result :: steps)) := by
  have hunbrewed : (∀ source output macros passes,
      result ≠ .ok (.brewed source output macros passes)) →
      Current (.cooked result :: steps) = Current steps := by
    intro hresult
    simp [current_cons, hresult]
  cases cooked with
  | refused error =>
    rw [hunbrewed (by simp)]
    exact h
  | upToDate finds unforced there made new =>
    rw [hunbrewed (by simp)]
    exact h
  | unwritten error finds grown none read =>
    rw [hsource] at finds
    obtain rfl := finds
    rw [hunbrewed (by simp)]
    exact h.unwritten read grown.toGrown none
  | @brewed found text brew middle later finds due read brews grown writes =>
    rw [hsource] at finds
    obtain rfl := finds
    obtain ⟨goal, hwritten⟩ := exists_written grown.wellFormed writes
    rw [eq_true (current_cons.2 (Or.inl ⟨_, _, _, _, rfl⟩))]
    exact h.brew hsource read brews grown.toGrown hwritten apart

private theorem Traced.consistent (run : recipe.Traced source session steps)
    (hsource : recipe.source = .fixed source) :
    recipe.Consistent source session.workspace (Current steps) := by
  induction run with
  | start wf missing past =>
    refine ⟨wf, ?_, fun hcurrent => absurd hcurrent not_current_nil, ?_, ?_, ?_⟩
    · exact fun content modified hthere => past content modified (file?_eq_some_iff.2 hthere)
    all_goals
      intro content modified
      simp [missing]
  | write before content writes untouched ih =>
    obtain ⟨spot, hwritten⟩ := exists_written ih.wellFormed writes
    rw [eq_false not_current_written]
    exact ih.write hwritten untouched
  | remove before removes untouched ih =>
    obtain ⟨spot, hchanged, wf⟩ := exists_removed ih.wellFormed removes
    rw [current_removed]
    exact ih.remove hchanged wf untouched
  | cook before force cooks apart ih =>
    exact ih.cook hsource (Session.cook_spec ih.wellFormed cooks) apart

private theorem Consistent.exists_modified (h : recipe.Consistent source workspace current)
    (hcurrent : current) {sourceTime : Time} (there : workspace.modified source = .ok sourceTime) :
    ∃ outputTime, workspace.modified recipe.output = .ok outputTime ∧ sourceTime ≤ outputTime := by
  obtain ⟨⟨content, moment⟩, hmade⟩ := Option.ne_none_iff_exists'.1 (h.made hcurrent)
  obtain ⟨text, brew, -, -, honly⟩ := h.brewed content moment hcurrent hmade
  obtain ⟨held, -, -, hold⟩ := honly.of_modified there
  have made : workspace.modified recipe.output = .ok moment :=
    modified_eq_ok_iff.2 (Or.inl ⟨content, file?_eq_some_iff.1 hmade⟩)
  exact ⟨moment, made, Int.le_of_lt hold⟩

private theorem Consistent.current_of_le {sourceTime outputTime : Time}
    (h : recipe.Consistent source workspace current)
    (hdirectory : workspace.isDirectory recipe.output = false)
    (there : workspace.modified source = .ok sourceTime)
    (made : workspace.modified recipe.output = .ok outputTime) (new : sourceTime ≤ outputTime) :
    current ∧ ∃ text brew, workspace.read source = .ok (Text.encode text) ∧
      recipe.options.brew text = .ok brew ∧
      workspace.read recipe.output = .ok (Text.encode (recipe.options.withHeader brew.body)) := by
  obtain ⟨content, hmade⟩ :
      ∃ content, workspace.entry recipe.output = .ok (.file content outputTime) := by
    refine (modified_eq_ok_iff.1 made).resolve_right fun hentry => ?_
    simp [Workspace.isDirectory, hentry, Entry.isDirectory] at hdirectory
  have hfile := file?_eq_some_iff.2 hmade
  by_cases hcurrent : current
  · obtain ⟨text, brew, hbrew, rfl, honly⟩ := h.brewed content outputTime hcurrent hfile
    obtain ⟨held, hentry, rfl, -⟩ := honly.of_modified there
    exact ⟨hcurrent, text, brew, read_eq_ok_iff.2 ⟨sourceTime, hentry⟩, hbrew,
      read_eq_ok_iff.2 ⟨outputTime, hmade⟩⟩
  · -- The source was written after the output, so that it is the younger of the two.
    obtain ⟨held, -, hyoung⟩ := (h.overtaken content outputTime hcurrent hfile).of_modified there
    exact absurd hyoung (Int.not_lt.2 new)

private theorem Traced.upToDate_spec {found output : Path}
    (run : recipe.Traced source session steps)
    (hsource : recipe.source = .fixed source)
    (hdirectory : session.workspace.isDirectory recipe.output = false)
    (cooks : recipe.cook (m := StateM Session) false session
      = (.ok (.upToDate found output), after)) :
    after.workspace = session.workspace ∧ found = source ∧ output = recipe.output ∧
      (∃ time, session.workspace.modified source = .ok time) ∧ Current steps ∧
      ∃ text brew, session.workspace.read source = .ok (Text.encode text) ∧
        recipe.options.brew text = .ok brew ∧
        session.workspace.read recipe.output
          = .ok (Text.encode (recipe.options.withHeader brew.body)) := by
  have consistent := run.consistent hsource
  obtain ⟨hsame, rfl, finds, sourceTime, outputTime, there, made, new⟩ :=
    (Session.cook_spec consistent.wellFormed cooks).upToDate_spec
  rw [hsource] at finds
  obtain rfl : found = source := finds
  exact ⟨hsame, rfl, rfl, ⟨sourceTime, there⟩, consistent.current_of_le hdirectory there made new⟩

/-- While the output leads to no directory it counts as new exactly when the source is there, was
brewed, and was not written since; and then it is what the text of the source is brewed into. -/
theorem cook_upToDate_iff (hsource : recipe.source = .fixed source)
    (run : recipe.Traced source session steps)
    (hdirectory : session.workspace.isDirectory recipe.output = false) :
    ((∃ after, recipe.cook (m := StateM Session) false session
        = (.ok (.upToDate source recipe.output), after)) ↔
      (∃ time, session.workspace.modified source = .ok time) ∧ Current steps) ∧
    ∀ found output after,
      recipe.cook (m := StateM Session) false session = (.ok (.upToDate found output), after) →
        found = source ∧ output = recipe.output ∧
          ∃ text brew, after.workspace.read source = .ok (Text.encode text) ∧
            recipe.options.brew text = .ok brew ∧
            after.workspace.read output
              = .ok (Text.encode (recipe.options.withHeader brew.body)) := by
  refine ⟨⟨?_, ?_⟩, ?_⟩
  · rintro ⟨after, cooks⟩
    obtain ⟨-, -, -, hthere, hcurrent, -⟩ := run.upToDate_spec hsource hdirectory cooks
    exact ⟨hthere, hcurrent⟩
  · rintro ⟨⟨sourceTime, there⟩, hcurrent⟩
    obtain ⟨outputTime, made, new⟩ := (run.consistent hsource).exists_modified hcurrent there
    exact Session.exists_cook_upToDate hsource there made new
  · intro found output after cooks
    obtain ⟨hsame, rfl, rfl, -, -, hbrewed⟩ := run.upToDate_spec hsource hdirectory cooks
    rw [hsame]
    exact ⟨rfl, rfl, hbrewed⟩

/-! ### One grammar file -/

private theorem apart_of_ne {spot goal : Location} (hsource : recipe.source = .fixed source)
    (hthere : workspace.locate .entry source = .ok (.found spot))
    (houtput : workspace.locate .entry recipe.output = .ok (.found goal)) (h : goal ≠ spot) :
    recipe.Apart workspace := by
  intro location hlocate hselects
  rw [hsource] at hselects
  obtain rfl := Place.found.inj (Except.ok.inj (houtput.symm.trans hlocate))
  exact h (Place.found.inj (Except.ok.inj (Eq.trans (Eq.symm hselects) hthere)))

def grammar : Path := Path.ofText ['s']

def single (output : Text) : Recipe := ⟨{}, .fixed grammar, Path.ofText output⟩

def grammarWritten : Session :=
  { workspace := ((Workspace.start [0x77] 0).write grammar (Text.encode ['a'])).2 }

private theorem traced_grammarWritten (output : Text)
    (h : (Workspace.start [0x77] 0).file? (Path.ofText output) = none)
    (huntouched : grammarWritten.workspace.file? (Path.ofText output) = none) :
    (single output).Traced grammar grammarWritten [.written] := by
  have hnone : (Workspace.start [0x77] 0).file? grammar = none := by decide +kernel
  have hstart : (single output).Traced grammar { workspace := Workspace.start [0x77] 0 } [] :=
    .start wellFormed_working h (by simp [hnone])
  have hwrite := eq_of_toOption (x := (Workspace.start [0x77] 0).write grammar (Text.encode ['a']))
    (a := ()) (by decide +kernel)
  exact hstart.write (Text.encode ['a']) hwrite (huntouched.trans h.symm)

def grammarBrewed : Session := ((single ['o']).cook (m := StateM Session) false grammarWritten).2

theorem grammarBrewed_upToDate :
    ∃ steps after, (single ['o']).Traced grammar grammarBrewed steps ∧ Current steps ∧
      grammarBrewed.workspace.isDirectory (Path.ofText ['o']) = false ∧
      (single ['o']).cook (m := StateM Session) false grammarBrewed
        = (.ok (.upToDate grammar (Path.ofText ['o'])), after) ∧
      ∃ text brew, after.workspace.read grammar = .ok (Text.encode text) ∧
        (single ['o']).options.brew text = .ok brew ∧
        after.workspace.read (Path.ofText ['o'])
          = .ok (Text.encode ((single ['o']).options.withHeader brew.body)) := by
  have hcook := eq_of_toOption (x := (single ['o']).cook (m := StateM Session) false grammarWritten)
    (a := .brewed grammar (Path.ofText ['o']) 0 0) (by decide +kernel)
  have hthere := eq_of_toOption (x := (grammarBrewed.workspace.locate .entry grammar, ()))
    (a := .found [[0x77], [0x73]]) (by decide +kernel)
  have houtput := eq_of_toOption
    (x := (grammarBrewed.workspace.locate .entry (Path.ofText ['o']), ()))
    (a := .found [[0x77], [0x6f]]) (by decide +kernel)
  have hmodified := eq_of_toOption (x := (grammarBrewed.workspace.modified grammar, ())) (a := 0)
    (by decide +kernel)
  have run := (traced_grammarWritten ['o'] (by decide +kernel) (by decide +kernel)).cook false hcook
    (apart_of_ne rfl (congrArg Prod.fst hthere) (congrArg Prod.fst houtput) (by decide))
  have hcurrent : Current [.cooked (.ok (.brewed grammar (Path.ofText ['o']) 0 0)), .written] :=
    current_cons.2 (Or.inl ⟨_, _, _, _, rfl⟩)
  have hdirectory : grammarBrewed.workspace.isDirectory (Path.ofText ['o']) = false := by
    decide +kernel
  obtain ⟨hiff, hbrewed⟩ := cook_upToDate_iff rfl run hdirectory
  obtain ⟨after, cooks⟩ := hiff.2 ⟨⟨_, congrArg Prod.fst hmodified⟩, hcurrent⟩
  exact ⟨_, after, run, hcurrent, hdirectory, cooks, (hbrewed _ _ _ cooks).2.2⟩

def aboveMissing : Text := ['x', '/', '.', '.']

def directoryMade : Session :=
  ((single aboveMissing).cook (m := StateM Session) false grammarWritten).2

/-- An output that leads to a directory counts as new without a brew. -/
theorem directoryMade_upToDate :
    ∃ steps after, (single aboveMissing).Traced grammar directoryMade steps ∧ ¬ Current steps ∧
      (single aboveMissing).cook (m := StateM Session) false directoryMade
        = (.ok (.upToDate grammar (Path.ofText aboveMissing)), after) := by
  obtain ⟨result, hresult, hfails⟩ : ∃ result,
      (single aboveMissing).cook (m := StateM Session) false grammarWritten
        = (result, directoryMade) ∧ result.toOption = none := ⟨_, rfl, by decide +kernel⟩
  have hthere := eq_of_toOption (x := (directoryMade.workspace.locate .entry grammar, ()))
    (a := .found [[0x77], [0x73]]) (by decide +kernel)
  have houtput := eq_of_toOption
    (x := (directoryMade.workspace.locate .entry (Path.ofText aboveMissing), ()))
    (a := .found [[0x77]]) (by decide +kernel)
  have run := (traced_grammarWritten aboveMissing (by decide +kernel) (by decide +kernel)).cook
    false hresult
    (apart_of_ne rfl (congrArg Prod.fst hthere) (congrArg Prod.fst houtput) (by decide))
  refine ⟨_, _, run, ?_, eq_of_toOption (by decide +kernel)⟩
  rw [current_cons]
  rintro (⟨_, _, _, _, hbrewed⟩ | ⟨-, hcurrent⟩)
  · rw [Step.cooked.inj hbrewed] at hfails
    simp [Except.toOption] at hfails
  · exact not_current_written hcurrent

end Recipe

end GrammarBrew
