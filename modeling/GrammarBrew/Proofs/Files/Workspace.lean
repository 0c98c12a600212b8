import GrammarBrew.Files.Workspace
import GrammarBrew.Proofs.Files.Lead
import GrammarBrew.Proofs.Files.Path
import GrammarBrew.Proofs.Files.Tree

/-!
What each operation on a workspace can do. An operation that fails leaves everything as it was; one
that succeeds changes what stands at one location and moves the clock on.
-/

set_option autoImplicit false
set_option relaxedAutoImplicit false

namespace GrammarBrew.Workspace

open FileTree

variable {workspace changed : Workspace} {aim : Aim} {path : Path} {names : List Bytes}
  {place : Place}
  {location spot parent : Location} {name content : Bytes} {entry : Entry} {modified : Time}
  {value : Option Entry} {fault : FileFault}

/-! ### Looking -/

structure Spelled (path : Path) : Prop where
  noNul : 0 ∉ path
  ne : path ≠ []
  fits : path.length < pathLimit

def origin (workspace : Workspace) (path : Path) : Location :=
  if path.isAbsolute then [] else workspace.here

theorem walkFrom_eq_ok_iff :
    workspace.walkFrom aim path names = .ok place
      ↔ Spelled path ∧ Leads workspace.tree aim linkLimit (workspace.origin path) names place := by
  rw [← walk_eq_ok_iff]
  unfold walkFrom
  by_cases hnul : 0 ∈ path
  · have hno : ¬ Spelled path := fun hspelled => hspelled.noNul hnul
    simp [hnul, hno]
  · by_cases hempty : path = []
    · have hno : ¬ Spelled path := fun hspelled => hspelled.ne hempty
      simp [hempty, hempty ▸ hno]
    · by_cases hlong : pathLimit ≤ path.length
      · have hno : ¬ Spelled path := fun hspelled => absurd hspelled.fits (Nat.not_lt.2 hlong)
        simp [hnul, hempty, hlong, hno]
      · have hspelled : Spelled path := ⟨hnul, hempty, Nat.not_le.1 hlong⟩
        simp [hnul, hempty, hlong, hspelled, origin]

theorem locate_eq_ok_iff :
    workspace.locate aim path = .ok place
      ↔ Spelled path ∧ Leads workspace.tree aim linkLimit (workspace.origin path)
        path.names place :=
  walkFrom_eq_ok_iff

theorem entry_eq_ok_iff :
    workspace.entry path = .ok entry
      ↔ ∃ location, workspace.locate .entry path = .ok (.found location) ∧
          workspace.tree.get? location = some entry := by
  unfold Workspace.entry
  cases hlocate : workspace.locate .entry path with
  | error fault => simp
  | ok place =>
    cases place with
    | missing parent name => simp
    | found location =>
      cases hget : workspace.tree.get? location with
      | none => simp [hget]
      | some other => simp [hget]

theorem entry_file_unique {other : Bytes} {time : Time}
    (h : workspace.entry path = .ok (.file content modified))
    (h' : workspace.entry path = .ok (.file other time)) : content = other ∧ modified = time :=
  Entry.file.inj (Except.ok.inj (h.symm.trans h'))

theorem modified_eq_ok_iff :
    workspace.modified path = .ok modified
      ↔ (∃ content, workspace.entry path = .ok (.file content modified)) ∨
          workspace.entry path = .ok (.directory modified) := by
  unfold Workspace.modified
  cases workspace.entry path with
  | error fault => simp
  | ok entry => cases entry <;> simp

theorem read_eq_ok_iff :
    workspace.read path = .ok content
      ↔ ∃ modified, workspace.entry path = .ok (.file content modified) := by
  unfold Workspace.read
  cases workspace.entry path with
  | error fault => simp
  | ok entry => cases entry <;> simp

theorem isRegular_iff :
    workspace.isRegular path = true
      ↔ ∃ content modified, workspace.entry path = .ok (.file content modified) := by
  unfold Workspace.isRegular
  cases workspace.entry path with
  | error fault => simp
  | ok entry => cases entry <;> simp [Entry.isFile]

theorem isDirectory_iff :
    workspace.isDirectory path = true
      ↔ ∃ location, workspace.locate .entry path = .ok (.found location) ∧
          workspace.tree.kind? location = some .directory := by
  have hentry : workspace.isDirectory path = true
      ↔ ∃ modified, workspace.entry path = .ok (.directory modified) := by
    unfold Workspace.isDirectory
    cases workspace.entry path with
    | error fault => simp
    | ok entry => cases entry <;> simp [Entry.isDirectory]
  rw [hentry]
  simp only [entry_eq_ok_iff]
  constructor
  · rintro ⟨modified, location, hlocate, hget⟩
    exact ⟨location, hlocate, by simp [kind?, hget, Entry.kind]⟩
  · rintro ⟨location, hlocate, hkind⟩
    obtain ⟨entry, hget, hentry⟩ := Option.map_eq_some_iff.1 hkind
    cases entry with
    | directory modified => exact ⟨modified, location, hlocate, hget⟩
    | file content modified => simp [Entry.kind] at hentry
    | link target => simp [Entry.kind] at hentry

theorem regularFiles_eq_ok_iff {files : List Bytes} :
    workspace.regularFiles path = .ok files
      ↔ ∃ location, workspace.locate .entry path = .ok (.found location) ∧
          workspace.tree.kind? location = some .directory ∧
          files = workspace.tree.regularFiles location := by
  unfold Workspace.regularFiles
  cases hlocate : workspace.locate .entry path with
  | error fault => simp
  | ok place =>
    cases place with
    | missing parent name => simp
    | found location =>
      by_cases hdirectory : workspace.tree.isDirectory location = true
      · simp [hdirectory, FileTree.isDirectory_iff.1 hdirectory, eq_comm]
      · have hkind := mt FileTree.isDirectory_iff.2 hdirectory
        simp [hdirectory, hkind]

/-! ### Changing -/

/-- A workspace that differs in what stands at one location, and in the clock. -/
structure Changed (workspace changed : Workspace) (spot : Location)
    (value : Option Entry) : Prop where
  view : changed.tree.view? = Function.update workspace.tree.view? spot value
  here : changed.here = workspace.here
  clock : changed.clock = workspace.clock + 1

theorem Changed.kind? (h : Changed workspace changed spot value) (there : Location) :
    changed.tree.kind? there
      = if there = spot then value.map Entry.kind else workspace.tree.kind? there :=
  kind?_of_update h.view there

private theorem Changed.keeps (h : Changed workspace changed spot value)
    (habsent : workspace.tree.kind? spot = none)
    (there : Location) (kind : Entry.Kind) (hthere : workspace.tree.kind? there = some kind) :
    changed.tree.kind? there = some kind := by
  rw [h.kind?, if_neg ?_, hthere]
  rintro rfl
  simp [habsent] at hthere

theorem Changed.get?_eq_file_iff (h : Changed workspace changed spot value) (there : Location) :
    changed.tree.get? there = some (.file content modified)
      ↔ (if there = spot then value else workspace.tree.view? there)
        = some (.file content modified) := by
  rw [FileTree.get?_eq_file_iff, h.view, Function.update_apply]

private theorem Changed.origin (h : Changed workspace changed spot value) :
    changed.origin = workspace.origin := by
  funext path
  rw [Workspace.origin, Workspace.origin, h.here]

private theorem changed_add (hparent : workspace.tree.kind? parent = some .directory) :
    Changed workspace (workspace.add parent name entry) (parent ++ [name]) (some entry.still) := by
  have hne : parent ++ [name] ≠ [] := by simp
  have hset : (workspace.tree.set (parent ++ [name]) entry).view?
      = Function.update workspace.tree.view? (parent ++ [name]) (some entry.still) := view?_set hne
  have hkind : (workspace.tree.set (parent ++ [name]) entry).kind? parent = some .directory := by
    rw [kind?_of_update hset, if_neg (by simp), hparent]
  exact ⟨by rw [add, view?_touch hkind, hset], rfl, rfl⟩

/-- A workspace in which entries stand in directories, seen from a directory. -/
structure WellFormed (workspace : Workspace) : Prop where
  tree : workspace.tree.WellFormed
  here : workspace.tree.kind? workspace.here = some .directory

theorem wellFormed_start (hname : IsName name) (clock : Time) : (start name clock).WellFormed := by
  have hview : (start name clock).tree.view?
      = Function.update FileTree.empty.view? ([] ++ [name]) (some (.directory 0)) :=
        view?_set (by simp)
  refine ⟨wellFormed_empty.update hview kind?_root hname ?_, ?_⟩
  · simp [kind?, get?, FileTree.empty]
  · exact (kind?_of_update hview [name]).trans (if_pos rfl)

private theorem WellFormed.origin (h : workspace.WellFormed) (path : Path) :
    workspace.tree.kind? (workspace.origin path) = some .directory := by
  unfold Workspace.origin
  split
  · exact kind?_root
  · exact h.here

private theorem WellFormed.change (h : workspace.WellFormed)
    (hchanged : Changed workspace changed (parent ++ [name]) value)
    (hparent : workspace.tree.kind? parent = some .directory) (hname : IsName name)
    (hspot : workspace.tree.kind? (parent ++ [name]) ≠ some .directory) : changed.WellFormed := by
  refine ⟨h.tree.update hchanged.view hparent hname hspot, ?_⟩
  rw [hchanged.here, hchanged.kind?, if_neg ?_, h.here]
  intro hhere
  exact hspot (hhere ▸ h.here)

private theorem WellFormed.exists_parent (h : workspace.WellFormed)
    (hthere : workspace.tree.kind? spot ≠ none)
    (hspot : workspace.tree.kind? spot ≠ some .directory) :
    ∃ parent name, spot = parent ++ [name] ∧ workspace.tree.kind? parent = some .directory ∧
      IsName name := by
  rcases List.eq_nil_or_concat' spot with rfl | ⟨parent, name, rfl⟩
  · exact absurd kind?_root hspot
  · exact ⟨parent, name, rfl, h.tree.held parent name hthere, h.tree.isName parent name hthere⟩

/-- A file that was written: it stands where the path leads to now, and no directory stood there. -/
structure Written (workspace : Workspace) (path : Path) (content : Bytes) (changed : Workspace)
    (spot : Location) : Prop where
  change : Changed workspace changed spot (some (.file content workspace.clock))
  before : workspace.tree.kind? spot = none ∨ workspace.tree.kind? spot = some .file
  leads : changed.locate .entry path = .ok (.found spot)
  wellFormed : changed.WellFormed

theorem Written.keeps (h : Written workspace path content changed spot) (there : Location)
    (kind : Entry.Kind) (hthere : workspace.tree.kind? there = some kind) :
    changed.tree.kind? there = some kind := by
  rw [h.change.kind?]
  split
  next heq =>
    subst heq
    rcases h.before with hnone | hfile
    · simp [hnone] at hthere
    · simpa [Entry.kind] using hfile.symm.trans hthere
  · exact hthere

theorem Written.locate_found {target : Path} (h : Written workspace path content changed spot)
    (hlocate : workspace.locate aim target = .ok (.found location)) :
    changed.locate aim target = .ok (.found location) := by
  obtain ⟨hspelled, hleads⟩ := locate_eq_ok_iff.1 hlocate
  refine locate_eq_ok_iff.2 ⟨hspelled, ?_⟩
  rw [h.change.origin]
  exact hleads.found_mono h.keeps

theorem Written.entry_file (h : Written workspace path content changed spot) :
    changed.entry path = .ok (.file content workspace.clock) := by
  refine entry_eq_ok_iff.2 ⟨spot, h.leads, ?_⟩
  rw [h.change.get?_eq_file_iff, if_pos rfl]

theorem Written.entry_of_ne {target : Path} {old : Bytes}
    (h : Written workspace path content changed spot)
    (hentry : workspace.entry target = .ok (.file old modified))
    (hne : changed.locate .entry target ≠ .ok (.found spot)) :
    changed.entry target = .ok (.file old modified) := by
  obtain ⟨location, hlocate, hget⟩ := entry_eq_ok_iff.1 hentry
  have hsame := h.locate_found hlocate
  refine entry_eq_ok_iff.2 ⟨location, hsame, ?_⟩
  rw [h.change.get?_eq_file_iff, if_neg ?_]
  · exact FileTree.get?_eq_file_iff.1 hget
  · rintro rfl
    exact hne hsame

theorem Written.locate_directory {target : Path} (h : Written workspace path content changed spot)
    (hlocate : changed.locate aim target = .ok (.found location))
    (hdirectory : changed.tree.kind? location = some .directory) :
    workspace.locate aim target = .ok (.found location) := by
  obtain ⟨hspelled, hleads⟩ := locate_eq_ok_iff.1 hlocate
  rw [h.change.origin] at hleads
  have hfile : changed.tree.kind? spot = some .file := by
    rw [h.change.kind?, if_pos rfl]
    rfl
  refine locate_eq_ok_iff.2 ⟨hspelled, hleads.past_file ?_ hfile ?_⟩
  · intro there hthere
    rw [h.change.kind?, if_neg hthere]
  · rintro rfl
    simp [hfile] at hdirectory

private theorem WellFormed.kind?_eq_file (wf : workspace.WellFormed)
    (hleads : Leads workspace.tree .file linkLimit (workspace.origin path) names (.found location))
    (hdirectory : workspace.tree.kind? location ≠ some .directory) :
    workspace.tree.kind? location = some .file := by
  have hstart := wf.origin path
  have hthere := hleads.kind?_ne_none wf.tree (by simp [hstart])
  have hlink := hleads.not_link (by simp) wf.tree (by simp [hstart])
  obtain ⟨kind, hkind⟩ := Option.ne_none_iff_exists'.1 hthere
  cases kind with
  | file => exact hkind
  | directory => exact absurd hkind hdirectory
  | link target => exact absurd hkind (hlink target)

/-- A write fails or puts a file where the path leads to. -/
theorem write_cases (wf : workspace.WellFormed) (path : Path) (content : Bytes) :
    (∃ fault, workspace.write path content = (.error fault, workspace)) ∨
      ∃ changed spot, workspace.write path content = (.ok (), changed) ∧
        Written workspace path content changed spot := by
  cases hlocate : workspace.locate .file path with
  | error fault => exact Or.inl ⟨fault, by simp [write, hlocate]⟩
  | ok place =>
    obtain ⟨hspelled, hleads⟩ := locate_eq_ok_iff.1 hlocate
    cases place with
    | missing parent name =>
      obtain ⟨hparent, -, habsent⟩ := hleads.missing_spec
      have hname := hleads.missing_isName fun name hname => Path.not_mem_of_mem_names hname
      have hchanged : Changed workspace (workspace.add parent name (.file content workspace.clock))
          (parent ++ [name]) (some (.file content workspace.clock)) := changed_add hparent
      refine Or.inr ⟨_, parent ++ [name], by simp [write, hlocate], hchanged, Or.inl habsent,
        ?_, ?_⟩
      · have hfile : (workspace.add parent name (.file content workspace.clock)).tree.kind?
            (parent ++ [name]) = some .file := by simp [hchanged.kind?, Entry.kind]
        refine locate_eq_ok_iff.2 ⟨hspelled, ?_⟩
        rw [hchanged.origin]
        exact hleads.entry_of_file.created (hchanged.keeps habsent) hfile (by simp)
      · exact wf.change hchanged hparent hname (by simp [habsent])
    | found location =>
      -- A directory is not written over; a file that is there gets its content in its place.
      by_cases hdirectory : workspace.tree.isDirectory location = true
      · exact Or.inl ⟨.isADirectory, by simp [write, hlocate, hdirectory]⟩
      · have hkind := wf.kind?_eq_file hleads (mt FileTree.isDirectory_iff.2 hdirectory)
        have hthere : workspace.tree.kind? location ≠ none := by simp [hkind]
        obtain ⟨parent, name, rfl, hparent, hname⟩ := wf.exists_parent hthere (by simp [hkind])
        have hchanged : Changed workspace { workspace with
            tree := workspace.tree.set (parent ++ [name]) (.file content workspace.clock)
            clock := workspace.clock + 1 } (parent ++ [name])
              (some (.file content workspace.clock)) :=
          ⟨view?_set (by simp), rfl, rfl⟩
        refine Or.inr ⟨_, parent ++ [name], by simp [write, hlocate, hdirectory], hchanged,
          Or.inr hkind, ?_, ?_⟩
        · refine locate_eq_ok_iff.2 ⟨hspelled, ?_⟩
          rw [hchanged.origin]
          refine (leads_congr fun there => ?_).1 hleads.entry_of_file
          rw [hchanged.kind?]
          split
          next heq => rw [heq, hkind]; rfl
          · rfl
        · exact wf.change hchanged hparent hname (by simp [hkind])

theorem exists_written {later : Workspace} (wf : workspace.WellFormed)
    (h : workspace.write path content = (.ok (), later)) :
    ∃ spot, Written workspace path content later spot := by
  rcases write_cases wf path content with ⟨fault, hfail⟩ | ⟨changed, spot, hmade, written⟩
  · exact nomatch (Prod.mk.inj (h.symm.trans hfail)).1
  · obtain rfl : later = changed := (Prod.mk.inj (h.symm.trans hmade)).2
    exact ⟨spot, written⟩

/-- What a removal takes away is no directory. -/
theorem remove_cases (wf : workspace.WellFormed) (path : Path) :
    (∃ fault, workspace.remove path = (.error fault, workspace)) ∨
      ∃ changed spot, workspace.remove path = (.ok (), changed) ∧
        Changed workspace changed spot none ∧ workspace.tree.kind? spot ≠ some .directory ∧
        changed.WellFormed := by
  cases hlocate : workspace.locate .itself path with
  | error fault => exact Or.inl ⟨fault, by simp [remove, hlocate]⟩
  | ok place =>
    obtain ⟨-, hleads⟩ := locate_eq_ok_iff.1 hlocate
    cases place with
    | missing parent name => exact Or.inl ⟨.notFound, by simp [remove, hlocate]⟩
    | found location =>
      by_cases hdirectory : workspace.tree.isDirectory location = true
      · exact Or.inl ⟨.isADirectory, by simp [remove, hlocate, hdirectory]⟩
      · have hkind := mt FileTree.isDirectory_iff.2 hdirectory
        have hthere := hleads.kind?_ne_none wf.tree (by simp [wf.origin path])
        obtain ⟨parent, name, rfl, hparent, hname⟩ := wf.exists_parent hthere hkind
        have herase : (workspace.tree.erase (parent ++ [name])).view?
            = Function.update workspace.tree.view? (parent ++ [name]) none := view?_erase (by simp)
        have hheld : (workspace.tree.erase (parent ++ [name])).kind? parent = some .directory := by
          rw [kind?_of_update herase, if_neg (by simp), hparent]
        have hchanged : Changed workspace (workspace.remove path).2 (parent ++ [name]) none := by
          refine ⟨?_, ?_, ?_⟩
          · simp only [remove, hlocate, hdirectory, List.dropLast_concat]
            exact (view?_touch hheld).trans herase
          · simp [remove, hlocate, hdirectory]
          · simp [remove, hlocate, hdirectory]
        exact Or.inr ⟨_, _, by simp [remove, hlocate, hdirectory], hchanged, hkind,
          wf.change hchanged hparent hname hkind⟩

theorem exists_removed {later : Workspace} (wf : workspace.WellFormed)
    (h : workspace.remove path = (.ok (), later)) :
    ∃ spot, Changed workspace later spot none ∧ later.WellFormed := by
  rcases remove_cases wf path with ⟨fault, hfail⟩ | ⟨changed, spot, hmade, hchanged, -, wf'⟩
  · exact nomatch (Prod.mk.inj (h.symm.trans hfail)).1
  · obtain rfl : later = changed := (Prod.mk.inj (h.symm.trans hmade)).2
    exact ⟨spot, hchanged, wf'⟩

theorem Changed.locate_of_gone {target : Path} (h : Changed workspace changed spot none)
    (hlocate : changed.locate aim target = .ok (.found location)) :
    workspace.locate aim target = .ok (.found location) := by
  obtain ⟨hspelled, hleads⟩ := locate_eq_ok_iff.1 hlocate
  rw [h.origin] at hleads
  refine locate_eq_ok_iff.2 ⟨hspelled, hleads.found_mono fun there kind hthere => ?_⟩
  rw [h.kind?] at hthere
  split at hthere
  · simp at hthere
  · exact hthere

theorem Changed.exists_entry_of_gone {target : Path} (h : Changed workspace changed spot none)
    (hentry : changed.entry target = .ok entry) :
    ∃ old, workspace.entry target = .ok old ∧ old.still = entry.still := by
  obtain ⟨location, hlocate, hget⟩ := entry_eq_ok_iff.1 hentry
  have hview : changed.tree.view? location = some entry.still := by simp [view?, hget]
  rw [h.view, Function.update_apply] at hview
  split at hview
  · simp at hview
  · obtain ⟨old, hold, hstill⟩ := Option.map_eq_some_iff.1 hview
    exact ⟨old, entry_eq_ok_iff.2 ⟨location, h.locate_of_gone hlocate, hold⟩, hstill⟩

private theorem named_eq (path : Path) :
    (if path.getLast? == some Path.slash then path.names.dropLast else path.names)
      = path.named := by
  by_cases hslash : path.getLast? = some Path.slash
  · rw [if_pos (by simpa using hslash), Path.names_eq_of_slash hslash, List.dropLast_concat]
  · rw [if_neg (by simpa using hslash), Path.names_eq_of_no_slash hslash]

theorem locate_of_named (hspelled : Spelled path)
    (h : Leads workspace.tree .entry linkLimit (workspace.origin path) path.named (.found spot))
    (hdirectory : workspace.tree.kind? spot = some .directory) :
    workspace.locate .entry path = .ok (.found spot) := by
  refine locate_eq_ok_iff.2 ⟨hspelled, ?_⟩
  by_cases hslash : path.getLast? = some Path.slash
  · rw [Path.names_eq_of_slash hslash]
    exact h.append fun _ => .stay hdirectory (Or.inl rfl) .here
  · rw [Path.names_eq_of_no_slash hslash]
    exact h

theorem makeDirectory_of_found
    (h : workspace.walkFrom .itself path path.named = .ok (.found location)) :
    workspace.makeDirectory path = (.error .alreadyExists, workspace) := by
  simp only [makeDirectory, named_eq, h]

/-- A directory that is made was not there, and the path leads to it. -/
theorem makeDirectory_cases (wf : workspace.WellFormed) (path : Path) :
    (∃ fault, workspace.makeDirectory path = (.error fault, workspace)) ∨
      ∃ changed spot, workspace.makeDirectory path = (.ok (), changed) ∧
        Changed workspace changed spot (some (.directory 0)) ∧ workspace.tree.kind? spot = none ∧
        changed.locate .entry path = .ok (.found spot) ∧ changed.WellFormed := by
  cases hwalk : workspace.walkFrom .itself path path.named with
  | error fault => exact Or.inl ⟨fault, by simp only [makeDirectory, named_eq, hwalk]⟩
  | ok place =>
    cases place with
    | found location => exact Or.inl ⟨.alreadyExists, makeDirectory_of_found hwalk⟩
    | missing parent name =>
      obtain ⟨hspelled, hleads⟩ := walkFrom_eq_ok_iff.1 hwalk
      obtain ⟨hparent, -, habsent⟩ := hleads.missing_spec
      have hname := hleads.missing_isName fun name hname => Path.not_mem_of_mem_named hname
      have hchanged : Changed workspace (workspace.add parent name (.directory workspace.clock))
          (parent ++ [name]) (some (.directory 0)) := changed_add hparent
      have hdirectory : (workspace.add parent name (.directory workspace.clock)).tree.kind?
          (parent ++ [name])
          = some .directory := by simp [hchanged.kind?, Entry.kind]
      have hmade := hleads.entry_of_missing.created (hchanged.keeps habsent) hdirectory (by simp)
      rw [← hchanged.origin] at hmade
      exact Or.inr ⟨_, _, by simp only [makeDirectory, named_eq, hwalk], hchanged, habsent,
        locate_of_named hspelled hmade hdirectory, wf.change hchanged hparent hname
          (by simp [habsent])⟩

end GrammarBrew.Workspace
