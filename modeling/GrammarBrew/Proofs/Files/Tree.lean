import GrammarBrew.Proofs.Files.Lead
import GrammarBrew.Proofs.Files.Path
import GrammarBrew.Proofs.Lookup
import Mathlib.Logic.Function.Basic

/-!
What stands at the locations of a tree, apart from the times of directories, which every entry that
comes or goes changes. In a well-formed tree entries stand in directories, under names that a walk
asks for.
-/

set_option autoImplicit false
set_option relaxedAutoImplicit false

namespace GrammarBrew

namespace Entry

def still : Entry → Entry
  | directory _ => directory 0
  | entry => entry

@[simp] private theorem kind_still (entry : Entry) :
    entry.still.kind = entry.kind := by cases entry <;> rfl

@[simp] theorem still_eq_file_iff {entry : Entry} {content : Bytes} {modified : Time} :
    entry.still = file content modified ↔ entry = file content modified := by
      cases entry <;> simp [still]

end Entry

namespace FileTree

variable {tree other : FileTree} {location spot parent : Location} {name content : Bytes}
  {entry : Entry}
  {modified : Time} {value : Option Entry}

/-- What stands at a location, the time of a directory left out. -/
def view? (tree : FileTree) (location : Location) : Option Entry :=
  (tree.get? location).map Entry.still

theorem kind?_eq_view? : tree.kind? location = (tree.view? location).map Entry.kind := by
  simp [kind?, view?, Function.comp_def]

theorem get?_eq_file_iff :
    tree.get? location = some (.file content modified)
      ↔ tree.view? location = some (.file content modified) := by
  simp [view?]

private theorem view?_eq_directory_iff :
    tree.view? location = some (.directory 0) ↔ tree.kind? location = some .directory := by
  unfold view? kind?
  cases tree.get? location with
  | none => simp
  | some entry => cases entry <;> simp [Entry.still, Entry.kind]

theorem kind?_eq_file (h : tree.get? location = some (.file content modified)) :
    tree.kind? location = some .file := by
  simp [kind?, h, Entry.kind]

/-! ### Changes at one location -/

private theorem get?_set (h : spot ≠ []) (there : Location) :
    (tree.set spot entry).get? there = if there = spot then some entry else tree.get? there := by
  by_cases hroot : there = []
  · subst hroot
    simp [get?, Ne.symm h]
  · by_cases hspot : there = spot
    · subst hspot
      simp [get?, set, hroot]
    · have hbeq : (there == spot) = false := by simpa using hspot
      simp [get?, set, hroot, hspot, List.lookup_cons, hbeq, others, lookup_filter_ne hspot]

private theorem get?_erase (h : spot ≠ []) (there : Location) :
    (tree.erase spot).get? there = if there = spot then none else tree.get? there := by
  by_cases hroot : there = []
  · subst hroot
    simp [get?, Ne.symm h]
  · by_cases hspot : there = spot
    · subst hspot
      rw [if_pos rfl, get?, if_neg (by simpa using hroot)]
      exact lookup_filter_self
    · simp [get?, erase, hroot, hspot, others, lookup_filter_ne hspot]

theorem view?_set (h : spot ≠ []) :
    (tree.set spot entry).view? = Function.update tree.view? spot (some entry.still) := by
  funext there
  rw [view?, get?_set h, Function.update_apply]
  split <;> rfl

theorem view?_erase (h : spot ≠ []) :
    (tree.erase spot).view? = Function.update tree.view? spot none := by
  funext there
  rw [view?, get?_erase h, Function.update_apply]
  split <;> rfl

theorem view?_touch {time : Time} (h : tree.kind? parent = some .directory) :
    (if parent.isEmpty then tree else tree.set parent (.directory time)).view? = tree.view? := by
  by_cases hroot : parent = []
  · simp [hroot]
  · rw [if_neg (by simpa using hroot), view?_set hroot]
    exact Function.update_eq_self_iff.2 (view?_eq_directory_iff.2 h).symm

theorem kind?_of_update (h : other.view? = Function.update tree.view? spot value)
    (there : Location) :
    other.kind? there = if there = spot then value.map Entry.kind else tree.kind? there := by
  rw [kind?_eq_view?, h, Function.update_apply, kind?_eq_view?]
  split <;> rfl

/-! ### Well-formed trees -/

structure IsName (name : Bytes) : Prop where
  moves : ¬ StaysPut name
  descends : ¬ GoesUp name
  noSlash : Path.slash ∉ name

/-- Every entry stands in a directory, under a name. -/
structure WellFormed (tree : FileTree) : Prop where
  held : ∀ location name, tree.kind? (location ++ [name]) ≠ none →
    tree.kind? location = some .directory
  isName : ∀ location name, tree.kind? (location ++ [name]) ≠ none → IsName name

theorem wellFormed_empty : empty.WellFormed := by
  have hnone : ∀ location name, empty.kind? (location ++ [name]) = none := by
    intro location name
    simp [kind?, get?, empty]
  constructor
  · intro location name hthere
    exact absurd (hnone location name) hthere
  · intro location name hthere
    exact absurd (hnone location name) hthere

theorem WellFormed.update (h : tree.WellFormed)
    (hview : other.view? = Function.update tree.view? (parent ++ [name]) value)
    (hparent : tree.kind? parent = some .directory) (hname : IsName name)
    (hspot : tree.kind? (parent ++ [name]) ≠ some .directory) : other.WellFormed := by
  have hkind := kind?_of_update hview
  have hparentSpot : parent ≠ parent ++ [name] := by simp
  have hheld : ∀ location below, other.kind? (location ++ [below]) ≠ none →
      (location = parent ∧ below = name) ∨ tree.kind? (location ++ [below]) ≠ none := by
    intro location below hthere
    by_cases heq : location ++ [below] = parent ++ [name]
    · exact Or.inl (by simpa using heq)
    · exact Or.inr (by rwa [hkind, if_neg heq] at hthere)
  constructor
  · intro location below hthere
    rcases hheld location below hthere with ⟨rfl, rfl⟩ | hold
    · rw [hkind, if_neg hparentSpot, hparent]
    · have hlocation := h.held location below hold
      rw [hkind, if_neg ?_, hlocation]
      rintro rfl
      exact hspot hlocation
  · intro location below hthere
    rcases hheld location below hthere with ⟨-, rfl⟩ | hold
    · exact hname
    · exact h.isName location below hold

private theorem WellFormed.dropLast (h : tree.WellFormed)
    (hlocation : tree.kind? location = some .directory) :
    tree.kind? location.dropLast = some .directory := by
  rcases List.eq_nil_or_concat' location with rfl | ⟨front, name, rfl⟩
  · exact hlocation
  · rw [List.dropLast_concat]
    exact h.held front name (by simp [hlocation])

/-! ### Where names lead in a well-formed tree -/

theorem Leads.kind?_ne_none {aim : Aim} {links : Nat} {names : List Bytes} {goal : Location}
    (h : Leads tree aim links location names (.found goal)) (wf : tree.WellFormed)
    (hlocation : tree.kind? location ≠ none) : tree.kind? goal ≠ none := by
  generalize hfound : Place.found goal = place at h
  induction h with
  | here =>
    obtain rfl := Place.found.inj hfound
    exact hlocation
  | stay _ _ _ ih => exact ih hlocation hfound
  | up inside _ _ ih => exact ih (by simp [wf.dropLast inside]) hfound
  | down _ _ there _ _ ih => exact ih (by simp [there]) hfound
  | @through links location _ _ _ target inside _ _ _ _ _ ih =>
    refine ih ?_ hfound
    unfold linkStart
    split
    · simp
    · simp [inside]
  | missing => simp at hfound

theorem Leads.not_link {aim : Aim} {links : Nat} {names : List Bytes} {goal : Location}
    (h : Leads tree aim links location names (.found goal)) (haim : aim ≠ .itself)
    (wf : tree.WellFormed)
    (hlocation : ∀ target, tree.kind? location ≠ some (.link target)) (target : Path) :
    tree.kind? goal ≠ some (.link target) := by
  generalize hfound : Place.found goal = place at h
  induction h with
  | here =>
    obtain rfl := Place.found.inj hfound
    exact hlocation target
  | stay _ _ _ ih => exact ih hlocation hfound
  | up inside _ _ ih => exact ih (by simp [wf.dropLast inside]) hfound
  | down _ _ there stops _ ih =>
    refine ih (fun other hother => ?_) hfound
    rw [there] at hother
    exact haim (stops other (Option.some.inj hother)).2
  | @through links location _ _ _ target inside _ _ _ _ _ ih =>
    refine ih ?_ hfound
    unfold linkStart
    split
    · simp
    · simp [inside]
  | missing => simp at hfound

theorem Leads.missing_isName {aim : Aim} {links : Nat} {names : List Bytes}
    (h : Leads tree aim links location names (.missing parent name))
    (hnames : ∀ name ∈ names, Path.slash ∉ name) : IsName name := by
  have asks := h.missing_spec.2.1
  refine ⟨asks.moves, asks.descends, ?_⟩
  generalize hplace : Place.missing parent name = place at h
  induction h with
  | here => simp at hplace
  | stay _ _ _ ih => exact ih (List.forall_mem_cons.1 hnames).2 hplace
  | up _ _ _ ih => exact ih (List.forall_mem_cons.1 hnames).2 hplace
  | down _ _ _ _ _ ih => exact ih (List.forall_mem_cons.1 hnames).2 hplace
  | through _ _ _ _ _ _ ih =>
    refine ih (List.forall_mem_append.2 ⟨?_, (List.forall_mem_cons.1 hnames).2⟩) hplace
    exact fun name hname => Path.not_mem_of_mem_names hname
  | missing =>
    obtain ⟨rfl, rfl⟩ := Place.missing.inj hplace
    exact hnames _ (by simp)

/-! ### The files of a directory -/

/-- The regular files that a directory lists are those that stand in it. -/
theorem mem_regularFiles_iff :
    name ∈ tree.regularFiles location
      ↔ ∃ content modified, tree.get? (location ++ [name]) = some (.file content modified) := by
  have hget : ∀ entry, tree.get? (location ++ [name]) = some entry
      ↔ (location ++ [name], entry) ∈ tree.entries := by
    intro entry
    have hlookup : tree.get? (location ++ [name]) = tree.entries.lookup (location ++ [name]) := by
      simp [get?]
    rw [hlookup]
    exact lookup_eq_some_iff_mem tree.distinct
  simp only [hget, regularFiles, List.mem_filterMap]
  constructor
  · rintro ⟨⟨place, entry⟩, hmem, hname⟩
    split at hname
    next hfile =>
      simp only [Bool.and_eq_true, beq_iff_eq] at hfile
      obtain ⟨front, rfl⟩ := List.getLast?_eq_some_iff.1 hname
      obtain rfl : front = location := by simpa using hfile.2
      cases entry with
      | file content modified => exact ⟨content, modified, hmem⟩
      | directory modified => simp [Entry.isFile] at hfile
      | link target => simp [Entry.isFile] at hfile
    · simp at hname
  · rintro ⟨content, modified, hmem⟩
    exact ⟨_, hmem, by simp [Entry.isFile]⟩

end FileTree

end GrammarBrew
