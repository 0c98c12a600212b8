import GrammarBrew.Files.Tree
import Mathlib.Data.List.Basic

/-!
Walks that end at a place, as derivations: one rule for each way in which a name is taken. A walk
looks at nothing of an entry but its kind, so it ends where it did as long as the entries that it
met keep theirs.
-/

set_option autoImplicit false
set_option relaxedAutoImplicit false

namespace GrammarBrew

inductive Entry.Kind where
  | file
  | directory
  | link (target : Path)

def Entry.kind : Entry → Entry.Kind
  | file _ _ => .file
  | directory _ => .directory
  | link target => .link target

namespace FileTree

variable {tree other : FileTree} {aim : Aim} {links : Nat} {location goal : Location} {name : Bytes}
  {names rest : List Bytes} {target : Path} {place : Place} {kind : Entry.Kind}

def kind? (tree : FileTree) (location : Location) : Option Entry.Kind :=
  (tree.get? location).map Entry.kind

@[simp] theorem kind?_root : tree.kind? [] = some .directory := rfl

theorem isDirectory_iff :
    tree.isDirectory location = true ↔ tree.kind? location = some .directory := by
  unfold isDirectory kind?
  cases tree.get? location with
  | none => simp
  | some entry => cases entry <;> simp [Entry.isDirectory, Entry.kind]

def StaysPut (name : Bytes) : Prop := name = [] ∨ name = [Path.dot]

def GoesUp (name : Bytes) : Prop := name = [Path.dot, Path.dot]

/-- A name, with `rest` after it, that asks a directory for an entry and may get one. -/
structure AsksFor (aim : Aim) (name : Bytes) (rest : List Bytes) : Prop where
  moves : ¬ StaysPut name
  descends : ¬ GoesUp name
  noSlash : ¬ (aim = .file ∧ rest = [[]])
  fits : name.length ≤ longestName

def linkStart (location : Location) (target : Path) : Location :=
  if target.isAbsolute then [] else location

/-- Names lead from a location to a place. -/
inductive Leads (tree : FileTree) (aim : Aim) : Nat → Location → List Bytes → Place → Prop
  | here {links : Nat} {location : Location} : Leads tree aim links location [] (.found location)
  | stay {links : Nat} {location : Location} {name : Bytes} {rest : List Bytes} {place : Place}
      (inside : tree.kind? location = some .directory) (stays : StaysPut name)
      (onward : Leads tree aim links location rest place) :
      Leads tree aim links location (name :: rest) place
  | up {links : Nat} {location : Location} {name : Bytes} {rest : List Bytes} {place : Place}
      (inside : tree.kind? location = some .directory) (goesUp : GoesUp name)
      (onward : Leads tree aim links location.dropLast rest place) :
      Leads tree aim links location (name :: rest) place
  | down {links : Nat} {location : Location} {name : Bytes} {rest : List Bytes} {place : Place}
      {kind : Entry.Kind} (inside : tree.kind? location = some .directory)
      (asks : AsksFor aim name rest) (there : tree.kind? (location ++ [name]) = some kind)
      (stops : ∀ target, kind = .link target → rest = [] ∧ aim = .itself)
      (onward : Leads tree aim links (location ++ [name]) rest place) :
      Leads tree aim links location (name :: rest) place
  | through {links : Nat} {location : Location} {name : Bytes} {rest : List Bytes} {place : Place}
      {target : Path} (inside : tree.kind? location = some .directory)
      (asks : AsksFor aim name rest) (there : tree.kind? (location ++ [name]) = some (.link target))
      (follows : ¬ (rest = [] ∧ aim = .itself)) (ne : target ≠ [])
      (onward : Leads tree aim links (linkStart location target) (target.names ++ rest) place) :
      Leads tree aim (links + 1) location (name :: rest) place
  | missing {links : Nat} {location : Location} {name : Bytes}
      (inside : tree.kind? location = some .directory) (asks : AsksFor aim name [])
      (absent : tree.kind? (location ++ [name]) = none) :
      Leads tree aim links location [name] (.missing location name)

/-! ### Walks and derivations -/

private def follow (tree : FileTree) (aim : Aim) (links : Nat) (location : Location) (target : Path)
    (rest : List Bytes) : Except FileFault Place :=
  match links with
  | 0 => .error .tooManyLinks
  | links + 1 =>
    if target.isEmpty then .error .notFound
    else tree.walk aim links (linkStart location target) (target.names ++ rest)

private theorem walk_nil : tree.walk aim links location [] = .ok (.found location) := by
  cases links <;> rfl

private theorem walk_to {next : Location} (h : tree.step aim location name rest = .to next) :
    tree.walk aim links location (name :: rest) = tree.walk aim links next rest := by
  cases links <;> simp only [walk, walkUpTo, h]

private theorem walk_through (h : tree.step aim location name rest = .through target) :
    tree.walk aim links location (name :: rest) = tree.follow aim links location target rest := by
  cases links <;> simp only [walk, walkUpTo, h] <;> rfl

private theorem walk_ends {result : Except FileFault Place}
    (h : tree.step aim location name rest = .ends result) :
    tree.walk aim links location (name :: rest) = result := by
  cases links <;> simp only [walk, walkUpTo, h]

private theorem step_stay (inside : tree.kind? location = some .directory) (h : StaysPut name) :
    tree.step aim location name rest = .to location := by
  simp only [StaysPut] at h
  simp [step, isDirectory_iff.2 inside, h]

private theorem step_up (inside : tree.kind? location = some .directory) (h : GoesUp name) :
    tree.step aim location name rest = .to location.dropLast := by
  simp only [GoesUp] at h
  subst h
  simp [step, isDirectory_iff.2 inside]

section

variable (inside : tree.kind? location = some .directory) (asks : AsksFor aim name rest)
include inside asks

private theorem step_down (there : tree.kind? (location ++ [name]) = some kind)
    (stops : ∀ target, kind = .link target → rest = [] ∧ aim = .itself) :
    tree.step aim location name rest = .to (location ++ [name]) := by
  obtain ⟨hmoves, hdescends, hslash, hfits⟩ := asks
  simp only [StaysPut, not_or] at hmoves
  simp only [GoesUp] at hdescends
  obtain ⟨entry, hentry, rfl⟩ := Option.map_eq_some_iff.1 there
  cases entry with
  | link target =>
    obtain ⟨rfl, rfl⟩ := stops target rfl
    simp [step, isDirectory_iff.2 inside, hmoves, hdescends, Nat.not_lt.2 hfits, hentry]
  | file content modified =>
    simp [step, isDirectory_iff.2 inside, hmoves, hdescends, hslash, Nat.not_lt.2 hfits, hentry]
  | directory modified =>
    simp [step, isDirectory_iff.2 inside, hmoves, hdescends, hslash, Nat.not_lt.2 hfits, hentry]

private theorem step_through (there : tree.kind? (location ++ [name]) = some (.link target))
    (follows : ¬ (rest = [] ∧ aim = .itself)) :
    tree.step aim location name rest = .through target := by
  obtain ⟨hmoves, hdescends, hslash, hfits⟩ := asks
  simp only [StaysPut, not_or] at hmoves
  simp only [GoesUp] at hdescends
  obtain ⟨entry, hentry, hkind⟩ := Option.map_eq_some_iff.1 there
  cases entry with
  | link other =>
    obtain rfl : other = target := by simpa [Entry.kind] using hkind
    simp [step, isDirectory_iff.2 inside, hmoves, hdescends, hslash, Nat.not_lt.2 hfits,
      hentry, follows]
  | file content modified => simp [Entry.kind] at hkind
  | directory modified => simp [Entry.kind] at hkind

private theorem step_missing (absent : tree.kind? (location ++ [name]) = none) :
    tree.step aim location name rest
      = .ends (if rest = [] then .ok (.missing location name) else .error .notFound) := by
  obtain ⟨hmoves, hdescends, hslash, hfits⟩ := asks
  simp only [StaysPut, not_or] at hmoves
  simp only [GoesUp] at hdescends
  have hentry : tree.get? (location ++ [name]) = none := by simpa [kind?] using absent
  simp [step, isDirectory_iff.2 inside, hmoves, hdescends, hslash, Nat.not_lt.2 hfits, hentry]

end

private theorem step_outside (outside : tree.kind? location ≠ some .directory) :
    tree.step aim location name rest = .ends (.error .notADirectory) := by
  have hfalse : tree.isDirectory location = false := by
    rw [← Bool.not_eq_true, isDirectory_iff]
    exact outside
  simp [step, hfalse]

private theorem step_asksNot (inside : tree.kind? location = some .directory)
    (moves : ¬ StaysPut name) (descends : ¬ GoesUp name) (h : ¬ AsksFor aim name rest) :
    ∃ fault, tree.step aim location name rest = .ends (.error fault) := by
  by_cases hslash : aim = .file ∧ rest = [[]]
  · simp only [StaysPut, not_or] at moves
    simp only [GoesUp] at descends
    exact ⟨.isADirectory, by simp [step, isDirectory_iff.2 inside, moves, descends, hslash]⟩
  · have hlong : longestName < name.length := Nat.not_le.1 fun hfits =>
      h ⟨moves, descends, hslash, hfits⟩
    simp only [StaysPut, not_or] at moves
    simp only [GoesUp] at descends
    exact ⟨.nameTooLong, by simp [step, isDirectory_iff.2 inside, moves, descends, hslash, hlong]⟩

theorem Leads.walk_eq (h : Leads tree aim links location names place) :
    tree.walk aim links location names = .ok place := by
  induction h with
  | here => exact walk_nil
  | stay inside stays _ ih => rw [walk_to (step_stay inside stays), ih]
  | up inside goesUp _ ih => rw [walk_to (step_up inside goesUp), ih]
  | down inside asks there stops _ ih => rw [walk_to (step_down inside asks there stops), ih]
  | through inside asks there follows ne _ ih =>
    rw [walk_through (step_through inside asks there follows), follow,
      if_neg (by simpa using ne), ih]
  | missing inside asks absent => rw [walk_ends (step_missing inside asks absent), if_pos rfl]

private theorem leads_cons
    (onward : ∀ next, tree.walk aim links next rest = .ok place →
      Leads tree aim links next rest place)
    (beyond : ∀ target, tree.follow aim links location target rest = .ok place →
      ∃ fewer, links = fewer + 1 ∧ target ≠ [] ∧
        Leads tree aim fewer (linkStart location target) (target.names ++ rest) place)
    (h : tree.walk aim links location (name :: rest) = .ok place) :
    Leads tree aim links location (name :: rest) place := by
  by_cases inside : tree.kind? location = some .directory
  swap
  · simp [walk_ends (step_outside inside)] at h
  by_cases moves : StaysPut name
  · exact .stay inside moves (onward _ (by rwa [walk_to (step_stay inside moves)] at h))
  by_cases descends : GoesUp name
  · exact .up inside descends (onward _ (by rwa [walk_to (step_up inside descends)] at h))
  by_cases asks : AsksFor aim name rest
  swap
  · obtain ⟨fault, hfault⟩ := step_asksNot inside moves descends asks
    simp [walk_ends hfault] at h
  cases there : tree.kind? (location ++ [name]) with
  | none =>
    rw [walk_ends (step_missing inside asks there)] at h
    by_cases hrest : rest = []
    · subst hrest
      obtain rfl : Place.missing location name = place := by simpa using h
      exact .missing inside asks there
    · simp [hrest] at h
  | some kind =>
    by_cases follows : ∃ target, kind = .link target ∧ ¬ (rest = [] ∧ aim = .itself)
    · obtain ⟨target, rfl, hfollows⟩ := follows
      rw [walk_through (step_through inside asks there hfollows)] at h
      obtain ⟨fewer, rfl, ne, hbeyond⟩ := beyond target h
      exact .through inside asks there hfollows ne hbeyond
    · have stops : ∀ target, kind = .link target → rest = [] ∧ aim = .itself := by
        intro target htarget
        by_contra hnot
        exact follows ⟨target, htarget, hnot⟩
      exact .down inside asks there stops
        (onward _ (by rwa [walk_to (step_down inside asks there stops)] at h))

private theorem leads_of_walk (h : tree.walk aim links location names = .ok place) :
    Leads tree aim links location names place := by
  -- By the links that may still be followed, and between two links by the names.
  induction links generalizing location names with
  | zero =>
    induction names generalizing location with
    | nil =>
      obtain rfl : Place.found location = place := by simpa [walk_nil] using h
      exact .here
    | cons name rest ih =>
      exact leads_cons (fun _ => ih) (fun target hfollow => by simp [follow] at hfollow) h
  | succ links ihLinks =>
    induction names generalizing location with
    | nil =>
      obtain rfl : Place.found location = place := by simpa [walk_nil] using h
      exact .here
    | cons name rest ih =>
      refine leads_cons (fun _ => ih) (fun target hfollow => ?_) h
      simp only [follow] at hfollow
      split at hfollow
      · simp at hfollow
      next hne => exact ⟨links, rfl, by simpa using hne, ihLinks hfollow⟩

theorem walk_eq_ok_iff :
    tree.walk aim links location names = .ok place ↔ Leads tree aim links location names place :=
  ⟨leads_of_walk, Leads.walk_eq⟩

end FileTree

end GrammarBrew
