import GrammarBrew.Proofs.Files.Walk

/-!
Where names lead in a tree, and what a change of the tree leaves of it. Entries that come let more
names lead somewhere and divert none; a new file ends the walk that found its name missing; entries
that go only cut walks off.
-/

set_option autoImplicit false
set_option relaxedAutoImplicit false

namespace GrammarBrew.FileTree

variable {tree other : FileTree} {aim : Aim} {links : Nat} {location goal spot parent : Location}
  {name : Bytes} {names first second rest : List Bytes} {place : Place}

theorem Leads.unique {place' : Place} (h : Leads tree aim links location names place)
    (h' : Leads tree aim links location names place') : place = place' :=
  Except.ok.inj (h.walk_eq.symm.trans h'.walk_eq)

theorem Leads.missing_spec (h : Leads tree aim links location names (.missing parent name)) :
    tree.kind? parent = some .directory ∧ AsksFor aim name [] ∧
      tree.kind? (parent ++ [name]) = none := by
  generalize hplace : Place.missing parent name = place at h
  induction h with
  | here => simp at hplace
  | stay _ _ _ ih => exact ih hplace
  | up _ _ _ ih => exact ih hplace
  | down _ _ _ _ _ ih => exact ih hplace
  | through _ _ _ _ _ _ ih => exact ih hplace
  | missing inside asks absent =>
    obtain ⟨rfl, rfl⟩ := Place.missing.inj hplace
    exact ⟨inside, asks, absent⟩

private theorem AsksFor.change {aim' : Aim} {rest' : List Bytes} (h : AsksFor aim name rest)
    (haim : aim' ≠ .file) : AsksFor aim' name rest' :=
  ⟨h.moves, h.descends, fun hslash => haim hslash.1, h.fits⟩

private theorem not_stops_entry {aim' : Aim} {kind : Entry.Kind} {rest' : List Bytes}
    (haim : aim ≠ .itself)
    (stops : ∀ target, kind = .link target → rest = [] ∧ aim = .itself) :
    ∀ target, kind = .link target → rest' = [] ∧ aim' = .itself :=
  fun target htarget => absurd (stops target htarget).2 haim

/-! ### Along the names -/

theorem Leads.append (h : Leads tree .entry links location first (.found goal))
    (onward : ∀ fewer, Leads tree .entry fewer goal second place) :
    Leads tree .entry links location (first ++ second) place := by
  generalize hfound : Place.found goal = middle at h
  induction h with
  | here =>
    obtain rfl := Place.found.inj hfound
    exact onward _
  | stay inside stays _ ih => exact .stay inside stays (ih hfound)
  | up inside goesUp _ ih => exact .up inside goesUp (ih hfound)
  | down inside asks there stops _ ih =>
    exact .down inside (asks.change (by simp)) there (not_stops_entry (by simp) stops) (ih hfound)
  | through inside asks there follows ne _ ih =>
    have hbeyond := ih hfound
    rw [List.append_assoc] at hbeyond
    exact .through inside (asks.change (by simp)) there (by simp) ne hbeyond
  | missing => simp at hfound

/-- What names lead to is reached by way of any first part of them. -/
theorem Leads.split (h : Leads tree .entry links location (first ++ second) (.found goal)) :
    ∃ middle fewer, Leads tree .entry links location first (.found middle) ∧
      Leads tree .entry fewer middle second (.found goal) := by
  -- On the way the names lead: a link puts what it stands for before what is left of `first`.
  generalize hnames : first ++ second = names at h
  generalize hfound : Place.found goal = place at h
  induction h generalizing first with
  | @here links location =>
    obtain ⟨rfl, rfl⟩ := List.append_eq_nil_iff.1 hnames
    obtain rfl := Place.found.inj hfound
    exact ⟨_, links, .here, .here⟩
  | @stay links location name rest place inside stays onward ih =>
    cases first with
    | nil =>
      obtain rfl : second = name :: rest := hnames
      subst hfound
      exact ⟨_, links, .here, .stay inside stays onward⟩
    | cons head tail =>
      obtain ⟨rfl, rfl⟩ := List.cons.inj hnames
      obtain ⟨middle, fewer, hfirst, hsecond⟩ := ih rfl hfound
      exact ⟨middle, fewer, .stay inside stays hfirst, hsecond⟩
  | @up links location name rest place inside goesUp onward ih =>
    cases first with
    | nil =>
      obtain rfl : second = name :: rest := hnames
      subst hfound
      exact ⟨_, links, .here, .up inside goesUp onward⟩
    | cons head tail =>
      obtain ⟨rfl, rfl⟩ := List.cons.inj hnames
      obtain ⟨middle, fewer, hfirst, hsecond⟩ := ih rfl hfound
      exact ⟨middle, fewer, .up inside goesUp hfirst, hsecond⟩
  | @down links location name rest place kind inside asks there stops onward ih =>
    cases first with
    | nil =>
      obtain rfl : second = name :: rest := hnames
      subst hfound
      exact ⟨_, links, .here, .down inside asks there stops onward⟩
    | cons head tail =>
      obtain ⟨rfl, rfl⟩ := List.cons.inj hnames
      obtain ⟨middle, fewer, hfirst, hsecond⟩ := ih rfl hfound
      refine ⟨middle, fewer, ?_, hsecond⟩
      exact .down inside (asks.change (by simp)) there (not_stops_entry (by simp) stops) hfirst
  | @through links location name rest place target inside asks there follows ne onward ih =>
    cases first with
    | nil =>
      obtain rfl : second = name :: rest := hnames
      subst hfound
      exact ⟨_, links + 1, .here, .through inside asks there follows ne onward⟩
    | cons head tail =>
      obtain ⟨rfl, rfl⟩ := List.cons.inj hnames
      obtain ⟨middle, fewer, hfirst, hsecond⟩ := ih (List.append_assoc _ _ _) hfound
      refine ⟨middle, fewer, ?_, hsecond⟩
      exact .through inside (asks.change (by simp)) there (by simp) ne hfirst
  | missing => simp at hfound

theorem Leads.isDirectory (h : Leads tree aim links location (name :: rest) place) :
    tree.kind? location = some .directory := by
  cases h with
  | stay inside => exact inside
  | up inside => exact inside
  | down inside => exact inside
  | through inside => exact inside
  | missing inside => exact inside

theorem Leads.isDirectory_of_slash
    (h : Leads tree .entry links location (names ++ [[]]) (.found goal)) :
    tree.kind? goal = some .directory ∧ Leads tree .entry links location names (.found goal) := by
  obtain ⟨middle, fewer, hfirst, hlast⟩ := h.split
  have inside := hlast.isDirectory
  have hstay : Leads tree .entry fewer middle [[]] (.found middle) :=
    .stay inside (Or.inl rfl) .here
  obtain rfl := Place.found.inj (hlast.unique hstay)
  exact ⟨inside, hfirst⟩

/-! ### Between aims -/

theorem Leads.entry_of_file (h : Leads tree .file links location names place) :
    Leads tree .entry links location names place := by
  induction h with
  | here => exact .here
  | stay inside stays _ ih => exact .stay inside stays ih
  | up inside goesUp _ ih => exact .up inside goesUp ih
  | down inside asks there stops _ ih =>
    exact .down inside (asks.change (by simp)) there (not_stops_entry (by simp) stops) ih
  | through inside asks there follows ne _ ih =>
    exact .through inside (asks.change (by simp)) there (by simp) ne ih
  | missing inside asks absent =>
    exact .missing inside (asks.change (by simp)) absent

theorem Leads.file_of_entry (h : Leads tree .entry links location names (.found goal))
    (hfile : tree.kind? goal = some .file) :
      Leads tree .file links location names (.found goal) := by
  -- Before a final slash there would be a directory.
  have noSlash : ∀ {links location names}, Leads tree .entry links location names (.found goal) →
      ∀ front, names ≠ front ++ [[]] := by
    rintro links location _ h front rfl
    simp [h.isDirectory_of_slash.1] at hfile
  generalize hfound : Place.found goal = place at h
  induction h with
  | here => exact .here
  | stay inside stays _ ih => exact .stay inside stays (ih hfound)
  | up inside goesUp _ ih => exact .up inside goesUp (ih hfound)
  | down inside asks there stops onward ih =>
    subst hfound
    refine .down inside ⟨asks.moves, asks.descends, ?_, asks.fits⟩ there
      (not_stops_entry (by simp) stops) (ih rfl)
    rintro ⟨-, rfl⟩
    exact noSlash onward [] rfl
  | through inside asks there follows ne onward ih =>
    subst hfound
    refine .through inside ⟨asks.moves, asks.descends, ?_, asks.fits⟩ there (by simp) ne (ih rfl)
    rintro ⟨-, rfl⟩
    exact noSlash onward _ rfl
  | missing => simp at hfound

/-- Names that lead somewhere lead to something, be it a link. -/
theorem Leads.itself_of_entry (h : Leads tree .entry links location names (.found goal)) :
    ∃ there, Leads tree .itself links location names (.found there) := by
  generalize hfound : Place.found goal = place at h
  induction h with
  | here => exact ⟨_, .here⟩
  | stay inside stays _ ih =>
    obtain ⟨there, hthere⟩ := ih hfound
    exact ⟨there, .stay inside stays hthere⟩
  | up inside goesUp _ ih =>
    obtain ⟨there, hthere⟩ := ih hfound
    exact ⟨there, .up inside goesUp hthere⟩
  | down inside asks there stops _ ih =>
    obtain ⟨found, hfound⟩ := ih hfound
    exact ⟨found, .down inside (asks.change (by simp)) there
      (not_stops_entry (by simp) stops) hfound⟩
  | @through links location name rest place target inside asks there follows ne _ ih =>
    by_cases hrest : rest = []
    · subst hrest
      refine ⟨location ++ [name], .down inside (asks.change (by simp)) there ?_ .here⟩
      exact fun _ _ => ⟨rfl, rfl⟩
    · obtain ⟨found, hfound⟩ := ih hfound
      exact ⟨found, .through inside (asks.change (by simp)) there
        (by simp [hrest]) ne hfound⟩
  | missing => simp at hfound

/-- What is missing itself is missing through links as well. -/
theorem Leads.entry_of_missing
    (h : Leads tree .itself links location names (.missing parent name)) :
    Leads tree .entry links location names (.missing parent name) := by
  generalize hplace : Place.missing parent name = place at h
  induction h with
  | here => simp at hplace
  | stay inside stays _ ih => exact .stay inside stays (ih hplace)
  | up inside goesUp _ ih => exact .up inside goesUp (ih hplace)
  | down inside asks there stops onward ih =>
    refine .down inside (asks.change (by simp)) there (fun target htarget => ?_) (ih hplace)
    -- Behind a link in the last place nothing is missing.
    obtain ⟨rfl, -⟩ := stops target htarget
    cases onward
    simp at hplace
  | through inside asks there follows ne _ ih =>
    exact .through inside (asks.change (by simp)) there (by simp) ne (ih hplace)
  | missing inside asks absent =>
    obtain ⟨rfl, rfl⟩ := Place.missing.inj hplace
    exact .missing inside (asks.change (by simp)) absent

/-! ### When the tree changes -/

private theorem Leads.mono (h : Leads tree aim links location names place)
    (hkeep : ∀ there kind, tree.kind? there = some kind → other.kind? there = some kind)
    (habsent : ∀ parent name, place = .missing parent name →
      other.kind? (parent ++ [name]) = none) :
    Leads other aim links location names place := by
  induction h with
  | here => exact .here
  | stay inside stays _ ih => exact .stay (hkeep _ _ inside) stays (ih habsent)
  | up inside goesUp _ ih => exact .up (hkeep _ _ inside) goesUp (ih habsent)
  | down inside asks there stops _ ih =>
    exact .down (hkeep _ _ inside) asks (hkeep _ _ there) stops (ih habsent)
  | through inside asks there follows ne _ ih =>
    exact .through (hkeep _ _ inside) asks (hkeep _ _ there) follows ne (ih habsent)
  | missing inside asks _ => exact .missing (hkeep _ _ inside) asks (habsent _ _ rfl)

theorem Leads.found_mono (h : Leads tree aim links location names (.found goal))
    (hkeep : ∀ there kind, tree.kind? there = some kind → other.kind? there = some kind) :
    Leads other aim links location names (.found goal) := h.mono hkeep (by simp)

theorem leads_congr (h : ∀ there, tree.kind? there = other.kind? there) :
    Leads tree aim links location names place ↔ Leads other aim links location names place := by
  constructor
  · intro hleads
    refine hleads.mono (fun there kind hkind => h there ▸ hkind) ?_
    rintro parent name rfl
    rw [← h]
    exact hleads.missing_spec.2.2
  · intro hleads
    refine hleads.mono (fun there kind hkind => h there ▸ hkind) ?_
    rintro parent name rfl
    rw [h]
    exact hleads.missing_spec.2.2

theorem Leads.created {kind : Entry.Kind}
    (h : Leads tree aim links location names (.missing parent name))
    (hkeep : ∀ there kind, tree.kind? there = some kind → other.kind? there = some kind)
    (hmade : other.kind? (parent ++ [name]) = some kind) (hlink : ∀ target, kind ≠ .link target) :
    Leads other aim links location names (.found (parent ++ [name])) := by
  generalize hplace : Place.missing parent name = place at h
  induction h with
  | here => simp at hplace
  | stay inside stays _ ih => exact .stay (hkeep _ _ inside) stays (ih hplace)
  | up inside goesUp _ ih => exact .up (hkeep _ _ inside) goesUp (ih hplace)
  | down inside asks there stops _ ih =>
    exact .down (hkeep _ _ inside) asks (hkeep _ _ there) stops (ih hplace)
  | through inside asks there follows ne _ ih =>
    exact .through (hkeep _ _ inside) asks (hkeep _ _ there) follows ne (ih hplace)
  | missing inside asks _ =>
    obtain ⟨rfl, rfl⟩ := Place.missing.inj hplace
    exact .down (hkeep _ _ inside) asks hmade
      (fun target htarget => absurd htarget (hlink target)) .here

/-- Names that lead past a file do not lead through it. -/
theorem Leads.past_file (h : Leads other aim links location names (.found goal))
    (hsame : ∀ there, there ≠ spot → other.kind? there = tree.kind? there)
    (hfile : other.kind? spot = some .file) (hgoal : goal ≠ spot) :
    Leads tree aim links location names (.found goal) := by
  have hinside : ∀ there, other.kind? there = some .directory →
      tree.kind? there = some .directory := by
    intro there hdirectory
    rw [← hsame there ?_, hdirectory]
    rintro rfl
    simp [hfile] at hdirectory
  generalize hfound : Place.found goal = place at h
  induction h with
  | here => exact .here
  | stay inside stays _ ih => exact .stay (hinside _ inside) stays (ih hfound)
  | up inside goesUp _ ih => exact .up (hinside _ inside) goesUp (ih hfound)
  | @down links location name rest place kind inside asks there stops onward ih =>
    by_cases hspot : location ++ [name] = spot
    · subst hfound
      -- The names stop at the file, which is not the goal, or ask a file for a name.
      cases rest with
      | nil =>
        obtain rfl : goal = location ++ [name] := by simpa using onward.unique .here
        exact absurd hspot hgoal
      | cons next rest =>
        rw [hspot] at onward
        simp [onward.isDirectory] at hfile
    · exact .down (hinside _ inside) asks (hsame _ hspot ▸ there) stops (ih hfound)
  | @through links location name rest place target inside asks there follows ne _ ih =>
    have hspot : location ++ [name] ≠ spot := by
      intro hspot
      simp [hspot, hfile] at there
    exact .through (hinside _ inside) asks (hsame _ hspot ▸ there) follows ne (ih hfound)
  | missing => simp at hfound

end GrammarBrew.FileTree
