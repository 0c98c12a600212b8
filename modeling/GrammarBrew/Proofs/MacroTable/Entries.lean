import GrammarBrew.MacroTable.Basic
import GrammarBrew.Proofs.Lookup
import Mathlib.Data.List.Induction

/-!
The entries of a macro table. A table is the value of each of its names and nothing else: it is made
of its entries in any order, and of entries that repeat a name it keeps the last.
-/

set_option autoImplicit false
set_option relaxedAutoImplicit false

namespace GrammarBrew.MacroTable

variable {name other value : Text} {entry : Text × Text} {entries : List (Text × Text)}
  {table earlier later : MacroTable}

theorem names_nodup (table : MacroTable) : (table.entries.map Prod.fst).Nodup := by
  refine List.pairwise_map.2 (table.ordered.imp ?_)
  intro a b hlt heq
  rw [heq] at hlt
  exact List.lt_irrefl b.1 hlt

private theorem eq_of_entries_eq {table other : MacroTable} (h : table.entries = other.entries) :
    table = other := by
  cases table
  cases other
  cases h
  rfl

/-! ### The value of a name -/

private theorem get?_eq_some_iff : table.get? name = some value ↔ (name, value) ∈ table.entries :=
  lookup_eq_some_iff_mem table.names_nodup

theorem get?_eq_none_iff : table.get? name = none ↔ name ∉ table.entries.map Prod.fst :=
  lookup_eq_none_iff_not_mem

theorem eq_of_get?_eq {table other : MacroTable} (h : ∀ name, table.get? name = other.get? name) :
    table = other := by
  have hmem : ∀ entry, entry ∈ table.entries ↔ entry ∈ other.entries := by
    rintro ⟨name, value⟩
    rw [← get?_eq_some_iff, ← get?_eq_some_iff, h]
  have hperm : table.entries.Perm other.entries :=
    (List.perm_ext_iff_of_nodup (List.Nodup.of_map _ table.names_nodup)
      (List.Nodup.of_map _ other.names_nodup)).2 hmem
  refine eq_of_entries_eq (hperm.eq_of_pairwise ?_ table.ordered other.ordered)
  intro a b _ _ hab hba
  exact absurd hba (List.lt_asymm hab)

/-! ### Putting entries in -/

private theorem lookup_insertEntry (entries : List (Text × Text)) :
    (insertEntry name value entries).lookup other
      = if other = name then some value else entries.lookup other := by
  induction entries with
  | nil => rw [insertEntry, lookup_cons_eq_ite]
  | cons first rest ih =>
    obtain ⟨named, held⟩ := first
    simp only [insertEntry]
    split
    · rw [lookup_cons_eq_ite]
    · split
      next hsame =>
        subst hsame
        rw [lookup_cons_eq_ite, lookup_cons_eq_ite]
        split <;> rfl
      next hne =>
        rw [lookup_cons_eq_ite, lookup_cons_eq_ite, ih]
        by_cases hother : other = named
        · subst hother
          rw [if_pos rfl, if_pos rfl, if_neg (Ne.symm hne)]
        · rw [if_neg hother, if_neg hother]

theorem get?_insert :
    (table.insert name value).get? other = if other = name then some value else table.get? other :=
  lookup_insertEntry table.entries

theorem get?_foldl_insert :
    (entries.foldl (fun table entry => table.insert entry.1 entry.2) table).get? name
      = (entries.reverse.lookup name).or (table.get? name) := by
  induction entries using List.reverseRecOn with
  | nil => rfl
  | append_singleton entries entry ih =>
    rw [List.foldl_concat, get?_insert, ih, List.reverse_concat, lookup_cons_eq_ite]
    split <;> rfl

theorem get?_ofList : (ofList entries).get? name = entries.reverse.lookup name := by
  have hfold : (ofList entries).get? name = (entries.reverse.lookup name).or (empty.get? name) :=
    get?_foldl_insert
  rw [hfold]
  exact Option.or_none

theorem mem_of_mem_ofList (h : entry ∈ (ofList entries).entries) : entry ∈ entries := by
  rw [← Prod.eta entry, ← get?_eq_some_iff, get?_ofList] at h
  obtain ⟨before, after, hsplit, -⟩ := List.lookup_eq_some_iff.1 h
  exact List.mem_reverse.1 (by simp [hsplit])

theorem mem_names_ofList : name ∈ (ofList entries).entries.map Prod.fst
    ↔ name ∈ entries.map Prod.fst := by
  rw [← not_iff_not, ← get?_eq_none_iff, get?_ofList, lookup_eq_none_iff_not_mem, List.map_reverse,
    List.mem_reverse]

theorem ofList_of_perm (h : entries.Perm table.entries) : ofList entries = table := by
  have hperm : entries.reverse.Perm table.entries := (List.reverse_perm entries).trans h
  have hdistinct : (entries.reverse.map Prod.fst).Nodup :=
    ((hperm.map Prod.fst).nodup_iff).2 table.names_nodup
  refine eq_of_get?_eq fun name => Option.ext fun value => ?_
  rw [get?_ofList, lookup_eq_some_iff_mem hdistinct, get?_eq_some_iff, hperm.mem_iff]

/-! ### One table over another -/

/-- The entries of a later table put into an earlier one. -/
def overlay (earlier later : MacroTable) : MacroTable :=
  later.entries.foldl (fun table entry => table.insert entry.1 entry.2) earlier

private theorem get?_overlay :
    (overlay earlier later).get? name = (later.get? name).or (earlier.get? name) := by
  have hlater : later.entries.reverse.lookup name = later.get? name := by
    rw [← get?_ofList, ofList_of_perm (List.Perm.refl _)]
  rw [overlay, get?_foldl_insert, hlater]

theorem mem_overlay_iff : entry ∈ (overlay earlier later).entries ↔
    entry ∈ later.entries ∨ (entry ∈ earlier.entries ∧ entry.1 ∉ later.entries.map Prod.fst) := by
  obtain ⟨name, value⟩ := entry
  rw [← get?_eq_some_iff, ← get?_eq_some_iff, ← get?_eq_some_iff, ← get?_eq_none_iff, get?_overlay,
    Option.or_eq_some_iff, and_comm]

theorem ofList_append (before after : List (Text × Text)) :
    ofList (before ++ after) = overlay (ofList before) (ofList after) := by
  refine eq_of_get?_eq fun name => ?_
  rw [get?_overlay, get?_ofList, get?_ofList, get?_ofList, List.reverse_append, List.lookup_append]

end GrammarBrew.MacroTable
