import Mathlib.Data.List.Nodup

/-!
Looking a key up among entries that have keys of their own.
-/

set_option autoImplicit false
set_option relaxedAutoImplicit false

namespace GrammarBrew

variable {α β : Type} [BEq α] [LawfulBEq α] {entries : List (α × β)} {key : α} {value : β}

theorem lookup_cons_eq_ite [DecidableEq α] (other : α) :
    ((other, value) :: entries).lookup key
      = if key = other then some value else entries.lookup key := by
  rw [List.lookup_cons]
  by_cases hkey : key = other
  · simp [hkey]
  · rw [if_neg hkey, beq_false_of_ne hkey]

theorem lookup_eq_none_iff_not_mem : entries.lookup key = none ↔ key ∉ entries.map Prod.fst := by
  rw [List.lookup_eq_none_iff, List.mem_map]
  constructor
  · rintro h ⟨entry, hentry, rfl⟩
    simpa using h entry hentry
  · intro h entry hentry
    simpa using fun heq => h ⟨entry, hentry, Eq.symm heq⟩

omit [LawfulBEq α] in
theorem lookup_map_value {γ : Type} (change : β → γ) :
    (entries.map (Prod.map id change)).lookup key = (entries.lookup key).map change := by
  induction entries with
  | nil => rfl
  | cons entry entries ih =>
    rw [List.map_cons, List.lookup_cons, List.lookup_cons, ih, Prod.map_fst, id_eq]
    cases key == entry.1 <;> rfl

theorem getLast?_filterMap_cons {γ : Type} (write : γ → Option β) (entry : γ) (entries : List γ)
    (before : Option β) : ((entry :: entries).filterMap write).getLast?.or before
      = (entries.filterMap write).getLast?.or ((write entry).or before) := by
  cases hwrite : write entry with
  | none => rw [List.filterMap_cons_none hwrite, Option.none_or]
  | some value =>
    rw [List.filterMap_cons_some hwrite, List.getLast?_cons]
    cases (entries.filterMap write).getLast? <;> rfl

theorem lookup_eq_some_iff_mem (distinct : (entries.map Prod.fst).Nodup) :
    entries.lookup key = some value ↔ (key, value) ∈ entries := by
  constructor
  · intro h
    obtain ⟨before, after, rfl, -⟩ := List.lookup_eq_some_iff.1 h
    simp
  · intro h
    obtain ⟨before, after, rfl⟩ := List.append_of_mem h
    refine List.lookup_eq_some_iff.2 ⟨before, after, rfl, fun entry hentry => ?_⟩
    rw [List.map_append, List.nodup_append] at distinct
    have hne := distinct.2.2 entry.1 (List.mem_map_of_mem hentry) key (by simp)
    simpa using Ne.symm hne

theorem lookup_filter_ne {other : α} (h : other ≠ key) :
    (entries.filter fun entry => entry.1 != key).lookup other = entries.lookup other := by
  induction entries with
  | nil => rfl
  | cons entry entries ih =>
    obtain ⟨first, held⟩ := entry
    by_cases hfirst : first = key
    · subst hfirst
      have hbeq : (other == first) = false := by simpa using h
      simp [List.lookup_cons, hbeq, ih]
    · rw [List.filter_cons_of_pos (by simpa using hfirst), List.lookup_cons, List.lookup_cons, ih]

theorem lookup_filter_self : (entries.filter fun entry => entry.1 != key).lookup key = none := by
  rw [List.lookup_eq_none_iff]
  intro entry hentry
  have hne : entry.1 ≠ key := by simpa using (List.mem_filter.1 hentry).2
  simpa using Ne.symm hne

end GrammarBrew
