import GrammarBrew.Matcher
import Mathlib.Data.List.Basic

/-!
Where a matcher finds its name. The scan for parts is opened once into two equations, for a place
where no occurrence begins and for a place where one does; what it counts and replaces follows from
them.
-/

set_option autoImplicit false
set_option relaxedAutoImplicit false

namespace GrammarBrew.Matcher

variable {matcher : Matcher} {before : Option Char} {c : Char} {seen text rest value : Text}

@[simp] theorem ofName_name (mode : MatchMode) (name : Text) : (ofName mode name).name = name := by
  cases mode <;> rfl

@[simp] theorem partsFrom_nil : matcher.partsFrom before seen [] = [seen.reverse] := by
  rw [partsFrom]

theorem partsFrom_miss (h : matcher.matchHere? before (c :: text) = none) :
    matcher.partsFrom before seen (c :: text) = matcher.partsFrom (some c) (c :: seen) text := by
  rw [partsFrom]
  split
  · rfl
  next hhit => simp [hhit] at h

theorem partsFrom_hit (named : matcher.name ≠ [])
    (h : matcher.matchHere? before (c :: text) = some rest) :
    matcher.partsFrom before seen (c :: text)
      = seen.reverse :: matcher.partsFrom matcher.name.getLast? [] rest := by
  rw [partsFrom]
  split
  next hmiss => simp [hmiss] at h
  next other hhit =>
    obtain rfl : other = rest := by simpa [hhit] using h
    rw [dif_neg named]

theorem partsFrom_seen (named : matcher.name ≠ []) :
    matcher.partsFrom before seen text
      = (matcher.partsFrom before [] text).modifyHead (seen.reverse ++ ·) := by
  induction text generalizing before seen with
  | nil => simp
  | cons c text ih =>
    cases h : matcher.matchHere? before (c :: text) with
    | none =>
      have hseen : ∀ seen, matcher.partsFrom (some c) seen text
          = (matcher.partsFrom (some c) [] text).modifyHead (seen.reverse ++ ·) := fun _ => ih
      rw [partsFrom_miss h, partsFrom_miss h, hseen (c :: seen), hseen [c]]
      simp [List.modifyHead_modifyHead, Function.comp_def]
    | some rest => simp [partsFrom_hit named h]

theorem partsFrom_ne_nil (named : matcher.name ≠ []) : matcher.partsFrom before seen text ≠ [] := by
  induction text generalizing before seen with
  | nil => simp
  | cons c text ih =>
    cases h : matcher.matchHere? before (c :: text) with
    | none => simpa [partsFrom_miss h] using ih
    | some rest => simp [partsFrom_hit named h]

/-! ### Replacement from a place on -/

def replaceFrom (matcher : Matcher) (value : Text) (before : Option Char) (text : Text) : Text :=
  Text.join value (matcher.partsFrom before [] text)

@[simp] theorem replaceFrom_nil : matcher.replaceFrom value before [] = [] := by
  simp [replaceFrom, Text.join]

theorem replaceFrom_miss (named : matcher.name ≠ [])
    (h : matcher.matchHere? before (c :: text) = none) :
    matcher.replaceFrom value before (c :: text) = c :: matcher.replaceFrom value
      (some c) text := by
  rw [replaceFrom, partsFrom_miss h, partsFrom_seen named, replaceFrom]
  have hne : matcher.partsFrom (some c) [] text ≠ [] := partsFrom_ne_nil named
  obtain ⟨part, parts, hparts⟩ := List.exists_cons_of_ne_nil hne
  rw [hparts]
  cases parts <;> simp [Text.join, List.intercalate]

theorem replaceFrom_hit (named : matcher.name ≠ [])
    (h : matcher.matchHere? before (c :: text) = some rest) :
    matcher.replaceFrom value before (c :: text)
      = value ++ matcher.replaceFrom value matcher.name.getLast? rest := by
  rw [replaceFrom, partsFrom_hit named h, replaceFrom]
  have hne : matcher.partsFrom matcher.name.getLast? [] rest ≠ [] := partsFrom_ne_nil named
  obtain ⟨part, parts, hparts⟩ := List.exists_cons_of_ne_nil hne
  rw [hparts]
  simp [Text.join, List.intercalate]

/-! ### Occurrences -/

/-- An occurrence begins where the name stands next, between the boundaries that the matcher asks
for. -/
theorem matchHere?_eq_some_iff :
    matcher.matchHere? before text = some rest ↔
      text = matcher.name ++ rest ∧
        (matcher.guardsStart = true → isBoundary before text.head? = true) ∧
        (matcher.guardsEnd = true → isBoundary matcher.name.getLast? rest.head? = true) := by
  rw [← isPrefixOf?_eq_some_iff]
  unfold matchHere?
  cases hprefix : matcher.name.isPrefixOf? text with
  | none => simp
  | some after =>
    have hguard : ∀ guarded boundary : Bool,
        (!guarded || boundary) = true ↔ (guarded = true → boundary = true) := by decide
    simp only [Bool.and_eq_true, hguard, Option.ite_none_right_eq_some, Option.some_inj]
    constructor
    · rintro ⟨hguards, rfl⟩
      exact ⟨rfl, hguards⟩
    · rintro ⟨rfl, hguards⟩
      exact ⟨hguards, rfl⟩

def OccursAfter (matcher : Matcher) (before : Option Char) (text : Text) : Prop :=
  ∃ passed ahead, text = passed ++ ahead ∧
    (matcher.matchHere? (passed.getLast?.or before) ahead).isSome

/-- The name occurs somewhere in a text, with the boundaries that it asks for. -/
def Occurs (matcher : Matcher) (text : Text) : Prop :=
  ∃ passed ahead, text = passed ++ ahead ∧ (matcher.matchHere? passed.getLast? ahead).isSome

theorem occurs_iff : matcher.Occurs text ↔ matcher.OccursAfter none text := by
  simp [Occurs, OccursAfter]

theorem matchHere?_nil (named : matcher.name ≠ []) : matcher.matchHere? before [] = none := by
  cases h : matcher.matchHere? before [] with
  | none => rfl
  | some rest =>
    have hlength := length_of_matchHere? h
    have hpos := List.length_pos_iff.2 named
    rw [List.length_nil] at hlength
    omega

theorem not_occursAfter_nil (named : matcher.name ≠ []) : ¬ matcher.OccursAfter before [] := by
  rintro ⟨passed, ahead, heq, hhit⟩
  obtain ⟨rfl, rfl⟩ := List.append_eq_nil_iff.1 heq.symm
  simp [matchHere?_nil named] at hhit

theorem getLast?_cons_or (passed : Text) :
    (c :: passed).getLast?.or before = passed.getLast?.or (some c) := by
  rw [List.getLast?_cons]
  cases passed.getLast? <;> rfl

theorem occursAfter_cons :
    matcher.OccursAfter before (c :: text)
      ↔ (matcher.matchHere? before (c :: text)).isSome ∨ matcher.OccursAfter (some c) text := by
  constructor
  · rintro ⟨passed, ahead, heq, hhit⟩
    cases passed with
    | nil =>
      obtain rfl : c :: text = ahead := by simpa using heq
      exact Or.inl (by simpa using hhit)
    | cons d passed =>
      obtain ⟨rfl, rfl⟩ := List.cons.inj heq
      exact Or.inr ⟨passed, ahead, rfl, by rwa [getLast?_cons_or] at hhit⟩
  · rintro (hhere | ⟨passed, ahead, rfl, hhit⟩)
    · exact ⟨[], c :: text, rfl, by simpa using hhere⟩
    · exact ⟨c :: passed, ahead, rfl, by rwa [getLast?_cons_or]⟩

theorem OccursAfter.append {passed : Text}
    (h : matcher.OccursAfter (passed.getLast?.or before) text) :
    matcher.OccursAfter before (passed ++ text) := by
  obtain ⟨skipped, ahead, rfl, hhit⟩ := h
  refine ⟨passed ++ skipped, ahead, by simp, ?_⟩
  rwa [List.getLast?_append, Option.or_assoc]

private theorem partsFrom_of_not_occursAfter (h : ¬ matcher.OccursAfter before text) :
    matcher.partsFrom before seen text = [seen.reverse ++ text] := by
  induction text generalizing before seen with
  | nil => simp
  | cons c text ih =>
    rw [occursAfter_cons, not_or] at h
    rw [partsFrom_miss (by simpa using h.1), ih h.2]
    simp

private theorem one_lt_length_partsFrom (named : matcher.name ≠ [])
    (h : matcher.OccursAfter before text) :
    1 < (matcher.partsFrom before seen text).length := by
  induction text generalizing before seen with
  | nil => exact absurd h (not_occursAfter_nil named)
  | cons c text ih =>
    cases hhere : matcher.matchHere? before (c :: text) with
    | none =>
      rw [partsFrom_miss hhere]
      exact ih ((occursAfter_cons.1 h).resolve_left (by simp [hhere]))
    | some rest =>
      have hpos : 0 < (matcher.partsFrom matcher.name.getLast? [] rest).length :=
        List.length_pos_iff.2 (partsFrom_ne_nil named)
      rw [partsFrom_hit named hhere, List.length_cons]
      omega

theorem count_ne_zero_iff (named : matcher.name ≠ []) :
    matcher.count text ≠ 0 ↔ matcher.Occurs text := by
  rw [occurs_iff, count, parts]
  constructor
  · intro hcount
    by_contra hnot
    rw [partsFrom_of_not_occursAfter hnot] at hcount
    exact hcount rfl
  · intro h
    have : 1 < (matcher.partsFrom none [] text).length := one_lt_length_partsFrom named h
    omega

theorem hits_iff (named : matcher.name ≠ []) : matcher.hits text = true ↔ matcher.Occurs text := by
  rw [← count_ne_zero_iff named]
  simp [hits]

theorem replace_of_count_eq_zero (named : matcher.name ≠ []) (h : matcher.count text = 0) :
    matcher.replace value text = text := by
  have hnot : ¬ matcher.OccursAfter none text := by
    rw [← occurs_iff, ← count_ne_zero_iff named]
    exact not_not_intro h
  rw [replace, parts, partsFrom_of_not_occursAfter hnot]
  simp [Text.join]

end GrammarBrew.Matcher
