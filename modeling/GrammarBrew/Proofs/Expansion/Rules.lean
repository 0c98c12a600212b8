import GrammarBrew.Expander
import GrammarBrew.Proofs.MacroTable.Entries
import GrammarBrew.Proofs.Matcher.Occurrence
import Mathlib.Data.List.Basic

/-!
The rules of an accepted table: one for each macro that does not stand for its own name, in name
order, with no cycle among their values.
-/

set_option autoImplicit false
set_option relaxedAutoImplicit false

namespace GrammarBrew

namespace MacroTable

/-- The macros that rewrite something: those whose value is not their name. -/
def kept (table : MacroTable) : List (Text × Text) :=
  table.entries.filter fun entry => entry.1 ≠ entry.2

private theorem kept_ascending (table : MacroTable) : (table.kept.map Prod.fst).Pairwise (· < ·) :=
  List.pairwise_map.2 (List.Pairwise.filter _ table.ordered)

end MacroTable

namespace Rule

def ofEntry (mode : MatchMode) (entry : Text × Text) : Rule :=
  ⟨entry.1, entry.2, Matcher.ofName mode entry.1⟩

theorem ofMacro_eq_ok {mode : MatchMode} {name value : Text} {rule : Rule}
    (h : ofMacro mode name value = .ok rule) : rule = ofEntry mode (name, value) := by
  unfold ofMacro at h
  split at h
  · simp at h
  · exact (Except.ok.inj h).symm

theorem exists_ofMacro_iff {mode : MatchMode} {name value : Text} :
    (∃ rule, ofMacro mode name value = .ok rule)
      ↔ (Matcher.ofName mode name).normal.size ≤ Regex.sizeLimit := by
  unfold ofMacro
  split
  next hlarge => simp [Nat.not_le.2 hlarge]
  next hfits => simp [Nat.not_lt.1 hfits]

/-- Accepted entries have names, and each that does not stand for itself has its rule. -/
theorem ofEntries_eq_ok {mode : MatchMode} {entries : List (Text × Text)} {rules : List Rule}
    (h : ofEntries mode entries = .ok rules) :
    (∀ entry ∈ entries, entry.1 ≠ []) ∧
      rules = (entries.filter fun entry => entry.1 ≠ entry.2).map (ofEntry mode) := by
  induction entries generalizing rules with
  | nil =>
    obtain rfl : [] = rules := by simpa [ofEntries] using h
    simp
  | cons entry entries ih =>
    obtain ⟨name, value⟩ := entry
    simp only [ofEntries] at h
    split at h
    · simp at h
    next hname =>
      have hnamed : name ≠ [] := by simpa using hname
      split at h
      next hself =>
        obtain ⟨hnames, hrules⟩ := ih h
        refine ⟨List.forall_mem_cons.2 ⟨hnamed, hnames⟩, ?_⟩
        simpa [hself] using hrules
      next hother =>
        split at h
        · simp at h
        next rule hrule =>
          cases hrest : ofEntries mode entries with
          | error e => simp [hrest, Except.map] at h
          | ok others =>
            obtain rfl : rule :: others = rules := by simpa [hrest, Except.map] using h
            obtain ⟨hnames, hrules⟩ := ih hrest
            refine ⟨List.forall_mem_cons.2 ⟨hnamed, hnames⟩, ?_⟩
            rw [ofMacro_eq_ok hrule, hrules, List.filter_cons_of_pos (by simpa using hother)]
            rfl

/-- Entries whose names are not empty have their rules if all of those compile that are kept. -/
theorem ofEntries_of_named {mode : MatchMode} {entries : List (Text × Text)}
    (named : ∀ entry ∈ entries, entry.1 ≠ [])
    (compile : ∀ entry ∈ entries, entry.1 ≠ entry.2 →
      ∃ rule, ofMacro mode entry.1 entry.2 = .ok rule) :
    ofEntries mode entries
      = .ok ((entries.filter fun entry => entry.1 ≠ entry.2).map (ofEntry mode)) := by
  induction entries with
  | nil => rfl
  | cons entry entries ih =>
    obtain ⟨hname, hnames⟩ := List.forall_mem_cons.1 named
    obtain ⟨hcompiles, hcompile⟩ := List.forall_mem_cons.1 compile
    obtain ⟨name, value⟩ := entry
    have hempty : ¬ name.isEmpty = true := by simpa using hname
    have hrest := ih hnames hcompile
    by_cases hself : name = value
    · rw [List.filter_cons_of_neg (by simpa using hself)]
      simp only [ofEntries, if_neg hempty, if_pos hself]
      exact hrest
    · obtain ⟨rule, hrule⟩ := hcompiles hself
      rw [List.filter_cons_of_pos (by simpa using hself)]
      simp only [ofEntries, if_neg hempty, if_neg hself, hrule, hrest, ofMacro_eq_ok hrule]
      rfl

def Refuses (entry : Text × Text) (e : BrewError) : Prop :=
  (entry.1 = [] ∧ e = .malformedDeclaration (':' :: entry.2)) ∨ e = .invalidName entry.1 tooLarge

theorem ofEntries_eq_error {mode : MatchMode} {entries : List (Text × Text)} {e : BrewError}
    (h : ofEntries mode entries = .error e) : ∃ entry ∈ entries, Refuses entry e := by
  induction entries with
  | nil => simp [ofEntries] at h
  | cons entry entries ih =>
    have hlater : ofEntries mode entries = .error e → ∃ other ∈ entry :: entries,
        Refuses other e := by
      intro hrest
      obtain ⟨other, hother, hcause⟩ := ih hrest
      exact ⟨other, List.mem_cons_of_mem entry hother, hcause⟩
    obtain ⟨name, value⟩ := entry
    simp only [ofEntries] at h
    split at h
    next hname =>
      obtain rfl := Except.error.inj h
      exact ⟨(name, value), List.mem_cons_self, Or.inl ⟨by simpa using hname, rfl⟩⟩
    split at h
    · exact hlater h
    split at h
    next cause hmacro =>
      obtain rfl := Except.error.inj h
      refine ⟨(name, value), List.mem_cons_self, Or.inr ?_⟩
      unfold ofMacro at hmacro
      split at hmacro
      · exact (Except.error.inj hmacro).symm
      · simp at hmacro
    · cases hrest : ofEntries mode entries with
      | error cause =>
        obtain rfl : cause = e := by simpa [hrest, Except.map] using h
        exact hlater hrest
      | ok others => simp [hrest, Except.map] at h

theorem mem_successors {rules : List Rule} {rule next : Rule} :
    next ∈ successors rules rule ↔ next ∈ rules ∧ next.matcher.hits rule.value = true := by
  simp [successors]

/-- Rules in name order, each found by its own name, which is not empty. -/
structure Orderly (rules : List Rule) : Prop where
  named : ∀ rule ∈ rules, rule.matcher.name = rule.name ∧ rule.name ≠ []
  ascending : (rules.map name).Pairwise (· < ·)

end Rule

namespace Expander

variable {mode : MatchMode} {extraIterations : Nat} {table : MacroTable} {expander : Expander}

theorem ofTable_eq_ok (h : ofTable mode extraIterations table = .ok expander) :
    (∀ entry ∈ table.entries, entry.1 ≠ []) ∧
      expander.rules = table.kept.map (Rule.ofEntry mode) ∧
      Rule.findCycle expander.rules = none ∧
      expander.maxPasses = (table.kept.length + max extraIterations 1) % UInt64.size := by
  unfold ofTable at h
  split at h
  · simp at h
  next rules hrules =>
    split at h
    · simp at h
    next hcycle =>
      obtain rfl := Except.ok.inj h
      obtain ⟨hnames, heq⟩ := Rule.ofEntries_eq_ok hrules
      refine ⟨hnames, heq, hcycle, ?_⟩
      rw [heq, List.length_map]
      rfl

theorem maxPasses_eq_of_fits (h : ofTable mode extraIterations table = .ok expander)
    (fits : table.kept.length + max extraIterations 1 < UInt64.size) :
    expander.maxPasses = table.kept.length + max extraIterations 1 := by
  obtain ⟨-, -, -, hpasses⟩ := ofTable_eq_ok h
  rw [hpasses, Nat.mod_eq_of_lt fits]

theorem orderly_of_ofTable (h : ofTable mode extraIterations table = .ok expander) :
    Rule.Orderly expander.rules := by
  obtain ⟨hnames, hrules, -, -⟩ := ofTable_eq_ok h
  constructor
  · intro rule hrule
    rw [hrules] at hrule
    obtain ⟨entry, hentry, rfl⟩ := List.mem_map.1 hrule
    exact ⟨Matcher.ofName_name mode entry.1, hnames entry (List.mem_filter.1 hentry).1⟩
  · rw [hrules, List.map_map]
    exact table.kept_ascending

end Expander

end GrammarBrew
