import GrammarBrew.Proofs.Expansion.Convergence
import GrammarBrew.Proofs.Graph.Cycle

/-!
A table that is refused for a cycle would never settle. Each name of the cycle has another one as a
word of its value, and a word is replaced by whole words: whatever the other rules do to the text
around, some name of the cycle stands in it after every replacement, and so before every pass.
-/

set_option autoImplicit false
set_option relaxedAutoImplicit false

namespace GrammarBrew

open Text

variable {mode : MatchMode} {extraIterations : Nat} {table : MacroTable} {cycle names : List Text}
  {entries : List (Text × Text)} {name value text : Text}

namespace Expander

private theorem ofTable_eq_circularDefinition
    (h : ofTable mode extraIterations table = .error (.circularDefinition cycle)) :
    (∀ entry ∈ table.entries, entry.1 ≠ []) ∧
      Rule.ofEntries mode table.entries = .ok (table.kept.map (Rule.ofEntry mode)) ∧
      Rule.findCycle (table.kept.map (Rule.ofEntry mode)) = some cycle := by
  unfold ofTable at h
  split at h
  next e hrules =>
    obtain rfl := Except.error.inj h
    obtain ⟨entry, -, ⟨-, hcause⟩ | hcause⟩ := Rule.ofEntries_eq_error hrules
    all_goals simp at hcause
  next rules hrules =>
    obtain ⟨hnames, rfl⟩ := Rule.ofEntries_eq_ok hrules
    split at h
    next found hfound =>
      obtain rfl : found = cycle := by simpa using h
      exact ⟨hnames, hrules, hfound⟩
    · simp at h

end Expander

namespace MacroTable

def Mentions (names : List Text) (text : Text) : Prop := ∃ name ∈ names, name ∈ runs text

private theorem exists_value_of_findCycle (hnames : Identified table.kept)
    (hcycle : Rule.findCycle (table.kept.map (Rule.ofEntry .wordBoundary)) = some cycle)
    (hmem : name ∈ cycle) : ∃ value, (name, value) ∈ table.kept ∧ Mentions cycle value := by
  obtain ⟨walk, hwalk, rfl⟩ := Option.map_eq_some_iff.1 hcycle
  have hround := Graph.isCycle_of_findCycle hwalk
  -- A rule of the cycle is the successor of one, and successors are rules of the table.
  have hentry : ∀ rule ∈ walk, ∃ entry ∈ table.kept, rule = Rule.ofEntry .wordBoundary entry := by
    intro rule hrule
    obtain ⟨previous, hedge⟩ := hround.exists_predecessor hrule
    obtain ⟨entry, hentry, rfl⟩ := List.mem_map.1 (Rule.mem_successors.1 hedge).1
    exact ⟨entry, hentry, rfl⟩
  obtain ⟨rule, hrule, rfl⟩ := List.mem_map.1 hmem
  obtain ⟨next, hnext, hedge⟩ := hround.exists_successor hrule
  obtain ⟨entry, hkept, rfl⟩ := hentry rule hrule
  obtain ⟨other, hother, rfl⟩ := hentry next hnext
  obtain ⟨hne, hid⟩ := hnames other hother
  have hhits := (Rule.mem_successors.1 hedge).2
  have hoccurs := (Matcher.hits_iff (by simpa [Rule.ofEntry] using hne)).1 hhits
  refine ⟨entry.2, hkept, other.1, List.mem_map.2 ⟨_, hnext, rfl⟩, ?_⟩
  exact (Matcher.occurs_identifier_iff hne hid).1 hoccurs

/-! ### What stays in the text -/

private theorem Mentions.putFor (h : Mentions names text) (hname : IsWholeWord name)
    (hvalue : name ∈ names → Mentions names value) : Mentions names (putFor name value text) := by
  obtain ⟨word, hword, hruns⟩ := h
  unfold Mentions
  rw [runs_putFor hname]
  by_cases heq : word = name
  · subst heq
    obtain ⟨next, hnext, hnextRuns⟩ := hvalue hword
    refine ⟨next, hnext, List.mem_flatMap.2 ⟨word, hruns, ?_⟩⟩
    rwa [if_pos rfl]
  · refine ⟨word, hword, List.mem_flatMap.2 ⟨word, hruns, ?_⟩⟩
    rw [if_neg heq, runs_of_mem_runs hruns]
    exact List.mem_singleton_self word

private theorem Mentions.rewrite (h : Mentions names text) (hnames : Identified entries)
    (hvalues : ∀ entry ∈ entries, entry.1 ∈ names → Mentions names entry.2) :
    Mentions names (Pass.rewrite (entries.map (Rule.ofEntry .wordBoundary)) text) := by
  induction entries generalizing text with
  | nil => exact h
  | cons entry entries ih =>
    obtain ⟨hname, hidentified⟩ := List.forall_mem_cons.1 hnames
    obtain ⟨hvalue, hothers⟩ := List.forall_mem_cons.1 hvalues
    rw [rewrite_ofEntry_cons hname]
    exact ih (h.putFor (Matcher.isWholeWord_of_identifier hname.1 hname.2) hvalue)
      hidentified hothers

private theorem mentions_iterate (hnames : Identified table.kept)
    (hcycle : Rule.findCycle (table.kept.map (Rule.ofEntry .wordBoundary)) = some cycle)
    (hmem : name ∈ cycle) (k : Nat) :
    Mentions cycle ((Pass.rewrite (table.kept.map (Rule.ofEntry .wordBoundary)))^[k] name) := by
  have hvalues : ∀ entry ∈ table.kept, entry.1 ∈ cycle → Mentions cycle entry.2 := by
    intro entry hentry hname
    obtain ⟨value, hvalue, hnext⟩ := exists_value_of_findCycle hnames hcycle hname
    have hown : table.keptValue? entry.1 = some entry.2 := keptValue?_eq_some_iff.2 hentry
    have hsame : table.keptValue? entry.1 = some value := keptValue?_eq_some_iff.2 hvalue
    rwa [Option.some.inj (hown.symm.trans hsame)]
  induction k with
  | zero =>
    obtain ⟨value, hvalue, -⟩ := exists_value_of_findCycle hnames hcycle hmem
    obtain ⟨hne, hid⟩ := hnames _ hvalue
    refine ⟨name, hmem, ?_⟩
    rw [Function.iterate_zero_apply,
      runs_of_isWholeWord (Matcher.isWholeWord_of_identifier hne hid)]
    exact List.mem_singleton_self name
  | succ k ih =>
    rw [Function.iterate_succ_apply']
    exact ih.rewrite hnames hvalues

end MacroTable

namespace Expander

open MacroTable

/-- No number of passes brings a text to rest that began as a name of the reported cycle: there is
always a rule that finds its name, and every limit on the passes is used up. -/
theorem circular_never_settles
    (refused : ofTable .wordBoundary extraIterations table = .error (.circularDefinition cycle))
    (identifiers : ∀ entry ∈ table.kept, IsIdentifier entry.1) (mem : name ∈ cycle) :
    ∃ rules, Rule.ofEntries .wordBoundary table.entries = .ok rules ∧
      (∀ k, ∃ rule ∈ rules, rule.matcher.Occurs ((Pass.rewrite rules)^[k] name)) ∧
      ∀ maxPasses, ∃ changed,
        (Expander.mk rules maxPasses).expand name = .error (.nonConvergent maxPasses changed) := by
  obtain ⟨hnamed, hrules, hcycle⟩ := ofTable_eq_circularDefinition refused
  have hnames : Identified table.kept :=
    fun entry hentry => ⟨hnamed entry (List.mem_filter.1 hentry).1, identifiers entry hentry⟩
  have hloud : ∀ k, ∃ rule ∈ table.kept.map (Rule.ofEntry .wordBoundary),
      rule.matcher.Occurs
        ((Pass.rewrite (table.kept.map (Rule.ofEntry .wordBoundary)))^[k] name) := by
    intro k
    obtain ⟨word, hword, hruns⟩ := mentions_iterate hnames hcycle mem k
    obtain ⟨value, hentry, -⟩ := exists_value_of_findCycle hnames hcycle hword
    obtain ⟨hne, hid⟩ := hnames _ hentry
    exact ⟨_, List.mem_map_of_mem hentry, (Matcher.occurs_identifier_iff hne hid).2 hruns⟩
  have named : Pass.Named (table.kept.map (Rule.ofEntry .wordBoundary)) := by
    intro rule hrule
    obtain ⟨entry, hentry, rfl⟩ := List.mem_map.1 hrule
    exact (hnames entry hentry).1
  refine ⟨_, hrules, hloud, fun maxPasses => ?_⟩
  have hrulesNamed : Pass.Named (Expander.mk _ maxPasses).rules := named
  rcases expand_cases hrulesNamed name with ⟨k, -, hsettles, -⟩ | ⟨-, herror⟩
  · obtain ⟨rule, hrule, hhit⟩ := hloud k
    exact absurd hhit (hsettles.2 rule hrule)
  · exact ⟨_, herror⟩

/-- Two names that lead to each other, beside one that comes and goes with them. -/
theorem mutual_never_settles :
    let table := MacroTable.ofList
      [(['A'], ['C', ' ', 'B']), (['B'], ['x', '(', 'A', ')']), (['C'], ['A', 'B'])]
    ofTable .wordBoundary 2 table = .error (.circularDefinition [['A'], ['B'], ['A']]) ∧
      (∀ entry ∈ table.kept, IsIdentifier entry.1) ∧ ['B'] ∈ [['A'], ['B'], ['A']] ∧
      ∃ rules, Rule.ofEntries .wordBoundary table.entries = .ok rules ∧
        (∀ k, ∃ rule ∈ rules, rule.matcher.Occurs ((Pass.rewrite rules)^[k] ['B'])) ∧
        ∀ maxPasses, ∃ changed,
          (Expander.mk rules maxPasses).expand ['B']
            = .error (.nonConvergent maxPasses changed) := by
  intro table
  have refused : ofTable .wordBoundary 2 table
      = .error (.circularDefinition [['A'], ['B'], ['A']]) := by
    decide +kernel
  have identifiers : ∀ entry ∈ table.kept, IsIdentifier entry.1 := by decide +kernel
  have mem : ['B'] ∈ [['A'], ['B'], ['A']] := by decide
  exact ⟨refused, identifiers, mem, circular_never_settles refused identifiers mem⟩

end Expander

end GrammarBrew
