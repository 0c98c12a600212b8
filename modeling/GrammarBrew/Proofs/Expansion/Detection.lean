import GrammarBrew.Proofs.Expansion.Circular
import GrammarBrew.Proofs.Graph.Colouring

/-!
Which tables are refused for a cycle. The macros of a table are the nodes of a graph in which an
edge leads from a name to each name that its value holds, as the mode finds names. A table is
refused exactly if some name can be reached from itself, and what is reported is a cycle of the
graph.
-/

set_option autoImplicit false
set_option relaxedAutoImplicit false

namespace GrammarBrew

variable {mode : MatchMode} {extraIterations : Nat} {table : MacroTable} {name next value : Text}
  {cycle : List Text}

namespace MacroTable

/-- The value of the one macro holds the name of the other, where the mode finds it. -/
def LeadsTo (mode : MatchMode) (table : MacroTable) (name next : Text) : Prop :=
  ∃ value other, (name, value) ∈ table.kept ∧ (next, other) ∈ table.kept ∧
    (Matcher.ofName mode next).hits value = true

def ruleOf (mode : MatchMode) (table : MacroTable) (name : Text) : Rule :=
  Rule.ofEntry mode (name, (table.keptValue? name).getD [])

def rules (mode : MatchMode) (table : MacroTable) : List Rule := table.kept.map (Rule.ofEntry mode)

private theorem ruleOf_eq (h : (name, value) ∈ table.kept) :
    table.ruleOf mode name = Rule.ofEntry mode (name, value) := by
  rw [ruleOf, keptValue?_eq_some_iff.2 h]
  rfl

private theorem leadsTo_of_mem_successors {rule other : Rule} (hrule : rule ∈ table.rules mode)
    (h : other ∈ Rule.successors (table.rules mode) rule) :
      table.LeadsTo mode rule.name other.name := by
  obtain ⟨hother, hhits⟩ := Rule.mem_successors.1 h
  obtain ⟨entry, hentry, rfl⟩ := List.mem_map.1 hrule
  obtain ⟨held, hheld, rfl⟩ := List.mem_map.1 hother
  exact ⟨entry.2, held.2, hentry, hheld, hhits⟩

private theorem LeadsTo.mem_successors (h : table.LeadsTo mode name next) :
    table.ruleOf mode next ∈ Rule.successors (table.rules mode) (table.ruleOf mode name) := by
  obtain ⟨value, other, hname, hnext, hhits⟩ := h
  rw [ruleOf_eq hname, ruleOf_eq hnext]
  exact Rule.mem_successors.2 ⟨List.mem_map_of_mem hnext, hhits⟩

private theorem mem_rules_of_mem_successors {rule other : Rule}
    (h : other ∈ Rule.successors (table.rules mode) rule) : other ∈ table.rules mode :=
  (Rule.mem_successors.1 h).1

private theorem leadsTo_of_way {rule last : Rule} (hmem : rule ∈ table.rules mode)
    (way : Relation.TransGen
      (fun rule other => other ∈ Rule.successors (table.rules mode) rule) rule last) :
    last ∈ table.rules mode ∧ Relation.TransGen (table.LeadsTo mode) rule.name last.name := by
  induction way with
  | single hedge =>
    exact ⟨mem_rules_of_mem_successors hedge, .single (leadsTo_of_mem_successors hmem hedge)⟩
  | tail _ hedge ih =>
    obtain ⟨hmem, hnames⟩ := ih
    exact ⟨mem_rules_of_mem_successors hedge, hnames.tail (leadsTo_of_mem_successors hmem hedge)⟩

private theorem exists_findCycle_iff_leadsTo :
    (∃ cycle, Rule.findCycle (table.rules mode) = some cycle) ↔
      ∃ name, Relation.TransGen (table.LeadsTo mode) name name := by
  have hsearch : (∃ cycle, Rule.findCycle (table.rules mode) = some cycle) ↔
      ∃ walk, Graph.findCycle (table.rules mode) (Rule.successors (table.rules mode))
        = some walk := by
    simp [Rule.findCycle, Option.map_eq_some_iff]
  rw [hsearch, Graph.exists_findCycle_iff fun _ _ => mem_rules_of_mem_successors]
  constructor
  · rintro ⟨rule, hround⟩
    refine ⟨rule.name, ?_⟩
    have hmem : rule ∈ table.rules mode := by
      obtain ⟨previous, -, hedge⟩ := Relation.TransGen.tail'_iff.1 hround
      exact mem_rules_of_mem_successors hedge
    exact (leadsTo_of_way hmem hround).2
  · rintro ⟨name, hround⟩
    exact ⟨table.ruleOf mode name, hround.lift (table.ruleOf mode) fun _ _ hedge =>
      hedge.mem_successors⟩

private theorem rule_eq_of_name_eq {rule other : Rule} (hrule : rule ∈ table.rules mode)
    (hother : other ∈ table.rules mode) (h : rule.name = other.name) : rule = other := by
  obtain ⟨entry, hentry, rfl⟩ := List.mem_map.1 hrule
  obtain ⟨held, hheld, rfl⟩ := List.mem_map.1 hother
  have hname : entry.1 = held.1 := h
  rw [← ruleOf_eq hentry, ← ruleOf_eq hheld, hname]

private theorem findCycle_spec (h : Rule.findCycle (table.rules mode) = some cycle) :
    2 ≤ cycle.length ∧ cycle.head? = cycle.getLast? ∧ cycle.dropLast.Nodup ∧
      cycle.IsChain (table.LeadsTo mode) := by
  obtain ⟨walk, hwalk, rfl⟩ := Option.map_eq_some_iff.1 h
  have hround := Graph.isCycle_of_findCycle hwalk
  have hmem : ∀ rule ∈ walk, rule ∈ table.rules mode := by
    intro rule hrule
    obtain ⟨previous, hedge⟩ := hround.exists_predecessor hrule
    exact mem_rules_of_mem_successors hedge
  obtain ⟨first, others, rfl, nodup, hedges⟩ := hround
  refine ⟨by simp, ?_, ?_, ?_⟩
  · rw [List.map_append, List.map_singleton, List.getLast?_concat]
    rfl
  · rw [← List.map_dropLast, List.dropLast_concat]
    refine nodup.map_on fun rule hrule other hother hname => ?_
    exact rule_eq_of_name_eq (hmem rule (List.mem_append_left _ hrule))
      (hmem other (List.mem_append_left _ hother)) hname
  · rw [List.isChain_map]
    refine List.IsChain.imp_of_mem_imp ?_ hedges
    intro rule other hrule _ hedge
    exact leadsTo_of_mem_successors (hmem rule hrule) hedge

end MacroTable

namespace Expander

open MacroTable

private theorem ofTable_of_named (extraIterations : Nat)
    (named : ∀ entry ∈ table.entries, entry.1 ≠ [])
    (compile : ∀ entry ∈ table.kept, ∃ rule, Rule.ofMacro mode entry.1 entry.2 = .ok rule) :
    (∃ cycle, Rule.findCycle (table.rules mode) = some cycle ∧
        ofTable mode extraIterations table = .error (.circularDefinition cycle)) ∨
      (Rule.findCycle (table.rules mode) = none ∧
        ofTable mode extraIterations table
          = .ok ⟨table.rules mode,
            ((table.rules mode).length + max extraIterations 1) % UInt64.size⟩) := by
  have hrules : Rule.ofEntries mode table.entries = .ok (table.rules mode) := by
    refine Rule.ofEntries_of_named named fun entry hentry hkept => compile entry ?_
    exact List.mem_filter.2 ⟨hentry, by simpa using hkept⟩
  unfold ofTable
  rw [hrules]
  cases hcycle : Rule.findCycle (table.rules mode) with
  | some cycle => exact Or.inl ⟨cycle, rfl, by simp only [hcycle]⟩
  | none => exact Or.inr ⟨rfl, by simp only [hcycle]⟩

/-- A table whose names are in order is refused for a cycle exactly if some macro reaches itself
through values, and what is reported is such a cycle, over different names. However much room there
is for all macros, colouring the graph comes to the same end and never looks up an active macro in
vain. -/
theorem ofTable_circular_iff (named : ∀ entry ∈ table.entries, entry.1 ≠ [])
    (compile : ∀ entry ∈ table.kept, ∃ rule, Rule.ofMacro mode entry.1 entry.2 = .ok rule) :
    ((∃ cycle, ofTable mode extraIterations table = .error (.circularDefinition cycle)) ↔
        ∃ name, Relation.TransGen (table.LeadsTo mode) name name) ∧
      (∀ cycle, ofTable mode extraIterations table = .error (.circularDefinition cycle) →
        2 ≤ cycle.length ∧ cycle.head? = cycle.getLast? ∧ cycle.dropLast.Nodup ∧
          cycle.IsChain (table.LeadsTo mode)) ∧
      ∀ room, table.kept.length ≤ room →
        (∃ walk, Graph.Colouring.exploreAll (Rule.successors (table.rules mode)) room
          (table.rules mode)
            = .error (.cycle walk) ∧
          ofTable mode extraIterations table = .error (.circularDefinition (walk.map Rule.name))) ∨
        (∃ colouring, Graph.Colouring.exploreAll (Rule.successors (table.rules mode)) room
            (table.rules mode) = .ok colouring ∧
          colouring.path = [] ∧ (∀ rule ∈ table.rules mode, colouring.marks rule = .done) ∧
          ∃ expander, ofTable mode extraIterations table = .ok expander) := by
  have hgives := ofTable_of_named extraIterations named compile
  have hreport : ∀ cycle, ofTable mode extraIterations table = .error (.circularDefinition cycle) ↔
      Rule.findCycle (table.rules mode) = some cycle := by
    intro cycle
    rcases hgives with ⟨found, hfound, htable⟩ | ⟨hnone, htable⟩
    · simp [hfound, htable]
    · simp [hnone, htable]
  refine ⟨?_, ?_, ?_⟩
  · simp only [hreport]
    exact exists_findCycle_iff_leadsTo
  · intro cycle hcycle
    exact findCycle_spec ((hreport cycle).1 hcycle)
  · intro room hroom
    have hlength : (table.rules mode).length ≤ room := by simpa [MacroTable.rules] using hroom
    have hclosed : ∀ rule ∈ table.rules mode, ∀ next ∈ Rule.successors (table.rules mode) rule,
        next ∈ table.rules mode := fun _ _ _ => mem_rules_of_mem_successors
    rcases Graph.Colouring.exploreAll_cases hclosed hlength with
      ⟨walk, hwalk, hexplore⟩ | ⟨hnone, colouring, hexplore, hpath, hdone⟩
    · refine Or.inl ⟨walk, hexplore, (hreport _).2 ?_⟩
      rw [Rule.findCycle, hwalk]
      rfl
    · refine Or.inr ⟨colouring, hexplore, hpath, hdone, ?_⟩
      rcases hgives with ⟨cycle, hcycle, -⟩ | ⟨-, htable⟩
      · simp [Rule.findCycle, hnone] at hcycle
      · exact ⟨_, htable⟩

/-- A cycle that is entered from outside, past a macro that is done. -/
theorem enteredCycle_circular :
    let table := MacroTable.ofList
      [(['A'], ['B', ' ', 'C']), (['B'], ['x']), (['C'], ['B', ' ', 'D']), (['D'], ['(', 'C', ')'])]
    (∀ entry ∈ table.entries, entry.1 ≠ []) ∧
      (∀ entry ∈ table.kept, ∃ rule, Rule.ofMacro .wordBoundary entry.1 entry.2 = .ok rule) ∧
      ofTable .wordBoundary 2 table = .error (.circularDefinition [['C'], ['D'], ['C']]) ∧
      ∃ name, Relation.TransGen (table.LeadsTo .wordBoundary) name name := by
  intro table
  have named : ∀ entry ∈ table.entries, entry.1 ≠ [] := by decide
  have sizes : ∀ entry ∈ table.kept,
      (Matcher.ofName .wordBoundary entry.1).normal.size ≤ Regex.sizeLimit := by decide +kernel
  have compile : ∀ entry ∈ table.kept,
      ∃ rule, Rule.ofMacro .wordBoundary entry.1 entry.2 = .ok rule :=
    fun entry hentry => Rule.exists_ofMacro_iff.2 (sizes entry hentry)
  have refused : ofTable .wordBoundary 2 table
      = .error (.circularDefinition [['C'], ['D'], ['C']]) := by
    decide +kernel
  exact ⟨named, compile, refused, (ofTable_circular_iff named compile).1.1 ⟨_, refused⟩⟩

end Expander

end GrammarBrew
