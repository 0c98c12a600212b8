import GrammarBrew.Proofs.Expansion.FixedPoint
import GrammarBrew.Proofs.Expansion.Unfolding
import GrammarBrew.Proofs.Graph.Search
import GrammarBrew.Proofs.Matcher.WholeWord
import Mathlib.Order.ConditionallyCompleteLattice.Basic
import Mathlib.Order.Lattice.Nat

/-!
Macros named by identifiers are told apart word by word, so a pass takes at least one level off
every chain and leaves the unfolding of the text as it was. An accepted table has no cycle, no name
comes twice in a chain, and the allowed passes are enough to reach the unfolding.
-/

set_option autoImplicit false
set_option relaxedAutoImplicit false

namespace GrammarBrew

open Text

namespace MacroTable

variable {table : MacroTable} {entries : List (Text × Text)} {name value run text : Text}
  {names : List Text} {depth : Nat} {unfold : Text → Text}

def Identified (entries : List (Text × Text)) : Prop :=
  ∀ entry ∈ entries, entry.1 ≠ [] ∧ IsIdentifier entry.1

def putFor (name value text : Text) : Text :=
  mapRuns (fun run => if run = name then value else run) text

theorem rewrite_ofEntry_cons {entry : Text × Text} (hentry : entry.1 ≠ [] ∧ IsIdentifier entry.1) :
    Pass.rewrite ((entry :: entries).map (Rule.ofEntry .wordBoundary)) text
      = Pass.rewrite (entries.map (Rule.ofEntry .wordBoundary)) (putFor entry.1 entry.2 text) := by
  rw [List.map_cons, Pass.rewrite_cons, putFor, ← Matcher.replace_identifier hentry.1 hentry.2]
  rfl

theorem runs_putFor (hname : IsWholeWord name) :
    runs (putFor name value text)
      = (runs text).flatMap fun run => runs (if run = name then value else run) := by
  refine runs_mapRuns fun run hrun => if_neg ?_
  rintro rfl
  exact hrun hname

private theorem mem_runs_putFor (hname : IsWholeWord name)
    (h : run ∈ runs (putFor name value text)) :
    (run ∈ runs text ∧ run ≠ name) ∨ (name ∈ runs text ∧ run ∈ runs value) := by
  rw [runs_putFor hname, List.mem_flatMap] at h
  obtain ⟨old, hold, hrun⟩ := h
  split at hrun
  next heq => exact Or.inr ⟨heq ▸ hold, hrun⟩
  next hne =>
    rw [runs_of_mem_runs hold, List.mem_singleton] at hrun
    subst hrun
    exact Or.inl ⟨hold, hne⟩

private theorem within_rewrite (hkept : ∀ entry ∈ entries, table.keptValue? entry.1 = some entry.2)
    (hnames : Identified entries)
    (h : ∀ run ∈ runs text, table.Within (depth + 1) run ∧
      (run ∈ entries.map Prod.fst ∨ table.Within depth run)) :
    table.Within depth (Pass.rewrite (entries.map (Rule.ofEntry .wordBoundary)) text) := by
  -- By the rules in their order: a word that has the full depth still is the name of a rule to
  -- come.
  induction entries generalizing text with
  | nil =>
    refine within_iff_runs.2 fun run hrun => ?_
    exact (h run hrun).2.resolve_left (by simp)
  | cons entry entries ih =>
    obtain ⟨name, value⟩ := entry
    obtain ⟨hvalue, hothers⟩ := List.forall_mem_cons.1 hkept
    obtain ⟨hname, hidentified⟩ := List.forall_mem_cons.1 hnames
    have hword := Matcher.isWholeWord_of_identifier hname.1 hname.2
    rw [rewrite_ofEntry_cons hname]
    refine ih hothers hidentified fun run hrun => ?_
    rcases mem_runs_putFor hword hrun with ⟨hold, hne⟩ | ⟨hmem, hnew⟩
    · obtain ⟨hdepth, hturn⟩ := h run hold
      refine ⟨hdepth, hturn.imp_left fun hin => ?_⟩
      exact (List.mem_cons.1 hin).resolve_left hne
    · have hdepth : table.Within depth value := by
        refine within_succ.1 (h name hmem).1 name ?_ value hvalue
        rw [runs_of_mem_runs hmem]
        exact List.mem_singleton_self name
      have hrun := within_iff_runs.1 hdepth run hnew
      exact ⟨hrun.mono (Nat.le_succ depth), Or.inr hrun⟩

private theorem IsUnfolding.putFor (h : table.IsUnfolding unfold) (hname : IsWholeWord name)
    (hvalue : table.keptValue? name = some value) :
      unfold (putFor name value text) = unfold text := by
  have hrun : ∀ run ∈ runs text, unfold (if run = name then value else run) = unfold run := by
    intro run hrun
    split
    next heq =>
      rw [h run, mapRuns, runs_of_mem_runs hrun, List.flatMap_singleton, heq]
      simp only [hvalue]
    · rfl
  have hsplit : ∀ other, unfold other = (runs other).flatMap unfold := by
    intro other
    rw [h other, mapRuns, List.flatMap_def, List.flatMap_def]
    congr 1
    refine List.map_congr_left fun run hrun => ?_
    rw [h run, mapRuns, runs_of_mem_runs hrun, List.flatMap_singleton]
  rw [hsplit, runs_putFor hname, List.flatMap_assoc, hsplit text, List.flatMap_def,
    List.flatMap_def]
  congr 1
  refine List.map_congr_left fun run hmem => ?_
  rw [← hsplit, hrun run hmem]

private theorem IsUnfolding.rewrite (h : table.IsUnfolding unfold)
    (hkept : ∀ entry ∈ entries, table.keptValue? entry.1 = some entry.2)
    (hnames : Identified entries) :
    unfold (Pass.rewrite (entries.map (Rule.ofEntry .wordBoundary)) text) = unfold text := by
  induction entries generalizing text with
  | nil => rfl
  | cons entry entries ih =>
    obtain ⟨hvalue, hothers⟩ := List.forall_mem_cons.1 hkept
    obtain ⟨hname, hidentified⟩ := List.forall_mem_cons.1 hnames
    rw [rewrite_ofEntry_cons hname, ih hothers hidentified,
      h.putFor (Matcher.isWholeWord_of_identifier hname.1 hname.2) hvalue]

private theorem IsUnfolding.eq_self (h : table.IsUnfolding unfold) (hdepth : table.Within 0 text) :
    unfold text = text := h.eq_unfoldWithin hdepth

/-! ### Chains of an accepted table -/

variable {extraIterations : Nat} {expander : Expander}

private theorem identified_kept
    (made : Expander.ofTable .wordBoundary extraIterations table = .ok expander)
    (identifiers : ∀ entry ∈ table.kept, IsIdentifier entry.1) : Identified table.kept := by
  intro entry hentry
  obtain ⟨hnamed, -, -, -⟩ := Expander.ofTable_eq_ok made
  exact ⟨hnamed entry (List.mem_filter.1 hentry).1, identifiers entry hentry⟩

private theorem exists_rank_of_ofTable
    (made : Expander.ofTable .wordBoundary extraIterations table = .ok expander)
    (hnames : Identified table.kept) :
    ∃ rank : Text → Nat, ∀ name value, table.keptValue? name = some value →
      ∀ next ∈ runs value, ∀ held, table.keptValue? next = some held → rank next < rank name := by
  obtain ⟨-, hrules, hcycle, -⟩ := Expander.ofTable_eq_ok made
  have hnone : Graph.findCycle expander.rules (Rule.successors expander.rules) = none := by
    simpa [Rule.findCycle] using hcycle
  obtain ⟨rank, hrank⟩ := Graph.exists_rank_of_findCycle_eq_none
    (fun rule _ next hnext => (Rule.mem_successors.1 hnext).1) hnone
  have hmem : ∀ name value, table.keptValue? name = some value →
      Rule.ofEntry .wordBoundary (name, value) ∈ expander.rules := by
    intro name value hvalue
    rw [hrules]
    exact List.mem_map_of_mem (keptValue?_eq_some_iff.1 hvalue)
  refine ⟨fun name => rank (Rule.ofEntry .wordBoundary (name, (table.keptValue? name).getD [])), ?_⟩
  intro name value hvalue next hnext held hheld
  simp only [hvalue, hheld, Option.getD_some]
  refine hrank _ (hmem name value hvalue) _ (Rule.mem_successors.2 ⟨hmem next held hheld, ?_⟩)
  obtain ⟨hne, hid⟩ := hnames _ (keptValue?_eq_some_iff.1 hheld)
  exact (Matcher.hits_iff (by simpa [Rule.ofEntry] using hne)).2
    ((Matcher.occurs_identifier_iff hne hid).2 hnext)

private theorem Chain.ranks_fall {rank : Text → Nat} (hchain : table.Chain text names)
    (hrank : ∀ name value, table.keptValue? name = some value →
      ∀ next ∈ runs value, ∀ held, table.keptValue? next = some held → rank next < rank name) :
    (∀ name ∈ names, name ∈ table.kept.map Prod.fst ∧
        ∃ first ∈ runs text, (table.keptValue? first).isSome ∧ rank name ≤ rank first) ∧
      names.Pairwise fun earlier later => rank later < rank earlier := by
  induction hchain with
  | nil => simp
  | @cons text name value names mem kept rest ih =>
    obtain ⟨hbelow, hfall⟩ := ih
    have hlater : ∀ later ∈ names, rank later < rank name := by
      intro later hlater
      obtain ⟨-, first, hfirst, hheld, hle⟩ := hbelow later hlater
      obtain ⟨held, hheld⟩ := Option.isSome_iff_exists.1 hheld
      exact hle.trans_lt (hrank name value kept first hfirst held hheld)
    have hsome := Option.isSome_of_eq_some kept
    have hin := List.mem_map_of_mem (f := Prod.fst) (keptValue?_eq_some_iff.1 kept)
    refine ⟨List.forall_mem_cons.2 ⟨⟨hin, name, mem, hsome, le_rfl⟩, ?_⟩, ?_⟩
    · intro later hmem
      exact ⟨(hbelow later hmem).1, name, mem, hsome, (hlater later hmem).le⟩
    · exact List.pairwise_cons.2 ⟨hlater, hfall⟩

private theorem within_of_ofTable
    (made : Expander.ofTable .wordBoundary extraIterations table = .ok expander)
    (hnames : Identified table.kept) (text : Text) : table.Within table.kept.length text := by
  intro names hchain
  obtain ⟨rank, hrank⟩ := exists_rank_of_ofTable made hnames
  obtain ⟨hbelow, hfall⟩ := hchain.ranks_fall hrank
  have hnodup : names.Nodup := by
    refine List.Pairwise.imp ?_ hfall
    rintro name _ hlt rfl
    exact Nat.lt_irrefl _ hlt
  have hsub := List.subperm_of_subset hnodup fun name hname => (hbelow name hname).1
  simpa using hsub.length_le

/-- The lengths of the chains of names that begin in a text. -/
def chainLengths (table : MacroTable) (text : Text) : Set Nat :=
  { n | ∃ names, table.Chain text names ∧ names.length = n }

private theorem Within.exists_isGreatest (h : table.Within depth text) :
    ∃ longest ≤ depth, IsGreatest (table.chainLengths text) longest := by
  have hbound : depth ∈ upperBounds (table.chainLengths text) := by
    rintro _ ⟨names, hchain, rfl⟩
    exact h names hchain
  have hne : (table.chainLengths text).Nonempty := ⟨0, [], .nil text, rfl⟩
  have hgreatest := Nat.sSup_mem hne ⟨depth, hbound⟩
  exact ⟨_, hbound hgreatest, hgreatest, fun n hn => le_csSup ⟨depth, hbound⟩ hn⟩

private theorem within_of_isGreatest {longest : Nat}
    (h : IsGreatest (table.chainLengths text) longest) :
    table.Within longest text := fun names hchain => h.2 ⟨names, hchain, rfl⟩

end MacroTable

namespace Expander

open MacroTable

variable {extraIterations : Nat} {table : MacroTable} {expander : Expander}

private theorem quiet_iff_within_zero
    (made : ofTable .wordBoundary extraIterations table = .ok expander)
    (hnames : Identified table.kept) {text : Text} :
    Pass.Quiet expander.rules text ↔ table.Within 0 text := by
  obtain ⟨-, hrules, -, -⟩ := ofTable_eq_ok made
  have hoccurs : ∀ entry ∈ table.kept,
      (Rule.ofEntry .wordBoundary entry).matcher.Occurs text ↔ entry.1 ∈ runs text :=
    fun entry hentry =>
      Matcher.occurs_identifier_iff (hnames entry hentry).1 (hnames entry hentry).2
  rw [within_zero, hrules]
  constructor
  · intro hquiet run hrun
    by_contra hkept
    obtain ⟨value, hvalue⟩ := Option.ne_none_iff_exists'.1 hkept
    have hentry := keptValue?_eq_some_iff.1 hvalue
    exact hquiet _ (List.mem_map_of_mem hentry) ((hoccurs _ hentry).2 hrun)
  · intro hnone rule hrule hhit
    obtain ⟨entry, hentry, rfl⟩ := List.mem_map.1 hrule
    have hvalue : table.keptValue? entry.1 = some entry.2 := keptValue?_eq_some_iff.2 hentry
    simp [hnone _ ((hoccurs entry hentry).1 hhit)] at hvalue

private theorem iterate_rewrite (made : ofTable .wordBoundary extraIterations table = .ok expander)
    (hnames : Identified table.kept) (k : Nat) {depth : Nat} {body : Text}
    (hdepth : table.Within (depth + k) body) :
    table.Within depth ((Pass.rewrite expander.rules)^[k] body) ∧
      table.unfold ((Pass.rewrite expander.rules)^[k] body) = table.unfold body := by
  obtain ⟨-, hrules, -, -⟩ := ofTable_eq_ok made
  have hkept : ∀ entry ∈ table.kept, table.keptValue? entry.1 = some entry.2 :=
    fun entry hentry => keptValue?_eq_some_iff.2 hentry
  have hunfold := isUnfolding_unfold (within_of_ofTable made hnames)
  induction k generalizing body with
  | zero => exact ⟨hdepth, rfl⟩
  | succ k ih =>
    have hpass : table.Within (depth + k) (Pass.rewrite expander.rules body) := by
      rw [hrules]
      refine within_rewrite hkept hnames fun run hrun => ?_
      refine ⟨within_iff_runs.1 hdepth run hrun, or_iff_not_imp_left.2 fun hnot => ?_⟩
      exact (within_zero_of_not_mem hrun hnot).mono (Nat.zero_le _)
    obtain ⟨hend, htext⟩ := ih hpass
    rw [Function.iterate_succ_apply]
    refine ⟨hend, htext.trans ?_⟩
    rw [hrules]
    exact hunfold.rewrite hkept hnames

def nested : Expander where
  rules := [Rule.ofEntry .wordBoundary (['A'], ['y']),
    Rule.ofEntry .wordBoundary (['B'], ['A', ' ', 'A'])]
  maxPasses := 3

end Expander

end GrammarBrew
