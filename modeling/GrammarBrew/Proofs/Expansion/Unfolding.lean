import GrammarBrew.Proofs.Expansion.Rules
import GrammarBrew.Proofs.Lookup
import GrammarBrew.Proofs.Text.Words

/-!
What macros mean when no order among them is fixed: every word of a text that is the name of a macro
stands for the unfolding of its value. Chains of names, each a word of the value before it, measure
how deep a text unfolds; where they are bounded there is one unfolding, and it is computed by that
many levels.
-/

set_option autoImplicit false
set_option relaxedAutoImplicit false

namespace GrammarBrew.MacroTable

open Text

variable {table : MacroTable} {name value run text : Text} {names : List Text} {depth : Nat}

def keptValue? (table : MacroTable) (name : Text) : Option Text := table.kept.lookup name

private theorem kept_nodup (table : MacroTable) : (table.kept.map Prod.fst).Nodup :=
  table.names_nodup.sublist (List.filter_sublist.map Prod.fst)

theorem keptValue?_eq_some_iff : table.keptValue? name = some value ↔ (name, value) ∈ table.kept :=
  lookup_eq_some_iff_mem table.kept_nodup

/-! ### Chains of names -/

/-- Names of macros of which the first is a word of the text and each next one a word of the value
before. -/
inductive Chain (table : MacroTable) : Text → List Text → Prop
  | nil (text : Text) : Chain table text []
  | cons {text name value : Text} {names : List Text} (mem : name ∈ runs text)
      (kept : table.keptValue? name = some value) (rest : Chain table value names) :
      Chain table text (name :: names)

def Within (table : MacroTable) (depth : Nat) (text : Text) : Prop :=
  ∀ names, table.Chain text names → names.length ≤ depth

theorem within_zero : table.Within 0 text ↔ ∀ run ∈ runs text, table.keptValue? run = none := by
  constructor
  · intro h run hrun
    by_contra hkept
    obtain ⟨value, hvalue⟩ := Option.ne_none_iff_exists'.1 hkept
    simpa using h [run] (.cons hrun hvalue (.nil value))
  · intro h names hchain
    cases hchain with
    | nil => exact Nat.le_refl 0
    | cons hmem hkept _ => simp [h _ hmem] at hkept

theorem within_succ :
    table.Within (depth + 1) text ↔
      ∀ run ∈ runs text, ∀ value, table.keptValue? run = some value → table.Within depth value := by
  constructor
  · intro h run hrun value hvalue names hchain
    have := h (run :: names) (.cons hrun hvalue hchain)
    simpa using this
  · intro h names hchain
    cases hchain with
    | nil => exact Nat.zero_le _
    | cons hmem hkept hrest => simpa using h _ hmem _ hkept _ hrest

theorem Within.mono {more : Nat} (h : table.Within depth text) (hle : depth ≤ more) :
    table.Within more text :=
  fun names hchain => (h names hchain).trans hle

theorem within_iff_runs : table.Within depth text ↔ ∀ run ∈ runs text, table.Within depth run := by
  constructor
  · intro h run hrun names hchain
    cases hchain with
    | nil => exact Nat.zero_le _
    | cons hmem hkept hrest =>
      rw [runs_of_mem_runs hrun, List.mem_singleton] at hmem
      subst hmem
      exact h _ (.cons hrun hkept hrest)
  · intro h names hchain
    cases hchain with
    | nil => exact Nat.zero_le _
    | cons hmem hkept hrest =>
      refine h _ hmem _ (.cons ?_ hkept hrest)
      rw [runs_of_mem_runs hmem]
      exact List.mem_singleton_self _

theorem within_zero_of_not_mem (hrun : run ∈ runs text) (h : run ∉ table.kept.map Prod.fst) :
    table.Within 0 run := by
  refine within_zero.2 fun other hother => ?_
  rw [runs_of_mem_runs hrun, List.mem_singleton] at hother
  subst hother
  by_contra hkept
  obtain ⟨value, hvalue⟩ := Option.ne_none_iff_exists'.1 hkept
  exact h (List.mem_map.2 ⟨_, keptValue?_eq_some_iff.1 hvalue, rfl⟩)

/-! ### The unfolding -/

/-- A function that replaces each word that is the name of a macro by what it makes of the value,
and leaves everything else as it is. -/
def IsUnfolding (table : MacroTable) (unfold : Text → Text) : Prop :=
  ∀ text, unfold text = mapRuns (fun run =>
    match table.keptValue? run with
    | some value => unfold value
    | none => run) text

/-- The unfolding down to a depth, below which the names stay. -/
def unfoldWithin (table : MacroTable) : Nat → Text → Text
  | 0, text => text
  | depth + 1, text => mapRuns (fun run =>
      match table.keptValue? run with
      | some value => table.unfoldWithin depth value
      | none => run) text

/-- The unfolding down to as many levels as there are macros. -/
def unfold (table : MacroTable) (text : Text) : Text := table.unfoldWithin table.kept.length text

theorem IsUnfolding.eq_unfoldWithin {unfold : Text → Text} (h : table.IsUnfolding unfold)
    (hdepth : table.Within depth text) : unfold text = table.unfoldWithin depth text := by
  induction depth generalizing text with
  | zero =>
    rw [h text]
    refine mapRuns_eq_self fun run hrun => ?_
    rw [within_zero.1 hdepth run hrun]
  | succ depth ih =>
    rw [h text, unfoldWithin]
    refine mapRuns_congr fun run hrun => ?_
    split
    next value hvalue => exact ih (within_succ.1 hdepth run hrun value hvalue)
    · rfl

private theorem unfoldWithin_succ (hdepth : table.Within depth text) :
    table.unfoldWithin (depth + 1) text = table.unfoldWithin depth text := by
  induction depth generalizing text with
  | zero =>
    refine mapRuns_eq_self fun run hrun => ?_
    rw [within_zero.1 hdepth run hrun]
  | succ depth ih =>
    rw [unfoldWithin, unfoldWithin]
    refine mapRuns_congr fun run hrun => ?_
    split
    next value hvalue => exact ih (within_succ.1 hdepth run hrun value hvalue)
    · rfl

theorem isUnfolding_unfold (h : ∀ text, table.Within table.kept.length text) :
    table.IsUnfolding table.unfold := fun text => (unfoldWithin_succ (h text)).symm

end GrammarBrew.MacroTable
