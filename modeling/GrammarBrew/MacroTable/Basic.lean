import GrammarBrew.Text.Basic

/-!
A macro table: names with their values, each name once, in the order of their scalar values. Setting
a name that is there replaces its value in place, so that the table depends on the last value of
each name and on nothing else.
-/

set_option autoImplicit false
set_option relaxedAutoImplicit false

namespace GrammarBrew

def InNameOrder (entries : List (Text × Text)) : Prop :=
  entries.Pairwise fun a b => a.1 < b.1

instance (entries : List (Text × Text)) : Decidable (InNameOrder entries) :=
  inferInstanceAs (Decidable (entries.Pairwise fun a b => a.1 < b.1))

/-- Macro names with their values, in name order. -/
structure MacroTable where
  entries : List (Text × Text)
  ordered : InNameOrder entries
  deriving DecidableEq

namespace MacroTable

/-- Put a value under a name in entries that are in name order. -/
def insertEntry (name value : Text) : List (Text × Text) → List (Text × Text)
  | [] => [(name, value)]
  | entry :: rest =>
    if name < entry.1 then (name, value) :: entry :: rest
    else if name = entry.1 then (name, value) :: rest
    else entry :: insertEntry name value rest

private theorem mem_insertEntry {name value : Text} {entry : Text × Text}
    {entries : List (Text × Text)}
    (h : entry ∈ insertEntry name value entries) : entry = (name, value) ∨ entry ∈ entries := by
  induction entries with
  | nil => simpa [insertEntry] using h
  | cons first rest ih =>
    simp only [insertEntry] at h
    split at h
    · simpa using h
    · split at h
      · rcases List.mem_cons.1 h with h | h
        · exact Or.inl h
        · exact Or.inr (List.mem_cons_of_mem _ h)
      · rcases List.mem_cons.1 h with h | h
        · exact Or.inr (h ▸ List.mem_cons_self)
        · exact (ih h).imp id (List.mem_cons_of_mem _)

private theorem lt_of_not_lt_of_ne {a b : Text} (h : ¬ a < b) (hne : a ≠ b) : b < a := by
  apply Decidable.byContradiction
  intro hba
  exact hne (List.le_antisymm (List.not_lt.1 hba) (List.not_lt.1 h))

private theorem inNameOrder_insertEntry (name value : Text) {entries : List (Text × Text)}
    (h : InNameOrder entries) : InNameOrder (insertEntry name value entries) := by
  induction entries with
  | nil => exact List.pairwise_singleton _ _
  | cons first rest ih =>
    have hfirst := (List.pairwise_cons.1 h).1
    have hrest := (List.pairwise_cons.1 h).2
    simp only [insertEntry]
    split
    next hlt =>
      refine List.pairwise_cons.2 ⟨fun entry hmem => ?_, h⟩
      rcases List.mem_cons.1 hmem with rfl | hmem
      · exact hlt
      · exact List.lt_trans hlt (hfirst _ hmem)
    next hlt =>
      split
      next heq =>
        exact List.pairwise_cons.2 ⟨fun entry hmem => heq ▸ hfirst _ hmem, hrest⟩
      next hne =>
        refine List.pairwise_cons.2 ⟨fun entry hmem => ?_, ih hrest⟩
        rcases mem_insertEntry hmem with rfl | hmem
        · exact lt_of_not_lt_of_ne hlt hne
        · exact hfirst _ hmem

def empty : MacroTable := ⟨[], List.Pairwise.nil⟩

instance : Inhabited MacroTable := ⟨empty⟩

/-- Put a value under a name, in the place of the value it had. -/
def insert (table : MacroTable) (name value : Text) : MacroTable :=
  ⟨insertEntry name value table.entries, inNameOrder_insertEntry name value table.ordered⟩

def get? (table : MacroTable) (name : Text) : Option Text := table.entries.lookup name

/-- Put a value under a name, and give the value that it replaces. -/
def exchange (table : MacroTable) (name value : Text) : Option Text × MacroTable :=
  (table.get? name, table.insert name value)

def size (table : MacroTable) : Nat := table.entries.length

def isEmpty (table : MacroTable) : Bool := table.entries.isEmpty

/-- The table that the entries make when they are inserted one after the other. -/
def ofList (entries : List (Text × Text)) : MacroTable :=
  entries.foldl (fun table entry => table.insert entry.1 entry.2) empty

example : (ofList [(['b'], ['1']), (['a'], ['2']), (['b'], ['3'])]).entries
    = [(['a'], ['2']), (['b'], ['3'])] := by decide

end MacroTable

end GrammarBrew
