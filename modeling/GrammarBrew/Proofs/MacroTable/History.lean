import GrammarBrew.Expander
import GrammarBrew.Proofs.MacroTable.Composition
import Mathlib.Data.List.Perm.Basic

/-!
A macro table through a history of edits. Whatever was put in, replaced or read from sections, the
table is the last value of each name: it lists the names in order, and histories that leave each
name with the same value leave the same table, with which every text expands alike.
-/

set_option autoImplicit false
set_option relaxedAutoImplicit false

namespace GrammarBrew.MacroTable

inductive Edit where
  | insert (name value : Text)
  | load (text : Text)
  deriving DecidableEq, Repr

def Edit.apply (table : MacroTable) : Edit → MacroTable
  | insert name value => (table.exchange name value).2
  | load text => (parse text).toOption.getD table

/-- The table after some edits, from an empty one on. -/
def replay (history : List Edit) : MacroTable := history.foldl Edit.apply empty

/-- The last value of a name in a history, given latest first: the one that it was put in with since
a section was read, or else the one in that section. -/
def lastValue? (name : Text) : List Edit → Option Text
  | [] => none
  | .insert named value :: earlier => if name = named then some value else lastValue? name earlier
  | .load text :: earlier =>
    match parse text with
    | .ok table => table.get? name
    | .error _ => lastValue? name earlier

variable {entries others : List (Text × Text)} {text : Text} {table : MacroTable}

/-! ### The table of a history -/

private theorem replay_concat (history : List Edit) (edit : Edit) :
    replay (history ++ [edit]) = edit.apply (replay history) :=
  List.foldl_concat ..

private theorem get?_replay (history : List Edit) (name : Text) :
    (replay history).get? name = lastValue? name history.reverse := by
  induction history using List.reverseRecOn with
  | nil => rfl
  | append_singleton history edit ih =>
    rw [replay_concat, List.reverse_concat]
    cases edit with
    | insert named value => exact get?_insert.trans (by rw [ih, lastValue?])
    | load text =>
      rw [Edit.apply, lastValue?]
      cases parse text with
      | ok table => rfl
      | error e => exact ih

private theorem size_eq_length {names : List Text} (distinct : names.Nodup)
    (h : ∀ name, name ∈ names ↔ table.get? name ≠ none) : table.size = names.length := by
  have hperm : (table.entries.map Prod.fst).Perm names := by
    refine (List.perm_ext_iff_of_nodup table.names_nodup distinct).2 fun name => ?_
    rw [h, ne_eq, get?_eq_none_iff, not_not]
  rw [← hperm.length_eq, List.length_map, size]

/-! ### Entries in another order -/

private theorem lookup_reverse_of_perm (h : entries.Perm others)
    (distinct : (entries.map Prod.fst).Nodup) (name : Text) :
    entries.reverse.lookup name = others.reverse.lookup name := by
  have hreverse : entries.reverse.Perm others.reverse :=
    (List.reverse_perm entries).trans (h.trans (List.reverse_perm others).symm)
  have hdistinct : (entries.reverse.map Prod.fst).Nodup := by
    rw [List.map_reverse]
    exact List.nodup_reverse.2 distinct
  refine Option.ext fun value => ?_
  rw [lookup_eq_some_iff_mem hdistinct,
    lookup_eq_some_iff_mem ((hreverse.map Prod.fst).nodup_iff.1 hdistinct), hreverse.mem_iff]

private theorem replay_of_perm (before after : List Edit) (h : entries.Perm others)
    (distinct : (entries.map Prod.fst).Nodup) :
    replay (before ++ (entries.map fun entry => .insert entry.1 entry.2) ++ after)
      = replay (before ++ (others.map fun entry => .insert entry.1 entry.2) ++ after) := by
  have hinserted : ∀ (entries : List (Text × Text)) (table : MacroTable) name,
      ((entries.map fun entry => .insert entry.1 entry.2).foldl Edit.apply table).get? name
        = (entries.reverse.lookup name).or (table.get? name) := by
    intro entries table name
    rw [List.foldl_map]
    exact get?_foldl_insert
  unfold replay
  rw [List.foldl_append, List.foldl_append, List.foldl_append, List.foldl_append]
  congr 1
  refine eq_of_get?_eq fun name => ?_
  rw [hinserted, hinserted, lookup_reverse_of_perm h distinct]

private theorem parse_of_perm {other : Text} (h : (statements other).Perm (statements text))
    (declare : List.Forall₂ (fun statement entry => Declaration.parse statement = .ok entry)
    (statements text) entries)
    (distinct : (entries.map Prod.fst).Nodup) : ∃ table, parse text = .ok table ∧
      parse other = .ok table := by
  have hread : parse text = .ok (ofList entries) :=
    parse_eq_ok_iff_get?.2 ⟨entries, declare, fun name => get?_ofList⟩
  obtain ⟨others, hothers, hperm⟩ := List.perm_comp_forall₂ h declare
  refine ⟨ofList entries, hread, parse_eq_ok_iff_get?.2 ⟨others, hothers, fun name => ?_⟩⟩
  rw [get?_ofList, lookup_reverse_of_perm hperm.symm distinct]

/-! ### Histories -/

/-- A table is the last value of each name of its history. It lists the names that have one in
ascending order, an edit gives back the value that it replaces, and histories with the same last
values leave the same table, with which every text expands alike. So the order does not matter in
which distinct names are put in or declared. -/
theorem replay_last_write (history : List Edit) :
    ((replay history).entries.map Prod.fst).Pairwise (· < ·) ∧
      (∀ name, (replay history).get? name = lastValue? name history.reverse) ∧
      (∀ name value, (replay history).exchange name value
        = (lastValue? name history.reverse, replay (history ++ [.insert name value]))) ∧
      (∀ names : List Text, names.Nodup →
        (∀ name, name ∈ names ↔ lastValue? name history.reverse ≠ none) →
        (replay history).size = names.length) ∧
      (∀ other : List Edit,
        (∀ name, lastValue? name history.reverse = lastValue? name other.reverse) →
        replay history = replay other ∧ ∀ mode extraIterations body,
          (Expander.ofTable mode extraIterations (replay history)).bind (·.expand body)
            = (Expander.ofTable mode extraIterations (replay other)).bind (·.expand body)) ∧
      (∀ (after : List Edit) (entries others : List (Text × Text)),
        entries.Perm others → (entries.map Prod.fst).Nodup →
          replay (history ++ (entries.map fun entry => .insert entry.1 entry.2) ++ after)
            = replay (history ++ (others.map fun entry => .insert entry.1 entry.2) ++ after)) ∧
      ∀ text other entries, (statements other).Perm (statements text) →
        List.Forall₂ (fun statement entry => Declaration.parse statement = .ok entry)
          (statements text) entries →
          (entries.map Prod.fst).Nodup →
            replay (history ++ [.load text]) = replay (history ++ [.load other]) := by
  refine ⟨List.pairwise_map.2 (replay history).ordered, get?_replay history, fun name value => ?_,
    fun names distinct h => ?_, fun other h => ?_, fun after entries others =>
      replay_of_perm history after,
    fun text other entries h declare distinct => ?_⟩
  · rw [exchange, get?_replay, replay_concat]
    rfl
  · exact size_eq_length distinct fun name => by rw [h, get?_replay]
  · have hsame : replay history = replay other := eq_of_get?_eq fun name => by
      rw [get?_replay, get?_replay, h]
    exact ⟨hsame, fun mode extraIterations body => by rw [hsame]⟩
  · obtain ⟨table, htext, hother⟩ := parse_of_perm h declare distinct
    rw [replay_concat, replay_concat, Edit.apply, Edit.apply, htext, hother]

/-- A table read over another one, a value put in, and a section that is malformed; and the same
table read at once. -/
theorem malformed_last_write :
    let history := [.insert ['B'] ['1'], .load ['A', ':', '1', ';', '\n', 'C', ':', '2', ';'],
      .insert ['A'] ['3'], .load ['D', ':', '4', ';', '\n', ':']]
    let other := [.load ['C', ':', '2', ';', '\r', '\n', 'A', ':', '3']]
    (∀ name, lastValue? name history.reverse = lastValue? name other.reverse) ∧
      replay history = replay other ∧
      (replay history).exchange ['A'] ['5']
        = (some ['3'], replay (history ++ [.insert ['A'] ['5']])) ∧
      (replay history).size = 2 := by
  intro history other
  have hfirst : parse ['A', ':', '1', ';', '\n', 'C', ':', '2', ';']
      = .ok (ofList [(['A'], ['1']), (['C'], ['2'])]) := by
    decide +kernel
  have hlast : parse ['D', ':', '4', ';', '\n', ':'] = .error (.malformedDeclaration [':']) := by
    decide +kernel
  have hother : parse ['C', ':', '2', ';', '\r', '\n', 'A', ':', '3']
      = .ok (ofList [(['A'], ['3']), (['C'], ['2'])]) := by
    decide +kernel
  have hvalues : ∀ name, lastValue? name history.reverse
      = if name = ['A'] then some ['3'] else if name = ['C'] then some ['2'] else none := by
    intro name
    simp only [history, List.reverse_cons, List.reverse_nil, List.nil_append, List.cons_append,
      lastValue?, hlast, hfirst, get?_ofList, lookup_cons_eq_ite, List.lookup_nil]
    split
    · rfl
    · rfl
  have hsame : ∀ name, lastValue? name history.reverse = lastValue? name other.reverse := by
    intro name
    rw [hvalues]
    simp only [other, List.reverse_cons, List.reverse_nil, List.nil_append, lastValue?,
      hother, get?_ofList, List.cons_append, lookup_cons_eq_ite, List.lookup_nil]
    by_cases hname : name = ['A']
    · subst hname
      rfl
    · simp only [hname, if_false]
  obtain ⟨-, -, hexchange, hsize, hequal, -⟩ := replay_last_write history
  refine ⟨hsame, (hequal other hsame).1, ?_, hsize [['A'], ['C']] (by decide) fun name => ?_⟩
  · rw [hexchange, hvalues]
    rfl
  · rw [hvalues, List.mem_cons, List.mem_singleton]
    by_cases hfirst : name = ['A']
    · simp [hfirst]
    · by_cases hsecond : name = ['C'] <;> simp [hfirst, hsecond]

end GrammarBrew.MacroTable
