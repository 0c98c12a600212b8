import GrammarBrew.Proofs.Matcher.Leftmost
import GrammarBrew.Proofs.Regex.Complete

/-!
The matches of an expression in a text. What the states of an expression without groups lead to is
told by a relation between places; the first match begins at the first place that the relation leads
on from, and the matches one after the other are the leftmost ones that do not overlap.
-/

set_option autoImplicit false
set_option relaxedAutoImplicit false

namespace GrammarBrew

/-! ### Where an expression leads -/

namespace Normal

open Machine

variable {text : Array Char} {goes more : Nat → Nat → Prop}

/-- An expression without groups leads from a place to some others, wherever its states stand and
whatever comes next. -/
def Advances (text : Array Char) (normal : Normal) (goes : Nat → Nat → Prop) : Prop :=
  ∀ (next : Nat) (states after : States),
    (∀ k < (States.add normal next states).2.size,
      after[k]? = (States.add normal next states).2[k]?) →
    ∀ place slots found,
      Accepts after text ((States.add normal next states).1, place, slots) found ↔
      ∃ last, goes place last ∧ Accepts after text (next, last, slots) found

theorem Advances.congr {normal : Normal} (h : Advances text normal goes)
    (same : ∀ place last, goes place last ↔ more place last) : Advances text normal more := by
  obtain rfl : goes = more := funext fun place => funext fun last => propext (same place last)
  exact h

theorem advances_look (condition : Look) : Advances text (.look condition) fun place last =>
    condition.holds (if place = 0 then none else text[place - 1]?) text[place]? = true ∧
      last = place := by
  intro next states after same place slots found
  have hstate : after.getD states.size .accept = .look condition next := by
    rw [Array.getD_eq_getD_getElem?, same _ (by simp [States.add, States.push])]
    simp [States.add, States.push]
  rw [accepts_iff]
  simp [States.add, States.push, nexts, hstate, and_assoc]

theorem Advances.seq {first second : Normal} (hfirst : Advances text first goes)
    (hsecond : Advances text second more) :
    Advances text (.seq first second) fun place last => ∃ middle, goes place middle ∧
      more middle last := by
  intro next states after same place slots found
  have hadded : States.Added _ (States.add second next states).1 (States.add second next states).2
      (States.add (.seq first second) next states) := States.added_any first _ _
  have hlater : ∀ k < (States.add second next states).2.size,
      after[k]? = (States.add second next states).2[k]? :=
    fun k hk => (same k (Nat.lt_of_lt_of_le hk hadded.size)).trans (hadded.same k hk)
  have hboth : ∀ middle,
      Accepts after text ((States.add second next states).1, middle, slots) found ↔
      ∃ last, more middle last ∧ Accepts after text (next, last, slots) found :=
    fun middle => hsecond next states after hlater middle slots found
  refine (hfirst _ _ after same place slots found).trans ?_
  simp only [hboth]
  constructor
  · rintro ⟨middle, hgoes, last, hmore, haccepts⟩
    exact ⟨last, ⟨middle, hgoes, hmore⟩, haccepts⟩
  · rintro ⟨last, ⟨middle, hgoes, hmore⟩, haccepts⟩
    exact ⟨middle, hgoes, last, hmore, haccepts⟩

end Normal

namespace Machine

open GrammarBrew.Normal

variable {goes : Nat → Nat → Prop} {regex : Regex}

private theorem accepts_ofRegex {text : Array Char} (h : Advances text regex.normal goes)
    {place : Nat} {slots found : Slots} :
    Accepts (ofRegex regex).states text ((ofRegex regex).start, place, slots) found ↔
      ∃ last, goes place last ∧ found = (slots.set! 0 (some place)).set! 1 (some last) := by
  have hlast : ∀ last kept, Accepts (ofRegex regex).states text (1, last, kept) found ↔
      found = kept.set! 1 (some last) := by
    intro last kept
    rw [accepts_iff, state_close]
    simp only [nexts, state_close, reduceCtorEq, false_and, false_or, List.mem_singleton,
      exists_eq_left]
    rw [accepts_iff]
    simp only [nexts, state_accept, true_and, List.not_mem_nil, false_and, exists_false, or_false]
    exact eq_comm
  have hinner : ∀ kept, Accepts (ofRegex regex).states text ((inner regex).1, place, kept) found ↔
      ∃ last, goes place last ∧ Accepts (ofRegex regex).states text (1, last, kept) found :=
    fun kept => h 1 _ _ (fun k hk => states_inner regex hk) place kept found
  rw [accepts_iff]
  simp only [state_start, nexts, reduceCtorEq, false_and, false_or, List.mem_singleton,
    exists_eq_left, hinner, hlast]

/-! ### One match after the other -/

/-- Where the first match begins and ends that begins no earlier than a place. -/
def spanFrom? (machine : Machine) (text : Text) (start : Nat) : Option (Nat × Nat) :=
  let chars := text.toArray
  let found := machine.searchFrom (Array.replicate (2 * machine.groups) none) chars
    (List.range' start (chars.size + 1 - start))
    (Array.replicate (machine.states.size * (chars.size + 1)) false)
  found.bind fun slots => (slots.getD 0 none).bind fun first => (slots.getD 1 none).map fun last =>
    (first, last)

/-- The matches of a text from a place on, each looked for from the end of the one before it. None
of them is empty. -/
inductive Finds (machine : Machine) (text : Text) : Nat → List (Nat × Nat) → Prop
  | last {start : Nat} (none : machine.spanFrom? text start = none) : Finds machine text start []
  | next {start first last : Nat} {spans : List (Nat × Nat)}
      (found : machine.spanFrom? text start = some (first, last)) (moves : first < last)
      (rest : Finds machine text last spans) : Finds machine text start ((first, last) :: spans)

private theorem getD_slots (slots : Slots) (h : 2 ≤ slots.size) (first last : Nat) :
    ((slots.set! 0 (some first)).set! 1 (some last)).getD 0 none = some first ∧
      ((slots.set! 0 (some first)).set! 1 (some last)).getD 1 none = some last := by
  have hzero : 0 < slots.size := by omega
  have hone : 1 < slots.size := h
  simp [Array.getD_eq_getD_getElem?, hzero, hone]

private theorem spanFrom?_cases {text : Text} (h : Advances text.toArray regex.normal goes)
    (start : Nat) :
    ((ofRegex regex).spanFrom? text start = none ∧
        ∀ place, start ≤ place → place ≤ text.length → ∀ last, ¬ goes place last) ∨
      ∃ first last, (ofRegex regex).spanFrom? text start = some (first, last) ∧ start ≤ first ∧
        goes first last ∧
        ∀ earlier, start ≤ earlier → earlier < first → ∀ last, ¬ goes earlier last := by
  have hplaces : ∀ place, place ∈ List.range' start (text.toArray.size + 1 - start) ↔
      start ≤ place ∧ place ≤ text.length := by
    intro place
    rw [List.mem_range'_1, List.size_toArray]
    omega
  have hsearch := searchFrom_cases (Array.replicate (2 * (ofRegex regex).groups) none)
    (contained_ofRegex regex) (start_lt regex)
    (fun place hplace => ((hplaces place).1 hplace).2) (explored_replicate _ text.toArray)
  simp only [accepts_ofRegex h] at hsearch
  rcases hsearch with
    ⟨hnone, hall⟩ | ⟨slots, before, first, later, hfound, hsplit, ⟨last, hgoes, rfl⟩, hearlier⟩
  · refine Or.inl ⟨?_, fun place hstart hend last hgoes => ?_⟩
    · rw [spanFrom?, hnone]
      rfl
    · exact hall place ((hplaces place).2 ⟨hstart, hend⟩) _ ⟨last, hgoes, rfl⟩
  · obtain ⟨k, hk, rfl, hrest⟩ := List.range'_eq_append_iff.1 hsplit
    obtain ⟨hfirst, -⟩ := List.range'_eq_cons_iff.1 hrest.symm
    refine Or.inr ⟨first, last, ?_, by omega, hgoes, fun earlier hstart hlt last hgoes => ?_⟩
    · have hroom : 2 ≤ (Array.replicate (2 * (ofRegex regex).groups) (none : Option Nat)).size := by
        have hgroups : (ofRegex regex).groups = regex.groups + 1 := rfl
        rw [Array.size_replicate]
        omega
      obtain ⟨hopened, hclosed⟩ := getD_slots _ hroom first last
      rw [spanFrom?, hfound, Option.bind_some, hopened, hclosed]
      rfl
    · exact hearlier earlier (List.mem_range'_1.2 (by omega)) _ ⟨last, hgoes, rfl⟩

/-- An expression that matches where something stands finds the leftmost places at which it
stands. -/
theorem finds_of_leftmost {text : Text} {stands : Nat → Prop} {width start : Nat}
    {starts : List Nat}
    (h : Advances text.toArray regex.normal fun place last => stands place ∧ last = place + width)
    (wide : 0 < width) (within : ∀ place, stands place → place ≤ text.length)
    (leftmost : Leftmost (fun place => stands place ∧ start ≤ place) width starts) :
    (ofRegex regex).Finds text start (starts.map fun first => (first, first + width)) := by
  induction starts generalizing start with
  | nil =>
    rcases spanFrom?_cases h start with ⟨hnone, -⟩ | ⟨first, last, -, hstart, ⟨hstands, -⟩, -⟩
    · exact .last hnone
    · obtain ⟨place, hplace, -⟩ := leftmost.reach first ⟨hstands, hstart⟩
      cases hplace
  | cons place starts ih =>
    obtain ⟨hstands, hstart⟩ := leftmost.stand place List.mem_cons_self
    rcases spanFrom?_cases h start with
      ⟨-, hall⟩ | ⟨first, last, hfound, hfrom, ⟨hfirst, rfl⟩, hearlier⟩
    · exact absurd ⟨hstands, rfl⟩ (hall place hstart (within place hstands) _)
    · have hle : place ≤ first := leftmost.head_le_of_stands ⟨hfirst, hfrom⟩
      obtain rfl : place = first := by
        by_contra hne
        exact hearlier place hstart (by omega) _ ⟨hstands, rfl⟩
      refine .next hfound (by omega) (ih ?_)
      refine leftmost.tail.congr fun later => ?_
      constructor
      · rintro ⟨⟨hlater, -⟩, hpast⟩
        exact ⟨hlater, hpast⟩
      · rintro ⟨hlater, hpast⟩
        exact ⟨⟨hlater, by omega⟩, hpast⟩

end Machine

end GrammarBrew
