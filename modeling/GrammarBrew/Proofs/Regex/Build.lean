import GrammarBrew.Regex.Machine

/-!
The states of an expression. Those that are added lead on to each other and to the state that comes
next, and to no other state, and they keep places in the slots of the expression's own groups.
-/

set_option autoImplicit false
set_option relaxedAutoImplicit false

namespace GrammarBrew

def Normal.numbers : Normal → List Nat
  | seq first second | alt first second => first.numbers ++ second.numbers
  | rep body _ _ _ => body.numbers
  | kept number body => number :: body.numbers
  | empty | literal _ | set _ | look _ => []

def MachineState.Leads (goes keeps : Nat → Prop) : MachineState → Prop
  | read _ next | look _ next => goes next
  | fork first second => goes first ∧ goes second
  | keep slot next => keeps slot ∧ goes next
  | accept => False

theorem MachineState.Leads.mono {goes goes' keeps : Nat → Prop} {state : MachineState}
    (h : state.Leads goes keeps) (hgoes : ∀ target, goes target → goes' target) :
      state.Leads goes' keeps := by
  cases state with
  | read runs next => exact hgoes _ h
  | look condition next => exact hgoes _ h
  | fork first second => exact ⟨hgoes _ h.1, hgoes _ h.2⟩
  | keep slot next => exact ⟨h.1, hgoes _ h.2⟩
  | accept => exact h

namespace States

def Reaches (next : Nat) (before after : States) (target : Nat) : Prop :=
  target = next ∨ before.size ≤ target ∧ target < after.size

structure Grows (keeps : Nat → Prop) (next : Nat) (before after : States) : Prop where
  size : before.size ≤ after.size
  same : ∀ i < before.size, after[i]? = before[i]?
  leads : ∀ i state, before.size ≤ i → after[i]? = some state →
    state.Leads (Reaches next before after) keeps

structure Added (keeps : Nat → Prop) (next : Nat) (before : States) (added : Nat × States) : Prop
    extends Grows keeps next before added.2 where
  entry : Reaches next before added.2 added.1

variable {keeps : Nat → Prop} {next exit target : Nat} {before states after : States}
  {state : MachineState}
  {added more : Nat × States} {greedy : Bool}

private theorem Reaches.mono (h : Reaches next before states target)
    (hsize : states.size ≤ after.size) :
    Reaches next before after target :=
  h.imp_right fun ⟨hlow, hhigh⟩ => ⟨hlow, Nat.lt_of_lt_of_le hhigh hsize⟩

theorem Grows.refl : Grows keeps next states states := by
  refine ⟨Nat.le_refl _, fun _ _ => rfl, fun i state hi hstate => ?_⟩
  rw [Array.getElem?_eq_none hi] at hstate
  cases hstate

theorem Added.bind (h : Added keeps exit before added) (h' : Added keeps added.1 added.2 more) :
    Added keeps exit before more := by
  have hreaches : ∀ target, Reaches added.1 added.2 more.2 target →
      Reaches exit before more.2 target := by
    rintro target (rfl | ⟨hlow, hhigh⟩)
    · exact h.entry.mono h'.size
    · exact Or.inr ⟨Nat.le_trans h.size hlow, hhigh⟩
  refine ⟨⟨Nat.le_trans h.size h'.size, fun i hi => ?_, fun i state hi hstate => ?_⟩,
    hreaches _ h'.entry⟩
  · rw [h'.same i (Nat.lt_of_lt_of_le hi h.size), h.same i hi]
  · rcases Nat.lt_or_ge i added.2.size with hlt | hge
    · rw [h'.same i hlt] at hstate
      exact (h.leads i state hi hstate).mono fun target htarget => htarget.mono h'.size
    · exact (h'.leads i state hge hstate).mono hreaches

private theorem push_eq (states : States) (state : MachineState) :
    states.push state = (states.size, Array.push states state) := rfl

private theorem Grows.push (h : Grows keeps exit before states)
    (hstate : state.Leads (Reaches exit before states) keeps) :
    Added keeps exit before (states.push state) := by
  have hsize : states.size ≤ (Array.push states state).size := by
    rw [Array.size_push]
    exact Nat.le_succ _
  rw [push_eq]
  refine ⟨⟨Nat.le_trans h.size hsize, fun i hi => ?_, fun i other hi hother => ?_⟩,
    Or.inr ⟨h.size, ?_⟩⟩
  · rw [Array.getElem?_push, if_neg (Nat.ne_of_lt (Nat.lt_of_lt_of_le hi h.size)), h.same i hi]
  · rw [Array.getElem?_push] at hother
    split at hother
    · obtain rfl := Option.some.inj hother
      exact hstate.mono fun target htarget => htarget.mono hsize
    · exact (h.leads i other hi hother).mono fun target htarget => htarget.mono hsize
  · rw [Array.size_push]
    exact Nat.lt_succ_self _

theorem Grows.stay (h : Grows keeps exit before states) : Added keeps exit before (exit, states) :=
  ⟨h, Or.inl rfl⟩

private theorem Added.push (h : Added keeps exit before added)
    (hstate : state.Leads (Reaches exit before added.2) keeps) :
    Added keeps exit before (added.2.push state) :=
  h.toGrows.push hstate

private theorem leads_round {goes : Nat → Prop} {body : Nat} (hbody : goes body)
    (hexit : goes exit) :
    (round greedy body exit).Leads goes keeps := by
  cases greedy with
  | true => exact ⟨hbody, hexit⟩
  | false => exact ⟨hexit, hbody⟩

/-! ### Texts and repetitions -/

private theorem added_addText (next : Nat) (states : States) (text : Text) :
    Added keeps next states (addText next states text) := by
  induction text generalizing next states with
  | nil => exact Grows.refl.stay
  | cons c text ih =>
    have hread : Added keeps next states (states.push (.read [(c.toNat, c.toNat)] next)) :=
      Grows.refl.push (Or.inl rfl)
    exact hread.bind (ih _ _)

section

variable {add : Nat → States → Nat × States}
  (hadd : ∀ next states, Added keeps next states (add next states))
include hadd

private theorem added_copies (count next : Nat) (states : States) :
    Added keeps next states (copies add count next states) := by
  induction count generalizing next states with
  | zero => exact Grows.refl.stay
  | succ count ih => exact (hadd next states).bind (ih _ _)

private theorem Added.optionals (h : Added keeps exit before added) (count : Nat) :
    Added keeps exit before (States.optionals add greedy exit count added.1 added.2) := by
  induction count generalizing added with
  | zero => exact h
  | succ count ih =>
    have hbody := h.bind (hadd added.1 added.2)
    exact ih (hbody.push (leads_round hbody.entry (Or.inl rfl)))

end

private theorem Added.fork (h : Added keeps states.size (states.push .accept).2 added)
    (greedy : Bool) (next : Nat) :
    Added keeps next states (added.1, added.2.set! states.size (round greedy added.1 next)) ∧
      Reaches next states (added.2.set! states.size (round greedy added.1 next)) states.size := by
  have hfree : (states.push .accept).2.size = states.size + 1 := Array.size_push _
  have hsize := h.size
  have hreaches : ∀ target, Reaches states.size (states.push .accept).2 added.2 target →
      Reaches next states (added.2.set! states.size (round greedy added.1 next)) target := by
    rintro target (rfl | ⟨hlow, hhigh⟩)
    · exact Or.inr ⟨Nat.le_refl _, by simp; omega⟩
    · exact Or.inr ⟨by omega, by simp; omega⟩
  refine ⟨⟨⟨by simp; omega, fun i hi => ?_, fun i state hi hstate => ?_⟩, hreaches _ h.entry⟩,
    hreaches _ (Or.inl rfl)⟩
  · rw [Array.set!_eq_setIfInBounds, Array.getElem?_setIfInBounds_ne (by omega),
      h.same i (by omega), push_eq, Array.getElem?_push, if_neg (by omega)]
  · rw [Array.set!_eq_setIfInBounds, Array.getElem?_setIfInBounds] at hstate
    split at hstate
    · split at hstate
      · obtain rfl := Option.some.inj hstate
        exact leads_round (hreaches _ h.entry) (Or.inl rfl)
      · cases hstate
    · exact (h.leads i state (by omega) hstate).mono hreaches

/-- The states of an expression lead on to each other and to the next, and keep the places of its
groups. -/
theorem added_add {normal : Normal}
    (hkeeps : ∀ number ∈ normal.numbers, keeps (2 * number) ∧ keeps (2 * number + 1)) (next : Nat)
    (states : States) : Added keeps next states (add normal next states) := by
  induction normal generalizing next states with
  | empty => exact Grows.refl.stay
  | literal text => exact added_addText next states text.reverse
  | set runs => exact Grows.refl.push (Or.inl rfl)
  | look condition => exact Grows.refl.push (Or.inl rfl)
  | seq first second hfirst hsecond =>
    obtain ⟨hkeepsFirst, hkeepsSecond⟩ := List.forall_mem_append.1 hkeeps
    exact (hsecond hkeepsSecond next states).bind (hfirst hkeepsFirst _ _)
  | alt first second hfirst hsecond =>
    obtain ⟨hkeepsFirst, hkeepsSecond⟩ := List.forall_mem_append.1 hkeeps
    have hone := hfirst hkeepsFirst next states
    have hother := hone.toGrows.stay.bind (hsecond hkeepsSecond next _)
    exact hother.push ⟨hone.entry.mono (hsecond hkeepsSecond next _).size, hother.entry⟩
  | kept number body hbody =>
    obtain ⟨hnumber, hkeepsBody⟩ := List.forall_mem_cons.1 hkeeps
    have hclose : Added keeps next states (states.push (.keep (2 * number + 1) next)) :=
      Grows.refl.push ⟨hnumber.2, Or.inl rfl⟩
    have hinner := hclose.bind (hbody hkeepsBody _ _)
    exact hinner.push ⟨hnumber.1, hinner.entry⟩
  | rep body least most greedy hbody =>
    have hadd := fun next states => hbody hkeeps next states
    cases most with
    | some most =>
      exact ((Grows.refl.stay).optionals hadd (most - least)).bind (added_copies hadd least _ _)
    | none =>
      obtain ⟨hfork, hagain⟩ := (hadd states.size (states.push .accept).2).fork greedy next
      cases least with
      | zero =>
        show Added keeps next states (if body.minLength.getD 0 = 0 then _ else _)
        split
        · exact hfork.push (leads_round hfork.entry (Or.inl rfl))
        · exact ⟨hfork.toGrows, hagain⟩
      | succ count => exact hfork.bind (added_copies hadd count _ _)

theorem added_any (normal : Normal) (next : Nat) (states : States) :
    Added (fun _ => True) next states (add normal next states) :=
  added_add (fun _ _ => ⟨trivial, trivial⟩) next states

end States

end GrammarBrew
