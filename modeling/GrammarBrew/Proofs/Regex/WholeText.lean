import GrammarBrew.Proofs.Regex.Normal
import GrammarBrew.Proofs.Regex.Search

/-!
Matches of whole texts. The machine of an expression that is tied to both ends of the text begins to
match at the start and accepts at the end, so that each of its matches is the whole text.
-/

set_option autoImplicit false
set_option relaxedAutoImplicit false

namespace GrammarBrew

/-- The states of an expression for whole texts. The match is closed by the first two states, the
third one waits for the end of the text, and the last two open the match; all others keep to
themselves. -/
structure States.Encloses (states : States) (last : Nat) : Prop where
  accepting : states.getD 0 .accept = .accept
  closing : states.getD 1 .accept = .keep 1 0
  ending : states.getD 2 .accept = .look .textEnd 1
  within : ∀ state, 2 < state → state < last →
    (states.getD state .accept).Leads (fun target => 2 ≤ target ∧ target < last) (2 ≤ ·)
  starting : ∃ entry, 2 ≤ entry ∧ entry < last ∧ states.getD last .accept = .look .textStart entry
  opening : states.getD (last + 1) .accept = .keep 0 last

namespace States

private theorem added_ofParts_concat {keeps : Nat → Prop} {parts : List Normal} (part : Normal)
    (hkeeps : ∀ number ∈ parts.flatMap Normal.numbers, keeps (2 * number) ∧ keeps (2 * number + 1))
    (next : Nat) (states : States) :
    Added keeps (add part next states).1 (add part next states).2
      (add (Normal.ofParts (parts ++ [part])) next states) := by
  induction parts with
  | nil => exact Grows.refl.stay
  | cons first parts ih =>
    obtain ⟨hfirst, hparts⟩ := List.forall_mem_append.1 (List.flatMap_cons .. ▸ hkeeps)
    rw [List.cons_append, Normal.ofParts_cons _ (by simp)]
    exact (ih hparts).bind (added_add hfirst _ _)

end States

namespace Machine

open States

variable {body : Regex}

private theorem exists_states (positive : ∀ number ∈ body.numbers, 0 < number) :
    ∃ added : Nat × States,
    Added (2 ≤ ·) 2 #[.accept, .keep 1 0, .look .textEnd 1] added ∧
      (ofRegex body.wholeText).states
        = Array.push (Array.push added.2 (.look .textStart added.1)) (.keep 0 added.2.size) ∧
      (ofRegex body.wholeText).start = added.2.size + 1 := by
  obtain ⟨parts, hnormal, hnumbers⟩ := Regex.normal_wholeText body
  have hkeeps : ∀ number ∈ parts.flatMap Normal.numbers, 2 ≤ 2 * number ∧ 2 ≤ 2 * number + 1 := by
    intro number hnumber
    have hpos := positive number (hnumbers hnumber)
    omega
  refine ⟨_, added_ofParts_concat (.look .textEnd) hkeeps 1 #[.accept, .keep 1 0], ?_, ?_⟩
  · rw [ofRegex, hnormal]
    rfl
  · rw [ofRegex, hnormal]
    exact Array.size_push _

private theorem encloses_wholeText (positive : ∀ number ∈ body.numbers, 0 < number) :
    ∃ last, (ofRegex body.wholeText).states.Encloses last ∧
      (ofRegex body.wholeText).start = last + 1 := by
  obtain ⟨added, hadded, hstates, hstart⟩ := exists_states positive
  refine ⟨added.2.size, ?_, hstart⟩
  have hsize : 3 ≤ added.2.size := hadded.size
  have hentry : 2 ≤ added.1 ∧ added.1 < added.2.size := by
    rcases hadded.entry with heq | ⟨hlow, hhigh⟩
    · omega
    · have hlow : 3 ≤ added.1 := hlow
      omega
  -- The states that were there before are kept, and two are added at the end.
  have hfinal : ∀ state, (ofRegex body.wholeText).states[state]?
      = if state = added.2.size + 1 then some (.keep 0 added.2.size)
        else if state = added.2.size then some (.look .textStart added.1) else added.2[state]? := by
    intro state
    rw [hstates, Array.getElem?_push, Array.getElem?_push, Array.size_push]
  have hfirst : ∀ state < 3, (ofRegex body.wholeText).states[state]?
      = (#[.accept, .keep 1 0, .look .textEnd 1] : States)[state]? := by
    intro state hstate
    rw [hfinal, if_neg (by omega), if_neg (by omega), hadded.same state hstate]
  refine ⟨?_, ?_, ?_, fun state hlow hhigh => ?_, ⟨added.1, hentry.1, hentry.2, ?_⟩, ?_⟩
  · rw [Array.getD_eq_getD_getElem?, hfirst 0 (by decide)]
    rfl
  · rw [Array.getD_eq_getD_getElem?, hfirst 1 (by decide)]
    rfl
  · rw [Array.getD_eq_getD_getElem?, hfirst 2 (by decide)]
    rfl
  · rw [Array.getD_eq_getD_getElem?, hfinal, if_neg (by omega), if_neg (by omega),
      Array.getElem?_eq_getElem hhigh, Option.getD_some]
    refine (hadded.leads state _ hlow (Array.getElem?_eq_getElem hhigh)).mono
      fun target htarget => ?_
    rcases htarget with rfl | ⟨htarget, hbelow⟩
    · omega
    · have htarget : 3 ≤ target := htarget
      omega
  · rw [Array.getD_eq_getD_getElem?, hfinal, if_neg (by omega), if_pos rfl, Option.getD_some]
  · rw [Array.getD_eq_getD_getElem?, hfinal, if_pos rfl, Option.getD_some]

/-- How far a match of a whole text has come: it is opened at the start of the text and closed at
its end. -/
inductive Passes (length last : Nat) : Trial → Prop
  | begins {place : Nat} {slots : Slots} (room : 2 ≤ slots.size) (here : place ≤ length) :
      Passes length last (last + 1, place, slots)
  | opens {place : Nat} {slots : Slots} (room : 2 ≤ slots.size) (here : place ≤ length)
      (opened : slots.getD 0 none = some place) : Passes length last (last, place, slots)
  | goesOn {state place : Nat} {slots : Slots} (room : 2 ≤ slots.size) (low : 2 ≤ state)
    (high : state < last)
      (opened : slots.getD 0 none = some 0) : Passes length last (state, place, slots)
  | ends {place : Nat} {slots : Slots} (room : 2 ≤ slots.size) (opened : slots.getD 0 none = some 0)
      (whole : length ≤ place) : Passes length last (1, place, slots)
  | closes {place stop : Nat} {slots : Slots} (opened : slots.getD 0 none = some 0)
      (closed : slots.getD 1 none = some stop) (whole : length ≤ stop) :
        Passes length last (0, place, slots)

section

variable {states : States} {last place slot : Nat} {text : Array Char} {trial next : Trial}
  {slots : Slots}

private theorem getD_set!_self (h : slot < slots.size) :
    (slots.set! slot (some place)).getD slot none = some place := by
  simp [Array.getD_eq_getD_getElem?, h]

private theorem getD_set!_ne {other : Nat} (h : slot ≠ other) :
    (slots.set! slot (some place)).getD other none = slots.getD other none := by
  simp [Array.getD_eq_getD_getElem?, Array.getElem?_setIfInBounds_ne h]

private theorem Passes.step (encloses : states.Encloses last) (h : Passes text.size last trial)
    (step : Step states text trial next) : Passes text.size last next := by
  cases h with
  | begins room here =>
    obtain rfl := step.of_keep encloses.opening
    exact .opens (by simpa using room) here (getD_set!_self (by omega))
  | @opens place slots room here opened =>
    obtain ⟨entry, hlow, hhigh, hentry⟩ := encloses.starting
    obtain ⟨rfl, hholds⟩ := step.of_look hentry
    -- Only in front of the first character there is none before.
    have hstart : place = 0 := by
      by_contra hplace
      rw [if_neg hplace, Look.holds, Option.isNone_iff_eq_none, Array.getElem?_eq_none_iff]
        at hholds
      omega
    exact .goesOn room hlow hhigh (hstart ▸ opened)
  | @goesOn state place slots room low high opened =>
    rcases Nat.eq_or_lt_of_le low with rfl | hwithin
    · obtain ⟨rfl, hholds⟩ := step.of_look encloses.ending
      rw [Look.holds, Option.isNone_iff_eq_none, Array.getElem?_eq_none_iff] at hholds
      exact .ends room opened hholds
    · obtain ⟨⟨hlow, hhigh⟩, hkept⟩ := step.of_leads (encloses.within state hwithin high)
      obtain ⟨target, here, kept⟩ := next
      rcases hkept with rfl | ⟨slot, hslot, rfl⟩
      · exact .goesOn room hlow hhigh opened
      · exact .goesOn (by simpa using room) hlow hhigh ((getD_set!_ne (by omega)).trans opened)
  | ends room opened whole =>
    obtain rfl := step.of_keep encloses.closing
    exact .closes ((getD_set!_ne (by decide)).trans opened) (getD_set!_self (by omega)) whole
  | closes => exact (step.of_accept encloses.accepting).elim

private theorem Passes.steps (encloses : states.Encloses last) (h : Passes text.size last trial)
    (steps : Relation.ReflTransGen (Step states text) trial next) : Passes text.size last next := by
  induction steps with
  | refl => exact h
  | tail _ step ih => exact ih.step encloses step

private theorem Passes.kept (encloses : states.Encloses last) (h : Passes text.size last trial)
    (haccepts : Accepts states text trial slots) :
    ∃ stop, slots.getD 0 none = some 0 ∧ slots.getD 1 none = some stop ∧ text.size ≤ stop := by
  obtain ⟨state, place, hsteps, haccept⟩ := haccepts
  cases h.steps encloses hsteps with
  | begins => simp [encloses.opening] at haccept
  | opens =>
    obtain ⟨entry, -, -, hentry⟩ := encloses.starting
    simp [hentry] at haccept
  | goesOn room low high opened =>
    rcases Nat.eq_or_lt_of_le low with rfl | hwithin
    · simp [encloses.ending] at haccept
    · have hleads := encloses.within state hwithin high
      rw [haccept] at hleads
      exact hleads.elim
  | ends => simp [encloses.closing] at haccept
  | closes opened closed whole => exact ⟨_, opened, closed, whole⟩

end

theorem group?_of_find?_wholeText (positive : ∀ number ∈ body.numbers, 0 < number) {text : Text}
    {captures : Captures} (h : (ofRegex body.wholeText).find? text = some captures) :
    captures.group? 0 = some text := by
  obtain ⟨last, hencloses, hstart⟩ := encloses_wholeText positive
  obtain ⟨place, hplace, slots, haccepts, hgroups⟩ := exists_accepts_of_find? h
  have hbegins : Passes text.toArray.size last ((ofRegex body.wholeText).start, place,
      Array.replicate (2 * (ofRegex body.wholeText).groups) none) := by
    have hgroup : 0 < (ofRegex body.wholeText).groups := Nat.succ_pos _
    rw [hstart]
    refine .begins ?_ hplace
    rw [Array.size_replicate]
    omega
  obtain ⟨stop, hopened, hclosed, hstop⟩ := hbegins.kept hencloses haccepts
  rw [hgroups 0 (Nat.succ_pos _), keptText, hopened, hclosed]
  simp only [Option.bind_some, Option.map_some, List.drop_zero, Nat.sub_zero]
  rw [List.take_of_length_le (by simpa using hstop)]

end Machine

end GrammarBrew
