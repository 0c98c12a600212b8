import GrammarBrew.Proofs.Regex.Build
import Mathlib.Logic.Relation

/-!
The search of a machine told by single steps. A match that is found is reached by steps from the
start, at one of the places in which the search begins.
-/

set_option autoImplicit false
set_option relaxedAutoImplicit false

namespace GrammarBrew.Machine

abbrev Trial := Nat × Nat × Slots

/-- A trial leads on to another one. -/
inductive Step (states : States) (text : Array Char) : Trial → Trial → Prop
  | first {state place one other : Nat} {slots : Slots}
      (fork : states.getD state .accept = .fork one other) :
      Step states text (state, place, slots) (one, place, slots)
  | second {state place one other : Nat} {slots : Slots}
      (fork : states.getD state .accept = .fork one other) :
      Step states text (state, place, slots) (other, place, slots)
  | keep {state place slot next : Nat} {slots : Slots}
      (keep : states.getD state .accept = .keep slot next) :
      Step states text (state, place, slots) (next, place, slots.set! slot (some place))
  | look {state place next : Nat} {slots : Slots} {condition : Look}
      (look : states.getD state .accept = .look condition next)
      (holds : condition.holds (if place = 0 then none else text[place - 1]?) text[place]? = true) :
      Step states text (state, place, slots) (next, place, slots)
  | read {state place next : Nat} {slots : Slots} {runs : List (Nat × Nat)}
      (read : states.getD state .accept = .read runs next)
      (reads : (text[place]?.any fun c => Text.inRuns runs c.toNat) = true) :
      Step states text (state, place, slots) (next, place + 1, slots)

namespace Step

variable {states : States} {text : Array Char} {state place slot target : Nat} {slots : Slots}
  {next : Trial}

theorem of_accept (h : Step states text (state, place, slots) next)
    (hstate : states.getD state .accept = .accept) : False := by
  cases h <;> simp_all

theorem of_keep (h : Step states text (state, place, slots) next)
    (hstate : states.getD state .accept = .keep slot target) :
    next = (target, place, slots.set! slot (some place)) := by
  cases h <;> simp_all

theorem of_look {condition : Look} (h : Step states text (state, place, slots) next)
    (hstate : states.getD state .accept = .look condition target) :
    next = (target, place, slots) ∧
      condition.holds (if place = 0 then none else text[place - 1]?) text[place]? = true := by
  cases h <;> simp_all

/-- A step goes where its state leads, and keeps a place at most. -/
theorem of_leads {goes keeps : Nat → Prop} (h : Step states text (state, place, slots) next)
    (hstate : (states.getD state .accept).Leads goes keeps) :
    goes next.1 ∧ (next.2.2 = slots ∨ ∃ slot, keeps slot ∧
      next.2.2 = slots.set! slot (some place)) := by
  cases h with
  | first fork =>
    rw [fork] at hstate
    exact ⟨hstate.1, Or.inl rfl⟩
  | second fork =>
    rw [fork] at hstate
    exact ⟨hstate.2, Or.inl rfl⟩
  | keep keep =>
    rw [keep] at hstate
    exact ⟨hstate.2, Or.inr ⟨_, hstate.1, rfl⟩⟩
  | look look holds =>
    rw [look] at hstate
    exact ⟨hstate, Or.inl rfl⟩
  | read read reads =>
    rw [read] at hstate
    exact ⟨hstate, Or.inl rfl⟩

end Step

/-- A trial from which steps lead to a state that accepts, with what has been kept then. -/
def Accepts (states : States) (text : Array Char) (trial : Trial) (slots : Slots) : Prop :=
  ∃ state place, Relation.ReflTransGen (Step states text) trial (state, place, slots) ∧
    states.getD state .accept = .accept

variable {states : States} {text : Array Char} {trial other : Trial} {slots : Slots}
  {tried after : Array Bool}

theorem Accepts.step (h : Accepts states text other slots) (step : Step states text trial other) :
    Accepts states text trial slots := by
  obtain ⟨state, place, hpath, haccept⟩ := h
  exact ⟨state, place, .head step hpath, haccept⟩

/-! ### One turn of a run -/

def nexts (states : States) (text : Array Char) (trial : Trial) : Trials :=
  let (state, place, slots) := trial
  match states.getD state .accept with
  | .accept => []
  | .fork one other => [(one, place, slots), (other, place, slots)]
  | .keep slot next => [(next, place, slots.set! slot (some place))]
  | .look condition next =>
    if condition.holds (if place = 0 then none else text[place - 1]?) text[place]?
      then [(next, place, slots)]
    else []
  | .read runs next =>
    if text[place]?.any fun c => Text.inRuns runs c.toNat then [(next, place + 1, slots)] else []

theorem mem_nexts_iff : other ∈ nexts states text trial ↔ Step states text trial other := by
  obtain ⟨state, place, kept⟩ := trial
  constructor
  · intro h
    unfold nexts at h
    cases hstate : states.getD state .accept with
    | accept => simp [hstate] at h
    | fork one second =>
      simp only [hstate, List.mem_cons, List.not_mem_nil, or_false] at h
      rcases h with rfl | rfl
      · exact .first hstate
      · exact .second hstate
    | keep slot next =>
      simp only [hstate, List.mem_singleton] at h
      exact h ▸ .keep hstate
    | look condition next =>
      simp only [hstate, List.mem_ite_nil_right, List.mem_singleton] at h
      exact h.2 ▸ .look hstate h.1
    | read runs next =>
      simp only [hstate, List.mem_ite_nil_right, List.mem_singleton] at h
      exact h.2 ▸ .read hstate h.1
  · rintro (fork | fork | keep | ⟨look, holds⟩ | ⟨read, reads⟩)
    · simp [nexts, fork]
    · simp [nexts, fork]
    · simp [nexts, keep]
    · simp [nexts, look, holds]
    · simp [nexts, read, reads]

theorem accepts_iff : Accepts states text trial slots ↔
    (states.getD trial.1 .accept = .accept ∧ trial.2.2 = slots) ∨
      ∃ next ∈ nexts states text trial, Accepts states text next slots := by
  constructor
  · rintro ⟨state, place, hpath, haccept⟩
    rcases Relation.ReflTransGen.cases_head hpath with rfl | ⟨next, hstep, hrest⟩
    · exact Or.inl ⟨haccept, rfl⟩
    · exact Or.inr ⟨next, mem_nexts_iff.2 hstep, state, place, hrest, haccept⟩
  · rintro (⟨haccept, rfl⟩ | ⟨next, hnext, haccepts⟩)
    · exact ⟨trial.1, trial.2.1, .refl, haccept⟩
    · exact haccepts.step (mem_nexts_iff.1 hnext)

def mark (text : Array Char) (trial : Trial) : Nat := trial.1 * (text.size + 1) + trial.2.1

variable {fuel : Nat} {trials : Trials}

theorem run_tried (h : tried.getD (mark text trial) true = true) :
    run states text (fuel + 1) tried (trial :: trials) = run states text fuel tried trials := by
  rw [run]
  exact if_pos h

theorem run_accept (h : tried.getD (mark text trial) true = false)
    (haccept : states.getD trial.1 .accept = .accept) :
    run states text (fuel + 1) tried (trial :: trials)
      = (some trial.2.2, tried.set! (mark text trial) true) := by
  obtain ⟨state, place, kept⟩ := trial
  rw [run]
  dsimp only
  rw [if_neg (by simpa [mark] using h), haccept]
  rfl

theorem run_nexts (h : tried.getD (mark text trial) true = false)
    (hstate : states.getD trial.1 .accept ≠ .accept) :
    run states text (fuel + 1) tried (trial :: trials)
      = run states text fuel (tried.set! (mark text trial) true)
        (nexts states text trial ++ trials) := by
  obtain ⟨state, place, kept⟩ := trial
  rw [run]
  dsimp only
  rw [if_neg (by simpa [mark] using h)]
  unfold nexts
  dsimp only
  cases hcase : states.getD state .accept with
  | accept => exact absurd hcase hstate
  | fork one other => rfl
  | keep slot next => rfl
  | look condition next =>
    by_cases hholds : condition.holds (if place = 0 then none else text[place - 1]?)
      text[place]? = true
    · simp only [if_pos hholds]
      rfl
    · simp only [if_neg hholds]
      rfl
  | read runs next =>
    dsimp only
    split <;> rfl

/-! ### Whole runs and searches -/

/-- A run finds what one of its trials leads to. -/
theorem exists_accepts_of_run (h : run states text fuel tried trials = (some slots, after)) :
    ∃ trial ∈ trials, Accepts states text trial slots := by
  induction fuel generalizing tried trials with
  | zero => simp [run] at h
  | succ fuel ih =>
    cases trials with
    | nil => simp [run] at h
    | cons trial trials =>
      cases htried : tried.getD (mark text trial) true with
      | true =>
        rw [run_tried htried] at h
        obtain ⟨found, hfound, haccepts⟩ := ih h
        exact ⟨found, List.mem_cons_of_mem _ hfound, haccepts⟩
      | false =>
        by_cases hstate : states.getD trial.1 .accept = .accept
        · rw [run_accept htried hstate] at h
          obtain rfl := Option.some.inj (Prod.mk.inj h).1
          exact ⟨trial, List.mem_cons_self, trial.1, trial.2.1, .refl, hstate⟩
        · rw [run_nexts htried hstate] at h
          obtain ⟨found, hfound, haccepts⟩ := ih h
          rcases List.mem_append.1 hfound with hnext | hlater
          · exact ⟨trial, List.mem_cons_self, haccepts.step (mem_nexts_iff.1 hnext)⟩
          · exact ⟨found, List.mem_cons_of_mem _ hlater, haccepts⟩

private theorem exists_accepts_of_searchFrom {machine : Machine} {kept : Slots} {places : List Nat}
    (h : machine.searchFrom kept text places tried = some slots) :
    ∃ place ∈ places, Accepts machine.states text (machine.start, place, kept) slots := by
  induction places generalizing tried with
  | nil => cases h
  | cons place places ih =>
    rw [searchFrom] at h
    split at h
    next found after hrun =>
      obtain rfl := Option.some.inj h
      obtain ⟨trial, htrial, haccepts⟩ := exists_accepts_of_run hrun
      obtain rfl := List.mem_singleton.1 htrial
      exact ⟨place, List.mem_cons_self, haccepts⟩
    · obtain ⟨place, hplace, haccepts⟩ := ih h
      exact ⟨place, List.mem_cons_of_mem _ hplace, haccepts⟩

def keptText (text : Text) (slots : Slots) (number : Nat) : Option Text :=
  (slots.getD (2 * number) none).bind fun first =>
    (slots.getD (2 * number + 1) none).map fun last => (text.drop first).take (last - first)

theorem exists_accepts_of_find? {machine : Machine} {text : Text} {captures : Captures}
    (h : machine.find? text = some captures) :
    ∃ place ≤ text.length, ∃ slots, Accepts machine.states text.toArray
        (machine.start, place, Array.replicate (2 * machine.groups) none) slots ∧
      ∀ number < machine.groups, captures.group? number = keptText text slots number := by
  unfold find? at h
  obtain ⟨slots, hsearch, rfl⟩ := Option.map_eq_some_iff.1 h
  obtain ⟨place, hplace, haccepts⟩ := exists_accepts_of_searchFrom hsearch
  refine ⟨place, Nat.le_of_lt_succ (List.mem_range.1 hplace), slots, haccepts,
    fun number hnumber => ?_⟩
  simp only [Captures.group?, List.getElem?_map, List.getElem?_range hnumber, Option.map_some,
    Option.join_some, keptText]
  cases slots.getD (2 * number) none with
  | none => rfl
  | some first => cases slots.getD (2 * number + 1) none <;> rfl

end GrammarBrew.Machine
