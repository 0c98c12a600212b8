import GrammarBrew.Proofs.Regex.Search
import Mathlib.Data.List.Basic

/-!
The search of a machine leaves nothing out. What is marked leads only to what is marked too or is
still to be tried, and does not accept. A run that ends without a match has therefore marked all
that its trials lead to, so that the search finds a match if there is one, at the first place from
which there is one.
-/

set_option autoImplicit false
set_option relaxedAutoImplicit false

namespace GrammarBrew.Machine

variable {states : States} {text : Array Char} {trial other next : Trial} {slots : Slots}
  {tried after : Array Bool} {trials : Trials} {fuel : Nat}

/-! ### Trials of a machine on a text -/

def Contained (states : States) : Prop :=
  ∀ state, states.getD state .accept = .accept ∨
    (states.getD state .accept).Leads (· < states.size) fun _ => True

structure Inside (states : States) (text : Array Char) (trial : Trial) : Prop where
  state : trial.1 < states.size
  place : trial.2.1 ≤ text.size

def Alike (trial other : Trial) : Prop := trial.1 = other.1 ∧ trial.2.1 = other.2.1

private theorem Inside.step (contained : Contained states) (h : Inside states text trial)
    (step : Step states text trial other) : Inside states text other := by
  refine ⟨?_, ?_⟩
  · obtain ⟨state, place, kept⟩ := trial
    refine (step.of_leads ((contained state).resolve_left fun haccept => ?_)).1
    exact step.of_accept haccept
  · cases step with
    | read read reads =>
      rename_i place _ _ _
      have hplace : place < text.size := by
        by_contra hend
        simp [Array.getElem?_eq_none (Nat.not_lt.1 hend)] at reads
      exact hplace
    | _ => exact h.place

private theorem Step.alike {trial' : Trial} (step : Step states text trial other)
    (h : Alike trial trial') :
    ∃ other', Step states text trial' other' ∧ Alike other other' := by
  obtain ⟨state, place, kept⟩ := trial'
  cases step with
  | first fork =>
    obtain ⟨rfl, rfl⟩ := h
    exact ⟨_, .first fork, rfl, rfl⟩
  | second fork =>
    obtain ⟨rfl, rfl⟩ := h
    exact ⟨_, .second fork, rfl, rfl⟩
  | keep keep =>
    obtain ⟨rfl, rfl⟩ := h
    exact ⟨_, .keep keep, rfl, rfl⟩
  | look look holds =>
    obtain ⟨rfl, rfl⟩ := h
    exact ⟨_, .look look holds, rfl, rfl⟩
  | read read reads =>
    obtain ⟨rfl, rfl⟩ := h
    exact ⟨_, .read read reads, rfl, rfl⟩

/-! ### Marks -/

def Marked (text : Array Char) (tried : Array Bool) (trial : Trial) : Prop :=
  tried.getD (mark text trial) true = true

private theorem Alike.mark_eq (h : Alike trial other) : mark text trial = mark text other := by
  rw [mark, mark, h.1, h.2]

private theorem Inside.alike_of_mark_eq (h : Inside states text trial)
    (h' : Inside states text other)
    (heq : mark text trial = mark text other) : Alike trial other := by
  have hstate : ∀ trial, Inside states text trial → mark text trial / (text.size + 1)
      = trial.1 := by
    intro trial h
    rw [mark, Nat.add_comm, Nat.add_mul_div_right _ _ (Nat.succ_pos _),
      Nat.div_eq_of_lt (Nat.lt_succ_of_le h.place), Nat.zero_add]
  have hsame : trial.1 = other.1 := by rw [← hstate trial h, ← hstate other h', heq]
  refine ⟨hsame, ?_⟩
  rw [mark, mark, hsame] at heq
  exact Nat.add_left_cancel heq

private theorem Inside.mark_lt (h : Inside states text trial) :
    mark text trial < states.size * (text.size + 1) :=
  calc trial.1 * (text.size + 1) + trial.2.1
      < trial.1 * (text.size + 1) + (text.size + 1) :=
        Nat.add_lt_add_left (Nat.lt_succ_of_le h.place) _
    _ = (trial.1 + 1) * (text.size + 1) := (Nat.succ_mul _ _).symm
    _ ≤ states.size * (text.size + 1) := Nat.mul_le_mul_right _ h.state

private theorem marked_set {number : Nat} :
    Marked text (tried.set! number true) trial ↔ number = mark text trial ∨
      Marked text tried trial := by
  unfold Marked
  rw [Array.set!_eq_setIfInBounds, Array.getD_eq_getD_getElem?, Array.getElem?_setIfInBounds,
    Array.getD_eq_getD_getElem?]
  split
  next heq =>
    simp only [heq, true_or, iff_true]
    split <;> rfl
  next hne => simp [hne]

private theorem count_set {number : Nat} (h : tried.getD number true = false) :
    (tried.set! number true).count false + 1 = tried.count false := by
  have hnumber : tried[number]? = some false := by
    rw [Array.getD_eq_getD_getElem?] at h
    cases hget : tried[number]? with
    | none => simp [hget] at h
    | some b => simpa [hget] using h
  obtain ⟨hlt, hfalse⟩ := Array.getElem?_eq_some_iff.1 hnumber
  have hpos : 0 < tried.count false := Array.count_pos_iff.2 (hfalse ▸ Array.getElem_mem hlt)
  rw [Array.set!_eq_setIfInBounds, Array.setIfInBounds, dif_pos hlt, Array.count_set]
  simp only [hfalse, BEq.rfl, if_true]
  have hother : (true == false) = false := rfl
  rw [hother, if_neg (by simp)]
  omega

/-- What is marked does not accept, and leads only to what is marked or still to be tried. -/
structure Explored (states : States) (text : Array Char) (tried : Array Bool)
    (trials : Trials) : Prop where
  size : tried.size = states.size * (text.size + 1)
  silent : ∀ trial, Inside states text trial → Marked text tried trial →
    states.getD trial.1 .accept ≠ .accept
  leads : ∀ trial next, Inside states text trial → Marked text tried trial →
    Step states text trial next → Marked text tried next ∨ ∃ other ∈ trials, Alike other next

namespace Explored

private theorem tail (h : Explored states text tried (trial :: trials))
    (marked : Marked text tried trial) :
    Explored states text tried trials := by
  refine ⟨h.size, h.silent, fun first next hinside hmarked hstep => ?_⟩
  rcases h.leads first next hinside hmarked hstep with hnext | ⟨other, hother, halike⟩
  · exact Or.inl hnext
  · rcases List.mem_cons.1 hother with rfl | hlater
    · refine Or.inl ?_
      rwa [Marked, ← halike.mark_eq]
    · exact Or.inr ⟨other, hlater, halike⟩

private theorem expand (h : Explored states text tried (trial :: trials))
    (inside : Inside states text trial)
    (hstate : states.getD trial.1 .accept ≠ .accept) :
    Explored states text (tried.set! (mark text trial) true)
      (nexts states text trial ++ trials) := by
  refine ⟨?_, fun first hinside hmarked => ?_, fun first next hinside hmarked hstep => ?_⟩
  · rw [Array.set!_eq_setIfInBounds, Array.size_setIfInBounds, h.size]
  · rcases marked_set.1 hmarked with hsame | hold
    · rw [← (inside.alike_of_mark_eq hinside hsame).1]
      exact hstate
    · exact h.silent first hinside hold
  · rcases marked_set.1 hmarked with hsame | hold
    · -- The steps of the trial itself are taken up.
      have halike := inside.alike_of_mark_eq hinside hsame
      obtain ⟨other, hother, hnext⟩ := hstep.alike ⟨halike.1.symm, halike.2.symm⟩
      exact Or.inr ⟨other, List.mem_append_left _ (mem_nexts_iff.2 hother), hnext.1.symm,
        hnext.2.symm⟩
    · rcases h.leads first next hinside hold hstep with hnext | ⟨other, hother, halike⟩
      · exact Or.inl (marked_set.2 (Or.inr hnext))
      · rcases List.mem_cons.1 hother with rfl | hlater
        · exact Or.inl (marked_set.2 (Or.inl halike.mark_eq))
        · exact Or.inr ⟨other, List.mem_append_right _ hlater, halike⟩

private theorem inside_and_marked_of_reaches {last : Trial} (contained : Contained states)
    (h : Explored states text tried []) (inside : Inside states text trial)
    (marked : Marked text tried trial)
    (reaches : Relation.ReflTransGen (Step states text) trial last) :
    Inside states text last ∧ Marked text tried last := by
  induction reaches with
  | refl => exact ⟨inside, marked⟩
  | tail _ hstep ih =>
    obtain ⟨hinside, hmarked⟩ := ih
    refine ⟨hinside.step contained hstep, ?_⟩
    simpa using h.leads _ _ hinside hmarked hstep

private theorem not_accepts (contained : Contained states) (h : Explored states text tried [])
    (inside : Inside states text trial) (marked : Marked text tried trial) :
    ¬ Accepts states text trial slots := by
  rintro ⟨state, place, hpath, haccept⟩
  obtain ⟨hinside, hmarked⟩ := inside_and_marked_of_reaches contained h inside marked hpath
  exact h.silent _ hinside hmarked haccept

end Explored

/-! ### Runs and searches -/

private theorem length_nexts_le : (nexts states text trial).length ≤ 2 := by
  have hite : ∀ {condition : Prop} [Decidable condition] (next : Trial),
      (if condition then [next] else []).length ≤ 2 := by
    intro condition _ next
    split <;> simp
  unfold nexts
  dsimp only
  split
  · simp
  · simp
  · simp
  · exact hite _
  · exact hite _

private theorem explored_of_run (contained : Contained states)
    (h : run states text fuel tried trials = (none, after))
    (enough : trials.length + 2 * tried.count false ≤ fuel)
    (inside : ∀ trial ∈ trials, Inside states text trial)
    (explored : Explored states text tried trials) :
    Explored states text after [] ∧ (∀ trial, Marked text tried trial → Marked text after trial) ∧
      ∀ trial ∈ trials, Marked text after trial := by
  -- A turn takes a trial away, or marks a place and adds at most two trials.
  induction fuel generalizing tried trials with
  | zero =>
    obtain rfl : trials = [] := List.length_eq_zero_iff.1 (by omega)
    obtain rfl : tried = after := by simpa [run] using h
    exact ⟨explored, fun _ => id, by simp⟩
  | succ fuel ih =>
    cases trials with
    | nil =>
      obtain rfl : tried = after := by simpa [run] using h
      exact ⟨explored, fun _ => id, by simp⟩
    | cons trial trials =>
      obtain ⟨htrial, htrials⟩ := List.forall_mem_cons.1 inside
      rw [List.length_cons] at enough
      cases htried : tried.getD (mark text trial) true with
      | true =>
        rw [run_tried htried] at h
        obtain ⟨hexplored, hkept, hmarked⟩ := ih h (by omega) htrials (explored.tail htried)
        exact ⟨hexplored, hkept, List.forall_mem_cons.2 ⟨hkept trial htried, hmarked⟩⟩
      | false =>
        by_cases hstate : states.getD trial.1 .accept = .accept
        · rw [run_accept htried hstate] at h
          simp at h
        · rw [run_nexts htried hstate] at h
          have hcount := count_set htried
          have hlength : (nexts states text trial).length ≤ 2 := length_nexts_le
          have hnexts : ∀ next ∈ nexts states text trial ++ trials, Inside states text next :=
            List.forall_mem_append.2
              ⟨fun next hnext => htrial.step contained (mem_nexts_iff.1 hnext), htrials⟩
          obtain ⟨hexplored, hkept, hmarked⟩ :=
            ih h (by rw [List.length_append]; omega) hnexts (explored.expand htrial hstate)
          refine ⟨hexplored, fun first hfirst => hkept first (marked_set.2 (Or.inr hfirst)), ?_⟩
          refine List.forall_mem_cons.2
            ⟨hkept trial (marked_set.2 (Or.inl rfl)), fun other hother => ?_⟩
          exact hmarked other (List.mem_append_right _ hother)

/-- A search finds a match at the first of its places from which there is one. -/
theorem searchFrom_cases {machine : Machine} (kept : Slots) {places : List Nat}
    (contained : Contained machine.states) (started : machine.start < machine.states.size)
    (inside : ∀ place ∈ places, place ≤ text.size)
    (explored : Explored machine.states text tried []) :
    (machine.searchFrom kept text places tried = none ∧
        ∀ place ∈ places, ∀ slots,
          ¬ Accepts machine.states text (machine.start, place, kept) slots) ∨
      ∃ slots before place later, machine.searchFrom kept text places tried = some slots ∧
        places = before ++ place :: later ∧
          Accepts machine.states text (machine.start, place, kept) slots ∧
        ∀ earlier ∈ before, ∀ slots,
          ¬ Accepts machine.states text (machine.start, earlier, kept) slots := by
  induction places generalizing tried with
  | nil => exact Or.inl ⟨rfl, by simp⟩
  | cons place places ih =>
    obtain ⟨hplace, hplaces⟩ := List.forall_mem_cons.1 inside
    have htrial : Inside machine.states text (machine.start, place, kept) := ⟨started, hplace⟩
    cases hrun : run machine.states text (3 * (tried.size + 1)) tried
      [(machine.start, place, kept)] with
    | mk found after =>
      cases found with
      | some slots =>
        obtain ⟨trial, htrial, haccepts⟩ := exists_accepts_of_run hrun
        obtain rfl := List.mem_singleton.1 htrial
        refine Or.inr ⟨slots, [], place, places, ?_, rfl, haccepts, by simp⟩
        rw [searchFrom, hrun]
      | none =>
        have hsearch : machine.searchFrom kept text (place :: places) tried
            = machine.searchFrom kept text places after := by rw [searchFrom, hrun]
        have hcount : tried.count false ≤ tried.size := Array.count_le_size
        obtain ⟨hexplored, -, hmarked⟩ := explored_of_run contained hrun
          (by rw [List.length_singleton]; omega) (List.forall_mem_singleton.2 htrial)
          ⟨explored.size, explored.silent, fun first next hinside hfirst hstep =>
            Or.inl (by simpa using explored.leads first next hinside hfirst hstep)⟩
        have hnone : ∀ slots, ¬ Accepts machine.states text (machine.start, place, kept) slots :=
          fun slots => hexplored.not_accepts contained htrial (hmarked _ List.mem_cons_self)
        rw [hsearch]
        rcases ih hplaces hexplored with
          ⟨hfound, hlater⟩ | ⟨slots, before, first, later, hfound, rfl, haccepts, hearlier⟩
        · exact Or.inl ⟨hfound, List.forall_mem_cons.2 ⟨hnone, hlater⟩⟩
        · exact Or.inr ⟨slots, place :: before, first, later, hfound, rfl, haccepts,
            List.forall_mem_cons.2 ⟨hnone, hearlier⟩⟩

theorem explored_replicate (states : States) (text : Array Char) :
    Explored states text (Array.replicate (states.size * (text.size + 1)) false) [] := by
  have hnone : ∀ trial, Inside states text trial →
      ¬ Marked text (Array.replicate (states.size * (text.size + 1)) false) trial := by
    intro trial hinside
    simp [Marked, Array.getD_eq_getD_getElem?, hinside.mark_lt]
  exact ⟨Array.size_replicate, fun trial hinside hmarked => absurd hmarked (hnone trial hinside),
    fun trial next hinside hmarked => absurd hmarked (hnone trial hinside)⟩

/-! ### The machine of an expression -/

section

variable (regex : Regex)

def inner : Nat × States := States.add regex.normal 1 #[.accept, .keep 1 0]

private theorem added_inner : States.Added (fun _ => True) 1 #[.accept, .keep 1 0] (inner regex) :=
  States.added_any regex.normal 1 _

private theorem two_le_size_inner : 2 ≤ (inner regex).2.size := (added_inner regex).size

private theorem ofRegex_eq : ofRegex regex
    = ⟨Array.push (inner regex).2 (.keep 0 (inner regex).1), (inner regex).2.size,
      regex.groups + 1⟩ := rfl

theorem states_inner {k : Nat} (h : k < (inner regex).2.size) :
    (ofRegex regex).states[k]? = (inner regex).2[k]? := by
  rw [ofRegex_eq, Array.getElem?_push, if_neg (Nat.ne_of_lt h)]

theorem state_start :
    (ofRegex regex).states.getD (ofRegex regex).start .accept = .keep 0 (inner regex).1 := by
  rw [ofRegex_eq, Array.getD_eq_getD_getElem?, Array.getElem?_push, if_pos rfl, Option.getD_some]

theorem state_close : (ofRegex regex).states.getD 1 .accept = .keep 1 0 := by
  have hsize := two_le_size_inner regex
  rw [Array.getD_eq_getD_getElem?, states_inner regex (by omega),
    (added_inner regex).same 1 (by decide)]
  rfl

theorem state_accept : (ofRegex regex).states.getD 0 .accept = .accept := by
  have hsize := two_le_size_inner regex
  rw [Array.getD_eq_getD_getElem?, states_inner regex (by omega),
    (added_inner regex).same 0 (by decide)]
  rfl

theorem start_lt : (ofRegex regex).start < (ofRegex regex).states.size := by
  rw [ofRegex_eq, Array.size_push]
  exact Nat.lt_succ_self _

/-- The machine of an expression keeps to its states. -/
theorem contained_ofRegex : Contained (ofRegex regex).states := by
  have hsize := two_le_size_inner regex
  have hstates : (ofRegex regex).states.size = (inner regex).2.size + 1 := by
    rw [ofRegex_eq, Array.size_push]
  have hreaches : ∀ target, States.Reaches 1 #[.accept, .keep 1 0] (inner regex).2 target →
      target < (ofRegex regex).states.size := by
    rintro target (rfl | ⟨-, hhigh⟩) <;> omega
  intro state
  rcases Nat.lt_trichotomy state (inner regex).2.size with hbefore | rfl | hafter
  · match state, hbefore with
    | 0, _ => exact Or.inl (state_accept regex)
    | 1, _ =>
      rw [state_close]
      exact Or.inr ⟨trivial, by omega⟩
    | state + 2, hbefore =>
      have hadded := (added_inner regex).leads (state + 2) _ (Nat.le_add_left _ _)
        (Array.getElem?_eq_getElem hbefore)
      rw [Array.getD_eq_getD_getElem?, states_inner regex hbefore,
        Array.getElem?_eq_getElem hbefore, Option.getD_some]
      exact Or.inr (hadded.mono hreaches)
  · have hstart := state_start regex
    rw [ofRegex_eq] at hstart ⊢
    rw [hstart]
    exact Or.inr ⟨trivial, hreaches _ (added_inner regex).entry⟩
  · rw [Array.getD_eq_getD_getElem?, Array.getElem?_eq_none (by omega)]
    exact Or.inl rfl

end

end GrammarBrew.Machine
