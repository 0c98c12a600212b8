import GrammarBrew.Proofs.Regex.Complete
import GrammarBrew.Proofs.Regex.Meaning

/-!
The machine of an expression finds what the expression matches. The states of an expression lead on
from a place to just those places up to which the expression matches. Where they lead round in a
circle each round takes steps of its own, so that the number of steps bounds the rounds.
-/

set_option autoImplicit false
set_option relaxedAutoImplicit false

namespace GrammarBrew.Machine

def AcceptsIn (states : States) (text : Array Char) : Nat → Nat → Nat → Prop
  | 0 => fun state _ => states.getD state .accept = .accept
  | count + 1 => fun state place =>
    match states.getD state .accept with
    | .accept => False
    | .fork first second =>
      AcceptsIn states text count first place ∨ AcceptsIn states text count second place
    | .keep _ next => AcceptsIn states text count next place
    | .look condition next => condition.HoldsAt text place ∧ AcceptsIn states text count next place
    | .read runs next =>
      (∃ c, text[place]? = some c ∧ Text.inRuns runs c.toNat = true) ∧
        AcceptsIn states text count next (place + 1)

/-- One state at a place leads to another one at just those places that a relation goes to. The way
is not longer than what is left of it. -/
structure Connects (states : States) (text : Array Char) (entry exit : Nat)
    (goes : Nat → Nat → Prop) : Prop where
  complete : ∀ ⦃place last count : Nat⦄, goes place last → AcceptsIn states text count exit last →
    ∃ more, AcceptsIn states text more entry place
  sound : ∀ ⦃place count : Nat⦄, AcceptsIn states text count entry place →
    ∃ last, goes place last ∧ ∃ fewer ≤ count, AcceptsIn states text fewer exit last

def Holding (before added states : States) : Prop :=
  ∀ k, before.size ≤ k → k < added.size → states[k]? = added[k]?

section

variable {states : States} {text : Array Char}
  {state entry middle exit first second place count : Nat}
  {goes more : Nat → Nat → Prop}

/-! ### One state -/

private theorem acceptsIn_of_accept (h : states.getD state .accept = .accept) :
    AcceptsIn states text count state place ↔ count = 0 := by
  cases count with
  | zero => simp [AcceptsIn, h]
  | succ count => simp [AcceptsIn, h]

private theorem acceptsIn_of_fork (h : states.getD state .accept = .fork first second) :
    AcceptsIn states text count state place ↔ ∃ fewer, count = fewer + 1 ∧
      (AcceptsIn states text fewer first place ∨ AcceptsIn states text fewer second place) := by
  cases count with
  | zero => simp [AcceptsIn, h]
  | succ count => simp [AcceptsIn, h]

private theorem acceptsIn_of_keep {slot : Nat} (h : states.getD state .accept = .keep slot exit) :
    AcceptsIn states text count state place ↔ ∃ fewer, count = fewer + 1 ∧
      AcceptsIn states text fewer exit place := by
  cases count with
  | zero => simp [AcceptsIn, h]
  | succ count => simp [AcceptsIn, h]

private theorem acceptsIn_of_look {condition : Look}
    (h : states.getD state .accept = .look condition exit) :
    AcceptsIn states text count state place ↔ ∃ fewer, count = fewer + 1 ∧
      condition.HoldsAt text place ∧ AcceptsIn states text fewer exit place := by
  cases count with
  | zero => simp [AcceptsIn, h]
  | succ count => simp [AcceptsIn, h]

private theorem acceptsIn_of_read {runs : List (Nat × Nat)}
    (h : states.getD state .accept = .read runs exit) :
    AcceptsIn states text count state place ↔ ∃ fewer, count = fewer + 1 ∧
      (∃ c, text[place]? = some c ∧ Text.inRuns runs c.toNat = true) ∧
        AcceptsIn states text fewer exit (place + 1) := by
  cases count with
  | zero => simp [AcceptsIn, h]
  | succ count => simp [AcceptsIn, h]

private theorem acceptsIn_of_round {greedy : Bool}
    (h : states.getD state .accept = States.round greedy first second) :
    AcceptsIn states text count state place ↔ ∃ fewer, count = fewer + 1 ∧
      (AcceptsIn states text fewer first place ∨ AcceptsIn states text fewer second place) := by
  cases greedy with
  | true => exact acceptsIn_of_fork h
  | false =>
    simp only [acceptsIn_of_fork h]
    exact exists_congr fun fewer => and_congr_right fun _ => or_comm

namespace Connects

private theorem congr (h : Connects states text entry exit goes)
    (same : ∀ place last, goes place last ↔ more place last) :
    Connects states text entry exit more := by
  obtain rfl : goes = more := funext fun place => funext fun last => propext (same place last)
  exact h

private theorem stay : Connects states text exit exit fun place last => last = place := by
  refine ⟨fun place last count hlast haccepts => ⟨count, hlast ▸ haccepts⟩,
    fun place count haccepts => ?_⟩
  exact ⟨place, rfl, count, Nat.le_refl _, haccepts⟩

private theorem trans (h : Connects states text entry middle goes)
    (h' : Connects states text middle exit more) :
    Connects states text entry exit fun place last => ∃ between, goes place between ∧
      more between last := by
  refine ⟨?_, fun place count haccepts => ?_⟩
  · rintro place last count ⟨between, hgoes, hmore⟩ haccepts
    obtain ⟨later, hlater⟩ := h'.complete hmore haccepts
    exact h.complete hgoes hlater
  · obtain ⟨between, hgoes, later, hle, hlater⟩ := h.sound haccepts
    obtain ⟨last, hmore, fewer, hfewer, hexit⟩ := h'.sound hlater
    exact ⟨last, ⟨between, hgoes, hmore⟩, fewer, Nat.le_trans hfewer hle, hexit⟩

private theorem ofStep (h : ∀ place count, AcceptsIn states text count entry place ↔
    ∃ fewer, count = fewer + 1 ∧ ∃ last, goes place last ∧ AcceptsIn states text fewer exit last) :
    Connects states text entry exit goes := by
  refine ⟨fun place last count hgoes haccepts => ?_, fun place count haccepts => ?_⟩
  · exact ⟨count + 1, (h _ _).2 ⟨count, rfl, last, hgoes, haccepts⟩⟩
  · obtain ⟨fewer, rfl, last, hgoes, haccepts⟩ := (h _ _).1 haccepts
    exact ⟨last, hgoes, fewer, Nat.le_succ fewer, haccepts⟩

private theorem ofKeep {slot : Nat} (h : states.getD entry .accept = .keep slot exit) :
    Connects states text entry exit fun place last => last = place :=
  ofStep fun place count => by simp [acceptsIn_of_keep h]

private theorem ofLook {condition : Look} (h : states.getD entry .accept = .look condition exit) :
    Connects states text entry exit ((Normal.look condition).Matches text) :=
  ofStep fun place count => by simp [acceptsIn_of_look h, Normal.Matches, and_assoc]

private theorem ofRead {runs : List (Nat × Nat)} (h : states.getD entry .accept = .read runs exit) :
    Connects states text entry exit ((Normal.set runs).Matches text) :=
  ofStep fun place count => by simp [acceptsIn_of_read h, Normal.Matches, and_assoc]

private theorem either
    (h : ∀ place count, AcceptsIn states text count entry place ↔ ∃ fewer, count = fewer + 1 ∧
      (AcceptsIn states text fewer first place ∨ AcceptsIn states text fewer second place))
    (hfirst : Connects states text first exit goes)
    (hsecond : Connects states text second exit more) :
    Connects states text entry exit fun place last => goes place last ∨ more place last := by
  refine ⟨?_, fun place count haccepts => ?_⟩
  · rintro place last count (hgoes | hmore) haccepts
    · obtain ⟨later, hlater⟩ := hfirst.complete hgoes haccepts
      exact ⟨later + 1, (h _ _).2 ⟨later, rfl, Or.inl hlater⟩⟩
    · obtain ⟨later, hlater⟩ := hsecond.complete hmore haccepts
      exact ⟨later + 1, (h _ _).2 ⟨later, rfl, Or.inr hlater⟩⟩
  · obtain ⟨later, rfl, hlater | hlater⟩ := (h _ _).1 haccepts
    · obtain ⟨last, hgoes, fewer, hfewer, hexit⟩ := hfirst.sound hlater
      exact ⟨last, Or.inl hgoes, fewer, Nat.le_succ_of_le hfewer, hexit⟩
    · obtain ⟨last, hmore, fewer, hfewer, hexit⟩ := hsecond.sound hlater
      exact ⟨last, Or.inr hmore, fewer, Nat.le_succ_of_le hfewer, hexit⟩

private theorem loop
    (h : ∀ place count, AcceptsIn states text count state place ↔ ∃ fewer, count = fewer + 1 ∧
      (AcceptsIn states text fewer entry place ∨ AcceptsIn states text fewer exit place))
    (hround : Connects states text entry state goes) :
    Connects states text state exit (Rounds goes 0 none) := by
  refine ⟨?_, fun place count haccepts => ?_⟩
  · rintro place last count ⟨rounds, -, -, htimes⟩ haccepts
    induction rounds generalizing place with
    | zero =>
      obtain rfl : last = place := htimes
      exact ⟨count + 1, (h _ _).2 ⟨count, rfl, Or.inr haccepts⟩⟩
    | succ rounds ih =>
      obtain ⟨between, hgoes, hrest⟩ := htimes
      obtain ⟨later, hlater⟩ := ih hrest
      obtain ⟨more, hmore⟩ := hround.complete hgoes hlater
      exact ⟨more + 1, (h _ _).2 ⟨more, rfl, Or.inl hmore⟩⟩
  · induction count using Nat.strongRecOn generalizing place with
    | ind count ih =>
      obtain ⟨later, rfl, hlater | hlater⟩ := (h _ _).1 haccepts
      · obtain ⟨between, hgoes, fewer, hfewer, hagain⟩ := hround.sound hlater
        obtain ⟨last, ⟨rounds, -, -, htimes⟩, fewest, hfewest, hexit⟩ :=
          ih fewer (Nat.lt_succ_of_le hfewer) between hagain
        exact ⟨last, ⟨rounds + 1, Nat.zero_le _, by simp, between, hgoes, htimes⟩, fewest,
          Nat.le_trans hfewest (Nat.le_succ_of_le hfewer), hexit⟩
      · exact ⟨place, ⟨0, Nat.le_refl 0, by simp, rfl⟩, later, Nat.le_succ later, hlater⟩

end Connects

end

/-! ### The states of an expression -/

structure Kept (before after : States) : Prop where
  size : before.size ≤ after.size
  same : ∀ k < before.size, after[k]? = before[k]?

section

variable {text : Array Char} {states before early late : States} {next exit : Nat}
  {goes : Nat → Nat → Prop}

private theorem Kept.refl : Kept before before := ⟨Nat.le_refl _, fun _ _ => rfl⟩

private theorem Kept.trans (h : Kept before early) (h' : Kept early late) : Kept before late :=
  ⟨Nat.le_trans h.size h'.size, fun k hk =>
    (h'.same k (Nat.lt_of_lt_of_le hk h.size)).trans (h.same k hk)⟩

private theorem kept_push (before : States) (state : MachineState) :
    Kept before (before.push state).2 := by
  refine ⟨?_, fun k hk => ?_⟩
  · simp [States.push]
  · rw [States.push, Array.getElem?_push, if_neg (Nat.ne_of_lt hk)]

private theorem kept_add (normal : Normal) (next : Nat) (before : States) :
    Kept before (States.add normal next before).2 := by
  have hadded := States.added_any normal next before
  exact ⟨hadded.size, hadded.same⟩

private theorem Holding.earlier (h : Holding before late states) (hkept : Kept early late) :
    Holding before early states :=
  fun k hlow hhigh => (h k hlow (Nat.lt_of_lt_of_le hhigh hkept.size)).trans (hkept.same k hhigh)

private theorem Holding.later (h : Holding before late states) (hkept : Kept before early) :
    Holding early late states :=
  fun k hlow hhigh => h k (Nat.le_trans hkept.size hlow) hhigh

private theorem Holding.last {state : MachineState} (h : Holding before (early.push state).2 states)
    (hkept : Kept before early) : states.getD early.size .accept = state := by
  rw [Array.getD_eq_getD_getElem?, h early.size hkept.size (by simp [States.push])]
  simp [States.push]

private theorem connects_addText (name : Text) (next : Nat) (before : States)
    (holding : Holding before (States.addText next before name).2 states) :
    Connects states text (States.addText next before name).1 next
      ((Normal.literal name.reverse).Matches text) := by
  induction name generalizing next before with
  | nil =>
    refine Connects.stay.congr fun place last => ?_
    simp [Normal.Matches]
  | cons c name ih =>
    have hmore : Kept (before.push (.read [(c.toNat, c.toNat)] next)).2
        (States.addText next before (c :: name)).2 := by
      have hliteral := kept_add (.literal name.reverse) before.size
        (before.push (.read [(c.toNat, c.toNat)] next)).2
      rwa [States.add, List.reverse_reverse] at hliteral
    have hread : Connects states text before.size next
        ((Normal.set [(c.toNat, c.toNat)]).Matches text) :=
      .ofRead ((holding.earlier hmore).last Kept.refl)
    refine ((ih _ _ (holding.later (kept_push before _))).trans hread).congr fun place last => ?_
    rw [List.reverse_cons, Normal.matches_literal_append]
    simp only [Normal.matches_character]

section

variable {add : Nat → States → Nat × States} (hadd : ∀ next before, Kept before (add next before).2)
include hadd

private theorem kept_copies (count next : Nat) (before : States) :
    Kept before (States.copies add count next before).2 := by
  induction count generalizing next before with
  | zero => exact Kept.refl
  | succ count ih => exact (hadd next before).trans (ih _ _)

private theorem kept_optionals (greedy : Bool) (exit count next : Nat) (before : States) :
    Kept before (States.optionals add greedy exit count next before).2 := by
  induction count generalizing next before with
  | zero => exact Kept.refl
  | succ count ih => exact (hadd next before).trans ((kept_push _ _).trans (ih _ _))

variable
  (hpart : ∀ next before, Holding before (add next before).2 states →
    Connects states text (add next before).1 next goes)
include hpart

private theorem connects_copies (count next : Nat) (before : States)
    (holding : Holding before (States.copies add count next before).2 states) :
    Connects states text (States.copies add count next before).1 next (Times goes count) := by
  induction count generalizing next before with
  | zero => exact Connects.stay
  | succ count ih =>
    have hfirst := hpart next before (holding.earlier (kept_copies hadd count _ _))
    refine ((ih _ _ (holding.later (hadd next before))).trans hfirst).congr fun place last => ?_
    rw [times_add]
    simp only [times_one]

private theorem connects_optionals {done : Nat} (greedy : Bool) (count : Nat) (next : Nat)
    (before : States)
    (holding : Holding before (States.optionals add greedy exit count next before).2 states)
    (hdone : Connects states text next exit (Rounds goes 0 (some done))) :
    Connects states text (States.optionals add greedy exit count next before).1 exit
      (Rounds goes 0 (some (done + count))) := by
  induction count generalizing next before done with
  | zero => exact hdone
  | succ count ih =>
    have hfork := (kept_push (add next before).2 (States.round greedy (add next before).1 exit))
    have hmore := kept_optionals hadd greedy exit count (add next before).2.size
      ((add next before).2.push (States.round greedy (add next before).1 exit)).2
    have hbody := hpart next before (holding.earlier (hfork.trans hmore))
    have hround := Connects.either
      (fun place count => acceptsIn_of_round ((holding.earlier hmore).last (hadd next before)))
      (hbody.trans hdone) Connects.stay
    have hbound : done + (count + 1) = (1 + done) + count := by omega
    rw [hbound]
    refine ih _ _ (holding.later ((hadd next before).trans hfork))
      (hround.congr fun place last => ?_)
    exact round_or_none_iff

end

private def looped (add : Nat → States → Nat × States) (greedy : Bool) (next : Nat)
    (before : States) : Nat × States :=
  let body := add before.size (before.push .accept).2
  (body.1, body.2.set! before.size (States.round greedy body.1 next))

section

variable {add : Nat → States → Nat × States} (hadd : ∀ next before, Kept before (add next before).2)
include hadd

private theorem kept_looped (greedy : Bool) (next : Nat) (before : States) :
    Kept before (looped add greedy next before).2 := by
  have hbody := (kept_push before .accept).trans (hadd before.size (before.push .accept).2)
  refine ⟨?_, fun k hk => ?_⟩
  · simpa [looped] using hbody.size
  · rw [looped, Array.set!_eq_setIfInBounds, Array.getElem?_setIfInBounds_ne (Nat.ne_of_gt hk),
      hbody.same k hk]

private theorem connects_looped (greedy : Bool) (next : Nat) (before : States)
    (hpart : ∀ next before, Holding before (add next before).2 states →
      Connects states text (add next before).1 next goes)
    (holding : Holding before (looped add greedy next before).2 states) :
    Connects states text (looped add greedy next before).1 before.size goes ∧
      Connects states text before.size next (Rounds goes 0 none) := by
  have hpush : (before.push .accept).2.size = before.size + 1 := Array.size_push _
  have hsize := (hadd before.size (before.push .accept).2).size
  have hbody : Connects states text (looped add greedy next before).1 before.size goes := by
    refine hpart _ _ fun k hlow hhigh => ?_
    rw [holding k (by omega) (by simpa [looped] using hhigh), looped, Array.set!_eq_setIfInBounds,
      Array.getElem?_setIfInBounds_ne (by omega)]
  have hfork : states.getD before.size .accept
      = States.round greedy (looped add greedy next before).1 next := by
    have hin : before.size < (looped add greedy next before).2.size := by
      simp [looped]
      omega
    rw [Array.getD_eq_getD_getElem?, holding _ (Nat.le_refl _) hin, looped,
      Array.set!_eq_setIfInBounds, Array.getElem?_setIfInBounds_self_of_lt (by omega),
      Option.getD_some]
  exact ⟨hbody, .loop (fun place count => acceptsIn_of_round hfork) hbody⟩

end

section

variable {body : Normal} {least : Nat}
  (hpart : ∀ next before, Holding before (States.add body next before).2 states →
  Connects states text (States.add body next before).1 next (body.Matches text))
include hpart

private theorem connects_repUpTo {most : Nat} (hle : least ≤ most) (greedy : Bool) (next : Nat)
    (before : States)
    (holding : Holding before (States.add (.rep body least (some most) greedy) next before).2
      states) :
    Connects states text (States.add (.rep body least (some most) greedy) next before).1 next
      ((Normal.rep body least (some most) greedy).Matches text) := by
  have hcopies := kept_copies (kept_add body) least
    (States.optionals (States.add body) greedy next (most - least) next before).1
    (States.optionals (States.add body) greedy next (most - least) next before).2
  have hbefore := kept_optionals (kept_add body) greedy next (most - least) next before
  have hnone : Connects states text next next (Rounds (body.Matches text) 0 (some 0)) :=
    Connects.stay.congr fun place last => rounds_zero.symm
  have hoptional := connects_optionals (kept_add body) hpart greedy (most - least) next before
    (holding.earlier hcopies) hnone
  have hmost : least + (0 + (most - least)) = most := by omega
  refine ((connects_copies (kept_add body) hpart least _ _ (holding.later hbefore)).trans
    hoptional).congr
    fun place last => ?_
  rw [times_rounds_iff, Option.map_some, hmost]
  exact Iff.rfl

private theorem connects_repAny (greedy : Bool) (next : Nat) (before : States)
    (holding : Holding before (States.add (.rep body 0 none greedy) next before).2 states) :
    Connects states text (States.add (.rep body 0 none greedy) next before).1 next
      ((Normal.rep body 0 none greedy).Matches text) := by
  have hloop := kept_looped (kept_add body) greedy next before
  have hadd : States.add (.rep body 0 none greedy) next before
      = if body.minLength.getD 0 = 0 then
          (looped (States.add body) greedy next before).2.push
            (States.round greedy (looped (States.add body) greedy next before).1 next)
        else (before.size, (looped (States.add body) greedy next before).2) := rfl
  rw [hadd] at holding ⊢
  split
  next hblank =>
    rw [if_pos hblank] at holding
    obtain ⟨hround, hagain⟩ := connects_looped (kept_add body) greedy next before hpart
      (holding.earlier (kept_push _ _))
    refine (Connects.either (fun place count => acceptsIn_of_round (holding.last hloop))
      (hround.trans hagain)
      Connects.stay).congr fun place last => ?_
    exact round_or_none_iff
  next hblank =>
    rw [if_neg hblank] at holding
    exact (connects_looped (kept_add body) greedy next before hpart holding).2

private theorem connects_repFrom (count : Nat) (greedy : Bool) (next : Nat) (before : States)
    (holding : Holding before (States.add (.rep body (count + 1) none greedy) next before).2
      states) :
    Connects states text (States.add (.rep body (count + 1) none greedy) next before).1 next
      ((Normal.rep body (count + 1) none greedy).Matches text) := by
  have hloop := kept_looped (kept_add body) greedy next before
  have hcopies := kept_copies (kept_add body) count (looped (States.add body) greedy next before).1
    (looped (States.add body) greedy next before).2
  obtain ⟨hround, hagain⟩ :=
    connects_looped (kept_add body) greedy next before hpart (holding.earlier hcopies)
  refine ((connects_copies (kept_add body) hpart count _ _ (holding.later hloop)).trans
    (hround.trans hagain)).congr fun place last => ?_
  exact times_round_rounds_iff

end

private theorem connects_add {normal : Normal} (orderly : normal.Orderly) (next : Nat)
    (before : States)
    (holding : Holding before (States.add normal next before).2 states) :
    Connects states text (States.add normal next before).1 next (normal.Matches text) := by
  induction normal generalizing next before with
  | empty => exact Connects.stay
  | literal name =>
    have hname : Connects states text _ next ((Normal.literal name.reverse.reverse).Matches text) :=
      connects_addText name.reverse next before holding
    rwa [List.reverse_reverse] at hname
  | set runs => exact .ofRead (holding.last Kept.refl)
  | look condition => exact .ofLook (holding.last Kept.refl)
  | seq first second hfirst hsecond =>
    have hmore := kept_add first (States.add second next before).1 (States.add second next before).2
    exact (hfirst orderly.1 _ _ (holding.later (kept_add second next before))).trans
      (hsecond orderly.2 _ _ (holding.earlier hmore))
  | alt first second hfirst hsecond =>
    have hone := kept_add first next before
    have hother := kept_add second next (States.add first next before).2
    have hfork := kept_push (States.add second next (States.add first next before).2).2
      (.fork (States.add first next before).1
        (States.add second next (States.add first next before).2).1)
    exact .either (fun place count => acceptsIn_of_fork (holding.last (hone.trans hother)))
      (hfirst orderly.1 _ _ (holding.earlier (hother.trans hfork)))
      (hsecond orderly.2 _ _ ((holding.later hone).earlier hfork))
  | kept number body hbody =>
    -- States are added from the end: what closes the group, its body, what opens it.
    have hclose := kept_push before (.keep (2 * number + 1) next)
    have hinner := kept_add body before.size (before.push (.keep (2 * number + 1) next)).2
    have hopen := kept_push
      (States.add body before.size (before.push (.keep (2 * number + 1) next)).2).2
      (.keep (2 * number)
        (States.add body before.size (before.push (.keep (2 * number + 1) next)).2).1)
    have hcloses : Connects states text before.size next fun place last => last = place :=
      .ofKeep ((holding.earlier (hinner.trans hopen)).last Kept.refl)
    have hmatches := hbody orderly _ _ ((holding.later hclose).earlier hopen)
    refine ((Connects.ofKeep (holding.last (hclose.trans hinner))).trans
      (hmatches.trans hcloses)).congr
      fun place last => ?_
    simp [Normal.Matches]
  | rep body least most greedy hbody =>
    have hpart := hbody orderly.1
    cases most with
    | some most => exact connects_repUpTo hpart (orderly.2 most rfl) greedy next before holding
    | none =>
      cases least with
      | zero => exact connects_repAny hpart greedy next before holding
      | succ count => exact connects_repFrom hpart count greedy next before holding

end

/-! ### What a search finds -/

section

variable {states : States} {text : Array Char} {trial : Trial} {state place : Nat} {slots : Slots}

private theorem exists_acceptsIn (h : Accepts states text trial slots) :
    ∃ count, AcceptsIn states text count trial.1 trial.2.1 := by
  obtain ⟨state, place, hsteps, haccept⟩ := h
  induction hsteps using Relation.ReflTransGen.head_induction_on with
  | refl => exact ⟨0, haccept⟩
  | head hstep _ ih =>
    obtain ⟨count, hcount⟩ := ih
    refine ⟨count + 1, ?_⟩
    cases hstep with
    | first fork => exact (acceptsIn_of_fork fork).2 ⟨count, rfl, Or.inl hcount⟩
    | second fork => exact (acceptsIn_of_fork fork).2 ⟨count, rfl, Or.inr hcount⟩
    | keep keep => exact (acceptsIn_of_keep keep).2 ⟨count, rfl, hcount⟩
    | look look holds => exact (acceptsIn_of_look look).2 ⟨count, rfl, holds, hcount⟩
    | read read reads =>
      refine (acceptsIn_of_read read).2 ⟨count, rfl, ?_, hcount⟩
      simpa [Option.any_eq_true] using reads

private theorem exists_accepts {count : Nat} (h : AcceptsIn states text count state place)
    (slots : Slots) :
    ∃ found, Accepts states text (state, place, slots) found := by
  induction count generalizing state place slots with
  | zero => exact ⟨slots, state, place, .refl, h⟩
  | succ count ih =>
    cases hstate : states.getD state .accept with
    | accept => simpa using (acceptsIn_of_accept hstate).1 h
    | fork first second =>
      obtain ⟨fewer, heq, hnext⟩ := (acceptsIn_of_fork hstate).1 h
      obtain rfl := Nat.succ.inj heq
      rcases hnext with hnext | hnext
      · obtain ⟨found, haccepts⟩ := ih hnext slots
        exact ⟨found, haccepts.step (.first hstate)⟩
      · obtain ⟨found, haccepts⟩ := ih hnext slots
        exact ⟨found, haccepts.step (.second hstate)⟩
    | keep slot next =>
      obtain ⟨fewer, heq, hnext⟩ := (acceptsIn_of_keep hstate).1 h
      obtain rfl := Nat.succ.inj heq
      obtain ⟨found, haccepts⟩ := ih hnext (slots.set! slot (some place))
      exact ⟨found, haccepts.step (.keep hstate)⟩
    | look condition next =>
      obtain ⟨fewer, heq, hholds, hnext⟩ := (acceptsIn_of_look hstate).1 h
      obtain rfl := Nat.succ.inj heq
      obtain ⟨found, haccepts⟩ := ih hnext slots
      exact ⟨found, haccepts.step (.look hstate hholds)⟩
    | read runs next =>
      obtain ⟨fewer, heq, ⟨c, hc, hin⟩, hnext⟩ := (acceptsIn_of_read hstate).1 h
      obtain rfl := Nat.succ.inj heq
      obtain ⟨found, haccepts⟩ := ih hnext slots
      exact ⟨found, haccepts.step (.read hstate (by simp [hc, hin]))⟩

end

variable {regex : Regex}

private theorem exists_accepts_ofRegex_iff (orderly : regex.Orderly) {text : Array Char}
    {place : Nat} (slots : Slots) :
    (∃ found, Accepts (ofRegex regex).states text ((ofRegex regex).start, place, slots) found) ↔
      ∃ last, regex.Matches text place last := by
  have hinner : Connects (ofRegex regex).states text (inner regex).1 1
      (regex.normal.Matches text) :=
    connects_add (Regex.orderly_normal orderly) 1 _ fun k _ hk => states_inner regex hk
  have hwhole := (Connects.ofKeep (state_start regex)).trans hinner
  constructor
  · rintro ⟨found, haccepts⟩
    obtain ⟨count, hcount⟩ := exists_acceptsIn haccepts
    obtain ⟨last, ⟨_, rfl, hmatches⟩, -⟩ := hwhole.sound hcount
    exact ⟨last, (Regex.matches_normal orderly).1 hmatches⟩
  · rintro ⟨last, hmatches⟩
    have hclose : AcceptsIn (ofRegex regex).states text 1 1 last :=
      (acceptsIn_of_keep (state_close regex)).2 ⟨0, rfl, state_accept regex⟩
    obtain ⟨count, hcount⟩ :=
      hwhole.complete ⟨place, rfl, (Regex.matches_normal orderly).2 hmatches⟩ hclose
    exact exists_accepts hcount slots

private theorem isSome_find?_iff (orderly : regex.Orderly) {text : Text} :
    ((ofRegex regex).find? text).isSome = true ↔
      ∃ place ≤ text.length, ∃ last, regex.Matches text.toArray place last := by
  have hsearch := searchFrom_cases (Array.replicate (2 * (ofRegex regex).groups) none)
    (contained_ofRegex regex) (start_lt regex)
    (fun place hplace => Nat.le_of_lt_succ (List.mem_range.1 hplace))
    (explored_replicate _ text.toArray)
  rw [find?, Option.isSome_map]
  constructor
  · intro hfound
    rcases hsearch with ⟨hnone, -⟩ | ⟨slots, before, place, later, hsome, hsplit, haccepts, -⟩
    · rw [hnone] at hfound
      cases hfound
    · have hplace : place ∈ List.range (text.toArray.size + 1) := hsplit ▸ by simp
      exact ⟨place, Nat.le_of_lt_succ (List.mem_range.1 hplace),
        (exists_accepts_ofRegex_iff orderly _).1 ⟨slots, haccepts⟩⟩
  · rintro ⟨place, hplace, hmatches⟩
    rcases hsearch with ⟨-, hnone⟩ | ⟨slots, before, first, later, hsome, -⟩
    · obtain ⟨found, haccepts⟩ := (exists_accepts_ofRegex_iff orderly _).2 hmatches
      exact absurd haccepts (hnone place (List.mem_range.2 (Nat.lt_succ_of_le hplace)) found)
    · rw [hsome]
      rfl

theorem isSome_find?_wholeText_iff {body : Regex} (orderly : body.Orderly) {text : Text} :
    ((ofRegex body.wholeText).find? text).isSome = true
      ↔ body.Matches text.toArray 0 text.length := by
  rw [isSome_find?_iff (Regex.orderly_wholeText orderly)]
  exact Regex.exists_matches_wholeText_iff body

end GrammarBrew.Machine
