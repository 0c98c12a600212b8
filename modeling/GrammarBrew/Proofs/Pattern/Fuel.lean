import GrammarBrew.Proofs.Pattern.Progress

/-!
Reading with more fuel. What a pattern gives does not change if there is more fuel than it took.
-/

set_option autoImplicit false
set_option relaxedAutoImplicit false

namespace GrammarBrew.Pattern

open Read

def Extends {α : Type} (step step' : Read α) : Prop :=
  ∀ ⦃reading : Reading⦄ ⦃a : α⦄ ⦃after : Reading⦄, step reading = .ok (a, after) →
    step' reading = .ok (a, after)

section

variable {α β : Type} {step step' other other' : Read α} {rest rest' : α → Read β}

private theorem extends_refl : Extends step step := fun _ _ _ hrun => hrun

private theorem Extends.bind (h : Extends step step') (hrest : ∀ a, Extends (rest a) (rest' a)) :
    Extends (step >>= rest) (step' >>= rest') := by
  intro reading b after hrun
  obtain ⟨a, between, hstep, hmore⟩ := exists_of_bind_eq_ok hrun
  rw [bind_of_ok (h hstep)]
  exact hrest a hmore

private theorem extends_after (hrest : ∀ a, Extends (rest a) (rest' a)) :
    Extends (step >>= rest) (step >>= rest') :=
  extends_refl.bind hrest

private theorem extends_fail {fault : Fault} : Extends (Read.fail fault) step :=
  fun _ _ _ hrun => nomatch hrun

private theorem extends_ite {condition : Prop} [Decidable condition] (h : Extends step step')
    (hother : Extends other other') :
    Extends (if condition then step else other) (if condition then step' else other') := by
  split
  · exact h
  · exact hother

end

/-! ### Classes -/

def ClassesExtend (fuel : Nat) : Prop :=
  ∀ fuel', fuel ≤ fuel' → Extends (bracketed fuel) (bracketed fuel') ∧
    ∀ pending items, Extends (classBody fuel pending items) (classBody fuel' pending items)

section

variable {fuel fuel' : Nat}

private theorem extends_bracketed_succ (h : ClassesExtend fuel) (hle : fuel ≤ fuel') :
    Extends (bracketed (fuel + 1)) (bracketed (fuel' + 1)) := by
  have hfrom : ∀ negated items, Extends (classFrom fuel negated items)
      (classFrom fuel' negated items) :=
    fun negated items => ((h fuel' hle).2 none items).bind fun _ => extends_refl
  have hstart : ∀ negated, Extends (classStart fuel negated) (classStart fuel' negated) := by
    intro negated
    unfold classStart
    refine extends_after fun _ => extends_after fun _ => extends_after fun _ =>
      extends_ite ?_ (hfrom _ _)
    exact extends_after fun _ => hfrom _ _
  rw [bracketed_succ, bracketed_succ]
  exact extends_after fun _ => extends_after fun c =>
    extends_ite (extends_after fun _ => hstart _) (hstart _)

private theorem extends_classBody_succ (h : ClassesExtend fuel) (hle : fuel ≤ fuel')
    (pending : Option (ClassOp × Class)) (items : Items) :
    Extends (classBody (fuel + 1) pending items) (classBody (fuel' + 1) pending items) := by
  obtain ⟨hbracketed, hbody⟩ := h fuel' hle
  unfold classBody
  refine extends_after fun _ => extends_after fun c => extends_after fun reading =>
    extends_ite ?_ ?_
  · refine extends_after fun _ => ?_
    split
    · exact extends_after fun _ => extends_after fun _ => hbody _ _
    · exact hbracketed.bind fun _ => hbody _ _
  · refine extends_ite extends_refl (extends_after fun _ => extends_ite (hbody _ _) ?_)
    refine extends_after fun _ =>
      extends_ite (hbody _ _) (extends_after fun _ => extends_ite (hbody _ _) ?_)
    exact extends_after fun _ => hbody _ _

end

private theorem classesExtend (fuel : Nat) : ClassesExtend fuel := by
  induction fuel with
  | zero => exact fun _ _ => ⟨extends_fail, fun _ _ => extends_fail⟩
  | succ fuel ih =>
    intro fuel' hle
    obtain ⟨fuel', rfl⟩ : ∃ less, fuel' = less + 1 := ⟨fuel' - 1, by omega⟩
    have hless := Nat.le_of_succ_le_succ hle
    exact ⟨extends_bracketed_succ ih hless, extends_classBody_succ ih hless⟩

/-! ### Parts and branches -/

def BranchesExtend (fuel : Nat) : Prop :=
  ∀ fuel', fuel ≤ fuel' → (∀ earlier, Extends (branches fuel earlier) (branches fuel' earlier)) ∧
    ∀ seen, Extends (parts fuel seen) (parts fuel' seen)

section

variable {fuel fuel' : Nat}

private theorem extends_parts_succ (h : BranchesExtend fuel) (hle : fuel ≤ fuel')
    (seen : List Part) :
    Extends (parts (fuel + 1) seen) (parts (fuel' + 1) seen) := by
  obtain ⟨hbranches, hparts⟩ := h fuel' hle
  have hrepeat : ∀ least most, Extends (repeatLast fuel seen least most)
      (repeatLast fuel' seen least most) := by
    intro least most
    unfold repeatLast
    split
    · exact extends_after fun _ => hparts _
    · exact extends_fail
  unfold parts
  refine extends_after fun _ => extends_after fun c? => ?_
  dsimp only
  split
  · exact extends_refl
  · exact extends_refl
  · exact extends_refl
  · refine extends_after fun _ => extends_after fun begun => ?_
    cases begun with
    | flags flags => exact extends_after fun _ => hparts _
    | group number flags =>
      refine extends_after fun _ => (hbranches _).bind fun body => extends_after fun c => ?_
      exact extends_ite extends_fail (extends_after fun _ => extends_after fun _ => hparts _)
  · exact ((classesExtend fuel) fuel' hle).1.bind fun _ => hparts _
  · exact extends_after fun _ => hrepeat 0 (some 1)
  · exact extends_after fun _ => hrepeat 0 none
  · exact extends_after fun _ => hrepeat 1 none
  · split
    · exact extends_after fun range => extends_after fun _ => hparts _
    · exact extends_fail
  · refine extends_after fun found => ?_
    split
    · exact extends_after fun _ => hparts _
    · exact extends_fail
    · exact hparts _
    · exact hparts _
  · exact extends_after fun _ => extends_after fun _ => hparts _
  · exact extends_after fun _ => extends_after fun _ => hparts _
  · exact extends_after fun _ => extends_after fun _ => hparts _
  · exact extends_after fun _ => extends_after fun _ => hparts _

end

theorem branchesExtend (fuel : Nat) : BranchesExtend fuel := by
  induction fuel with
  | zero => exact fun _ _ => ⟨fun _ => extends_fail, fun _ => extends_fail⟩
  | succ fuel ih =>
    intro fuel' hle
    obtain ⟨fuel', rfl⟩ : ∃ less, fuel' = less + 1 := ⟨fuel' - 1, by omega⟩
    have hless := Nat.le_of_succ_le_succ hle
    refine ⟨fun earlier => ?_, extends_parts_succ ih hless⟩
    unfold branches
    exact ((ih fuel' hless).2 _).bind fun _ => extends_after fun _ =>
      extends_ite ((ih fuel' hless).1 _) extends_refl

end GrammarBrew.Pattern
