import GrammarBrew.Pattern.Reading
import Mathlib.Data.List.Basic
import Mathlib.Tactic.SplitIfs

/-!
Steps of reading one after the other. What a sequence of steps gives comes from what each gives, and
how far it goes from how far each goes.
-/

set_option autoImplicit false
set_option relaxedAutoImplicit false

namespace GrammarBrew.Pattern

open Read

section

variable {α β : Type} {step : Read α} {rest : α → Read β}

theorem bind_of_ok {reading after : Reading} {a : α} (h : step reading = .ok (a, after)) :
    (step >>= rest) reading = rest a after := by
  change Except.bind (step reading) (fun result => rest result.1 result.2) = _
  rw [h]
  rfl

theorem bind_of_error {reading : Reading} {fault : Fault} (h : step reading = .error fault) :
    (step >>= rest) reading = .error fault := by
  change Except.bind (step reading) (fun result => rest result.1 result.2) = _
  rw [h]
  rfl

theorem exists_of_bind_eq_ok {reading after : Reading} {b : β}
    (h : (step >>= rest) reading = .ok (b, after)) :
    ∃ a between, step reading = .ok (a, between) ∧ rest a between = .ok (b, after) := by
  change Except.bind (step reading) (fun result => rest result.1 result.2) = _ at h
  cases hstep : step reading with
  | error fault =>
    rw [hstep] at h
    cases h
  | ok result =>
    rw [hstep] at h
    exact ⟨result.1, result.2, rfl, h⟩

end

/-! ### What a step of reading gives -/

/-- Whatever a step of reading gives is of one kind. -/
def Yields {α : Type} (step : Read α) (good : α → Prop) : Prop :=
  ∀ ⦃reading : Reading⦄ ⦃a : α⦄ ⦃after : Reading⦄, step reading = .ok (a, after) → good a

section

variable {α β : Type} {good : α → Prop} {fine : β → Prop} {step : Read α} {rest : α → Read β}

theorem Yields.bind (h : Yields step good) (hrest : ∀ a, good a → Yields (rest a) fine) :
    Yields (step >>= rest) fine := by
  intro reading b after hrun
  obtain ⟨a, between, hstep, hmore⟩ := exists_of_bind_eq_ok hrun
  exact hrest a (h hstep) hmore

theorem Yields.after (hrest : ∀ a, Yields (rest a) fine) : Yields (step >>= rest) fine := by
  have hany : Yields step fun _ => True := fun _ _ _ _ => trivial
  exact hany.bind fun a _ => hrest a

theorem yields_pure {a : α} (h : good a) : Yields (pure a) good := by
  intro reading b after hrun
  obtain rfl := congrArg Prod.fst (Except.ok.inj hrun)
  exact h

theorem yields_fail {fault : Fault} : Yields (Read.fail fault) good :=
  fun _ _ _ hrun => nomatch hrun

theorem yields_never {fault : Fault} : Yields (Read.fail fault : Read α) fun _ => False :=
  yields_fail

theorem yields_ite {condition : Prop} [Decidable condition] {other : Read α} (h : Yields step good)
    (hother : Yields other good) : Yields (if condition then step else other) good := by
  split
  · exact h
  · exact hother

theorem yields_either {condition : Prop} [Decidable condition] {other : Read α}
    (hrest : ∀ a, Yields (rest a) fine) :
      Yields (if condition then step >>= rest else other >>= rest) fine :=
  yields_ite (.after hrest) (.after hrest)

theorem yields_optional {condition : Prop} [Decidable condition] {step : Read Unit}
    {rest : Unit → Read β}
    (hrest : ∀ a, Yields (rest a) fine) :
      Yields (if condition then step >>= rest else rest ()) fine :=
  yields_ite (.after hrest) (hrest ())

theorem yields_unless {condition : Prop} [Decidable condition] {fault : Fault}
    {rest : Unit → Read β}
    (h : Yields (rest ()) fine) :
      Yields (if condition then Read.fail fault >>= rest else rest ()) fine :=
  yields_ite (.after fun _ => h) h

end

/-! ### How far a step goes -/

/-- What a step leaves is the end of what it found. -/
def Shrinks {α : Type} (step : Read α) : Prop :=
  ∀ ⦃reading : Reading⦄ ⦃a : α⦄ ⦃after : Reading⦄, step reading = .ok (a, after) →
    after.rest <:+ reading.rest

/-- A step takes one character at least. -/
def Consumes {α : Type} (step : Read α) : Prop :=
  ∀ ⦃reading : Reading⦄ ⦃a : α⦄ ⦃after : Reading⦄, step reading = .ok (a, after) →
    after.rest <:+ reading.rest.tail

section

variable {α β : Type} {step other : Read α} {rest : α → Read β}

theorem Consumes.shrinks (h : Consumes step) : Shrinks step :=
  fun _ _ _ hrun => (h hrun).trans (List.tail_suffix _)

theorem Shrinks.bind (h : Shrinks step) (hrest : ∀ a, Shrinks (rest a)) :
    Shrinks (step >>= rest) := by
  intro reading b after hrun
  obtain ⟨a, between, hstep, hmore⟩ := exists_of_bind_eq_ok hrun
  exact (hrest a hmore).trans (h hstep)

theorem Consumes.bind (h : Consumes step) (hrest : ∀ a, Shrinks (rest a)) :
    Consumes (step >>= rest) := by
  intro reading b after hrun
  obtain ⟨a, between, hstep, hmore⟩ := exists_of_bind_eq_ok hrun
  exact (hrest a hmore).trans (h hstep)

theorem tail_suffix_tail {short long : Text} (h : short <:+ long) : short.tail <:+ long.tail := by
  obtain ⟨front, rfl⟩ := h
  cases front with
  | nil => exact List.suffix_refl _
  | cons c front => exact (List.tail_suffix _).trans (List.suffix_append _ _)

theorem Shrinks.then (h : Shrinks step) (hrest : ∀ a, Consumes (rest a)) :
    Consumes (step >>= rest) := by
  intro reading b after hrun
  obtain ⟨a, between, hstep, hmore⟩ := exists_of_bind_eq_ok hrun
  exact (hrest a hmore).trans (tail_suffix_tail (h hstep))

theorem shrinks_pure {a : α} : Shrinks (pure a) := by
  intro reading b after hrun
  obtain rfl := congrArg Prod.snd (Except.ok.inj hrun)
  exact List.suffix_refl _

theorem consumes_fail {fault : Fault} : Consumes (Read.fail fault : Read α) :=
  fun _ _ _ hrun => nomatch hrun

theorem shrinks_fail {fault : Fault} : Shrinks (Read.fail fault : Read α) := consumes_fail.shrinks

theorem consumes_failed {fault : Fault} {rest : α → Read β} :
    Consumes (Read.fail fault >>= rest) := by
  intro reading b after hrun
  obtain ⟨a, between, hfail, -⟩ := exists_of_bind_eq_ok hrun
  cases hfail

theorem shrinks_ite {condition : Prop} [Decidable condition] (h : Shrinks step)
    (hother : Shrinks other) :
    Shrinks (if condition then step else other) := by
  split
  · exact h
  · exact hother

theorem consumes_ite {condition : Prop} [Decidable condition] (h : Consumes step)
    (hother : Consumes other) :
    Consumes (if condition then step else other) := by
  split
  · exact h
  · exact hother

theorem shrinks_unless {condition : Prop} [Decidable condition] {fault : Fault}
    {rest : Unit → Read β}
    (h : Shrinks (rest ())) : Shrinks (if condition then Read.fail fault >>= rest else rest ()) :=
  shrinks_ite consumes_failed.shrinks h

theorem shrinks_either {condition : Prop} [Decidable condition] (h : Shrinks step)
    (hother : Shrinks other)
    (hrest : ∀ a, Shrinks (rest a)) :
      Shrinks (if condition then step >>= rest else other >>= rest) :=
  shrinks_ite (h.bind hrest) (hother.bind hrest)

theorem shrinks_optional {condition : Prop} [Decidable condition] {step : Read Unit}
    {rest : Unit → Read β}
    (h : Shrinks step) (hrest : ∀ a, Shrinks (rest a)) :
    Shrinks (if condition then step >>= rest else rest ()) := shrinks_ite (h.bind hrest) (hrest ())

theorem consumes_unless {condition : Prop} [Decidable condition] {fault : Fault}
    {rest : Unit → Read β}
    (h : Consumes (rest ())) : Consumes (if condition then Read.fail fault >>= rest else rest ()) :=
  consumes_ite consumes_failed h

end

/-! ### Single steps -/

theorem shrinks_get : Shrinks get := by
  intro reading a after hrun
  obtain rfl := congrArg Prod.snd (Except.ok.inj hrun)
  exact List.suffix_refl _

theorem shrinks_modify {change : Reading → Reading}
    (h : ∀ reading, (change reading).rest <:+ reading.rest) :
    Shrinks (modify change) := by
  intro reading a after hrun
  obtain rfl := congrArg Prod.snd (Except.ok.inj hrun)
  exact h reading

theorem shrinks_peek : Shrinks peek := shrinks_get.bind fun _ => shrinks_pure

theorem shrinks_next : Shrinks next := by
  unfold next
  refine shrinks_get.bind fun reading => ?_
  split
  · exact shrinks_pure
  · exact shrinks_fail

theorem consumes_advance : Consumes advance := by
  intro reading a after hrun
  obtain rfl := congrArg Prod.snd (Except.ok.inj hrun)
  exact List.suffix_refl _

theorem dropSpace_suffix (inComment : Bool) (text : Text) : dropSpace inComment text <:+ text := by
  induction text generalizing inComment with
  | nil => exact List.suffix_refl _
  | cons c text ih =>
    unfold dropSpace
    split_ifs
    · exact (ih _).trans (List.suffix_cons c text)
    · exact (ih _).trans (List.suffix_cons c text)
    · exact (ih _).trans (List.suffix_cons c text)
    · exact List.suffix_refl _

theorem shrinks_skipSpace : Shrinks skipSpace := by
  refine shrinks_modify fun reading => ?_
  split
  · exact dropSpace_suffix _ _
  · exact List.suffix_refl _

theorem shrinks_skipBlanks : Shrinks skipBlanks := shrinks_modify fun _ => List.dropWhile_suffix _

theorem consumes_advanceSpace : Consumes advanceSpace :=
  consumes_advance.bind fun _ => shrinks_skipSpace

section

variable {mark : String} {reading : Reading} {rest : Text}

theorem takeIf_of_none (h : mark.toList.isPrefixOf? reading.rest = none) :
    takeIf mark reading = .ok (false, reading) := by
  have hget : get (m := Read) reading = .ok (reading, reading) := rfl
  rw [takeIf, bind_of_ok hget, h]
  rfl

theorem takeIf_of_some (h : mark.toList.isPrefixOf? reading.rest = some rest) :
    takeIf mark reading = .ok (true, { reading with rest }) := by
  have hget : get (m := Read) reading = .ok (reading, reading) := rfl
  rw [takeIf, bind_of_ok hget, h]
  rfl

end

theorem shrinks_takeIf (mark : String) : Shrinks (takeIf mark) := by
  intro reading a after hrun
  cases h : mark.toList.isPrefixOf? reading.rest with
  | none =>
    obtain rfl := congrArg Prod.snd (Except.ok.inj ((takeIf_of_none h).symm.trans hrun))
    exact List.suffix_refl _
  | some rest =>
    obtain rfl := congrArg Prod.snd (Except.ok.inj ((takeIf_of_some h).symm.trans hrun))
    exact ⟨_, List.append_eq_of_isPrefixOf?_eq_some h⟩

end GrammarBrew.Pattern
