import GrammarBrew.Proofs.Pattern.Closing.Steps

/-!
The openings of groups and the repetitions with the end of a group behind the pattern.
-/

set_option autoImplicit false
set_option relaxedAutoImplicit false

namespace GrammarBrew.Pattern

open Read

section

variable {β : Type} {spent' : β → Reading → Prop} {reading : Reading} {c : Char} {text : Text}
  {flags : Flags}
  {groups : Nat} {names : List Text}

/-! ### Openings -/

private theorem agree_flagList {fuel fuel' : Nat} (value : Bool) (seen : Text) (set : Flags)
    (hfuel : reading.rest.length < fuel) (hle : fuel ≤ fuel') :
    Agree (Within closing) (flagList fuel value seen set) (flagList fuel' value seen set)
      reading := by
  induction fuel generalizing fuel' value seen set reading with
  | zero => omega
  | succ fuel ih =>
    obtain ⟨fuel', rfl⟩ : ∃ less, fuel' = less + 1 := ⟨fuel' - 1, by omega⟩
    have hshrinks := shrinks_flagList (fuel' + 1) value seen set
    unfold flagList
    refine agree_next_bind (fun _ _ _ _ _ hrun => @hshrinks ⟨closing, _, _, _⟩ _ _ hrun)
      fun c text htext => ?_
    rw [htext, List.length_cons] at hfuel
    refine agree_ite (fun _ => agree_ite (fun _ => agree_fail) fun _ => agree_pure) fun _ => ?_
    refine agree_ite (fun _ => agree_fail) fun _ =>
      agree_ite (fun _ => agree_advance_bind ?_) fun _ => ?_
    · exact ih _ _ _ (Nat.lt_of_succ_lt_succ hfuel) (Nat.le_of_succ_le_succ hle)
    · split
      · exact agree_fail
      · exact agree_advance_bind
          (ih _ _ _ (Nat.lt_of_succ_lt_succ hfuel) (Nat.le_of_succ_le_succ hle))

private theorem agree_groupName {fuel fuel' : Nat} (name : Text)
    (hfuel : reading.rest.length < fuel) (hle : fuel ≤ fuel') :
    Agree Past (groupName fuel name) (groupName fuel' name) reading := by
  induction fuel generalizing fuel' name reading with
  | zero => omega
  | succ fuel ih =>
    obtain ⟨fuel', rfl⟩ : ∃ less, fuel' = less + 1 := ⟨fuel' - 1, by omega⟩
    have hconsumes := consumes_groupName (fuel' + 1) name
    unfold groupName
    refine agree_next_bind (fun _ _ _ _ _ hrun => @hconsumes ⟨closing, _, _, _⟩ _ _ hrun)
      fun c text htext => ?_
    rw [htext, List.length_cons] at hfuel
    refine agree_ite (fun _ => agree_advance_bind ?_) fun _ =>
      agree_ite (fun _ => agree_advance_bind ?_) fun _ => ?_
    · exact agree_ite (fun _ => agree_fail) fun _ => agree_pure
    · exact ih _ (Nat.lt_of_succ_lt_succ hfuel) (Nat.le_of_succ_le_succ hle)
    · exact agree_fail

private theorem agree_nextGroup_bind {rest restClosed : Nat → Read β}
    (h : Agree spent' (rest (reading.groups + 1)) (restClosed (reading.groups + 1))
      { reading with groups := reading.groups + 1 }) :
    Agree spent' (nextGroup >>= rest) (nextGroup >>= restClosed) reading := h

section

variable {fuel fuel' : Nat}

private theorem agree_namedOpening (hfuel : reading.rest.length < fuel) (hle : fuel ≤ fuel') :
    Agree Past (namedOpening fuel flags) (namedOpening fuel' flags) reading := by
  have hname : Agree Past (groupName fuel []) (groupName fuel' [])
      { reading with groups := reading.groups + 1 } :=
    agree_groupName [] hfuel hle
  unfold namedOpening
  refine agree_nextGroup_bind (hname.thenSteady fun name => ?_)
  refine steady_get_bind
    (fun _ => steady_unless (Steady.bind (steady_modify ?_ ?_) fun _ => steady_pure)) fun _ => rfl
  · exact fun _ => rfl
  · exact fun _ => rfl

private theorem agree_flagOpening (hfuel : reading.rest.length < fuel) (hle : fuel ≤ fuel') :
    Agree Past (flagOpening fuel flags) (flagOpening fuel' flags) reading := by
  have hend : ∀ (seen : Text) (flags : Flags) (last : Char), Steady (if last = ')' then
      if seen.isEmpty then Read.fail .nothingToRepeat else pure (Opening.flags flags)
    else pure (.group none flags)) := fun _ _ _ =>
      steady_ite (steady_ite steady_fail steady_pure) steady_pure
  unfold flagOpening
  refine (agree_flagList true [] flags hfuel hle).thenConsumes
    (fun _ => shrinks_next.then fun _ => ?_) ?_
  · exact consumes_advance.bind fun _ => (hend _ _ _).shrinks
  · intro _ after _
    refine agree_next_bind_past (consumes_advance.bind fun _ => (hend _ _ _).shrinks)
      fun c text _ => ?_
    exact agree_advance_bind ((hend _ _ c).agree _)

private theorem agree_openingOf {named : Bool} (hnamed : named = true → reading.rest.length < fuel)
    (hfuel : reading.rest.length ≤ fuel) (hle : fuel ≤ fuel') :
    Agree Past (openingOf fuel flags named) (openingOf fuel' flags named) reading := by
  unfold openingOf
  refine agree_ite (fun h => agree_namedOpening (hnamed h) hle) fun _ => ?_
  refine agree_takeIf_bind (by decide) (by decide) (fun after hlength => ?_) ?_
  · exact agree_flagOpening (Nat.lt_of_lt_of_le hlength hfuel) hle
  · exact agree_nextGroup_bind agree_pure

private theorem agree_openingRest : Agree Past openingRest openingRest reading := by
  have hbegins : ∀ mark : String, ')' ∉ mark.toList →
      mark.toList.isPrefixOf reading.closed.rest = mark.toList.isPrefixOf reading.rest := by
    intro mark hmark
    rw [← List.isSome_isPrefixOf?_eq_isPrefixOf, ← List.isSome_isPrefixOf?_eq_isPrefixOf]
    exact (congrArg Option.isSome (isPrefixOf?_append_closing reading.rest hmark)).trans
      Option.isSome_map
  have hle := reading.length_le_closed
  unfold openingRest
  refine agree_get_bind ?_
  simp only [hbegins "?=" (by decide), hbegins "?!" (by decide), hbegins "?<=" (by decide),
    hbegins "?<!" (by decide)]
  refine agree_unless (agree_takeIf_bind (by decide) (by decide) (fun after hlength => ?_) ?_)
  · have hnamed : Agree Past (openingOf reading.rest.length reading.flags true)
        (openingOf reading.closed.rest.length reading.flags true) after :=
      agree_openingOf (fun _ => hlength) (Nat.le_of_lt hlength) hle
    exact hnamed
  · refine agree_takeIf_bind (by decide) (by decide) (fun after hlength => ?_) ?_
    · exact agree_openingOf (fun _ => hlength) (Nat.le_of_lt hlength) hle
    · exact agree_openingOf (fun h => absurd h Bool.false_ne_true) (Nat.le_refl _) hle

end

theorem agree_opening : Agree Past opening opening ⟨c :: text, flags, groups, names⟩ := by
  rw [opening_eq]
  exact agree_advanceSpace_then shrinks_openingRest fun _ _ => agree_openingRest

/-! ### Repetitions -/

private theorem steady_skipBlanks : Steady skipBlanks := by
  refine ⟨shrinks_skipBlanks, fun reading => ?_⟩
  have hclosed : (reading.rest ++ closing).dropWhile Text.isBlank
      = reading.rest.dropWhile Text.isBlank ++ closing := by
    have hstays : closing.dropWhile Text.isBlank = closing := by decide
    rw [List.dropWhile_append, hstays]
    split
    next hnil => rw [List.isEmpty_iff.1 hnil, List.nil_append]
    next => rfl
  change Along Past (.ok ((), { reading with rest := reading.rest.dropWhile Text.isBlank }))
    (.ok ((), { reading with rest := (reading.rest ++ closing).dropWhile Text.isBlank }))
  rw [hclosed]
  exact .kept () { reading with rest := reading.rest.dropWhile Text.isBlank }

private theorem digits_atEnd {fuel : Nat} {seen : List Nat} (atEnd : reading.rest = []) :
    decimal.digits fuel seen reading = .ok (seen.reverse, reading) := by
  obtain ⟨_, flags, groups, names⟩ := reading
  obtain rfl : _ = [] := atEnd
  cases fuel <;> rfl

private theorem agree_digits {fuel fuel' : Nat} (seen : List Nat)
    (hfuel : reading.rest.length ≤ fuel) (hle : fuel ≤ fuel') :
    Agree Past (decimal.digits fuel seen) (decimal.digits fuel' seen) reading := by
  induction fuel generalizing fuel' seen reading with
  | zero =>
    obtain ⟨text, flags, groups, names⟩ := reading
    obtain rfl : text = [] := List.length_eq_zero_iff.1 (Nat.le_zero.1 hfuel)
    cases fuel' with
    | zero => exact .kept seen.reverse _
    | succ fuel' => exact .kept seen.reverse ⟨[], flags, groups, names⟩
  | succ fuel ih =>
    obtain ⟨fuel', rfl⟩ : ∃ less, fuel' = less + 1 := ⟨fuel' - 1, by omega⟩
    unfold decimal.digits
    refine agree_peek_bind ?_ fun c text htext => ?_
    · exact fun flags groups names _ => .kept seen.reverse ⟨[], flags, groups, names⟩
    rw [htext, List.length_cons] at hfuel
    refine agree_ite (fun _ => agree_advanceSpace_bind (fun after hlength => ?_)
      fun after atEnd _ => ?_) fun _ => ?_
    · exact ih _ (by omega) (by omega)
    · rw [digits_atEnd atEnd, digits_atEnd atEnd]
      exact .swallowed _ _ atEnd
    · exact agree_pure

private theorem steady_decimal : Steady decimal := by
  refine ⟨shrinks_decimal, fun reading => ?_⟩
  have hend : ∀ seen : List Nat, Steady (do
      skipBlanks
      let value := ofDigits 10 seen
      if seen.isEmpty || Nat.pow 2 32 ≤ value then Read.fail .badCount else return value) :=
    fun seen => steady_skipBlanks.bind fun _ => steady_ite steady_fail steady_pure
  unfold decimal
  refine (steady_skipBlanks.agree reading).then (fun _ => shrinks_get.bind fun _ => ?_)
    fun _ after _ => ?_
  · exact (shrinks_digits _ _).bind fun seen => (hend seen).shrinks
  · exact agree_get_bind ((agree_digits [] (Nat.le_refl _) after.length_le_closed).thenSteady hend)

private theorem steady_countsEnd (least : Nat) (most : Option Nat) :
    Steady (countsEnd least most) := by
  refine ⟨shrinks_countsEnd least most, fun reading => ?_⟩
  unfold countsEnd
  refine agree_next_bind (fun _ _ _ _ _ h => by cases h) fun c text _ => agree_unless ?_
  exact agree_advanceSpace_then (shrinks_unless shrinks_pure) fun _ _ => agree_unless agree_pure

private theorem steady_countsFrom (least : Nat) : Steady (countsFrom least) := by
  refine ⟨shrinks_countsFrom least, fun reading => ?_⟩
  unfold countsFrom
  refine agree_next_bind (fun _ _ _ _ _ h => by cases h) fun c text _ =>
    agree_ite (fun _ => ?_) fun _ => ?_
  · refine agree_advanceSpace_bind (fun after _ => agree_next_bind ?_ fun d inner _ => ?_)
      fun after atEnd _ => ?_
    · exact fun _ _ _ _ _ h => by cases h
    · refine agree_ite (fun _ => (steady_countsEnd least none).agree _) fun _ => ?_
      exact ((steady_decimal.bind fun _ => steady_pure).bind (steady_countsEnd least)).agree _
    · exact along_next_bind atEnd
  · exact (steady_countsEnd least (some least)).agree _

theorem agree_counts : Agree Past counts counts ⟨c :: text, flags, groups, names⟩ := by
  have hrest := steady_decimal.bind steady_countsFrom
  rw [counts_eq]
  exact agree_advanceSpace_then hrest.shrinks fun after _ => hrest.agree after

theorem steady_greed : Steady greed := by
  have hrest : ∀ lazily : Bool, Steady (do return lazily == (← get).flags.swapGreed) :=
    fun lazily => steady_get_bind (fun _ => steady_pure) fun _ => rfl
  refine ⟨shrinks_greed, fun reading => ?_⟩
  refine agree_takeIf_bind (by decide) (by decide) (fun after _ => (hrest true).agree after) ?_
  exact (hrest false).agree reading

theorem steady_literal (c : Char) : Steady (literal c) :=
  steady_get_bind (fun _ => steady_ite steady_pure steady_pure) fun _ => rfl

theorem steady_anyChar : Steady anyChar :=
  steady_get_bind (fun _ => steady_unless steady_pure) fun _ => rfl

end

end GrammarBrew.Pattern
