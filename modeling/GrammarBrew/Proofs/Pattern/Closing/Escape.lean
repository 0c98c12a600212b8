import GrammarBrew.Proofs.Pattern.Closing.Steps

/-!
Escapes with the end of a group behind the pattern. An escape does not end at the closing
parenthesis, but a word edge may have its brace left before it.
-/

set_option autoImplicit false
set_option relaxedAutoImplicit false

namespace GrammarBrew.Pattern

open Read

section

variable {reading : Reading} {c : Char} {text : Text} {flags : Flags} {groups : Nat}
  {names : List Text}

private theorem steady_scalar (n : Nat) : Steady (scalar n) := steady_ite steady_pure steady_fail

private theorem head?_of_hexInBraces {fuel : Nat} {digits found : List Nat} {after : Reading}
    (h : hexInBraces fuel digits reading = .ok (found, after)) :
      after.rest.head? = some '\x7d' := by
  induction fuel generalizing digits reading with
  | zero => cases h
  | succ fuel ih =>
    unfold hexInBraces at h
    obtain ⟨_, between, -, h⟩ := exists_of_bind_eq_ok h
    obtain ⟨text, flags, groups, names⟩ := between
    cases text with
    | nil => cases h
    | cons c text =>
      obtain ⟨_, later, hnext, h⟩ := exists_of_bind_eq_ok h
      obtain ⟨rfl, rfl⟩ := Prod.mk.inj (Except.ok.inj hnext)
      by_cases hc : c = '\x7d'
      · subst hc
        obtain rfl := congrArg Prod.snd (Except.ok.inj h)
        rfl
      · simp only at h
        cases hvalue : hexValue? c with
        | none =>
          rw [hvalue] at h
          cases h
        | some d =>
          rw [hvalue] at h
          exact ih h

private theorem agree_hexInBraces {fuel fuel' : Nat} (digits : List Nat)
    (hfuel : text.length < fuel) (hle : fuel ≤ fuel') :
    Agree Past (hexInBraces fuel digits) (hexInBraces fuel' digits)
      ⟨c :: text, flags, groups, names⟩ := by
  induction fuel generalizing fuel' digits c text flags groups names with
  | zero => omega
  | succ fuel ih =>
    obtain ⟨fuel', rfl⟩ : ∃ less, fuel' = less + 1 := ⟨fuel' - 1, by omega⟩
    unfold hexInBraces
    refine agree_advanceSpace_bind
      (fun after hlength => agree_next_bind ?_ fun c text htext => ?_) ?_
    · exact fun _ _ _ _ _ h => by cases h
    · rw [htext, List.length_cons] at hlength
      split
      · exact agree_pure
      · split
        · exact ih _ (by omega) (by omega)
        · exact agree_fail
    · exact fun after atEnd _ => along_next_bind atEnd

private theorem steady_hexDigits (count : Nat) (digits : List Nat) :
    Steady (hexDigits count digits) := by
  refine ⟨shrinks_hexDigits count digits, fun reading => ?_⟩
  induction count generalizing digits reading with
  | zero => exact agree_pure
  | succ count ih =>
    unfold hexDigits
    refine agree_next_bind (fun _ _ _ _ _ h => by cases h) fun c text _ => ?_
    split
    · exact agree_advanceSpace_then (shrinks_hexDigits _ _) fun after _ => ih _ after
    · exact agree_fail

private theorem agree_hexEscape {letter : Char} :
    Agree Past hexEscape hexEscape ⟨letter :: text, flags, groups, names⟩ := by
  unfold hexEscape
  refine agree_next_cons
    (agree_advanceSpace_bind (fun after _ => agree_next_bind ?_ fun c text _ => ?_) ?_)
  · intro flags groups names found later hrun
    obtain ⟨digits, between, hdigits, -⟩ := exists_of_bind_eq_ok hrun
    split_ifs at hdigits
    all_goals cases hdigits
  · split
    · have hscalar : ∀ digits : List Nat, Steady (if digits.isEmpty then Read.fail .badEscape
          else return Primitive.literal (← scalar (ofDigits 16 digits))) :=
        fun digits => steady_ite steady_fail ((steady_scalar _).bind fun _ => steady_pure)
      refine agree_get_bind
        ((agree_hexInBraces [] (Nat.lt_succ_self _) ?_).then (fun digits => ?_) ?_)
      · exact Reading.length_le_closed ⟨_ :: text, _, _, _⟩
      · exact consumes_advanceSpace.shrinks.bind fun _ => (hscalar digits).shrinks
      · rintro digits ⟨_, flags, groups, names⟩ hrun
        obtain ⟨text, rfl⟩ := List.head?_eq_some_iff.1 (head?_of_hexInBraces hrun)
        exact agree_advanceSpace_then (hscalar digits).shrinks fun after _ =>
          (hscalar digits).agree after
    · refine ((steady_hexDigits _ _).agree _).thenSteady fun digits =>
        (steady_scalar _).bind fun c => ?_
      exact steady_get_bind (fun _ => steady_ite steady_pure steady_pure) fun _ => rfl
  · exact fun after atEnd _ => along_next_bind atEnd

theorem steady_finishSet (negated : Bool) (set : CharSet) : Steady (finishSet negated set) :=
  steady_get_bind (fun _ => steady_unless steady_pure) fun _ => rfl

private theorem agree_propertyInBraces {fuel fuel' : Nat} (name : Text) (hfuel : text.length < fuel)
    (hle : fuel ≤ fuel') :
    Agree Past (propertyInBraces fuel name) (propertyInBraces fuel' name)
      ⟨c :: text, flags, groups, names⟩ := by
  induction fuel generalizing fuel' name c text flags groups names with
  | zero => omega
  | succ fuel ih =>
    obtain ⟨fuel', rfl⟩ : ∃ less, fuel' = less + 1 := ⟨fuel' - 1, by omega⟩
    unfold propertyInBraces
    refine agree_advanceSpace_bind
      (fun after hlength => agree_next_bind_past ?_ fun c text htext => ?_) ?_
    · exact consumes_propertyInBraces _ _
    · rw [htext, List.length_cons] at hlength
      split
      · exact agree_pure
      · exact ih _ (by omega) (by omega)
    · exact fun after atEnd _ => along_next_bind atEnd

private theorem steady_propertyNamed (negated : Bool) (name : Text) :
    Steady (propertyNamed flags negated name) := by
  unfold propertyNamed
  refine steady_unless ?_
  dsimp only
  split
  · exact steady_pure
  · exact steady_fail

private theorem agree_propertyEscape {letter : Char} :
    Agree Past propertyEscape propertyEscape ⟨letter :: text, flags, groups, names⟩ := by
  unfold propertyEscape
  refine agree_next_cons (agree_advanceSpace_bind (fun after _ => agree_get_bind ?_) ?_)
  · have hnamed : ∀ name : Text, Steady (propertyNamed after.flags (letter == 'P') name) :=
      steady_propertyNamed _
    refine agree_next_bind_past ?_ fun c text _ => ?_
    · exact consumes_advanceSpace.bind fun _ => (steady_pure.bind hnamed).shrinks
    · dsimp only
      split
      · refine agree_get_bind
          ((agree_propertyInBraces [] (Nat.lt_succ_self _) ?_).thenSteady hnamed)
        exact Reading.length_le_closed ⟨_ :: text, _, _, _⟩
      · exact along_errors
      · refine agree_advanceSpace_then (steady_pure.bind hnamed).shrinks fun after _ => ?_
        exact (steady_pure.bind hnamed).agree after
  · exact fun after atEnd _ => along_get_bind (along_next_bind atEnd)

private theorem steady_letterClass (letter : Char) : Steady (letterClass letter) := by
  unfold letterClass
  refine steady_get_bind (fun reading => ?_) fun _ => rfl
  exact steady_ite steady_pure (steady_ite steady_fail steady_pure)

private theorem agree_wordEdgeName {fuel fuel' : Nat} (name : Text)
    (hfuel : reading.rest.length < fuel)
    (hle : fuel ≤ fuel') :
      Agree Past (wordEdgeName fuel name) (wordEdgeName fuel' name) reading := by
  induction fuel generalizing fuel' name reading with
  | zero => omega
  | succ fuel ih =>
    obtain ⟨fuel', rfl⟩ : ∃ less, fuel' = less + 1 := ⟨fuel' - 1, by omega⟩
    unfold wordEdgeName
    refine agree_peek_bind (fun _ _ _ _ => along_errors) fun c text htext => ?_
    rw [htext, List.length_cons] at hfuel
    split
    · exact agree_advance_bind agree_pure
    · refine agree_ite (fun _ => agree_advanceSpace_bind ?_ ?_) fun _ => agree_fail
      · exact fun after hlength => ih _ (by omega) (by omega)
      · rintro ⟨_, flags, groups, names⟩ rfl -
        obtain ⟨fuel, rfl⟩ : ∃ less, fuel = less + 1 := ⟨fuel - 1, by omega⟩
        obtain ⟨fuel', rfl⟩ : ∃ less, fuel' = less + 1 := ⟨fuel' - 1, by omega⟩
        exact along_errors
    · exact agree_fail

private theorem steady_edgeNamed (unicode : Bool) (name : Text) :
    Steady (edgeNamed unicode name) := by
  unfold edgeNamed
  split
  all_goals first
    | exact steady_pure
    | exact steady_fail

structure Dangling (after : Reading) : Prop where
  brace : after.rest.head? = some '\x7b'
  noCount : ∀ result, counts after ≠ .ok result

private theorem noCount_of_advanceSpace {reading after : Reading}
    (h : advanceSpace reading = .ok ((), after))
    (atEnd : after.rest = closing) (result : (Nat × Option Nat) × Reading) :
      counts reading ≠ .ok result := by
  obtain ⟨text, flags, groups, names⟩ := after
  obtain rfl : text = closing := atEnd
  rw [counts, bind_of_ok h]
  intro hrun
  cases hrun

private theorem agree_wordEdge :
    Agree (fun _ after => Past () after ∨ Dangling after) wordEdge wordEdge reading := by
  by_cases hbrace : reading.rest.head? = some '\x7b'
  · obtain ⟨_, flags, groups, names⟩ := reading
    obtain ⟨text, rfl⟩ := List.head?_eq_some_iff.1 hbrace
    obtain ⟨⟨inner, flags', groups', names'⟩, hlength, hskip, hlong⟩ :=
      exists_skipSpace ⟨text, flags, groups, names⟩
    have hshort : advanceSpace ⟨'\x7b' :: text, flags, groups, names⟩
        = .ok ((), ⟨inner, flags', groups', names'⟩) :=
      hskip
    unfold wordEdge
    refine agree_get_bind (agree_get_bind ?_)
    unfold Agree
    change Along _ ((advanceSpace >>= _) _) ((advanceSpace >>= _) _)
    rw [bind_of_ok hshort]
    -- Space ends before the closing, or a comment that it opens takes the closing in.
    obtain hkept | ⟨rfl, -, hopen⟩ := hlong
    · have hclosed : advanceSpace (Reading.closed ⟨'\x7b' :: text, flags, groups, names⟩)
          = .ok ((), Reading.closed ⟨inner, flags', groups', names'⟩) := hkept
      rw [bind_of_ok hclosed]
      cases inner with
      | nil =>
        refine .refused .unfinished _ fun look later hlong => .inr ?_
        obtain rfl := congrArg Prod.snd (Except.ok.inj hlong)
        exact ⟨rfl, noCount_of_advanceSpace hclosed rfl⟩
      | cons c inner =>
        refine agree_next_cons (agree_ite (fun _ => ?_) fun _ =>
          .kept _ ⟨'\x7b' :: text, flags, groups, names⟩)
        refine ((agree_wordEdgeName [] ?_ ?_).thenSteady (steady_edgeNamed _)).mono fun _ _ => .inl
        · exact Nat.lt_succ_of_le hlength
        · exact Reading.length_le_closed ⟨_ :: text, _, _, _⟩
    · have htaken : advanceSpace (Reading.closed ⟨'\x7b' :: text, flags, groups, names⟩)
          = .ok ((), ⟨[], flags', groups', names'⟩) := hopen
      rw [bind_of_ok htaken]
      exact along_next_bind rfl
  · have hclosed : reading.closed.rest.head? ≠ some '\x7b' := by
      obtain ⟨text, flags, groups, names⟩ := reading
      cases text with
      | nil => exact fun h => absurd (Option.some.inj h) (by decide)
      | cons c text => exact hbrace
    unfold Agree
    rw [wordEdge_of_head?_ne hbrace, wordEdge_of_head?_ne hclosed]
    exact .kept _ _

def PastEscape (found : Primitive) (after : Reading) : Prop :=
  Past found after ∨ (∃ place, found = .condition place) ∧ Dangling after

private theorem Agree.pastEscape {short long : Read Primitive} (h : Agree Past short long reading) :
    Agree PastEscape short long reading := h.mono fun _ _ => .inl

private theorem agree_wordEdgeCondition : Agree PastEscape (do return .condition (← wordEdge))
    (do return .condition (← wordEdge)) reading := by
  refine agree_wordEdge.bind (fun _ _ _ => agree_pure)
    (fun _ _ _ atEnd => along_of_shrinks shrinks_pure atEnd) ?_
  intro place after hspent found later hrun
  obtain ⟨rfl, rfl⟩ := Prod.mk.inj (Except.ok.inj hrun)
  exact hspent.imp_right fun hdangling => ⟨⟨place, rfl⟩, hdangling⟩

theorem agree_escape : Agree PastEscape escape escape ⟨'\\' :: text, flags, groups, names⟩ := by
  unfold escape
  refine agree_advance_bind (agree_next_bind ?_ fun c text _ => agree_get_bind ?_)
  · intro flags groups names found later hrun
    obtain rfl := congrArg Prod.snd (Except.ok.inj hrun)
    exact .inl (List.suffix_refl _)
  · refine agree_ite (fun _ => agree_fail) fun _ =>
      agree_ite (fun _ => agree_hexEscape.pastEscape) fun _ => ?_
    refine agree_ite (fun _ => (agree_propertyEscape.thenSteady fun _ => steady_pure).pastEscape)
      fun _ => ?_
    refine agree_advance_bind (agree_ite (fun _ => ?_) fun _ => ?_)
    · exact (((steady_letterClass c).bind fun _ => steady_pure).agree _).pastEscape
    · split
      all_goals first
        | exact agree_pure
        | exact agree_wordEdgeCondition
        | exact agree_ite (fun _ => agree_fail) fun _ => agree_pure

end

end GrammarBrew.Pattern
