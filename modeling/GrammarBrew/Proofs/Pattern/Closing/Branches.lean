import GrammarBrew.Proofs.Pattern.Closing.Class
import GrammarBrew.Proofs.Pattern.Closing.Group

/-!
A whole pattern with the end of a group behind it. What it is read as does not change before that
end, but for an open comment.
-/

set_option autoImplicit false
set_option relaxedAutoImplicit false

namespace GrammarBrew.Pattern

open Read

section

variable {α : Type} {reading : Reading} {c : Char} {text : Text} {flags : Flags} {groups : Nat}
  {names : List Text}
  {fuel fuel' : Nat} {seen before : List Part} {earlier : List (Regex × Nat)}

theorem parts_atEnd (hfuel : 0 < fuel) (atEnd : reading.rest = []) :
    parts fuel seen reading = .ok (sequence seen, reading) := by
  obtain ⟨_, flags, groups, names⟩ := reading
  obtain rfl : _ = [] := atEnd
  obtain ⟨fuel, rfl⟩ := Nat.exists_eq_add_of_lt hfuel
  rw [parts, bind_of_ok skipSpace_nil]
  rfl

private theorem along_parts (hfuel : 0 < fuel) (hle : fuel ≤ fuel') (atEnd : reading.rest = []) :
    Along Past (parts fuel seen reading) (parts fuel' seen reading) := by
  rw [parts_atEnd hfuel atEnd, parts_atEnd (Nat.lt_of_lt_of_le hfuel hle) atEnd]
  exact .swallowed _ _ atEnd

private theorem branches_atEnd (hfuel : 1 < fuel) (atEnd : reading.rest = []) :
    branches fuel earlier reading = .ok (choice (sequence [] :: earlier), reading) := by
  obtain ⟨fuel, rfl⟩ := Nat.exists_eq_add_of_lt hfuel
  have hnone : "|".toList.isPrefixOf? reading.rest = none := by
    rw [atEnd]
    rfl
  rw [branches, bind_of_ok (parts_atEnd (by omega) atEnd), bind_of_ok (takeIf_of_none hnone)]
  rfl

private theorem parts_dangling {part : Regex} {depth : Nat} (h : Dangling reading)
    (result : (Regex × Nat) × Reading) :
    parts fuel (⟨some part, depth⟩ :: before) reading ≠ .ok result := by
  obtain ⟨_, flags, groups, names⟩ := reading
  obtain ⟨text, rfl⟩ := List.head?_eq_some_iff.1 h.brace
  cases fuel with
  | zero =>
    intro hrun
    cases hrun
  | succ fuel =>
    rw [parts, bind_of_ok (skipSpace_cons (by decide) (by decide))]
    intro hrun
    obtain ⟨_, _, hpeek, hrun⟩ := exists_of_bind_eq_ok hrun
    obtain ⟨rfl, rfl⟩ := Prod.mk.inj (Except.ok.inj hpeek)
    obtain ⟨range, after, hcounts, -⟩ := exists_of_bind_eq_ok hrun
    exact h.noCount _ hcounts

def BranchesAgree (fuel : Nat) : Prop :=
  (∀ (fuel' : Nat) (earlier : List (Regex × Nat)) (reading : Reading), fuel ≤ fuel' →
    2 * reading.rest.length + 2 ≤ fuel →
      Agree Past (branches fuel earlier) (branches fuel' earlier) reading) ∧
  ∀ (fuel' : Nat) (seen : List Part) (reading : Reading), fuel ≤ fuel' →
    2 * reading.rest.length + 1 ≤ fuel → Agree Past (parts fuel seen) (parts fuel' seen) reading

section

variable {step step' : Read α} {make : α → List Part}

private theorem along_thenParts (hfuel : 0 < fuel) (hle : fuel ≤ fuel') (hstep : Shrinks step)
    (atEnd : reading.rest = []) :
    Along Past ((step >>= fun a => parts fuel (make a)) reading)
      ((step >>= fun a => parts fuel' (make a)) reading) := by
  cases hrun : step reading with
  | error fault => exact along_of_errors (bind_of_error hrun) (bind_of_error hrun)
  | ok result =>
    obtain ⟨a, after⟩ := result
    rw [bind_of_ok hrun, bind_of_ok hrun]
    exact along_parts hfuel hle (List.suffix_nil.1 (atEnd ▸ hstep hrun))

private theorem BranchesAgree.thenParts (h : BranchesAgree fuel) (hfuel : 0 < fuel)
    (hle : fuel ≤ fuel')
    (hstep : Agree Past step step' reading)
    (hlength : ∀ a after, step reading = .ok (a, after) → 2 * after.rest.length + 1 ≤ fuel) :
    Agree Past (step >>= fun a => parts fuel (make a)) (step' >>= fun a => parts fuel' (make a))
      reading := by
  refine hstep.bind (fun a after hrun => h.2 _ _ _ hle (hlength a after hrun)) ?_ ?_
  · exact fun a after _ atEnd => along_parts hfuel hle atEnd
  · exact fun a after hpast found later hrun => ((branchesShrink fuel').2 _ hrun).trans hpast

end

private theorem agree_branches_succ (h : BranchesAgree fuel) (hle : fuel ≤ fuel')
    (hfuel : 2 * reading.rest.length + 1 ≤ fuel) :
    Agree Past (branches (fuel + 1) earlier) (branches (fuel' + 1) earlier) reading := by
  unfold branches
  refine (h.2 _ [] _ hle hfuel).bind (fun branch after hrun => ?_)
    (fun branch after _ atEnd => ?_) ?_
  · have hlength := ((branchesShrink fuel).2 _ hrun).length_le
    refine agree_takeIf_bind (by decide) (by decide) (fun later hlater => ?_) agree_pure
    exact h.1 _ _ _ hle (by omega)
  · have hnone : "|".toList.isPrefixOf? after.rest = none := by
      rw [atEnd]
      rfl
    rw [bind_of_ok (takeIf_of_none hnone), bind_of_ok (takeIf_of_none hnone)]
    exact .swallowed _ _ atEnd
  · intro branch after hpast found later hrun
    refine List.IsSuffix.trans ?_ hpast
    exact (shrinks_takeIf _).bind
      (fun _ => shrinks_ite ((branchesShrink fuel').1 _) shrinks_pure) hrun

section

variable {regex : Regex} {depth : Nat} {outer : Flags} {length : Nat}

private theorem agree_groupFrom (h : BranchesAgree fuel) (hle : fuel ≤ fuel') (begun : Opening)
    (hfuel : 2 * reading.rest.length + 2 ≤ fuel) :
    Agree Past (groupFrom fuel seen outer begun) (groupFrom fuel' seen outer begun) reading := by
  cases begun with
  | flags flags => exact agree_modify_bind rfl (h.2 _ _ _ hle (Nat.le_of_succ_le hfuel))
  | group number flags =>
    refine agree_modify_bind rfl ((h.1 _ _ { reading with flags := flags } hle hfuel).bind ?_ ?_ ?_)
    · rintro ⟨body, depth⟩ after hrun
      have hlength : after.rest.length ≤ reading.rest.length :=
        ((branchesShrink fuel).1 _ hrun).length_le
      refine agree_next_bind (fun _ _ _ found later hend => ?_) fun c text htext => agree_unless ?_
      · have hconsumes := consumes_groupEnd (branchesShrink fuel') seen outer number body depth
        exact @hconsumes ⟨closing, _, _, _⟩ found later hend
      · rw [htext, List.length_cons] at hlength
        exact agree_modify_bind rfl
          (agree_advance_bind (h.2 _ _ ⟨text, _, _, _⟩ hle (by dsimp only; omega)))
    · exact fun body after _ atEnd => along_next_bind atEnd
    · intro body after hpast found later hrun
      exact ((consumes_groupEnd (branchesShrink fuel') seen outer number body.1 body.2).shrinks
        hrun).trans hpast

private theorem along_groupFrom (hfuel : 1 < fuel) (hle : fuel ≤ fuel') (begun : Opening)
    (atEnd : reading.rest = []) :
    Along Past (groupFrom fuel seen outer begun reading)
      (groupFrom fuel' seen outer begun reading) := by
  cases begun with
  | flags flags =>
    change Along Past (parts fuel _ { reading with flags := flags })
      (parts fuel' _ { reading with flags := flags })
    exact along_parts (Nat.lt_of_succ_lt hfuel) hle atEnd
  | group number flags =>
    have hset : (modify fun reading => { reading with flags := flags } : Read Unit) reading
        = .ok ((), { reading with flags := flags }) := rfl
    have hnil : Reading.rest { reading with flags := flags } = [] := atEnd
    rw [groupFrom, groupFrom, bind_of_ok hset, bind_of_ok hset,
      bind_of_ok (branches_atEnd hfuel hnil),
      bind_of_ok (branches_atEnd (Nat.lt_of_lt_of_le hfuel hle) hnil)]
    exact along_next_bind atEnd

private theorem agree_repeatFrom (h : BranchesAgree fuel) (hle : fuel ≤ fuel') (least : Nat)
    (most : Option Nat)
    (hfuel : 2 * reading.rest.length + 1 ≤ fuel) :
    Agree Past (repeatFrom fuel regex depth before least most)
      (repeatFrom fuel' regex depth before least most)
      reading := by
  refine h.thenParts (Nat.lt_of_lt_of_le (Nat.succ_pos _) hfuel) hle (steady_greed.agree reading) ?_
  intro greedy after hrun
  have hlength := (shrinks_greed hrun).length_le
  omega

private theorem agree_escapeFrom (h : BranchesAgree fuel) (hle : fuel ≤ fuel') (found : Primitive)
    (hfuel : 2 * reading.rest.length + 1 ≤ fuel) :
    Agree Past (escapeFrom fuel seen found) (escapeFrom fuel' seen found) reading := by
  cases found with
  | literal c =>
    refine h.thenParts (Nat.lt_of_lt_of_le (Nat.succ_pos _) hfuel) hle
      ((steady_literal c).agree reading) ?_
    intro greedy after hrun
    have hlength := (shrinks_literal c hrun).length_le
    omega
  | byte c => exact agree_fail
  | chars set | condition place => exact h.2 _ _ _ hle hfuel

private theorem along_escapeFrom (hfuel : 0 < fuel) (hle : fuel ≤ fuel') (found : Primitive)
    (atEnd : reading.rest = []) :
    Along Past (escapeFrom fuel seen found reading) (escapeFrom fuel' seen found reading) := by
  cases found with
  | literal c => exact along_thenParts hfuel hle (shrinks_literal c) atEnd
  | byte c => exact along_errors
  | chars set | condition place => exact along_parts hfuel hle atEnd

private theorem past_of_escapeFrom {found : Primitive} (hspent : PastEscape found reading)
    {result : Regex × Nat} {after : Reading}
    (hrun : escapeFrom fuel seen found reading = .ok (result, after)) :
    Past result after := by
  obtain hpast | ⟨⟨place, rfl⟩, hdangling⟩ := hspent
  · exact (shrinks_escapeFrom (branchesShrink fuel) seen found hrun).trans hpast
  · exact absurd hrun (parts_dangling hdangling _)

/-! The parts that begin with several steps, each with those that follow. -/

private theorem agree_openedGroup (h : BranchesAgree fuel) (hle : fuel ≤ fuel')
    (hfuel : 2 * text.length + 2 ≤ fuel) :
    Agree Past (opening >>= groupFrom fuel seen outer) (opening >>= groupFrom fuel' seen outer)
      ⟨c :: text, flags, groups, names⟩ := by
  refine agree_opening.bind (fun begun later hrun => agree_groupFrom h hle begun ?_) ?_ ?_
  · have hlater : later.rest.length ≤ text.length := (consumes_opening hrun).length_le
    omega
  · exact fun begun later _ atEnd => along_groupFrom (by omega) hle begun atEnd
  · exact fun begun later hpast found last hrun =>
      (shrinks_groupFrom (branchesShrink fuel') seen outer begun hrun).trans hpast

private theorem agree_counted (h : BranchesAgree fuel) (hle : fuel ≤ fuel')
    (hfuel : 2 * text.length + 2 ≤ fuel) :
    Agree Past (counts >>= fun range => repeatFrom fuel regex depth before range.1 range.2)
      (counts >>= fun range => repeatFrom fuel' regex depth before range.1 range.2)
      ⟨c :: text, flags, groups, names⟩ := by
  refine agree_counts.bind (fun range later hrun => agree_repeatFrom h hle range.1 range.2 ?_) ?_ ?_
  · have hlater : later.rest.length ≤ text.length := (consumes_counts hrun).length_le
    omega
  · exact fun range later _ atEnd => along_thenParts (by omega) hle shrinks_greed atEnd
  · exact fun range later hpast found last hrun =>
      (shrinks_repeatFrom (branchesShrink fuel') regex depth before range.1 range.2 hrun).trans
        hpast

private theorem agree_escaped (h : BranchesAgree fuel) (hle : fuel ≤ fuel')
    (hfuel : 2 * text.length + 2 ≤ fuel) :
    Agree Past (escape >>= escapeFrom fuel seen) (escape >>= escapeFrom fuel' seen)
      ⟨'\\' :: text, flags, groups, names⟩ := by
  refine agree_escape.bind (fun found later hrun => agree_escapeFrom h hle found ?_) ?_ ?_
  · have hlater : later.rest.length ≤ text.length := (consumes_escape hrun).length_le
    omega
  · exact fun found later _ atEnd => along_escapeFrom (by omega) hle found atEnd
  · exact fun found later hspent result last hrun => past_of_escapeFrom hspent hrun

end

private theorem agree_parts_succ (h : BranchesAgree fuel) (hle : fuel ≤ fuel')
    (hfuel : 2 * reading.rest.length ≤ fuel) :
    Agree Past (parts (fuel + 1) seen) (parts (fuel' + 1) seen) reading := by
  unfold parts
  refine agree_skipSpace_bind (fun after hlength => agree_peek_bind ?_ fun c text htext => ?_)
    fun after atEnd _ => ?_
  · exact fun flags groups names _ => .kept (sequence seen) ⟨[], flags, groups, names⟩
  · rw [htext, List.length_cons] at hlength
    have htail : 2 * text.length + 2 ≤ fuel := by omega
    have hpos : 0 < fuel := by omega
    -- A part that reads alike, and the parts after it on what is then less text.
    have hthen : ∀ {α : Type} {step : Read α} {make : α → List Part} {flags : Flags}, Steady step →
        Agree Past (step >>= fun a => parts fuel (make a)) (step >>= fun a => parts fuel' (make a))
          ⟨text, flags, after.groups, after.names⟩ := by
      intro α step make flags hstep
      refine h.thenParts hpos hle (hstep.agree _) fun a later hrun => ?_
      have hlater : later.rest.length ≤ text.length := (hstep.shrinks hrun).length_le
      omega
    have hrepeat : ∀ (least : Nat) (most : Option Nat), Agree Past (repeatLast fuel seen least most)
        (repeatLast fuel' seen least most) ⟨text, after.flags, after.groups, after.names⟩ := by
      intro least most
      unfold repeatLast
      split
      · exact agree_repeatFrom h hle least most (Nat.le_of_succ_le htail)
      · exact agree_fail
    -- By the character that comes next, in the order in which `parts` asks for it.
    dsimp only
    split
    next hnone => cases hnone
    · exact agree_pure
    · exact agree_pure
    · exact agree_get_bind (agree_openedGroup h hle htail)
    · refine h.thenParts hpos hle ((classesAgree fuel).1 _ _ _ _ _ _ hle htail)
        fun found later hrun => ?_
      have hlater : later.rest.length ≤ text.length := ((classesConsume fuel).1 hrun).length_le
      omega
    · exact agree_advance_bind (hrepeat 0 (some 1))
    · exact agree_advance_bind (hrepeat 0 none)
    · exact agree_advance_bind (hrepeat 1 none)
    · split
      · exact agree_counted h hle htail
      · exact agree_fail
    · exact agree_escaped h hle htail
    · exact agree_advance_bind (hthen steady_anyChar)
    · exact agree_advance_bind (agree_get_bind (h.2 _ _ _ hle (Nat.le_of_succ_le htail)))
    · exact agree_advance_bind (agree_get_bind (h.2 _ _ _ hle (Nat.le_of_succ_le htail)))
    · exact agree_advance_bind (hthen (steady_literal _))
  · obtain ⟨_, flags, groups, names⟩ := after
    obtain rfl : _ = [] := atEnd
    exact .swallowed (sequence seen) ⟨[], flags, groups, names⟩ rfl

theorem branchesAgree (fuel : Nat) : BranchesAgree fuel := by
  induction fuel with
  | zero => exact ⟨fun _ _ _ _ h => by omega, fun _ _ _ _ h => by omega⟩
  | succ fuel ih =>
    refine ⟨fun fuel' earlier reading hle hfuel => ?_, fun fuel' seen reading hle hfuel => ?_⟩
    · obtain ⟨fuel', rfl⟩ : ∃ less, fuel' = less + 1 := ⟨fuel' - 1, by omega⟩
      exact agree_branches_succ ih (by omega) (by omega)
    · obtain ⟨fuel', rfl⟩ : ∃ less, fuel' = less + 1 := ⟨fuel' - 1, by omega⟩
      exact agree_parts_succ ih (by omega) (by omega)

end

end GrammarBrew.Pattern
