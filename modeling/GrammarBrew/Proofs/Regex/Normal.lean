import GrammarBrew.Proofs.Regex.Build
import Mathlib.Data.List.Basic

/-!
Groups in the normal form. To bring an expression into normal form makes no group up, and an
expression that is tied to both ends of the text stays tied to them.
-/

set_option autoImplicit false
set_option relaxedAutoImplicit false

namespace GrammarBrew

namespace Regex

def numbers : Regex → List Nat
  | seq first second | alt first second => first.numbers ++ second.numbers
  | rep body _ _ _ => body.numbers
  | group number body => number.toList ++ body.numbers
  | empty | set _ | look _ => []

/-- The expression that matches a text as a whole if another one does. -/
def wholeText (body : Regex) : Regex :=
  .seq (.look .textStart) (.seq (.group none body) (.look .textEnd))

end Regex

namespace Normal

variable {rest : List Normal} {choice : List (List Normal)}

/-! ### Parts and branches -/

private theorem numbers_parts (normal : Normal) :
    normal.parts.flatMap numbers = normal.numbers := by
  induction normal with
  | empty => rfl
  | seq first second hfirst hsecond => rw [parts, List.flatMap_append, hfirst, hsecond, numbers]
  | _ => exact List.flatMap_singleton ..

private theorem numbers_branches (normal : Normal) :
    normal.branches.flatMap numbers = normal.numbers := by
  induction normal with
  | alt first second hfirst hsecond => rw [branches, List.flatMap_append, hfirst, hsecond, numbers]
  | _ => exact List.flatMap_singleton ..

theorem ofParts_cons (part : Normal) (h : rest ≠ []) :
    ofParts (part :: rest) = .seq part (ofParts rest) := by
  obtain ⟨next, rest, rfl⟩ := List.exists_cons_of_ne_nil h
  rw [ofParts]
  simp

private theorem numbers_ofParts (parts : List Normal) :
    (ofParts parts).numbers = parts.flatMap numbers := by
  induction parts with
  | nil => rfl
  | cons part parts ih =>
    by_cases hparts : parts = []
    · subst hparts
      exact (List.flatMap_singleton ..).symm
    · rw [ofParts_cons part hparts, numbers, ih, List.flatMap_cons]

private theorem numbers_ofBranches (branches : List Normal) :
    (ofBranches branches).numbers = branches.flatMap numbers := by
  induction branches with
  | nil => rfl
  | cons branch branches ih =>
    by_cases hbranches : branches = []
    · subst hbranches
      exact (List.flatMap_singleton ..).symm
    · rw [ofBranches, numbers, ih, List.flatMap_cons]
      exact hbranches

private theorem numbers_before (part : Normal) (rest : List Normal) :
    (before part rest).flatMap numbers = part.numbers ++ rest.flatMap numbers := by
  unfold before
  split
  · rfl
  · exact List.flatMap_cons ..

private theorem numbers_append (first second : List Normal) :
    (append first second).flatMap numbers = first.flatMap numbers ++ second.flatMap numbers := by
  induction first with
  | nil => rfl
  | cons part first ih =>
    show (before part (append first second)).flatMap numbers = _
    rw [numbers_before, ih, List.flatMap_cons, List.append_assoc]

private theorem numbers_ofRuns (runs : List (Nat × Nat)) : (ofRuns runs).numbers = [] := by
  unfold ofRuns
  split
  · split <;> rfl
  · rfl

private theorem numbers_ofRep (body : Normal) (least : Nat) (most : Option Nat) (greedy : Bool) :
    (ofRep body least most greedy).numbers ⊆ body.numbers := by
  have hcases : ∀ (least : Nat) (most : Option Nat),
      (if least = 0 ∧ most = some 0 then empty
        else if least = 1 ∧ most = some 1 then body
        else rep body least most greedy).numbers ⊆ body.numbers := by
    intro least most
    split
    · exact List.nil_subset _
    · split <;> exact List.Subset.refl _
  exact hcases _ _

/-! ### Choices -/

private def held (choice : List (List Normal)) : List Nat :=
  choice.flatMap fun branch => branch.flatMap numbers

private theorem held_singleton (branch : List Normal) : held [branch] = branch.flatMap numbers :=
  List.flatMap_singleton ..

private theorem held_cons (branch : List Normal) (choice : List (List Normal)) :
    held (branch :: choice) = branch.flatMap numbers ++ held choice := List.flatMap_cons ..

private theorem held_flatten (choice : List (List Normal)) :
    held (flatten choice) = held choice := by
  rw [held, held, flatten, List.flatMap_assoc]
  refine List.flatMap_congr fun branch _ => ?_
  split
  next first second =>
    rw [List.flatMap_map]
    simp only [numbers_parts]
    rw [numbers_branches]
    exact (List.flatMap_singleton ..).symm
  · exact List.flatMap_singleton ..

private theorem commonStart_isPrefix (first second : List Normal) :
    commonStart first second <+: first ∧ commonStart first second <+: second := by
  induction first generalizing second with
  | nil => cases second <;> exact ⟨List.nil_prefix, List.nil_prefix⟩
  | cons part first ih =>
    cases second with
    | nil => exact ⟨List.nil_prefix, List.nil_prefix⟩
    | cons other second =>
      obtain ⟨hfirst, hsecond⟩ := ih second
      rw [commonStart]
      split
      next heq =>
        exact ⟨List.cons_prefix_cons.2 ⟨rfl, hfirst⟩, List.cons_prefix_cons.2 ⟨heq, hsecond⟩⟩
      next => exact ⟨List.nil_prefix, List.nil_prefix⟩

private theorem foldl_commonStart_isPrefix (others : List (List Normal)) (start : List Normal) :
    others.foldl commonStart start <+: start ∧
      ∀ other ∈ others, others.foldl commonStart start <+: other := by
  induction others generalizing start with
  | nil => exact ⟨List.prefix_refl _, by simp⟩
  | cons other others ih =>
    obtain ⟨hboth, hothers⟩ := ih (commonStart start other)
    obtain ⟨hstart, hother⟩ := commonStart_isPrefix start other
    exact ⟨hboth.trans hstart, List.forall_mem_cons.2 ⟨hboth.trans hother, hothers⟩⟩

theorem sharedStart_isPrefix : ∀ branch ∈ choice, sharedStart choice <+: branch := by
  cases choice with
  | nil => simp
  | cons first others =>
    rw [sharedStart]
    split
    · exact List.forall_mem_cons.2 (foldl_commonStart_isPrefix others first)
    · exact fun _ _ => List.nil_prefix

private theorem numbers_sharedStart (choice : List (List Normal)) :
    (sharedStart choice).flatMap numbers ⊆ held choice := by
  cases choice with
  | nil => exact List.nil_subset _
  | cons first others =>
    intro number hnumber
    obtain ⟨part, hpart, hheld⟩ := List.mem_flatMap.1 hnumber
    have hfirst := (sharedStart_isPrefix first List.mem_cons_self).subset hpart
    exact List.mem_flatMap.2 ⟨first, List.mem_cons_self, List.mem_flatMap.2 ⟨part, hfirst, hheld⟩⟩

private theorem numbers_branchOf (choice : List (List Normal)) :
    [ofBranches (choice.map ofParts)].flatMap numbers = held choice := by
  rw [List.flatMap_singleton, numbers_ofBranches, List.flatMap_map]
  simp only [numbers_ofParts]
  rfl

private theorem held_drop (length : Nat) (choice : List (List Normal)) :
    held (choice.map fun branch => branch.drop length) ⊆ held choice := by
  rw [held, List.flatMap_map]
  intro number hnumber
  obtain ⟨branch, hbranch, hheld⟩ := List.mem_flatMap.1 hnumber
  obtain ⟨part, hpart, hnumber⟩ := List.mem_flatMap.1 hheld
  exact List.mem_flatMap.2
    ⟨branch, hbranch, List.mem_flatMap.2 ⟨part, List.mem_of_mem_drop hpart, hnumber⟩⟩

private theorem numbers_choose (bound : Nat) (choice : List (List Normal)) :
    (choose bound choice).flatMap numbers ⊆ held choice := by
  rw [← held_flatten choice]
  fun_induction choose bound choice with
  | case1 bound choice branch hflat =>
    rw [hflat]
    rw [held_singleton]
    exact List.Subset.refl _
  | case2 bound choice sets =>
    rw [numbers_parts, numbers_ofRuns]
    exact List.nil_subset _
  | case3 choice =>
    rw [numbers_branchOf]
    exact List.Subset.refl _
  | case4 choice =>
    rw [numbers_branchOf]
    exact List.Subset.refl _
  | case5 choice bound hmany hsets start hstart =>
    rename_i ih
    rw [numbers_append]
    refine List.append_subset.2 ⟨numbers_sharedStart _, fun number hnumber => ?_⟩
    have hdrop := ih hnumber
    rw [held_flatten] at hdrop
    exact held_drop _ _ hdrop

private theorem numbers_chooseAll (choice : List (List Normal)) :
    (chooseAll choice).flatMap numbers ⊆ held choice := numbers_choose _ choice

/-! ### Conditions at the ends -/

theorem chooseAll_singleton {branch : List Normal}
    (h : ∀ first second, branch ≠ [alt first second]) :
    chooseAll [branch] = branch := by
  have hflat : flatten [branch] = [branch] := by
    rw [flatten, List.flatMap_singleton]
    split
    next first second => exact absurd rfl (h first second)
    · rfl
  rw [chooseAll, choose, hflat]

private theorem before_concat_look (part : Normal) (rest : List Normal) (condition : Look) :
    before part (rest ++ [.look condition]) = before part rest ++ [.look condition] := by
  cases rest with
  | nil => cases part <;> rfl
  | cons next rest => cases part <;> cases next <;> rfl

private theorem append_look (first : List Normal) (condition : Look) :
    append first [.look condition] = append first [] ++ [.look condition] := by
  induction first with
  | nil => rfl
  | cons part first ih =>
    show before part (append first [.look condition]) = before part (append first [])
        ++ [.look condition]
    rw [ih, before_concat_look]

end Normal

namespace Regex

open GrammarBrew.Normal

private theorem numbers_chooseAll_normalBranches {regex : Regex}
    (h : held regex.normalBranches ⊆ regex.numbers) :
    (chooseAll regex.normalBranches).flatMap Normal.numbers ⊆ regex.numbers :=
  List.Subset.trans (numbers_chooseAll _) h

private theorem held_normalBranches (regex : Regex) :
    held regex.normalBranches ⊆ regex.numbers := by
  induction regex with
  | empty => exact List.nil_subset _
  | set chars =>
    rw [normalBranches, held_singleton, numbers_parts, numbers_ofRuns]
    exact List.nil_subset _
  | look condition => exact List.nil_subset _
  | seq first second hfirst hsecond =>
    rw [normalBranches, held_singleton, numbers_append]
    exact List.append_subset.2
      ⟨List.subset_append_of_subset_left _ (numbers_chooseAll_normalBranches hfirst),
      List.subset_append_of_subset_right _ (numbers_chooseAll_normalBranches hsecond)⟩
  | alt first second hfirst hsecond =>
    rw [normalBranches, held_cons]
    exact List.append_subset.2
      ⟨List.subset_append_of_subset_left _ (numbers_chooseAll_normalBranches hfirst),
      List.subset_append_of_subset_right _ hsecond⟩
  | rep body least most greedy hbody =>
    rw [normalBranches, held_singleton, numbers_parts]
    refine List.Subset.trans (numbers_ofRep _ least most greedy) ?_
    rw [numbers_ofParts]
    exact numbers_chooseAll_normalBranches hbody
  | group number body hbody =>
    cases number with
    | none =>
      rw [normalBranches, held_singleton]
      exact numbers_chooseAll_normalBranches hbody
    | some number =>
      rw [normalBranches, held_singleton, List.flatMap_singleton, Normal.numbers, numbers_ofParts]
      exact List.cons_subset_cons number (numbers_chooseAll_normalBranches hbody)

/-- The normal form of an expression for whole texts begins and ends with the conditions on the
ends. -/
theorem normal_wholeText (body : Regex) : ∃ parts : List Normal,
    body.wholeText.normal = .seq (.look .textStart) (ofParts (parts ++ [.look .textEnd])) ∧
      parts.flatMap Normal.numbers ⊆ body.numbers := by
  refine ⟨append (chooseAll (group none body).normalBranches) [], ?_, ?_⟩
  · have hstart : chooseAll (look .textStart).normalBranches = [.look .textStart] :=
      chooseAll_singleton (by simp)
    have hend : chooseAll (look .textEnd).normalBranches = [.look .textEnd] :=
      chooseAll_singleton (by simp)
    have hrest : chooseAll (seq (group none body) (look .textEnd)).normalBranches
        = append (chooseAll (group none body).normalBranches) [] ++ [.look .textEnd] := by
      rw [normalBranches, hend, append_look, chooseAll_singleton]
      intro first second h
      have hlast := congrArg List.getLast? h
      simp at hlast
    have hwhole : body.wholeText.normalBranches
        = [.look .textStart ::
          (append (chooseAll (group none body).normalBranches) [] ++ [.look .textEnd])] := by
      rw [wholeText, normalBranches, hstart, hrest]
      rfl
    rw [normal, hwhole, chooseAll_singleton (by simp), ofParts_cons _ (by simp)]
  · rw [numbers_append, List.flatMap_nil, List.append_nil]
    exact numbers_chooseAll_normalBranches (held_normalBranches (group none body))

end Regex

end GrammarBrew
