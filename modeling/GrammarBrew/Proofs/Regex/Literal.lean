import GrammarBrew.Proofs.Regex.Matches
import GrammarBrew.Proofs.Regex.Normal
import GrammarBrew.Proofs.Regex.Runs

/-!
Expressions for literal texts, with conditions at their ends. In normal form the characters are one
literal, whose states read it one after the other; so a match is the text itself, at a place at
which the conditions hold.
-/

set_option autoImplicit false
set_option relaxedAutoImplicit false

namespace GrammarBrew

/-! ### Normal form -/

theorem CharSet.runs_single (c : Char) : (single c).runs = [(c.toNat, c.toNat)] := by
  have hc : c.toNat < 0xd800 ∨ 0xdfff < c.toNat ∧ c.toNat < 0x110000 := c.valid
  show outside (outside [(c.toNat, c.toNat)]) = _
  generalize c.toNat = n at hc
  -- Runs that meet are joined, which happens next to the surrogates and at the ends.
  obtain rfl | ⟨hlow, hhigh⟩ | rfl | rfl | ⟨hlow, hhigh⟩ | rfl :
      n = 0 ∨ (0 < n ∧ n < 0xd7ff) ∨ n = 0xd7ff ∨
      n = 0xe000 ∨ (0xe000 < n ∧ n < 0x10ffff) ∨ n = 0x10ffff := by omega
  · rfl
  · simp (disch := omega) only [outside, unite, merge, mergeFrom, join, joinFrom, gapsFrom,
      if_pos, if_neg]
    rw [Nat.sub_add_cancel hlow, Nat.add_sub_cancel]
  · rfl
  · rfl
  · simp (disch := omega) only [outside, unite, merge, mergeFrom, join, joinFrom, gapsFrom,
      if_pos, if_neg]
    have hfirst : max (max (0xd800 - 1) 0xdfff) (n - 1) + 1 = n := by omega
    rw [hfirst, Nat.add_sub_cancel]
  · rfl

namespace Regex

def ofParts : List Regex → Regex
  | [] => .empty
  | [part] => part
  | part :: rest => .seq part (ofParts rest)

theorem ofParts_cons (part : Regex) {rest : List Regex} (h : rest ≠ []) :
    ofParts (part :: rest) = .seq part (ofParts rest) := by
  obtain ⟨next, rest, rfl⟩ := List.exists_cons_of_ne_nil h
  rfl

end Regex

namespace Normal

def Plain : Normal → Prop
  | literal _ | look _ => True
  | _ => False

private theorem ne_singleton_alt {parts : List Normal} (plain : ∀ part ∈ parts, Plain part)
    (first second : Normal) :
    parts ≠ [alt first second] := by
  rintro rfl
  exact plain _ List.mem_cons_self

private theorem plain_before {part : Normal} {rest : List Normal} (h : Plain part)
    (plain : ∀ part ∈ rest, Plain part) :
    ∀ other ∈ before part rest, Plain other := by
  intro other hother
  unfold before at hother
  split at hother
  · rcases List.mem_cons.1 hother with rfl | hlater
    · trivial
    · exact plain other (List.mem_cons_of_mem _ hlater)
  · rcases List.mem_cons.1 hother with rfl | hlater
    · exact h
    · exact plain other hlater

/-- Parts that are literals or conditions stand one after the other in normal form, literals that
meet as one. -/
theorem chooseAll_ofParts {parts : List (Regex × Normal)} (named : parts ≠ [])
    (branches : ∀ part ∈ parts, part.1.normalBranches = [[part.2]])
    (plain : ∀ part ∈ parts, Plain part.2) :
    chooseAll (Regex.ofParts (parts.map Prod.fst)).normalBranches
      = (parts.map Prod.snd).foldr before [] ∧
      ∀ part ∈ (parts.map Prod.snd).foldr before [], Plain part := by
  induction parts with
  | nil => exact absurd rfl named
  | cons part rest ih =>
    obtain ⟨hpart, hrest⟩ := List.forall_mem_cons.1 branches
    obtain ⟨hplain, hplainRest⟩ := List.forall_mem_cons.1 plain
    have hone : chooseAll part.1.normalBranches = [part.2] := by
      rw [hpart]
      exact chooseAll_singleton (ne_singleton_alt (List.forall_mem_singleton.2 hplain))
    by_cases hnil : rest = []
    · subst hnil
      have hbefore : before part.2 [] = [part.2] := by
        cases part.2 <;> rfl
      rw [List.map_cons, List.map_cons, List.foldr_cons, List.map_nil, List.map_nil,
        List.foldr_nil, hbefore]
      exact ⟨hone, List.forall_mem_singleton.2 hplain⟩
    · obtain ⟨hothers, hplainOthers⟩ := ih hnil hrest hplainRest
      have hall : ∀ other ∈ ((part :: rest).map Prod.snd).foldr before [], Plain other :=
        plain_before hplain hplainOthers
      have hchosen : chooseAll [((part :: rest).map Prod.snd).foldr before []]
          = ((part :: rest).map Prod.snd).foldr before [] :=
            chooseAll_singleton (ne_singleton_alt hall)
      refine ⟨?_, hall⟩
      rw [List.map_cons, Regex.ofParts_cons _ (by simpa using hnil), Regex.normalBranches,
        hone, hothers]
      exact hchosen

end Normal

/-! ### The states of a literal -/

namespace Normal

open Machine

private theorem concat_prefix_iff {front text : Text} {c : Char} :
    front ++ [c] <+: text ↔ front <+: text ∧ text[front.length]? = some c := by
  constructor
  · rintro ⟨rest, rfl⟩
    exact ⟨by simp, by simp⟩
  · rintro ⟨⟨rest, rfl⟩, hc⟩
    rw [List.getElem?_append_right (Nat.le_refl _), Nat.sub_self] at hc
    cases rest with
    | nil => cases hc
    | cons d rest =>
      obtain rfl : d = c := by simpa using hc
      exact ⟨rest, by simp⟩

private theorem accepts_addText (text : Text) {after : States} (before : Text) (next : Nat)
    (states : States)
    (same : ∀ k < (States.addText next states before).2.size,
      after[k]? = (States.addText next states before).2[k]?) (place : Nat) (slots found : Slots) :
    Accepts after text.toArray ((States.addText next states before).1, place, slots) found ↔
      before.reverse <+: text.drop place ∧
        Accepts after text.toArray (next, place + before.length, slots) found := by
  induction before generalizing next states with
  | nil => simp [States.addText]
  | cons c before ih =>
    have hadd : States.addText next states (c :: before)
        = States.addText states.size (Array.push states (.read [(c.toNat, c.toNat)] next)) before :=
          rfl
    have hadded : States.Added (fun _ => True) states.size
        (Array.push states (.read [(c.toNat, c.toNat)] next))
        (States.addText next states (c :: before)) := by
      have hliteral := States.added_any (.literal before.reverse) states.size
        (Array.push states (.read [(c.toNat, c.toNat)] next))
      rwa [States.add, List.reverse_reverse, ← hadd] at hliteral
    have hlt : states.size < (Array.push states (.read [(c.toNat, c.toNat)] next)).size := by simp
    have hstate : after.getD states.size .accept = .read [(c.toNat, c.toNat)] next := by
      rw [Array.getD_eq_getD_getElem?, same _ (Nat.lt_of_lt_of_le hlt hadded.size),
        hadded.same _ hlt]
      simp
    have hreads : (text[place + before.length]?.any fun d =>
        Text.inRuns [(c.toNat, c.toNat)] d.toNat) = true ↔
        text[place + before.length]? = some c := by
      simp [Option.any_eq_true, CharSet.inRuns_single_iff]
    have hread : Accepts after text.toArray (states.size, place + before.length, slots) found ↔
        (text.drop place)[before.reverse.length]? = some c ∧
          Accepts after text.toArray (next, place + (c :: before).length, slots) found := by
      rw [accepts_iff]
      simp [nexts, hstate, hreads, Nat.add_assoc]
    rw [List.reverse_cons, concat_prefix_iff, and_assoc, ← hread]
    exact ih states.size _ same

theorem advances_literal (text name : Text) :
    Advances text.toArray (.literal name) fun place last =>
      name <+: text.drop place ∧ last = place + name.length := by
  intro next states after same place slots found
  refine (accepts_addText text name.reverse next states same place slots found).trans ?_
  rw [List.reverse_reverse, List.length_reverse]
  constructor
  · rintro ⟨hname, haccepts⟩
    exact ⟨_, ⟨hname, rfl⟩, haccepts⟩
  · rintro ⟨last, ⟨hname, rfl⟩, haccepts⟩
    exact ⟨hname, haccepts⟩

end Normal

end GrammarBrew
