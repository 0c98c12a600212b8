import GrammarBrew.Matcher
import Mathlib.Data.List.Infix
import Mathlib.Data.Nat.Find

/-!
Where a mark stands in a text, and what a cut at it leaves. The leftmost place is the one that is
cut out. Two occurrences that overlap share a border of the mark: where a mark has none, an
occurrence is overlapped by no other.
-/

set_option autoImplicit false
set_option relaxedAutoImplicit false

namespace GrammarBrew.Text

variable {c : Char} {mark text front rest seen : Text} {i : Nat}

def OccursAt (name text : Text) (i : Nat) : Prop :=
  ∃ front rest, text = front ++ name ++ rest ∧ front.length = i

/-- What a mark both begins and ends with is the whole mark or nothing. -/
def Borderless (mark : Text) : Prop :=
  ∀ border, border ≠ [] → border <+: mark → border <:+ mark → border = mark

instance (mark : Text) : Decidable (Borderless mark) :=
  decidable_of_iff (∀ border ∈ mark.inits, border ≠ [] → border <:+ mark → border = mark) <| by
    simp only [List.mem_inits, Borderless]
    exact forall_congr' fun border => imp.swap

/-! ### Places -/

private theorem occursAt_append (front rest : Text) :
    OccursAt mark (front ++ mark ++ rest) front.length :=
  ⟨front, rest, rfl, rfl⟩

private theorem occursAt_zero_iff : OccursAt mark text 0 ↔ mark <+: text := by
  constructor
  · rintro ⟨front, rest, rfl, hfront⟩
    obtain rfl := List.length_eq_zero_iff.1 hfront
    exact ⟨rest, rfl⟩
  · rintro ⟨rest, rfl⟩
    exact occursAt_append [] rest

private theorem occursAt_succ_iff : OccursAt mark (c :: text) (i + 1) ↔ OccursAt mark text i := by
  constructor
  · rintro ⟨front, rest, htext, hplace⟩
    cases front with
    | nil => cases hplace
    | cons d front =>
      obtain ⟨-, rfl⟩ := List.cons.inj htext
      exact ⟨front, rest, rfl, Nat.succ.inj hplace⟩
  · rintro ⟨front, rest, rfl, rfl⟩
    exact occursAt_append (c :: front) rest

theorem exists_occursAt_iff : (∃ i, OccursAt mark text i) ↔ mark <:+: text := by
  constructor
  · rintro ⟨_, front, rest, rfl, -⟩
    exact List.infix_append front mark rest
  · rintro ⟨front, rest, rfl⟩
    exact ⟨front.length, occursAt_append front rest⟩

/-! ### The leftmost place -/

private theorem cutFrom_eq_some_iff : cutFrom mark seen text = some (front, rest) ↔
    ∃ passed, front = seen.reverse ++ passed ∧ text = passed ++ mark ++ rest ∧
      ∀ i, OccursAt mark text i → passed.length ≤ i := by
  induction text generalizing seen with
  | nil =>
    simp only [cutFrom, List.isEmpty_iff, Option.ite_none_right_eq_some, Option.some_inj,
      Prod.mk.injEq]
    constructor
    · rintro ⟨rfl, rfl, rfl⟩
      exact ⟨[], by simp⟩
    · rintro ⟨passed, rfl, htext, -⟩
      obtain ⟨rfl, rfl, rfl⟩ : passed = [] ∧ mark = [] ∧ rest = [] := by simpa using htext.symm
      simp
  | cons c text ih =>
    -- Either the mark stands here, which ends the search, or the first character is passed.
    cases hhere : mark.isPrefixOf? (c :: text) with
    | some after =>
      have htext : c :: text = mark ++ after := Matcher.isPrefixOf?_eq_some_iff.1 hhere
      have hcut : cutFrom mark seen (c :: text) = some (seen.reverse, after) := by
        simp only [cutFrom, hhere]
      rw [hcut, Option.some_inj, Prod.mk.injEq]
      constructor
      · rintro ⟨rfl, rfl⟩
        exact ⟨[], by simp, htext, fun i _ => Nat.zero_le i⟩
      · rintro ⟨passed, rfl, hpassed, hfirst⟩
        have hstart : OccursAt mark (c :: text) 0 := occursAt_zero_iff.2 ⟨after, htext.symm⟩
        obtain rfl := List.length_eq_zero_iff.1 (Nat.le_zero.1 (hfirst 0 hstart))
        simpa using htext.symm.trans hpassed
    | none =>
      have hstart : ¬ OccursAt mark (c :: text) 0 := by
        rw [occursAt_zero_iff]
        rintro ⟨after, hafter⟩
        rw [Matcher.isPrefixOf?_eq_some_iff.2 hafter.symm] at hhere
        cases hhere
      have hcut : cutFrom mark seen (c :: text) = cutFrom mark (c :: seen) text := by
        simp only [cutFrom, hhere]
      rw [hcut, ih]
      constructor
      · rintro ⟨passed, rfl, rfl, hfirst⟩
        refine ⟨c :: passed, by simp, by simp, fun i hi => ?_⟩
        cases i with
        | zero => exact absurd hi hstart
        | succ i => exact Nat.succ_le_succ (hfirst i (occursAt_succ_iff.1 hi))
      · rintro ⟨passed, rfl, htext, hfirst⟩
        cases passed with
        | nil => exact absurd (occursAt_zero_iff.2 ⟨rest, htext.symm⟩) hstart
        | cons d passed =>
          obtain ⟨rfl, htail⟩ := List.cons.inj htext
          refine ⟨passed, by simp, htail, fun i hi => ?_⟩
          exact Nat.le_of_succ_le_succ (hfirst _ (occursAt_succ_iff.2 hi))

theorem cut_eq_some_iff : cut mark text = some (front, rest) ↔
    text = front ++ mark ++ rest ∧ ∀ i, OccursAt mark text i → front.length ≤ i := by
  rw [cut, cutFrom_eq_some_iff]
  simp

theorem cut_singleton_eq_some_iff : cut [c] text = some (front, rest) ↔
    c ∉ front ∧ text = front ++ c :: rest := by
  rw [cut_eq_some_iff, and_comm, List.append_assoc, List.singleton_append]
  refine and_congr_left ?_
  rintro rfl
  constructor
  · intro hfirst hmem
    obtain ⟨before, after, rfl⟩ := List.append_of_mem hmem
    have hplace : (before ++ c :: after).length ≤ before.length :=
      hfirst before.length ⟨before, after ++ c :: rest, by simp, rfl⟩
    rw [List.length_append, List.length_cons] at hplace
    omega
  · rintro hnone _ ⟨before, after, htext, rfl⟩
    by_contra hlt
    have hbefore : (front ++ c :: rest)[before.length]? = some c := by simp [htext]
    rw [List.getElem?_append_left (Nat.not_le.1 hlt)] at hbefore
    exact hnone (List.mem_of_getElem? hbefore)

theorem cut_eq_none_iff : cut mark text = none ↔ ¬ mark <:+: text := by
  rw [← exists_occursAt_iff]
  constructor
  · intro hnone hoccurs
    -- The least place of the mark would be cut out.
    classical
    obtain ⟨front, rest, htext, hplace⟩ := Nat.find_spec hoccurs
    have hcut : cut mark text = some (front, rest) :=
      cut_eq_some_iff.2 ⟨htext, fun i hi => hplace ▸ Nat.find_le hi⟩
    rw [hnone] at hcut
    cases hcut
  · intro hnot
    cases hcut : cut mark text with
    | none => rfl
    | some parts =>
      obtain ⟨front, rest⟩ := parts
      exact absurd ⟨front.length, front, rest, (cut_eq_some_iff.1 hcut).1, rfl⟩ hnot

/-! ### Overlaps -/

private theorem exists_border {other after : Text}
    (h : front ++ mark ++ rest = other ++ mark ++ after)
    (hbefore : other.length < front.length) (hover : front.length < other.length + mark.length) :
    ∃ border, border ≠ [] ∧ border <+: mark ∧ border <:+ mark ∧ border ≠ mark := by
  rw [List.append_assoc, List.append_assoc] at h
  have hfront : other <+: front :=
    List.prefix_of_prefix_length_le ⟨_, h.symm⟩ (List.prefix_append _ _) (Nat.le_of_lt hbefore)
  obtain ⟨passed, rfl⟩ := hfront
  rw [List.append_assoc, List.append_cancel_left_eq] at h
  rw [List.length_append] at hbefore hover
  have hpassed : passed <+: mark :=
    List.prefix_of_prefix_length_le ⟨_, h⟩ (List.prefix_append _ _) (by omega)
  obtain ⟨border, rfl⟩ := hpassed
  rw [List.append_assoc passed border after, List.append_cancel_left_eq] at h
  rw [List.length_append] at hover
  refine ⟨border, ?_, ?_, List.suffix_append passed border, ?_⟩
  · rintro rfl
    simp at hover
  · exact List.prefix_of_prefix_length_le ⟨after, h.symm⟩ (List.prefix_append _ _) (by simp)
  · intro hwhole
    have hlength := congrArg List.length hwhole
    rw [List.length_append] at hlength
    omega

/-- A mark without a border stands first after a text exactly if the text does not contain it. -/
theorem Borderless.first_iff (h : Borderless mark) (hmark : mark ≠ []) :
    (∀ i, OccursAt mark (front ++ mark ++ rest) i → front.length ≤ i) ↔ ¬ mark <:+: front := by
  constructor
  · rintro hfirst ⟨other, after, rfl⟩
    have hearlier : OccursAt mark (other ++ mark ++ after ++ mark ++ rest) other.length :=
      ⟨other, after ++ mark ++ rest, by simp, rfl⟩
    have hle := hfirst _ hearlier
    have hpos := List.length_pos_iff.2 hmark
    simp only [List.length_append] at hle
    omega
  · rintro hnot i ⟨other, after, htext, rfl⟩
    by_contra hle
    -- An earlier occurrence lies before this one, or reaches into it.
    by_cases hover : front.length < other.length + mark.length
    · obtain ⟨border, hborder, hbegins, hends, hne⟩ := exists_border htext (Nat.not_le.1 hle) hover
      exact hne (h border hborder hbegins hends)
    · have hprefix : other ++ mark <+: front := by
        rw [List.append_assoc front] at htext
        exact List.prefix_of_prefix_length_le ⟨after, htext.symm⟩ (List.prefix_append _ _)
          (by simpa using Nat.not_lt.1 hover)
      exact hnot ((List.suffix_append other mark).isInfix.trans hprefix.isInfix)

end GrammarBrew.Text
