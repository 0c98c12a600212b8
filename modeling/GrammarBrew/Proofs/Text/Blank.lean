import GrammarBrew.Text.Class
import Mathlib.Data.List.DropRight
import Mathlib.Data.List.TakeWhile

/-!
Trimming takes the blanks off one end of a text and nothing else: it goes through to the part that
stands at that end as soon as the part has a character that is no blank.
-/

set_option autoImplicit false
set_option relaxedAutoImplicit false

namespace GrammarBrew.Text

def AllBlank (text : Text) : Prop := ∀ c ∈ text, isBlank c = true

variable {c : Char} {text front rest : Text}

@[simp] theorem allBlank_nil : AllBlank [] := by simp [AllBlank]

@[simp] theorem allBlank_cons : AllBlank (c :: text) ↔ isBlank c = true ∧ AllBlank text :=
  List.forall_mem_cons

@[simp] theorem allBlank_append : AllBlank (front ++ rest) ↔ AllBlank front ∧ AllBlank rest :=
  List.forall_mem_append

/-! ### At the start -/

@[simp] private theorem trimStart_nil : trimStart [] = [] := rfl

private theorem trimStart_eq_nil_iff : trimStart text = [] ↔ AllBlank text :=
  List.dropWhile_eq_nil_iff

theorem trimStart_append_of_allBlank (h : AllBlank front) :
    trimStart (front ++ rest) = trimStart rest :=
  List.dropWhile_append_of_pos h

private theorem trimStart_append (h : ¬ AllBlank front) :
    trimStart (front ++ rest) = trimStart front ++ rest := by
  have hne : (front.dropWhile isBlank).isEmpty = false := by
    rw [List.isEmpty_eq_false_iff]
    exact fun hnil => h (trimStart_eq_nil_iff.1 hnil)
  rw [trimStart, List.dropWhile_append, hne]
  rfl

theorem trimStart_append_singleton (h : isBlank c = false) :
    trimStart (text ++ [c]) = trimStart text ++ [c] := by
  by_cases hall : AllBlank text
  · rw [trimStart_append_of_allBlank hall, trimStart_eq_nil_iff.2 hall]
    exact List.dropWhile_cons_of_neg (by simp [h])
  · exact trimStart_append hall

theorem exists_allBlank_append_trimStart (text : Text) :
    ∃ blanks, AllBlank blanks ∧ text = blanks ++ trimStart text :=
  ⟨text.takeWhile isBlank, fun _ hc => List.mem_takeWhile_imp hc,
    List.takeWhile_append_dropWhile.symm⟩

/-! ### At the end -/

theorem trimEnd_eq_nil_iff : trimEnd text = [] ↔ AllBlank text := List.rdropWhile_eq_nil_iff

theorem trimEnd_append_of_allBlank (h : AllBlank rest) :
    trimEnd (front ++ rest) = trimEnd front := by
  have hrest : AllBlank rest.reverse := fun c hc => h c (List.mem_reverse.1 hc)
  rw [trimEnd, List.reverse_append, List.dropWhile_append_of_pos hrest]
  rfl

theorem trimEnd_append (h : ¬ AllBlank rest) : trimEnd (front ++ rest) = front ++ trimEnd rest := by
  have hrest : ¬ AllBlank rest.reverse := fun hall => h fun c hc => hall c (List.mem_reverse.2 hc)
  have htrim : trimStart (rest.reverse ++ front.reverse) = trimStart rest.reverse
      ++ front.reverse :=
    trimStart_append hrest
  rw [trimStart] at htrim
  rw [trimEnd, List.reverse_append, htrim, List.reverse_append, List.reverse_reverse]
  rfl

theorem trimEnd_trimEnd : trimEnd (trimEnd text) = trimEnd text := List.rdropWhile_idempotent _ _

theorem exists_trimEnd_append_allBlank (text : Text) :
    ∃ blanks, AllBlank blanks ∧ text = trimEnd text ++ blanks :=
  ⟨text.rtakeWhile isBlank, fun _ hc => List.mem_rtakeWhile_imp hc,
    List.rdropWhile_append_rtakeWhile.symm⟩

theorem trimEnd_isPrefix : trimEnd text <+: text := List.rdropWhile_prefix isBlank text

theorem trimEnd_append_singleton (h : isBlank c = false) : trimEnd (text ++ [c]) = text ++ [c] :=
  List.rdropWhile_concat_neg isBlank text c (by simp [h])

/-! ### At both ends -/

theorem trim_isInfix : trim text <:+: text :=
  trimEnd_isPrefix.isInfix.trans (List.dropWhile_suffix isBlank).isInfix

theorem trim_eq_nil_iff : trim text = [] ↔ AllBlank text := by
  obtain ⟨blanks, hblanks, htext⟩ := exists_allBlank_append_trimStart text
  rw [trim, trimEnd_eq_nil_iff]
  constructor
  · intro h
    rw [htext, allBlank_append]
    exact ⟨hblanks, h⟩
  · intro h
    rw [htext, allBlank_append] at h
    exact h.2

theorem trimEnd_trim : trimEnd (trim text) = trim text := trimEnd_trimEnd

theorem trimStart_trim : trimStart (trim text) = trim text := by
  rw [trim]
  cases hstart : trimStart text with
  | nil => rfl
  | cons c rest =>
    have hc : isBlank c = false := by
      have := List.head?_dropWhile_not isBlank text
      rw [← trimStart, hstart] at this
      simpa using this
    obtain ⟨blanks, -, hsplit⟩ := exists_trimEnd_append_allBlank (c :: rest)
    cases hend : trimEnd (c :: rest) with
    | nil => rfl
    | cons d others =>
      rw [hend] at hsplit
      obtain ⟨rfl, -⟩ := List.cons.inj hsplit
      exact List.dropWhile_cons_of_neg (by simp [hc])

theorem trim_eq_trimStart_trimEnd : trim text = trimStart (trimEnd text) := by
  by_cases hall : AllBlank text
  · rw [trim_eq_nil_iff.2 hall, trimEnd_eq_nil_iff.2 hall, trimStart_nil]
  · obtain ⟨blanks, hblanks, htext⟩ := exists_allBlank_append_trimStart text
    have hrest : ¬ AllBlank (trimStart text) := fun hrest => hall (by
      rw [htext]
      exact allBlank_append.2 ⟨hblanks, hrest⟩)
    have hend : trimEnd text = blanks ++ trim text := by
      have happend : trimEnd (blanks ++ trimStart text) = blanks ++ trimEnd (trimStart text) :=
        trimEnd_append hrest
      rwa [← htext] at happend
    rw [hend, trimStart_append_of_allBlank hblanks, trimStart_trim]

theorem trim_trimEnd : trim (trimEnd text) = trim text := by
  rw [trim_eq_trimStart_trimEnd, trimEnd_trimEnd, ← trim_eq_trimStart_trimEnd]

theorem trim_trim : trim (trim text) = trim text := by
  rw [trim, trimStart_trim, trimEnd_trim]

end GrammarBrew.Text
