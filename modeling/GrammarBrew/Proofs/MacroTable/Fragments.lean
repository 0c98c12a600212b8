import GrammarBrew.MacroTable.Section
import Mathlib.Data.List.Basic

/-!
The terminators of a macro section, and the fragments between them. Where no terminator lies across
the place at which two texts meet, the last fragment of the one and the first of the other run
together and all others stay.
-/

set_option autoImplicit false
set_option relaxedAutoImplicit false

namespace GrammarBrew.MacroTable

variable {c : Char} {text front rest seen terminator : Text}

/-- What ends a declaration that is not the last: a semicolon right before a line break. -/
def terminators : List Text := [[';', '\n'], [';', '\r', '\n']]

def BeginsTerminator (text : Text) : Prop := ∃ terminator ∈ terminators, terminator <+: text

theorem terminator_cases (h : terminator ∈ terminators) :
    terminator = [';', '\n'] ∨ terminator = [';', '\r', '\n'] := by simpa [terminators] using h

private theorem fragmentsFrom_terminator (h : terminator ∈ terminators) :
    fragmentsFrom seen (terminator ++ rest) = seen.reverse :: fragments rest := by
  rcases terminator_cases h with rfl | rfl <;> simp [fragmentsFrom, fragments]

private theorem fragmentsFrom_char (h : ¬ BeginsTerminator (c :: text)) :
    fragmentsFrom seen (c :: text) = fragmentsFrom (c :: seen) text := by
  refine fragmentsFrom.eq_4 seen c text ?_ ?_
  · rintro rest rfl rfl
    exact h ⟨[';', '\n'], by simp [terminators], rest, rfl⟩
  · rintro rest rfl rfl
    exact h ⟨[';', '\r', '\n'], by simp [terminators], rest, rfl⟩

@[elab_as_elim]
theorem fragmentsInduction {motive : Text → Prop} (nil : motive [])
    (terminated : ∀ terminator rest, terminator ∈ terminators → motive rest →
      motive (terminator ++ rest))
    (char : ∀ c rest, ¬ BeginsTerminator (c :: rest) → motive rest → motive (c :: rest))
    (text : Text) : motive text := by
  induction hlength : text.length using Nat.strongRecOn generalizing text with
  | ind n ih =>
    by_cases hterminator : BeginsTerminator text
    · obtain ⟨terminator, hmem, rest, rfl⟩ := hterminator
      refine terminated terminator rest hmem (ih rest.length ?_ rest rfl)
      have hpos : 0 < terminator.length := by
        rcases terminator_cases hmem with rfl | rfl <;> simp
      rw [← hlength, List.length_append]
      omega
    · cases text with
      | nil => exact nil
      | cons c rest => exact char c rest hterminator (ih rest.length (by simp [← hlength]) rest rfl)

private theorem fragmentsFrom_seen :
    fragmentsFrom seen text = (fragments text).modifyHead (seen.reverse ++ ·) := by
  induction text using fragmentsInduction generalizing seen with
  | nil => simp [fragmentsFrom, fragments]
  | terminated terminator rest h ih =>
    simp [fragments, fragmentsFrom_terminator h]
  | char c rest h ih =>
    rw [fragments, fragmentsFrom_char h, fragmentsFrom_char h, ih, ih, List.modifyHead_modifyHead]
    simp [Function.comp_def]

@[simp] theorem fragments_nil : fragments [] = [[]] := rfl

theorem fragments_terminator_append (h : terminator ∈ terminators) :
    fragments (terminator ++ rest) = [] :: fragments rest := fragmentsFrom_terminator h

theorem fragments_cons (h : ¬ BeginsTerminator (c :: text)) :
    fragments (c :: text) = (fragments text).modifyHead (c :: ·) := by
  rw [fragments, fragmentsFrom_char h, fragmentsFrom_seen]
  rfl

theorem fragments_ne_nil (text : Text) : fragments text ≠ [] := by
  induction text using fragmentsInduction with
  | nil => simp
  | terminated terminator rest h ih => simp [fragments_terminator_append h]
  | char c rest h ih =>
    obtain ⟨part, parts, hparts⟩ := List.exists_cons_of_ne_nil ih
    simp [fragments_cons h, hparts]

def openFragment (text : Text) : Text := (fragments text).getLastD []

theorem fragments_eq_dropLast_concat (text : Text) :
    fragments text = (fragments text).dropLast ++ [openFragment text] := by
  rw [openFragment, List.getLastD_eq_getLast?,
    List.getLast?_eq_some_getLast (fragments_ne_nil text)]
  exact (List.dropLast_concat_getLast (fragments_ne_nil text)).symm

/-! ### Texts without terminators -/

def Unterminated (text : Text) : Prop := ∀ terminator ∈ terminators, ¬ terminator <:+: text

instance (text : Text) : Decidable (Unterminated text) :=
  inferInstanceAs (Decidable (∀ terminator ∈ terminators, ¬ terminator <:+: text))

theorem Unterminated.of_infix (h : Unterminated text) {part : Text} (hpart : part <:+: text) :
    Unterminated part :=
  fun terminator hmem hinside => h terminator hmem (hinside.trans hpart)

private theorem unterminated_cons :
    Unterminated (c :: text) ↔ ¬ BeginsTerminator (c :: text) ∧ Unterminated text := by
  constructor
  · intro h
    refine ⟨?_, h.of_infix (List.suffix_cons c text).isInfix⟩
    rintro ⟨terminator, hmem, hbegins⟩
    exact h terminator hmem hbegins.isInfix
  · rintro ⟨hstart, hrest⟩ terminator hmem hinside
    rcases List.infix_cons_iff.1 hinside with hbegins | hlater
    · exact hstart ⟨terminator, hmem, hbegins⟩
    · exact hrest terminator hmem hlater

theorem unterminated_of_not_mem (h : ';' ∉ text) : Unterminated text := by
  intro terminator hmem hinside
  refine h (hinside.subset ?_)
  rcases terminator_cases hmem with rfl | rfl <;> simp

theorem fragments_of_unterminated (h : Unterminated text) : fragments text = [text] := by
  induction text with
  | nil => rfl
  | cons c text ih =>
    obtain ⟨hstart, hrest⟩ := unterminated_cons.1 h
    rw [fragments_cons hstart, ih hrest]
    rfl

private theorem prefix_of_fragments_eq_cons {part : Text} {parts : List Text}
    (h : fragments text = part :: parts) : part <+: text := by
  induction text using fragmentsInduction generalizing part parts with
  | nil =>
    obtain ⟨rfl, -⟩ := List.cons.inj h
    exact List.nil_prefix
  | terminated terminator rest hterminator ih =>
    rw [fragments_terminator_append hterminator] at h
    obtain ⟨rfl, -⟩ := List.cons.inj h
    exact List.nil_prefix
  | char c rest hstart ih =>
    obtain ⟨first, others, hfirst⟩ := List.exists_cons_of_ne_nil (fragments_ne_nil rest)
    rw [fragments_cons hstart, hfirst, List.modifyHead_cons] at h
    obtain ⟨rfl, -⟩ := List.cons.inj h
    exact List.cons_prefix_cons.2 ⟨rfl, ih hfirst⟩

theorem isInfix_of_mem_fragments {part : Text} (h : part ∈ fragments text) : part <:+: text := by
  induction text using fragmentsInduction generalizing part with
  | nil =>
    obtain rfl : part = [] := by simpa using h
    exact List.nil_infix
  | terminated terminator rest hterminator ih =>
    rw [fragments_terminator_append hterminator] at h
    rcases List.mem_cons.1 h with rfl | hlater
    · exact List.nil_infix
    · exact (ih hlater).trans (List.suffix_append terminator rest).isInfix
  | char c rest hstart ih =>
    obtain ⟨first, others, hfirst⟩ := List.exists_cons_of_ne_nil (fragments_ne_nil rest)
    rw [fragments_cons hstart, hfirst, List.modifyHead_cons] at h
    rw [hfirst] at ih
    rcases List.mem_cons.1 h with rfl | hlater
    · exact (List.cons_prefix_cons.2 ⟨rfl, prefix_of_fragments_eq_cons hfirst⟩).isInfix
    · exact (ih (List.mem_cons_of_mem _ hlater)).trans (List.suffix_cons c rest).isInfix

/-- No terminator is left in a fragment. -/
theorem unterminated_of_mem_fragments {part : Text} (h : part ∈ fragments text) :
    Unterminated part := by
  have hnone : Unterminated [] := unterminated_of_not_mem List.not_mem_nil
  induction text using fragmentsInduction generalizing part with
  | nil =>
    obtain rfl : part = [] := by simpa using h
    exact hnone
  | terminated terminator rest hterminator ih =>
    rw [fragments_terminator_append hterminator] at h
    rcases List.mem_cons.1 h with rfl | hlater
    · exact hnone
    · exact ih hlater
  | char c rest hstart ih =>
    obtain ⟨first, others, hfirst⟩ := List.exists_cons_of_ne_nil (fragments_ne_nil rest)
    rw [fragments_cons hstart, hfirst, List.modifyHead_cons] at h
    rw [hfirst] at ih
    rcases List.mem_cons.1 h with rfl | hlater
    · refine unterminated_cons.2 ⟨?_, ih List.mem_cons_self⟩
      -- A terminator at the start of the fragment would be one at the start of the text.
      rintro ⟨terminator, hmem, hbegins⟩
      have hprefix : c :: first <+: c :: rest :=
        List.cons_prefix_cons.2 ⟨rfl, prefix_of_fragments_eq_cons hfirst⟩
      exact hstart ⟨terminator, hmem, hbegins.trans hprefix⟩
    · exact ih (List.mem_cons_of_mem _ hlater)

/-! ### Where two texts meet -/

/-- A place lies within a terminator, with `rest` after the terminator. -/
def InsideTerminator (before after rest : Text) : Prop :=
  ∃ front opening closing, opening ≠ [] ∧ closing ≠ [] ∧ opening ++ closing ∈ terminators ∧
    before = front ++ opening ∧ after = closing ++ rest

def glue : List Text → List Text → List Text
  | [], later => later
  | [part], later => later.modifyHead (part ++ ·)
  | part :: next :: others, later => part :: glue (next :: others) later

private theorem glue_cons {part : Text} {parts later : List Text} (h : parts ≠ []) :
    glue (part :: parts) later = part :: glue parts later := by
  obtain ⟨next, others, rfl⟩ := List.exists_cons_of_ne_nil h
  rfl

private theorem glue_modifyHead {parts later : List Text} (h : parts ≠ []) :
    glue (parts.modifyHead (c :: ·)) later = (glue parts later).modifyHead (c :: ·) := by
  obtain ⟨part, others, rfl⟩ := List.exists_cons_of_ne_nil h
  cases others with
  | nil => cases later <;> rfl
  | cons next others => rfl

theorem glue_concat (earlier later : List Text) (last first : Text) :
    glue (earlier ++ [last]) (first :: later) = earlier ++ (last ++ first) :: later := by
  induction earlier with
  | nil => rfl
  | cons part earlier ih =>
    rw [List.cons_append, glue_cons (by simp), ih]
    rfl

/-- The fragments of two texts that meet at a place within no terminator. -/
theorem fragments_append (h : ∀ after, ¬ InsideTerminator front rest after) :
    fragments (front ++ rest) = glue (fragments front) (fragments rest) := by
  induction front using fragmentsInduction with
  | nil =>
    obtain ⟨part, parts, hparts⟩ := List.exists_cons_of_ne_nil (fragments_ne_nil rest)
    simp [glue, hparts]
  | terminated terminator front hterminator ih =>
    rw [List.append_assoc, fragments_terminator_append hterminator,
      fragments_terminator_append hterminator, glue_cons (fragments_ne_nil front), ih]
    rintro after ⟨earlier, opening, closing, hopening, hclosing, hmem, rfl, rfl⟩
    exact h after ⟨terminator ++ earlier, opening, closing, hopening, hclosing, hmem,
      by rw [List.append_assoc], rfl⟩
  | char c front hchar ih =>
    -- A terminator that begins here either ends within the first text or lies across the place.
    have hstart : ¬ BeginsTerminator (c :: (front ++ rest)) := by
      rintro ⟨terminator, hmem, after, heq⟩
      rcases List.append_eq_append_iff.1 (heq.trans (List.cons_append (a := c)).symm) with
        ⟨left, hleft, -⟩ | ⟨closing, rfl, hrest⟩
      · exact hchar ⟨terminator, hmem, left, hleft.symm⟩
      · by_cases hclosing : closing = []
        · subst hclosing
          exact hchar ⟨_, hmem, [], by simp⟩
        · exact h after ⟨[], c :: front, closing, by simp, hclosing, hmem, rfl, hrest⟩
    rw [List.cons_append, fragments_cons hstart, ih, fragments_cons hchar,
      glue_modifyHead (fragments_ne_nil front)]
    rintro after ⟨earlier, opening, closing, hopening, hclosing, hmem, rfl, rfl⟩
    exact h after ⟨c :: earlier, opening, closing, hopening, hclosing, hmem, rfl, rfl⟩

theorem fragments_append_semicolon (front rest : Text) :
    fragments (front ++ ';' :: rest) = glue (fragments front) (fragments (';' :: rest)) := by
  refine fragments_append ?_
  rintro after ⟨earlier, opening, closing, hopening, hclosing, hmem, -, hafter⟩
  obtain ⟨c, others, rfl⟩ := List.exists_cons_of_ne_nil hopening
  obtain ⟨d, gap, rfl⟩ := List.exists_cons_of_ne_nil hclosing
  obtain ⟨rfl, -⟩ := List.cons.inj hafter
  have hinside : ';' ∈ others ++ ';' :: gap := by simp
  rcases terminator_cases hmem with hsplit | hsplit
  all_goals
    rw [List.cons_append] at hsplit
    rw [(List.cons.inj hsplit).2] at hinside
    simp at hinside

end GrammarBrew.MacroTable
