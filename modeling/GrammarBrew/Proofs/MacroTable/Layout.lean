import GrammarBrew.Proofs.MacroTable.Statements

/-!
Layout in a macro section. A space or a tab outside quotes is not read, unless it tears apart a
terminator that is needed to end a declaration before the next one.
-/

set_option autoImplicit false
set_option relaxedAutoImplicit false

namespace GrammarBrew.MacroTable

open Text Declaration

variable {blank : Char} {front rest before after : Text}

private theorem isBlank_of_space_or_tab (h : blank = ' ' ∨ blank = '\t') :
    isBlank blank = true := by
  rcases h with rfl | rfl <;> decide

private theorem not_mem_terminator (h : blank = ' ' ∨ blank = '\t') {terminator : Text}
    (hmem : terminator ∈ terminators) : blank ∉ terminator := by
  rcases h with rfl | rfl <;> rcases terminator_cases hmem with rfl | rfl <;> decide

private theorem not_insideTerminator_cons (h : blank = ' ' ∨ blank = '\t') :
    ¬ InsideTerminator before (blank :: after) rest := by
  rintro ⟨front, opening, closing, -, hclosing, hmem, -, hafter⟩
  obtain ⟨c, others, rfl⟩ := List.exists_cons_of_ne_nil hclosing
  obtain ⟨rfl, -⟩ := List.cons.inj hafter
  exact not_mem_terminator h hmem (by simp)

private theorem fragments_space_or_tab (h : blank = ' ' ∨ blank = '\t') :
    fragments (blank :: after) = (fragments after).modifyHead (blank :: ·) := by
  refine fragments_cons ?_
  rintro ⟨terminator, hmem, rest, heq⟩
  cases terminator with
  | nil => simp [terminators] at hmem
  | cons c others =>
    obtain ⟨rfl, -⟩ := List.cons.inj heq
    exact not_mem_terminator h hmem (by simp)

private theorem declarations_insert (hblank : blank = ' ' ∨ blank = '\t')
    (houtside : Balanced (openFragment before))
    (hplace : ∀ rest, ¬ InsideTerminator before after rest) :
    declarations (before ++ blank :: after) = declarations (before ++ after) := by
  obtain ⟨first, later, hafter⟩ := List.exists_cons_of_ne_nil (fragments_ne_nil after)
  have hread : ∀ last, reading last (openFragment before ++ blank :: first)
      = reading last (openFragment before ++ first) := by
    intro last
    have hinsert : reading last (openFragment before ++ [blank] ++ first)
        = reading last (openFragment before ++ first) :=
      reading_insert houtside (by simpa using isBlank_of_space_or_tab hblank)
    rwa [List.append_assoc, List.singleton_append] at hinsert
  rw [declarations, declarations, fragments_append fun _ => not_insideTerminator_cons hblank,
    fragments_append hplace, fragments_space_or_tab hblank, hafter,
    fragments_eq_dropLast_concat before, List.modifyHead_cons, glue_concat, glue_concat,
    readings_append (by simp), readings_append (by simp), readings, readings, hread]

private theorem declarations_tear (hblank : blank = ' ' ∨ blank = '\t')
    (hinside : InsideTerminator before after rest) (hrest : AllBlank rest) :
    declarations (before ++ blank :: after) = declarations (before ++ after) := by
  obtain ⟨front, opening, closing, hopening, hclosing, hmem, rfl, rfl⟩ := hinside
  have hwhole := statements_terminated front hmem hrest
  obtain ⟨gap, rfl, hgap, hclosingBlank⟩ := torn_terminator hopening hclosing hmem
  have hgapBlank : AllBlank gap := by
    rcases hgap with rfl | rfl <;> simp [isBlank_lineBreak]
  have hblanks : AllBlank (gap ++ blank :: (closing ++ rest)) := by
    simp [hgapBlank, hclosingBlank, hrest, isBlank_of_space_or_tab hblank]
  have htorn : ¬ BeginsTerminator (';' :: (gap ++ blank :: (closing ++ rest))) := by
    rintro ⟨terminator, hterminator, after, heq⟩
    rcases hgap with rfl | rfl <;> rcases terminator_cases hterminator with rfl | rfl <;>
      rcases hblank with rfl | rfl <;> simp at heq
  have htear := statements_closed front htorn hblanks
  simp only [List.append_assoc, List.cons_append] at hwhole htear ⊢
  rw [declarations_eq_map_strip, declarations_eq_map_strip, htear, hwhole]

/-- A space or a tab may be put anywhere outside quotes, but not into a terminator that more than
blanks follow. -/
theorem parse_insert_blank {table : MacroTable} (hblank : blank = ' ' ∨ blank = '\t')
    (houtside : Balanced (openFragment before))
    (hplace : ∀ rest, InsideTerminator before after rest → AllBlank rest)
    (hparse : parse (before ++ after) = .ok table) :
      parse (before ++ blank :: after) = .ok table := by
  have hsame : declarations (before ++ blank :: after) = declarations (before ++ after) := by
    by_cases hinside : ∃ rest, InsideTerminator before after rest
    · obtain ⟨rest, hrest⟩ := hinside
      exact declarations_tear hblank hrest (hplace rest hrest)
    · exact declarations_insert hblank houtside (not_exists.1 hinside)
  rwa [parse_eq_ok_iff, hsame, ← parse_eq_ok_iff]

/-- A terminator torn apart at the end of a section. -/
theorem parse_insert_blank_at_end :
    let before := ['A', ':', '\'', 'x', '\'', ';']
    Balanced (openFragment before) ∧
      (∀ rest, InsideTerminator before ['\n', '\n'] rest → AllBlank rest) ∧
      parse (before ++ ['\n', '\n']) = .ok (ofList [(['A'], ['\'', 'x', '\''])]) ∧
      parse (before ++ ' ' :: ['\n', '\n']) = .ok (ofList [(['A'], ['\'', 'x', '\''])]) := by
  intro before
  have houtside : Balanced (openFragment before) := by decide
  have hplace : ∀ rest, InsideTerminator before ['\n', '\n'] rest → AllBlank rest := by
    rintro rest ⟨front, opening, closing, -, -, -, -, hafter⟩
    have hblank : AllBlank ['\n', '\n'] := by simp [isBlank_lineBreak]
    rw [hafter, allBlank_append] at hblank
    exact hblank.2
  have hparse : parse (before ++ ['\n', '\n']) = .ok (ofList [(['A'], ['\'', 'x', '\''])]) := by
    decide +kernel
  exact ⟨houtside, hplace, hparse, parse_insert_blank (Or.inl rfl) houtside hplace hparse⟩

/-- A space within a terminator between two declarations: the second becomes part of the first one's
value. -/
theorem parse_torn_terminator :
    let before := ['A', ':', '1', ';']
    let after := ['\n', 'B', ':', '2', ';', '\n']
    Balanced (openFragment before) ∧
      parse (before ++ after) = .ok (ofList [(['A'], ['1']), (['B'], ['2'])]) ∧
      parse (before ++ ' ' :: after) = .ok (ofList [(['A'], ['1', ';', 'B', ':', '2'])]) ∧
      parse (before ++ ' ' :: after) ≠ parse (before ++ after) := by
  decide +kernel

end GrammarBrew.MacroTable
