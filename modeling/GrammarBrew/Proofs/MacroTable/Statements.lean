import GrammarBrew.Proofs.MacroTable.Reading

/-!
The statements of a macro section: what its fragments hold, trimmed, where they are not blank. Each
statement is a declaration on its own, so that a section is read by reading its statements one after
the other. A terminator separates the statements before it from those after it, whatever these are,
and blanks at the end of a section belong to no statement.
-/

set_option autoImplicit false
set_option relaxedAutoImplicit false

namespace GrammarBrew.MacroTable

open Text Declaration

variable {text front rest fragment statement blanks terminator : Text} {table : MacroTable}
  {last : Bool}

def held : List Text → List Text
  | [] => []
  | fragment :: rest => declared rest.isEmpty fragment :: held rest

/-- What the fragments of a section hold, blank ones left out. -/
def statements (text : Text) : List Text :=
  (held (fragments text)).filter fun statement => statement ≠ []

example : statements [' ', 'A', ';', ';', '\n', '\r', ';', '\n', 'B', ' ', ';', '\r']
    = [['A', ';'], ['B']] := by
  decide

private theorem held_append {earlier later : List Text} (h : later ≠ []) :
    held (earlier ++ later) = earlier.map trim ++ held later := by
  induction earlier with
  | nil => rfl
  | cons fragment earlier ih =>
    have hmore : (earlier ++ later).isEmpty = false := by simp [h]
    rw [List.cons_append, held, ih, hmore]
    rfl

private theorem trim_declared : trim (declared last fragment) = declared last fragment := by
  cases last with
  | false => exact trim_trim
  | true =>
    change trim (dropClosing (trim fragment)) = dropClosing (trim fragment)
    by_cases hclosed : ∃ opening, trim fragment = opening ++ [';']
    · obtain ⟨opening, hopening⟩ := hclosed
      have hstart : trimStart opening = opening := by
        have htrim : trimStart (trim fragment) = trim fragment := trimStart_trim
        rw [hopening, trimStart_append_singleton not_isBlank_semicolon] at htrim
        exact List.append_cancel_right htrim
      rw [hopening, dropClosing_closed, trim_trimEnd, trim, hstart]
    · rw [dropClosing_open (not_exists.1 hclosed), trimEnd_trim, trim_trim]

theorem trim_of_mem_held {fragments : List Text} (h : statement ∈ held fragments) :
    trim statement = statement := by
  induction fragments with
  | nil => simp [held] at h
  | cons fragment rest ih =>
    rcases List.mem_cons.1 h with rfl | hlater
    · exact trim_declared
    · exact ih hlater

/-! ### Reading the statements -/

private theorem readings_eq_map_strip (fragments : List Text) :
    readings fragments = (held fragments).map strip := by
  induction fragments with
  | nil => rfl
  | cons fragment rest ih => rw [readings, held, List.map_cons, ih, reading]

theorem readings_append {earlier later : List Text} (h : later ≠ []) :
    readings (earlier ++ later) = earlier.map (reading false) ++ readings later := by
  rw [readings_eq_map_strip, readings_eq_map_strip, held_append h, List.map_append, List.map_map]
  rfl

theorem declarations_eq_map_strip (text : Text) :
    declarations text = (statements text).map strip := by
  have hkept : ∀ statement ∈ held (fragments text), (strip statement ≠ [] ↔ statement ≠ []) := by
    intro statement hmem
    rw [ne_eq, strip_eq_nil_iff, ← trim_eq_nil_iff, trim_of_mem_held hmem]
  rw [declarations, readings_eq_map_strip, List.filter_map, statements]
  congr 1
  exact List.filter_congr fun statement hmem => decide_eq_decide.2 (hkept statement hmem)

private theorem addFragments_eq_mapM (table : MacroTable) (fragments : List Text) :
    addFragments table fragments
      = (((held fragments).filter fun statement => statement ≠ []).mapM Declaration.parse).map
        fun entries =>
          entries.foldl (fun table entry => table.insert entry.1 entry.2) table := by
  induction fragments generalizing table with
  | nil => rfl
  | cons fragment rest ih =>
    have hdeclared : (if rest.isEmpty then dropClosing (trim fragment) else trim fragment)
        = declared rest.isEmpty fragment := rfl
    simp only [addFragments, hdeclared, held]
    by_cases hblank : declared rest.isEmpty fragment = []
    · rw [if_pos (List.isEmpty_iff.2 hblank), ih, List.filter_cons_of_neg (by simpa using hblank)]
    · rw [if_neg (mt List.isEmpty_iff.1 hblank), List.filter_cons_of_pos (by simpa using hblank),
        List.mapM_cons]
      cases Declaration.parse (declared rest.isEmpty fragment) with
      | error e => rfl
      | ok entry =>
        refine (ih (table.insert entry.1 entry.2)).trans ?_
        cases ((held rest).filter fun statement => statement ≠ []).mapM Declaration.parse <;> rfl

theorem parse_eq_mapM (text : Text) :
    parse text = ((statements text).mapM Declaration.parse).map ofList :=
  addFragments_eq_mapM empty (fragments text)

private theorem toOption_mapM_parse (statements : List Text) :
    (statements.mapM Declaration.parse).toOption = (statements.map strip).mapM cutName? := by
  induction statements with
  | nil => rfl
  | cons statement rest ih =>
    rw [List.mapM_cons, List.map_cons, List.mapM_cons, ← ih]
    cases hcut : cutName? (strip statement) with
    | none =>
      rw [parse_of_cutName?_eq_none hcut]
      rfl
    | some entry =>
      rw [parse_of_cutName?_eq_some hcut]
      cases rest.mapM Declaration.parse <;> rfl

theorem parse_eq_ok_iff : parse text = .ok table ↔
    ∃ entries, (declarations text).mapM cutName? = some entries ∧ table = ofList entries := by
  rw [parse_eq_mapM, declarations_eq_map_strip, ← toOption_mapM_parse]
  cases (statements text).mapM Declaration.parse <;> simp [Except.map, Except.toOption, eq_comm]

/-! ### At a terminator -/

def endedStatements (text : Text) : List Text :=
  ((fragments text).map trim).filter fun statement => statement ≠ []

private theorem fragments_append_terminator (front rest : Text) (h : terminator ∈ terminators) :
    fragments (front ++ (terminator ++ rest)) = fragments front ++ fragments rest := by
  have hlater : fragments (terminator ++ rest) = [] :: fragments rest :=
    fragments_terminator_append h
  have hmeet : fragments (front ++ (terminator ++ rest))
      = glue (fragments front) (fragments (terminator ++ rest)) := by
    rcases terminator_cases h with rfl | rfl
    all_goals exact fragments_append_semicolon front _
  rw [hmeet, hlater, fragments_eq_dropLast_concat front, glue_concat, List.append_nil,
    List.append_assoc]
  rfl

theorem statements_append_terminator (front rest : Text) (h : terminator ∈ terminators) :
    statements (front ++ (terminator ++ rest)) = endedStatements front ++ statements rest := by
  rw [statements, fragments_append_terminator front rest h, held_append (fragments_ne_nil rest),
    List.filter_append, statements, endedStatements]

/-! ### At the end -/

/-- What a place within a terminator leaves of it on each side: a semicolon first, and then
blanks. -/
theorem torn_terminator {opening closing : Text} (hopening : opening ≠ [])
    (hclosing : closing ≠ []) (hmem : opening ++ closing ∈ terminators) :
    ∃ gap, opening = ';' :: gap ∧ (gap = [] ∨ gap = ['\r']) ∧ AllBlank closing := by
  obtain ⟨c, gap, rfl⟩ := List.exists_cons_of_ne_nil hopening
  rcases terminator_cases hmem with hsplit | hsplit
  · obtain ⟨rfl, htail⟩ := List.cons.inj hsplit
    have hone : gap ++ closing = ['\n'] := htail
    obtain ⟨rfl, rfl⟩ : gap = [] ∧ closing = ['\n'] := by
      simpa [hclosing] using List.append_eq_singleton_iff.1 hone
    exact ⟨[], rfl, Or.inl rfl, by simp [isBlank_lineBreak]⟩
  · obtain ⟨rfl, htail⟩ := List.cons.inj hsplit
    cases gap with
    | nil =>
      obtain rfl : closing = ['\r', '\n'] := htail
      exact ⟨[], rfl, Or.inl rfl, by simp [isBlank_lineBreak]⟩
    | cons d others =>
      obtain ⟨rfl, hlast⟩ := List.cons.inj htail
      have hone : others ++ closing = ['\n'] := hlast
      obtain ⟨rfl, rfl⟩ : others = [] ∧ closing = ['\n'] := by
        simpa [hclosing] using List.append_eq_singleton_iff.1 hone
      exact ⟨['\r'], rfl, Or.inr rfl, by simp [isBlank_lineBreak]⟩

private theorem unterminated_of_allBlank (h : AllBlank rest) : Unterminated rest :=
  unterminated_of_not_mem fun hmem => by simpa [not_isBlank_semicolon] using h _ hmem

private theorem statements_of_allBlank (h : AllBlank blanks) : statements blanks = [] := by
  have hnone : declared true blanks = [] := by
    change dropClosing (trim blanks) = []
    rw [trim_eq_nil_iff.2 h]
    rfl
  rw [statements, fragments_of_unterminated (unterminated_of_allBlank h), held, held,
    List.isEmpty_nil, hnone]
  rfl

theorem statements_terminated (front : Text) (hmem : terminator ∈ terminators)
    (hrest : AllBlank rest) :
    statements (front ++ (terminator ++ rest)) = endedStatements front := by
  rw [statements_append_terminator front rest hmem, statements_of_allBlank hrest, List.append_nil]

theorem statements_closed (front : Text) (h : ¬ BeginsTerminator (';' :: blanks))
    (hblanks : AllBlank blanks) :
    statements (front ++ ';' :: blanks) = endedStatements front := by
  have hclosed : declared true (openFragment front ++ ';' :: blanks)
      = trim (openFragment front) := by
    refine declared_closed ?_
    rw [← List.singleton_append, ← List.append_assoc, trimEnd_append_of_allBlank hblanks,
      trimEnd_append_singleton not_isBlank_semicolon]
  have hlast : fragments (';' :: blanks) = [';' :: blanks] := by
    rw [fragments_cons h, fragments_of_unterminated (unterminated_of_allBlank hblanks)]
    rfl
  have hheld : held ((fragments front).dropLast ++ [openFragment front ++ ';' :: blanks])
      = (fragments front).map trim := by
    rw [held_append (by simp), held, held, List.isEmpty_nil, hclosed]
    conv_rhs => rw [fragments_eq_dropLast_concat front]
    rw [List.map_append]
    rfl
  rw [statements, fragments_append_semicolon, hlast, fragments_eq_dropLast_concat front,
    glue_concat, hheld, endedStatements]

private theorem statements_append_of_allBlank (h : AllBlank blanks) :
    statements (text ++ blanks) = statements text := by
  by_cases hinside : ∃ rest, InsideTerminator text blanks rest
  · -- The blanks complete a terminator that the text has begun: its semicolon closed the last
    -- statement before.
    obtain ⟨rest, front, opening, closing, hopening, hclosing, hmem, rfl, rfl⟩ := hinside
    have hrest : AllBlank rest := (allBlank_append.1 h).2
    have hwhole := statements_terminated front hmem hrest
    obtain ⟨gap, rfl, hgap, -⟩ := torn_terminator hopening hclosing hmem
    have hgapBlank : AllBlank gap := by
      rcases hgap with rfl | rfl <;> simp [isBlank_lineBreak]
    have hbegun : ¬ BeginsTerminator (';' :: gap) := by
      rintro ⟨terminator, hterminator, after, heq⟩
      rcases hgap with rfl | rfl <;> rcases terminator_cases hterminator with
        rfl | rfl <;> simp at heq
    rw [statements_closed front hbegun hgapBlank, ← hwhole]
    simp only [List.append_assoc]
  · have hsame : declared true (openFragment text ++ blanks)
        = declared true (openFragment text) := by
      change dropClosing (trim (openFragment text ++ blanks))
        = dropClosing (trim (openFragment text))
      rw [← trim_trimEnd, trimEnd_append_of_allBlank h, trim_trimEnd]
    rw [statements, fragments_append (not_exists.1 hinside),
      fragments_of_unterminated (unterminated_of_allBlank h), fragments_eq_dropLast_concat text,
      glue_concat, held_append (by simp), held, held, List.isEmpty_nil, hsame, statements]
    conv_rhs => rw [fragments_eq_dropLast_concat text]
    rw [held_append (by simp)]
    rfl

/-- Blanks at the end of a section change neither its table nor its error. -/
theorem parse_append_blank (h : AllBlank blanks) : parse (text ++ blanks) = parse text := by
  rw [parse_eq_mapM, statements_append_of_allBlank h, ← parse_eq_mapM]

/-- A line break that completes the terminator of the last statement, in a section that parses and
in one that does not. -/
theorem parse_append_lineBreak :
    let closed := ['A', ':', '1', ';', ' ', ';', '\r']
    let malformed := [':', '1', ';', '\n', 'B', ';', ';', '\r']
    AllBlank ['\n', ' '] ∧
      parse (closed ++ ['\n', ' ']) = .ok (ofList [(['A'], ['1', ';'])]) ∧
      parse closed = .ok (ofList [(['A'], ['1', ';'])]) ∧
      parse (malformed ++ ['\n', ' ']) = .error (.malformedDeclaration [':', '1']) := by
  intro closed malformed
  have hblank : AllBlank ['\n', ' '] := by simp [AllBlank]; decide
  have hclosed : parse closed = .ok (ofList [(['A'], ['1', ';'])]) := by decide +kernel
  have hmalformed : parse malformed = .error (.malformedDeclaration [':', '1']) := by decide +kernel
  exact ⟨hblank, by rw [parse_append_blank hblank, hclosed], hclosed, by
    rw [parse_append_blank hblank, hmalformed]⟩

end GrammarBrew.MacroTable
