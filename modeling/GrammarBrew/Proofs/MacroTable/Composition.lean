import GrammarBrew.Proofs.MacroTable.Entries
import GrammarBrew.Proofs.MacroTable.Statements

/-!
Sections that stand one after the other with a terminator between them. The table of the whole is
that of the later part over that of the earlier one, and the error of the whole is that of the first
part that has one: a section is a list of statements, each read alone, and its statements are those
of the parts.
-/

set_option autoImplicit false
set_option relaxedAutoImplicit false

namespace GrammarBrew.MacroTable

open Text Declaration

variable {text front rest statement terminator name : Text} {table : MacroTable} {e : BrewError}

/-! ### Reading a list of statements -/

private theorem mapM_parse_eq_ok_iff {statements : List Text} {entries : List (Text × Text)} :
    statements.mapM Declaration.parse = .ok entries ↔
      List.Forall₂ (fun statement entry => Declaration.parse statement = .ok entry) statements
        entries := by
  induction statements generalizing entries with
  | nil => cases entries <;> simp [pure, Except.pure]
  | cons statement rest ih =>
    rw [List.mapM_cons]
    cases hfirst : Declaration.parse statement with
    | error e => cases entries <;> simp [bind, Except.bind, hfirst]
    | ok entry =>
      cases hrest : rest.mapM Declaration.parse with
      | error e => cases entries <;> simp [bind, Except.bind, hfirst, ← ih, hrest]
      | ok others =>
        cases entries <;> simp [bind, Except.bind, pure, Except.pure, hfirst, ← ih, hrest]

private theorem mapM_parse_eq_error_iff {statements : List Text} :
    statements.mapM Declaration.parse = .error e ↔ ∃ before statement after,
      statements = before ++ statement :: after ∧
        (∀ earlier ∈ before, ∃ entry, Declaration.parse earlier = .ok entry) ∧
        Declaration.parse statement = .error e := by
  induction statements with
  | nil => simp [pure, Except.pure]
  | cons first rest ih =>
    rw [List.mapM_cons]
    cases hfirst : Declaration.parse first with
    | error cause =>
      constructor
      · rintro h
        obtain rfl : cause = e := Except.error.inj h
        exact ⟨[], first, rest, rfl, by simp, hfirst⟩
      · rintro ⟨before, statement, after, hsplit, hbefore, herror⟩
        cases before with
        | nil =>
          obtain ⟨rfl, rfl⟩ := List.cons.inj hsplit
          obtain rfl := Except.error.inj (hfirst.symm.trans herror)
          rfl
        | cons earlier before =>
          obtain ⟨rfl, rfl⟩ := List.cons.inj hsplit
          obtain ⟨entry, hentry⟩ := hbefore first List.mem_cons_self
          simp [hfirst] at hentry
    | ok entry =>
      have hlater : (do
            let entry ← Except.ok entry
            let others ← rest.mapM Declaration.parse
            pure (entry :: others)) = Except.error e ↔ rest.mapM Declaration.parse = .error e := by
        cases rest.mapM Declaration.parse <;> simp [bind, Except.bind, pure, Except.pure]
      rw [hlater, ih]
      constructor
      · rintro ⟨before, statement, after, rfl, hbefore, herror⟩
        exact ⟨first :: before, statement, after, rfl,
          List.forall_mem_cons.2 ⟨⟨entry, hfirst⟩, hbefore⟩, herror⟩
      · rintro ⟨before, statement, after, hsplit, hbefore, herror⟩
        cases before with
        | nil =>
          obtain ⟨rfl, rfl⟩ := List.cons.inj hsplit
          simp [hfirst] at herror
        | cons earlier before =>
          obtain ⟨rfl, rfl⟩ := List.cons.inj hsplit
          exact ⟨before, statement, after, rfl, (List.forall_mem_cons.1 hbefore).2, herror⟩

/-! ### Reading a section -/

theorem parse_eq_ok_iff_get? :
    parse text = .ok table ↔ ∃ entries,
      List.Forall₂ (fun statement entry => Declaration.parse statement = .ok entry)
        (statements text) entries ∧ ∀ name, table.get? name = entries.reverse.lookup name := by
  simp only [parse_eq_mapM, ← mapM_parse_eq_ok_iff, ← get?_ofList]
  cases (statements text).mapM Declaration.parse with
  | error e => simp [Except.map]
  | ok entries =>
    simp only [Except.map, Except.ok.injEq, exists_eq_left']
    constructor
    · rintro rfl name
      rfl
    · exact fun h => eq_of_get?_eq fun name => (h name).symm

private theorem parse_eq_error_iff :
    parse text = .error e ↔ ∃ before statement after,
      statements text = before ++ statement :: after ∧
        (∀ earlier ∈ before, ∃ entry, Declaration.parse earlier = .ok entry) ∧
        Declaration.parse statement = .error e ∧ e = .malformedDeclaration statement := by
  have hmap : parse text = .error e ↔ (statements text).mapM Declaration.parse = .error e := by
    rw [parse_eq_mapM]
    cases (statements text).mapM Declaration.parse <;> simp [Except.map]
  rw [hmap, mapM_parse_eq_error_iff]
  constructor
  · rintro ⟨before, statement, after, hsplit, hbefore, herror⟩
    refine ⟨before, statement, after, hsplit, hbefore, herror, ?_⟩
    have hmem : statement ∈ statements text := by simp [hsplit]
    have htrim : trim statement = statement := trim_of_mem_held (List.mem_filter.1 hmem).1
    cases hcut : cutName? (strip statement) with
    | none =>
      rw [parse_of_cutName?_eq_none hcut, htrim] at herror
      exact (Except.error.inj herror).symm
    | some entry => simp [parse_of_cutName?_eq_some hcut] at herror
  · rintro ⟨before, statement, after, hsplit, hbefore, herror, -⟩
    exact ⟨before, statement, after, hsplit, hbefore, herror⟩

/-- Two sections with a terminator between them are read apart, whatever quotes stand in either. The
first malformed statement fails the whole, and of the values of a name the last one counts. -/
theorem parse_append_terminator (front rest : Text) (h : terminator ∈ terminators) :
    (parse (front ++ (terminator ++ rest)) = do
        let earlier ← parse (front ++ terminator)
        let later ← parse rest
        return overlay earlier later) ∧
      (∀ earlier later entry, entry ∈ (overlay earlier later).entries ↔
        entry ∈ later.entries ∨ (entry ∈ earlier.entries ∧ entry.1 ∉ later.entries.map Prod.fst)) ∧
      statements (front ++ (terminator ++ rest)) = statements (front ++ terminator)
        ++ statements rest ∧
      (∀ text table, parse text = .ok table ↔ ∃ entries,
        List.Forall₂ (fun statement entry => Declaration.parse statement = .ok entry)
          (statements text) entries ∧ ∀ name, table.get? name = entries.reverse.lookup name) ∧
      ∀ text e, parse text = .error e ↔ ∃ before statement after,
        statements text = before ++ statement :: after ∧
          (∀ earlier ∈ before, ∃ entry, Declaration.parse earlier = .ok entry) ∧
          Declaration.parse statement = .error e ∧ e = .malformedDeclaration statement := by
  have hstatements : statements (front ++ (terminator ++ rest))
      = statements (front ++ terminator) ++ statements rest := by
    have hfront : statements (front ++ (terminator ++ [])) = endedStatements front :=
      statements_terminated front h allBlank_nil
    rw [List.append_nil] at hfront
    rw [statements_append_terminator front rest h, hfront]
  refine ⟨?_, fun _ _ _ => mem_overlay_iff, hstatements, fun _ _ => parse_eq_ok_iff_get?,
    fun _ _ => parse_eq_error_iff⟩
  rw [parse_eq_mapM, parse_eq_mapM, parse_eq_mapM, hstatements, List.mapM_append]
  cases (statements (front ++ terminator)).mapM Declaration.parse with
  | error e => rfl
  | ok before =>
    cases (statements rest).mapM Declaration.parse with
    | error e => rfl
    | ok after => exact congrArg Except.ok (ofList_append before after)

/-- A quote that is never closed, in a section before one that parses and before one that does
not. -/
theorem parse_append_unbalanced :
    let front := ['A', ':', '\'', '1', ';', '\n', 'B', ':', '2']
    let rest := ['A', ':', '3', ';', '\r']
    let malformed := [';', '\n', ':', '4', ';', '\n', '5']
    [';', '\r', '\n'] ∈ terminators ∧
      parse (front ++ ([';', '\r', '\n'] ++ rest)) = .ok (ofList [(['A'], ['3']), (['B'], ['2'])]) ∧
      parse (front ++ ([';', '\r', '\n'] ++ malformed))
        = .error (.malformedDeclaration [':', '4']) := by
  intro front rest malformed
  have hterminator : [';', '\r', '\n'] ∈ terminators := by decide
  have hfront : parse (front ++ [';', '\r', '\n'])
      = .ok (ofList [(['A'], ['\'', '1']), (['B'], ['2'])]) := by
    decide +kernel
  have hrest : parse rest = .ok (ofList [(['A'], ['3'])]) := by decide +kernel
  have hmalformed : parse malformed = .error (.malformedDeclaration [':', '4']) := by decide +kernel
  refine ⟨hterminator, ?_, ?_⟩
  · rw [(parse_append_terminator front rest hterminator).1, hfront, hrest]
    decide +kernel
  · rw [(parse_append_terminator front malformed hterminator).1, hfront, hmalformed]
    rfl

end GrammarBrew.MacroTable
