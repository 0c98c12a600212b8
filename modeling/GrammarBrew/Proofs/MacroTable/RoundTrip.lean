import GrammarBrew.Proofs.Expansion.Rules
import GrammarBrew.Proofs.MacroTable.Statements

/-!
Writing a macro table as a section. A table that was parsed from a section has entries that are
their own reading, and such entries, each closed by a terminator, are read back one by one in
whatever order they are written.
-/

set_option autoImplicit false
set_option relaxedAutoImplicit false

namespace GrammarBrew.MacroTable

open Text Declaration

variable {text fragment read name value : Text} {entry : Text × Text} {entries : List (Text × Text)}
  {table : MacroTable} {last : Bool} {mode : MatchMode} {extraIterations : Nat}

def spelled (entry : Text × Text) : Text := entry.1 ++ ':' :: entry.2

/-- The section that declares entries one after the other, each ended by a terminator. -/
def written (entries : List (Text × Text)) : Text :=
  entries.flatMap fun entry => spelled entry ++ [';', '\n']

structure Canonical (entry : Text × Text) : Prop where
  named : entry.1 ≠ []
  uncut : ':' ∉ entry.1
  stripped : strip (spelled entry) = spelled entry
  unterminated : Unterminated (spelled entry)

private theorem canonical_iff : Canonical entry ↔
    entry.1 ≠ [] ∧ ':' ∉ entry.1 ∧ strip (spelled entry) = spelled entry ∧
      Unterminated (spelled entry) := by
  constructor
  · rintro ⟨hnamed, huncut, hstripped, hunterminated⟩
    exact ⟨hnamed, huncut, hstripped, hunterminated⟩
  · rintro ⟨hnamed, huncut, hstripped, hunterminated⟩
    exact ⟨hnamed, huncut, hstripped, hunterminated⟩

instance (entry : Text × Text) : Decidable (Canonical entry) :=
  decidable_of_iff _ canonical_iff.symm

example : Canonical (['A'], [':', '\'', ';', '\'', ';']) := by decide +kernel
example : ¬ Canonical (['A'], ['\'', ';', '\n', '\'']) := by decide +kernel

/-! ### Entries and their spelling -/

private theorem mapM_cutName?_eq_some_iff {texts : List Text} :
    texts.mapM cutName? = some entries ↔
      texts = entries.map spelled ∧ ∀ entry ∈ entries, entry.1 ≠ [] ∧ ':' ∉ entry.1 := by
  induction texts generalizing entries with
  | nil =>
    cases entries with
    | nil => simp
    | cons entry entries => simp
  | cons text texts ih =>
    rw [List.mapM_cons]
    constructor
    · intro h
      obtain ⟨⟨name, value⟩, hcut, h⟩ := Option.bind_eq_some_iff.1 h
      obtain ⟨others, hothers, h⟩ := Option.bind_eq_some_iff.1 h
      obtain rfl : (name, value) :: others = entries := Option.some.inj h
      obtain ⟨hname, hcolon, rfl⟩ := cutName?_eq_some_iff.1 hcut
      obtain ⟨rfl, hrest⟩ := ih.1 hothers
      exact ⟨rfl, List.forall_mem_cons.2 ⟨⟨hname, hcolon⟩, hrest⟩⟩
    · rintro ⟨htexts, hnames⟩
      cases entries with
      | nil => simp at htexts
      | cons entry entries =>
        obtain ⟨rfl, rfl⟩ := List.cons.inj htexts
        obtain ⟨⟨hname, hcolon⟩, hrest⟩ := List.forall_mem_cons.1 hnames
        have hcut : cutName? (spelled entry) = some entry :=
          cutName?_eq_some_iff.2 ⟨hname, hcolon, rfl⟩
        rw [hcut, ih.2 ⟨rfl, hrest⟩]
        rfl

theorem parse_eq_ok_iff_spelled :
    parse text = .ok table ↔ ∃ entries, declarations text = entries.map spelled ∧
      (∀ entry ∈ entries, entry.1 ≠ [] ∧ ':' ∉ entry.1) ∧ table = ofList entries := by
  simp only [parse_eq_ok_iff, mapM_cutName?_eq_some_iff, and_assoc]

/-! ### What is read is canonical -/

private theorem dropClosing_isPrefix : dropClosing fragment <+: fragment := by
  by_cases hclosed : ∃ opening, fragment = opening ++ [';']
  · obtain ⟨opening, rfl⟩ := hclosed
    rw [dropClosing_closed]
    exact trimEnd_isPrefix.trans (List.prefix_append opening [';'])
  · rw [dropClosing_open (not_exists.1 hclosed)]
    exact trimEnd_isPrefix

theorem declared_isInfix : declared last fragment <:+: fragment := by
  cases last with
  | false => exact trim_isInfix
  | true => exact dropClosing_isPrefix.isInfix.trans trim_isInfix

private theorem unterminated_reading (h : Unterminated fragment) :
    Unterminated (reading last fragment) := by
  have htrim : Unterminated (trim (declared last fragment)) :=
    h.of_infix (trim_isInfix.trans declared_isInfix)
  intro terminator hmem hinside
  obtain ⟨blanks, rfl, hblanks⟩ : ∃ blanks, terminator = ';' :: blanks ∧ AllBlank blanks := by
    rcases terminator_cases hmem with rfl | rfl
    · exact ⟨['\n'], rfl, by simp [isBlank_lineBreak]⟩
    · exact ⟨['\r', '\n'], rfl, by simp [isBlank_lineBreak]⟩
  exact htrim _ hmem (infix_of_infix_stripFrom hblanks hinside)

theorem mem_readings {fragments : List Text} (h : read ∈ readings fragments) :
    ∃ last, ∃ fragment ∈ fragments, read = reading last fragment := by
  induction fragments with
  | nil => simp [readings] at h
  | cons fragment rest ih =>
    rcases List.mem_cons.1 h with hfirst | hlater
    · exact ⟨rest.isEmpty, fragment, List.mem_cons_self, hfirst⟩
    · obtain ⟨last, other, hother, hread⟩ := ih hlater
      exact ⟨last, other, List.mem_cons_of_mem fragment hother, hread⟩

private theorem stripped_of_mem_declarations (h : read ∈ declarations text) :
    strip read = read ∧ Unterminated read := by
  obtain ⟨last, fragment, hfragment, rfl⟩ := mem_readings (List.mem_filter.1 h).1
  exact ⟨strip_strip, unterminated_reading (unterminated_of_mem_fragments hfragment)⟩

private theorem canonical_of_parse (h : parse text = .ok table) :
    ∀ entry ∈ table.entries, Canonical entry := by
  obtain ⟨entries, hdeclarations, hnames, rfl⟩ := parse_eq_ok_iff_spelled.1 h
  intro entry hentry
  have hmem : entry ∈ entries := mem_of_mem_ofList hentry
  have hread : spelled entry ∈ declarations text := by
    rw [hdeclarations]
    exact List.mem_map_of_mem hmem
  obtain ⟨hstripped, hunterminated⟩ := stripped_of_mem_declarations hread
  obtain ⟨hname, hcolon⟩ := hnames entry hmem
  exact ⟨hname, hcolon, hstripped, hunterminated⟩

/-! ### Reading what was written -/

private theorem fragments_written (h : ∀ entry ∈ entries, Unterminated (spelled entry)) :
    fragments (written entries) = entries.map spelled ++ [[]] := by
  induction entries with
  | nil => rfl
  | cons entry entries ih =>
    obtain ⟨hentry, hrest⟩ := List.forall_mem_cons.1 h
    have hwritten : written (entry :: entries) = spelled entry ++ ';' ::
        ('\n' :: written entries) := by
      simp [written]
    have hterminator : [';', '\n'] ∈ terminators := List.mem_cons_self
    have hterminated :
        fragments (';' :: '\n' :: written entries) = [] :: fragments (written entries) :=
      fragments_terminator_append hterminator
    rw [hwritten, fragments_append_semicolon, fragments_of_unterminated hentry,
      hterminated, ih hrest]
    simp [glue]

private theorem declarations_written (h : ∀ entry ∈ entries, Canonical entry) :
    declarations (written entries) = entries.map spelled := by
  have hread : entries.map (reading false ∘ spelled) = entries.map spelled := by
    refine List.map_congr_left fun entry hentry => ?_
    rw [Function.comp_apply, reading_of_not_last, (h entry hentry).stripped]
  have hkept : ∀ read ∈ entries.map spelled, read ≠ [] := by
    intro read hmem
    obtain ⟨entry, -, rfl⟩ := List.mem_map.1 hmem
    simp [spelled]
  have hend : readings [[]] = [[]] := rfl
  rw [declarations, fragments_written fun entry hentry => (h entry hentry).unterminated,
    readings_append (by simp), List.map_map, hread, hend, List.filter_append,
    List.filter_eq_self.2 (by simpa using hkept)]
  simp

private theorem parse_written (h : ∀ entry ∈ table.entries, Canonical entry)
    (hperm : entries.Perm table.entries) :
    parse (written entries) = .ok table := by
  have hcanonical : ∀ entry ∈ entries, Canonical entry := fun entry hentry =>
    h entry (hperm.subset hentry)
  refine parse_eq_ok_iff_spelled.2 ⟨entries, declarations_written hcanonical, ?_, ?_⟩
  · intro entry hentry
    exact ⟨(hcanonical entry hentry).named, (hcanonical entry hentry).uncut⟩
  · exact (ofList_of_perm hperm).symm

private theorem ofTable_ne_malformedDeclaration (h : ∀ entry ∈ table.entries, entry.1 ≠ []) :
    Expander.ofTable mode extraIterations table ≠ .error (.malformedDeclaration fragment) := by
  intro hrefused
  unfold Expander.ofTable at hrefused
  split at hrefused
  next e hrules =>
    obtain rfl := Except.error.inj hrefused
    obtain ⟨entry, hentry, ⟨hunnamed, -⟩ | hcause⟩ := Rule.ofEntries_eq_error hrules
    · exact h entry hentry hunnamed
    · simp at hcause
  · split at hrefused <;> simp at hrefused

/-- The tables that sections parse to are those with canonical entries, and each is read back from
its written form. -/
theorem parse_round_trip (table : MacroTable) :
    (∀ text, parse text = .ok table → ∀ entry ∈ table.entries, Canonical entry) ∧
      ((∀ entry ∈ table.entries, Canonical entry) →
        ∀ entries, entries.Perm table.entries → parse (written entries) = .ok table) ∧
      ∀ text, parse text = .ok table →
        parse (written table.entries) = .ok table ∧
          ∀ mode extraIterations fragment,
            Expander.ofTable mode extraIterations table
              ≠ .error (.malformedDeclaration fragment) := by
  refine ⟨fun text => canonical_of_parse, fun h entries hperm => parse_written h hperm, ?_⟩
  intro text hparse
  have hcanonical := canonical_of_parse hparse
  refine ⟨parse_written hcanonical (List.Perm.refl _), ?_⟩
  intro mode extraIterations fragment
  exact ofTable_ne_malformedDeclaration fun entry hentry => (hcanonical entry hentry).named

/-- A value that ends in a semicolon, and one with a line break in quotes. -/
theorem quoted_round_trip :
    let first := (['A'], [':', 'x', ';'])
    let second := (['B'], ['\'', ' ', '\n', '\''])
    let table := ofList [first, second]
    let text := [' ', 'B', ' ', ':', '\'', ' ', '\n', '\'', ';', '\r', '\n'] ++
      ['A', ':', ' ', ':', 'x', ';', ';']
    parse text = .ok table ∧ (∀ entry ∈ table.entries, Canonical entry) ∧
      parse (written [second, first]) = .ok table ∧ parse (written table.entries) = .ok table ∧
      Expander.ofTable .wordBoundary 2 table ≠ .error (.malformedDeclaration []) := by
  intro first second table text
  have hparse : parse text = .ok table := by decide +kernel
  obtain ⟨hcanonical, hwritten, hagain⟩ := parse_round_trip table
  have hentries := hcanonical text hparse
  have hperm : [second, first].Perm table.entries := List.Perm.swap first second []
  obtain ⟨hreparsed, haccepted⟩ := hagain text hparse
  exact ⟨hparse, hentries, hwritten hentries _ hperm, hreparsed, haccepted _ _ _⟩

end GrammarBrew.MacroTable
