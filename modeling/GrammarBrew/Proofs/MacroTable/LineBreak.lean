import GrammarBrew.Proofs.MacroTable.RoundTrip
import GrammarBrew.Proofs.Text.LineBreak

/-!
Macro sections with other line breaks. Where no carriage return stands in a section, its terminators
are in the same places after one has been put before every line feed; what is read of a fragment
changes in the line feeds that quotes keep, and the values of the table with it.
-/

set_option autoImplicit false
set_option relaxedAutoImplicit false

namespace GrammarBrew

open Text

/-- An error about a text with other line breaks. -/
def BrewError.crlf : BrewError → BrewError
  | .malformedDeclaration fragment => .malformedDeclaration (Text.crlf fragment)
  | e => e

namespace Declaration

variable {inQuotes : Bool} {text fragment : Text}

private theorem stripFrom_crlf :
    stripFrom inQuotes (crlf text) = crlf (stripFrom inQuotes text) := by
  have hbreak : isBlank '\r' = true ∧ isBlank '\n' = true := by decide
  induction text generalizing inQuotes with
  | nil => rfl
  | cons c text ih =>
    by_cases hc : c = '\n'
    · subst hc
      cases inQuotes with
      | false => simp [stripFrom, hbreak, ih]
      | true => simp [stripFrom, hbreak, ih]
    · simp only [crlf_cons hc, stripFrom]
      split
      · cases inQuotes with
        | false => exact ih
        | true => simp [crlf_cons hc, ih]
      · rw [crlf_cons hc, ih]

private theorem strip_crlf : strip (crlf text) = crlf (strip text) := by
  rw [strip, trim_crlf, stripFrom_crlf, strip]

private theorem cutName?_crlf :
    cutName? (crlf text) = (cutName? text).map (Prod.map crlf crlf) := by
  unfold cutName?
  rw [cut_crlf (by decide) (by simp)]
  cases cut [':'] text with
  | none => rfl
  | some entry =>
    simp only [Option.map_some, Prod.map, isEmpty_crlf]
    split <;> rfl

private theorem parse_crlf :
    parse (crlf fragment) = ((parse fragment).map (Prod.map crlf crlf)).mapError
      BrewError.crlf := by
  unfold parse
  rw [strip_crlf, cutName?_crlf]
  cases cutName? (strip fragment) with
  | none => simp [Except.map, Except.mapError, BrewError.crlf]
  | some entry => rfl

end Declaration

namespace MacroTable

open Declaration

variable {text fragment name : Text} {entries : List (Text × Text)} {table : MacroTable}
  {last : Bool}

/-! ### Fragments -/

private theorem not_beginsTerminator_of_ne {c : Char} {rest : Text} (h : c ≠ ';') :
    ¬ BeginsTerminator (c :: rest) := by
  rintro ⟨terminator, hmem, hbegins⟩
  rcases terminator_cases hmem with rfl | rfl <;> exact h (List.cons_prefix_cons.1 hbegins).1.symm

private theorem not_beginsTerminator_crlf {c : Char} {rest : Text} (hreturn : '\r' ∉ rest)
    (h : ¬ BeginsTerminator (c :: rest)) : ¬ BeginsTerminator (c :: crlf rest) := by
  rintro ⟨terminator, hmem, after, hafter⟩
  rcases terminator_cases hmem with rfl | rfl
  · exact crlf_ne_lineFeed_cons (List.cons.inj hafter).2.symm
  · -- A carriage return with a line feed can only come from a line feed.
    obtain ⟨rfl, hrest⟩ := List.cons.inj hafter
    cases rest with
    | nil => simp at hrest
    | cons d rest =>
      by_cases hd : d = '\n'
      · subst hd
        exact h ⟨[';', '\n'], by simp [terminators], rest, rfl⟩
      · rw [crlf_cons hd] at hrest
        exact hreturn ((List.cons.inj hrest).1 ▸ List.mem_cons_self)

private theorem fragments_crlf (h : '\r' ∉ text) :
    fragments (crlf text) = (fragments text).map crlf := by
  induction text using fragmentsInduction with
  | nil => rfl
  | terminated terminator rest hterminator ih =>
    have hrest : '\r' ∉ rest := fun hmem => h (List.mem_append_right _ hmem)
    have hcrlf : crlf terminator ∈ terminators := by
      rcases terminator_cases hterminator with rfl | rfl
      · simp [terminators, crlf]
      · simp at h
    rw [crlf_append, fragments_terminator_append hcrlf, fragments_terminator_append hterminator,
      ih hrest]
    rfl
  | char c rest hstart ih =>
    have hrest : '\r' ∉ rest := fun hmem => h (List.mem_cons_of_mem c hmem)
    have hhead : ∀ front, ((fragments rest).map crlf).modifyHead (crlf front ++ ·)
        = ((fragments rest).modifyHead (front ++ ·)).map crlf := by
      intro front
      cases fragments rest <;> simp
    -- A line feed that ends no fragment becomes two characters of the same fragment.
    by_cases hc : c = '\n'
    · subst hc
      rw [crlf_lineFeed, fragments_cons (not_beginsTerminator_of_ne (by decide)),
        fragments_cons (not_beginsTerminator_of_ne (by decide)), fragments_cons hstart, ih hrest,
        List.modifyHead_modifyHead]
      exact hhead ['\n']
    · rw [crlf_cons hc, fragments_cons (not_beginsTerminator_crlf hrest hstart),
        fragments_cons hstart, ih hrest]
      have hone : crlf [c] = [c] := crlf_cons hc
      have hmap := hhead [c]
      rw [hone] at hmap
      exact hmap

private theorem dropClosing_crlf : dropClosing (crlf fragment) = crlf (dropClosing fragment) := by
  by_cases hclosed : ∃ front, fragment = front ++ [';']
  · obtain ⟨front, rfl⟩ := hclosed
    have hsemicolon : crlf [';'] = [';'] := rfl
    rw [crlf_append, hsemicolon, dropClosing_closed, dropClosing_closed, trimEnd_crlf]
  · have hopen : ∀ front, fragment ≠ front ++ [';'] := fun front heq => hclosed ⟨front, heq⟩
    have hopen' : ∀ front, crlf fragment ≠ front ++ [';'] := by
      intro front heq
      have hlast : fragment.getLast? = some ';' := by
        rw [← getLast?_crlf, heq, List.getLast?_concat]
      obtain ⟨start, hstart⟩ := List.getLast?_eq_some_iff.1 hlast
      exact hopen start hstart
    rw [dropClosing_open hopen', dropClosing_open hopen, trimEnd_crlf]

private theorem declared_crlf : declared last (crlf fragment) = crlf (declared last fragment) := by
  unfold declared
  split
  · rw [trim_crlf, dropClosing_crlf]
  · exact trim_crlf

private theorem held_crlf (fragments : List Text) :
    held (fragments.map crlf) = (held fragments).map crlf := by
  induction fragments with
  | nil => rfl
  | cons fragment rest ih =>
    rw [List.map_cons, held, held, List.map_cons, List.isEmpty_map, declared_crlf, ih]

private theorem statements_crlf (h : '\r' ∉ text) :
    statements (crlf text) = (statements text).map crlf := by
  rw [statements, fragments_crlf h, held_crlf, List.filter_map]
  simp [statements, Function.comp_def]

/-! ### Tables -/

def mapValues (change : Text → Text) (table : MacroTable) : MacroTable where
  entries := table.entries.map (Prod.map id change)
  ordered := List.pairwise_map.2 table.ordered

private theorem get?_mapValues (change : Text → Text) :
    (table.mapValues change).get? name = (table.get? name).map change :=
  lookup_map_value change

private theorem ofList_mapValues (change : Text → Text) :
    ofList (entries.map (Prod.map id change)) = (ofList entries).mapValues change := by
  refine eq_of_get?_eq fun name => ?_
  rw [get?_mapValues, get?_ofList, get?_ofList, ← List.map_reverse, lookup_map_value]

/-! ### Parsing -/

theorem spelled_subset_of_parse (h : parse text = .ok table) {entry : Text × Text}
    (hentry : entry ∈ table.entries) :
    spelled entry ⊆ text := by
  obtain ⟨entries, hdeclarations, -, rfl⟩ := parse_eq_ok_iff_spelled.1 h
  have hread : spelled entry ∈ declarations text := by
    rw [hdeclarations]
    exact List.mem_map_of_mem (mem_of_mem_ofList hentry)
  obtain ⟨last, fragment, hfragment, hreading⟩ := mem_readings (List.mem_filter.1 hread).1
  have hinfix : declared last fragment <:+: text :=
    declared_isInfix.trans (isInfix_of_mem_fragments hfragment)
  rw [hreading]
  exact (strip_sublist.trans hinfix.sublist).subset

private theorem mapM_parse_crlf (statements : List Text) :
    (statements.map crlf).mapM Declaration.parse
    = ((statements.mapM Declaration.parse).map (List.map (Prod.map crlf crlf))).mapError
      BrewError.crlf := by
  induction statements with
  | nil => rfl
  | cons statement rest ih =>
    rw [List.map_cons, List.mapM_cons, List.mapM_cons, Declaration.parse_crlf, ih]
    cases Declaration.parse statement with
    | error e => rfl
    | ok entry => cases rest.mapM Declaration.parse <;> rfl

/-- The table of a section with other line breaks has them in its values, if they are in none of its
names. -/
theorem parse_crlf_of_ok (hreturn : '\r' ∉ text) (h : parse text = .ok table)
    (hnames : ∀ entry ∈ table.entries, '\n' ∉ entry.1) :
      parse (crlf text) = .ok (table.mapValues crlf) := by
  rw [parse_eq_mapM] at h
  rw [parse_eq_mapM, statements_crlf hreturn, mapM_parse_crlf]
  cases hentries : (statements text).mapM Declaration.parse with
  | error e =>
    rw [hentries] at h
    cases h
  | ok entries =>
    rw [hentries] at h
    obtain rfl : ofList entries = table := Except.ok.inj h
    have hname : ∀ entry ∈ entries, crlf entry.1 = entry.1 := by
      intro entry hentry
      obtain ⟨stored, hstored, heq⟩ :=
        List.mem_map.1 (mem_names_ofList.2 (List.mem_map_of_mem hentry))
      rw [← heq, crlf_eq_self (hnames stored hstored)]
    have hmap : entries.map (Prod.map crlf crlf) = entries.map (Prod.map id crlf) :=
      List.map_congr_left fun entry hentry => Prod.ext (hname entry hentry) rfl
    rw [← ofList_mapValues, ← hmap]
    rfl

theorem parse_crlf_of_error {e : BrewError} (hreturn : '\r' ∉ text) (h : parse text = .error e) :
    parse (crlf text) = .error e.crlf := by
  rw [parse_eq_mapM] at h
  rw [parse_eq_mapM, statements_crlf hreturn, mapM_parse_crlf]
  cases hentries : (statements text).mapM Declaration.parse with
  | error cause =>
    rw [hentries] at h
    obtain rfl : cause = e := Except.error.inj h
    rfl
  | ok entries =>
    rw [hentries] at h
    cases h

end MacroTable

end GrammarBrew
