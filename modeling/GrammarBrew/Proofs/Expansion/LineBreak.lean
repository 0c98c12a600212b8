import GrammarBrew.Proofs.Document
import GrammarBrew.Proofs.Expansion.Rules
import GrammarBrew.Proofs.Graph.Cycle
import GrammarBrew.Proofs.MacroTable.LineBreak
import GrammarBrew.Proofs.Matcher.LineBreak

/-!
Brewing a document with other line breaks gives the grammar with other line breaks. Each stage goes
through alike: the document is cut at the same place, its section declares the same names, the rules
find them in the same places and lead back to one another along the same cycles, and every pass
replaces as much.
-/

set_option autoImplicit false
set_option relaxedAutoImplicit false

namespace GrammarBrew

open Text

variable {mode : MatchMode} {extraIterations : Nat} {rules : List Rule} {rule : Rule} {text : Text}
  {entries : List (Text × Text)} {table : MacroTable}

namespace Rule

/-- A rule that puts a value with other line breaks. -/
def crlf (rule : Rule) : Rule := { rule with value := Text.crlf rule.value }

private theorem crlf_injective : Function.Injective crlf := by
  rintro ⟨name, value, matcher⟩ ⟨name', value', matcher'⟩ h
  simp only [crlf, Rule.mk.injEq] at h ⊢
  exact ⟨h.1, Text.crlf_injective h.2.1, h.2.2⟩

def OneLine (rules : List Rule) : Prop :=
  ∀ rule ∈ rules, rule.matcher.name ≠ [] ∧ Text.OneLine rule.matcher.name

private theorem oneLine_of_ofEntries (hnames : ∀ entry ∈ entries, Text.OneLine entry.1)
    (h : ofEntries mode entries = .ok rules) : OneLine rules := by
  obtain ⟨hnamed, rfl⟩ := ofEntries_eq_ok h
  intro rule hrule
  obtain ⟨entry, hentry, rfl⟩ := List.mem_map.1 hrule
  have hmem : entry ∈ entries := (List.mem_filter.1 hentry).1
  have hname : (ofEntry mode entry).matcher.name = entry.1 := Matcher.ofName_name mode entry.1
  rw [hname]
  exact ⟨hnamed entry hmem, hnames entry hmem⟩

private theorem ofMacro_crlf {name value : Text} :
    ofMacro mode name (Text.crlf value) = ((ofMacro mode name value).map crlf).mapError
      BrewError.crlf := by
  unfold ofMacro
  split <;> rfl

private theorem ofEntries_crlf (h : ∀ entry ∈ entries, '\n' ∉ entry.1) :
    ofEntries mode (entries.map (Prod.map id Text.crlf))
      = ((ofEntries mode entries).map (List.map crlf)).mapError BrewError.crlf := by
  induction entries with
  | nil => rfl
  | cons entry entries ih =>
    obtain ⟨hname, hnames⟩ := List.forall_mem_cons.1 h
    obtain ⟨name, value⟩ := entry
    simp only [List.map_cons, Prod.map, id_eq, ofEntries, eq_crlf_iff hname, ih hnames,
      ofMacro_crlf]
    split
    · simp [Except.map, Except.mapError, BrewError.crlf, crlf_cons]
    split
    · rfl
    · cases ofMacro mode name value with
      | error e => rfl
      | ok rule => cases ofEntries mode entries <;> rfl

private theorem findCycle_crlf (oneLine : OneLine rules) :
    findCycle (rules.map crlf) = findCycle rules := by
  have hedges : ∀ rule, successors (rules.map crlf) rule.crlf
      = (successors rules rule).map crlf := by
    intro rule
    rw [successors, List.filter_map, successors]
    refine congrArg (List.map crlf) (List.filter_congr fun next hnext => ?_)
    obtain ⟨hnamed, hline⟩ := oneLine next hnext
    exact Matcher.hits_crlf hnamed hline
  have hname : name ∘ crlf = name := rfl
  have hnames : List.map name ∘ List.map crlf = List.map name := by rw [List.map_comp_map, hname]
  rw [findCycle, Graph.findCycle_renamed crlf_injective hedges, Option.map_map, hnames, findCycle]

end Rule

namespace Pass

/-- A pass over a text with other line breaks. -/
def crlf (pass : Pass) : Pass := { pass with text := Text.crlf pass.text }

@[simp] private theorem isIdle_crlf (pass : Pass) : pass.crlf.isIdle = pass.isIdle := rfl

@[simp] private theorem names_crlf (pass : Pass) : pass.crlf.names = pass.names := rfl

private theorem run_crlf (oneLine : Rule.OneLine rules) :
    run (rules.map Rule.crlf) (Text.crlf text) = (run rules text).crlf := by
  induction rules generalizing text with
  | nil => rfl
  | cons rule rules ih =>
    obtain ⟨⟨hnamed, hline⟩, hrules⟩ := List.forall_mem_cons.1 oneLine
    have hcount : rule.crlf.matcher.count (Text.crlf text) = rule.matcher.count text :=
      Matcher.count_crlf hnamed hline
    have hreplace : rule.crlf.matcher.replace rule.crlf.value (Text.crlf text)
        = Text.crlf (rule.matcher.replace rule.value text) := Matcher.replace_crlf hnamed hline
    simp only [List.map_cons, run, hcount, hreplace, ih hrules]
    split <;> rfl

end Pass

/-- What expansion gives, with other line breaks. -/
def Expansion.crlf (result : Expansion) : Expansion := { result with text := Text.crlf result.text }

namespace Expander

variable {expander : Expander}

/-- An expander that puts values with other line breaks. -/
def crlf (expander : Expander) : Expander := { expander with rules := expander.rules.map Rule.crlf }

private theorem oneLine_of_ofTable (hnames : ∀ entry ∈ table.entries, Text.OneLine entry.1)
    (made : ofTable mode extraIterations table = .ok expander) : Rule.OneLine expander.rules := by
  unfold ofTable at made
  split at made
  · simp at made
  next rules hrules =>
    split at made
    · simp at made
    · obtain rfl := Except.ok.inj made
      exact Rule.oneLine_of_ofEntries hnames hrules

private theorem ofTable_crlf (hnames : ∀ entry ∈ table.entries, Text.OneLine entry.1) :
    ofTable mode extraIterations (table.mapValues Text.crlf)
      = ((ofTable mode extraIterations table).map crlf).mapError BrewError.crlf := by
  have hfeed : ∀ entry ∈ table.entries, '\n' ∉ entry.1 := fun entry hentry =>
    (hnames entry hentry).2
  unfold ofTable
  rw [MacroTable.mapValues, Rule.ofEntries_crlf hfeed]
  cases hrules : Rule.ofEntries mode table.entries with
  | error e => rfl
  | ok rules =>
    have hcycle : Rule.findCycle (rules.map Rule.crlf) = Rule.findCycle rules :=
      Rule.findCycle_crlf (Rule.oneLine_of_ofEntries hnames hrules)
    simp only [Except.map, Except.mapError, hcycle]
    cases Rule.findCycle rules with
    | some cycle => rfl
    | none => simp [crlf]

private theorem settle_crlf (oneLine : Rule.OneLine rules) (left done : Nat) (changed : List Text)
    (text : Text) :
    settle (rules.map Rule.crlf) left done changed (Text.crlf text)
      = ((settle rules left done changed text).map Expansion.crlf).mapError BrewError.crlf := by
  induction left generalizing done changed text with
  | zero => rfl
  | succ left ih =>
    simp only [settle, Pass.run_crlf oneLine, Pass.isIdle_crlf, Pass.names_crlf]
    by_cases hidle : (Pass.run rules text).isIdle = true
    · rw [if_pos hidle, if_pos hidle]
      rfl
    · rw [if_neg hidle, if_neg hidle]
      exact ih _ _ _

private theorem expand_crlf (oneLine : Rule.OneLine expander.rules) :
    expander.crlf.expand (Text.crlf text)
      = ((expander.expand text).map Expansion.crlf).mapError BrewError.crlf :=
  settle_crlf oneLine expander.maxPasses 0 [] text

end Expander

/-- What brewing gives, with other line breaks. -/
def Brew.crlf (brew : Brew) : Brew :=
  { brew with body := Text.crlf brew.body, table := brew.table.mapValues Text.crlf }

namespace BrewOptions

variable {options : BrewOptions} {document declarations : Text}

/-- Brewing goes through line breaks: a document in which each line feed has a carriage return
before it gives the grammar, the values and the malformed declaration with a carriage return
before each line feed, and all else as it was, if no separator and no name of the table has a line
break. -/
theorem brew_crlf (hdocument : '\r' ∉ document) (hseparator : Text.OneLine options.separator)
    (hnames : ∀ table, options.tableOf document = .ok table → ∀ entry ∈ table.entries,
      '\n' ∉ entry.1) :
    options.brew (crlf document) = ((options.brew document).map Brew.crlf).mapError
      BrewError.crlf := by
  unfold brew
  simp only [Document.split_crlf hseparator]
  cases hsplit : (Document.split options.separator document).declarations? with
  | none => rfl
  | some declarations =>
    -- The same section is cut off on both sides, and it has no carriage return before.
    have hreturn : '\r' ∉ declarations := fun hmem =>
      hdocument ((Document.isSuffix_of_split hsplit).subset hmem)
    have htableOf : options.tableOf document = MacroTable.parse declarations := by
      simp only [tableOf, hsplit]
    rw [htableOf] at hnames
    simp only [Option.map_some]
    cases hparse : MacroTable.parse declarations with
    | error e =>
      rw [MacroTable.parse_crlf_of_error hreturn hparse]
      rfl
    | ok table =>
      have hfeed := hnames table hparse
      have hline : ∀ entry ∈ table.entries, Text.OneLine entry.1 := by
        intro entry hentry
        refine ⟨fun hmem => ?_, hfeed entry hentry⟩
        have hspelled : '\r' ∈ MacroTable.spelled entry := List.mem_append_left _ hmem
        exact hreturn (MacroTable.spelled_subset_of_parse hparse hentry hspelled)
      rw [MacroTable.parse_crlf_of_ok hreturn hparse hfeed]
      simp only [Expander.ofTable_crlf hline]
      cases hmade : Expander.ofTable options.matching options.extraIterations table with
      | error e => rfl
      | ok expander =>
        have oneLine := Expander.oneLine_of_ofTable hline hmade
        simp only [Except.map, Except.mapError, Expander.expand_crlf oneLine]
        cases expander.expand (Document.split options.separator document).body <;> rfl

def quotedBreak : Text := ['A', '\n', '#', 'A', ':', '\'', '\n', '\'', ';', '\n']

def numberSign : BrewOptions := { separator := ['#'] }

theorem quotedBreak_brew_crlf :
    '\r' ∉ quotedBreak ∧ Text.OneLine numberSign.separator ∧
      (∀ table, numberSign.tableOf quotedBreak = .ok table → ∀ entry ∈ table.entries,
        '\n' ∉ entry.1) ∧
      (numberSign.brew quotedBreak).map Brew.body = .ok ['\'', '\n', '\'', '\n'] ∧
      (numberSign.brew (crlf quotedBreak)).map Brew.body
        = .ok ['\'', '\r', '\n', '\'', '\r', '\n'] := by
  have hdocument : '\r' ∉ quotedBreak := by decide
  have hseparator : Text.OneLine numberSign.separator := by decide
  have hnames : ∀ table, numberSign.tableOf quotedBreak = .ok table → ∀ entry ∈ table.entries,
      '\n' ∉ entry.1 := by
    intro table htable
    have hread : (numberSign.tableOf quotedBreak).toOption
        = some (MacroTable.ofList [(['A'], ['\'', '\n', '\''])]) := by decide +kernel
    rw [htable] at hread
    obtain rfl := Option.some.inj hread
    decide
  have hbody : (numberSign.brew quotedBreak).map Brew.body = .ok ['\'', '\n', '\'', '\n'] := by
    decide +kernel
  refine ⟨hdocument, hseparator, hnames, hbody, ?_⟩
  rw [brew_crlf hdocument hseparator hnames]
  cases hbrew : numberSign.brew quotedBreak with
  | error e => simp [hbrew, Except.map] at hbody
  | ok brew =>
    rw [hbrew] at hbody
    exact congrArg (Except.map crlf) hbody

end BrewOptions

end GrammarBrew
