import GrammarBrew.Config.Layers
import GrammarBrew.Proofs.Setting.Merge
import Mathlib.Data.Fintype.Basic

/-!
The keys of a configuration and the values that stand under them. What is laid over settings changes
the keys that it names and no others, and settings with a value for every key give a configuration.
-/

set_option autoImplicit false
set_option relaxedAutoImplicit false

namespace GrammarBrew

inductive Leaf where
  | separator | header | matching | extraIterations | grammarDirectory | sourcePattern | output
  deriving DecidableEq, Repr

instance : Fintype Leaf :=
  ⟨{.separator, .header, .matching, .extraIterations, .grammarDirectory, .sourcePattern,
    .output}, by
    intro leaf
    cases leaf <;> simp⟩

namespace Leaf

open Setting

def holder : Leaf → Text
  | separator | header | matching | extraIterations => "brew".toList
  | grammarDirectory | sourcePattern | output => "paths".toList

def name : Leaf → Text
  | separator => "separator".toList
  | header => "header".toList
  | matching => "matching".toList
  | extraIterations => "extra_iterations".toList
  | grammarDirectory => "grammar_dir".toList
  | sourcePattern => "source_pattern".toList
  | output => "output".toList

def key (leaf : Leaf) : Text := leaf.holder ++ '.' :: leaf.name

def default : Leaf → Setting
  | separator => .text "// InjectedTokens".toList
  | header => .text "// AUTO-GENERATED FILE - DO NOT EDIT".toList
  | matching => .text "word-boundary".toList
  | extraIterations => .integer 2
  | grammarDirectory => .text "grammar".toList
  | sourcePattern => .text "Caramel_v([0-9]+)\\.g4".toList
  | output => .text "grammar/Caramel.g4".toList

/-- Values that a key can have: a mode by its name, a count, or a text. -/
def WellTyped : Leaf → Setting → Prop
  | matching, value => ∃ label, value = .text label ∧ (Config.modeOf? value).isSome
  | extraIterations, value => value.asCount?.isSome
  | _, value => value.asText?.isSome

/-- A configuration has what a value says for a key. -/
def Gives : Leaf → Setting → Config → Prop
  | separator, value, config => value.asText? = some config.options.separator
  | header, value, config => value.asText? = some config.options.header
  | matching, value, config => Config.modeOf? value = some config.options.matching
  | extraIterations, value, config => value.asCount? = some config.options.extraIterations
  | grammarDirectory, value, config => value.asText?.map Path.ofText = some config.grammarDirectory
  | sourcePattern, value, config => value.asText? = some config.sourcePattern
  | output, value, config => value.asText?.map Path.ofText = some config.output

instance (leaf : Leaf) (value : Setting) : Decidable (leaf.WellTyped value) :=
  match leaf with
  | matching =>
    match value with
    | .text label =>
      decidable_of_iff ((Config.modeOf? (.text label)).isSome = true)
        ⟨fun h => ⟨label, rfl, h⟩, fun ⟨_, _, h⟩ => h⟩
    | .null | .boolean _ | .integer _ | .float _ | .list _ | .table _ =>
      isFalse (by rintro ⟨_, h, -⟩; cases h)
  | extraIterations => inferInstanceAs (Decidable (value.asCount?.isSome = true))
  | separator | header | grammarDirectory | sourcePattern | output =>
    inferInstanceAs (Decidable (value.asText?.isSome = true))

variable {leaf other : Leaf} {value setting : Setting} {config : Config}

def valueIn (leaf : Leaf) (setting : Setting) : Option Setting :=
  (setting.get? leaf.holder).bind fun table => table.get? leaf.name

/-- The values that a table in a file sets for a key. -/
def valuesUnder (leaf : Leaf) (entry : Text × Setting) : List Setting :=
  if entry.1 = leaf.holder then
    entry.2.entries.filterMap fun held => if held.1 = leaf.name then some held.2 else none
  else []

/-- The values that the settings of a file set for a key; there is at most one where names are told
apart. -/
def valuesIn (leaf : Leaf) (file : Setting) : List Setting := file.entries.flatMap leaf.valuesUnder

/-! ### The names of the keys -/

@[simp] private theorem lower_holder (leaf : Leaf) :
    leaf.holder.lower = leaf.holder := by cases leaf <;> decide

@[simp] private theorem lower_name (leaf : Leaf) :
    leaf.name.lower = leaf.name := by cases leaf <;> decide

theorem parse?_key (leaf : Leaf) :
    Key.parse? leaf.key = some ⟨leaf.holder, [.child leaf.name]⟩ := by
  cases leaf <;> decide

private theorem ofText_holder (leaf : Leaf) : Key.ofText leaf.holder = ⟨leaf.holder, []⟩ := by
  cases leaf <;> decide

private theorem eq_of_name_eq (h : leaf.name = other.name) : leaf = other := by
  cases leaf <;> cases other <;> first | rfl | exact absurd h (by decide)

theorem valueIn_default (leaf : Leaf) :
    leaf.valueIn ({} : Config).toSetting = some leaf.default := by
  have hdirectory : (Path.ofText "grammar".toList).display = "grammar".toList := by decide +kernel
  have houtput : (Path.ofText "grammar/Caramel.g4".toList).display
      = "grammar/Caramel.g4".toList := by
    decide +kernel
  rw [Config.toSetting, hdirectory, houtput]
  cases leaf <;> rfl

theorem not_isTable_of_wellTyped (h : leaf.WellTyped value) : ¬ value.IsTable := by
  rintro ⟨entries, rfl⟩
  cases leaf <;> simp [WellTyped, asText?, asCount?] at h

/-! ### Laying values over others -/

private theorem get?_getD {empty : Setting} (h : empty.entries = []) (old : Option Setting)
    (name : Text) :
    (old.getD empty).get? name = old.bind (·.get? name) := by
  cases old with
  | none =>
    rw [Option.getD_none, get?, h]
    rfl
  | some old => rfl

private theorem valueIn_put (leaf holding : Leaf) {values : List (Text × Setting)}
    (plain : ∀ entry ∈ values, ¬ entry.2.IsTable)
    (lower : ∀ entry ∈ values, entry.1.lower = entry.1) :
    leaf.valueIn (setting.put holding.holder (.table values))
      = (leaf.valuesUnder (holding.holder, .table values)).getLast?.or (leaf.valueIn setting) := by
  have hnames : (values.filterMap fun entry =>
      if entry.1.lower = leaf.name then some entry.2 else none)
      = values.filterMap fun entry => if entry.1 = leaf.name then some entry.2 else none :=
    List.filterMap_congr fun entry hentry => by rw [lower entry hentry]
  rw [valueIn, valueIn, get?_put_table, lower_holder, valuesUnder]
  by_cases hholder : leaf.holder = holding.holder
  · rw [if_pos hholder, if_pos hholder.symm, Option.bind_some, get?_putAll plain, hnames,
      get?_getD rfl, hholder]
    rfl
  · rw [if_neg hholder, if_neg (Ne.symm hholder)]
    rfl

private theorem valueIn_assign (leaf set : Leaf) (plain : ¬ value.IsTable) :
    leaf.valueIn (setting.assign ⟨set.holder, [.child set.name]⟩ value)
      = if leaf = set then some value else leaf.valueIn setting := by
  rw [valueIn, valueIn, assign_child, get?_alter, lower_holder]
  by_cases hholder : leaf.holder = set.holder
  · rw [if_pos hholder, Option.bind_some, get?_put_of_not_isTable plain, lower_name,
      get?_getD rfl, hholder]
    by_cases hleaf : leaf = set
    · rw [if_pos hleaf, if_pos (congrArg name hleaf)]
    · rw [if_neg hleaf, if_neg fun hname => hleaf (eq_of_name_eq hname)]
  · rw [if_neg hholder, if_neg fun hleaf => hholder (congrArg holder hleaf)]

end Leaf

/-- The settings of a file: at most the two tables, holding values for their keys. -/
structure Setting.Fits (file : Setting) : Prop where
  table : ∀ entry ∈ file.entries, (∃ leaf : Leaf, entry.1 = leaf.holder) ∧ entry.2.IsTable
  value : ∀ entry ∈ file.entries, ∀ held ∈ entry.2.entries,
    ∃ leaf : Leaf, entry.1 = leaf.holder ∧ held.1 = leaf.name ∧ leaf.WellTyped held.2

instance (file : Setting) : Decidable file.Fits :=
  decidable_of_iff
    ((∀ entry ∈ file.entries, (∃ leaf : Leaf, entry.1 = leaf.holder) ∧ entry.2.IsTable) ∧
      ∀ entry ∈ file.entries, ∀ held ∈ entry.2.entries,
        ∃ leaf : Leaf, entry.1 = leaf.holder ∧ held.1 = leaf.name ∧ leaf.WellTyped held.2)
    ⟨fun ⟨table, value⟩ => ⟨table, value⟩, fun h => ⟨h.table, h.value⟩⟩

namespace Leaf

open Setting

variable {leaf : Leaf} {file setting value : Setting}

private theorem valueIn_assign_ofText (leaf : Leaf) {entry : Text × Setting}
    (table : (∃ leaf : Leaf, entry.1 = leaf.holder) ∧ entry.2.IsTable)
    (value : ∀ held ∈ entry.2.entries,
      ∃ leaf : Leaf, entry.1 = leaf.holder ∧ held.1 = leaf.name ∧ leaf.WellTyped held.2)
    (setting : Setting) :
    leaf.valueIn (setting.assign (Key.ofText entry.1) entry.2)
      = (leaf.valuesUnder entry).getLast?.or (leaf.valueIn setting) := by
  obtain ⟨first, second⟩ := entry
  obtain ⟨⟨holding, rfl⟩, values, rfl⟩ := table
  rw [ofText_holder, assign_name]
  refine valueIn_put leaf holding (fun held hheld => ?_) fun held hheld => ?_
  · obtain ⟨set, -, -, htyped⟩ := value held hheld
    exact not_isTable_of_wellTyped htyped
  · obtain ⟨set, -, hname, -⟩ := value held hheld
    rw [hname, lower_name]

theorem valueIn_layFile (leaf : Leaf) (fits : file.Fits) (setting : Setting) :
    leaf.valueIn (Layers.layFile setting file) = (leaf.valuesIn file).getLast?.or
      (leaf.valueIn setting) := by
  obtain ⟨htable, hvalue⟩ := fits
  unfold Layers.layFile valuesIn
  generalize file.entries = entries at htable hvalue
  induction entries generalizing setting with
  | nil => rfl
  | cons entry entries ih =>
    obtain ⟨hentry, hentries⟩ := List.forall_mem_cons.1 htable
    obtain ⟨hheld, hothers⟩ := List.forall_mem_cons.1 hvalue
    rw [List.foldl_cons, ih _ hentries hothers, List.flatMap_cons, List.getLast?_append,
      Option.or_assoc, ← valueIn_assign_ofText leaf hentry hheld]

theorem valueIn_layOverrides (leaf : Leaf) {overrides : List (Leaf × Setting)}
    (plain : ∀ entry ∈ overrides, ¬ entry.2.IsTable) (setting : Setting) :
    leaf.valueIn (Layers.layOverrides
        (overrides.map fun entry => (⟨entry.1.holder, [.child entry.1.name]⟩, entry.2)) setting)
      = (overrides.filterMap fun entry => if leaf = entry.1 then some entry.2 else none).getLast?.or
        (leaf.valueIn setting) := by
  unfold Layers.layOverrides
  induction overrides generalizing setting with
  | nil => rfl
  | cons entry overrides ih =>
    obtain ⟨hentry, hothers⟩ := List.forall_mem_cons.1 plain
    rw [List.map_cons, List.foldl_cons, ih hothers, valueIn_assign leaf entry.1 hentry,
      getLast?_filterMap_cons]
    by_cases hleaf : leaf = entry.1
    · rw [if_pos hleaf, if_pos hleaf, Option.some_or]
    · rw [if_neg hleaf, if_neg hleaf, Option.none_or]

/-! ### Reading the values -/

private theorem field_eq (h : leaf.valueIn setting = some value) (place : Nat) {label : String}
    (hlabel : label.toList = leaf.name) : Config.field (setting.get? leaf.holder) place label
      = .ok value := by
  obtain ⟨table, htable, hvalue⟩ := Option.bind_eq_some_iff.1 h
  unfold Config.field
  rw [htable, hlabel]
  cases table with
  | table entries =>
    have hlookup : entries.lookup leaf.name = some value := hvalue
    simp only [hlookup]
  | _ => simp [get?, entries] at hvalue

private theorem textField_eq (h : leaf.valueIn setting = some value) {text : Text}
    (htext : value.asText? = some text) (place : Nat) {label : String}
    (hlabel : label.toList = leaf.name) :
    Config.textField (setting.get? leaf.holder) place label = .ok text := by
  simp only [Config.textField, field_eq h place hlabel, bind, Except.bind, htext]
  rfl

private theorem countField_eq (h : leaf.valueIn setting = some value) {count : Nat}
    (hcount : value.asCount? = some count) (place : Nat) {label : String}
    (hlabel : label.toList = leaf.name) :
    Config.countField (setting.get? leaf.holder) place label = .ok count := by
  simp only [Config.countField, field_eq h place hlabel, bind, Except.bind, hcount]
  rfl

private theorem modeField_eq (h : leaf.valueIn setting = some value) {mode : MatchMode}
    (hmode : Config.modeOf? value = some mode) (place : Nat) {label : String}
    (hlabel : label.toList = leaf.name) :
    Config.modeField (setting.get? leaf.holder) place label = .ok mode := by
  simp only [Config.modeField, field_eq h place hlabel, bind, Except.bind, hmode]
  rfl

/-- Settings with a value for each key give a configuration that has what the values say. -/
theorem exists_ofSetting {values : Leaf → Setting}
    (typed : ∀ leaf : Leaf, leaf.WellTyped (values leaf))
    (h : ∀ leaf : Leaf, leaf.valueIn setting = some (values leaf)) :
    ∃ config, Config.ofSetting setting = .ok config ∧
      ∀ leaf : Leaf, leaf.Gives (values leaf) config := by
  obtain ⟨separatorText, hseparator⟩ := Option.isSome_iff_exists.1 (typed separator)
  obtain ⟨headerText, hheader⟩ := Option.isSome_iff_exists.1 (typed header)
  obtain ⟨label, -, hlabel⟩ := typed matching
  obtain ⟨mode, hmode⟩ := Option.isSome_iff_exists.1 hlabel
  obtain ⟨count, hcount⟩ := Option.isSome_iff_exists.1 (typed extraIterations)
  obtain ⟨directory, hdirectory⟩ := Option.isSome_iff_exists.1 (typed grammarDirectory)
  obtain ⟨pattern, hpattern⟩ := Option.isSome_iff_exists.1 (typed sourcePattern)
  obtain ⟨path, hpath⟩ := Option.isSome_iff_exists.1 (typed output)
  refine ⟨⟨⟨separatorText, headerText, mode, count⟩, Path.ofText directory, pattern,
    Path.ofText path⟩, ?_, ?_⟩
  · have hreadSeparator : Config.textField (setting.get? "brew".toList) 0 "separator"
        = .ok separatorText :=
      textField_eq (h separator) hseparator 0 rfl
    have hreadHeader : Config.textField (setting.get? "brew".toList) 1 "header" = .ok headerText :=
      textField_eq (h header) hheader 1 rfl
    have hreadMatching : Config.modeField (setting.get? "brew".toList) 2 "matching" = .ok mode :=
      modeField_eq (h matching) hmode 2 rfl
    have hreadCount : Config.countField (setting.get? "brew".toList) 3 "extra_iterations"
        = .ok count :=
      countField_eq (h extraIterations) hcount 3 rfl
    have hreadDirectory : Config.textField (setting.get? "paths".toList) 0 "grammar_dir"
        = .ok directory :=
      textField_eq (h grammarDirectory) hdirectory 0 rfl
    have hreadPattern : Config.textField (setting.get? "paths".toList) 1 "source_pattern"
        = .ok pattern :=
      textField_eq (h sourcePattern) hpattern 1 rfl
    have hreadOutput : Config.textField (setting.get? "paths".toList) 2 "output" = .ok path :=
      textField_eq (h output) hpath 2 rfl
    simp only [Config.ofSetting, bind, Except.bind, hreadSeparator, hreadHeader,
      hreadMatching, hreadCount, hreadDirectory, hreadPattern, hreadOutput]
    rfl
  · intro leaf
    cases leaf with
    | separator => exact hseparator
    | header => exact hheader
    | matching => exact hmode
    | extraIterations => exact hcount
    | grammarDirectory => exact congrArg (Option.map Path.ofText) hdirectory
    | sourcePattern => exact hpattern
    | output => exact congrArg (Option.map Path.ofText) hpath

theorem wellTyped_default (leaf : Leaf) : leaf.WellTyped leaf.default := by
  cases leaf with
  | matching => exact ⟨_, rfl, by decide⟩
  | _ => rfl

theorem wellTyped_of_mem_valuesIn (fits : file.Fits) (h : value ∈ leaf.valuesIn file) :
    leaf.WellTyped value := by
  obtain ⟨entry, hentry, hvalue⟩ := List.mem_flatMap.1 h
  unfold valuesUnder at hvalue
  split at hvalue
  · obtain ⟨held, hheld, hsome⟩ := List.mem_filterMap.1 hvalue
    obtain ⟨set, -, hname, htyped⟩ := fits.value entry hentry held hheld
    split at hsome
    next hleaf =>
      obtain rfl := Option.some.inj hsome
      obtain rfl := eq_of_name_eq (hleaf.symm.trans hname)
      exact htyped
    · cases hsome
  · cases hvalue

end Leaf

end GrammarBrew
