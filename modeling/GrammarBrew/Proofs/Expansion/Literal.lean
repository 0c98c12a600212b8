import GrammarBrew.Proofs.Expansion.Pass
import GrammarBrew.Proofs.Matcher.Machine

/-!
Names and values are literal. A rule puts its value, as it is, in the place of its name, as it is,
and changes nothing else; in substring mode it does what plain replacement does. Where it finds the
name is where the regular expression finds it that the name is quoted for.
-/

set_option autoImplicit false
set_option relaxedAutoImplicit false

namespace GrammarBrew

namespace Text

/-- Plain replacement: a value for each occurrence of a name, from the left. -/
def replaceAll (name value : Text) : Text → Text
  | [] => []
  | c :: text =>
    if _hit : name ≠ [] ∧ name <+: c :: text then
      value ++ replaceAll name value ((c :: text).drop name.length)
    else c :: replaceAll name value text
  termination_by text => text.length
  decreasing_by
    · have := List.length_pos_iff.2 _hit.1
      rw [List.length_drop, List.length_cons]
      omega
    · exact Nat.lt_succ_self _

end Text

namespace Matcher

open Text

variable {name value text : Text} {before : Option Char} {i : Nat}

private theorem standsAt_substring_iff : (ofName .substring name).StandsAt text i
    ↔ OccursAt name text i := by
  simp [StandsAt, OccursAt, ofName]

private theorem replaceFrom_substring (named : name ≠ []) (before : Option Char) (text : Text) :
    (ofName .substring name).replaceFrom value before text = replaceAll name value text := by
  have hnamed : (ofName .substring name).name ≠ [] := named
  induction before, text using scanInduction hnamed with
  | nil before => rw [replaceFrom_nil, replaceAll]
  | miss before c text hmiss ih =>
    have hnone : ¬ (name ≠ [] ∧ name <+: c :: text) := by
      rintro ⟨-, rest, hrest⟩
      have hhit : (ofName .substring name).matchHere? before (c :: text) = some rest :=
        matchHere?_eq_some_iff.2 ⟨hrest.symm, nofun, nofun⟩
      rw [hmiss] at hhit
      cases hhit
    rw [replaceFrom_miss hnamed hmiss, ih, replaceAll, dif_neg hnone]
  | hit before c text rest hhit ih =>
    have htext : c :: text = name ++ rest := (matchHere?_eq_some_iff.1 hhit).1
    have hsome : name ≠ [] ∧ name <+: c :: text := ⟨named, rest, htext.symm⟩
    have hdrop : (c :: text).drop name.length = rest := by rw [htext, List.drop_left]
    rw [replaceFrom_hit hnamed hhit, ih, replaceAll, dif_pos hsome, hdrop]

private theorem replace_substring (named : name ≠ []) :
    (ofName .substring name).replace value text = replaceAll name value text :=
  replaceFrom_substring named none text

end Matcher

namespace Rule

open Text

variable {name value : Text} {mode : MatchMode} {rule : Rule}

private theorem substitutions_run (named : name ≠ []) (text : Text) :
    (Pass.run [ofEntry mode (name, value)] text).substitutions
      = if (ofEntry mode (name, value)).matcher.places text = [] then []
        else [⟨name, ((ofEntry mode (name, value)).matcher.places text).length⟩] := by
  have hnamed : (ofEntry mode (name, value)).matcher.name ≠ [] :=
    (Matcher.ofName_name mode name).symm ▸ named
  rw [Pass.run_singleton hnamed, ← Matcher.length_places]
  simp only [List.length_eq_zero_iff]
  rfl

private theorem occursAt_of_mem_places (named : name ≠ []) {text : Text} {i : Nat}
    (h : i ∈ (ofEntry mode (name, value)).matcher.places text) : OccursAt name text i := by
  obtain ⟨front, rest, htext, hplace, -⟩ :=
    (Matcher.leftmost_places_ofName named mode text).stand i h
  rw [Matcher.ofName_name] at htext
  exact ⟨front, rest, htext, hplace⟩

private theorem leftmost_places_substring (named : name ≠ []) (text : Text) :
    Leftmost (OccursAt name text) name.length
      ((ofEntry .substring (name, value)).matcher.places text) :=
  (Matcher.leftmost_places_ofName named .substring text).congr fun _ =>
    Matcher.standsAt_substring_iff

private theorem substitutions_substring_eq_nil_iff (named : name ≠ []) (text : Text) :
    (Pass.run [ofEntry .substring (name, value)] text).substitutions = [] ↔ ¬ name <:+: text := by
  have hleftmost : Leftmost (OccursAt name text) name.length
      ((ofEntry .substring (name, value)).matcher.places text) :=
        leftmost_places_substring named text
  rw [substitutions_run named, ← exists_occursAt_iff]
  constructor
  · rintro hnone ⟨i, hi⟩
    obtain ⟨j, hj, -⟩ := hleftmost.reach i hi
    rw [if_neg (List.ne_nil_of_mem hj)] at hnone
    cases hnone
  · intro hnone
    exact if_pos (List.eq_nil_iff_forall_not_mem.2 fun i hi => hnone ⟨i, hleftmost.stand i hi⟩)

/-- A name has a rule exactly if the pattern that it is quoted for is read as an expression: the
limit on the size of a matcher is the one on the size of an expression. -/
theorem exists_ofMacro_iff_parse (named : name ≠ []) :
    (∃ rule, ofMacro mode name value = .ok rule)
      ↔ ∃ regex, Pattern.parse (Matcher.ofName mode name).pattern = .ok regex := by
  have hnamed : (Matcher.ofName mode name).name ≠ [] :=
    (Matcher.ofName_name mode name).symm ▸ named
  rw [exists_ofMacro_iff, Matcher.exists_parse_pattern_iff hnamed]

/-- What one rule does to a text, whatever its name and its value are. It puts the value in the
place of the name at places at which the name stands and which do not overlap, changes nothing else,
and reports how many these places are. They are the matches of the pattern that the name is quoted
for. In substring mode they are all occurrences from the left, so that the text is rewritten as by
plain replacement, and nothing is replaced only if the name is not part of the text. -/
theorem run_literal (named : name ≠ []) (compiled : ofMacro mode name value = .ok rule) :
    (∀ text,
      RewrittenAt name value (rule.matcher.places text) text (Pass.run [rule] text).text ∧
      (∀ i ∈ rule.matcher.places text, OccursAt name text i) ∧
      (rule.matcher.places text).Pairwise (fun i j => i + name.length ≤ j) ∧
      (Pass.run [rule] text).substitutions
        = if rule.matcher.places text = [] then []
          else [⟨name, (rule.matcher.places text).length⟩]) ∧
    (∃ regex, Pattern.read rule.matcher.pattern = .ok regex ∧
      ∀ text, (Machine.ofRegex regex).Finds text 0
        ((rule.matcher.places text).map fun first => (first, first + name.length))) ∧
    (mode = .substring → ∀ text,
      Leftmost (OccursAt name text) name.length (rule.matcher.places text) ∧
      (Pass.run [rule] text).text = replaceAll name value text ∧
      ((Pass.run [rule] text).substitutions = [] ↔ ¬ name <:+: text)) := by
  obtain rfl := ofMacro_eq_ok compiled
  have hname : (ofEntry mode (name, value)).matcher.name = name := Matcher.ofName_name mode name
  have hnamed : (ofEntry mode (name, value)).matcher.name ≠ [] := hname.symm ▸ named
  refine ⟨fun text => ⟨?_, fun i => occursAt_of_mem_places named,
    (Matcher.leftmost_places_ofName named mode text).apart, substitutions_run named text⟩, ?_, ?_⟩
  · have hrewritten := Matcher.rewrittenAt_places hnamed value text
    rw [hname] at hrewritten
    rw [Pass.run_singleton hnamed]
    exact hrewritten
  · refine ⟨_, Matcher.read_pattern _, fun text => ?_⟩
    have hfinds := Matcher.finds_places hnamed text
    rwa [hname] at hfinds
  · rintro rfl text
    refine ⟨leftmost_places_substring named text, ?_, substitutions_substring_eq_nil_iff named text⟩
    rw [Pass.run_singleton hnamed]
    exact Matcher.replace_substring named

/-- A name that overlaps itself, with a character that patterns give a meaning, and a value that
replacements could give one. -/
theorem dotted_run :
    let name := ['é', '.', 'é']
    let value := ['$', '1', '\\']
    let text := ['é', '.', 'é', '.', 'é', ' ', 'é', 'x', 'é']
    let result := ['$', '1', '\\', '.', 'é', ' ', 'é', 'x', 'é']
    ∃ rule, ofMacro .substring name value = .ok rule ∧ rule.matcher.places text = [0] ∧
      RewrittenAt name value [0] text result ∧ Leftmost (OccursAt name text) 3 [0] ∧
      replaceAll name value text = result ∧
      ∃ regex, Pattern.read ['é', '\\', '.', 'é'] = .ok regex ∧
        (Machine.ofRegex regex).Finds text 0 [(0, 3)] := by
  intro name value text result
  obtain ⟨compiled, hplaces, htext, hpattern⟩ :
      ofMacro .substring name value = .ok (ofEntry .substring (name, value)) ∧
      (ofEntry .substring (name, value)).matcher.places text = [0] ∧
      (Pass.run [ofEntry .substring (name, value)] text).text = result ∧
      (ofEntry .substring (name, value)).matcher.pattern = ['é', '\\', '.', 'é'] := by
        decide +kernel
  obtain ⟨hall, ⟨regex, hread, hfinds⟩, hsubstring⟩ := run_literal (by simp [name]) compiled
  obtain ⟨hrewritten, -⟩ := hall text
  obtain ⟨hleftmost, hreplaced, -⟩ := hsubstring rfl text
  have hspans := hfinds text
  rw [hplaces] at hrewritten hleftmost hspans
  rw [htext] at hrewritten hreplaced
  rw [hpattern] at hread
  exact ⟨_, compiled, hplaces, hrewritten, hleftmost, hreplaced.symm, regex, hread, hspans⟩

end Rule

end GrammarBrew
