import GrammarBrew.Brewer
import GrammarBrew.Proofs.Text.Cut

/-!
What it means that a document has one separator, and that it is split there. A separator that
overlaps itself may stand in a document twice and still cut it once; one without a border cuts
exactly where neither part contains it.
-/

set_option autoImplicit false
set_option relaxedAutoImplicit false

namespace GrammarBrew.Document

open Text

variable {separator text body declarations : Text}

/-- A document is two texts with the separator between them, where it stands first in the document
and no longer in what follows. -/
structure PartsAt (separator text body declarations : Text) : Prop where
  whole : text = body ++ separator ++ declarations
  first : ∀ i, OccursAt separator text i → body.length ≤ i
  last : ¬ separator <:+: declarations

private theorem split_eq_some_iff : split separator text = ⟨body, some declarations⟩ ↔
    PartsAt separator text body declarations := by
  have hparts : PartsAt separator text body declarations ↔
      cut separator text = some (body, declarations) ∧ cut separator declarations = none := by
    rw [cut_eq_some_iff, cut_eq_none_iff]
    exact ⟨fun ⟨whole, first, last⟩ => ⟨⟨whole, first⟩, last⟩, fun ⟨⟨whole, first⟩, last⟩ =>
      ⟨whole, first, last⟩⟩
  by_cases hempty : separator = []
  · -- An empty separator stands in every text, in what would follow it as well.
    subst hempty
    refine iff_of_false (by simp [split, plain]) fun h => h.last List.nil_infix
  · rw [hparts, split, if_neg (by simpa using hempty)]
    cases hcut : cut separator text with
    | none => simp [plain]
    | some parts =>
      obtain ⟨front, rest⟩ := parts
      dsimp only
      cases hrest : cut separator rest with
      | none =>
        simp only [mk.injEq, Option.some_inj, Prod.mk.injEq]
        constructor
        · rintro ⟨rfl, rfl⟩
          exact ⟨⟨rfl, rfl⟩, hrest⟩
        · exact And.left
      | some others =>
        refine iff_of_false (by simp [plain]) ?_
        rintro ⟨heq, hnone⟩
        obtain ⟨-, rfl⟩ := Prod.mk.inj (Option.some.inj heq)
        rw [hrest] at hnone
        cases hnone

private theorem split_cases (separator text : Text) : split separator text = plain text ∨
    ∃ body declarations, split separator text = ⟨body, some declarations⟩ := by
  unfold split
  split
  · exact Or.inl rfl
  split
  · exact Or.inl rfl
  split
  · exact Or.inr ⟨_, _, rfl⟩
  · exact Or.inl rfl

theorem isSuffix_of_split (h : (split separator text).declarations? = some declarations) :
    declarations <:+ text := by
  rcases split_cases separator text with hplain | ⟨body, rest, hsplit⟩
  · rw [hplain] at h
    cases h
  · rw [hsplit] at h
    obtain rfl : rest = declarations := Option.some.inj h
    rw [(split_eq_some_iff.1 hsplit).whole]
    exact List.suffix_append _ _

private theorem split_eq_plain_iff : split separator text = plain text ↔
    ¬ ∃ body declarations, PartsAt separator text body declarations := by
  simp only [← split_eq_some_iff]
  constructor
  · rintro hplain ⟨body, declarations, hsplit⟩
    rw [hplain] at hsplit
    cases hsplit
  · exact (split_cases separator text).resolve_right

private theorem split_eq_plain_of_not_hasMacros (h : (split separator text).hasMacros = false) :
    split separator text = plain text := by
  refine (split_cases separator text).resolve_right ?_
  rintro ⟨body, declarations, hsplit⟩
  rw [hsplit] at h
  cases h

private theorem partsAt_iff_of_borderless (h : Borderless separator) :
    PartsAt separator (body ++ separator ++ declarations) body declarations ↔
      ¬ separator <:+: body ∧ ¬ separator <:+: declarations := by
  by_cases hempty : separator = []
  · subst hempty
    exact iff_of_false (fun h => h.last List.nil_infix) fun h => h.1 List.nil_infix
  · rw [← h.first_iff hempty]
    exact ⟨fun hparts => ⟨hparts.first, hparts.last⟩, fun ⟨hfirst, hlast⟩ => ⟨rfl, hfirst, hlast⟩⟩

example : split ['a', 'a'] ['a', 'a', 'a'] = ⟨[], some ['a']⟩ := by decide

end Document

namespace BrewOptions

open Text Document

variable {options : BrewOptions} {document : Text}

private theorem brew_of_plain (h : split options.separator document = plain document) :
    options.brew document = .ok ⟨document, MacroTable.empty, 0⟩ ∧
      options.tableOf document = .ok MacroTable.empty := by
  constructor
  · simp only [brew, h, plain]
  · simp only [tableOf, h, plain]

private theorem borderless_separator : Borderless ({} : BrewOptions).separator := by decide +kernel

/-- How a document is split. It has a body and a macro section exactly where it parts at its one
separator, and is all body and its own brew where it does not; where the separator has no border,
that is where neither part contains it. -/
theorem split_exact (options : BrewOptions) (document : Text) :
    (∀ body declarations, split options.separator document = ⟨body, some declarations⟩ ↔
      PartsAt options.separator document body declarations) ∧
    (split options.separator document = plain document ↔
      ¬ ∃ body declarations, PartsAt options.separator document body declarations) ∧
    (Borderless options.separator → ∀ body declarations,
      split options.separator (body ++ options.separator ++ declarations)
        = ⟨body, some declarations⟩ ↔
        ¬ options.separator <:+: body ∧ ¬ options.separator <:+: declarations) ∧
    ((split options.separator document).hasMacros = false →
      options.brew document = .ok ⟨document, MacroTable.empty, 0⟩ ∧
        options.tableOf document = .ok MacroTable.empty) ∧
    (options.separator = [] → (split options.separator document).hasMacros = false) ∧
    Borderless ({} : BrewOptions).separator := by
  refine ⟨fun _ _ => split_eq_some_iff, split_eq_plain_iff, fun hborder _ _ => ?_,
    fun hnone => ?_, fun hempty => ?_, borderless_separator⟩
  · rw [split_eq_some_iff, partsAt_iff_of_borderless hborder]
  · exact brew_of_plain (split_eq_plain_of_not_hasMacros hnone)
  · simp [hempty, split, plain, hasMacros]

/-- A document with the usual separator, and one in which it stands twice. -/
theorem usual_split_exact :
    let options : BrewOptions := {}
    let body := ['r', ':', 'A', '\n']
    let declarations := ['\n', 'A', ':', 'x']
    let twice := options.separator ++ options.separator
    Borderless options.separator ∧ ¬ options.separator <:+: body ∧
      ¬ options.separator <:+: declarations ∧
      split options.separator (body ++ options.separator ++ declarations)
        = ⟨body, some declarations⟩ ∧
      (split options.separator twice).hasMacros = false ∧
      options.brew twice = .ok ⟨twice, MacroTable.empty, 0⟩ := by
  intro options body declarations twice
  obtain ⟨hbody, hdeclarations⟩ : ¬ options.separator <:+: body ∧
      ¬ options.separator <:+: declarations := by
    decide +kernel
  have htwice : (split options.separator twice).hasMacros = false := by decide +kernel
  obtain ⟨-, -, hsplit, hbrew, -, hborder⟩ := split_exact options twice
  exact ⟨hborder, hbody, hdeclarations,
    (hsplit hborder body declarations).2 ⟨hbody, hdeclarations⟩, htwice, (hbrew htwice).1⟩

end BrewOptions

end GrammarBrew
