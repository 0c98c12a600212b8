import GrammarBrew.Proofs.Pattern.Closing.Branches
import GrammarBrew.Proofs.Pattern.Fuel
import GrammarBrew.Proofs.Regex.WholeText
import GrammarBrew.Recipe.Version

/-!
Patterns for whole names. A pattern that closes no group it did not open is read between the ends of
the name as it is read alone, if it ends before what is put behind it; an open comment takes that
in, and then nothing is read.
-/

set_option autoImplicit false
set_option relaxedAutoImplicit false

namespace GrammarBrew.Pattern

open Read Candidate

/-- A pattern ends before what is put behind it: a closing parenthesis there is one too many. -/
def Ends (pattern : Text) : Prop := read (pattern ++ closing) = .error .unopenedGroup

variable {pattern : Text} {regex body : Regex} {depth : Nat}

private theorem reads_of_ok {after : Reading} (balanced : read pattern ≠ .error .unopenedGroup)
    (h : branches (2 * pattern.length + 4) [] ⟨pattern, {}, 0, []⟩ = .ok ((regex, depth), after)) :
    after.rest = [] := by
  rw [read_of_ok h] at balanced
  by_contra hrest
  have hsome : !after.rest.isEmpty := by simpa using hrest
  exact balanced (if_pos hsome)

/-! ### Between the ends of the name -/

section

variable {fuel : Nat} {seen : List Part} {outer flags : Flags} {number : Option Nat}
  {reading after : Reading}

private theorem parts_wholeName (fuel : Nat) (rest : Text) :
    parts (fuel + 2) [] ⟨'^' :: '(' :: '?' :: ':' :: rest, {}, 0, []⟩
      = groupFrom fuel [⟨some (.look .textStart), 0⟩] {} (.group none {}) ⟨rest, {}, 0, []⟩ := by
  rw [parts]
  rfl

private theorem exists_of_groupFrom {result : (Regex × Nat) × Reading}
    (h : groupFrom fuel seen outer (.group number flags) reading = .ok result) :
    ∃ body after, branches fuel [] { reading with flags } = .ok (body, after) ∧
      after.rest.head? = some ')' := by
  have hset : (modify fun reading => { reading with flags := flags } : Read Unit) reading
      = .ok ((), { reading with flags }) := rfl
  rw [groupFrom, bind_of_ok hset] at h
  obtain ⟨body, ⟨text, flags, groups, names⟩, hbody, h⟩ := exists_of_bind_eq_ok h
  refine ⟨body, _, hbody, ?_⟩
  cases text with
  | nil => cases h
  | cons c text =>
    by_cases hc : c = ')'
    · rw [hc]
      rfl
    · obtain ⟨_, later, hnext, h⟩ := exists_of_bind_eq_ok h
      obtain ⟨rfl, rfl⟩ := Prod.mk.inj (Except.ok.inj hnext)
      rw [if_pos (by simpa using hc)] at h
      cases h

private theorem groupFrom_of_branches (fuel : Nat) {rest : Text} {groups : Nat} {names : List Text}
    (h : branches (fuel + 2) [] ⟨rest, {}, 0, []⟩
      = .ok ((body, depth), ⟨closing, flags, groups, names⟩)) :
    groupFrom (fuel + 2) [⟨some (.look .textStart), 0⟩] {} (.group none {}) ⟨rest, {}, 0, []⟩
      = .ok ((body.wholeText, depth + 2), ⟨[], {}, groups, names⟩) := by
  have hset : (modify fun reading => { reading with flags := {} } : Read Unit) ⟨rest, {}, 0, []⟩
      = .ok ((), ⟨rest, {}, 0, []⟩) := rfl
  have hlast : parts (fuel + 2) [⟨some (.group none body), depth + 1⟩, ⟨some (.look .textStart), 0⟩]
      ⟨['$'], {}, groups, names⟩
        = parts (fuel + 1) [⟨some (.look .textEnd), 0⟩, ⟨some (.group none body), depth + 1⟩,
        ⟨some (.look .textStart), 0⟩] ⟨[], {}, groups, names⟩ := by
    rw [parts]
    rfl
  have hsequence : sequence [⟨some (.look .textEnd), 0⟩, ⟨some (.group none body), depth + 1⟩,
      ⟨some (.look .textStart), 0⟩] = (body.wholeText, depth + 2) := by
    simp [sequence, Regex.wholeText]
  rw [groupFrom, bind_of_ok hset, bind_of_ok h]
  change parts (fuel + 2) [⟨some (.group none body), depth + 1⟩, ⟨some (.look .textStart), 0⟩]
      ⟨['$'], {}, groups, names⟩ = _
  rw [hlast, parts_atEnd (Nat.succ_pos fuel) rfl, hsequence]

private theorem along_branches (hfuel : 2 * pattern.length + 4 ≤ fuel) :
    Along Past (branches (2 * pattern.length + 4) [] ⟨pattern, {}, 0, []⟩)
      (branches fuel [] ⟨pattern ++ closing, {}, 0, []⟩) :=
  (branchesAgree (2 * pattern.length + 4)).1 fuel [] ⟨pattern, {}, 0, []⟩ hfuel
    (Nat.le_add_right _ 2)

private theorem exists_of_closed (balanced : read pattern ≠ .error .unopenedGroup)
    (hfuel : 2 * pattern.length + 4 ≤ fuel)
    (hlong : branches fuel [] ⟨pattern ++ closing, {}, 0, []⟩ = .ok ((body, depth), after))
    (hparen : after.rest.head? = some ')') : ∃ short : Reading,
      branches (2 * pattern.length + 4) [] ⟨pattern, {}, 0, []⟩ = .ok ((body, depth), short) ∧
        short.rest = [] ∧ after = short.closed := by
  have halong := along_branches hfuel
  rw [hlong] at halong
  cases hshort : branches (2 * pattern.length + 4) [] ⟨pattern, {}, 0, []⟩ with
  | error fault =>
    rw [hshort] at halong
    cases halong with
    | refused _ _ only =>
      have hmem : ')' ∈ ['$'] := (only _ _ rfl).subset (List.mem_of_mem_head? hparen)
      exact absurd hmem (by decide)
  | ok result =>
    obtain ⟨⟨found, inner⟩, short⟩ := result
    have hnil := reads_of_ok balanced hshort
    rw [hshort] at halong
    cases halong with
    | kept => exact ⟨short, rfl, hnil, rfl⟩
    | swallowed =>
      rw [hnil] at hparen
      cases hparen

private theorem kept_or_swallowed (hfuel : 2 * pattern.length + 4 ≤ fuel)
    (hshort : branches (2 * pattern.length + 4) [] ⟨pattern, {}, 0, []⟩
      = .ok ((body, depth), after)) :
    branches fuel [] ⟨pattern ++ closing, {}, 0, []⟩ = .ok ((body, depth), after.closed) ∨
      branches fuel [] ⟨pattern ++ closing, {}, 0, []⟩ = .ok ((body, depth), after) := by
  have halong := along_branches hfuel
  rw [hshort] at halong
  generalize branches fuel [] ⟨pattern ++ closing, {}, 0, []⟩ = long at halong
  cases halong with
  | kept => exact .inl rfl
  | swallowed => exact .inr rfl

private theorem ends_iff (hfuel : 2 * pattern.length + 8 ≤ fuel)
    (hshort : branches (2 * pattern.length + 4) [] ⟨pattern, {}, 0, []⟩
      = .ok ((body, depth), after))
    (hrest : after.rest = []) : Ends pattern ↔
      branches fuel [] ⟨pattern ++ closing, {}, 0, []⟩ = .ok ((body, depth), after.closed) := by
  have hlength : 2 * (pattern ++ closing).length + 4 = 2 * pattern.length + 8 := by
    simp [closing]
    omega
  have hmore := ((branchesExtend (2 * pattern.length + 8)) fuel hfuel).1 []
  have hclosed : after.closed.rest = closing := by rw [Reading.closed, hrest, List.nil_append]
  unfold Ends
  constructor
  · intro hends
    obtain hkept | hopen := kept_or_swallowed (Nat.le_add_right _ 4) hshort
    · exact hmore hkept
    · rw [← hlength] at hopen
      rw [read_of_ok hopen, hrest] at hends
      split_ifs at hends with hempty
      · cases hempty
      · cases hends
  · intro hkept
    obtain hends | hopen := kept_or_swallowed (Nat.le_add_right _ 4) hshort
    · rw [← hlength] at hends
      rw [read_of_ok hends, hclosed]
      rfl
    · rw [hmore hopen] at hkept
      have hsame := congrArg Reading.rest (congrArg Prod.snd (Except.ok.inj hkept))
      rw [hclosed, hrest] at hsame
      cases hsame

private theorem reads_wholeName_iff (balanced : read pattern ≠ .error .unopenedGroup) :
    Reads (wholeName pattern) regex depth ↔ ∃ body inner, Reads pattern body inner ∧ Ends pattern ∧
      regex = body.wholeText ∧ depth = inner + 2 := by
  have hlength : 2 * (wholeName pattern).length + 4 = 2 * pattern.length + 16 := by
    simp [wholeName]
    omega
  have htext : wholeName pattern = '^' :: '(' :: '?' :: ':' :: (pattern ++ closing) := by
    simp [wholeName, closing]
  unfold Reads
  rw [hlength, htext]
  -- The group is closed by the `)` behind the pattern exactly if nothing in it takes that in.
  constructor
  · rintro ⟨after, hrun, hrest⟩
    rw [branches] at hrun
    obtain ⟨branch, between, hparts, hrun⟩ := exists_of_bind_eq_ok hrun
    rw [parts_wholeName (2 * pattern.length + 13)] at hparts
    obtain ⟨⟨body, inner⟩, later, hbody, hparen⟩ := exists_of_groupFrom hparts
    obtain ⟨short, hshort, hnil, rfl⟩ := exists_of_closed balanced (by omega) hbody hparen
    obtain ⟨_, flags, groups, names⟩ := short
    obtain rfl : _ = [] := hnil
    have hends := (ends_iff (show 2 * pattern.length + 8 ≤ 2 * pattern.length + 13 by omega)
      hshort rfl).2 hbody
    rw [groupFrom_of_branches (2 * pattern.length + 11) hbody] at hparts
    obtain ⟨rfl, rfl⟩ := Prod.mk.inj (Except.ok.inj hparts)
    obtain ⟨rfl, rfl⟩ := Prod.mk.inj (congrArg Prod.fst (Except.ok.inj hrun))
    exact ⟨body, inner, ⟨_, hshort, rfl⟩, hends, rfl, rfl⟩
  · rintro ⟨body, inner, ⟨⟨_, flags, groups, names⟩, hshort, rfl⟩, hends, rfl, rfl⟩
    have hkept := (ends_iff (show 2 * pattern.length + 8 ≤ 2 * pattern.length + 13 by omega)
      hshort rfl).1 hends
    refine ⟨⟨[], {}, groups, names⟩, ?_, rfl⟩
    rw [branches, bind_of_ok ((parts_wholeName (2 * pattern.length + 13) _).trans
      (groupFrom_of_branches (2 * pattern.length + 11) hkept))]
    rfl

end

/-- A pattern can stand between the ends of a name as the expression that it is alone. -/
structure FitsName (pattern : Text) (body : Regex) : Prop where
  reads : ∃ depth, Reads pattern body depth ∧ depth + 2 ≤ depthLimit
  ends : Ends pattern
  small : body.wholeText.size ≤ Regex.sizeLimit

theorem FitsName.read (h : FitsName pattern body) : Pattern.read pattern = .ok body := by
  obtain ⟨depth, hreads, hdepth⟩ := h.reads
  exact read_eq_ok_iff.2 ⟨depth, hreads, Nat.le_of_add_right_le hdepth⟩

theorem parse_wholeName_eq_ok_iff (balanced : Pattern.read pattern ≠ .error .unopenedGroup) :
    parse (wholeName pattern) = .ok regex ↔ ∃ body, FitsName pattern body ∧
      regex = body.wholeText := by
  rw [parse_eq_ok_iff, read_eq_ok_iff]
  constructor
  · rintro ⟨⟨depth, hreads, hdepth⟩, hsize⟩
    obtain ⟨body, inner, hbody, hends, rfl, rfl⟩ := (reads_wholeName_iff balanced).1 hreads
    exact ⟨body, ⟨⟨inner, hbody, hdepth⟩, hends, hsize⟩, rfl⟩
  · rintro ⟨body, ⟨⟨inner, hbody, hdepth⟩, hends, hsize⟩, rfl⟩
    exact ⟨⟨inner + 2, (reads_wholeName_iff balanced).2 ⟨body, inner, hbody, hends, rfl, rfl⟩,
      hdepth⟩, hsize⟩

end GrammarBrew.Pattern
