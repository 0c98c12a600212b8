import GrammarBrew.Recipe.Version
import Mathlib.Data.List.Basic

/-!
The order of candidates. No two candidates of different names or versions count the same, so that
the newest of some candidates is one of them and the only one that none counts above.
-/

set_option autoImplicit false
set_option relaxedAutoImplicit false

namespace GrammarBrew.Candidate

variable {a b c newest : Candidate} {x y z : Option Text} {candidates : List Candidate}

/-! ### Versions -/

private theorem olderVersion_irrefl (x : Option Text) : olderVersion x x = false := by
  cases x with
  | none => rfl
  | some digits => simp [olderVersion]

private theorem olderVersion_trans (hxy : olderVersion x y = true) (hyz : olderVersion y z = true) :
    olderVersion x z = true := by
  cases z with
  | none => simp [olderVersion] at hyz
  | some z =>
    cases y with
    | none => simp [olderVersion] at hxy
    | some y =>
      cases x with
      | none => rfl
      | some x =>
        simp only [olderVersion, Bool.or_eq_true, Bool.and_eq_true, decide_eq_true_eq, beq_iff_eq]
          at hxy hyz ⊢
        rcases hxy with hxy | ⟨hlength, hxy⟩
        · exact Or.inl (by omega)
        · rcases hyz with hyz | ⟨hlength', hyz⟩
          · exact Or.inl (by omega)
          · exact Or.inr ⟨hlength.trans hlength', List.lt_trans hxy hyz⟩

theorem olderVersion_total (hxy : olderVersion x y = false) (hyx : olderVersion y x = false) :
    x = y := by
  cases x with
  | none =>
    cases y with
    | none => rfl
    | some y => simp [olderVersion] at hxy
  | some x =>
    cases y with
    | none => simp [olderVersion] at hyx
    | some y =>
      simp only [olderVersion, Bool.or_eq_false_iff, Bool.and_eq_false_imp, decide_eq_false_iff_not,
        beq_iff_eq] at hxy hyx
      have hlength : x.length = y.length := by omega
      exact congrArg some (List.le_antisymm (hyx.2 hlength.symm) (hxy.2 hlength))

/-! ### Candidates -/

theorem isOlder_iff :
    a.isOlder b = true
      ↔ olderVersion a.version? b.version? = true ∨
        (a.version? = b.version? ∧ a.name < b.name) := by
  simp [isOlder]

theorem isOlder_irrefl (a : Candidate) : a.isOlder a = false := by
  rw [← Bool.not_eq_true, isOlder_iff, not_or, olderVersion_irrefl]
  exact ⟨Bool.false_ne_true, fun h => List.lt_irrefl _ h.2⟩

theorem isOlder_trans (hab : a.isOlder b = true) (hbc : b.isOlder c = true) :
    a.isOlder c = true := by
  rw [isOlder_iff] at hab hbc ⊢
  rcases hab with hab | ⟨hversion, hab⟩
  · rcases hbc with hbc | ⟨hversion, -⟩
    · exact Or.inl (olderVersion_trans hab hbc)
    · exact Or.inl (hversion ▸ hab)
  · rcases hbc with hbc | ⟨hversion', hbc⟩
    · exact Or.inl (hversion ▸ hbc)
    · exact Or.inr ⟨hversion.trans hversion', List.lt_trans hab hbc⟩

theorem eq_of_not_isOlder (hab : a.isOlder b = false) (hba : b.isOlder a = false) : a = b := by
  rw [← Bool.not_eq_true, isOlder_iff, not_or, Bool.not_eq_true, not_and] at hab hba
  have hversion := olderVersion_total hab.1 hba.1
  have hname := List.le_antisymm (hba.2 hversion.symm) (hab.2 hversion)
  cases a
  cases b
  simp only at hversion hname
  rw [hversion, hname]

private theorem isOlder_of_not_isOlder (hab : a.isOlder b = false) (hac : a.isOlder c = true) :
    b.isOlder c = true := by
  by_contra hbc
  rw [Bool.not_eq_true] at hbc
  by_cases hba : b.isOlder a = true
  · simp [isOlder_trans hba hac] at hbc
  · obtain rfl := eq_of_not_isOlder hab (by simpa using hba)
    simp [hac] at hbc

private def better (best other : Candidate) : Candidate :=
  if best.isOlder other then other else best

private theorem better_cases (best other : Candidate) :
    best.better other = best ∨ best.better other = other := by
  unfold better
  split
  · exact Or.inr rfl
  · exact Or.inl rfl

private theorem not_isOlder_of_better (h : a.isOlder (b.better c) = false) :
    a.isOlder b = false ∧ a.isOlder c = false := by
  unfold better at h
  split at h
  next hbc =>
    refine ⟨?_, h⟩
    by_contra hab
    simp [isOlder_trans (by simpa using hab) hbc] at h
  next hbc =>
    refine ⟨h, ?_⟩
    by_contra hac
    exact hbc (isOlder_of_not_isOlder h (by simpa using hac))

private theorem newest_foldl (first : Candidate) (others : List Candidate) :
    others.foldl better first ∈ first :: others ∧
      ∀ c ∈ first :: others, (others.foldl better first).isOlder c = false := by
  induction others generalizing first with
  | nil => simp [isOlder_irrefl]
  | cons other others ih =>
    obtain ⟨hmem, hnone⟩ := ih (first.better other)
    obtain ⟨hfirst, hrest⟩ := List.forall_mem_cons.1 hnone
    obtain ⟨hbest, hother⟩ := not_isOlder_of_better hfirst
    rw [List.foldl_cons]
    refine ⟨?_, List.forall_mem_cons.2 ⟨hbest, List.forall_mem_cons.2 ⟨hother, hrest⟩⟩⟩
    rcases List.mem_cons.1 hmem with heq | hmem
    · rcases better_cases first other with hfirst | hother
      · exact List.mem_cons.2 (Or.inl (heq.trans hfirst))
      · exact List.mem_cons_of_mem first (List.mem_cons.2 (Or.inl (heq.trans hother)))
    · exact List.mem_cons_of_mem first (List.mem_cons_of_mem other hmem)

theorem newest?_spec (h : newest? candidates = some newest) :
    newest ∈ candidates ∧ ∀ c ∈ candidates, newest.isOlder c = false := by
  cases candidates with
  | nil => simp [newest?] at h
  | cons first others =>
    obtain rfl := Option.some.inj h
    exact newest_foldl first others

end GrammarBrew.Candidate
