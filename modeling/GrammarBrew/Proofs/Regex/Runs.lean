import GrammarBrew.Regex.CharSet
import Mathlib.Data.List.Basic

/-!
The runs of a set of characters. They ascend, no two of them meet, and they hold just the characters
of the set, so that the search in them, which ends at the first run beyond a code point, tells
whether the set contains it.
-/

set_option autoImplicit false
set_option relaxedAutoImplicit false

namespace GrammarBrew

open Text (inRuns)

namespace CharSet

structure Ascending (runs : List (Nat × Nat)) : Prop where
  inOrder : runs.Pairwise fun run later => run.1 ≤ later.1
  filled : ∀ run ∈ runs, run.1 ≤ run.2

structure Apart (runs : List (Nat × Nat)) : Prop where
  between : runs.Pairwise fun run later => run.2 + 1 < later.1
  filled : ∀ run ∈ runs, run.1 ≤ run.2

/-- A code point lies in one of some runs, in whatever order they are. -/
def Holds (runs : List (Nat × Nat)) (n : Nat) : Prop := ∃ run ∈ runs, run.1 ≤ n ∧ n ≤ run.2

structure Tidy (runs : List (Nat × Nat)) : Prop extends Apart runs where
  characters : ∀ n, Holds runs n → n.isValidChar

def Orderly : CharSet → Prop
  | nothing => True
  | range first last => first ≤ last
  | property runs => Ascending runs ∧ ∀ n, Holds runs n → n.isValidChar
  | union a b | inter a b | diff a b => a.Orderly ∧ b.Orderly
  | compl a | anyCase a => a.Orderly

variable {a b others rest runs : List (Nat × Nat)} {run : Nat × Nat} {first n : Nat}

/-! ### Runs that ascend -/

theorem ascending_nil : Ascending [] := ⟨.nil, by simp⟩

private theorem ascending_singleton (h : run.1 ≤ run.2) : Ascending [run] :=
  ⟨List.pairwise_singleton .., by simpa using h⟩

theorem ascending_cons_iff :
    Ascending (run :: rest) ↔ (∀ later ∈ rest, run.1 ≤ later.1) ∧ run.1 ≤ run.2 ∧
      Ascending rest := by
  constructor
  · rintro ⟨inOrder, filled⟩
    obtain ⟨hlater, hrest⟩ := List.pairwise_cons.1 inOrder
    obtain ⟨hrun, hfilled⟩ := List.forall_mem_cons.1 filled
    exact ⟨hlater, hrun, hrest, hfilled⟩
  · rintro ⟨hlater, hrun, hrest, hfilled⟩
    exact ⟨List.pairwise_cons.2 ⟨hlater, hrest⟩, List.forall_mem_cons.2 ⟨hrun, hfilled⟩⟩

private theorem apart_cons_iff :
    Apart (run :: rest) ↔ (∀ later ∈ rest, run.2 + 1 < later.1) ∧ run.1 ≤ run.2 ∧ Apart rest := by
  constructor
  · rintro ⟨between, filled⟩
    obtain ⟨hlater, hrest⟩ := List.pairwise_cons.1 between
    obtain ⟨hrun, hfilled⟩ := List.forall_mem_cons.1 filled
    exact ⟨hlater, hrun, hrest, hfilled⟩
  · rintro ⟨hlater, hrun, hrest, hfilled⟩
    exact ⟨List.pairwise_cons.2 ⟨hlater, hrest⟩, List.forall_mem_cons.2 ⟨hrun, hfilled⟩⟩

private theorem Apart.ascending (h : Apart runs) : Ascending runs := by
  refine ⟨h.between.imp_of_mem ?_, h.filled⟩
  intro run later hrun _ hbetween
  have hfilled := h.filled run hrun
  omega

theorem holds_cons_iff : Holds (run :: rest) n ↔ run.1 ≤ n ∧ n ≤ run.2 ∨ Holds rest n := by
  simp [Holds]

private theorem inRuns_iff_holds (h : Ascending runs) : inRuns runs n = true ↔ Holds runs n := by
  induction runs with
  | nil => simp [inRuns, Holds]
  | cons run rest ih =>
    obtain ⟨hlater, -, hrest⟩ := ascending_cons_iff.1 h
    have hbeyond : Holds rest n → run.1 ≤ n := by
      rintro ⟨other, hother, hlow, -⟩
      exact Nat.le_trans (hlater other hother) hlow
    rw [holds_cons_iff, ← ih hrest]
    rw [← ih hrest] at hbeyond
    simp only [inRuns, Bool.and_eq_true, Bool.or_eq_true, decide_eq_true_eq]
    tauto

/-! ### Merging and joining -/

private theorem mergeFrom_perm {goOn : List (Nat × Nat) → List (Nat × Nat)}
    (hgoOn : ∀ others, (goOn others).Perm (rest ++ others)) (others : List (Nat × Nat)) :
    (mergeFrom run goOn others).Perm (run :: rest ++ others) := by
  induction others with
  | nil => exact (hgoOn []).cons run
  | cons other others ih =>
    rw [mergeFrom]
    split
    · exact (hgoOn (other :: others)).cons run
    · exact (ih.cons other).trans List.perm_middle.symm

private theorem merge_perm (a b : List (Nat × Nat)) : (merge a b).Perm (a ++ b) := by
  induction a generalizing b with
  | nil => exact .refl _
  | cons run rest ih => exact mergeFrom_perm ih b

private theorem ascending_mergeFrom {goOn : List (Nat × Nat) → List (Nat × Nat)}
    (hrun : Ascending (run :: rest)) (hperm : ∀ others, (goOn others).Perm (rest ++ others))
    (hgoOn : ∀ others, Ascending others → Ascending (goOn others)) (hothers : Ascending others) :
    Ascending (mergeFrom run goOn others) := by
  obtain ⟨hlater, hfilled, -⟩ := ascending_cons_iff.1 hrun
  -- The run comes first where what it is merged with begins no earlier.
  have hfirst : ∀ others, Ascending others → (∀ other ∈ others, run.1 ≤ other.1) →
      Ascending (run :: goOn others) := by
    intro others hothers hbegin
    refine ascending_cons_iff.2 ⟨fun other hother => ?_, hfilled, hgoOn others hothers⟩
    rcases List.mem_append.1 ((hperm others).mem_iff.1 hother) with hmem | hmem
    · exact hlater other hmem
    · exact hbegin other hmem
  induction others with
  | nil => exact hfirst [] hothers (by simp)
  | cons other others ih =>
    obtain ⟨hother, hotherFilled, hrest⟩ := ascending_cons_iff.1 hothers
    rw [mergeFrom]
    split
    next hle =>
      refine hfirst _ hothers (List.forall_mem_cons.2 ⟨hle, fun later hmem => ?_⟩)
      exact Nat.le_trans hle (hother later hmem)
    next hlt =>
      refine ascending_cons_iff.2 ⟨fun later hmem => ?_, hotherFilled, ih hrest⟩
      rcases List.mem_append.1 ((mergeFrom_perm hperm others).mem_iff.1 hmem) with hmem | hmem
      · rcases List.mem_cons.1 hmem with rfl | hmem
        · omega
        · have := hlater later hmem
          omega
      · exact hother later hmem

private theorem ascending_merge (ha : Ascending a) (hb : Ascending b) : Ascending (merge a b) := by
  induction a generalizing b with
  | nil => exact hb
  | cons run rest ih =>
    exact ascending_mergeFrom ha (merge_perm rest)
      (fun others => ih (ascending_cons_iff.1 ha).2.2) hb

private theorem holds_merge_iff : Holds (merge a b) n ↔ Holds a n ∨ Holds b n := by
  simp only [Holds, (merge_perm a b).mem_iff, List.mem_append, or_and_right, exists_or]

private theorem joinFrom_spec (h : Ascending (run :: rest)) : Apart (joinFrom run rest) ∧
    (∀ other ∈ joinFrom run rest, run.1 ≤ other.1) ∧ ∀ n, Holds (joinFrom run rest) n
      ↔ Holds (run :: rest) n := by
  induction rest generalizing run with
  | nil => exact ⟨⟨List.pairwise_singleton .., h.filled⟩, by simp [joinFrom], fun n => Iff.rfl⟩
  | cons next rest ih =>
    obtain ⟨hlater, hfilled, hrest⟩ := ascending_cons_iff.1 h
    obtain ⟨hnext, hnextFilled, hothers⟩ := ascending_cons_iff.1 hrest
    have hbegin := hlater next List.mem_cons_self
    rw [joinFrom]
    split
    next hmeet =>
      have hjoined : Ascending ((run.1, max run.2 next.2) :: rest) := ascending_cons_iff.2
        ⟨fun later hmem => Nat.le_trans hbegin (hnext later hmem), by dsimp only; omega, hothers⟩
      obtain ⟨hapart, hfrom, hholds⟩ := ih hjoined
      refine ⟨hapart, hfrom, fun n => ?_⟩
      rw [hholds, holds_cons_iff, holds_cons_iff, holds_cons_iff, ← or_assoc]
      refine or_congr_left ?_
      dsimp only
      omega
    next hgap =>
      obtain ⟨hapart, hfrom, hholds⟩ := ih hrest
      refine ⟨apart_cons_iff.2 ⟨fun other hmem => ?_, hfilled, hapart⟩,
        List.forall_mem_cons.2 ⟨Nat.le_refl _, fun other hmem =>
          Nat.le_trans hbegin (hfrom other hmem)⟩, fun n => ?_⟩
      · have := hfrom other hmem
        omega
      · rw [holds_cons_iff, hholds]
        exact holds_cons_iff.symm

private theorem apart_join (h : Ascending runs) : Apart (join runs) := by
  cases runs with
  | nil => exact ⟨.nil, h.filled⟩
  | cons run rest => exact (joinFrom_spec h).1

private theorem holds_join_iff (h : Ascending runs) : Holds (join runs) n ↔ Holds runs n := by
  cases runs with
  | nil => exact Iff.rfl
  | cons run rest => exact (joinFrom_spec h).2.2 n

private theorem apart_unite (ha : Ascending a) (hb : Ascending b) : Apart (unite a b) :=
  apart_join (ascending_merge ha hb)

private theorem holds_unite_iff (ha : Ascending a) (hb : Ascending b) :
    Holds (unite a b) n ↔ Holds a n ∨ Holds b n := by
  rw [unite, holds_join_iff (ascending_merge ha hb), holds_merge_iff]

theorem inRuns_unite (ha : Ascending a) (hb : Ascending b) :
    inRuns (unite a b) n = (inRuns a n || inRuns b n) := by
  rw [Bool.eq_iff_iff, Bool.or_eq_true, inRuns_iff_holds (apart_unite ha hb).ascending,
    inRuns_iff_holds ha, inRuns_iff_holds hb, holds_unite_iff ha hb]

theorem tidy_nil : Tidy [] := ⟨⟨.nil, by simp⟩, by simp [Holds]⟩

theorem Tidy.ascending (h : Tidy runs) : Ascending runs := h.toApart.ascending

theorem Tidy.unite (ha : Tidy a) (hb : Tidy b) : Tidy (unite a b) := by
  refine ⟨apart_unite ha.ascending hb.ascending, fun n hn => ?_⟩
  exact ((holds_unite_iff ha.ascending hb.ascending).1 hn).elim (ha.characters n) (hb.characters n)

/-! ### What lies outside -/

private theorem gapsFrom_spec (h : Apart runs) (hfirst : ∀ run ∈ runs, first ≤ run.1) :
    Apart (gapsFrom first runs) ∧ (∀ gap ∈ gapsFrom first runs, first ≤ gap.1) ∧
      ∀ n ≤ 0x10ffff, Holds (gapsFrom first runs) n ↔ first ≤ n ∧ ¬ Holds runs n := by
  induction runs generalizing first with
  | nil =>
    rw [gapsFrom]
    split
    next hroom =>
      refine ⟨⟨List.pairwise_singleton .., by simpa using hroom⟩, by simp, fun n hn => ?_⟩
      simp [Holds, hn]
    next hroom =>
      refine ⟨⟨.nil, by simp⟩, by simp, fun n hn => ?_⟩
      simp only [Holds, List.not_mem_nil, false_and, exists_false, not_false_eq_true,
        and_true, false_iff]
      omega
  | cons run rest ih =>
    obtain ⟨hlater, hfilled, hrest⟩ := apart_cons_iff.1 h
    obtain ⟨hbegin, -⟩ := List.forall_mem_cons.1 hfirst
    obtain ⟨hapart, hfrom, hholds⟩ := ih hrest fun later hmem => Nat.le_of_lt (hlater later hmem)
    -- What lies in a later run lies beyond this one.
    have hbeyond : ∀ n, Holds rest n → run.2 < n := by
      rintro n ⟨later, hmem, hlow, -⟩
      have := hlater later hmem
      omega
    rw [gapsFrom]
    split
    next hgap =>
      refine ⟨apart_cons_iff.2 ⟨fun later hmem => ?_, by dsimp only; omega, hapart⟩,
        List.forall_mem_cons.2 ⟨Nat.le_refl _, fun later hmem => ?_⟩, fun n hn => ?_⟩
      · have := hfrom later hmem
        dsimp only
        omega
      · have := hfrom later hmem
        omega
      · rw [holds_cons_iff, holds_cons_iff, hholds n hn]
        dsimp only
        by_cases hmore : Holds rest n
        · have := hbeyond n hmore
          simp only [hmore, not_true_eq_false, and_false, or_false, or_true, iff_false]
          omega
        · simp only [hmore, not_false_eq_true, and_true, or_false]
          omega
    next hgap =>
      refine ⟨hapart, fun later hmem => ?_, fun n hn => ?_⟩
      · have := hfrom later hmem
        omega
      · rw [hholds n hn, holds_cons_iff]
        by_cases hmore : Holds rest n
        · simp [hmore]
        · simp only [hmore, not_false_eq_true, and_true, or_false]
          omega

private theorem le_of_holds_gapsFrom (hruns : ∀ run ∈ runs, run.1 ≤ 0x110000)
    (h : Holds (gapsFrom first runs) n) :
    n ≤ 0x10ffff := by
  induction runs generalizing first with
  | nil =>
    rw [gapsFrom] at h
    split at h
    · simpa [Holds] using And.right (by simpa [Holds] using h)
    · simp [Holds] at h
  | cons run rest ih =>
    obtain ⟨hrun, hrest⟩ := List.forall_mem_cons.1 hruns
    rw [gapsFrom] at h
    split at h
    · rcases holds_cons_iff.1 h with ⟨-, hhigh⟩ | hlater
      · dsimp only at hhigh
        omega
      · exact ih hrest hlater
    · exact ih hrest h

private theorem ascending_surrogates : Ascending [(0xd800, 0xdfff)] :=
  ascending_singleton (by decide)

private theorem tidy_outside (h : Ascending runs) (hpoints : ∀ n, Holds runs n → n ≤ 0x10ffff) :
    Tidy (outside runs) := by
  have hunited := apart_unite ascending_surrogates h
  obtain ⟨hapart, -, hgaps⟩ := gapsFrom_spec hunited fun _ _ => Nat.zero_le _
  refine ⟨hapart, fun n hn => ?_⟩
  have hle : n ≤ 0x10ffff := by
    refine le_of_holds_gapsFrom (fun run hrun => ?_) hn
    have hbegin : Holds (unite [(0xd800, 0xdfff)] runs) run.1 :=
      ⟨run, hrun, Nat.le_refl _, hunited.filled run hrun⟩
    rcases (holds_unite_iff ascending_surrogates h).1 hbegin with hsurrogate | hpoint
    · have hhigh : 0xd800 ≤ run.1 ∧ run.1 ≤ 0xdfff := by simpa [Holds] using hsurrogate
      omega
    · exact Nat.le_succ_of_le (hpoints _ hpoint)
  have hsurrogate : ¬ (0xd800 ≤ n ∧ n ≤ 0xdfff) := fun hin =>
    ((hgaps n hle).1 hn).2 ((holds_unite_iff ascending_surrogates h).2
      (Or.inl ⟨_, List.mem_singleton_self _, hin⟩))
  have hcases : n < 0xd800 ∨ 0xdfff < n ∧ n < 0x110000 := by omega
  exact hcases

private theorem Tidy.outside (h : Tidy runs) : Tidy (outside runs) := by
  refine tidy_outside h.ascending fun n hn => ?_
  have hvalid : n < 0xd800 ∨ 0xdfff < n ∧ n < 0x110000 := h.characters n hn
  omega

private theorem inRuns_outside (h : Ascending runs) (c : Char) :
    inRuns (outside runs) c.toNat = !inRuns runs c.toNat := by
  have hunited := apart_unite ascending_surrogates h
  have hvalid : c.toNat < 0xd800 ∨ 0xdfff < c.toNat ∧ c.toNat < 0x110000 := c.valid
  have hsurrogate : inRuns [(0xd800, 0xdfff)] c.toNat = false := by
    simp only [inRuns, Bool.or_false, Bool.and_eq_false_iff, decide_eq_false_iff_not]
    omega
  obtain ⟨hapart, -, hgaps⟩ := gapsFrom_spec hunited fun _ _ => Nat.zero_le _
  rw [Bool.eq_iff_iff, outside, inRuns_iff_holds hapart.ascending, hgaps _ (by omega),
    ← inRuns_iff_holds hunited.ascending, inRuns_unite ascending_surrogates h, hsurrogate]
  simp

/-! ### Other cases -/

private theorem foldr_merge_spec (found : List Nat) :
    Ascending (found.foldr (fun n others => merge [(n, n)] others) []) ∧
      ∀ n, Holds (found.foldr (fun n others => merge [(n, n)] others) []) n ↔ n ∈ found := by
  induction found with
  | nil => exact ⟨ascending_nil, fun n => by simp [Holds]⟩
  | cons m found ih =>
    refine ⟨ascending_merge (ascending_singleton (Nat.le_refl m)) ih.1, fun n => ?_⟩
    rw [List.foldr_cons, holds_merge_iff, ih.2, List.mem_cons]
    refine or_congr_left ?_
    simp only [Holds, List.mem_singleton, exists_eq_left]
    omega

private theorem apart_otherCases (runs : List (Nat × Nat)) : Apart (otherCases runs) :=
  apart_join (foldr_merge_spec _).1

private theorem inRuns_otherCases_iff : inRuns (otherCases runs) n = true ↔
    ∃ m ∈ Property.otherCases n, inRuns runs m = true := by
  rw [inRuns_iff_holds (apart_otherCases runs).ascending, otherCases,
    holds_join_iff (foldr_merge_spec _).1, (foldr_merge_spec _).2, List.mem_flatMap]
  simp only [Property.otherCases, List.mem_filterMap, List.mem_append]
  constructor
  · rintro ⟨twins, htwins, hfirst | hsecond⟩
    · obtain ⟨hin, rfl⟩ : inRuns runs twins.1 = true ∧ n = twins.2 := by simpa using hfirst
      by_cases hsame : twins.1 = twins.2
      · exact ⟨twins.2, ⟨twins, htwins, if_pos hsame⟩, hsame ▸ hin⟩
      · exact ⟨twins.1, ⟨twins, htwins, by rw [if_neg hsame, if_pos rfl]⟩, hin⟩
    · obtain ⟨hin, rfl⟩ : inRuns runs twins.2 = true ∧ n = twins.1 := by simpa using hsecond
      exact ⟨twins.2, ⟨twins, htwins, if_pos rfl⟩, hin⟩
  · rintro ⟨m, ⟨twins, htwins, htwin⟩, hin⟩
    refine ⟨twins, htwins, ?_⟩
    split at htwin
    next hfirst =>
      obtain rfl := Option.some.inj htwin
      exact Or.inr (by simp [hin, hfirst])
    next hfirst =>
      split at htwin
      next hsecond =>
        obtain rfl := Option.some.inj htwin
        exact Or.inl (by simp [hin, hsecond])
      next => cases htwin

private theorem isValidChar_of_mem_otherCases {m : Nat} (h : m ∈ Property.otherCases n) :
    n.isValidChar ∧ m.isValidChar := by
  have hvalid : ∀ twins ∈ Property.caseTwins, twins.1.isValidChar ∧ twins.2.isValidChar := by
    decide +kernel
  obtain ⟨twins, htwins, htwin⟩ := List.mem_filterMap.1 h
  obtain ⟨hfirst, hsecond⟩ := hvalid twins htwins
  split at htwin
  next heq => exact ⟨heq ▸ hfirst, Option.some.inj htwin ▸ hsecond⟩
  next =>
    split at htwin
    next heq => exact ⟨heq ▸ hsecond, Option.some.inj htwin ▸ hfirst⟩
    next => cases htwin

private theorem tidy_otherCases (runs : List (Nat × Nat)) : Tidy (otherCases runs) := by
  refine ⟨apart_otherCases runs, fun n hn => ?_⟩
  obtain ⟨m, hm, -⟩ :=
    inRuns_otherCases_iff.1 ((inRuns_iff_holds (apart_otherCases runs).ascending).2 hn)
  exact (isValidChar_of_mem_otherCases hm).1

/-! ### The runs of a set -/

private theorem ascending_range {first last : Char} (h : first ≤ last) :
    Ascending [(first.toNat, last.toNat)] :=
  ascending_singleton h

private theorem tidy_outside_range {first last : Char} (h : first ≤ last) :
    Tidy (outside [(first.toNat, last.toNat)]) := by
  refine tidy_outside (ascending_range h) fun n hn => ?_
  have hlast : last.toNat < 0xd800 ∨ 0xdfff < last.toNat ∧ last.toNat < 0x110000 := last.valid
  have hle : first.toNat ≤ n ∧ n ≤ last.toNat := by simpa [Holds] using hn
  omega

theorem tidy_runs {set : CharSet} (h : set.Orderly) : Tidy set.runs := by
  induction set with
  | nothing => exact tidy_nil
  | range first last => exact (tidy_outside_range h).outside
  | property runs => exact ⟨apart_join h.1, fun n hn => h.2 n ((holds_join_iff h.1).1 hn)⟩
  | union a b iha ihb => exact (iha h.1).unite (ihb h.2)
  | inter a b iha ihb => exact ((iha h.1).outside.unite (ihb h.2).outside).outside
  | diff a b iha ihb => exact ((iha h.1).outside.unite (ihb h.2)).outside
  | compl a iha => exact (iha h).outside
  | anyCase a iha => exact (iha h).unite (tidy_otherCases _)

theorem toNat_ofNat_of_isValidChar (h : n.isValidChar) : (Char.ofNat n).toNat = n := by
  rw [Char.ofNat, dif_pos h]
  rfl

theorem inRuns_single_iff {c d : Char} :
    inRuns [(c.toNat, c.toNat)] d.toNat = true ↔ d = c := by
  rw [← Char.toNat_inj]
  simp only [inRuns, Bool.or_false, Bool.and_eq_true, decide_eq_true_eq]
  omega

/-- The runs of a set hold its characters. -/
theorem inRuns_runs {set : CharSet} (h : set.Orderly) (c : Char) :
    inRuns set.runs c.toNat = set.contains c := by
  induction set generalizing c with
  | nothing => rfl
  | range first last =>
    have hlow : first.toNat ≤ c.toNat ↔ first ≤ c := Iff.rfl
    have hhigh : c.toNat ≤ last.toNat ↔ c ≤ last := Iff.rfl
    rw [runs, inRuns_outside (tidy_outside_range h).ascending, inRuns_outside (ascending_range h),
      Bool.not_not, contains]
    simp only [inRuns, Bool.or_false, hlow, hhigh]
  | property runs =>
    rw [CharSet.runs, contains, Bool.eq_iff_iff, inRuns_iff_holds (apart_join h.1).ascending,
      holds_join_iff h.1, inRuns_iff_holds h.1]
  | union a b iha ihb =>
    rw [runs, inRuns_unite (tidy_runs h.1).ascending (tidy_runs h.2).ascending, iha h.1,
      ihb h.2, contains]
  | inter a b iha ihb =>
    -- What two sets share is what is outside neither.
    have ha := tidy_runs h.1
    have hb := tidy_runs h.2
    rw [runs, inRuns_outside (ha.outside.unite hb.outside).ascending,
      inRuns_unite ha.outside.ascending hb.outside.ascending, inRuns_outside ha.ascending,
      inRuns_outside hb.ascending, iha h.1, ihb h.2, contains, Bool.not_or, Bool.not_not,
      Bool.not_not]
  | diff a b iha ihb =>
    have ha := tidy_runs h.1
    have hb := tidy_runs h.2
    rw [runs, inRuns_outside (ha.outside.unite hb).ascending,
      inRuns_unite ha.outside.ascending hb.ascending, inRuns_outside ha.ascending, iha h.1, ihb h.2,
      contains, Bool.not_or, Bool.not_not]
  | compl a iha =>
    have ha : a.Orderly := h
    rw [runs, inRuns_outside (tidy_runs ha).ascending, iha ha, contains]
  | anyCase a iha =>
    have ha : a.Orderly := h
    rw [runs, inRuns_unite (tidy_runs ha).ascending (apart_otherCases _).ascending,
      iha ha, contains]
    refine congrArg (a.contains c || ·) ?_
    rw [Bool.eq_iff_iff, inRuns_otherCases_iff, List.any_eq_true]
    refine exists_congr fun m => and_congr_right fun hm => ?_
    rw [← iha ha, toNat_ofNat_of_isValidChar (isValidChar_of_mem_otherCases hm).2]

end CharSet

end GrammarBrew
