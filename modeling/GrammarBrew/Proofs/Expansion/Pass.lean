import GrammarBrew.Proofs.Expansion.Rules
import Mathlib.Logic.Function.Iterate

/-!
A pass told without its bookkeeping: the text is rewritten by each rule in turn. A pass is idle
exactly when no rule finds its name in the text it starts from, and the names it reports are those
of the rules that found theirs when their turn came.
-/

set_option autoImplicit false
set_option relaxedAutoImplicit false

namespace GrammarBrew.Pass

variable {rules : List Rule} {text : Text}

/-- The text that each rule in turn rewrites. -/
def rewrite (rules : List Rule) (text : Text) : Text :=
  rules.foldl (fun text rule => rule.matcher.replace rule.value text) text

/-- A rule finds its name when its turn in a pass comes. -/
def HitsInTurn (rules : List Rule) (text : Text) (rule : Rule) : Prop :=
  ∃ earlier later, rules = earlier ++ rule :: later ∧ rule.matcher.Occurs (rewrite earlier text)

/-- No rule finds its name in a text. -/
def Quiet (rules : List Rule) (text : Text) : Prop := ∀ rule ∈ rules, ¬ rule.matcher.Occurs text

@[simp] theorem rewrite_cons (rule : Rule) :
    rewrite (rule :: rules) text = rewrite rules (rule.matcher.replace rule.value text) := rfl

private theorem hitsInTurn_cons {rule next : Rule} :
    HitsInTurn (next :: rules) text rule
      ↔ (rule = next ∧ next.matcher.Occurs text)
        ∨ HitsInTurn rules (next.matcher.replace next.value text) rule := by
  constructor
  · rintro ⟨earlier, later, heq, hhit⟩
    cases earlier with
    | nil =>
      obtain ⟨rfl, rfl⟩ := List.cons.inj heq
      exact Or.inl ⟨rfl, hhit⟩
    | cons first earlier =>
      obtain ⟨rfl, rfl⟩ := List.cons.inj heq
      exact Or.inr ⟨earlier, later, rfl, hhit⟩
  · rintro (⟨rfl, hhit⟩ | ⟨earlier, later, rfl, hhit⟩)
    · exact ⟨[], rules, rfl, hhit⟩
    · exact ⟨next :: earlier, later, rfl, hhit⟩

def Named (rules : List Rule) : Prop := ∀ rule ∈ rules, rule.matcher.name ≠ []

theorem named_of_orderly (h : Rule.Orderly rules) : Named rules := by
  intro rule hrule
  obtain ⟨hname, hne⟩ := h.named rule hrule
  rwa [hname]

theorem run_text (named : Named rules) : (run rules text).text = rewrite rules text := by
  induction rules generalizing text with
  | nil => rfl
  | cons rule rules ih =>
    obtain ⟨hrule, hrules⟩ := List.forall_mem_cons.1 named
    simp only [run]
    split
    next hzero => rw [ih hrules, rewrite_cons, Matcher.replace_of_count_eq_zero hrule hzero]
    · exact ih hrules

theorem run_singleton {rule : Rule} (named : rule.matcher.name ≠ []) :
    run [rule] text = ⟨rule.matcher.replace rule.value text,
      if rule.matcher.count text = 0 then [] else [⟨rule.name, rule.matcher.count text⟩]⟩ := by
  simp only [run]
  split
  next hzero => rw [Matcher.replace_of_count_eq_zero named hzero]
  · rfl

/-- A pass reports the rules that hit in their turn. -/
theorem mem_names_run (named : Named rules) {name : Text} :
    name ∈ (run rules text).names ↔ ∃ rule, HitsInTurn rules text rule ∧ rule.name = name := by
  induction rules generalizing text with
  | nil => simp [run, names, HitsInTurn]
  | cons rule rules ih =>
    obtain ⟨hrule, hrules⟩ := List.forall_mem_cons.1 named
    have hoccurs : rule.matcher.count text ≠ 0 ↔ rule.matcher.Occurs text :=
      Matcher.count_ne_zero_iff hrule
    simp only [hitsInTurn_cons, or_and_right, exists_or, run]
    split
    next hzero =>
      rw [ih hrules, Matcher.replace_of_count_eq_zero hrule hzero]
      constructor
      · exact Or.inr
      · rintro (⟨other, ⟨rfl, hhit⟩, -⟩ | h)
        · exact absurd hzero (hoccurs.2 hhit)
        · exact h
    next hcount =>
      change name ∈ rule.name :: (run rules _).names ↔ _
      rw [List.mem_cons, ih hrules]
      refine or_congr_left ?_
      constructor
      · rintro rfl
        exact ⟨rule, ⟨rfl, hoccurs.1 hcount⟩, rfl⟩
      · rintro ⟨other, ⟨rfl, -⟩, rfl⟩
        rfl

theorem names_run_sublist : (run rules text).names.Sublist (rules.map Rule.name) := by
  induction rules generalizing text with
  | nil => exact List.Sublist.slnil
  | cons rule rules ih =>
    simp only [run]
    split
    · exact List.Sublist.cons _ ih
    · exact List.Sublist.cons_cons _ ih

theorem rewrite_of_quiet (named : Named rules) (h : Quiet rules text) :
    rewrite rules text = text := by
  induction rules with
  | nil => rfl
  | cons rule rules ih =>
    obtain ⟨hrule, hrules⟩ := List.forall_mem_cons.1 named
    obtain ⟨hnone, hquiet⟩ := List.forall_mem_cons.1 h
    have hzero : rule.matcher.count text = 0 := by
      by_contra hcount
      exact hnone ((Matcher.count_ne_zero_iff hrule).1 hcount)
    rw [rewrite_cons, Matcher.replace_of_count_eq_zero hrule hzero, ih hrules hquiet]

/-- In some turn a rule hits exactly when the text is not quiet to begin with. -/
theorem exists_hitsInTurn_iff (named : Named rules) :
    (∃ rule, HitsInTurn rules text rule) ↔ ¬ Quiet rules text := by
  constructor
  · rintro ⟨rule, earlier, later, rfl, hhit⟩ hquiet
    have hearlier : Quiet earlier text := fun other hother =>
      hquiet other (List.mem_append_left _ hother)
    rw [rewrite_of_quiet (fun other hother => named other (List.mem_append_left _ hother)) hearlier]
      at hhit
    exact hquiet rule (by simp) hhit
  · intro hloud
    induction rules generalizing text with
    | nil => exact absurd (fun rule hrule => by simp at hrule) hloud
    | cons rule rules ih =>
      obtain ⟨hrule, hrules⟩ := List.forall_mem_cons.1 named
      -- A rule that does not hit hands the text on as it is.
      by_cases hhit : rule.matcher.Occurs text
      · exact ⟨rule, hitsInTurn_cons.2 (Or.inl ⟨rfl, hhit⟩)⟩
      · have hzero : rule.matcher.count text = 0 := by
          by_contra hcount
          exact hhit ((Matcher.count_ne_zero_iff hrule).1 hcount)
        obtain ⟨other, hother⟩ := ih hrules fun hquiet =>
          hloud (List.forall_mem_cons.2 ⟨hhit, hquiet⟩)
        refine ⟨other, hitsInTurn_cons.2 (Or.inr ?_)⟩
        rwa [Matcher.replace_of_count_eq_zero hrule hzero]

theorem isIdle_run_iff (named : Named rules) :
    (run rules text).isIdle = true ↔ Quiet rules text := by
  have hidle : (run rules text).isIdle = true ↔ (run rules text).names = [] := by
    simp [isIdle, names]
  rw [hidle, List.eq_nil_iff_forall_not_mem]
  constructor
  · intro hnames
    by_contra hloud
    obtain ⟨rule, hrule⟩ := (exists_hitsInTurn_iff named).2 hloud
    exact hnames rule.name ((mem_names_run named).2 ⟨rule, hrule, rfl⟩)
  · intro hquiet name hname
    obtain ⟨rule, hrule, -⟩ := (mem_names_run named).1 hname
    exact (exists_hitsInTurn_iff named).1 ⟨rule, hrule⟩ hquiet

/-! ### When a text settles -/

/-- The number of passes after which a text is quiet for the first time. -/
def SettlesAfter (rules : List Rule) (k : Nat) (text : Text) : Prop :=
  (∀ j < k, ¬ Quiet rules ((rewrite rules)^[j] text)) ∧ Quiet rules ((rewrite rules)^[k] text)

theorem iterate_of_quiet {j k : Nat} (named : Named rules)
    (hquiet : Quiet rules ((rewrite rules)^[k] text)) (hle : k ≤ j) :
    (rewrite rules)^[j] text = (rewrite rules)^[k] text := by
  obtain ⟨more, rfl⟩ := Nat.exists_eq_add_of_le' hle
  rw [Function.iterate_add_apply]
  exact Function.iterate_fixed (rewrite_of_quiet named hquiet) more

theorem SettlesAfter.unique {k l : Nat} (h : SettlesAfter rules k text)
    (h' : SettlesAfter rules l text) : k = l := by
  have hkl : ¬ k < l := fun hlt => h'.1 k hlt h.2
  have hlk : ¬ l < k := fun hlt => h.1 l hlt h'.2
  omega

end GrammarBrew.Pass
