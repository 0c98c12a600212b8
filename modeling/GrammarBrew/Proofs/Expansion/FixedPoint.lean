import GrammarBrew.Proofs.Expansion.Pass

/-!
Expansion runs passes up to the first idle one. Either a quiet text is reached within the allowed
passes and is the result, or all of them are used up and the names that the last one replaced are
reported.
-/

set_option autoImplicit false
set_option relaxedAutoImplicit false

namespace GrammarBrew.Expander

deriving instance DecidableEq for Expander

variable {rules : List Rule} {mode : MatchMode} {extraIterations : Nat} {table : MacroTable}
  {expander : Expander} {text name : Text} {k : Nat}

/-- The names that some passes leave as the last ones replaced, where `changed` were before any. -/
def lastNames (rules : List Rule) (changed : List Text) : Nat → Text → List Text
  | 0, _ => changed
  | last + 1, text => (Pass.run rules ((Pass.rewrite rules)^[last] text)).names

private theorem settle_cases (named : Pass.Named rules) (left done : Nat) (changed : List Text)
    (text : Text) :
    (∃ k < left, Pass.SettlesAfter rules k text ∧
        settle rules left done changed text = .ok ⟨(Pass.rewrite rules)^[k] text, done + k + 1⟩) ∨
      ((∀ j < left, ¬ Pass.Quiet rules ((Pass.rewrite rules)^[j] text)) ∧
        settle rules left done changed text
          = .error (.nonConvergent (done + left) (lastNames rules changed left text))) := by
  induction left generalizing done changed text with
  | zero => exact Or.inr ⟨fun j hj => absurd hj (Nat.not_lt_zero j), rfl⟩
  | succ left ih =>
    by_cases hquiet : Pass.Quiet rules text
    · refine Or.inl ⟨0, Nat.succ_pos left, ⟨by simp, hquiet⟩, ?_⟩
      simp [settle, (Pass.isIdle_run_iff named).2 hquiet, Pass.run_text named,
        Pass.rewrite_of_quiet named hquiet]
    · -- The pass had a match: the others make a run of their own on the text that it left.
      have hstep : settle rules (left + 1) done changed text
          = settle rules left (done + 1) (Pass.run rules text).names (Pass.rewrite rules text) := by
        rw [settle]
        simp only [mt (Pass.isIdle_run_iff named).1 hquiet, Pass.run_text named]
        rfl
      have hloud : ∀ j, (∀ i < j, ¬ Pass.Quiet rules
          ((Pass.rewrite rules)^[i] (Pass.rewrite rules text))) →
          ∀ i < j + 1, ¬ Pass.Quiet rules ((Pass.rewrite rules)^[i] text) := by
        rintro j hlater (_ | i) hi
        · exact hquiet
        · exact hlater i (by omega)
      rw [hstep]
      rcases ih (done + 1) (Pass.run rules text).names (Pass.rewrite rules text) with
        ⟨k, hk, hsettles, hok⟩ | ⟨hlater, herror⟩
      · refine Or.inl ⟨k + 1, Nat.succ_lt_succ hk, ⟨hloud k hsettles.1, hsettles.2⟩, ?_⟩
        rw [hok, Function.iterate_succ_apply]
        congr 2
        omega
      · refine Or.inr ⟨hloud left hlater, ?_⟩
        rw [herror]
        congr 2
        · omega
        · cases left <;> rfl

/-- The names that a run which gave up was still replacing. -/
def lastChanged : Except BrewError Expansion → List Text
  | .error (.nonConvergent _ changed) => changed
  | _ => []

theorem expand_cases (named : Pass.Named expander.rules) (text : Text) :
    (∃ k < expander.maxPasses, Pass.SettlesAfter expander.rules k text ∧
        expander.expand text = .ok ⟨(Pass.rewrite expander.rules)^[k] text, k + 1⟩) ∨
      ((∀ j < expander.maxPasses,
          ¬ Pass.Quiet expander.rules ((Pass.rewrite expander.rules)^[j] text)) ∧
        expander.expand text = .error (.nonConvergent expander.maxPasses
          (lastNames expander.rules [] expander.maxPasses text))) := by
  have hcases := settle_cases named expander.maxPasses 0 [] text
  simp only [Nat.zero_add] at hcases
  exact hcases

theorem expand_of_settlesAfter (named : Pass.Named expander.rules)
    (h : Pass.SettlesAfter expander.rules k text) (hk : k < expander.maxPasses) :
    expander.expand text = .ok ⟨(Pass.rewrite expander.rules)^[k] text, k + 1⟩ := by
  rcases expand_cases named text with ⟨l, -, hl, hok⟩ | ⟨hloud, -⟩
  · rw [hok, h.unique hl]
  · exact absurd h.2 (hloud k hk)

theorem isOk_expand_iff (named : Pass.Named expander.rules) :
    (expander.expand text).isOk = true ↔
      ∃ k < expander.maxPasses,
        Pass.Quiet expander.rules ((Pass.rewrite expander.rules)^[k] text) := by
  rcases expand_cases named text with ⟨k, hk, hsettles, hok⟩ | ⟨hloud, herror⟩
  · rw [hok]
    exact iff_of_true rfl ⟨k, hk, hsettles.2⟩
  · rw [herror]
    exact iff_of_false Bool.false_ne_true fun ⟨k, hk, hquiet⟩ => hloud k hk hquiet

/-- A rule finds its name when its turn comes in the last of some passes. -/
def HitsLast (rules : List Rule) (passes : Nat) (text : Text) (rule : Rule) : Prop :=
  ∃ last, passes = last + 1 ∧ Pass.HitsInTurn rules ((Pass.rewrite rules)^[last] text) rule

private theorem mem_lastNames_iff (named : Pass.Named rules) {passes : Nat} :
    name ∈ lastNames rules [] passes text
      ↔ ∃ rule, rule.name = name ∧ HitsLast rules passes text rule := by
  cases passes with
  | zero => simp [lastNames, HitsLast]
  | succ last =>
    simp only [lastNames, HitsLast, Pass.mem_names_run named, Nat.succ_inj,
      exists_eq_left', and_comm]

theorem mem_lastChanged_iff (named : Pass.Named expander.rules) :
    name ∈ lastChanged (expander.expand text) ↔
      ∃ rule, rule.name = name ∧ HitsLast expander.rules expander.maxPasses text rule := by
  rcases expand_cases named text with ⟨k, hk, hsettles, hok⟩ | ⟨-, herror⟩
  · have hnone : ∀ rule, ¬ HitsLast expander.rules expander.maxPasses text rule := by
      rintro rule ⟨last, hlast, hhit⟩
      rw [Pass.iterate_of_quiet named hsettles.2 (by omega : k ≤ last)] at hhit
      exact (Pass.exists_hitsInTurn_iff named).1 ⟨rule, hhit⟩ hsettles.2
    rw [hok]
    simp [lastChanged, hnone]
  · rw [herror]
    exact mem_lastNames_iff named

theorem lastNames_ascending (orderly : Rule.Orderly rules) (passes : Nat) :
    (lastNames rules [] passes text).Pairwise (· < ·) := by
  cases passes with
  | zero => exact List.Pairwise.nil
  | succ last => exact orderly.ascending.sublist Pass.names_run_sublist

/-- A run that ended on a quiet text: what `Expansion` holds, told by passes alone. -/
structure Settled (expander : Expander) (body : Text) (result : Expansion) : Prop where
  positive : 1 ≤ result.passes
  bounded : result.passes ≤ expander.maxPasses
  text_eq : result.text = (Pass.rewrite expander.rules)^[result.passes] body
  busy : ∀ k < result.passes - 1,
    ∃ rule, Pass.HitsInTurn expander.rules ((Pass.rewrite expander.rules)^[k] body) rule
  clean : ∀ rule ∈ expander.rules, ¬ rule.matcher.Occurs result.text
  again : expander.expand result.text = .ok ⟨result.text, 1⟩

/-- A run that used up its passes, with the names that it reports: some, where any pass is
allowed. -/
structure Exhausted (expander : Expander) (body : Text) (changed : List Text) : Prop where
  busy : ∀ k < expander.maxPasses,
    ∃ rule, Pass.HitsInTurn expander.rules ((Pass.rewrite expander.rules)^[k] body) rule
  nonempty : 0 < expander.maxPasses → changed ≠ []
  ascending : changed.Pairwise (· < ·)
  mem_iff : ∀ name, name ∈ changed ↔
    ∃ rule, rule.name = name ∧ HitsLast expander.rules expander.maxPasses body rule

theorem named_of_ofTable (made : ofTable mode extraIterations table = .ok expander) :
    Pass.Named expander.rules :=
  Pass.named_of_orderly (orderly_of_ofTable made)

def hiddenCycle : Expander where
  rules := [Rule.ofEntry .substring (['X'], ['Z']),
    Rule.ofEntry .substring (['Z', 'Y'], ['X', 'Y'])]
  maxPasses := 4

/-- One macro and as many extra passes as a machine word can tell: their sum is no pass at all. -/
def starved : Expander where
  rules := [Rule.ofEntry .wordBoundary (['A'], ['b'])]
  maxPasses := 0

end GrammarBrew.Expander
