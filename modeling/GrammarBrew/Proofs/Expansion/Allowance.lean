import GrammarBrew.Proofs.Expansion.FixedPoint
import Mathlib.Data.Nat.Find

/-!
What it means that expansion gives up. A value that stands beside other text can make its own name
again, so that a text may need more passes than there are macros; the limit then stops a run that
would have come to rest. That a text never settles shows in the limits taken together: every one of
them is used up. A higher limit never changes what a lower one has settled. A limit is a number of
passes in a machine word, so all of this is about the sums that one can hold.
-/

set_option autoImplicit false
set_option relaxedAutoImplicit false

namespace GrammarBrew.Expander

variable {mode : MatchMode} {extraIterations : Nat} {table : MacroTable} {expander : Expander}
  {body : Text} {k : Nat}

private theorem ofTable_of_extra (made : ofTable mode extraIterations table = .ok expander)
    (more : Nat) :
    ofTable mode more table
      = .ok { expander with maxPasses := (table.kept.length + max more 1) % UInt64.size } := by
  have hlength : expander.rules.length = table.kept.length := by
    rw [(ofTable_eq_ok made).2.1, List.length_map]
  unfold ofTable at made ⊢
  split at made
  · simp at made
  next rules hrules =>
    split at made
    · simp at made
    next hcycle =>
      obtain rfl := Except.ok.inj made
      rw [← hlength]

private theorem exists_ofTable_of_fits (made : ofTable mode extraIterations table = .ok expander)
    {more : Nat} (fits : table.kept.length + max more 1 < UInt64.size) :
    ∃ larger, ofTable mode more table = .ok larger ∧ larger.rules = expander.rules ∧
      larger.maxPasses = table.kept.length + max more 1 :=
  ⟨_, ofTable_of_extra made more, rfl, Nat.mod_eq_of_lt fits⟩

private theorem exists_settlesAfter {rules : List Rule}
    (h : Pass.Quiet rules ((Pass.rewrite rules)^[k] body)) :
    ∃ first ≤ k, Pass.SettlesAfter rules first body := by
  classical
  have hsettles : ∃ j, Pass.Quiet rules ((Pass.rewrite rules)^[j] body) := ⟨k, h⟩
  exact ⟨Nat.find hsettles, Nat.find_min' hsettles h, fun j hj => Nat.find_min hsettles hj,
    Nat.find_spec hsettles⟩

private theorem expand_nonConvergent_iff (named : Pass.Named expander.rules) :
    (∃ changed, expander.expand body = .error (.nonConvergent expander.maxPasses changed))
      ↔ ∀ j < expander.maxPasses,
        ¬ Pass.Quiet expander.rules ((Pass.rewrite expander.rules)^[j] body) := by
  rcases expand_cases named body with ⟨first, hfirst, hsettles, hok⟩ | ⟨hloud, herror⟩
  · refine iff_of_false ?_ fun hloud => hloud first hfirst hsettles.2
    rintro ⟨changed, herror⟩
    exact nomatch hok.symm.trans herror
  · exact iff_of_true ⟨_, herror⟩ hloud

private theorem expand_of_quiet_iterate (named : Pass.Named expander.rules)
    (h : Pass.Quiet expander.rules ((Pass.rewrite expander.rules)^[k] body))
    (hk : k < expander.maxPasses) :
    ∃ passes, expander.expand body = .ok ⟨(Pass.rewrite expander.rules)^[k] body, passes⟩ := by
  obtain ⟨first, hfirst, hsettles⟩ := exists_settlesAfter h
  rw [Pass.iterate_of_quiet named hsettles.2 hfirst]
  exact ⟨_, expand_of_settlesAfter named hsettles (by omega)⟩

/-- Giving up tells that the text does not settle within the allowed passes. A text that never
settles is given up however many passes are allowed; one is given up with every number of passes
that fits a machine word exactly when it settles within none of these numbers; and a text that some
passes settle is what expansion gives as soon as more extra passes are allowed than these. -/
theorem expand_gives_up_iff (made : ofTable mode extraIterations table = .ok expander)
    (body : Text) :
    ((∃ changed, expander.expand body = .error (.nonConvergent expander.maxPasses changed))
        ↔ ∀ j < expander.maxPasses,
          ¬ Pass.Quiet expander.rules ((Pass.rewrite expander.rules)^[j] body)) ∧
      ((∀ j, ¬ Pass.Quiet expander.rules ((Pass.rewrite expander.rules)^[j] body)) →
        ∀ more, ∃ larger changed, ofTable mode more table = .ok larger ∧
          larger.expand body = .error (.nonConvergent larger.maxPasses changed)) ∧
      (table.kept.length + 1 < UInt64.size →
        ((∀ j < UInt64.size - 1,
            ¬ Pass.Quiet expander.rules ((Pass.rewrite expander.rules)^[j] body))
          ↔ ∀ more, table.kept.length + max more 1 < UInt64.size →
            ∃ larger changed, ofTable mode more table = .ok larger ∧
              larger.expand body = .error (.nonConvergent larger.maxPasses changed))) ∧
      ∀ k, Pass.Quiet expander.rules ((Pass.rewrite expander.rules)^[k] body) →
        ∀ more, k < more → table.kept.length + more < UInt64.size →
          ∃ larger passes, ofTable mode more table = .ok larger ∧
            larger.expand body = .ok ⟨(Pass.rewrite expander.rules)^[k] body, passes⟩ := by
  have named := named_of_ofTable made
  refine ⟨expand_nonConvergent_iff named, ?_, fun room => ⟨?_, ?_⟩, ?_⟩
  · intro hloud more
    have hlarger := ofTable_of_extra made more
    have hnamed := named_of_ofTable hlarger
    obtain ⟨changed, herror⟩ := (expand_nonConvergent_iff hnamed).2 fun j _ => hloud j
    exact ⟨_, changed, hlarger, herror⟩
  · intro hloud more fits
    obtain ⟨larger, hlarger, hrules, hpasses⟩ := exists_ofTable_of_fits made fits
    have hnamed := named_of_ofTable hlarger
    obtain ⟨changed, herror⟩ := (expand_nonConvergent_iff hnamed).2 fun j hj => by
      rw [hrules]
      exact hloud j (by omega)
    exact ⟨larger, changed, hlarger, herror⟩
  · -- The largest number of extra passes that fits allows every pass that the text might take.
    intro hfails j hj
    have fits : table.kept.length + max (UInt64.size - 1 - table.kept.length) 1
        < UInt64.size := by omega
    obtain ⟨larger, hlarger, hrules, hpasses⟩ := exists_ofTable_of_fits made fits
    obtain ⟨other, changed, hother, herror⟩ := hfails _ fits
    obtain rfl := Except.ok.inj (hlarger.symm.trans hother)
    have hnamed := named_of_ofTable hlarger
    rw [← hrules]
    exact (expand_nonConvergent_iff hnamed).1 ⟨changed, herror⟩ j (by omega)
  · intro k hquiet more hmore hfits
    have fits : table.kept.length + max more 1 < UInt64.size := by omega
    obtain ⟨larger, hlarger, hrules, hpasses⟩ := exists_ofTable_of_fits made fits
    have hnamed := named_of_ofTable hlarger
    rw [← hrules] at hquiet ⊢
    obtain ⟨passes, hok⟩ := expand_of_quiet_iterate hnamed hquiet (by omega)
    exact ⟨larger, passes, hlarger, hok⟩

def shrinking : Expander where
  rules := [Rule.ofEntry .wordBoundary (['+', '-'], ['-'])]
  maxPasses := 3

private theorem ofTable_shrinking :
    ofTable .wordBoundary 2 (MacroTable.ofList [(['+', '-'], ['-'])]) = .ok shrinking := by
  decide +kernel

def fourSigns : Text := ['+', '+', '+', '+', '-']

/-- Expansion gives up on four signs with the usual three passes, and settles them where five extra
ones are allowed. -/
theorem shrinking_gives_up :
    ofTable .wordBoundary 2 (MacroTable.ofList [(['+', '-'], ['-'])]) = .ok shrinking ∧
      (∃ changed, shrinking.expand fourSigns = .error (.nonConvergent 3 changed)) ∧
      ∃ larger passes,
        ofTable .wordBoundary 5 (MacroTable.ofList [(['+', '-'], ['-'])]) = .ok larger ∧
          larger.expand fourSigns = .ok ⟨['-'], passes⟩ := by
  have named := named_of_ofTable ofTable_shrinking
  have hsettled : (Pass.rewrite shrinking.rules)^[4] fourSigns = ['-'] := by decide +kernel
  have hquiet : Pass.Quiet shrinking.rules ((Pass.rewrite shrinking.rules)^[4] fourSigns) := by
    rw [hsettled]
    exact (Pass.isIdle_run_iff named).1 (by decide +kernel)
  obtain ⟨hgivesUp, -, -, hsettles⟩ := expand_gives_up_iff ofTable_shrinking fourSigns
  have hloud : ∀ j < 3,
      ¬ Pass.Quiet shrinking.rules ((Pass.rewrite shrinking.rules)^[j] fourSigns) := by
    intro j hj
    rw [← Pass.isIdle_run_iff named]
    revert j
    decide +kernel
  obtain ⟨larger, passes, hmade, hok⟩ := hsettles 4 hquiet 5 (by omega) (by decide +kernel)
  exact ⟨ofTable_shrinking, hgivesUp.2 hloud, larger, passes, hmade, hsettled ▸ hok⟩

/-- Giving up does not tell that a text never settles: here one pass more would do. -/
theorem shrinking_settles_late :
    ofTable .wordBoundary 2 (MacroTable.ofList [(['+', '-'], ['-'])]) = .ok shrinking ∧
      (∃ changed, shrinking.expand fourSigns
        = .error (.nonConvergent shrinking.maxPasses changed)) ∧
      Pass.Quiet shrinking.rules
        ((Pass.rewrite shrinking.rules)^[1]
          ((Pass.rewrite shrinking.rules)^[shrinking.maxPasses] fourSigns)) := by
  have named := named_of_ofTable ofTable_shrinking
  refine ⟨ofTable_shrinking, ⟨[['+', '-']], by decide +kernel⟩, ?_⟩
  exact (Pass.isIdle_run_iff named).1 (by decide +kernel)

/-! ### More passes allowed -/

private theorem ofTable_eq_error_iff (more : Nat) {e : BrewError} :
    ofTable mode extraIterations table = .error e ↔ ofTable mode more table = .error e := by
  unfold ofTable
  cases Rule.ofEntries mode table.entries with
  | error cause => rfl
  | ok rules =>
    dsimp only
    cases Rule.findCycle rules with
    | some cycle => rfl
    | none => simp

/-- More extra passes never change a result, as long as their number fits a machine word. The table
is accepted or refused for the same reason, a text that settles has the same text after the same
passes, and one that settles only then takes more passes than were allowed before. -/
theorem expand_of_more_allowed (mode : MatchMode) (table : MacroTable) {extra more : Nat}
    (h : extra ≤ more) (fits : table.kept.length + max more 1 < UInt64.size) :
    (∀ e, ofTable mode extra table = .error e ↔ ofTable mode more table = .error e) ∧
      ∀ smaller, ofTable mode extra table = .ok smaller →
        ∃ larger, ofTable mode more table = .ok larger ∧ ∀ body,
          (∀ result, smaller.expand body = .ok result → larger.expand body = .ok result) ∧
          ∀ cause result, smaller.expand body = .error cause → larger.expand body = .ok result →
            smaller.maxPasses < result.passes := by
  refine ⟨fun e => ofTable_eq_error_iff more, fun smaller made => ?_⟩
  obtain ⟨larger, hlarger, hrules, hallowed⟩ := exists_ofTable_of_fits made fits
  refine ⟨larger, hlarger, fun body => ?_⟩
  have hpasses : smaller.maxPasses ≤ larger.maxPasses := by
    rw [maxPasses_eq_of_fits made (by omega)]
    omega
  have named := named_of_ofTable made
  have hnamed := named_of_ofTable hlarger
  rcases expand_cases named body with ⟨first, hfirst, hsettles, hok⟩ | ⟨hloud, herror⟩
  · refine ⟨fun result hresult => ?_, fun cause result hcause => nomatch hok.symm.trans hcause⟩
    obtain rfl := Except.ok.inj (hok.symm.trans hresult)
    rw [← hrules] at hsettles ⊢
    exact expand_of_settlesAfter hnamed hsettles (Nat.lt_of_lt_of_le hfirst hpasses)
  · refine ⟨fun result hresult => (nomatch herror.symm.trans hresult), ?_⟩
    intro cause result _ hresult
    -- The pass before the last one leaves the text quiet, which no pass allowed before did.
    rcases expand_cases hnamed body with ⟨first, -, hsettles, hok⟩ | ⟨-, hnone⟩
    · obtain rfl := Except.ok.inj (hok.symm.trans hresult)
      rw [hrules] at hsettles
      have hlate : ¬ first < smaller.maxPasses := fun hfirst => hloud first hfirst hsettles.2
      exact Nat.lt_succ_of_le (Nat.not_lt.1 hlate)
    · exact nomatch hnone.symm.trans hresult

/-- Three extra passes more settle the four signs, after five passes where three were allowed, and
leave what one sign gives as it is. -/
theorem shrinking_more_allowed :
    2 ≤ 5 ∧ (MacroTable.ofList [(['+', '-'], ['-'])]).kept.length + max 5 1 < UInt64.size ∧
      ofTable .wordBoundary 2 (MacroTable.ofList [(['+', '-'], ['-'])]) = .ok shrinking ∧
      ∃ larger, ofTable .wordBoundary 5 (MacroTable.ofList [(['+', '-'], ['-'])]) = .ok larger ∧
        shrinking.expand ['+', '-'] = .ok ⟨['-'], 2⟩ ∧ larger.expand ['+', '-'] = .ok ⟨['-'], 2⟩ ∧
        shrinking.expand fourSigns = .error (.nonConvergent 3 [['+', '-']]) ∧
        larger.expand fourSigns = .ok ⟨['-'], 5⟩ ∧ shrinking.maxPasses < 5 := by
  have hone : shrinking.expand ['+', '-'] = .ok ⟨['-'], 2⟩ := by decide +kernel
  have hfour : shrinking.expand fourSigns = .error (.nonConvergent 3 [['+', '-']]) := by
    decide +kernel
  have hmore : 2 ≤ 5 := by decide
  have fits : (MacroTable.ofList [(['+', '-'], ['-'])]).kept.length + max 5 1 < UInt64.size := by
    decide +kernel
  obtain ⟨-, haccepted⟩ :=
    expand_of_more_allowed .wordBoundary (MacroTable.ofList [(['+', '-'], ['-'])]) hmore fits
  obtain ⟨larger, hlarger, hresults⟩ := haccepted shrinking ofTable_shrinking
  have hlate : larger.expand fourSigns = .ok ⟨['-'], 5⟩ := by
    obtain rfl := Except.ok.inj (hlarger.symm.trans (ofTable_of_extra ofTable_shrinking 5))
    decide +kernel
  exact ⟨hmore, fits, ofTable_shrinking, larger, hlarger, hone, (hresults _).1 _ hone, hfour, hlate,
    (hresults _).2 _ _ hfour hlate⟩

end GrammarBrew.Expander
