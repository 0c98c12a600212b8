import GrammarBrew.Proofs.Expansion.FixedPoint
import GrammarBrew.Proofs.Matcher.Separator

/-!
Expansion goes line by line. A character that stands in no name and belongs to no word, such as a
line feed, cuts a text into two that never act on each other: each pass rewrites them apart, the
later one to settle decides the number of passes, and one that does not settle fails the whole and
leaves the other as it is.
-/

set_option autoImplicit false
set_option relaxedAutoImplicit false

namespace GrammarBrew

variable {rules : List Rule} {rule : Rule} {c : Char} {front rest text name : Text} {j k l : Nat}

namespace Pass

def Separated (rules : List Rule) (c : Char) : Prop := ∀ rule ∈ rules, rule.matcher.Separates c

private theorem rewrite_append (named : Named rules) (h : Separated rules c) (front rest : Text) :
    rewrite rules (front ++ c :: rest) = rewrite rules front ++ c :: rewrite rules rest := by
  induction rules generalizing front rest with
  | nil => rfl
  | cons rule rules ih =>
    obtain ⟨hrule, hrules⟩ := List.forall_mem_cons.1 named
    obtain ⟨hseparates, hothers⟩ := List.forall_mem_cons.1 h
    rw [rewrite_cons, hseparates.replace_append hrule, ih hrules hothers, rewrite_cons,
      rewrite_cons]

private theorem iterate_append (named : Named rules) (h : Separated rules c) (k : Nat)
    (front rest : Text) :
    (rewrite rules)^[k] (front ++ c :: rest) = (rewrite rules)^[k] front ++ c ::
    (rewrite rules)^[k] rest := by
  induction k generalizing front rest with
  | zero => rfl
  | succ k ih =>
    rw [Function.iterate_succ_apply, rewrite_append named h, ih, Function.iterate_succ_apply,
      Function.iterate_succ_apply]

private theorem quiet_append (named : Named rules) (h : Separated rules c) :
    Quiet rules (front ++ c :: rest) ↔ Quiet rules front ∧ Quiet rules rest := by
  have hoccurs : ∀ rule ∈ rules, rule.matcher.Occurs (front ++ c :: rest)
      ↔ rule.matcher.Occurs front ∨ rule.matcher.Occurs rest :=
    fun rule hrule => (h rule hrule).occurs_append (named rule hrule)
  constructor
  · intro hquiet
    refine ⟨fun rule hrule hhit => ?_, fun rule hrule hhit => ?_⟩
    · exact hquiet rule hrule ((hoccurs rule hrule).2 (Or.inl hhit))
    · exact hquiet rule hrule ((hoccurs rule hrule).2 (Or.inr hhit))
  · rintro ⟨hfront, hrest⟩ rule hrule hhit
    rcases (hoccurs rule hrule).1 hhit with hhit | hhit
    · exact hfront rule hrule hhit
    · exact hrest rule hrule hhit

private theorem hitsInTurn_append (named : Named rules) (h : Separated rules c) :
    HitsInTurn rules (front ++ c :: rest) rule ↔ HitsInTurn rules front rule ∨
      HitsInTurn rules rest rule := by
  -- The rules before this one rewrite the two texts apart as well.
  have hturn : ∀ earlier later, rules = earlier ++ rule :: later →
      (rule.matcher.Occurs (rewrite earlier (front ++ c :: rest))
        ↔ rule.matcher.Occurs (rewrite earlier front) ∨
          rule.matcher.Occurs (rewrite earlier rest)) := by
    rintro earlier later rfl
    have hnamed : Named earlier := fun other hother => named other (List.mem_append_left _ hother)
    have hseparated : Separated earlier c := fun other hother =>
      h other (List.mem_append_left _ hother)
    rw [rewrite_append hnamed hseparated]
    exact (h rule (by simp)).occurs_append (named rule (by simp))
  constructor
  · rintro ⟨earlier, later, heq, hhit⟩
    rcases (hturn earlier later heq).1 hhit with hhit | hhit
    · exact Or.inl ⟨earlier, later, heq, hhit⟩
    · exact Or.inr ⟨earlier, later, heq, hhit⟩
  · rintro (⟨earlier, later, heq, hhit⟩ | ⟨earlier, later, heq, hhit⟩)
    · exact ⟨earlier, later, heq, (hturn earlier later heq).2 (Or.inl hhit)⟩
    · exact ⟨earlier, later, heq, (hturn earlier later heq).2 (Or.inr hhit)⟩

private theorem SettlesAfter.append (named : Named rules) (h : Separated rules c)
    (hfront : SettlesAfter rules k front) (hrest : SettlesAfter rules l rest) :
    SettlesAfter rules (max k l) (front ++ c :: rest) := by
  constructor
  · intro j hj
    rw [iterate_append named h, quiet_append named h]
    rintro ⟨hfrontQuiet, hrestQuiet⟩
    have hk : k ≤ j := Nat.le_of_not_lt fun hlt => hfront.1 j hlt hfrontQuiet
    have hl : l ≤ j := Nat.le_of_not_lt fun hlt => hrest.1 j hlt hrestQuiet
    omega
  · rw [iterate_append named h, quiet_append named h,
      iterate_of_quiet named hfront.2 (Nat.le_max_left k l),
      iterate_of_quiet named hrest.2 (Nat.le_max_right k l)]
    exact ⟨hfront.2, hrest.2⟩

end Pass

namespace Expander

open Pass

variable {mode : MatchMode} {extraIterations : Nat} {table : MacroTable} {expander : Expander}

private theorem separated_of_ofTable (made : ofTable mode extraIterations table = .ok expander)
    (unnamed : ∀ entry ∈ table.kept, c ∉ entry.1)
    (apart : mode = .wordBoundary → Text.isWord c = false) :
    Separated expander.rules c := by
  obtain ⟨-, hrules, -, -⟩ := ofTable_eq_ok made
  intro rule hrule
  rw [hrules] at hrule
  obtain ⟨entry, hentry, rfl⟩ := List.mem_map.1 hrule
  refine ⟨?_, ?_⟩
  · change c ∉ (Matcher.ofName mode entry.1).name
    rw [Matcher.ofName_name]
    exact unnamed entry hentry
  · intro hguards
    cases mode with
    | wordBoundary => exact apart rfl
    | substring => simp [Rule.ofEntry, Matcher.ofName] at hguards

private theorem hitsLast_append (named : Named rules) (h : Separated rules c) {passes : Nat} :
    HitsLast rules passes (front ++ c :: rest) rule
      ↔ HitsLast rules passes front rule ∨ HitsLast rules passes rest rule := by
  simp only [HitsLast, iterate_append named h, hitsInTurn_append named h, and_or_left, exists_or]

/-- Two texts with a character between them that no name can touch expand as they do each alone:
together they succeed when both do, with the passes of the slower one, and else they fail with the
names that either of them was still replacing. -/
theorem expand_append (made : ofTable mode extraIterations table = .ok expander)
    (unnamed : ∀ entry ∈ table.kept, c ∉ entry.1)
    (apart : mode = .wordBoundary → Text.isWord c = false)
    (front rest : Text) :
    ((expander.expand (front ++ c :: rest)).isOk = true
        ↔ (expander.expand front).isOk = true ∧ (expander.expand rest).isOk = true) ∧
      (∀ first last, expander.expand front = .ok first → expander.expand rest = .ok last →
        expander.expand (front ++ c :: rest)
          = .ok ⟨first.text ++ c :: last.text, max first.passes last.passes⟩) ∧
      ((expander.expand front).isOk = false ∨ (expander.expand rest).isOk = false →
        ∃ changed, expander.expand (front ++ c :: rest)
            = .error (.nonConvergent expander.maxPasses changed) ∧
          changed.Pairwise (· < ·) ∧
          ∀ name, name ∈ changed ↔
            name ∈ lastChanged (expander.expand front) ∨
              name ∈ lastChanged (expander.expand rest)) := by
  have named := named_of_ofTable made
  have separated := separated_of_ofTable made unnamed apart
  have hboth : (expander.expand (front ++ c :: rest)).isOk = true
      ↔ (expander.expand front).isOk = true ∧ (expander.expand rest).isOk = true := by
    simp only [isOk_expand_iff named, iterate_append named separated, quiet_append named separated]
    constructor
    · rintro ⟨k, hk, hfront, hrest⟩
      exact ⟨⟨k, hk, hfront⟩, k, hk, hrest⟩
    · -- The slower of the two texts is quiet when the other one has long been so.
      rintro ⟨⟨k, hk, hfront⟩, l, hl, hrest⟩
      refine ⟨max k l, Nat.max_lt.2 ⟨hk, hl⟩, ?_, ?_⟩
      · rwa [iterate_of_quiet named hfront (Nat.le_max_left k l)]
      · rwa [iterate_of_quiet named hrest (Nat.le_max_right k l)]
  have hnames : ∀ name, name ∈ lastChanged (expander.expand (front ++ c :: rest))
      ↔ name ∈ lastChanged (expander.expand front) ∨ name ∈ lastChanged (expander.expand rest) := by
    intro name
    simp only [mem_lastChanged_iff named, hitsLast_append named separated, and_or_left, exists_or]
  refine ⟨hboth, ?_, ?_⟩
  · intro first last hfirst hlast
    rcases expand_cases named front with ⟨k, hk, hfront, hok⟩ | ⟨-, herror⟩
    · rcases expand_cases named rest with ⟨l, hl, hrest, hok'⟩ | ⟨-, herror⟩
      · obtain rfl := Except.ok.inj (hfirst.symm.trans hok)
        obtain rfl := Except.ok.inj (hlast.symm.trans hok')
        rw [expand_of_settlesAfter named (hfront.append named separated hrest)
            (Nat.max_lt.2 ⟨hk, hl⟩),
          iterate_append named separated, iterate_of_quiet named hfront.2 (Nat.le_max_left k l),
          iterate_of_quiet named hrest.2 (Nat.le_max_right k l), Nat.add_max_add_right]
      · exact nomatch hlast.symm.trans herror
    · exact nomatch hfirst.symm.trans herror
  · intro hfails
    rcases expand_cases named (front ++ c :: rest) with ⟨k, -, -, hok⟩ | ⟨-, herror⟩
    · obtain ⟨hfront, hrest⟩ := hboth.1 (by rw [hok]; rfl)
      simp [hfront, hrest] at hfails
    · refine ⟨_, herror, lastNames_ascending (orderly_of_ofTable made) _, ?_⟩
      rw [herror] at hnames
      exact hnames

def signs : Expander where
  rules := [Rule.ofEntry .wordBoundary (['*', '='], ['+', '=']),
    Rule.ofEntry .wordBoundary (['+'], ['*'])]
  maxPasses := 4

theorem signs_lines :
    let table := MacroTable.ofList [(['+'], ['*']), (['*', '='], ['+', '='])]
    ofTable .wordBoundary 2 table = .ok signs ∧ (∀ entry ∈ table.kept, '\n' ∉ entry.1) ∧
      (MatchMode.wordBoundary = .wordBoundary → Text.isWord '\n' = false) ∧
      signs.expand ['+'] = .ok ⟨['*'], 2⟩ ∧
      ∃ changed, signs.expand ['+', '=', '\n', '+'] = .error (.nonConvergent 4 changed) ∧
        changed.Pairwise (· < ·) ∧ ∀ name, name ∈ changed ↔
          name ∈ lastChanged (signs.expand ['+', '=']) ∨
            name ∈ lastChanged (signs.expand ['+']) := by
  intro table
  have made : ofTable .wordBoundary 2 table = .ok signs := by decide +kernel
  have unnamed : ∀ entry ∈ table.kept, '\n' ∉ entry.1 := by decide +kernel
  have apart : MatchMode.wordBoundary = .wordBoundary → Text.isWord '\n' = false := by
    decide +kernel
  have hsign : signs.expand ['+'] = .ok ⟨['*'], 2⟩ := by decide +kernel
  have hfails : (signs.expand ['+', '=']).isOk = false := by decide +kernel
  have hlines := expand_append made unnamed apart ['+', '='] ['+']
  exact ⟨made, unnamed, apart, hsign, hlines.2.2 (Or.inl hfails)⟩

end Expander

end GrammarBrew
