import GrammarBrew.Command.Arguments
import Mathlib.Data.List.Basic

/-!
How arguments are read one by one, and what that says of an option that only one task knows: it
stands after the name of the task, and what is read up to there does not depend on what follows.
-/

set_option autoImplicit false
set_option relaxedAutoImplicit false

namespace GrammarBrew.Arguments

theorem bind_eq_ok_iff {ε α β : Type} {step : Except ε α} {next : α → Except ε β} {b : β} :
    step >>= next = .ok b ↔ ∃ a, step = .ok a ∧ next a = .ok b := by
  cases step with
  | error error => simp [bind, Except.bind]
  | ok a => simp [bind, Except.bind]

variable {scope : Scope} {given : Given}

/-- What an argument can be: it is read by itself, it asks for help, it names a task, or it ends the
options. -/
theorem read_cons_cases (scope : Scope) (argument : Text) (waiting : Option Flag) :
    (∀ rest given, read scope (argument :: rest) waiting given
      = readOne scope argument waiting given >>= fun step => read scope rest step.2 step.1) ∨
    (argument = "help".toList ∧
      ∀ rest given, read scope (argument :: rest) waiting given = .error (helpWith rest)) ∨
    (scope = .general ∧ ∃ inner, scopeOf? argument = some inner ∧
      ∀ rest given, read scope (argument :: rest) waiting given = .ok (given, some (inner, rest))) ∨
    (argument = ['-', '-'] ∧ ∀ rest given, read scope (argument :: rest) waiting given
      = rest.foldlM (fun given source => given.setSource scope source) given >>= fun given =>
        .ok (given, none)) := by
  cases waiting with
  | some flag => exact Or.inl fun rest given => rfl
  | none =>
    by_cases hgeneral : scope = .general
    · subst hgeneral
      by_cases hhelp : argument = "help".toList
      · refine Or.inr (Or.inl ⟨hhelp, fun rest given => ?_⟩)
        simp only [read, hhelp]
        rfl
      · cases hinner : scopeOf? argument with
        | some inner =>
          refine Or.inr (Or.inr (Or.inl ⟨rfl, inner, rfl, fun rest given => ?_⟩))
          simp only [read, hhelp, hinner]
          rfl
        | none =>
          by_cases hend : argument = ['-', '-']
          · refine Or.inr (Or.inr (Or.inr ⟨hend, fun rest given => ?_⟩))
            simp only [read, hend]
            rfl
          · refine Or.inl fun rest given => ?_
            simp only [read, hhelp, hinner, hend]
            rfl
    · by_cases hend : argument = ['-', '-']
      · refine Or.inr (Or.inr (Or.inr ⟨hend, fun rest given => ?_⟩))
        simp only [read, hgeneral, hend]
        rfl
      · refine Or.inl fun rest given => ?_
        simp only [read, hgeneral, hend]
        rfl

def gather (scope : Scope) (arguments : List Text) (waiting : Option Flag) (given : Given) :
    Except Interruption Given :=
  Prod.fst <$> read scope arguments waiting given

/-! ### The place of an option -/

private theorem read_front {front rest : List Text} {argument : Text} {waiting : Option Flag}
    {result : Given × Option (Scope × List Text)} (hfront : ['-', '-'] ∉ front)
    (hdashed : isDashed argument = true)
    (h : read scope (front ++ argument :: rest) waiting given = .ok result) :
    (∃ later, ∀ tail, read scope (front ++ tail) waiting given = read scope tail none later) ∨
      (scope = .general ∧ ∃ later inner left, inner ≠ .general ∧ ['-', '-'] ∉ left ∧
        ∀ tail, read scope (front ++ tail) waiting given
          = .ok (later, some (inner, left ++ tail))) := by
  -- Argument by argument, each read alone, up to the option itself or to the name of a task.
  induction front generalizing waiting given with
  | nil =>
    cases waiting with
    | none => exact Or.inl ⟨given, fun tail => rfl⟩
    | some flag =>
      -- What begins with a dash is no value of the option that waits.
      simp only [List.nil_append, read, readOne, hdashed] at h
      exact nomatch h
  | cons first front ih =>
    obtain ⟨hfirst, hfront⟩ := List.ne_and_not_mem_of_not_mem_cons hfront
    rcases read_cons_cases scope first waiting with
      hone | ⟨-, hhelp⟩ | ⟨hgeneral, inner, hinner, htask⟩ | ⟨hend, -⟩
    · rw [List.cons_append, hone] at h
      obtain ⟨step, hstep, hread⟩ := bind_eq_ok_iff.1 h
      have hnext : ∀ tail, read scope (first :: front ++ tail) waiting given
          = read scope (front ++ tail) step.2 step.1 := by
        intro tail
        rw [List.cons_append, hone, hstep]
        rfl
      simp only [hnext]
      exact ih hfront hread
    · rw [List.cons_append, hhelp] at h
      exact nomatch h
    · refine Or.inr ⟨hgeneral, given, inner, front, ?_, hfront, fun tail =>
        htask (front ++ tail) given⟩
      rintro rfl
      unfold scopeOf? at hinner
      split at hinner <;> simp at hinner
    · exact absurd hend.symm hfirst

def Flag.spelled (flag : Flag) : Text := '-' :: '-' :: flag.long

private theorem ofLong?_long (scope : Scope) (flag : Flag) :
    Flag.ofLong? scope flag.long = if flag.knownIn scope then some flag else none := by
  cases scope <;> cases flag <;> decide +kernel

private theorem takeWhile_long (flag : Flag) :
    (flag.long.takeWhile fun c => c != '=') = flag.long := by
  cases flag <;> decide +kernel

private theorem readOptions_spelled {flag : Flag} (hvalue : flag.takesValue = false) :
    readOptions scope flag.spelled given
      = if flag.knownIn scope then given.set flag >>= fun later =>
        .ok (later, none) else .error .misuse := by
  show readLong scope flag.long given = _
  simp only [readLong, takeWhile_long, ofLong?_long, List.drop_length]
  cases flag.knownIn scope with
  | false => rfl
  | true =>
    simp only [if_true, hvalue]
    rfl

private theorem read_spelled {flag : Flag} (hvalue : flag.takesValue = false) (rest : List Text) :
    read scope (flag.spelled :: rest) none given
      = if flag.knownIn scope then given.set flag >>= read scope rest none else .error .misuse := by
  have hone : readOne scope flag.spelled none given = readOptions scope flag.spelled given := rfl
  rcases read_cons_cases scope flag.spelled none with
    hread | ⟨hhelp, -⟩ | ⟨-, inner, hinner, -⟩ | ⟨hend, -⟩
  · rw [hread, hone, readOptions_spelled hvalue]
    cases flag.knownIn scope with
    | false => rfl
    | true =>
      simp only [if_true, bind_assoc]
      rfl
  · exact absurd hhelp (by cases flag <;> decide +kernel)
  · exact absurd hinner (by cases flag <;> cases inner <;> decide +kernel)
  · exact absurd hend (by cases flag <;> decide +kernel)

private theorem readAll_eq {arguments rest : List Text} {outer : Given}
    (h : read .general arguments none {} = .ok (outer, some (scope, rest))) :
    readAll arguments = gather scope rest none {} >>= together scope outer := by
  unfold readAll gather
  rw [h, bind_map_left]
  rfl

section

variable {flag : Flag} {front rest : List Text} {invocation : Invocation}

/-- An option that only brewing knows stands after the name of that task. -/
theorem exists_place (hvalue : flag.takesValue = false)
    (honly : ∀ scope, flag.knownIn scope = true → scope = .brew)
    (hfront : ['-', '-'] ∉ front) (h : readAll (front ++ flag.spelled :: rest) = .ok invocation) :
    ∃ outer given, ∀ tail, readAll (front ++ tail) = gather .brew tail none given >>= together
      .brew outer := by
  have hknown : ∀ {scope given result}, read scope (flag.spelled :: rest) none given = .ok result →
      scope = .brew := by
    intro scope given result hread
    rw [read_spelled hvalue] at hread
    refine honly scope ?_
    by_contra hunknown
    rw [if_neg hunknown] at hread
    exact nomatch hread
  obtain ⟨⟨outer, left?⟩, hgeneral, -⟩ := bind_eq_ok_iff.1 h
  have hdashed : isDashed flag.spelled = true := rfl
  rcases read_front hfront hdashed hgeneral with
    ⟨later, hlater⟩ | ⟨-, outer, inner, left, hinner, hleft, htask⟩
  · rw [hlater] at hgeneral
    exact nomatch hknown hgeneral
  · rw [readAll_eq (htask (flag.spelled :: rest))] at h
    obtain ⟨given, hgather, -⟩ := bind_eq_ok_iff.1 h
    unfold gather at hgather
    cases hread : read inner (left ++ flag.spelled :: rest) none {} with
    | error interruption =>
      rw [hread] at hgather
      exact nomatch hgather
    | ok result =>
      rcases read_front hleft hdashed hread with ⟨given, hgiven⟩ | ⟨hgeneral, -⟩
      · rw [hgiven] at hread
        obtain rfl := hknown hread
        refine ⟨outer, given, fun tail => ?_⟩
        rw [readAll_eq (htask tail), gather, hgiven]
        rfl
      · exact absurd hgeneral hinner

theorem gather_spelled (hvalue : flag.takesValue = false) (hknown : flag.knownIn scope = true)
    (rest : List Text) :
    gather scope (flag.spelled :: rest) none given = given.set flag >>= gather scope rest none := by
  unfold gather
  rw [read_spelled hvalue, if_pos hknown, map_bind]

end

end GrammarBrew.Arguments
