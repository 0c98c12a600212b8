import GrammarBrew.Proofs.Command.Place

/-!
Two readings of arguments side by side, for one who prints the grammar and for one who writes it.
Only the options `--stdout` and `--force` touch what sets the two apart, so that a reading which
succeeds for the one who writes does so for the one who prints.
-/

set_option autoImplicit false
set_option relaxedAutoImplicit false

namespace GrammarBrew.Arguments

variable {scope : Scope} {given later : Given}

/-! ### What leaves printing and force alone -/

def Given.asking (given : Given) (stdout force : Bool) : Given :=
  { given with stdout := stdout, force := force }

def Indifferent (step : Given → Except Interruption Given) : Prop :=
  ∀ given stdout force, step (given.asking stdout force) = (step given).map (·.asking stdout force)

private theorem indifferent_error (interruption : Interruption) :
    Indifferent fun _ => .error interruption :=
  fun _ _ _ => rfl

private theorem indifferent_once {α : Type} {old : Given → Option α}
    (give : Given → Option α → Given) (value : α)
    (hold : ∀ given stdout force, old (given.asking stdout force) = old given)
    (hgive : ∀ given stdout force new,
      give (given.asking stdout force) new = (give given new).asking stdout force) :
    Indifferent fun given => do return give given (← once (old given) value) := by
  intro given stdout force
  simp only [hold]
  cases once (old given) value with
  | error interruption => rfl
  | ok new => exact congrArg Except.ok (hgive given stdout force new)

private theorem indifferent_setValue (flag : Flag) (value : Text) :
    Indifferent (·.setValue flag value) := by
  cases flag with
  | config =>
    exact indifferent_once ({ · with config? := · }) value (fun _ _ _ => rfl) fun _ _ _ _ => rfl
  | output =>
    exact indifferent_once ({ · with output? := · }) value (fun _ _ _ => rfl) fun _ _ _ _ => rfl
  | matching =>
    cases hmode : (MatchMode.ofLabel? value).isNone with
    | true =>
      simp only [Indifferent, Given.setValue, hmode]
      exact indifferent_error .misuse
    | false =>
      simp only [Indifferent, Given.setValue, hmode]
      exact indifferent_once ({ · with matching? := · }) value (fun _ _ _ => rfl) fun _ _ _ _ => rfl
  | format =>
    cases hformat : formatOf? value with
    | none =>
      simp only [Indifferent, Given.setValue, hformat]
      exact indifferent_error .misuse
    | some format =>
      simp only [Indifferent, Given.setValue, hformat]
      exact indifferent_once ({ · with format? := · }) format (fun _ _ _ => rfl) fun _ _ _ _ => rfl
  | verbose | quiet | help | version | force | stdout => exact indifferent_error .misuse

private theorem indifferent_setSource (scope : Scope) (value : Text) :
    Indifferent (·.setSource scope value) := by
  by_cases hscope : scope = .general
  · subst hscope
    exact indifferent_error .misuse
  · simp only [Indifferent, Given.setSource, hscope, if_false]
    exact indifferent_once ({ · with source? := · }) value (fun _ _ _ => rfl) fun _ _ _ _ => rfl

private theorem indifferent_set {flag : Flag} (hforce : flag ≠ .force) (hstdout : flag ≠ .stdout) :
    Indifferent (·.set flag) := by
  cases flag with
  | force => exact absurd rfl hforce
  | stdout => exact absurd rfl hstdout
  | verbose | quiet => exact fun _ _ _ => rfl
  | help => exact indifferent_error .help
  | version => exact indifferent_error .version
  | config | output | matching | format => exact indifferent_error .misuse

/-! ### One who prints beside one who writes -/

def Given.PrintsFor (printing writing : Given) : Prop :=
  ∃ force, printing = writing.asking true force ∧ (force = true → writing.force = true)

/-- A reading that takes neither printing nor force back and, unless it asks for printing itself,
goes the same way for one who prints. -/
structure Alike (reading : Given → Except Interruption Given) : Prop where
  stdout : ∀ {given later}, reading given = .ok later → given.stdout = true → later.stdout = true
  force : ∀ {given later}, reading given = .ok later → given.force = true → later.force = true
  prints : ∀ {printing writing later}, reading writing = .ok later → later.stdout = false →
    printing.PrintsFor writing → ∃ shown, reading printing = .ok shown ∧ shown.PrintsFor later

private theorem Indifferent.alike {step : Given → Except Interruption Given}
    (h : Indifferent step) : Alike step := by
  have hkept : ∀ {given later}, step given = .ok later →
      later.stdout = given.stdout ∧ later.force = given.force := by
    intro given later hstep
    have hsame := h given given.stdout given.force
    change step given = _ at hsame
    rw [hstep] at hsame
    have hlater : later = later.asking given.stdout given.force := Except.ok.inj hsame
    rw [hlater]
    exact ⟨rfl, rfl⟩
  refine ⟨fun hstep hgiven => (hkept hstep).1.trans hgiven, fun hstep hgiven =>
    (hkept hstep).2.trans hgiven, ?_⟩
  rintro _ writing later hstep - ⟨force, rfl, hforce⟩
  refine ⟨later.asking true force, ?_, force, rfl, fun hasked =>
    (hkept hstep).2.trans (hforce hasked)⟩
  rw [h, hstep]
  rfl

private theorem Alike.bind {step next : Given → Except Interruption Given} (hstep : Alike step)
    (hnext : Alike next) :
    Alike fun given => step given >>= next := by
  refine ⟨fun {given later} h hgiven => ?_, fun {given later} h hgiven => ?_, ?_⟩
  · obtain ⟨middle, hfirst, hsecond⟩ := bind_eq_ok_iff.1 h
    exact hnext.stdout hsecond (hstep.stdout hfirst hgiven)
  · obtain ⟨middle, hfirst, hsecond⟩ := bind_eq_ok_iff.1 h
    exact hnext.force hsecond (hstep.force hfirst hgiven)
  · intro printing writing later h hlater hprints
    obtain ⟨middle, hfirst, hsecond⟩ := bind_eq_ok_iff.1 h
    have hmiddle : middle.stdout = false := by
      rw [← Bool.not_eq_true] at hlater ⊢
      exact fun hprint => hlater (hnext.stdout hsecond hprint)
    obtain ⟨shown, hshown, hprints⟩ := hstep.prints hfirst hmiddle hprints
    obtain ⟨last, hlast, hprints⟩ := hnext.prints hsecond hlater hprints
    exact ⟨last, bind_eq_ok_iff.2 ⟨shown, hshown, hlast⟩, hprints⟩

private theorem alike_ok : Alike .ok := Indifferent.alike fun _ _ _ => rfl

private theorem alike_error (interruption : Interruption) : Alike fun _ => .error interruption :=
  (indifferent_error interruption).alike

theorem set_force_eq_ok_iff :
    given.set .force = .ok later ↔ given.force = false ∧
      later = given.asking given.stdout true := by
  cases hforce : given.force with
  | true => simp [Given.set, hforce]
  | false => simp [Given.set, hforce, Given.asking, eq_comm]

theorem set_stdout_eq_ok_iff :
    given.set .stdout = .ok later ↔ given.stdout = false ∧
      later = given.asking true given.force := by
  cases hstdout : given.stdout with
  | true => simp [Given.set, hstdout]
  | false => simp [Given.set, hstdout, Given.asking, eq_comm]

private theorem alike_set (flag : Flag) : Alike (·.set flag) := by
  by_cases hforce : flag = .force
  · subst hforce
    refine ⟨fun h hgiven => ?_, fun h _ => ?_, ?_⟩
    · rw [(set_force_eq_ok_iff.1 h).2]
      exact hgiven
    · rw [(set_force_eq_ok_iff.1 h).2]
      rfl
    · rintro _ writing later h - ⟨force, rfl, hforced⟩
      obtain ⟨hunforced, rfl⟩ := set_force_eq_ok_iff.1 h
      obtain rfl : force = false := by
        rw [← Bool.not_eq_true] at hunforced ⊢
        exact fun hforce => hunforced (hforced hforce)
      exact ⟨_, set_force_eq_ok_iff.2 ⟨rfl, rfl⟩, true, rfl, fun _ => rfl⟩
  by_cases hstdout : flag = .stdout
  · subst hstdout
    refine ⟨fun h _ => ?_, fun h hgiven => ?_, fun h hlater => ?_⟩
    · rw [(set_stdout_eq_ok_iff.1 h).2]
      rfl
    · rw [(set_stdout_eq_ok_iff.1 h).2]
      exact hgiven
    · rw [(set_stdout_eq_ok_iff.1 h).2] at hlater
      exact nomatch hlater
  exact (indifferent_set hforce hstdout).alike

/-! ### Reading options and arguments -/

private theorem alike_setSources (scope : Scope) (sources : List Text) :
    Alike fun given => sources.foldlM (fun given source => given.setSource scope source) given := by
  induction sources with
  | nil => exact alike_ok
  | cons source sources ih => exact (indifferent_setSource scope source).alike.bind ih

section

variable {next : Option Flag → Given → Except Interruption Given}

private theorem alike_readLong (argument : Text) (hnext : ∀ waiting, Alike (next waiting)) :
    Alike fun given => readLong scope argument given >>= fun read => next read.2 read.1 := by
  simp only [readLong]
  cases Flag.ofLong? scope (argument.takeWhile fun c => c != '=') with
  | none => exact alike_error .misuse
  | some flag =>
    cases argument.drop (argument.takeWhile fun c => c != '=').length with
    | nil =>
      cases htakes : flag.takesValue with
      | true =>
        simp only [htakes, if_true]
        exact hnext (some flag)
      | false =>
        simp only [htakes, Bool.false_eq_true, if_false, bind_assoc, pure_bind]
        exact (alike_set flag).bind (hnext none)
    | cons mark value =>
      simp only [bind_assoc, pure_bind]
      exact (indifferent_setValue flag value).alike.bind (hnext none)

private theorem alike_readShort (letters : Text) (hnext : ∀ waiting, Alike (next waiting)) :
    Alike fun given => readShort scope letters given >>= fun read => next read.2 read.1 := by
  induction letters with
  | nil => exact hnext none
  | cons letter rest ih =>
    simp only [readShort]
    cases Flag.ofShort? scope letter with
    | none => exact alike_error .misuse
    | some flag =>
      cases htakes : flag.takesValue with
      | false =>
        simp only [htakes, Bool.not_false, if_true, bind_assoc]
        exact (alike_set flag).bind ih
      | true =>
        cases rest with
        | nil =>
          simp only [htakes, Bool.not_true, Bool.false_eq_true, if_false]
          exact hnext (some flag)
        | cons c value =>
          simp only [htakes, Bool.not_true, Bool.false_eq_true, if_false, bind_assoc, pure_bind]
          exact (indifferent_setValue flag _).alike.bind (hnext none)

private theorem alike_readOne (argument : Text) (waiting : Option Flag)
    (hnext : ∀ waiting, Alike (next waiting)) :
    Alike fun given => readOne scope argument waiting given >>= fun read => next read.2 read.1 := by
  cases hdashed : isDashed argument with
  | true =>
    simp only [readOne, hdashed, if_true]
    cases waiting with
    | some flag => exact alike_error .misuse
    | none =>
      simp only [readOptions]
      split
      · exact alike_readLong _ hnext
      · exact alike_readShort _ hnext
  | false =>
    simp only [readOne, hdashed]
    cases waiting with
    | some flag =>
      simp only [Bool.false_eq_true, if_false, bind_assoc, pure_bind]
      exact (indifferent_setValue flag argument).alike.bind (hnext none)
    | none =>
      simp only [Bool.false_eq_true, if_false, bind_assoc, pure_bind]
      exact (indifferent_setSource scope argument).alike.bind (hnext none)

end

theorem alike_gather (scope : Scope) (arguments : List Text) (waiting : Option Flag) :
    Alike (gather scope arguments waiting) := by
  -- The rest of the arguments is what follows on the first one, whatever option that one leaves
  -- waiting.
  induction arguments generalizing waiting with
  | nil =>
    cases waiting with
    | none => exact alike_ok
    | some flag => exact alike_error .misuse
  | cons argument rest ih =>
    unfold gather
    rcases read_cons_cases scope argument waiting with
      hone | ⟨-, hhelp⟩ | ⟨-, inner, -, htask⟩ | ⟨-, hend⟩
    · simp only [hone, map_bind]
      exact alike_readOne argument waiting ih
    · simp only [hhelp]
      exact alike_error (helpWith rest)
    · simp only [htask]
      exact alike_ok
    · simp only [hend, map_bind]
      exact (alike_setSources scope rest).bind alike_ok

end GrammarBrew.Arguments
