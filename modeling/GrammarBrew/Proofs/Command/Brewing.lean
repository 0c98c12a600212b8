import GrammarBrew.Proofs.Command.Looking
import GrammarBrew.Proofs.Recipe.Preview

/-!
A run that prints the grammar and one that writes it by force. The first changes no file and prints
just what the recipe renders, and the second, where it succeeds, leaves the same text in the output.
-/

set_option autoImplicit false
set_option relaxedAutoImplicit false

namespace GrammarBrew

open Session

variable {session after : Session} {invocation : Invocation} {task : BrewTask}

private theorem run_orMessage {α : Type} {step : ExceptT RecipeError (StateM Session) α}
    {result : Except RecipeError α} (h : step session = (result, after)) :
    orMessage step session = (result.mapError RecipeError.message, after) := by
  show (Except.mapError RecipeError.message (step session).1, (step session).2) = _
  rw [h]

namespace BrewTask

private theorem exists_perform_printing (hprint : task.toStdout = true) (recipe : Recipe)
    (session : Session) :
    ∃ after, task.perform (m := StateM Session) recipe session
        = (((recipe.rendered session.workspace).mapError RecipeError.message).map
          fun _ => (), after) ∧
      after.workspace = session.workspace ∧
      after.printed = (recipe.rendered session.workspace).toOption.toList ++ session.printed := by
  obtain ⟨shown, hrender, hsame, hprinted⟩ := recipe.sees_render session
  have hmessage := run_orMessage hrender
  unfold perform
  rw [if_pos hprint]
  cases hrendered : recipe.rendered session.workspace with
  | error error =>
    rw [hrendered] at hmessage
    exact ⟨shown, run_bind_error hmessage, hsame, hprinted⟩
  | ok text =>
    rw [hrendered] at hmessage
    refine ⟨{ shown with printed := text :: shown.printed }, ?_, hsame,
      congrArg (text :: ·) hprinted⟩
    rw [run_bind_ok hmessage]
    rfl

private theorem read_of_perform_writing {recipe : Recipe} (wf : session.workspace.WellFormed)
    (hwrite : task.toStdout = false) (hforce : task.force = true)
    (h : task.perform (m := StateM Session) recipe session = (.ok (), after)) :
    ∃ text, recipe.rendered session.workspace = .ok text ∧
      after.workspace.read recipe.output = .ok (Text.encode text) := by
  unfold perform at h
  rw [if_neg (by simp [hwrite]), hforce] at h
  cases hcook : recipe.cook (m := StateM Session) true session with
  | mk result cooked =>
    have foretells := (cook_spec wf hcook).foretells
    have hmessage := run_orMessage hcook
    cases result with
    | error error =>
      rw [run_bind_error hmessage] at h
      exact nomatch (Prod.mk.inj h).1
    | ok outcome =>
      rw [run_bind_ok hmessage] at h
      have hsame : after.workspace = cooked.workspace := by
        cases outcome <;> exact (congrArg (·.2.workspace) h).symm
      cases hrendered : recipe.rendered session.workspace with
      | error error => exact nomatch (foretells.error error hrendered).1
      | ok text =>
        refine ⟨text, rfl, ?_⟩
        rcases foretells.ok text hrendered with
          ⟨source, macros, passes, hbrewed, hread⟩ | ⟨path, fault, hfail, hpath⟩
        · rw [hsame, hread]
        · exact nomatch hfail

end BrewTask

namespace Invocation

/-- The configuration that a run finds, or the message of its failure. -/
def configured (invocation : Invocation) : Workspace → Except Text Config :=
  look (invocation.configure (m := StateM Session))

def previewed (invocation : Invocation) (workspace : Workspace) : Except Text Text :=
  (invocation.configured workspace).bind fun config =>
    ((invocation.recipe config).rendered workspace).mapError RecipeError.message

private theorem exists_run {result : Except Text Unit}
    (h : invocation.perform (m := StateM Session) session = (result, after)) :
    ∃ told, invocation.run (m := StateM Session) session = (result.isOk, told) ∧
      told.workspace = after.workspace ∧ told.printed = after.printed := by
  have hrun : invocation.perform.run (m := StateM Session) session = (result, after) := h
  unfold run
  rw [run_bind hrun]
  cases result with
  | ok _ => exact ⟨{ after with events := .completed after.elapsed :: after.events }, rfl, rfl, rfl⟩
  | error message => exact ⟨{ after with events := .failed message :: after.events }, rfl, rfl, rfl⟩

private theorem exists_configured (htask : invocation.task = .brew task) (session : Session) :
    ∃ middle, middle.workspace = session.workspace ∧ middle.printed = session.printed ∧
      (∀ message, invocation.configured session.workspace = .error message →
        invocation.perform (m := StateM Session) session = (.error message, middle)) ∧
      ∀ config, invocation.configured session.workspace = .ok config →
        invocation.perform (m := StateM Session) session
          = task.perform (m := StateM Session) (invocation.recipe config) middle := by
  obtain ⟨middle, hconfigure, hsame, hprinted⟩ := onlyLooks_configure invocation session
  change _ = (invocation.configured session.workspace, middle) at hconfigure
  refine ⟨middle, hsame, hprinted, fun message h => ?_, fun config h => ?_⟩
  · unfold perform
    exact run_bind_error (h ▸ hconfigure)
  · unfold perform
    rw [run_bind_ok (h ▸ hconfigure), htask]

/-- A run that prints changes no file. It prints just what is rendered, and nothing if it fails. -/
theorem exists_run_printing (htask : invocation.task = .brew task) (hprint : task.toStdout = true)
    (session : Session) :
    ∃ after, invocation.run (m := StateM Session) session
        = ((invocation.previewed session.workspace).isOk, after) ∧
      after.workspace = session.workspace ∧
      after.output = session.output ++ (invocation.previewed session.workspace).toOption.getD
        [] := by
  obtain ⟨middle, hsame, hprinted, herror, hok⟩ := exists_configured htask session
  cases hconfigured : invocation.configured session.workspace with
  | error message =>
    obtain ⟨told, hrun, htold, htoldPrinted⟩ := exists_run (herror message hconfigured)
    simp only [previewed, hconfigured]
    refine ⟨told, hrun, htold.trans hsame, ?_⟩
    rw [Session.output, htoldPrinted, hprinted]
    exact (List.append_nil _).symm
  | ok config =>
    obtain ⟨shown, hperform, hshown, hshownPrinted⟩ :=
      task.exists_perform_printing hprint (invocation.recipe config) middle
    obtain ⟨told, hrun, htold, htoldPrinted⟩ := exists_run ((hok config hconfigured).trans hperform)
    rw [hsame] at hrun hshownPrinted
    simp only [previewed, hconfigured, Except.bind]
    refine ⟨told, ?_, htold.trans (hshown.trans hsame), ?_⟩
    · rw [hrun]
      cases (invocation.recipe config).rendered session.workspace <;> rfl
    · rw [Session.output, htoldPrinted, hshownPrinted, hprinted]
      cases (invocation.recipe config).rendered session.workspace <;>
        simp [Session.output, Except.toOption, Except.mapError]

/-- Where a run that writes by force succeeds, its output holds just what a run that prints would
print. -/
theorem read_of_run_writing (wf : session.workspace.WellFormed)
    (htask : invocation.task = .brew task)
    (hwrite : task.toStdout = false) (hforce : task.force = true)
    (h : invocation.run (m := StateM Session) session = (true, after)) :
    ∃ config text, invocation.configured session.workspace = .ok config ∧
      invocation.previewed session.workspace = .ok text ∧
      after.workspace.read config.output = .ok (Text.encode text) := by
  obtain ⟨middle, hsame, -, herror, hok⟩ := exists_configured htask session
  cases hconfigured : invocation.configured session.workspace with
  | error message =>
    obtain ⟨told, hrun, -⟩ := exists_run (herror message hconfigured)
    exact nomatch (Prod.mk.inj (hrun.symm.trans h)).1
  | ok config =>
    cases hperform : task.perform (m := StateM Session) (invocation.recipe config) middle with
    | mk result written =>
      obtain ⟨told, hrun, htold, -⟩ := exists_run ((hok config hconfigured).trans hperform)
      obtain ⟨hresult, rfl⟩ := Prod.mk.inj (hrun.symm.trans h)
      cases result with
      | error message => exact nomatch hresult
      | ok _ =>
        rw [← hsame] at wf
        obtain ⟨text, hrendered, hread⟩ :=
          BrewTask.read_of_perform_writing wf hwrite hforce hperform
        rw [hsame] at hrendered
        refine ⟨config, text, rfl, ?_, htold ▸ hread⟩
        simp only [previewed, hconfigured, Except.bind, hrendered, Except.mapError]

end Invocation

end GrammarBrew
