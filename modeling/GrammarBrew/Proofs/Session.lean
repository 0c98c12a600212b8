import GrammarBrew.Recipe.Basic
import GrammarBrew.Session

/-!
Actions on a session one after the other. An action of which the result is known is gone through by
rewriting; where errors may end a run, an error ends it.
-/

set_option autoImplicit false
set_option relaxedAutoImplicit false

namespace GrammarBrew.Session

variable {α β ε : Type} {session after : Session} {a : α} {error : ε} {path : Path}
  {fault : FileFault}

theorem run_bind {action : StateM Session α} {next : α → StateM Session β}
    (h : action session = (a, after)) : (action >>= next) session = next a after := by
  show next (action session).1 (action session).2 = next a after
  rw [h]

section

variable {action : ExceptT ε (StateM Session) α} {next : α → ExceptT ε (StateM Session) β}

theorem run_bind_ok (h : action session = (.ok a, after)) :
    (action >>= next) session = next a after := by
  show (ExceptT.bindCont next (action session).1 : StateM Session (Except ε β))
      (action session).2 = _
  rw [h]
  rfl

theorem run_bind_error (h : action session = (.error error, after)) :
    (action >>= next) session = (.error error, after) := by
  show (ExceptT.bindCont next (action session).1 : StateM Session (Except ε β))
      (action session).2 = _
  rw [h]
  rfl

end

private theorem run_liftM {operation : StateM Session α} (h : operation session = (a, after)) :
    (liftM operation : ExceptT ε (StateM Session) α) session = (.ok a, after) := by
  show ((Except.ok (operation session).1, (operation session).2) : Except ε α × Session) = _
  rw [h]

section

variable {operation : StateM Session (Except FileFault α)}

theorem run_onFile_ok (h : operation session = (.ok a, after)) :
    onFile path operation session = (.ok a, after) := run_bind_ok (run_liftM h)

theorem run_onFile_error (h : operation session = (.error fault, after)) :
    onFile path operation session = (.error (.files path fault), after) := run_bind_ok (run_liftM h)

end

/-! ### Actions that only look -/

/-- An action gives what is seen in the files, leaves them as they are, and prints nothing. -/
def Sees (action : StateM Session α) (view : Workspace → α) : Prop :=
  ∀ session, ∃ after, action session = (view session.workspace, after) ∧
    after.workspace = session.workspace ∧ after.printed = session.printed

/-- What an action gives for a workspace when nothing was told before. -/
def look (action : StateM Session α) (workspace : Workspace) : α :=
  (action { workspace := workspace }).1

def OnlyLooks (action : StateM Session α) : Prop := Sees action (look action)

private theorem Sees.look_eq {action : StateM Session α} {view : Workspace → α}
    (h : Sees action view) :
    look action = view := by
  funext workspace
  obtain ⟨after, hrun, -⟩ := h { workspace := workspace }
  exact congrArg Prod.fst hrun

theorem Sees.onlyLooks {action : StateM Session α} {view : Workspace → α} (h : Sees action view) :
    OnlyLooks action := by
  rw [OnlyLooks, h.look_eq]
  exact h

private theorem Sees.exists_run {action : StateM Session α} {view : Workspace → α}
    (h : Sees action view)
    (hview : view session.workspace = a) :
    ∃ after, action session = (a, after) ∧ after.workspace = session.workspace := by
  obtain ⟨after, hrun, hsame, -⟩ := h session
  exact ⟨after, hview ▸ hrun, hsame⟩

theorem sees_inspect (view : Workspace → α) : Sees (inspect view) view :=
  fun session => ⟨session, rfl, rfl, rfl⟩

section

variable {action : ExceptT ε (StateM Session) α} {next : α → ExceptT ε (StateM Session) β}
  {view : Workspace → Except ε α} {views : α → Workspace → Except ε β}

theorem sees_return (a : α) : Sees (pure a : ExceptT ε (StateM Session) α) fun _ => .ok a :=
  fun session => ⟨session, rfl, rfl, rfl⟩

theorem sees_throw (error : ε) : Sees (throw error : ExceptT ε (StateM Session) α) fun _ =>
    .error error :=
  fun session => ⟨session, rfl, rfl, rfl⟩

theorem Sees.lift {operation : StateM Session α} {seen : Workspace → α} (h : Sees operation seen) :
    Sees (ExceptT.lift operation : ExceptT ε (StateM Session) α) fun workspace =>
      .ok (seen workspace) := by
  intro session
  obtain ⟨after, hrun, hsame⟩ := h session
  exact ⟨after, run_liftM hrun, hsame⟩

theorem sees_note (event : Event) :
    Sees (Console.note event : ExceptT ε (StateM Session) Unit) fun _ => .ok () :=
  fun session => ⟨{ session with events := event :: session.events }, rfl, rfl, rfl⟩

theorem exists_run_note (event : Event) (session : Session) :
    ∃ after, Console.note (m := ExceptT ε (StateM Session)) event session = (.ok (), after) ∧
      after.workspace = session.workspace := (sees_note event).exists_run rfl

theorem Sees.bindExcept (h : Sees action view) (hnext : ∀ a, Sees (next a) (views a)) :
    Sees (action >>= next : ExceptT ε (StateM Session) β)
      fun workspace => (view workspace).bind fun a => views a workspace := by
  intro session
  obtain ⟨middle, hfirst, hsame, hprinted⟩ := h session
  cases hview : view session.workspace with
  | error error =>
    rw [hview] at hfirst
    refine ⟨middle, ?_, hsame, hprinted⟩
    simp only [run_bind_error hfirst, hview, Except.bind]
  | ok a =>
    rw [hview] at hfirst
    obtain ⟨after, hsecond, hsame', hprinted'⟩ := hnext a middle
    refine ⟨after, ?_, hsame'.trans hsame, hprinted'.trans hprinted⟩
    simp only [run_bind_ok hfirst, hsecond, hsame, hview, Except.bind]

theorem OnlyLooks.bindExcept (h : OnlyLooks action) (hnext : ∀ a, OnlyLooks (next a)) :
    OnlyLooks (action >>= next : ExceptT ε (StateM Session) β) :=
      (Sees.bindExcept h hnext).onlyLooks

end

theorem Sees.onFile {operation : StateM Session (Except FileFault α)}
    {view : Workspace → Except FileFault α}
    (h : Sees operation view) (path : Path) :
    Sees (GrammarBrew.onFile path operation) fun workspace =>
      (view workspace).mapError (RecipeError.files path) := by
  intro session
  obtain ⟨after, hrun, hsame⟩ := h session
  refine ⟨after, ?_, hsame⟩
  cases hview : view session.workspace with
  | error fault =>
    rw [hview] at hrun
    simp only [run_onFile_error hrun, hview]
    rfl
  | ok a =>
    rw [hview] at hrun
    simp only [run_onFile_ok hrun, hview]
    rfl

theorem sees_forM {action : α → ExceptT ε (StateM Session) PUnit}
    (h : ∀ a, Sees (action a) fun _ => .ok ())
    (list : List α) : Sees (list.forM action : ExceptT ε (StateM Session) PUnit)
      fun _ => .ok () := by
  induction list with
  | nil => exact sees_return ()
  | cons a list ih => exact (h a).bindExcept fun _ => ih

end GrammarBrew.Session
