import GrammarBrew.Console
import GrammarBrew.Files.Access
import GrammarBrew.Files.Workspace

/-!
A run on a tree of files held in memory: the workspace as it changes, and what has been printed and
told.
-/

set_option autoImplicit false
set_option relaxedAutoImplicit false

namespace GrammarBrew

/-- A workspace with all that a run has told so far. -/
structure Session where
  workspace : Workspace
  printed : List Text := []
  events : List Event := []
  elapsed : Text := []

namespace Session

def inspect {α : Type} (view : Workspace → α) : StateM Session α := fun session =>
  (view session.workspace, session)

def change {α : Type} (step : Workspace → α × Workspace) : StateM Session α := fun session =>
  let done := step session.workspace
  (done.1, { session with workspace := done.2 })

def output (session : Session) : Text := session.printed.reverse.flatten

def told (session : Session) : List Event := session.events.reverse

end Session

instance : FileAccess (StateM Session) where
  regularFiles path := Session.inspect (Workspace.regularFiles · path)
  modified path := Session.inspect (Workspace.modified · path)
  isRegular path := Session.inspect (Workspace.isRegular · path)
  read path := Session.inspect (Workspace.read · path)
  isDirectory path := Session.inspect (Workspace.isDirectory · path)
  makeDirectory path := Session.change (Workspace.makeDirectory · path)
  write path content := Session.change (Workspace.write · path content)

instance : Console (StateM Session) where
  print text := fun session => ((), { session with printed := text :: session.printed })
  note event := fun session => ((), { session with events := event :: session.events })
  elapsed := fun session => (session.elapsed, session)

end GrammarBrew
