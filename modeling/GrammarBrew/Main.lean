import GrammarBrew.Command.Elapsed
import GrammarBrew.Command.Run

/-!
The program `chef`: the files and the streams of the system behind the operations that a run needs.
-/

set_option autoImplicit false
set_option relaxedAutoImplicit false

namespace GrammarBrew.Program

structure Surroundings where
  filter : Filter
  started : Nat

abbrev Run := ReaderT Surroundings IO

def string (text : Text) : String := String.ofList text

/-- The fault that the system numbers so, or by the negative of the number. -/
def numberedFault (code : UInt32) (details : String) : FileFault :=
  let number := if Nat.pow 2 31 ≤ code.toNat then Nat.pow 2 32 - code.toNat else code.toNat
  let known : List (Nat × FileFault) := [(2, .notFound), (20, .notADirectory), (21, .isADirectory),
    (17, .alreadyExists), (40, .tooManyLinks), (36, .nameTooLong)]
  (known.lookup number).getD (.other (FileFault.numbered details number))

def faultOf (error : IO.Error) : FileFault :=
  match error with
  | .alreadyExists _ number details => numberedFault number details
  | .noFileOrDirectory _ number details => numberedFault number details
  | .inappropriateType _ number details => numberedFault number details
  | .permissionDenied _ number details => numberedFault number details
  | .resourceExhausted _ number details => numberedFault number details
  | .invalidArgument _ number details => numberedFault number details
  | .noSuchThing _ number details => numberedFault number details
  | .otherError number details => numberedFault number details
  | .resourceBusy number details => numberedFault number details
  | .unsupportedOperation number details => numberedFault number details
  | .unsatisfiedConstraints number details => numberedFault number details
  | .hardwareFault number details => numberedFault number details
  | .illegalOperation number details => numberedFault number details
  | _ => .other (toString error).toList

def attempt {α : Type} (operation : IO α) : Run (Except FileFault α) := do
  match ← operation.toBaseIO with
  | .ok value => return .ok value
  | .error error => return .error (faultOf error)

def place (path : Path) := (IO.FS.DirEntry.mk (string path.display) "").root

def leadsTo (kind : IO.FS.FileType → Bool) (path : Path) : Run Bool := do
  match ← attempt (place path).metadata with
  | .ok metadata => return kind metadata.type
  | .error _ => return false

/-- The names of the entries that are regular files themselves. -/
def regularNames (entries : Array IO.FS.DirEntry) : IO (List Bytes) := do
  let regular ← entries.toList.filterM fun entry => do
    match (← entry.path.symlinkMetadata).type with
    | .file => return true
    | _ => return false
  return regular.map fun entry => Text.encode entry.fileName.toList

instance : FileAccess Run where
  regularFiles path := attempt do regularNames (← (place path).readDir)
  modified path := attempt do
    let time := (← (place path).metadata).modified
    return time.sec * 1000000000 + time.nsec.toNat
  isRegular := leadsTo fun type => match type with
    | .file => true
    | _ => false
  read path := attempt do return (← IO.FS.readBinFile (place path)).toList
  isDirectory := leadsTo fun type => match type with
    | .dir => true
    | _ => false
  makeDirectory path := attempt (IO.FS.createDir (place path))
  write path content := attempt (IO.FS.writeBinFile (place path) ⟨content.toArray⟩)

instance : Console Run where
  print text := do (← IO.getStdout).putStr (string text)
  note event := do
    if (← read).filter.admits event then (← IO.getStderr).putStrLn (string event.line)
  elapsed := do
    let now ← IO.monoNanosNow
    return Elapsed.text (now - (← read).started)

/-- The variable of the environment that a filter may stand in. -/
def filterVariable : String := "RUST_LOG"

/-- Follow what arguments ask for, and give the exit status. -/
def follow (request : Request) : IO UInt32 := do
  let text? := (← IO.getEnv filterVariable).map String.toList
  let started ← IO.monoNanosNow
  let status ← (request.follow : Run Nat).run ⟨request.filter text?, started⟩
  return status.toUInt32

end GrammarBrew.Program

open GrammarBrew in
def main (arguments : List String) : IO UInt32 := do
  let request := Request.ofArguments (arguments.map String.toList)
  if request = .misuse then (← IO.getStderr).putStr (Program.string usage)
  Program.follow request
