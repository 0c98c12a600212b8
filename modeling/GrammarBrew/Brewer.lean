import GrammarBrew.Document
import GrammarBrew.Expander
import GrammarBrew.MacroTable.Section

/-!
Brewing a document: cut off its macro section, read the table, and expand the rules until no macro
name is left. The result stands alone, under a header line that marks it as generated.
-/

set_option autoImplicit false
set_option relaxedAutoImplicit false

namespace GrammarBrew

structure BrewOptions where
  separator : Text := "// InjectedTokens".toList
  header : Text := "// AUTO-GENERATED FILE - DO NOT EDIT".toList
  matching : MatchMode := .wordBoundary
  extraIterations : Nat := defaultExtraIterations
  deriving DecidableEq, Repr

structure Brew where
  body : Text
  table : MacroTable
  passes : Nat

namespace BrewOptions

/-- The macro table of a document; without a macro section it is empty. -/
def tableOf (options : BrewOptions) (document : Text) : Except BrewError MacroTable :=
  match (Document.split options.separator document).declarations? with
  | some declarations => MacroTable.parse declarations
  | none => .ok MacroTable.empty

/-- Brew a document. Without a macro section it is its own result. -/
def brew (options : BrewOptions) (document : Text) : Except BrewError Brew :=
  let split := Document.split options.separator document
  match split.declarations? with
  | none => .ok ⟨document, MacroTable.empty, 0⟩
  | some declarations =>
    match MacroTable.parse declarations with
    | .error e => .error e
    | .ok table =>
      match Expander.ofTable options.matching options.extraIterations table with
      | .error e => .error e
      | .ok expander => (expander.expand split.body).map fun e => ⟨e.text, table, e.passes⟩

def withHeader (options : BrewOptions) (body : Text) : Text := options.header ++ '\n' :: body

/-- The whole generated grammar of a document, header included. -/
def render (options : BrewOptions) (document : Text) : Except BrewError Text :=
  (options.brew document).map fun brew => options.withHeader brew.body

/-- The passes that replace something while a document is brewed. -/
def passes (options : BrewOptions) (document : Text) : List Pass :=
  let split := Document.split options.separator document
  match split.declarations? with
  | none => []
  | some declarations =>
    match MacroTable.parse declarations with
    | .error _ => []
    | .ok table =>
      match Expander.ofTable options.matching options.extraIterations table with
      | .error _ => []
      | .ok expander => expander.passes split.body

end BrewOptions

end GrammarBrew
