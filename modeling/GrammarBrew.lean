import GrammarBrew.Brewer
import GrammarBrew.Command.Run
import GrammarBrew.MacroTable.Json
import GrammarBrew.Session
import GrammarBrew.Main
import GrammarBrew.Proofs.Graph.Search
import GrammarBrew.Proofs.Expansion.Pass
import GrammarBrew.Proofs.Expansion.FixedPoint
import GrammarBrew.Proofs.Expansion.Convergence
import GrammarBrew.Proofs.Expansion.Lines
import GrammarBrew.Proofs.Expansion.Allowance
import GrammarBrew.Proofs.Expansion.Circular
import GrammarBrew.Proofs.MacroTable.Layout
import GrammarBrew.Proofs.MacroTable.RoundTrip
import GrammarBrew.Proofs.Files.Workspace
import GrammarBrew.Proofs.Files.Path
import GrammarBrew.Proofs.Lookup
import GrammarBrew.Proofs.Recipe.Version
import GrammarBrew.Proofs.Session
import GrammarBrew.Proofs.Text.Utf8
import GrammarBrew.Proofs.Files.Tree
import GrammarBrew.Proofs.Files.Directories
import GrammarBrew.Proofs.Recipe.Source
import GrammarBrew.Proofs.Recipe.Cook
import GrammarBrew.Proofs.Recipe.Freshness
import GrammarBrew.Proofs.Recipe.FixedSource
import GrammarBrew.Proofs.Expansion.LineBreak
import GrammarBrew.Proofs.Recipe.Effects
import GrammarBrew.Proofs.Command.Preview
import GrammarBrew.Proofs.Expansion.Detection
import GrammarBrew.Proofs.Expansion.WordEdges
import GrammarBrew.Proofs.Recipe.Latest
import GrammarBrew.Proofs.Recipe.WholeNames
import GrammarBrew.Proofs.Config.Precedence
import GrammarBrew.Proofs.Text.Cut
import GrammarBrew.Proofs.Document
import GrammarBrew.Proofs.MacroTable.Composition
import GrammarBrew.Proofs.Expansion.Literal
import GrammarBrew.Proofs.MacroTable.NormalForm
import GrammarBrew.Proofs.MacroTable.History
