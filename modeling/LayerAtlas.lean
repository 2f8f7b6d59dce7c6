import LayerAtlas.Build
import LayerAtlas.Classify.Classification
import LayerAtlas.Classify.MarkerSet
import LayerAtlas.Classify.Placement
import LayerAtlas.Classify.Rule
import LayerAtlas.Classify.RuleBook
import LayerAtlas.Classify.Tables
import LayerAtlas.Classify.TokenPattern
import LayerAtlas.Config.Basic
import LayerAtlas.Config.Layering
import LayerAtlas.Config.Reading
import LayerAtlas.Config.Writing
import LayerAtlas.Dotted
import LayerAtlas.FileTree
import LayerAtlas.Graph.Basic
import LayerAtlas.Graph.Node
import LayerAtlas.Graph.View
import LayerAtlas.Graph.ViewText
import LayerAtlas.ImportRecord
import LayerAtlas.Keyed
import LayerAtlas.Passport.Basic
import LayerAtlas.Passport.Vocabulary
import LayerAtlas.Path
import LayerAtlas.Pattern.Bracket
import LayerAtlas.Pattern.CharSet
import LayerAtlas.Pattern.Lexeme
import LayerAtlas.Pattern.Parser
import LayerAtlas.Pattern.Property
import LayerAtlas.Pattern.Regex
import LayerAtlas.Pattern.Weight
import LayerAtlas.Pipeline
import LayerAtlas.Resolve.ModulePath
import LayerAtlas.Resolve.Origin
import LayerAtlas.Resolve.Registry
import LayerAtlas.RunError
import LayerAtlas.Scan
import LayerAtlas.Shape.Expansion
import LayerAtlas.Shape.Finalization
import LayerAtlas.Shape.Focus
import LayerAtlas.SourceFile
import LayerAtlas.SourceText.Bracketed
import LayerAtlas.SourceText.CasePattern
import LayerAtlas.SourceText.CompoundStatement
import LayerAtlas.SourceText.Cursor
import LayerAtlas.SourceText.Expression
import LayerAtlas.SourceText.ImportStatement
import LayerAtlas.SourceText.Imports
import LayerAtlas.SourceText.Layout
import LayerAtlas.SourceText.Number
import LayerAtlas.SourceText.SimpleStatement
import LayerAtlas.SourceText.StringLiteral
import LayerAtlas.SourceText.Term
import LayerAtlas.SourceText.Tree
import LayerAtlas.SourceText.TypeHint
import LayerAtlas.Text.Blank
import LayerAtlas.Text.CaseFold
import LayerAtlas.Text.Category
import LayerAtlas.Text.CharTable
import LayerAtlas.Text.Identifier
import LayerAtlas.Text.JsonText
import LayerAtlas.Text.Naming
import LayerAtlas.Text.Quoted
import LayerAtlas.Text.Split
import LayerAtlas.Text.Utf8
import LayerAtlas.Toml.Parser
import LayerAtlas.Toml.Quoting
import LayerAtlas.Toml.Scalar
import LayerAtlas.Toml.Value
import LayerAtlas.Violation
import LayerAtlas.Proofs.Keyed
import LayerAtlas.Proofs.Origin
import LayerAtlas.Proofs.ParsePolicy
import LayerAtlas.Proofs.Submodule
import LayerAtlas.Proofs.Expansion.Loop
import LayerAtlas.Proofs.Expansion.Reached
import LayerAtlas.Proofs.Agreement
import LayerAtlas.Proofs.Linking
import LayerAtlas.Proofs.Retention
import LayerAtlas.Proofs.Finalization
import LayerAtlas.Proofs.Classification
import LayerAtlas.Proofs.Run
import LayerAtlas.Proofs.Lifecycle
import LayerAtlas.Proofs.FileOrder
import LayerAtlas.Proofs.Pattern.Closing
import LayerAtlas.Proofs.Pattern.Matching
import LayerAtlas.Proofs.Pattern.ClosedSet
import LayerAtlas.Proofs.Pattern.ClosedSequence
import LayerAtlas.Proofs.Pattern.WholeToken
import LayerAtlas.Proofs.RuleTable
import LayerAtlas.Proofs.RuleChoice
import LayerAtlas.Proofs.BuildResult
import LayerAtlas.Proofs.BrokenFile
import LayerAtlas.Proofs.PassedOver
import LayerAtlas.Proofs.Coherence
import LayerAtlas.Proofs.Renaming
import LayerAtlas.Proofs.Ownership
import LayerAtlas.Proofs.Anchoring
import LayerAtlas.Proofs.Layering
import LayerAtlas.Proofs.Yield
import LayerAtlas.Proofs.RootPrefix
import LayerAtlas.Proofs.ViewEdges
import LayerAtlas.Proofs.ContextSummary
import LayerAtlas.Proofs.ContextCount
import LayerAtlas.Proofs.ContextBorder
import LayerAtlas.Proofs.Pattern.LetterCase
import LayerAtlas.Proofs.StandardBook
import LayerAtlas.Proofs.LetterCase
import LayerAtlas.Proofs.StemLayer
import LayerAtlas.Proofs.ConfigText
import LayerAtlas.Proofs.ClassifyStats
import LayerAtlas.Proofs.AskedContexts
import LayerAtlas.Proofs.Reading.SourceOrder
import LayerAtlas.Proofs.Twins
import LayerAtlas.Proofs.Expansion.Visits
import LayerAtlas.Proofs.NamedLayers
