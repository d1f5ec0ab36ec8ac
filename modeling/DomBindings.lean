import DomBindings.Calendar
import DomBindings.CommandLine.Arguments
import DomBindings.CommandLine.Config
import DomBindings.CommandLine.Words
import DomBindings.Declarations.Basic
import DomBindings.Declarations.InterfaceBody
import DomBindings.Declarations.Preamble
import DomBindings.DocComment
import DomBindings.FileSystem.Access
import DomBindings.FileSystem.Path
import DomBindings.FileSystem.Resolve
import DomBindings.FileSystem.Tree
import DomBindings.Formatter.Command
import DomBindings.Formatter.ConfigSearch
import DomBindings.Identifier
import DomBindings.Json
import DomBindings.Main
import DomBindings.Number.Binary64
import DomBindings.Number.Decimal
import DomBindings.Number.Integer
import DomBindings.Program.Discovery
import DomBindings.Program.Fault
import DomBindings.Program.Generation
import DomBindings.Program.Loading
import DomBindings.Program.Run
import DomBindings.Program.Session
import DomBindings.Program.Writing
import DomBindings.Proofs.Acceptance
import DomBindings.Proofs.AccountedTexts
import DomBindings.Proofs.AccountedTokens
import DomBindings.Proofs.BodyReading
import DomBindings.Proofs.ConfigSearch
import DomBindings.Proofs.Configuration
import DomBindings.Proofs.Declarations
import DomBindings.Proofs.DocComment
import DomBindings.Proofs.DocumentFormat
import DomBindings.Proofs.DocumentReading
import DomBindings.Proofs.ElementColumns
import DomBindings.Proofs.ElementDetail
import DomBindings.Proofs.ElementName
import DomBindings.Proofs.ElementSearch
import DomBindings.Proofs.Escaping
import DomBindings.Proofs.Extraction
import DomBindings.Proofs.Factoring
import DomBindings.Proofs.FactoryNames
import DomBindings.Proofs.FormattedOutput
import DomBindings.Proofs.Generation
import DomBindings.Proofs.GenerationCounts
import DomBindings.Proofs.Identifier
import DomBindings.Proofs.InterfaceBody
import DomBindings.Proofs.JsonReading
import DomBindings.Proofs.Layout
import DomBindings.Proofs.Leaves
import DomBindings.Proofs.LevelOrder
import DomBindings.Proofs.LikeTypes
import DomBindings.Proofs.Likeness
import DomBindings.Proofs.Lines
import DomBindings.Proofs.LoadedMappings
import DomBindings.Proofs.LoadedScalars
import DomBindings.Proofs.LoadedTables
import DomBindings.Proofs.Margin
import DomBindings.Proofs.ModuleComments
import DomBindings.Proofs.ModuleParts
import DomBindings.Proofs.Narrowing
import DomBindings.Proofs.NodeNumbers
import DomBindings.Proofs.Outcome
import DomBindings.Proofs.PathResolution
import DomBindings.Proofs.PathWalks
import DomBindings.Proofs.PlainScalars
import DomBindings.Proofs.Preamble
import DomBindings.Proofs.PropertyKeys
import DomBindings.Proofs.Reordering
import DomBindings.Proofs.RepeatedExtraction
import DomBindings.Proofs.Reporting
import DomBindings.Proofs.Resolution
import DomBindings.Proofs.Scanning
import DomBindings.Proofs.SpecGrammar
import DomBindings.Proofs.SpecReading
import DomBindings.Proofs.Table
import DomBindings.Proofs.Traversal
import DomBindings.Proofs.TypeMeaning
import DomBindings.Proofs.TypeReading
import DomBindings.Proofs.Utf8
import DomBindings.Proofs.ValueNames
import DomBindings.Proofs.Writability
import DomBindings.Proofs.Writing
import DomBindings.Report.ElementDetail
import DomBindings.Report.ElementTable
import DomBindings.Report.GenerationSummary
import DomBindings.SchemaError
import DomBindings.Shell.Evaluation
import DomBindings.Shell.Lexeme
import DomBindings.Shell.Printing
import DomBindings.Shell.Runner
import DomBindings.Shell.Script
import DomBindings.Shell.Utility
import DomBindings.Table
import DomBindings.Text.Base64
import DomBindings.Text.Class
import DomBindings.Text.Digit
import DomBindings.Text.Layout
import DomBindings.Text.LetterCase
import DomBindings.Text.Literal
import DomBindings.Text.Printable
import DomBindings.Text.Quoted
import DomBindings.Text.Utf8
import DomBindings.Value.Basic
import DomBindings.Value.Display
import DomBindings.ValueSpec.Basic
import DomBindings.ValueSpec.TypeExpr
import DomBindings.Vocabulary.Basic
import DomBindings.Vocabulary.Extraction
import DomBindings.Vocabulary.Reader
import DomBindings.Yaml.Construction
import DomBindings.Yaml.Cursor
import DomBindings.Yaml.Fault
import DomBindings.Yaml.Lexeme
import DomBindings.Yaml.Node
import DomBindings.Yaml.Scalar
import DomBindings.Yaml.Tag
import DomBindings.Yaml.Token
import DomBindings.Yaml.TokenStream
