import CodeAudit.Clone.Detector
import CodeAudit.Clone.Digest
import CodeAudit.Clone.Group
import CodeAudit.Clone.Interval
import CodeAudit.Clone.Search
import CodeAudit.Clone.Span
import CodeAudit.Command.Arguments
import CodeAudit.Command.Run
import CodeAudit.Config.Basic
import CodeAudit.Config.Discovery
import CodeAudit.Config.Document
import CodeAudit.Digest.Blake3
import CodeAudit.Engine.Analysis
import CodeAudit.Engine.Basic
import CodeAudit.Engine.Call
import CodeAudit.Engine.Scan
import CodeAudit.File.Name
import CodeAudit.File.System
import CodeAudit.File.Tree
import CodeAudit.File.Walk
import CodeAudit.Finding.Basic
import CodeAudit.Finding.Properties
import CodeAudit.Finding.Severity
import CodeAudit.Fingerprint
import CodeAudit.Glob.Basic
import CodeAudit.Glob.Matching
import CodeAudit.Language
import CodeAudit.Main
import CodeAudit.Path
import CodeAudit.Proofs.Clone.CheckedReport
import CodeAudit.Proofs.Clone.ClosedPart
import CodeAudit.Proofs.Clone.Diagonal
import CodeAudit.Proofs.Clone.DroppedGroups
import CodeAudit.Proofs.Clone.FirstFit
import CodeAudit.Proofs.Clone.Guarantees
import CodeAudit.Proofs.Clone.Ingestion
import CodeAudit.Proofs.Clone.IntervalUnion
import CodeAudit.Proofs.Clone.KeptGroups
import CodeAudit.Proofs.Clone.MaximalSpan
import CodeAudit.Proofs.Clone.MostCopies
import CodeAudit.Proofs.Clone.Nesting
import CodeAudit.Proofs.Clone.Occurrence
import CodeAudit.Proofs.Clone.Rearrangement
import CodeAudit.Proofs.Clone.Reporting
import CodeAudit.Proofs.Clone.Search
import CodeAudit.Proofs.Clone.SearchParameters
import CodeAudit.Proofs.Clone.Separation
import CodeAudit.Proofs.Clone.SortingOrder
import CodeAudit.Proofs.Clone.SourceOrder
import CodeAudit.Proofs.Clone.StatementHash
import CodeAudit.Proofs.Clone.UnitRuns
import CodeAudit.Proofs.Clone.WholeGroups
import CodeAudit.Proofs.Clone.WholeUnits
import CodeAudit.Proofs.Clone.Window
import CodeAudit.Proofs.Command.ExitCode
import CodeAudit.Proofs.Config.ConfiguredRules
import CodeAudit.Proofs.Config.DuplicationIdentifier
import CodeAudit.Proofs.Config.RegistryOutcome
import CodeAudit.Proofs.Config.Validity
import CodeAudit.Proofs.Engine.Calls
import CodeAudit.Proofs.Engine.Draining
import CodeAudit.Proofs.Engine.Isolation
import CodeAudit.Proofs.Engine.Laziness
import CodeAudit.Proofs.Engine.Totals
import CodeAudit.Proofs.File.DirectoryUnits
import CodeAudit.Proofs.File.Names
import CodeAudit.Proofs.OrderedList
import CodeAudit.Proofs.Report.JsonGrammar
import CodeAudit.Proofs.Report.JsonReading
import CodeAudit.Proofs.Report.Recovery
import CodeAudit.Proofs.Rule.LiteralGrammar
import CodeAudit.Proofs.Rule.Registration
import CodeAudit.Proofs.Rule.RegistrationRuns
import CodeAudit.Proofs.Source.Placement
import CodeAudit.Proofs.Source.RoutineOrder
import CodeAudit.Proofs.Source.TokenLeaves
import CodeAudit.Proofs.Source.TokenTraversal
import CodeAudit.Proofs.StableSort
import CodeAudit.Proofs.Text.Layout
import CodeAudit.Regex.Basic
import CodeAudit.Regex.Class
import CodeAudit.Regex.Escape
import CodeAudit.Regex.Flags
import CodeAudit.Regex.Program
import CodeAudit.Regex.Reader
import CodeAudit.Report.Basic
import CodeAudit.Report.Json
import CodeAudit.Report.Style
import CodeAudit.Rule.Basic
import CodeAudit.Rule.Literal
import CodeAudit.Rule.LongRoutine
import CodeAudit.Rule.Parameters
import CodeAudit.Rule.Pattern
import CodeAudit.Rule.Registrar
import CodeAudit.Rule.Registry
import CodeAudit.Source.Routine
import CodeAudit.Source.Token
import CodeAudit.Source.Tree
import CodeAudit.Source.Unit
import CodeAudit.Text.Blank
import CodeAudit.Text.Lines
import CodeAudit.Text.NormalForm
import CodeAudit.Text.Quoted
import CodeAudit.Unicode.Age
import CodeAudit.Unicode.Break
import CodeAudit.Unicode.CaseFold
import CodeAudit.Unicode.Category
import CodeAudit.Unicode.CodeSet
import CodeAudit.Unicode.Property
import CodeAudit.Unicode.Script
import CodeAudit.Yaml.Cursor
import CodeAudit.Yaml.Document
import CodeAudit.Yaml.Node
import CodeAudit.Yaml.Reading
import CodeAudit.Yaml.Scalar
import CodeAudit.Yaml.Token
