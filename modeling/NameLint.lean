import NameLint.Text.Word
import NameLint.Text.Quoted
import NameLint.Text.Case
import NameLint.Text.Identifier
import NameLint.Numeral
import NameLint.Value.Written
import NameLint.Pattern.Compile
import NameLint.Pattern.Search
import NameLint.Tree.Node
import NameLint.Tree.Source
import NameLint.Tree.Assembly
import NameLint.Tree.Walk
import NameLint.Json.Reader
import NameLint.Json.Writer
import NameLint.Name
import NameLint.Report.Digest
import NameLint.Report.Severity
import NameLint.Report.Template
import NameLint.Report.Violation
import NameLint.Report.Context
import NameLint.Yaml.Page
import NameLint.Yaml.Lexing
import NameLint.Yaml.Node
import NameLint.Yaml.Build
import NameLint.Yaml.Load
import NameLint.Text.Path
import NameLint.Log.Record
import NameLint.Log.Directive
import NameLint.Log.Format
import NameLint.Log.Timing
import NameLint.Log.Storage
import NameLint.Log.Session
import NameLint.Config.Settings
import NameLint.Config.Load
import NameLint.Rule.Camelcase
import NameLint.RunSort
import NameLint.Engine.Check
import NameLint.Proofs.Preorder
import NameLint.Proofs.StableSort
import NameLint.Proofs.SortedRuns
import NameLint.Proofs.RunMerges
import NameLint.Proofs.StableRuns
import NameLint.Proofs.Places
import NameLint.Proofs.RuleIsolation
import NameLint.Proofs.Templates
import NameLint.Proofs.Findings
import NameLint.Proofs.ClosingOrder
import NameLint.Proofs.Conversion
import NameLint.Proofs.Parts
import NameLint.Proofs.StackConversion
import NameLint.Proofs.Retained
import NameLint.Proofs.LintResult
import NameLint.Proofs.SharedNodes
import NameLint.Proofs.TreeFindings
import NameLint.Proofs.Defaults
import NameLint.Proofs.Exemptions
import NameLint.Proofs.ViolationIds
import NameLint.Proofs.TypedTrees
import NameLint.Proofs.QuietRuns
import NameLint.Proofs.ConfigFiles
import NameLint.Proofs.Numerals
import NameLint.Proofs.RunLog
import NameLint.Proofs.Bookkeeping
import NameLint.Proofs.Spellings
import NameLint.Proofs.PropertyDecision
import NameLint.Proofs.IdentifierRule
import NameLint.Proofs.ShortestDecimals
import NameLint.Proofs.NumericKeys
import NameLint.Proofs.ReportHistory
import NameLint.Proofs.OptionChecks
import NameLint.Proofs.ConfigAcceptance
import NameLint.Proofs.TemplateScan
import NameLint.Proofs.WalkPaths
import NameLint.Proofs.LoggerRegistry
import NameLint.Proofs.CarriedTrees
import NameLint.Proofs.MovedTrees
import NameLint.Proofs.MovedFindings
import NameLint.Proofs.NameGrammar
import NameLint.Proofs.PatternRuns
import NameLint.Proofs.EdgeUnderscores
import NameLint.Proofs.PrivateTags
import NameLint.Proofs.KeptIds
import NameLint.Proofs.EqualKeys
import NameLint.Proofs.MergedPaths
import NameLint.Proofs.Recognizers
