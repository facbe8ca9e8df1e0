import LedgerRules.Text.Case
import LedgerRules.Value.Shown
import LedgerRules.Value.Equality
import LedgerRules.Pattern.Engine
import LedgerRules.Pattern.Matcher
import LedgerRules.Pattern.Parser
import LedgerRules.Pattern.Builtin
import LedgerRules.Condition.Parser
import LedgerRules.Condition.Diagnosis
import LedgerRules.Condition.Eval
import LedgerRules.Rule.Definition
import LedgerRules.Tree.Compile
import LedgerRules.Record.Transaction
import LedgerRules.Rule.Basic
import LedgerRules.Rule.Report
import LedgerRules.Cache.Basic
import LedgerRules.Rule.Subject
import LedgerRules.Rule.Match
import LedgerRules.Rule.Check
import LedgerRules.Rule.Reapply
import LedgerRules.Text.Integer
import LedgerRules.Settings
import LedgerRules.Logging.Level
import LedgerRules.Logging.Layout
import LedgerRules.Logging.Setup
import LedgerRules.ParallelMap
import LedgerRules.Json.Parser
import LedgerRules.Store.Memory
import LedgerRules.Store.Database
import LedgerRules.Store.Url
import LedgerRules.Record.Id
import LedgerRules.CommandLine.EnvFile
import LedgerRules.CommandLine.Arguments
import LedgerRules.CommandLine.Directory
import LedgerRules.CommandLine.DataFile
import LedgerRules.CommandLine.Run
import LedgerRules.Store.Archive
import LedgerRules.Main
import LedgerRules.Proofs.Scanning
import LedgerRules.Proofs.Grammar
import LedgerRules.Proofs.Readers
import LedgerRules.Proofs.ParserSoundness
import LedgerRules.Proofs.ParserCompleteness
import LedgerRules.Proofs.Snags
import LedgerRules.Proofs.ConditionGrammar
import LedgerRules.Proofs.JsonText
import LedgerRules.Proofs.Documents
import LedgerRules.Proofs.TreeKeys
import LedgerRules.Proofs.CacheContents
import LedgerRules.Proofs.CacheTransparency
import LedgerRules.Proofs.FirstMatch
import LedgerRules.Proofs.Breakdowns
import LedgerRules.Proofs.BrokenRules
import LedgerRules.Proofs.BuiltTrees
import LedgerRules.Proofs.Typing
import LedgerRules.Proofs.Authoring
import LedgerRules.Proofs.FieldsRead
import LedgerRules.Proofs.RepeatedPasses
import LedgerRules.Proofs.DecimalValue
import LedgerRules.Proofs.Spelling
import LedgerRules.Proofs.AlikeExpressions
import LedgerRules.Proofs.Rendering
import LedgerRules.Proofs.TreeText
import LedgerRules.Proofs.EvaluationFaults
import LedgerRules.Cache.Call
import LedgerRules.Rule.Workers
import LedgerRules.Proofs.RuleRequests
import LedgerRules.Proofs.MapProgress
import LedgerRules.Proofs.WorkerSteps
import LedgerRules.Proofs.ParallelPass
import LedgerRules.Proofs.StoreSaving
import LedgerRules.Proofs.StorePasses
import LedgerRules.Proofs.ConcurrentLookups
import LedgerRules.Store.Step
import LedgerRules.Proofs.DatabaseHistory
import LedgerRules.Proofs.AmountDigits
import LedgerRules.Proofs.StoreAgreement
import LedgerRules.Proofs.Numerals
import LedgerRules.Proofs.ShortestDigits
import LedgerRules.Proofs.CivilDates
import LedgerRules.Proofs.JsonReading
import LedgerRules.Proofs.JsonSpread
import LedgerRules.Proofs.DataFiles
import LedgerRules.Proofs.AddedRules
import LedgerRules.Proofs.ComposedRules
import LedgerRules.Proofs.TimeLimits
import LedgerRules.Proofs.AmountColumn
import LedgerRules.Proofs.JoinedRuns
import LedgerRules.Proofs.NumberOrder
import LedgerRules.Proofs.Comparisons
import LedgerRules.Proofs.ValueEquality
import LedgerRules.Proofs.Tiling
import LedgerRules.Proofs.FieldComparisons
import LedgerRules.Proofs.TextLiterals
import LedgerRules.Proofs.NumberLiterals
import LedgerRules.Proofs.Layout
import LedgerRules.Proofs.PairedReadings
import LedgerRules.Proofs.NestedGroups
import LedgerRules.Proofs.LayoutFreedom
import LedgerRules.Proofs.FaultPlaces
import LedgerRules.Proofs.PatternSpellings
import LedgerRules.Proofs.CanonicalKeys
import LedgerRules.Proofs.CacheAccounts
import LedgerRules.Proofs.RuleCategories
import LedgerRules.Proofs.DayCount
import LedgerRules.Proofs.Weeks
import LedgerRules.Proofs.IsoTexts
import LedgerRules.Proofs.Instants
import LedgerRules.Proofs.MapRuns
import LedgerRules.Proofs.EvaluationDepth
import LedgerRules.Proofs.BinaryRange
import LedgerRules.Proofs.IntegerTexts
import LedgerRules.Proofs.Surroundings
import LedgerRules.Proofs.Loading
import LedgerRules.Proofs.Placeholders
import LedgerRules.Proofs.LoggingCalls
