import Remedy.Cli.App
import Remedy.Cli.Arguments
import Remedy.Cli.Help
import Remedy.Cli.Suggest
import Remedy.Code.FunctionTable
import Remedy.Code.Header
import Remedy.Code.Lexer
import Remedy.Data
import Remedy.Data.Json
import Remedy.Data.Number
import Remedy.Digest
import Remedy.Disk
import Remedy.Disk.Replace
import Remedy.Disk.Upward
import Remedy.Glob
import Remedy.Glob.Braces
import Remedy.Glob.Class
import Remedy.Glob.Group
import Remedy.Glob.Part
import Remedy.Instant
import Remedy.Log
import Remedy.Main
import Remedy.Patch.Apply
import Remedy.Patch.Locator
import Remedy.Patch.Source
import Remedy.Patch.Spec
import Remedy.Path
import Remedy.Pattern.Class
import Remedy.Pattern.Escape
import Remedy.Pattern.Fault
import Remedy.Pattern.Matcher
import Remedy.Pattern.Reach
import Remedy.Pattern.Reader
import Remedy.Pattern.Syntax
import Remedy.Plan
import Remedy.Plan.Check
import Remedy.Plan.Checked
import Remedy.Plan.Issue
import Remedy.Plan.Load
import Remedy.Plan.Starter
import Remedy.Plan.StarterFile
import Remedy.Probe
import Remedy.Proofs.AbsentMarkers
import Remedy.Proofs.Accounting
import Remedy.Proofs.AllOrNone
import Remedy.Proofs.Anchors
import Remedy.Proofs.Atomicity
import Remedy.Proofs.BlockComments
import Remedy.Proofs.BytePatches
import Remedy.Proofs.Calls
import Remedy.Proofs.CodeOrder
import Remedy.Proofs.Confinement
import Remedy.Proofs.CrlfHeaders
import Remedy.Proofs.CrlfMarkers
import Remedy.Proofs.CrlfPatches
import Remedy.Proofs.CrlfSignatures
import Remedy.Proofs.CrlfTables
import Remedy.Proofs.CrlfTexts
import Remedy.Proofs.DryRuns
import Remedy.Proofs.FileNames
import Remedy.Proofs.FileSteps
import Remedy.Proofs.FindingTables
import Remedy.Proofs.FunctionTables
import Remedy.Proofs.HeaderGrammar
import Remedy.Proofs.HeaderLines
import Remedy.Proofs.JoinedScans
import Remedy.Proofs.Labels
import Remedy.Proofs.LineEndings
import Remedy.Proofs.LineViews
import Remedy.Proofs.Lines
import Remedy.Proofs.Lists
import Remedy.Proofs.Locality
import Remedy.Proofs.Locate
import Remedy.Proofs.MatchingBraces
import Remedy.Proofs.Outcomes
import Remedy.Proofs.PatchSets
import Remedy.Proofs.Patching
import Remedy.Proofs.Paths
import Remedy.Proofs.PatternMatches
import Remedy.Proofs.Pieces
import Remedy.Proofs.PlanChains
import Remedy.Proofs.PlanGrouping
import Remedy.Proofs.PlanLoading
import Remedy.Proofs.PlanMerging
import Remedy.Proofs.PlanReading
import Remedy.Proofs.PlanRereading
import Remedy.Proofs.PlanValidity
import Remedy.Proofs.Products
import Remedy.Proofs.ReadingModes
import Remedy.Proofs.Reapplication
import Remedy.Proofs.Replacement
import Remedy.Proofs.ReportedLines
import Remedy.Proofs.Runs
import Remedy.Proofs.Search
import Remedy.Proofs.SeparatePatches
import Remedy.Proofs.Signatures
import Remedy.Proofs.SizeArithmetic
import Remedy.Proofs.SourceCodec
import Remedy.Proofs.StatusLines
import Remedy.Proofs.Texts
import Remedy.Proofs.Trees
import Remedy.Proofs.Utf8Codec
import Remedy.Proofs.Walks
import Remedy.Proofs.WellFormedPatches
import Remedy.Proofs.Words
import Remedy.Remediation
import Remedy.Remediation.Status
import Remedy.Report.Markdown
import Remedy.Report.Output
import Remedy.Report.Scan
import Remedy.Scan.Finding
import Remedy.Scan.Rule
import Remedy.Scan.Scanner
import Remedy.Scan.Stats
import Remedy.Scan.TreeScan
import Remedy.Scan.Walk
import Remedy.Text
import Remedy.Text.Lines
import Remedy.Text.Quoted
import Remedy.Text.Search
import Remedy.Text.Utf8
import Remedy.Tree
import Remedy.Unicode.BinaryProperty
import Remedy.Unicode.Case
import Remedy.Unicode.Category
import Remedy.Unicode.Property
import Remedy.Unicode.Ranges
import Remedy.Unicode.Script
import Remedy.Unicode.StringProperty
import Remedy.Yaml
import Remedy.Yaml.Cursor
import Remedy.Yaml.Date
import Remedy.Yaml.Node
import Remedy.Yaml.Scalar
import Remedy.Yaml.Tag
import Remedy.Yaml.Unit
import Remedy.Yaml.Value
