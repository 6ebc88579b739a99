import HeaderBindings.Batch.Config
import HeaderBindings.Batch.File
import HeaderBindings.Batch.Groups
import HeaderBindings.Check
import HeaderBindings.CommandLine.Command
import HeaderBindings.CommandLine.Options
import HeaderBindings.Diagnostic
import HeaderBindings.Error
import HeaderBindings.Extraction
import HeaderBindings.FileTree.Basic
import HeaderBindings.FileTree.Operations
import HeaderBindings.FileTree.Place
import HeaderBindings.Frontend
import HeaderBindings.Interface
import HeaderBindings.Listing
import HeaderBindings.Main
import HeaderBindings.Native.Declarations
import HeaderBindings.Native.Types
import HeaderBindings.Path
import HeaderBindings.Pattern
import HeaderBindings.Pattern.Bracket
import HeaderBindings.Pattern.CharSet
import HeaderBindings.Pattern.Escape
import HeaderBindings.Pattern.Expr
import HeaderBindings.Pattern.Machine
import HeaderBindings.Pattern.Parser
import HeaderBindings.Pattern.Property
import HeaderBindings.Program.Progress
import HeaderBindings.Program.Run
import HeaderBindings.Program.Writing
import HeaderBindings.Reason
import HeaderBindings.Registry
import HeaderBindings.Schema.Class
import HeaderBindings.Schema.File
import HeaderBindings.Schema.Json
import HeaderBindings.Schema.Number
import HeaderBindings.Schema.Reader
import HeaderBindings.Schema.Record
import HeaderBindings.Schema.Skip
import HeaderBindings.SearchList
import HeaderBindings.Survey.Basic
import HeaderBindings.Survey.Extract
import HeaderBindings.Target.Conversion
import HeaderBindings.Target.Naming
import HeaderBindings.Target.Primitive
import HeaderBindings.Text.Blank
import HeaderBindings.Text.Category
import HeaderBindings.Text.LetterCase
import HeaderBindings.Text.Quoted
import HeaderBindings.Text.Search
import HeaderBindings.Text.Utf8
import HeaderBindings.Toml.Basic
import HeaderBindings.Toml.Number
import HeaderBindings.Toml.Parser
import HeaderBindings.Toml.Text
import HeaderBindings.Toolchain
import HeaderBindings.Walk
import HeaderBindings.Proofs.WalkReach
import HeaderBindings.Proofs.Calls
import HeaderBindings.Proofs.ExactExtraction
import HeaderBindings.Proofs.TreeGrowth
import HeaderBindings.Proofs.SchemaRoundTrip
import HeaderBindings.Proofs.CaseForms
import HeaderBindings.Proofs.OutputPaths
import HeaderBindings.Proofs.SoleRecords
import HeaderBindings.Proofs.WalkClosure
import HeaderBindings.Proofs.SharedRuns
import HeaderBindings.Proofs.BatchAgreement
import HeaderBindings.Proofs.DistinctClasses
import HeaderBindings.Proofs.RegistryGrowth
import HeaderBindings.Proofs.SingleParse
import HeaderBindings.Proofs.FailedWalks
import HeaderBindings.Proofs.CutSchemas
import HeaderBindings.Proofs.IncludeOrder
import HeaderBindings.Proofs.ExtractCommand
import HeaderBindings.Proofs.ListedClasses
import HeaderBindings.Proofs.BatchEntries
import HeaderBindings.Proofs.WalkDepth
import HeaderBindings.Proofs.OutsideUnits
import HeaderBindings.Proofs.FirstMissing
import HeaderBindings.Proofs.UnresolvedParameters
import HeaderBindings.Proofs.RepeatedReports
import HeaderBindings.Proofs.ListingReports
import HeaderBindings.Proofs.ResultNames
import HeaderBindings.Proofs.HeaderSpellings
import HeaderBindings.Proofs.Occurrences
import HeaderBindings.Proofs.SearchLists
import HeaderBindings.Proofs.TypeNames
import HeaderBindings.Proofs.PlainNames
import HeaderBindings.Proofs.UnmappedNames
import HeaderBindings.Proofs.HeaderGroups
import HeaderBindings.Proofs.VisitKeys
import HeaderBindings.Proofs.SuspiciousArguments
