import GoMetrics.Main
import GoMetrics.Proofs.SymbolCount
import GoMetrics.Proofs.Draft.Success
import GoMetrics.Proofs.Draft.Exprs
import GoMetrics.Proofs.Draft.Stmts
import GoMetrics.Proofs.Lexical.Basic
import GoMetrics.Proofs.Binding.Flat
import GoMetrics.Proofs.Binding.Simulation
import GoMetrics.Proofs.Lexical.Reads
import GoMetrics.Proofs.Lexical.Exprs
import GoMetrics.Proofs.Lexical.Stmts
import GoMetrics.Proofs.Lexical.File
import GoMetrics.Proofs.Lexical.Visibility
import GoMetrics.Proofs.FilePass
import GoMetrics.Proofs.Decisions
import GoMetrics.Proofs.Erasure
import GoMetrics.Proofs.Binding.Erasure
import GoMetrics.Proofs.Alike.Tree
import GoMetrics.Proofs.Alike.Matches
import GoMetrics.Proofs.Alike.Exprs
import GoMetrics.Proofs.Alike.Stmts
import GoMetrics.Proofs.Alike.File
import GoMetrics.Proofs.Comments
import GoMetrics.Proofs.Surroundings
import GoMetrics.Proofs.Outcome
import GoMetrics.Proofs.Report.Package
import GoMetrics.Proofs.Report.Run
import GoMetrics.Proofs.Loading.Grouping
import GoMetrics.Proofs.Loading.Directory
import GoMetrics.Proofs.Report.Targets
import GoMetrics.Proofs.Path
import GoMetrics.Proofs.FileTree
import GoMetrics.Proofs.Module
import GoMetrics.Proofs.ImportPaths
import GoMetrics.Proofs.Discovery.Walk
import GoMetrics.Proofs.Discovery.Packages
import GoMetrics.Proofs.Discovery.Reached
import GoMetrics.Proofs.Discovery.Recursive
import GoMetrics.Proofs.Displacement
import GoMetrics.Proofs.TypeCases
import GoMetrics.Proofs.Binding.Answers
import GoMetrics.Proofs.Signatures
import GoMetrics.Proofs.ValueSpecs
import GoMetrics.Proofs.BlankIdentifier
import GoMetrics.Proofs.Receivers
import GoMetrics.Proofs.Report.Rows
import GoMetrics.Proofs.Report.Modes
import GoMetrics.Proofs.Report.Partial
import GoMetrics.Proofs.Report.Records
import GoMetrics.Proofs.Coupling
import GoMetrics.Proofs.Settings.Layers
import GoMetrics.Proofs.Settings.Sources
import GoMetrics.Proofs.Settings.Precedence
import GoMetrics.Proofs.Lexical.Inside
import GoMetrics.Proofs.Unruled
import GoMetrics.Proofs.Double
import GoMetrics.Proofs.FunctionMeasures
import GoMetrics.Proofs.LiteralKeys
import GoMetrics.Proofs.Jumps.Table
import GoMetrics.Proofs.Jumps.Exprs
import GoMetrics.Proofs.Jumps.Stmts
import GoMetrics.Proofs.Jumps.Routes
import GoMetrics.Proofs.Binding.Places
import GoMetrics.Proofs.BranchLabels
import GoMetrics.Proofs.Ledger
import GoMetrics.Proofs.Positions
import GoMetrics.Proofs.ScopeChain
import GoMetrics.Proofs.Report.Mismatch
import GoMetrics.Proofs.Settings.Types
import GoMetrics.Proofs.Refusals.File
