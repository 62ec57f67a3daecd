import TreeLint.Dump.Writer
import TreeLint.Main
import TreeLint.Proofs.Fields
import TreeLint.Proofs.Walk
import TreeLint.Proofs.FirstOccurrences
import TreeLint.Proofs.Logged
import TreeLint.Proofs.Sink
import TreeLint.Proofs.SinkRun
import TreeLint.Proofs.Emission
import TreeLint.Proofs.Conditions
import TreeLint.Proofs.Settings
import TreeLint.Proofs.Gate
import TreeLint.Proofs.StableSort
import TreeLint.Proofs.PostFilter
import TreeLint.Proofs.Reports
import TreeLint.Proofs.DumpWriting
import TreeLint.Proofs.DumpKeys
import TreeLint.Proofs.DumpFormat
import TreeLint.Proofs.Findings
import TreeLint.Proofs.Isolation
import TreeLint.Proofs.Unwinding
import TreeLint.Proofs.Sites
import TreeLint.Proofs.DefinitionIds
import TreeLint.Proofs.Faults
import TreeLint.Proofs.Registration
import TreeLint.Proofs.SpanGraph
import TreeLint.Proofs.FileTrees
import TreeLint.Proofs.Loading
import TreeLint.Proofs.Runs
import TreeLint.Proofs.Consultations
import TreeLint.Proofs.DumpPositions
import TreeLint.Proofs.KindChecks
import TreeLint.Proofs.Problems
import TreeLint.Proofs.MissingTypes
import TreeLint.Proofs.DumpErrors
import TreeLint.Proofs.FileInheritance
import TreeLint.Proofs.Orders
import TreeLint.Proofs.Ranking
import TreeLint.Proofs.Discovery
import TreeLint.Proofs.Backends
