import MutationTesting.Json.Writer
import MutationTesting.Mutant.Generation
import MutationTesting.Config.Format
import MutationTesting.Execution.Patch
import MutationTesting.Execution.Classify
import MutationTesting.Outcome.Report
import MutationTesting.Source.Load
import MutationTesting.Config.Storage
import MutationTesting.Scheduler.Run
import MutationTesting.Main
import MutationTesting.Proofs.Scheduler.Move
import MutationTesting.Proofs.Scheduler.Accounting
import MutationTesting.Proofs.Scheduler.Ending
import MutationTesting.Proofs.Mutant.Listing
import MutationTesting.Proofs.Tree.Walk
import MutationTesting.Proofs.Scheduler.Completeness
import MutationTesting.Proofs.Disk.Write
import MutationTesting.Proofs.Scheduler.Driven
import MutationTesting.Proofs.Execution.Preparation
import MutationTesting.Proofs.Execution.Verdict
import MutationTesting.Proofs.Scheduler.Conduct
import MutationTesting.Proofs.Outcome.Order
import MutationTesting.Proofs.Scheduler.Determinism
import MutationTesting.Proofs.Tree.Template
import MutationTesting.Proofs.Tree.Place
import MutationTesting.Proofs.Tree.Body
import MutationTesting.Proofs.Tree.Front
import MutationTesting.Proofs.Operator.Text
import MutationTesting.Proofs.Execution.Splice
import MutationTesting.Proofs.Ordered
import MutationTesting.Proofs.Operator.Registry
import MutationTesting.Proofs.Mutant.Stream
import MutationTesting.Proofs.Mutant.Independence
import MutationTesting.Proofs.Coverage.Relation
import MutationTesting.Proofs.Mutant.Labels
import MutationTesting.Proofs.Operator.Chain
import MutationTesting.Proofs.Tree.Shown
import MutationTesting.Proofs.Tree.Change
import MutationTesting.Proofs.Execution.Patchable
import MutationTesting.Proofs.Execution.Reprint
import MutationTesting.Proofs.Scheduler.Selection
import MutationTesting.Proofs.Mutant.Identity
import MutationTesting.Proofs.Config.Acceptance
import MutationTesting.Proofs.Mutant.Format
import MutationTesting.Proofs.Operator.Removal
import MutationTesting.Proofs.Mutant.Change
import MutationTesting.Proofs.Scheduler.Since
import MutationTesting.Proofs.Scheduler.Engaged
import MutationTesting.Proofs.Scheduler.Progress
import MutationTesting.Proofs.Disk.Outside
import MutationTesting.Proofs.Execution.Lodging
import MutationTesting.Proofs.Scheduler.Workspaces
import MutationTesting.Proofs.Scheduler.Isolation
import MutationTesting.Proofs.Scheduler.Bounds
import MutationTesting.Proofs.Scheduler.Partial
import MutationTesting.Proofs.Disk.Way
import MutationTesting.Proofs.Disk.Keep
import MutationTesting.Proofs.Execution.Places
import MutationTesting.Proofs.Operator.Spine
import MutationTesting.Proofs.Operator.Rechained
import MutationTesting.Proofs.Operator.Bindings
import MutationTesting.Proofs.Operator.Orphans
import MutationTesting.Proofs.Operator.Counting
import MutationTesting.Proofs.Scheduler.Baseline
import MutationTesting.Proofs.Shell.Rendering
import MutationTesting.Proofs.Tree.Grouping
import MutationTesting.Proofs.Tree.Regrouping
import MutationTesting.Proofs.Tree.Replacement
import MutationTesting.Proofs.Tree.Literal
import MutationTesting.Proofs.Tree.Opaque
import MutationTesting.Proofs.Text.Truncation
import MutationTesting.Proofs.Source.Enclosing
import MutationTesting.Proofs.Outcome.Threshold
import MutationTesting.Proofs.Outcome.Grouping
import MutationTesting.Proofs.Operator.Neutral
import MutationTesting.Proofs.Tree.Shape
