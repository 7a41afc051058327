import CrashTriage.Settings
import CrashTriage.DistanceMatrix
import CrashTriage.Condense.Basic
import CrashTriage.Thread.Edit
import CrashTriage.Distance
import CrashTriage.Report
import CrashTriage.Proofs.Shard.Equivalence
import CrashTriage.Proofs.Distance.Symmetry
import CrashTriage.Proofs.Distance.Identity
import CrashTriage.Proofs.Distance.AfterPairing
import CrashTriage.Proofs.Metric.EditTable
import CrashTriage.Proofs.Metric.Alignments
import CrashTriage.Proofs.Settings.Runs
import CrashTriage.Proofs.Matrix.Writes
import CrashTriage.Proofs.Grid.RowMajor
import CrashTriage.Proofs.Shard.Balance
import CrashTriage.Proofs.Condense.Selection
import CrashTriage.Proofs.Matrix.Population
import CrashTriage.Proofs.Thread.Kinds
import CrashTriage.Proofs.Metric.MatchCounts
import CrashTriage.Proofs.Metric.UnitInterval
import CrashTriage.Proofs.Condense.Machinery
import CrashTriage.Proofs.Document.Restoring
import CrashTriage.Proofs.Pairing.Counterparts
import CrashTriage.Proofs.Pairing.Idempotence
import CrashTriage.Proofs.Frame.Sites
import CrashTriage.Proofs.Metric.Cardinalities
import CrashTriage.Proofs.Distance.Sets
import CrashTriage.Proofs.Metric.Matching
import CrashTriage.Proofs.Distance.Similarity
import CrashTriage.Proofs.Metric.EditBounds
import CrashTriage.Proofs.Condense.Libraries
import CrashTriage.Proofs.Condense.Reasons
import CrashTriage.Proofs.Condense.Recursion
import CrashTriage.Proofs.Condense.SecondPass
import CrashTriage.Proofs.Shard.Culprits
import CrashTriage.Proofs.Shard.History
import CrashTriage.Proofs.Distance.Triangle
import CrashTriage.Proofs.Shard.Checksum
import CrashTriage.Proofs.Grid.Descriptions
import CrashTriage.Proofs.Grid.Gaps
import CrashTriage.Proofs.Pairing.Greedy
