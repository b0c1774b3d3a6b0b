import ScanTree.Builder
import ScanTree.CommandLine.Location
import ScanTree.CommandLine.Log
import ScanTree.CommandLine.Options
import ScanTree.CommandLine.Run
import ScanTree.Decimal.Binary64
import ScanTree.Decimal.Integer
import ScanTree.Decimal.Shortest
import ScanTree.Decision
import ScanTree.Display.Details
import ScanTree.Display.Highlight
import ScanTree.Display.Row
import ScanTree.Display.Terminal
import ScanTree.Display.Theme
import ScanTree.Event
import ScanTree.Index
import ScanTree.Ingest
import ScanTree.Json.Basic
import ScanTree.Json.Decode
import ScanTree.Json.Display
import ScanTree.Json.Layout
import ScanTree.Json.Print
import ScanTree.Kind
import ScanTree.Main
import ScanTree.Merge
import ScanTree.Node
import ScanTree.Path
import ScanTree.Preferences
import ScanTree.Proofs.Builder.Census
import ScanTree.Proofs.Builder.Description
import ScanTree.Proofs.Builder.Discovery
import ScanTree.Proofs.Builder.Link
import ScanTree.Proofs.Builder.Mention
import ScanTree.Proofs.Builder.Replay
import ScanTree.Proofs.Builder.Shortcut
import ScanTree.Proofs.Builder.Tally
import ScanTree.Proofs.Builder.Verdict
import ScanTree.Proofs.CommandLine.Addressing
import ScanTree.Proofs.CommandLine.Completion
import ScanTree.Proofs.CommandLine.Rerun
import ScanTree.Proofs.Decimal.Rounding
import ScanTree.Proofs.Display.Clipping
import ScanTree.Proofs.Display.Details
import ScanTree.Proofs.Display.Fitting
import ScanTree.Proofs.Display.Highlighting
import ScanTree.Proofs.Display.Reclipping
import ScanTree.Proofs.Display.RowText
import ScanTree.Proofs.Display.Sequences
import ScanTree.Proofs.Display.Styling
import ScanTree.Proofs.Index.Comparison
import ScanTree.Proofs.Index.Directories
import ScanTree.Proofs.Index.Interleaving
import ScanTree.Proofs.Index.RootedTree
import ScanTree.Proofs.Index.Siblings
import ScanTree.Proofs.Ingest.Account
import ScanTree.Proofs.Ingest.Cadence
import ScanTree.Proofs.Json.IntegerText
import ScanTree.Proofs.Json.Nesting
import ScanTree.Proofs.Json.Plainness
import ScanTree.Proofs.Json.RealText
import ScanTree.Proofs.Json.RoundTrip
import ScanTree.Proofs.Merge.Association
import ScanTree.Proofs.Merge.Badges
import ScanTree.Proofs.Merge.Concatenation
import ScanTree.Proofs.Merge.Mirror
import ScanTree.Proofs.Merge.Sides
import ScanTree.Proofs.Merge.Union
import ScanTree.Proofs.Outcome
import ScanTree.Proofs.Path.Climbing
import ScanTree.Proofs.Path.Lineage
import ScanTree.Proofs.Path.Normalization
import ScanTree.Proofs.Path.Segment
import ScanTree.Proofs.Preferences.Store
import ScanTree.Proofs.Scheduler.Abandonment
import ScanTree.Proofs.Scheduler.Coherence
import ScanTree.Proofs.Scheduler.Delivery
import ScanTree.Proofs.Scheduler.Freshness
import ScanTree.Proofs.Scheduler.Outstanding
import ScanTree.Proofs.Scheduler.Service
import ScanTree.Proofs.Scheduler.Serving
import ScanTree.Proofs.Scheduler.Session
import ScanTree.Proofs.Snapshot.Acceptance
import ScanTree.Proofs.Snapshot.Normalization
import ScanTree.Proofs.Snapshot.Presentation
import ScanTree.Proofs.Snapshot.RoundTrip
import ScanTree.Proofs.Subtree.Cardinality
import ScanTree.Proofs.Subtree.Completion
import ScanTree.Proofs.Subtree.Fold
import ScanTree.Proofs.Subtree.Recurrence
import ScanTree.Proofs.Subtree.Search
import ScanTree.Proofs.Subtree.Stack
import ScanTree.Proofs.Subtree.Statistics
import ScanTree.Proofs.Subtree.Sweep
import ScanTree.Proofs.Summary.Mismatches
import ScanTree.Proofs.Text.Encoding
import ScanTree.Proofs.Text.Occurrence
import ScanTree.Proofs.View.Agreement
import ScanTree.Proofs.View.Images
import ScanTree.Proofs.View.Likeness
import ScanTree.Proofs.View.Loops
import ScanTree.Proofs.View.Matching
import ScanTree.Proofs.View.Reach
import ScanTree.Proofs.View.Refusal
import ScanTree.Proofs.View.Revelation
import ScanTree.Proofs.View.Sorting
import ScanTree.Proofs.View.StableOrder
import ScanTree.Proofs.View.TreeWalk
import ScanTree.Proofs.View.Unrolling
import ScanTree.Proofs.View.Visibility
import ScanTree.Scheduler
import ScanTree.Snapshot
import ScanTree.Stats
import ScanTree.Subtree
import ScanTree.Summary
import ScanTree.SummaryCheck
import ScanTree.Table
import ScanTree.Text.Blank
import ScanTree.Text.Casefold
import ScanTree.Text.CellWidth
import ScanTree.Text.CodeTable
import ScanTree.Text.Combining
import ScanTree.Text.DecimalDigit
import ScanTree.Text.Decomposition
import ScanTree.Text.Hex
import ScanTree.Text.Integer
import ScanTree.Text.Pieces
import ScanTree.Text.Printable
import ScanTree.Text.Quoted
import ScanTree.Text.Search
import ScanTree.Text.Utf8
import ScanTree.View.Cost
import ScanTree.View.Error
import ScanTree.View.NameKey
import ScanTree.View.Ordering
import ScanTree.View.Rows
import ScanTree.View.Visibility
