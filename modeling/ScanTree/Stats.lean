import ScanTree.Subtree

/-!
# Subtree statistics

How many files and directories a subtree holds, the node itself included, and
how many of its nodes were ignored or skipped.
-/

namespace ScanTree

/-- The statistics of a subtree. -/
structure SubtreeStats where
  totalNodes : Int
  totalFiles : Int
  totalDirs : Int
  ignored : Int
  skipped : Int
deriving DecidableEq, Repr

namespace SubtreeStats

instance : Add SubtreeStats where
  add first second :=
    ⟨first.totalNodes + second.totalNodes, first.totalFiles + second.totalFiles,
      first.totalDirs + second.totalDirs, first.ignored + second.ignored,
      first.skipped + second.skipped⟩

instance : Zero SubtreeStats where
  zero := ⟨0, 0, 0, 0, 0⟩

/-- The directories that were entered. -/
def traversedDirs (stats : SubtreeStats) : Int :=
  stats.totalDirs - stats.skipped

/-- What a node adds to the statistics itself. -/
def ofNode (node : Node) : SubtreeStats where
  totalNodes := 1
  totalFiles := if node.isDir then 0 else 1
  totalDirs := if node.isDir then 1 else 0
  ignored := if node.status = .ignored then 1 else 0
  skipped := if node.status = .skipped then 1 else 0

end SubtreeStats

/-- Statistics by id. -/
abbrev StatsTable := Index.Folded SubtreeStats

/-- The statistics of all nodes, children before parents. -/
def Index.stats (index : Index) : StatsTable :=
  index.foldFrom SubtreeStats.ofNode (· + ·) 0 index.ids

end ScanTree
