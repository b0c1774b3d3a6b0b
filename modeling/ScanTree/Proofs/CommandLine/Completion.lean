import ScanTree.CommandLine.Run
import ScanTree.Proofs.Display.RowText
import ScanTree.Proofs.Index.Comparison
import ScanTree.Proofs.Ingest.Account
import ScanTree.Proofs.Subtree.Cardinality
import ScanTree.Proofs.View.Refusal

/-!
# Runs that are complete

A run that is not asked for details is complete only if it reads its traces,
has an index of them, and shows the tree of the index in lines.  Its output are
these lines and what it says about the summaries.
-/

namespace ScanTree

namespace CommandLine

theorem World.fromTraces_of_readLines {world : World} {side : Side} {log : List LogEntry}
    {text : String} {result : Ingest.Result}
    (reads : world.readLines side log text = .ok result) : result.index.FromTraces := by
  rw [Ingest.index_of_read (mapError_eq_ok_iff.1 reads)]
  exact .ofEvents _

namespace Options

variable {options : Options} {world : World} {loaded : Loaded} {index : Index}
  {lines : List String}

/-- A run comes to show lines: the header and the rows of the index of the traces
that it reads. -/
structure Shows (options : Options) (world : World) (loaded : Loaded) (index : Index)
    (lines : List String) : Prop where
  loads : options.load world = .ok loaded
  indexed : loaded.index = .ok index
  shown : options.lines world loaded index = .ok lines

namespace Shows

/-- The tree that is shown is that of traces. -/
theorem fromTraces (shows : options.Shows world loaded index lines) : index.FromTraces := by
  obtain ⟨⟨firstText, secondText⟩, _, loads⟩ := exists_of_bind_eq_ok shows.loads
  obtain ⟨first, readsFirst, loads⟩ := exists_of_bind_eq_ok loads
  obtain ⟨second, readsSecond, loads⟩ := exists_of_bind_eq_ok loads
  obtain rfl := Except.ok.inj loads
  have indexed := shows.indexed
  cases secondText with
  | none =>
      obtain rfl := Except.ok.inj readsSecond
      obtain rfl := Except.ok.inj indexed
      exact World.fromTraces_of_readLines readsFirst
  | some secondText =>
      rw [Option.mapM_some] at readsSecond
      obtain ⟨second, reads, rfl⟩ := exists_of_map_eq_ok readsSecond
      exact .merge (World.fromTraces_of_readLines readsFirst)
        (World.fromTraces_of_readLines reads) indexed

theorem run_eq (shows : options.Shows world loaded index lines) (tree : options.details = none) :
    options.run world =
      options.showTree world loaded index (logLines options.verbose (loaded.log index)) := by
  rw [run, shows.loads]
  simp only [shows.indexed, tree]

theorem completed (shows : options.Shows world loaded index lines)
    (tree : options.details = none) (noDump : options.dumpIndex = .absent) :
    (options.run world).ending = .completed := by
  rw [shows.run_eq tree, showTree, shows.shown]
  dsimp only
  rw [dump, noDump]

end Shows

end Options

end CommandLine

end ScanTree
