import ScanTree.Display.Details
import ScanTree.Proofs.Outcome

/-!
# What the details tell

The details of a node can be written if the numbers of its subtree have few enough
digits.  They begin with its id, and in a comparison they end with what each side
decided.
-/

namespace ScanTree

theorem detailLine_injective {label first second : String}
    (same : detailLine label (some first) = detailLine label (some second)) : first = second :=
  (String.append_right_inj _).1 same

theorem SubtreeStats.exists_details_iff {stats : SubtreeStats} :
    (∃ lines, stats.details = .ok lines) ↔
      ∀ number ∈ stats.numbers, intFits number.2 = true := by
  simp only [details, numberLine, exists_mapM_eq_ok_iff, exists_map_eq_ok_iff, exists_intText_iff]

namespace Node

variable {node other : Node} {stats otherStats : Option SubtreeStats} {compare : Bool}

theorem exists_details_iff :
    (∃ lines, node.details stats compare = .ok lines) ↔
      ∀ told ∈ stats, ∀ number ∈ told.numbers, intFits number.2 = true := by
  cases stats with
  | none => exact ⟨fun _ => nofun, fun _ => ⟨_, rfl⟩⟩
  | some told =>
      rw [details, Option.mapM_some]
      simp only [Option.mem_some_iff, forall_eq', ← SubtreeStats.exists_details_iff]
      cases told.details with
      | error error => exact ⟨fun ⟨_, shown⟩ => (nomatch shown), fun ⟨_, shown⟩ => (nomatch shown)⟩
      | ok lines => exact ⟨fun _ => ⟨lines, rfl⟩, fun _ => ⟨_, rfl⟩⟩

/-- A comparison adds the lines about the two sides. -/
theorem details_true (node : Node) (stats : Option SubtreeStats) :
    node.details stats true = (node.details stats false).map (· ++ node.comparisonDetails) := by
  unfold details
  cases stats.mapM SubtreeStats.details <;> simp [bind, Except.bind, Except.map, pure, Except.pure]

theorem head?_of_details {lines : List String}
    (shown : node.details stats compare = .ok lines) :
    lines.head? = some (detailLine "Path" (some node.id)) := by
  obtain ⟨subtree, -, isLines⟩ := exists_of_bind_eq_ok shown
  obtain rfl := Except.ok.inj isLines
  rfl

/-- The details of a node tell its id. -/
theorem id_eq_of_details {lines : List String} (shown : node.details stats compare = .ok lines)
    (same : other.details otherStats compare = .ok lines) : other.id = node.id :=
  detailLine_injective (Option.some.inj
    ((head?_of_details same).symm.trans (head?_of_details shown)))

end Node

end ScanTree
