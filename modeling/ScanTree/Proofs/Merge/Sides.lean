import ScanTree.Builder
import ScanTree.Proofs.Display.Details
import ScanTree.Proofs.Merge.Union
import ScanTree.View.Visibility

/-!
# The two sides of a comparison

A comparison forgets nothing that either index has decided about a path.  What
only the second index has stands in the first place, and what both have stands
side by side, so everything that reads a node has to look at its origin.  All
readers agree: the status of a side, the lines about the two sides and the test
for included paths tell what the two indices tell.
-/

namespace ScanTree

theorem Side.forall_iff {holds : Side → Prop} :
    (∀ side, holds side) ↔ holds .first ∧ holds .second := by
  constructor
  · intro all
    exact ⟨all .first, all .second⟩
  · rintro ⟨first, second⟩ (_ | _)
    · exact first
    · exact second

theorem Side.exists_iff {holds : Side → Prop} :
    (∃ side, holds side) ↔ holds .first ∨ holds .second := by
  constructor
  · rintro ⟨_ | _, held⟩
    · exact Or.inl held
    · exact Or.inr held
  · rintro (first | second)
    · exact ⟨.first, first⟩
    · exact ⟨.second, second⟩

/-- What stands at each of the two sides. -/
def Side.pick {α : Type} (first second : α) : Side → α
  | .first => first
  | .second => second

@[simp]
theorem Side.pick_first {α : Type} (first second : α) : Side.pick first second .first = first :=
  rfl

@[simp]
theorem Side.pick_second {α : Type} (first second : α) : Side.pick first second .second = second :=
  rfl

/-- What an index has decided about a path, which is nothing if it does not have
the path. -/
def Index.decisionAt (index : Index) (id : String) : Decision :=
  ((index.find? id).map Node.decision).getD {}

namespace Node

variable (node first second : Node)

theorem status_sideDecision (side : Side) :
    (node.sideDecision side).status = node.sideStatus side := by
  cases side <;> rfl

/-- A node of one index has that index's decision on its own side, and nothing on
the other side. -/
theorem sideDecision_onlyOn (side other : Side) :
    (node.onlyOn side).sideDecision other = if side = other then node.decision else {} := by
  cases side <;> cases other <;> rfl

theorem isSelfVisible_false_iff :
    node.isSelfVisible false ↔
      node.status = .included ∨ node.second.status = some .included := by
  simp only [isSelfVisible, Bool.false_or, Bool.or_eq_true, decide_eq_true_eq]

theorem isSelfVisible_merge_iff :
    (first.merge second).isSelfVisible false ↔
      first.status = .included ∨ second.status = .included := by
  rw [isSelfVisible_false_iff]
  exact or_congr_right Option.some_inj

theorem isSelfVisible_onlyOn_iff (side : Side) :
    (node.onlyOn side).isSelfVisible false ↔ node.status = .included := by
  rw [isSelfVisible_false_iff]
  simp [onlyOn]

/-- The lines about the two sides, written out. -/
theorem comparisonDetails_eq :
    node.comparisonDetails =
      ["Status (A)      " ++ (node.sideStatus .first).name,
        "Status (B)      " ++ (node.sideStatus .second).name,
        "Reason (A)      " ++ (node.sideDecision .first).reason.getD "—",
        "Reason (B)      " ++ (node.sideDecision .second).reason.getD "—",
        "Pattern (A)     " ++ (node.sideDecision .first).pattern.getD "—",
        "Pattern (B)     " ++ (node.sideDecision .second).pattern.getD "—"] :=
  rfl

end Node

namespace Index

theorem decisionAt_of_find? {index : Index} {id : String} {node : Node}
    (found : index.find? id = some node) : index.decisionAt id = node.decision := by
  simp [decisionAt, found]

theorem decisionAt_of_missing {index : Index} {id : String} (missing : index.find? id = none) :
    index.decisionAt id = {} := by
  simp [decisionAt, missing]

/-- A node tells of the indices at two sides if each of its sides has the decision
of that index, its origin is what indices have the path, and it is to be seen if one
of them includes the path. -/
structure Tells (sides : Side → Index) (id : String) (node : Node) : Prop where
  decision : ∀ side, node.sideDecision side = (sides side).decisionAt id
  origin_both : node.origin = some .both ↔ ∀ side, id ∈ (sides side).ids
  origin_only : ∀ side, node.origin = some (.only side) ↔
    ∀ other, id ∈ (sides other).ids ↔ other = side
  visible : node.isSelfVisible false ↔ ∃ side, ((sides side).decisionAt id).status = .included

variable {sides : Side → Index} {id : String}

theorem tells_merge {first second : Node} (one : (sides .first).find? id = some first)
    (two : (sides .second).find? id = some second) : Tells sides id (first.merge second) := by
  have known : ∀ side, id ∈ (sides side).ids :=
    Side.forall_iff.mpr ⟨mem_ids_of_find? one, mem_ids_of_find? two⟩
  refine ⟨?_, ?_, ?_, ?_⟩
  · rw [Side.forall_iff, decisionAt_of_find? one, decisionAt_of_find? two]
    exact ⟨rfl, rfl⟩
  · exact iff_of_true rfl known
  · intro side
    refine iff_of_false (by simp [Node.merge]) fun alone => ?_
    have same : Side.first = .second :=
      ((alone .first).mp (known .first)).trans ((alone .second).mp (known .second)).symm
    exact absurd same (by decide)
  · rw [Node.isSelfVisible_merge_iff, Side.exists_iff, decisionAt_of_find? one,
      decisionAt_of_find? two]

theorem tells_onlyOn {node : Node} {side : Side} (found : (sides side).find? id = some node)
    (missing : ∀ other, other ≠ side → (sides other).find? id = none) :
    Tells sides id (node.onlyOn side) := by
  have known (other : Side) : id ∈ (sides other).ids ↔ other = side := by
    rw [← find?_isSome_iff]
    by_cases same : other = side
    · simp [same, found]
    · simp [same, missing other same]
  have decision (other : Side) :
      (sides other).decisionAt id = if side = other then node.decision else {} := by
    by_cases same : other = side
    · rw [same, if_pos rfl, decisionAt_of_find? found]
    · rw [if_neg (Ne.symm same), decisionAt_of_missing (missing other same)]
  refine ⟨?_, ?_, ?_, ?_⟩
  · intro other
    rw [Node.sideDecision_onlyOn, decision]
  · refine iff_of_false (by simp [Node.onlyOn]) fun both => ?_
    have same : Side.first = .second :=
      ((known .first).mp (both .first)).trans ((known .second).mp (both .second)).symm
    exact absurd same (by decide)
  · intro other
    constructor
    · intro origin
      have same : side = other := by simpa [Node.onlyOn] using origin
      exact same ▸ known
    · intro alone
      have same : side = other := (alone side).mp ((known side).mpr rfl)
      rw [← same]
      rfl
  · rw [Node.isSelfVisible_onlyOn_iff]
    constructor
    · intro included
      exact ⟨side, by rwa [decision, if_pos rfl]⟩
    · rintro ⟨other, included⟩
      rw [decision] at included
      split at included
      · exact included
      · cases included

/-- Each node of a comparison tells of the two indices that are compared. -/
theorem exists_tells {merged : Index} (merges : (sides .first).merge (sides .second) = .ok merged)
    (known : ∃ side, id ∈ (sides side).ids) :
    ∃ node, merged.find? id = some node ∧ Tells sides id node := by
  rw [find?_of_merge merges]
  cases one : (sides .first).find? id with
  | some first =>
      cases two : (sides .second).find? id with
      | some second => exact ⟨_, rfl, tells_merge one two⟩
      | none =>
          refine ⟨_, rfl, tells_onlyOn one fun other different => ?_⟩
          cases other with
          | first => exact absurd rfl different
          | second => exact two
  | none =>
      cases two : (sides .second).find? id with
      | some second =>
          refine ⟨_, rfl, tells_onlyOn two fun other different => ?_⟩
          cases other with
          | first => exact one
          | second => exact absurd rfl different
      | none =>
          obtain ⟨side, mem⟩ := known
          have present := find?_isSome_iff.mpr mem
          cases side <;> simp [one, two] at present

/-- Comparing loses neither side.  Every path of either index has a node in the
comparison, whose sides have the statuses that the indices gave the path, whose origin
is the indices that have it, whose lines about the sides show each index's status,
reason and pattern under its own letter, and which is to be seen among the included
paths if one of the indices includes it.  Its details can be written whenever the numbers
that are told with them can. -/
theorem merge_tells_both_sides {first second : Index} (sameRoot : first.rootId = second.rootId) :
    ∃ merged, first.merge second = .ok merged ∧
      ∀ id, id ∈ first.ids ∨ id ∈ second.ids → ∃ node, merged.find? id = some node ∧
        node.sideStatus .first = (first.decisionAt id).status ∧
        node.sideStatus .second = (second.decisionAt id).status ∧
        (node.origin = some .both ↔ id ∈ first.ids ∧ id ∈ second.ids) ∧
        (node.origin = some (.only .first) ↔ id ∈ first.ids ∧ id ∉ second.ids) ∧
        (node.origin = some (.only .second) ↔ id ∉ first.ids ∧ id ∈ second.ids) ∧
        (∀ stats, node.details stats true = (node.details stats false).map (· ++
          ["Status (A)      " ++ (first.decisionAt id).status.name,
            "Status (B)      " ++ (second.decisionAt id).status.name,
            "Reason (A)      " ++ (first.decisionAt id).reason.getD "—",
            "Reason (B)      " ++ (second.decisionAt id).reason.getD "—",
            "Pattern (A)     " ++ (first.decisionAt id).pattern.getD "—",
            "Pattern (B)     " ++ (second.decisionAt id).pattern.getD "—"])) ∧
        (∀ stats, (∃ lines, node.details stats true = .ok lines) ↔
          ∀ told ∈ stats, ∀ number ∈ told.numbers, intFits number.2 = true) ∧
        (node.isSelfVisible false ↔
          (first.decisionAt id).status = .included ∨
            (second.decisionAt id).status = .included) := by
  refine ⟨_, merge_eq_ok_iff.mpr ⟨sameRoot, rfl⟩, fun id known => ?_⟩
  have knownBySide : ∃ side, id ∈ (Side.pick first second side).ids :=
    Side.exists_iff.mpr known
  obtain ⟨node, found, tells⟩ := exists_tells (merge_eq_ok_iff.mpr ⟨sameRoot, rfl⟩) knownBySide
  have onFirst : node.sideDecision .first = first.decisionAt id := tells.decision .first
  have onSecond : node.sideDecision .second = second.decisionAt id := tells.decision .second
  refine ⟨node, found, ?_, ?_, ?_, ?_, ?_, ?_, fun _ => Node.exists_details_iff, ?_⟩
  · rw [← Node.status_sideDecision, onFirst]
  · rw [← Node.status_sideDecision, onSecond]
  · rw [tells.origin_both, Side.forall_iff, Side.pick_first, Side.pick_second]
  · rw [tells.origin_only, Side.forall_iff]
    simp
  · rw [tells.origin_only, Side.forall_iff]
    simp
  · intro stats
    rw [Node.details_true, Node.comparisonDetails_eq, ← Node.status_sideDecision,
      ← Node.status_sideDecision, onFirst, onSecond]
  · rw [tells.visible, Side.exists_iff, Side.pick_first, Side.pick_second]

/-- A path that the indices disagree about, and one that only the second has. -/
theorem merge_of_disagreement :
    let first := ofEvents
      [{ tag := some "include", path := some "a" },
        { tag := some "ignore", path := some "b", reason := some "rule" }]
    let second := ofEvents
      [{ tag := some "include", path := some "b" },
        { tag := some "ignore", path := some "c", reason := some "", pattern := some "*.c" }]
    first.rootId = second.rootId ∧ "b" ∈ first.ids ∧ "c" ∈ second.ids ∧
      ∃ merged shared alone, first.merge second = .ok merged ∧
        merged.find? "b" = some shared ∧ merged.find? "c" = some alone ∧
        shared.sideStatus .first = .ignored ∧ shared.sideStatus .second = .included ∧
        shared.isSelfVisible false ∧ alone.origin = some (.only .second) ∧
        (∃ lines, alone.details none true = .ok lines) ∧
        ∀ stats, alone.details stats true = (alone.details stats false).map (· ++
          ["Status (A)      unknown", "Status (B)      ignored", "Reason (A)      —",
            "Reason (B)      ", "Pattern (A)     —", "Pattern (B)     *.c"]) := by
  intro first second
  have sameRoot : first.rootId = second.rootId := by decide +kernel
  have inFirst : "b" ∈ first.ids := by decide +kernel
  have inSecond : "c" ∈ second.ids := by decide +kernel
  have notInFirst : "c" ∉ first.ids := by decide +kernel
  have sharedFirst : first.decisionAt "b" = ⟨.ignored, some "rule", none⟩ := by decide +kernel
  have sharedSecond : second.decisionAt "b" = ⟨.included, none, none⟩ := by decide +kernel
  have aloneFirst : first.decisionAt "c" = {} := by decide +kernel
  have aloneSecond : second.decisionAt "c" = ⟨.ignored, some "", some "*.c"⟩ := by
    decide +kernel
  obtain ⟨merged, merges, tells⟩ := merge_tells_both_sides sameRoot
  obtain ⟨shared, foundShared, statusFirst, statusSecond, -, -, -, -, -, visible⟩ :=
    tells "b" (Or.inl inFirst)
  obtain ⟨alone, foundAlone, -, -, -, -, origin, details, written, -⟩ := tells "c" (Or.inr inSecond)
  refine ⟨sameRoot, inFirst, inSecond, merged, shared, alone, merges, foundShared, foundAlone,
    ?_, ?_, ?_, origin.mpr ⟨notInFirst, inSecond⟩, (written none).mpr nofun, ?_⟩
  · rw [statusFirst, sharedFirst]
  · rw [statusSecond, sharedSecond]
  · exact visible.mpr (Or.inr (by rw [sharedSecond]))
  · intro stats
    rw [details, aloneFirst, aloneSecond]
    rfl

end Index

end ScanTree
