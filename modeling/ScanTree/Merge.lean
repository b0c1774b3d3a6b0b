import ScanTree.Index
import ScanTree.Text.Quoted

/-!
# Comparing two indices

Two indices with the same root are merged into one.  On a path that both know,
the first index's decision stands in the first place and the second one's
beside it.  The counts are added up.
-/

namespace ScanTree

/-- Why two indices cannot be compared. -/
inductive MergeError where
  | differentRoots (first second : String)
deriving DecidableEq, Repr

/-- The wording of a refusal. -/
def MergeError.message : MergeError → String
  | differentRoots first second =>
    s!"cannot merge trace indices with different roots: {Text.quoted first} != " ++
      Text.quoted second

/-- The first list, followed by what only the second one has, once each. -/
def unionChildren (first second : List String) : List String :=
  second.foldl (fun merged child => if child ∈ merged then merged else merged ++ [child]) first

namespace Node

/-- A node that both indices have. -/
def merge (first second : Node) : Node where
  id := first.id
  name := first.name
  kind := if second.kind = .dir then .dir else first.kind
  decision := first.decision
  lastEvent := first.lastEvent
  children := unionChildren first.children second.children
  second := ⟨some second.status, second.decision.reason, second.decision.pattern⟩
  origin := some .both

/-- A node that only one of the indices has. -/
def onlyOn (node : Node) (side : Side) : Node :=
  { node with second := { status := some .unknown }, origin := some (.only side) }

end Node

namespace Index

/-- A node of the first index in the comparison with the second one. -/
def compareNode (second : Index) (node : Node) : Node :=
  match second.find? node.id with
  | some other => node.merge other
  | none => node.onlyOn .first

@[simp]
theorem id_compareNode (second : Index) (node : Node) :
    (second.compareNode node).id = node.id := by
  unfold compareNode
  split <;> rfl

/-- The nodes of a comparison: those of the first index in its order, then
those that only the second one has. -/
def mergedNodes (first second : Index) : Table Node Node.id where
  entries :=
    first.nodes.entries.map second.compareNode
      ++ (second.nodes.entries.filter fun node => (first.find? node.id).isNone).map
        (·.onlyOn .second)
  keys_nodup := by
    rw [List.map_append, List.map_map, List.map_map, List.nodup_append]
    have firstIds : first.nodes.entries.map (Node.id ∘ second.compareNode) = first.ids :=
      List.map_congr_left fun node _ => id_compareNode second node
    refine ⟨firstIds ▸ first.ids_nodup, ?_, ?_⟩
    · exact (second.ids_nodup).sublist (List.Sublist.map _ List.filter_sublist)
    · intro id idMem other otherMem same
      rw [firstIds] at idMem
      obtain ⟨node, nodeMem, rfl⟩ := List.mem_map.1 otherMem
      have absent := (List.mem_filter.1 nodeMem).2
      rw [same] at idMem
      have known := find?_isSome_iff.2 idMem
      exact Option.not_isSome_iff_eq_none.2 (Option.isNone_iff_eq_none.1 absent) known

/-- Merge two indices into one that compares them. -/
def merge (first second : Index) : Except MergeError Index :=
  if first.rootId = second.rootId then
    .ok ⟨first.rootId, mergedNodes first second, first.counts + second.counts, true⟩
  else .error (.differentRoots first.rootId second.rootId)

end Index

end ScanTree
