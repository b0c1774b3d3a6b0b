import ScanTree.Node
import ScanTree.Table

/-!
# Indices

An index is a finished tree: its nodes keyed by id, the id of its root, and the
counts of its decisions.  Children are given by id, and nothing forces them to
be nodes of the index or to form a tree; indices that are built from events
do.
-/

namespace ScanTree

/-- A finished tree of paths. -/
structure Index where
  rootId : String
  nodes : Table Node Node.id
  counts : Counts
  compare : Bool := false
deriving DecidableEq

namespace Index

/-- The node of an id. -/
def find? (index : Index) (id : String) : Option Node :=
  index.nodes.find? id

/-- The ids of the nodes in order. -/
def ids (index : Index) : List String :=
  index.nodes.keys

/-- The root, if it is a node of the index. -/
def root? (index : Index) : Option Node :=
  index.find? index.rootId

/-- The number of nodes. -/
def size (index : Index) : Nat :=
  index.nodes.size

theorem id_of_find? {index : Index} {id : String} {node : Node}
    (found : index.find? id = some node) : node.id = id :=
  Table.key_of_find? found

theorem mem_ids_of_find? {index : Index} {id : String} {node : Node}
    (found : index.find? id = some node) : id ∈ index.ids :=
  Table.mem_keys_of_find? found

theorem find?_isSome_iff {index : Index} {id : String} :
    (index.find? id).isSome ↔ id ∈ index.ids :=
  Table.find?_isSome_iff

theorem ids_nodup (index : Index) : index.ids.Nodup :=
  index.nodes.keys_nodup

end Index

end ScanTree
