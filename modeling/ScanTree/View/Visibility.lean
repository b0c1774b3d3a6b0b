import ScanTree.Subtree
import ScanTree.Text.Blank
import ScanTree.Text.Casefold
import ScanTree.Text.Search

/-!
# Visibility

A node is visible if it or one of its descendants passes a test.  Without a
search the test asks whether the node is included, or lets every node pass if
excluded ones are shown; with a search it asks whether the path holds the
searched text, regardless of case.
-/

namespace ScanTree

/-- The searched text: folded and without the blanks at its ends. -/
def searchQuery (search : String) : List Char :=
  Text.foldChars (Text.stripChars search.toList)

/-- Whether anything is searched for. -/
def isSearching (search : String) : Bool :=
  !(Text.stripChars search.toList).isEmpty

namespace Node

/-- Whether a node is to be seen when nothing is searched for. -/
def isSelfVisible (node : Node) (showExcluded : Bool) : Bool :=
  showExcluded || node.status = .included || node.second.status = some .included

/-- Whether the path holds the searched text. -/
def isMatch (node : Node) (query : List Char) : Bool :=
  Text.occurs query (Text.foldChars node.id.toList)

/-- Whether a node passes the test of a view. -/
def passes (node : Node) (showExcluded : Bool) (search : String) : Bool :=
  if isSearching search then node.isMatch (searchQuery search)
  else node.isSelfVisible showExcluded

end Node

/-- Visibility by id. -/
abbrev VisibilityTable := Index.Folded Bool

/-- The visibility of all nodes that can be reached from the root, children
before parents. -/
def Index.visibility (index : Index) (showExcluded : Bool) (search : String) :
    VisibilityTable :=
  index.foldFrom (·.passes showExcluded search) (· || ·) false [index.rootId]

end ScanTree
