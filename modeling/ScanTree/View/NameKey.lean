import ScanTree.Text.Casefold
import ScanTree.Text.Combining
import ScanTree.Text.Decomposition
import ScanTree.View.Error

/-!
# Sorting names

Names are compared by their letters first, regardless of case and accents, then
by their folded form, and at last as they are.  Letters are collated as in the C
locale, which compares texts by code points; a run takes its locale from the
environment, and what the rules of another locale make of an order is left out.
A name whose letters hold the null character cannot be sorted.
-/

namespace ScanTree

/-- The letters of a name: its folded and decomposed form without combining
characters. -/
def collationBase (name : String) : List Char :=
  ((Text.foldChars name.toList).flatMap Text.decompose).filter (!Text.isCombining ·)

/-- What names are sorted by. -/
structure NameKey where
  /-- The letters of the name. -/
  base : String
  /-- The folded form of the name. -/
  folded : String
  /-- The name. -/
  raw : String
deriving DecidableEq, Repr

namespace NameKey

/-- The key of a name. -/
def ofName (name : String) : Except ViewError NameKey :=
  let base := collationBase name
  if base.contains '\x00' then .error .nullInName
  else .ok ⟨String.ofList base, Text.casefold name, name⟩

/-- Whether the first key does not come after the second one. -/
def le (first second : NameKey) : Bool :=
  if first.base = second.base then
    if first.folded = second.folded then decide (first.raw ≤ second.raw)
    else decide (first.folded ≤ second.folded)
  else decide (first.base ≤ second.base)

end NameKey

end ScanTree
