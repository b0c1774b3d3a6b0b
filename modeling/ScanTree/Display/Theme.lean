import ScanTree.Text.Blank

/-!
# Themes

A theme gives each part of a row its colour as a terminal escape sequence.  The
plain theme gives none.
-/

namespace ScanTree

/-- The escape sequences for the parts of a row. -/
structure Theme where
  /-- The name of the theme. -/
  name : String
  /-- Ends a colour. -/
  reset : String := ""
  /-- The name of an excluded node. -/
  dim : String := ""
  /-- The searched text in a name. -/
  highlight : String := ""
  /-- The mark before a node with children. -/
  treeMarker : String := ""
  /-- The name of a directory. -/
  treeDir : String := ""
  /-- The name of a file. -/
  treeFile : String := ""
  /-- The dot of an included node. -/
  statusIncluded : String := ""
  /-- The dot of an ignored node. -/
  statusIgnored : String := ""
  /-- The dot of a skipped node. -/
  statusSkipped : String := ""
  /-- The dot of an undecided node. -/
  statusUnknown : String := ""
  /-- The badge of a node that only the first trace includes. -/
  badgeOnlyFirst : String := ""
  /-- The badge of a node that only the second trace includes. -/
  badgeOnlySecond : String := ""
  /-- The badge of a directory whose statistics differ. -/
  badgeDiff : String := ""
  /-- A low cost. -/
  costLow : String := ""
  /-- A middling cost. -/
  costMid : String := ""
  /-- A high cost. -/
  costHigh : String := ""
deriving DecidableEq, Repr

namespace Theme

/-- The escape sequence that selects a rendition. -/
def sgr (parameters : String) : String :=
  "\x1b[" ++ parameters ++ "m"

/-- The theme that is used unless another one is chosen. -/
def standard : Theme where
  name := "default"
  reset := sgr "0"
  dim := sgr "2"
  highlight := sgr "7;1"
  treeMarker := sgr "38;5;44"
  treeDir := sgr "1;34"
  treeFile := sgr "38;5;252"
  statusIncluded := sgr "38;5;42"
  statusIgnored := sgr "38;5;203"
  statusSkipped := sgr "38;5;214"
  statusUnknown := sgr "38;5;248"
  badgeOnlyFirst := sgr "38;5;117"
  badgeOnlySecond := sgr "38;5;141"
  badgeDiff := sgr "38;5;221"
  costLow := sgr "38;5;114"
  costMid := sgr "38;5;221"
  costHigh := sgr "38;5;210"

/-- A theme in blue and green. -/
def ocean : Theme where
  name := "ocean"
  reset := sgr "0"
  dim := sgr "2;38;5;110"
  highlight := sgr "7;1"
  treeMarker := sgr "38;5;39"
  treeDir := sgr "1;38;5;45"
  treeFile := sgr "38;5;153"
  statusIncluded := sgr "38;5;84"
  statusIgnored := sgr "38;5;210"
  statusSkipped := sgr "38;5;215"
  statusUnknown := sgr "38;5;110"
  badgeOnlyFirst := sgr "38;5;45"
  badgeOnlySecond := sgr "38;5;177"
  badgeDiff := sgr "38;5;229"
  costLow := sgr "38;5;79"
  costMid := sgr "38;5;229"
  costHigh := sgr "38;5;211"

/-- The theme without colours. -/
def plain : Theme where
  name := "plain"

/-- The themes with colours, in the order of their names. -/
def coloured : List Theme := [standard, ocean]

/-- The coloured theme of a name, regardless of the case of ASCII letters and
of blanks at its ends, or the standard one if there is none. -/
def ofName (name : Option String) : Theme :=
  let wanted := (Text.stripChars (name.getD "").toList).map Char.toLower
  (coloured.find? fun theme => theme.name.toList = wanted).getD standard

/-- The theme of a name, or the plain one where no colour is wanted. -/
def resolve (name : Option String) (noColor : Bool) : Theme :=
  if noColor then plain else ofName name

end Theme

end ScanTree
