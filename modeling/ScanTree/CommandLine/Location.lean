import ScanTree.Text.Pieces
import ScanTree.Text.Quoted

/-!
# Locations of files

A location is written with slashes.  Its plain form has no empty segment and no
segment `.`; the empty location is `.`.  What stands at a location may be a file
or a directory, or there is a reason why nothing does.
-/

namespace ScanTree

namespace CommandLine

/-- The segments of a location. -/
def segments (location : String) : List String :=
  ((Text.piecesBy (· == '/') location.toList).filter fun segment =>
    segment ≠ [] && segment ≠ ['.']).map String.ofList

/-- The slashes that a plain location begins with: none, two if there are
exactly two, and otherwise one. -/
def rootSlashes (location : String) : String :=
  match (location.toList.takeWhile (· == '/')).length with
  | 0 => ""
  | 2 => "//"
  | _ => "/"

/-- The plain form of a location. -/
def plainLocation (location : String) : String :=
  let plain := rootSlashes location ++ "/".intercalate (segments location)
  if plain = "" then "." else plain

/-- What stands at a location. -/
inductive Located where
  /-- A file with the given bytes. -/
  | file (bytes : List UInt8)
  /-- A directory. -/
  | directory
  /-- Nothing, in a directory that exists. -/
  | free
  /-- Nothing, and its directory does not exist either. -/
  | missing
  /-- Something on the way is not a directory. -/
  | notADirectory
  /-- A name on the way is too long. -/
  | nameTooLong
deriving DecidableEq, Repr

/-- Why a file cannot be read or written. -/
inductive FileError where
  /-- The directory does not exist. -/
  | missing (location : String)
  /-- There is a directory in its place. -/
  | isDirectory (location : String)
  /-- Something on the way is not a directory. -/
  | notADirectory (location : String)
  /-- A name on the way is too long. -/
  | nameTooLong (location : String)
  /-- The location holds the null character. -/
  | nullInLocation
deriving DecidableEq, Repr

/-- The wording of an error. -/
def FileError.message : FileError → String
  | missing location => s!"[Errno 2] No such file or directory: {Text.quoted location}"
  | isDirectory location => s!"[Errno 21] Is a directory: {Text.quoted location}"
  | notADirectory location => s!"[Errno 20] Not a directory: {Text.quoted location}"
  | nameTooLong location => s!"[Errno 36] File name too long: {Text.quoted location}"
  | nullInLocation => "embedded null byte"

end CommandLine

end ScanTree
