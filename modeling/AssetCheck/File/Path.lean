import AssetCheck.Text.Pieces

/-!
Paths as texts name them: names between slashes, of which `.` and `..` have a meaning of their own.
-/

namespace AssetCheck

/-- A path taken apart. -/
structure Path where
  /-- Starts at the root and not at the working directory. -/
  absolute : Bool
  names : List String
  /-- A slash follows the last name. -/
  closed : Bool
  deriving DecidableEq, Repr

def Path.ofText (s : String) : Path :=
  let names := ((Text.pieces '/' s.toList).filter (· ≠ [])).map String.ofList
  { absolute := s.toList.head? = some '/'
    names
    closed := s.toList.getLast? = some '/' }

/-- The names of the directory that holds the last name of a path. -/
def Path.parentNames (p : Path) : List String := (p.names.filter (· ≠ ".")).dropLast

/-- No name in a directory is longer than this many bytes. -/
def nameLimit : Nat := 255

/-- A path has fewer bytes than this. -/
def pathLimit : Nat := 4096

end AssetCheck
