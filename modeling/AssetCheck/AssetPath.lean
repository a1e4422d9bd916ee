import AssetCheck.Text.Pieces

/-!
Paths of assets. Both slashes separate names, and the forward one is the normal form.
-/

namespace AssetCheck.AssetPath

def normalize (path : String) : String := Text.replaceChar '\\' '/' path

/-- The characters up to the last slash, if there is one, and those after it. -/
def splitLast (cs : List Char) : Option (List Char) × List Char :=
  let name := (cs.reverse.takeWhile (· ≠ '/')).reverse
  match cs.reverse.dropWhile (· ≠ '/') with
  | [] => (none, name)
  | _ :: directory => (some directory.reverse, name)

/-- A path next to an asset: the file name between a lead that begins with a directory, and a tail. -/
def beside (path lead tail : String) : String :=
  let (directory?, name) := splitLast path.toList
  let file := lead ++ String.ofList name ++ tail
  match directory? with
  | none => file
  | some [] => "/" ++ file
  | some directory =>
    if directory.getLast? = some '/' then String.ofList directory ++ file
    else String.ofList directory ++ "/" ++ file

def report (path : String) : String := beside path "reports/" ".json"

def output (path : String) : String := beside path "outputs/" ""

end AssetCheck.AssetPath
