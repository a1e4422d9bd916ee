import AssetCheck.AssetPath
import AssetCheck.Failure
import AssetCheck.Glob.Expression

/-!
Lists of assets: the paths that are named one by one, and after them, in order, the files that a pattern
matches. A path is listed once, in its normal form.
-/

namespace AssetCheck.AssetList

/-- The expression of a pattern. -/
def readPattern (pattern : String) : Except Failure Glob.Expr :=
  match Glob.parse pattern with
  | .ok tokens => .ok (Glob.patternExpr tokens)
  | .error e =>
    .error (.other ("invalid asset pattern '" ++ pattern ++ "': error parsing glob '" ++ pattern ++
      "': " ++ e.message))

/-- The paths of the files below a directory. -/
def filesBelow (files : FileTree) (root : String) : Except IoError (List String) := do
  let place ← files.find root
  if files.isDirectoryAt place then
    return (files.filesBelow place).map fun names => AssetPath.normalize (String.intercalate "/" names)
  else throw .notDirectory

/-- The files below a directory that one of the patterns matches, in order. -/
def matching (files : FileTree) (root : String) (patterns : List Glob.Expr) :
    Except IoError (List String) := do
  let paths ← filesBelow files root
  let matched := paths.filter fun path => patterns.any (·.isMatch path)
  return matched.mergeSort fun a b => a ≤ b

/-- The assets that paths and patterns name. All patterns are read before the first directory. -/
def expand (files : FileTree) (root : String) (explicit patterns : List String) :
    Except Failure (List String) := do
  let named := explicit.map AssetPath.normalize
  if patterns = [] then return named.eraseDups
  else
    let patterns ← patterns.mapM readPattern
    let matched ← (matching files root patterns).mapError .io
    return (named ++ matched).eraseDups

end AssetCheck.AssetList
