import AssetCheck.Text.Blank

/-!
Who runs the checks, and where. Both names come from the environment, without blanks around them; a name
that is all blank counts as missing.
-/

namespace AssetCheck

/-- A user and the machine the user works at. -/
structure Identity where
  user : String
  host : String
  deriving DecidableEq, Repr

/-- A name without the blanks around it, unless nothing else is left. -/
def visibleName? (s : String) : Option String :=
  let name := Text.trim s
  if name = "" then none else some name

/-- The identity that the variables of an environment give; `machineNames` are the names that the machine
itself goes by, in case no variable names it. -/
def Identity.ofEnvironment (env : String → Option String) (machineNames : List String) :
    Identity :=
  let first (names : List String) : Option String :=
    names.findSome? fun name => (env name).bind visibleName?
  { user := (first ["USER", "USERNAME"]).getD ""
    host := (first ["HOSTNAME", "COMPUTERNAME"] <|> machineNames.findSome? visibleName?).getD "" }

end AssetCheck
