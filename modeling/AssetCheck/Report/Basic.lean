/-!
Reports. A report says what the checks of one chain found in one asset: a diagnostic for each node, by
whom and where the checks were run, and when.
-/

namespace AssetCheck

/-- The verdict of a check. -/
inductive Status
  | pass
  | warn
  | fail
  | error
  deriving DecidableEq, Repr

/-- All verdicts, from good to bad. -/
def Status.all : List Status := [.pass, .warn, .fail, .error]

def Status.name : Status → String
  | .pass => "pass"
  | .warn => "warn"
  | .fail => "fail"
  | .error => "error"

def Status.ofName? (name : String) : Option Status := Status.all.find? (·.name = name)

def Status.capitals : Status → String
  | .pass => "PASS"
  | .warn => "WARN"
  | .fail => "FAIL"
  | .error => "ERROR"

@[simp] theorem Status.ofName?_name (s : Status) : Status.ofName? s.name = some s := by
  cases s <;> decide

/-- What a check found. -/
structure Diagnostic where
  message : String
  nodeName : String
  nodeType : String
  status : Status
  deriving DecidableEq, Repr

/-- What the checks of a chain found. -/
structure Report where
  assetPath : String
  cookSuccess : Bool
  diagnostics : List Diagnostic
  host : String
  timestamp : String
  user : String
  version : String
  deriving DecidableEq, Repr

/-- The version that reports are written in. -/
def Report.currentVersion : String := "2.0"

def Report.passed (r : Report) : Bool := r.diagnostics.all (·.status = .pass)

/-- How many checks have a verdict. -/
def Report.count (r : Report) (status : Status) : Nat :=
  (r.diagnostics.filter (·.status = status)).length

end AssetCheck
