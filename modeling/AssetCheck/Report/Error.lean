import AssetCheck.Host.Basic
import AssetCheck.Json.Fault
import AssetCheck.Report.Basic

/-!
Why a report cannot be made, written, read or shown.
-/

namespace AssetCheck

/-- Why there is no report. -/
inductive ReportError
  | malformedWarning (node warning reason : String)
  | versionMismatch (found expected : String)
  | missingLoader (node : String)
  | host (error : HostError)
  | io (error : IoError)
  | json (error : Json.Error)

def ReportError.message : ReportError → String
  | .malformedWarning node warning reason =>
    "Node '" ++ node ++ "' emitted a malformed diagnostic warning (" ++ reason ++ "): " ++ warning
  | .versionMismatch found expected =>
    "Report version \"" ++ found ++ "\" does not match the expected one \"" ++ expected ++ "\""
  | .missingLoader node =>
    "Chain ending at '" ++ node ++ "' has no loader node to read the asset path from"
  | .host error => error.message
  | .io error => "Report IO error: " ++ error.message
  | .json error => "Report JSON error: " ++ error.message

/-- Only reports of the current version are read and shown. -/
def Report.checkVersion (r : Report) : Except ReportError Unit :=
  if r.version = Report.currentVersion then .ok ()
  else .error (.versionMismatch r.version Report.currentVersion)

end AssetCheck
