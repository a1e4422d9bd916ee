import AssetCheck.Chain.Error
import AssetCheck.Pipeline.Json
import AssetCheck.Report.Error

/-!
Why a run comes to nothing.
-/

namespace AssetCheck

/-- Why there is no result. -/
inductive Failure
  | spec (error : SpecError)
  | build (error : BuildError)
  | host (error : HostError)
  | report (error : ReportError)
  | io (error : IoError)
  | json (error : Json.Error)
  | other (reason : String)

def Failure.message : Failure → String
  | .spec error => error.message
  | .build error => error.message
  | .host error => error.message
  | .report error => error.message
  | .io error => "IO error: " ++ error.message
  | .json error => "JSON error: " ++ error.message
  | .other reason => reason

/-- The pipeline is at fault, and not the host or the machine. -/
def Failure.isSpecDefect : Failure → Bool
  | .spec _ => true
  | .build error => error.isSpecDefect
  | _ => false

end AssetCheck
