import AssetCheck.Config
import AssetCheck.Report.Error
import AssetCheck.Report.Json

/-!
Verdicts. A node gives its verdict in its first warning, as a record of a verdict and a message behind a
fixed lead. A node with errors fails whatever it warns of, and a node that is silent has failed unless
its type need not give a verdict.
-/

namespace AssetCheck.Verdict

open Json (Field Reader Value)

/-- What the warnings of a host begin with. -/
def lead : String := "Vex error: "

/-- The message for a node that is silent. -/
def silence : String := "node produced no verdict"

/-- The warning by which a node gives a verdict. -/
def warning (status message : String) : String :=
  lead ++ (Value.object [("status", .string status), ("message", .string message)]).pretty

def reader : Reader :=
  Json.record "WarningRecord" false
    [.required "status" Status.reader, .required "message" Json.text]

def read (text : String) : Except Json.Error (Status × String) :=
  (reader.read text).map fun v =>
    ((Status.ofName? (v.stringAt "status" "")).getD .error, v.stringAt "message" "")

/-- What a node says about itself by its warnings and errors. -/
def classify (nodeName nodeType : String) (warnings errors : List String) (config : Config) :
    Except ReportError Diagnostic :=
  let diagnostic (status : Status) (message : String) : Diagnostic :=
    { message, nodeName, nodeType, status }
  let failure := String.intercalate "\n" errors
  if failure ≠ "" then .ok (diagnostic .error failure)
  else
    match warnings with
    | first :: _ =>
      match read ((Text.after? lead first).getD first) with
      | .ok (status, message) => .ok (diagnostic status message)
      | .error e => .error (.malformedWarning nodeName first e.message)
    | [] =>
      if config.isSilent nodeType then .ok (diagnostic .pass "") else .ok (diagnostic .error silence)

end AssetCheck.Verdict
