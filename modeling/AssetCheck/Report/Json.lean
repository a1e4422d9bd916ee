import AssetCheck.Json.Reader
import AssetCheck.Report.Basic

/-!
Reports in JSON. The members of a written report are in alphabetical order; a report that is read may
have them in any order, but has to have each of them once and nothing else.
-/

namespace AssetCheck

open Json (Field Reader Value)

def Diagnostic.toJson (d : Diagnostic) : Value :=
  .object
    [("message", .string d.message), ("node_name", .string d.nodeName),
     ("node_type", .string d.nodeType), ("status", .string d.status.name)]

def Report.toJson (r : Report) : Value :=
  .object
    [("asset_path", .string r.assetPath), ("cook_success", .bool r.cookSuccess),
     ("diagnostics", .array (r.diagnostics.map Diagnostic.toJson)), ("host", .string r.host),
     ("timestamp", .string r.timestamp), ("user", .string r.user), ("version", .string r.version)]

/-- The text of a report file: one member a line, and a line feed at the end. -/
def Report.fileText (r : Report) : String := r.toJson.pretty ++ "\n"

/-! ## Reading -/

/-- Reads the name of a verdict. -/
def Status.reader : Reader := Json.oneOf (Status.all.map Status.name)

def Diagnostic.reader : Reader :=
  Json.record "NodeDiagnostic" true
    [.required "message" Json.text, .required "node_name" Json.text,
     .required "node_type" Json.text, .required "status" Status.reader]

def Report.reader : Reader :=
  Json.record "Report" true
    [.required "asset_path" Json.text, .required "cook_success" Json.flag,
     .required "diagnostics" (Json.listOf Diagnostic.reader), .required "host" Json.text,
     .required "timestamp" Json.text, .required "user" Json.text, .required "version" Json.text]

def Diagnostic.ofJson (v : Value) : Diagnostic :=
  { message := v.stringAt "message" ""
    nodeName := v.stringAt "node_name" ""
    nodeType := v.stringAt "node_type" ""
    status := (Status.ofName? (v.stringAt "status" "")).getD .error }

def Report.ofJson (v : Value) : Report :=
  { assetPath := v.stringAt "asset_path" ""
    cookSuccess := v.boolAt "cook_success" false
    diagnostics := (v.elementsAt "diagnostics").map Diagnostic.ofJson
    host := v.stringAt "host" ""
    timestamp := v.stringAt "timestamp" ""
    user := v.stringAt "user" ""
    version := v.stringAt "version" "" }

def Status.read (text : String) : Except Json.Error Status :=
  (Status.reader.read text).map fun v => (v.asString?.bind Status.ofName?).getD .error

def Report.read (text : String) : Except Json.Error Report := (Report.reader.read text).map Report.ofJson

theorem Diagnostic.ofJson_toJson (d : Diagnostic) : Diagnostic.ofJson d.toJson = d := by
  cases d
  simp [toJson, ofJson, Value.stringAt, Value.member?, Value.asObject?, Table.get?_cons,
    Value.asString?]

theorem Report.ofJson_toJson (r : Report) : Report.ofJson r.toJson = r := by
  have h : Diagnostic.ofJson ∘ Diagnostic.toJson = id := funext Diagnostic.ofJson_toJson
  cases r
  simp [toJson, ofJson, Value.stringAt, Value.boolAt, Value.elementsAt, Value.member?,
    Value.asObject?, Table.get?_cons, Value.asString?, Value.asBool?, Value.asArray?, h]

end AssetCheck
