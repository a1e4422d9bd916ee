import AssetCheck.File.Tree
import AssetCheck.Json.Reader

/-!
Configuration. The names of node types, parameters and triggers differ from studio to studio; what a
configuration file leaves out keeps its usual name.
-/

namespace AssetCheck

open Json (Field Reader Value)

/-- The names that the checks go by. -/
structure Config where
  /-- Types of nodes that load an asset. -/
  loaderTypes : List String := ["file"]
  /-- The parameter of a loader that names the asset. -/
  loaderParameter : String := "file"
  /-- The type of the nodes that write reports. -/
  reportType : String := "report_json"
  /-- The parameter of a report node that names the report. -/
  reportParameter : String := "json_path"
  /-- The trigger that writes a report. -/
  reportTrigger : String := "write"
  /-- Types of nodes that need not give a verdict. -/
  silentTypes : List String := []
  /-- Reports are also printed. -/
  printsReports : Bool := true
  deriving DecidableEq, Repr

namespace Config

/-- Nodes of this type load an asset. -/
def isLoader (c : Config) (nodeType : String) : Bool := nodeType ∈ c.loaderTypes

/-- Nodes of this type need not give a verdict. -/
def isSilent (c : Config) (nodeType : String) : Bool := nodeType ∈ c.silentTypes

def reader : Reader :=
  Json.record "EngineConfig" false
    [.optionally "loader_types" (Json.listOf Json.text), .optionally "loader_file_parm" Json.text,
     .optionally "report_node_type" Json.text, .optionally "report_path_parm" Json.text,
     .optionally "report_trigger" Json.text,
     .optionally "diagnostic_free_types" (Json.listOf Json.text),
     .optionally "render_terminal" Json.flag]

/-- The configuration that a value of its shape stands for. -/
def ofJson (v : Value) : Config :=
  let usual : Config := {}
  { loaderTypes := v.stringsAt "loader_types" usual.loaderTypes
    loaderParameter := v.stringAt "loader_file_parm" usual.loaderParameter
    reportType := v.stringAt "report_node_type" usual.reportType
    reportParameter := v.stringAt "report_path_parm" usual.reportParameter
    reportTrigger := v.stringAt "report_trigger" usual.reportTrigger
    silentTypes := v.stringsAt "diagnostic_free_types" usual.silentTypes
    printsReports := v.boolAt "render_terminal" usual.printsReports }

def read (text : String) : Except Json.Error Config := (reader.read text).map ofJson

/-- Why a configuration file is of no use. -/
inductive LoadError
  | io (error : IoError)
  | json (error : Json.Error)

def load (files : FileTree) (path : String) : Except LoadError Config :=
  match files.readText path with
  | .error e => .error (.io e)
  | .ok text => (read text).mapError .json

end Config

end AssetCheck
