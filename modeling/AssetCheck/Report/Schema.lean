import AssetCheck.Json.Value
import AssetCheck.Report.Basic

/-!
The published schema of report files.
-/

namespace AssetCheck.Report

open Json (Value)

def stringSchema : Value := .object [("type", .string "string")]

/-- The schema of a string with one more keyword. -/
def stringSchemaWith (keyword : String) (value : Value) : Value :=
  .object [("type", .string "string"), (keyword, value)]

def strings (ss : List String) : Value := .array (ss.map .string)

/-- The schema of an object that has the given members and no others. -/
def closedObject (properties : List (String × Value)) : List (String × Value) :=
  [("type", .string "object"), ("additionalProperties", .bool false),
   ("required", strings (properties.map (·.1))), ("properties", .object properties)]

def diagnosticSchema : Value :=
  .object <| closedObject
    [("message", stringSchema), ("node_name", stringSchema), ("node_type", stringSchema),
     ("status", stringSchemaWith "enum" (strings (Status.all.map Status.name)))]

def schema : Value :=
  .object <|
    [("$schema", .string "http://json-schema.org/draft-07/schema#"),
     ("title", .string "QA report")] ++
    closedObject
      [("asset_path", stringSchema), ("cook_success", .object [("type", .string "boolean")]),
       ("diagnostics", .object [("type", .string "array"), ("items", diagnosticSchema)]),
       ("host", stringSchema), ("timestamp", stringSchemaWith "format" (.string "date-time")),
       ("user", stringSchema), ("version", stringSchemaWith "const" (.string currentVersion))]

end AssetCheck.Report
