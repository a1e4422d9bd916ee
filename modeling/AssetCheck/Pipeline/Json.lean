import AssetCheck.Pipeline.Spec
import AssetCheck.Text.Blank
import AssetCheck.Text.Pieces

/-!
Pipelines in JSON. The root is an object whose only key is `nodes`. Each node is an object with its type
under `type_name`, or under the older key `node_type_name`; every other key is `parm_` or `press_`
followed by the name of a parameter or a trigger.
-/

namespace AssetCheck

/-- Why a text or a value is no pipeline. -/
inductive SpecError
  | notJson (reason : String)
  | wrongRoot (found : List String)
  | nodesNotList
  | notObject (index : Nat)
  | missingTypeName (index : Nat)
  | badTypeName (index : Nat) (key : String)
  | badValue (index : Nat) (key : String)
  | unknownKey (index : Nat) (key : String)
  deriving DecidableEq, Repr

def SpecError.message : SpecError → String
  | .notJson reason => "Pipeline is not valid JSON: " ++ reason
  | .wrongRoot found =>
    "Pipeline root must contain exactly one key 'nodes', found [" ++
      String.intercalate ", " found ++ "]"
  | .nodesNotList => "Pipeline nodes must be a list"
  | .notObject index => "Pipeline nodes[" ++ toString index ++ "] must be an object"
  | .missingTypeName index => "Pipeline node " ++ toString index ++ " is missing 'type_name'"
  | .badTypeName index key =>
    "Pipeline nodes[" ++ toString index ++ "]." ++ key ++ " must be a non-empty string"
  | .badValue index key =>
    "Pipeline nodes[" ++ toString index ++ "]." ++ key ++ " must be a boolean, number, or string"
  | .unknownKey index key =>
    "Pipeline node " ++ toString index ++ " has unexpected key '" ++ key ++ "'"

namespace PipelineSpec

def nodesKey : String := "nodes"
def typeNameKey : String := "type_name"
def olderTypeNameKey : String := "node_type_name"
def parameterLead : String := "parm_"
def triggerLead : String := "press_"

/-! ## Writing -/

def directiveMember : Directive → String × Json.Value
  | .set name value => (parameterLead ++ name, value.toJson)
  | .press name => (triggerLead ++ name, .bool true)

def nodeToJson (node : NodeSpec) : Json.Value :=
  .ofMembers ((typeNameKey, .string node.typeName) :: node.directives.map directiveMember)

def toJson (spec : PipelineSpec) : Json.Value :=
  .object [(nodesKey, .array (spec.nodes.map nodeToJson))]

/-! ## Reading -/

/-- The name after a lead, if it is not empty. -/
def nameAfter? (lead key : String) : Option String := (Text.after? lead key).filter (· ≠ "")

/-- A key under which a node's type may stand. -/
def isTypeKey (key : String) : Bool := key = typeNameKey || key = olderTypeNameKey

def readDirective (index : Nat) (key : String) (value : Json.Value) : Except SpecError Directive :=
  match nameAfter? parameterLead key with
  | some name =>
    match ParamValue.ofJson? value with
    | some value => .ok (.set name value)
    | none => .error (.badValue index key)
  | none =>
    match nameAfter? triggerLead key with
    | some name => .ok (.press name)
    | none => .error (.unknownKey index key)

/-- The name under a node's type key. -/
def readTypeName (index : Nat) (key : String) (members : Table String Json.Value) :
    Except SpecError String :=
  match members.get? key with
  | some (.string name) => if Text.isAllBlank name then .error (.badTypeName index key) else .ok name
  | _ => .error (.badTypeName index key)

/-- One node: first its type, then the other members in order. -/
def readNode (index : Nat) (element : Json.Value) : Except SpecError NodeSpec :=
  match element with
  | .object members =>
    match (Table.keys members).filter isTypeKey with
    | [] => .error (.missingTypeName index)
    | [typeKey] => do
      let typeName ← readTypeName index typeKey members
      let directives ← (members.filter (·.1 ≠ typeKey)).mapM fun m => readDirective index m.1 m.2
      .ok { typeName, directives }
    | _ :: second :: _ => .error (.unknownKey index second)
  | _ => .error (.notObject index)

/-- Nodes from an index on; the first bad one is reported. -/
def readNodes : Nat → List Json.Value → Except SpecError (List NodeSpec)
  | _, [] => .ok []
  | index, element :: rest => do
    let node ← readNode index element
    let nodes ← readNodes (index + 1) rest
    .ok (node :: nodes)

def ofJson (raw : Json.Value) : Except SpecError PipelineSpec :=
  match raw with
  | .object [(key, value)] =>
    if key = nodesKey then
      match value with
      | .array elements => (readNodes 0 elements).map PipelineSpec.mk
      | _ => .error .nodesNotList
    else .error (.wrongRoot [key])
  | .object members => .error (.wrongRoot (Table.keys members))
  | _ => .error (.wrongRoot [])

def parse (text : String) : Except SpecError PipelineSpec :=
  match Json.parse text with
  | .ok raw => ofJson raw
  | .error e => .error (.notJson e.message)

end PipelineSpec

end AssetCheck
