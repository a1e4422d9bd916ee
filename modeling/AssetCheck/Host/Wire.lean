import AssetCheck.Host.Basic
import AssetCheck.Json.Reader
import AssetCheck.Text.Blank

/-!
Requests and replies as lines of JSON. A request carries a number, the name of its operation and its
arguments; a reply carries the number of its request and a value, or an error of some kind.
-/

namespace AssetCheck.Wire

open Json (Field Reader Value)

/-! ## Requests -/

def operation : Request → String
  | .createNode _ => "create_node"
  | .destroyNode _ => "destroy_node"
  | .connectInput .. => "connect_input"
  | .nodeName _ => "node_name"
  | .nodeType _ => "node_type"
  | .findParameter .. => "get_parameter"
  | .setParameter .. => "set_parameter"
  | .parameterValue _ => "parameter_value"
  | .findTrigger .. => "get_trigger"
  | .fireTrigger _ => "fire_trigger"
  | .cook _ => "cook"
  | .warnings _ => "warnings"
  | .errors _ => "errors"
  | .inputs _ => "inputs"
  | .layout => "layout"

def node (handle : NodeHandle) : String × Value := ("node", .nat handle.id)

def name (s : String) : String × Value := ("name", .string s)

def arguments : Request → List (String × Value)
  | .createNode typeName => [("type_name", .string typeName)]
  | .connectInput handle source =>
    [node handle, ("upstream", .nat source.id), ("slot", .nat 0)]
  | .findParameter handle parameter => [node handle, name parameter]
  | .setParameter parameter value =>
    [node parameter.node, name parameter.name, ("value", value.toJson)]
  | .parameterValue parameter => [node parameter.node, name parameter.name]
  | .findTrigger handle trigger => [node handle, name trigger]
  | .fireTrigger action => [node action.node, name action.name]
  | .destroyNode handle | .nodeName handle | .nodeType handle | .cook handle | .warnings handle
  | .errors handle | .inputs handle => [node handle]
  | .layout => []

def requestLine (id : Nat) (operation : String) (arguments : List (String × Value)) : String :=
  (Value.object
    [("id", .nat id), ("op", .string operation), ("args", .object arguments)]).compact

/-! ## Replies -/

/-- Reads the shape of an error. -/
def errorReader : Reader :=
  Json.record "WireError" false [.required "kind" Json.text, .optionally "message" Json.text]

/-- Reads the shape of a reply. -/
def replyReader : Reader :=
  Json.record "WireResponse" false
    [.required "id" Json.natural, .optionally "ok" Json.anything,
     .optionally "error" (Json.nullOr errorReader)]

/-- A whole number in decimal digits, with or without a plus sign, in 64 bits. -/
def readHandle? (s : String) : Option Nat :=
  let ds :=
    match s.toList with
    | '+' :: rest => rest
    | cs => cs
  if ds ≠ [] ∧ ds.all Char.isDigit ∧ Decimal.ofDigits ds < UInt64.size then some (Decimal.ofDigits ds)
  else none

/-- The error that a reply reports. -/
def errorOf (kind message : String) : HostError :=
  match kind with
  | "unknown_node_type" => .unknownNodeType message
  | "unknown_handle" =>
    match readHandle? (Text.trim message) with
    | some id => .unknownHandle id
    | none => .failed message
  | "cook_failed" => .cookFailed message
  | _ => .failed (kind ++ ": " ++ message)

/-- The value that a reply to the request with a number brings; an error counts before a value. -/
def readReply (id : Nat) (line : String) : Except HostError Value := do
  let reply ← (replyReader.read (Text.trim line)).mapError fun e =>
    .protocol ("invalid bridge reply: " ++ e.message)
  let replyId := ((reply.member? "id").bind (·.asNat?)).getD 0
  if replyId ≠ id then
    .error (.protocol ("reply id " ++ toString replyId ++ " does not match request id " ++ toString id))
  else
    match (reply.member? "error").filter (·.asObject?.isSome) with
    | some e => .error (errorOf (e.stringAt "kind" "") (e.stringAt "message" ""))
    | none => .ok ((reply.member? "ok").getD .null)

def answer? : (request : Request) → Value → Option request.Answer
  | .createNode _, v => v.asNat?.map NodeHandle.mk
  | .nodeName _, v => v.asString?
  | .nodeType _, v => v.asString?
  | .findParameter handle name, v => v.asBool?.map (if · then some ⟨handle, name⟩ else none)
  | .parameterValue _, v => ParamValue.ofJson? v
  | .findTrigger handle name, v => v.asBool?.map (if · then some ⟨handle, name⟩ else none)
  | .warnings _, v => v.asStrings?
  | .errors _, v => v.asStrings?
  | .inputs _, v => v.asNats?.map (·.map NodeHandle.mk)
  | .destroyNode _, _ => some ()
  | .connectInput .., _ => some ()
  | .setParameter .., _ => some ()
  | .fireTrigger _, _ => some ()
  | .cook _, _ => some ()
  | .layout, _ => some ()

def expected : Request → String
  | .createNode _ => "a node handle"
  | .nodeName _ | .nodeType _ => "a string"
  | .findParameter .. | .findTrigger .. => "a boolean"
  | .parameterValue _ => "a scalar"
  | .warnings _ | .errors _ => "a list of strings"
  | .inputs _ => "a list of handles"
  | .destroyNode _ | .connectInput .. | .setParameter .. | .fireTrigger _ | .cook _ | .layout => "anything"

/-- The answer to a request from the value of its reply. -/
def answer (request : Request) (v : Value) : Except HostError request.Answer :=
  match answer? request v with
  | some a => .ok a
  | none =>
    .error (.protocol
      ("'" ++ operation request ++ "' returned " ++ v.compact ++ ", expected " ++ expected request))

end AssetCheck.Wire
