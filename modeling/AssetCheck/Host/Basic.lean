import AssetCheck.File.Tree
import AssetCheck.ParamValue

/-!
Hosts. A host is a program that keeps a graph of nodes and answers requests about it; it is reached
through handles for nodes, parameters and triggers. What a host may do is open: any function from its
state and a request to an answer and a state is a host.
-/

namespace AssetCheck

structure NodeHandle where
  id : Nat
  deriving DecidableEq, Repr

/-- The handle as messages show it. -/
def NodeHandle.label (node : NodeHandle) : String := "#" ++ toString node.id

/-- A parameter of a node. -/
structure ParameterHandle where
  node : NodeHandle
  name : String
  deriving DecidableEq, Repr

/-- A trigger of a node. -/
structure ActionHandle where
  node : NodeHandle
  name : String
  deriving DecidableEq, Repr

/-- Why a host refuses a request. -/
inductive HostError
  | unknownNodeType (name : String)
  | unknownHandle (id : Nat)
  | failed (reason : String)
  | cookFailed (reason : String)
  | protocol (reason : String)
  | io (error : IoError)
  deriving DecidableEq, Repr

def HostError.message : HostError → String
  | .unknownNodeType name => "Invalid node type name: '" ++ name ++ "'"
  | .unknownHandle id => "Host has no object with handle " ++ toString id
  | .failed reason => "Host operation failed: " ++ reason
  | .cookFailed reason => "Cook failed: " ++ reason
  | .protocol reason => "Host protocol error: " ++ reason
  | .io error => "Host IO error: " ++ error.message

/-- What a host can be asked about its graph. -/
inductive Request
  | createNode (typeName : String)
  | destroyNode (node : NodeHandle)
  | connectInput (node source : NodeHandle)
  | nodeName (node : NodeHandle)
  | nodeType (node : NodeHandle)
  | findParameter (node : NodeHandle) (name : String)
  | setParameter (parameter : ParameterHandle) (value : ParamValue)
  | parameterValue (parameter : ParameterHandle)
  | findTrigger (node : NodeHandle) (name : String)
  | fireTrigger (action : ActionHandle)
  | cook (node : NodeHandle)
  | warnings (node : NodeHandle)
  | errors (node : NodeHandle)
  | inputs (node : NodeHandle)
  | layout

abbrev Request.Answer : Request → Type
  | .createNode _ => NodeHandle
  | .nodeName _ | .nodeType _ => String
  | .findParameter .. => Option ParameterHandle
  | .parameterValue _ => ParamValue
  | .findTrigger .. => Option ActionHandle
  | .warnings _ | .errors _ => List String
  | .inputs _ => List NodeHandle
  | .destroyNode _ | .connectInput .. | .setParameter .. | .fireTrigger _ | .cook _ | .layout => Unit

/-- A host with states of type `σ`. Only saving the scene touches files. -/
structure Host (σ : Type) where
  perform : (request : Request) → EStateM HostError σ request.Answer
  saveScene : String → EStateM HostError (σ × FileTree) Unit
  /-- How often the inputs of nodes are worth asking for on one way back: a longer way comes to a node
  again, or to the end of the host's answers. -/
  reach : σ → Nat

namespace Host

variable {σ : Type} (h : Host σ)

def createNode (typeName : String) : EStateM HostError σ NodeHandle := h.perform (.createNode typeName)

def destroyNode (node : NodeHandle) : EStateM HostError σ Unit := h.perform (.destroyNode node)

def connectInput (node source : NodeHandle) : EStateM HostError σ Unit :=
  h.perform (.connectInput node source)

def nodeName (node : NodeHandle) : EStateM HostError σ String := h.perform (.nodeName node)

def nodeType (node : NodeHandle) : EStateM HostError σ String := h.perform (.nodeType node)

def findParameter (node : NodeHandle) (name : String) :
    EStateM HostError σ (Option ParameterHandle) :=
  h.perform (.findParameter node name)

def setParameter (parameter : ParameterHandle) (value : ParamValue) : EStateM HostError σ Unit :=
  h.perform (.setParameter parameter value)

def parameterValue (parameter : ParameterHandle) : EStateM HostError σ ParamValue :=
  h.perform (.parameterValue parameter)

def findTrigger (node : NodeHandle) (name : String) : EStateM HostError σ (Option ActionHandle) :=
  h.perform (.findTrigger node name)

/-- Presses a trigger. -/
def fireTrigger (action : ActionHandle) : EStateM HostError σ Unit := h.perform (.fireTrigger action)

def cook (node : NodeHandle) : EStateM HostError σ Unit := h.perform (.cook node)

def warnings (node : NodeHandle) : EStateM HostError σ (List String) := h.perform (.warnings node)

def errors (node : NodeHandle) : EStateM HostError σ (List String) := h.perform (.errors node)

def inputs (node : NodeHandle) : EStateM HostError σ (List NodeHandle) := h.perform (.inputs node)

/-- Arranges the graph for the eye. -/
def layout : EStateM HostError σ Unit := h.perform .layout

end Host

end AssetCheck
