import AssetCheck.Host.Basic
import AssetCheck.Report.Basic
import AssetCheck.Json.Printer

/-!
A host in memory. A scene holds the registered node types and the nodes made of them; a node has at most
one input. Handles count up from one and are never used again, also not after a node is removed.

Cooking a node marks it and all nodes that it depends on; a node gives the warnings and errors of its type
once it is marked.
-/

namespace AssetCheck

/-- A type of nodes: what its nodes start with and what they say. -/
structure NodeType where
  name : String
  parameters : List (String × ParamValue) := []
  triggers : List String := []
  warnings : List String := []
  errors : List String := []
  /-- Nodes of this type make every cooking of theirs fail. -/
  failsCook : Bool := false

structure SceneNode where
  name : String
  typeName : String
  parameters : Table String ParamValue
  input : Option NodeHandle
  cooked : Bool

/-- A graph of nodes and what has been done to it. -/
structure Scene where
  types : Table String NodeType := []
  /-- The nodes in the order in which they were made, which is that of their handles. -/
  nodes : Table NodeHandle SceneNode := []
  /-- How many nodes of a type have been named. -/
  named : Table String Nat := []
  lastHandle : Nat := 0
  fired : List ActionHandle := []
  saved : List String := []
  layouts : Nat := 0

namespace Scene

/-- Registers a type, in the place of one with the same name. -/
def register (s : Scene) (type : NodeType) : Scene := { s with types := s.types.insert type.name type }

/-- A scene with the types for loading an asset and for writing a report. -/
def standard : Scene :=
  ((({} : Scene).register { name := "file", parameters := [("file", .text "")] }).register
    { name := "report_json", parameters := [("json_path", .text "")], triggers := ["write"] })

/-! ## Looking things up -/

def node (s : Scene) (handle : NodeHandle) : Except HostError SceneNode :=
  match s.nodes.get? handle with
  | some node => .ok node
  | none => .error (.unknownHandle handle.id)

def typeOf (s : Scene) (handle : NodeHandle) : Except HostError NodeType := do
  let node ← s.node handle
  match s.types.get? node.typeName with
  | some type => .ok type
  | none => .error (.unknownNodeType node.typeName)

def valueOf? (s : Scene) (handle : NodeHandle) (name : String) : Option ParamValue := do
  (← s.nodes.get? handle).parameters.get? name

/-- A parameter's value, which has to be there. -/
def parameterValue (s : Scene) (parameter : ParameterHandle) : Except HostError ParamValue := do
  let node ← s.node parameter.node
  match node.parameters.get? parameter.name with
  | some value => .ok value
  | none => .error (.failed ("no parm '" ++ parameter.name ++ "'"))

/-- What a node says once it is cooked. -/
def messages (s : Scene) (handle : NodeHandle) (read : NodeType → List String) :
    Except HostError (List String) := do
  let node ← s.node handle
  if node.cooked then return read (← s.typeOf handle) else return []

/-- The nodes that `start` depends on, after those seen so far, which are listed from the last one. The way
ends where a node has no input, and is a cycle where it comes to a node again. -/
def walk (s : Scene) (start : NodeHandle) :
    Nat → List NodeHandle → Option NodeHandle → Except HostError (List NodeHandle)
  | _, seen, none => .ok seen.reverse
  | 0, _, some _ => .error (.failed ("cycle detected upstream of " ++ start.label))
  | steps + 1, seen, some handle =>
    if handle ∈ seen then .error (.failed ("cycle detected upstream of " ++ start.label))
    else do
      let node ← s.node handle
      s.walk start steps (handle :: seen) node.input

/-- A node and those that it depends on, the node first. A way without a cycle has no more steps than the
scene has nodes. -/
def supply (s : Scene) (handle : NodeHandle) : Except HostError (List NodeHandle) := do
  let node ← s.node handle
  s.walk handle s.nodes.length [handle] node.input

/-! ## Changing the scene -/

def updateNode (s : Scene) (handle : NodeHandle) (change : SceneNode → SceneNode) : Scene :=
  { s with nodes := s.nodes.map fun entry =>
      if entry.1 = handle then (entry.1, change entry.2) else entry }

/-- A new node of a type, which is named by its type and a number that counts up. -/
def createNode (typeName : String) : EStateM HostError Scene NodeHandle := fun s =>
  match s.types.get? typeName with
  | none => .error (.unknownNodeType typeName) s
  | some type =>
    let number := (s.named.get? typeName).getD 0 + 1
    let handle : NodeHandle := ⟨s.lastHandle + 1⟩
    let node : SceneNode :=
      { name := typeName ++ toString number
        typeName
        parameters := Table.ofList type.parameters
        input := none
        cooked := false }
    .ok handle
      { s with
        named := s.named.insert typeName number
        lastHandle := s.lastHandle + 1
        nodes := s.nodes ++ [(handle, node)] }

def destroyNode (handle : NodeHandle) : EStateM HostError Scene Unit := fun s =>
  match s.node handle with
  | .error e => .error e s
  | .ok _ =>
    let detach (node : SceneNode) : SceneNode :=
      if node.input = some handle then { node with input := none } else node
    .ok () { s with nodes := (s.nodes.erase handle).map fun entry => (entry.1, detach entry.2) }

def connectInput (handle source : NodeHandle) : EStateM HostError Scene Unit := fun s =>
  match s.node source, s.node handle with
  | .error e, _ => .error e s
  | .ok _, .error e => .error e s
  | .ok _, .ok _ => .ok () (s.updateNode handle fun node => { node with input := some source })

def setParameter (parameter : ParameterHandle) (value : ParamValue) : EStateM HostError Scene Unit :=
  fun s =>
    match s.parameterValue parameter with
    | .error e => .error e s
    | .ok _ =>
      .ok () (s.updateNode parameter.node fun node =>
        { node with parameters := node.parameters.insert parameter.name value })

/-- Presses a trigger of a node; any name will do. -/
def fireTrigger (action : ActionHandle) : EStateM HostError Scene Unit := fun s =>
  match s.node action.node with
  | .error e => .error e s
  | .ok _ => .ok () { s with fired := s.fired ++ [action] }

/-- Marks nodes as cooked in order; the answer is the name of the last one whose type fails. -/
def markCooked : Option String → List NodeHandle → EStateM HostError Scene (Option String)
  | failed, [] => fun s => .ok failed s
  | failed, handle :: rest => fun s =>
    match s.node handle, s.typeOf handle with
    | .ok node, .ok type =>
      markCooked (if type.failsCook then some node.name else failed) rest
        (s.updateNode handle fun node => { node with cooked := true })
    | .error e, _ => .error e s
    | .ok _, .error e => .error e s

/-- Cooks a node and those that it depends on. All are marked, also if one of them fails. -/
def cook (handle : NodeHandle) : EStateM HostError Scene Unit := fun s =>
  match s.supply handle with
  | .error e => .error e s
  | .ok nodes =>
    match markCooked none nodes s with
    | .error e s => .error e s
    | .ok none s => .ok () s
    | .ok (some name) s => .error (.cookFailed ("error while cooking '" ++ name ++ "'")) s

/-- A question that leaves the scene as it is. -/
def query {α : Type} (answer : Scene → Except HostError α) : EStateM HostError Scene α := fun s =>
  match answer s with
  | .ok a => .ok a s
  | .error e => .error e s

def perform : (request : Request) → EStateM HostError Scene request.Answer
  | .createNode typeName => createNode typeName
  | .destroyNode handle => destroyNode handle
  | .connectInput handle source => connectInput handle source
  | .nodeName handle => query fun s => return (← s.node handle).name
  | .nodeType handle => query fun s => return (← s.node handle).typeName
  | .findParameter handle name => query fun s => do
    let node ← s.node handle
    return if (node.parameters.get? name).isSome then some ⟨handle, name⟩ else none
  | .setParameter parameter value => setParameter parameter value
  | .parameterValue parameter => query fun s => s.parameterValue parameter
  | .findTrigger handle name => query fun s => do
    let type ← s.typeOf handle
    return if name ∈ type.triggers then some ⟨handle, name⟩ else none
  | .fireTrigger action => fireTrigger action
  | .cook handle => cook handle
  | .warnings handle => query fun s => s.messages handle (·.warnings)
  | .errors handle => query fun s => s.messages handle (·.errors)
  | .inputs handle => query fun s => return (← s.node handle).input.toList
  | .layout => fun s => .ok () { s with layouts := s.layouts + 1 }

/-! ## Saving -/

/-- The value that stands for a node. -/
def nodeToJson (handle : NodeHandle) (node : SceneNode) : Json.Value :=
  let parameters := node.parameters.mergeSort fun a b => a.1 ≤ b.1
  .object
    [("handle", .nat handle.id), ("name", .string node.name), ("type", .string node.typeName),
     ("input", node.input.elim .null fun input => .nat input.id),
     ("params", .object (parameters.map fun p => (p.1, p.2.toJson)))]

/-- The text of a saved scene: its nodes in the order of their handles. -/
def fileText (s : Scene) : String :=
  (Json.Value.array (s.nodes.map fun entry => nodeToJson entry.1 entry.2)).pretty

def save (path : String) : EStateM HostError (Scene × FileTree) Unit := fun (s, files) =>
  match FileTree.writeWithParents path s.fileText.toUTF8 files with
  | .ok () files => .ok () ({ s with saved := s.saved ++ [path] }, files)
  | .error e files => .error (.io e) (s, files)

def host : Host Scene := ⟨perform, save, fun s => s.nodes.length + 1⟩

end Scene

end AssetCheck
