import AssetCheck.Chain.Basic
import AssetCheck.Identity
import AssetCheck.Verdict

/-!
Collecting a report. The node at which a report is taken is cooked, and then the nodes that it depends on
are asked for their verdicts, the earliest one first. A report is also taken when cooking fails.

The nodes are known from the chain, or found by following the inputs of the host's graph.
-/

namespace AssetCheck

/-- What a run is set up with. -/
structure Setting where
  config : Config
  identity : Identity
  /-- The time that reports are stamped with. -/
  now : String

namespace Collect

variable {σ : Type} (h : Host σ) (setting : Setting)

abbrev TypedNode := NodeHandle × String

/-- A request to the host in the course of making a report. -/
def ask {α : Type} (request : EStateM HostError σ α) : EStateM ReportError σ α :=
  EStateM.adaptExcept .host request

/-- Cooks a node and tells whether that went well. -/
def cookSuccess (node : NodeHandle) : EStateM ReportError σ Bool := fun host =>
  match h.cook node host with
  | .ok () host => .ok true host
  | .error _ host => .ok false host

/-- The name of a node, or its handle if the host will not tell. -/
def nameOrLabel (node : NodeHandle) : EStateM ReportError σ String := fun host =>
  match h.nodeName node host with
  | .ok name host => .ok name host
  | .error _ host => .ok node.label host

def missingLoader {α : Type} (terminal : NodeHandle) : EStateM ReportError σ α := do
  throw (.missingLoader (← nameOrLabel h terminal))

/-- The path of the asset, from the parameter of the first node. -/
def assetPath (terminal : NodeHandle) (nodes : List TypedNode) : EStateM ReportError σ String := do
  match nodes with
  | [] => missingLoader h terminal
  | (loader, _) :: _ =>
    match ← ask (h.findParameter loader setting.config.loaderParameter) with
    | none => missingLoader h terminal
    | some parameter => return (← ask (h.parameterValue parameter)).asPath

def diagnostic (node : TypedNode) : EStateM ReportError σ Diagnostic := do
  let name ← ask (h.nodeName node.1)
  let warnings ← ask (h.warnings node.1)
  let errors ← ask (h.errors node.1)
  match Verdict.classify name node.2 warnings errors setting.config with
  | .ok d => return d
  | .error e => throw e

/-- The diagnostics of nodes in order; loaders give none. -/
def diagnostics : List TypedNode → EStateM ReportError σ (List Diagnostic)
  | [] => pure []
  | node :: rest => do
    if setting.config.isLoader node.2 then diagnostics rest
    else
      let d ← diagnostic h setting node
      let ds ← diagnostics rest
      return d :: ds

/-- The report on the nodes before a terminal one. -/
def fromNodes (terminal : NodeHandle) (nodes : List TypedNode) : EStateM ReportError σ Report := do
  let cookSuccess ← cookSuccess h terminal
  let assetPath ← assetPath h setting terminal nodes
  let diagnostics ← diagnostics h setting nodes
  return {
    assetPath, cookSuccess, diagnostics
    host := setting.identity.host
    timestamp := setting.now
    user := setting.identity.user
    version := Report.currentVersion }

def fromChain (chain : Chain) (position : Nat) : EStateM ReportError σ Report := do
  match chain.node? position with
  | none =>
    throw (.host (.failed
      ("chain " ++ toString chain.id ++ " has no node at position " ++ toString position)))
  | some terminal =>
    fromNodes h setting terminal.handle
      ((chain.ancestors position).map fun node => (node.handle, node.typeName))

/-! ## Without a chain -/

/-- The nodes that `node` depends on and then those seen so far, the earliest one first. Only the first input
of a node counts; a way that comes to a node again, or takes more than the given steps, is a cycle. -/
def followInputs (terminal : NodeHandle) :
    Nat → List NodeHandle → NodeHandle → EStateM ReportError σ (List NodeHandle)
  | steps, seen, node => do
    match ← ask (h.inputs node) with
    | [] => return seen
    | input :: _ =>
      let cycle : ReportError := .host (.protocol
        ("input cycle through " ++ input.label ++ " upstream of " ++ terminal.label))
      match steps with
      | 0 => throw cycle
      | steps + 1 =>
        if input = terminal ∨ input ∈ seen then throw cycle
        else followInputs terminal steps (input :: seen) input

/-- Nodes with the types that the host gives them. -/
def withTypes : List NodeHandle → EStateM ReportError σ (List TypedNode)
  | [] => pure []
  | node :: rest => do
    let type ← ask (h.nodeType node)
    let rest ← withTypes rest
    return (node, type) :: rest

/-- The report at a node, by the inputs that the host's graph gives. -/
def fromInputs (terminal : NodeHandle) : EStateM ReportError σ Report := fun host =>
  let report : EStateM ReportError σ Report := do
    let nodes ← followInputs h terminal (h.reach host) [] terminal
    let nodes ← withTypes h nodes
    fromNodes h setting terminal nodes
  report host

end Collect

end AssetCheck
