import AssetCheck.Chain.Basic
import AssetCheck.Chain.Error
import AssetCheck.Pipeline.Spec
import AssetCheck.Substitution
import AssetCheck.Trigger.Basic

/-!
Building a chain on a host: each node of a pipeline is made, its directives are followed, and it is
connected to the node before it. When a step fails, the nodes made so far are removed again, the last one
first.
-/

namespace AssetCheck

/-- A host and the number of the next chain. -/
structure Workbench (σ : Type) where
  host : σ
  nextChain : Nat

/-- A host and the nodes made on it for the chain at hand, the last one first. -/
structure Building (σ : Type) where
  host : σ
  created : List NodeHandle

/-- A chain and the triggers to press when all chains are built. -/
structure BuiltChain where
  chain : Chain
  triggers : List Trigger

/-- The parts of a node that its directives have given so far. -/
structure NodeParts where
  assignments : List Assignment
  triggers : List Trigger

namespace Build

variable {σ : Type} (h : Host σ)

/-- A request to the host in the course of building. -/
def ask {α : Type} (request : EStateM HostError σ α) : EStateM BuildError (Building σ) α := fun b =>
  match request b.host with
  | .ok answer host => .ok answer { b with host }
  | .error e host => .error (.host e) { b with host }

/-- Makes a node. A type that the host does not know is a fault of the pipeline. -/
def createNode (typeName : String) : EStateM BuildError (Building σ) NodeHandle := fun b =>
  match h.createNode typeName b.host with
  | .ok node host => .ok node { host, created := node :: b.created }
  | .error (.unknownNodeType _) host => .error (.unknownNodeType typeName) { b with host }
  | .error e host => .error (.host e) { b with host }

/-- The value that a parameter is set to, with where it comes from. -/
def resolve (subs : Substitutions) (literal : ParamValue) : ParamValue × Origin :=
  match subs.lookup? literal with
  | some (token, value) => (.text value, .token token)
  | none => (literal, .literal)

def followDirective (subs : Substitutions) (chain position : Nat) (typeName : String)
    (node : NodeHandle) (parts : NodeParts) (directive : Directive) :
    EStateM BuildError (Building σ) NodeParts := do
  match directive with
  | .set name literal =>
    match ← ask (h.findParameter node name) with
    | none => throw (.unknownParameter typeName name)
    | some parameter =>
      let (value, origin) := resolve subs literal
      ask (h.setParameter parameter value)
      return { parts with assignments := parts.assignments ++ [{ name, value, origin }] }
  | .press name =>
    match ← ask (h.findTrigger node name) with
    | none => throw (.unknownTrigger typeName name)
    | some action =>
      let trigger : Trigger := { chain, position, nodeType := typeName, name, action }
      return { parts with triggers := parts.triggers ++ [trigger] }

def followDirectives (subs : Substitutions) (chain position : Nat) (typeName : String)
    (node : NodeHandle) : NodeParts → List Directive → EStateM BuildError (Building σ) NodeParts
  | parts, [] => pure parts
  | parts, directive :: rest => do
    let parts ← followDirective h subs chain position typeName node parts directive
    followDirectives subs chain position typeName node parts rest

def addNode (subs : Substitutions) (built : BuiltChain) (spec : NodeSpec) :
    EStateM BuildError (Building σ) BuiltChain := do
  let node ← createNode h spec.typeName
  let position := built.chain.nodes.length
  let parts ←
    followDirectives h subs built.chain.id position spec.typeName node ⟨[], []⟩ spec.directives
  match built.chain.nodes.getLast? with
  | some previous => ask (h.connectInput node previous.handle)
  | none => pure ()
  return {
    chain := built.chain.push node spec.typeName parts.assignments
    triggers := built.triggers ++ parts.triggers }

def addNodes (subs : Substitutions) : BuiltChain → List NodeSpec →
    EStateM BuildError (Building σ) BuiltChain
  | built, [] => pure built
  | built, spec :: rest => do
    let built ← addNode h subs built spec
    addNodes subs built rest

/-- Removes nodes in order, whether or not the host agrees. -/
def rollback : List NodeHandle → σ → σ
  | [], host => host
  | node :: rest, host =>
    match h.destroyNode node host with
    | .ok () host => rollback rest host
    | .error _ host => rollback rest host

end Build

/-- Builds the chain of a pipeline. The number of a chain that could not be built is not used again. -/
def build {σ : Type} (h : Host σ) (spec : PipelineSpec) (subs : Substitutions) :
    EStateM BuildError (Workbench σ) BuiltChain := fun bench =>
  let start : BuiltChain :=
    ⟨.empty bench.nextChain ((subs.get? Substitutions.assetInput).getD ""), []⟩
  let next (host : σ) : Workbench σ := ⟨host, bench.nextChain + 1⟩
  match Build.addNodes h subs start spec.nodes ⟨bench.host, []⟩ with
  | .ok built b => .ok built (next b.host)
  | .error e b => .error e (next (Build.rollback h b.created b.host))

end AssetCheck
