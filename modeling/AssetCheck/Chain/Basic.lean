import AssetCheck.Host.Basic

/-!
Chains. A chain is the record of the nodes that were built for one asset, from the loader on; every node
but the first takes its input from the one before it.
-/

namespace AssetCheck

/-- Where the value of a parameter comes from. -/
inductive Origin
  | literal
  | token (name : String)
  deriving DecidableEq, Repr

/-- A parameter that was set. -/
structure Assignment where
  name : String
  value : ParamValue
  origin : Origin

structure ChainNode where
  handle : NodeHandle
  typeName : String
  position : Nat
  /-- The position of the node that the input comes from. -/
  input : Option Nat
  assignments : List Assignment

/-- The assignment of a parameter; the first one, if it was set more than once. -/
def ChainNode.assignment? (node : ChainNode) (name : String) : Option Assignment :=
  node.assignments.find? (·.name = name)

/-- The nodes built for an asset. -/
structure Chain where
  id : Nat
  asset : String
  nodes : List ChainNode

namespace Chain

def empty (id : Nat) (asset : String) : Chain := ⟨id, asset, []⟩

/-- A chain with one more node, which takes its input from the last one. -/
def push (c : Chain) (handle : NodeHandle) (typeName : String) (assignments : List Assignment) :
    Chain :=
  let position := c.nodes.length
  let input := if position = 0 then none else some (position - 1)
  { c with nodes := c.nodes ++ [{ handle, typeName, position, input, assignments }] }

def node? (c : Chain) (position : Nat) : Option ChainNode := c.nodes[position]?

def positionOf? (c : Chain) (handle : NodeHandle) : Option Nat :=
  c.nodes.findIdx? (·.handle = handle)

/-- The nodes met on the way back from a position, the nearest one first. -/
def back (c : Chain) : Nat → Option Nat → List ChainNode
  | 0, _ => []
  | _ + 1, none => []
  | steps + 1, some position =>
    match c.node? position with
    | none => []
    | some node => node :: c.back steps node.input

/-- The nodes that a position depends on, the earliest one first. No way back is longer than the chain. -/
def ancestors (c : Chain) (position : Nat) : List ChainNode :=
  (c.back c.nodes.length ((c.node? position).bind (·.input))).reverse

end Chain

end AssetCheck
