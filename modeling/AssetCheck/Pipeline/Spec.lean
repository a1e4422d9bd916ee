import AssetCheck.ParamValue

/-!
Pipelines. A pipeline lists the types of the nodes of a chain and, for each node, its directives: the
parameters to set and the triggers to press.
-/

namespace AssetCheck

/-- What is done to a new node. -/
inductive Directive
  | set (name : String) (value : ParamValue)
  | press (name : String)
  deriving BEq

/-- A parameter that is set. -/
def Directive.parameter? : Directive → Option (String × ParamValue)
  | .set name value => some (name, value)
  | .press _ => none

/-- A trigger that is pressed. -/
def Directive.trigger? : Directive → Option String
  | .set _ _ => none
  | .press name => some name

/-- A node of a chain, with its directives in order. -/
structure NodeSpec where
  typeName : String
  directives : List Directive
  deriving BEq

def NodeSpec.parameters (node : NodeSpec) : List (String × ParamValue) :=
  node.directives.filterMap Directive.parameter?

def NodeSpec.triggers (node : NodeSpec) : List String := node.directives.filterMap Directive.trigger?

/-- The nodes of a chain, from the loader on. -/
structure PipelineSpec where
  nodes : List NodeSpec
  deriving BEq

end AssetCheck
