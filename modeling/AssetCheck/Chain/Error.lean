import AssetCheck.Host.Basic

/-!
Why a chain cannot be built.
-/

namespace AssetCheck

/-- Why there is no chain. -/
inductive BuildError
  | unknownNodeType (typeName : String)
  | unknownParameter (typeName name : String)
  | unknownTrigger (typeName name : String)
  | repeatedSubstitution (text : String)
  | host (error : HostError)
  deriving DecidableEq, Repr

def BuildError.message : BuildError → String
  | .unknownNodeType typeName => "Invalid node name: '" ++ typeName ++ "'"
  | .unknownParameter typeName name => "Invalid parm name: '" ++ name ++ "' in '" ++ typeName ++ "'"
  | .unknownTrigger typeName name => "Invalid button name: '" ++ name ++ "' in '" ++ typeName ++ "'"
  | .repeatedSubstitution text => "Substitution value '" ++ text ++ "' is bound to more than one token"
  | .host error => error.message

/-- The pipeline asks for what the host does not have. -/
def BuildError.isSpecDefect : BuildError → Bool
  | .unknownNodeType _ | .unknownParameter .. | .unknownTrigger .. => true
  | .repeatedSubstitution _ | .host _ => false

end AssetCheck
