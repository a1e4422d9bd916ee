import AssetCheck.Report.Error

/-!
Triggers. A trigger that a pipeline presses is only noted while chains are built; what came of pressing
it is kept as a record.
-/

namespace AssetCheck

/-- A trigger to press, and the node of a chain that it belongs to. -/
structure Trigger where
  chain : Nat
  position : Nat
  nodeType : String
  name : String
  action : ActionHandle
  deriving DecidableEq, Repr

inductive HookResult
  | reportWritten (path : String) (passed : Bool)
  | done
  deriving DecidableEq, Repr

/-- What came of a trigger. -/
inductive Outcome
  | fired
  | hooked (result : HookResult)
  | hostFailed (error : HostError)
  | hookFailed (error : ReportError)

/-- The trigger did not do its work. -/
def Outcome.isFailure : Outcome → Bool
  | .hostFailed _ | .hookFailed _ => true
  | .fired | .hooked _ => false

structure Record where
  chain : Nat
  nodeType : String
  name : String
  outcome : Outcome

end AssetCheck
