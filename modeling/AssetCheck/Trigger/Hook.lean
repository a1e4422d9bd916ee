import AssetCheck.Report.Collect
import AssetCheck.Report.File
import AssetCheck.Report.Tree
import AssetCheck.Trigger.Basic

/-!
Hooks. A hook takes the place of a trigger of some node type: pressing the trigger runs the hook and does
not reach the host. The usual hook collects the report of a chain, writes it to the file that a parameter
of the report node names, and prints it.
-/

namespace AssetCheck

/-- A text that a stream was offered, and how many bytes of it arrived. -/
structure Offer where
  text : String
  taken : Nat

/-- A text that arrives as a whole. -/
def Offer.whole (text : String) : Offer := ⟨text, text.utf8ByteSize⟩

/-- The bytes that arrived. -/
def Offer.bytes (offer : Offer) : List UInt8 := (Json.bytesOf offer.text.toList).take offer.taken

/-- The characters that arrived as a whole. -/
def Offer.part (offer : Offer) : String := String.ofList (Text.fitting offer.taken offer.text.toList)

/-- A stream of text. All that it was offered before decides whether it takes the next text, or refuses
it when so many bytes of it have arrived. -/
structure Output where
  offers : List Offer := []
  refuses : List Offer → String → Option (IoError × Nat) := fun _ _ => none

def Output.bytes (o : Output) : List UInt8 := o.offers.flatMap Offer.bytes

def Output.text (o : Output) : String := String.join (o.offers.map Offer.part)

def Output.write (text : String) : EStateM IoError Output Unit := fun o =>
  match o.refuses o.offers text with
  | none => .ok () { o with offers := o.offers ++ [.whole text] }
  | some (e, taken) => .error e { o with offers := o.offers ++ [⟨text, taken⟩] }

/-- All that triggers can change. -/
structure Stage (σ : Type) where
  host : σ
  files : FileTree
  out : Output

def Stage.onHost {ε σ α : Type} (step : EStateM ε σ α) : EStateM ε (Stage σ) α := fun stage =>
  match step stage.host with
  | .ok a host => .ok a { stage with host }
  | .error e host => .error e { stage with host }

def Stage.onFiles {ε σ α : Type} (step : EStateM ε FileTree α) : EStateM ε (Stage σ) α := fun stage =>
  match step stage.files with
  | .ok a files => .ok a { stage with files }
  | .error e files => .error e { stage with files }

def Stage.onOutput {ε σ α : Type} (step : EStateM ε Output α) : EStateM ε (Stage σ) α := fun stage =>
  match step stage.out with
  | .ok a out => .ok a { stage with out }
  | .error e out => .error e { stage with out }

/-- What takes the place of a trigger. -/
abbrev Hook (σ : Type) := Setting → Chain → Trigger → EStateM ReportError (Stage σ) HookResult

/-- Hooks by the type of the node and the name of the trigger. -/
abbrev Hooks (σ : Type) := Table (String × String) (Hook σ)

namespace Hook

variable {σ : Type} (h : Host σ)

/-- A request to the host in the course of a hook. -/
def ask {α : Type} (request : EStateM HostError σ α) : EStateM ReportError (Stage σ) α :=
  Stage.onHost (Collect.ask request)

def idle : Hook σ := fun _ _ _ => pure .done

def reportPath (setting : Setting) (trigger : Trigger) : EStateM ReportError (Stage σ) String := do
  let node := trigger.action.node
  let name := setting.config.reportParameter
  match ← ask (h.findParameter node name) with
  | none =>
    throw (.host (.failed
      ("report node " ++ node.label ++ " has no '" ++ name ++ "' parameter")))
  | some parameter => return (← ask (h.parameterValue parameter)).asPath

def printReport (report : Report) : EStateM ReportError (Stage σ) Unit := do
  match report.tree with
  | .ok text => Stage.onOutput (EStateM.adaptExcept .io (Output.write text))
  | .error e => throw e

/-- Collects the report of a chain, writes it and prints it. -/
def writeReport : Hook σ := fun setting chain trigger => do
  let path ← reportPath h setting trigger
  let report ← Stage.onHost (Collect.fromChain h setting chain trigger.position)
  Stage.onFiles (report.save path)
  if setting.config.printsReports then printReport report
  return .reportWritten path report.passed

end Hook

/-- The usual hooks: reports are written by the trigger that the configuration names. -/
def Hooks.usual {σ : Type} (h : Host σ) (config : Config) : Hooks σ :=
  [((config.reportType, config.reportTrigger), Hook.writeReport h)]

end AssetCheck
