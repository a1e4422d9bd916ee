import AssetCheck.Chain.Build
import AssetCheck.Failure
import AssetCheck.Trigger.Firing

/-!
Runs. A run builds the chain of a pipeline for each asset, and when all are built fires their triggers in
order. A pipeline that cannot be built for some asset ends the run before any trigger has fired.
-/

namespace AssetCheck

/-- A report file, and whether every check in it passed. -/
structure WrittenReport where
  path : String
  passed : Bool
  deriving DecidableEq, Repr

/-- What came of the triggers of an asset. -/
structure AssetSummary where
  asset : String
  reports : List WrittenReport
  /-- Reports that are missing, with the reason. -/
  reportFailures : List String
  /-- Triggers that the host refused, with the reason. -/
  triggerFailures : List String
  deriving DecidableEq, Repr

structure RunSummary where
  assets : List AssetSummary
  triggers : List Record

/-- No report is missing. What the checks found does not count. -/
def RunSummary.succeeded (s : RunSummary) : Bool := s.assets.all (·.reportFailures = [])

def RunSummary.reportPaths (s : RunSummary) : List String :=
  s.assets.flatMap fun asset => asset.reports.map (·.path)

/-- An asset for which no trigger has fired. -/
def AssetSummary.start (asset : String) : AssetSummary := ⟨asset, [], [], []⟩

def AssetSummary.add (s : AssetSummary) (record : Record) : AssetSummary :=
  let line (reason : String) : String := record.name ++ ": " ++ reason
  match record.outcome with
  | .hooked (.reportWritten path passed) => { s with reports := s.reports ++ [⟨path, passed⟩] }
  | .hooked .done | .fired => s
  | .hookFailed e => { s with reportFailures := s.reportFailures ++ [line e.message] }
  | .hostFailed e => { s with triggerFailures := s.triggerFailures ++ [line e.message] }

/-- Adds what came of a trigger to the asset of its chain. -/
def addRecord (chains : List Chain) (assets : List AssetSummary) (record : Record) :
    List AssetSummary :=
  match chains.findIdx? (·.id = record.chain) with
  | none => assets
  | some index => assets.modify index (·.add record)

def RunSummary.of (chains : List Chain) (records : List Record) : RunSummary :=
  { assets := records.foldl (addRecord chains) (chains.map fun c => .start c.asset)
    triggers := records }

/-! ## The usual pipeline -/

/-- The pipeline of a loader, the named checks and a report. -/
def PipelineSpec.ofChecks (checks : List String) (config : Config) : PipelineSpec :=
  let loader : NodeSpec :=
    { typeName := config.loaderTypes.head?.getD "file"
      directives := [.set config.loaderParameter (.text Substitutions.assetInput)] }
  let report : NodeSpec :=
    { typeName := config.reportType
      directives :=
        [.set config.reportParameter (.text Substitutions.reportPath), .press config.reportTrigger] }
  ⟨loader :: checks.map (fun check => { typeName := check, directives := [] }) ++ [report]⟩

/-! ## Running -/

/-- A run on a host. -/
structure Session (σ : Type) where
  host : Host σ
  setting : Setting
  /-- Where the scene is saved when all triggers have fired. -/
  scene : Option String := none

namespace Session

variable {σ : Type} (session : Session σ)

def buildAll (spec : PipelineSpec) : List String → EStateM BuildError (Workbench σ) (List BuiltChain)
  | [] => pure []
  | asset :: rest => do
    match Substitutions.ofAsset asset with
    | .error repeated => throw (.repeatedSubstitution repeated.text)
    | .ok subs =>
      let built ← build session.host spec subs
      let others ← buildAll spec rest
      return built :: others

/-- Arranges the graph, whether or not the host agrees. -/
def arrange (stage : Stage σ) : Stage σ :=
  match Stage.onHost session.host.layout stage with
  | .ok () stage => stage
  | .error _ stage => stage

def saveScene : EStateM Failure (Stage σ) Unit := fun stage =>
  match session.scene with
  | none => .ok () stage
  | some path =>
    match session.host.saveScene path (stage.host, stage.files) with
    | .ok () (host, files) => .ok () { stage with host, files }
    | .error e (host, files) => .error (.host e) { stage with host, files }

/-- Builds a pipeline once for each asset, then fires every trigger. -/
def run (spec : PipelineSpec) (assets : List String) : EStateM Failure (Stage σ) RunSummary :=
  fun stage =>
    match session.buildAll spec assets ⟨stage.host, 0⟩ with
    | .error e bench => .error (.build e) { stage with host := bench.host }
    | .ok built bench =>
      let chains := built.map (·.chain)
      let (records, stage) :=
        Firing.fireAll session.host (Hooks.usual session.host session.setting.config) session.setting
          chains (built.flatMap (·.triggers)) { stage with host := bench.host }
      match session.saveScene (session.arrange stage) with
      | .ok () stage => .ok (.of chains records) stage
      | .error e stage => .error e stage

/-- Runs the named checks over each asset. -/
def check (checks assets : List String) : EStateM Failure (Stage σ) RunSummary :=
  session.run (.ofChecks checks session.setting.config) assets

end Session

end AssetCheck
