import AssetCheck.AssetList
import AssetCheck.CommandLine.Arguments
import AssetCheck.Host.Bridge
import AssetCheck.Report.Schema
import AssetCheck.Run

/-!
Carrying out a command. A command sees an environment, files and a bridge to a host; what comes of it is
an exit code, the texts it printed, and the files and the bridge after it.
-/

namespace AssetCheck.CommandLine

/-- What a command finds when it is started. -/
structure Surroundings where
  /-- The variables of its environment. -/
  env : String → Option String
  /-- The names that the machine itself goes by. -/
  machineNames : List String
  /-- The time that reports are stamped with. -/
  now : String
  files : FileTree
  /-- The bridge that a host command starts. -/
  connect : String → Bridge

/-- What came of a command. -/
structure Completion where
  code : Nat
  stdout : String
  stderr : String
  files : FileTree
  /-- The requests that the bridge has heard. -/
  requests : List String

def version : String := "0.3.0"

def helpText : String :=
  String.join (List.map (· ++ "\n")
    ["Node-graph driven quality checks for 3D assets", "", "Usage: qa [OPTIONS] <COMMAND>", "", "Commands:",
      "  check", "  run", "  validate", "  schema", "  help"])

/-- A failure with what caused it, from the outside in. -/
def chainOf : Failure → List String
  | .io e => [(Failure.io e).message, e.message]
  | .json e => [(Failure.json e).message, e.message]
  | .report (.io e) => [(ReportError.io e).message, e.message]
  | .report (.json e) => [(ReportError.json e).message, e.message]
  | .host (.io e) | .build (.host (.io e)) | .report (.host (.io e)) =>
    [(HostError.io e).message, e.message]
  | failure => [failure.message]

/-- A failure and what was being done when it happened. -/
structure Fatal where
  doing : List String
  failure : Failure

/-- A failure of which nothing more is to be said. -/
def Fatal.of (failure : Failure) : Fatal := ⟨[], failure⟩

def Fatal.line (f : Fatal) : String :=
  if f.failure.isSpecDefect then "[ERROR] invalid pipeline: " ++ f.failure.message ++ "\n"
  else "[ERROR] " ++ String.intercalate ": " (f.doing ++ chainOf f.failure) ++ "\n"

variable (s : Surroundings)

def loadConfig (path? : Option String) : Except Fatal Config :=
  match path? with
  | none => .ok {}
  | some path =>
    (Config.load s.files path).mapError fun e =>
      ⟨["failed to load config " ++ path],
        match e with
        | .io e => .io e
        | .json e => .json e⟩

def readPipeline (path : String) : Except Fatal String :=
  (s.files.readText path).mapError fun e => ⟨["failed to read pipeline " ++ path], .other e.message⟩

def loadSpec (source : PipelineSource) : Except Fatal PipelineSpec := do
  let text ←
    match source with
    | .inline text => .ok text
    | .file path => readPipeline s path
  (PipelineSpec.parse text).mapError fun e => .of (.spec e)

def collectAssets (options : AssetOptions) : Except Fatal (List String) := do
  let assets ← (AssetList.expand s.files "." options.assets options.patterns).mapError .of
  if assets = [] then
    throw (.of (.other "no assets given: pass --asset or a matching --assets-pattern"))
  else return assets

def findBridge (command? : Option String) : Except Fatal Bridge :=
  match command? <|> s.env "QA_HOST" with
  | none => .error (.of (.other "no host configured: pass --host or set QA_HOST"))
  | some command => .ok (s.connect command)

/-- A command that failed before it did anything. -/
def Fatal.completion (f : Fatal) : Completion := ⟨1, "", f.line, s.files, []⟩

/-- A command that prints a text. -/
def printed (code : Nat) (text : String) : Completion := ⟨code, text, "", s.files, []⟩

/-- The lines about missing reports and refused triggers of an asset. -/
def failureLines (asset : AssetSummary) : List String :=
  asset.triggerFailures.map (fun failure => "[WARN] " ++ asset.asset ++ ": " ++ failure ++ "\n") ++
    asset.reportFailures.map fun failure => "[ERROR] " ++ asset.asset ++ ": " ++ failure ++ "\n"

/-- A run on a bridge, after everything that it needs has been found. -/
def runSession (config : Config) (bridge : Bridge) (scene : Option String)
    (body : Session Bridge → EStateM Failure (Stage Bridge) RunSummary) : Completion :=
  let session : Session Bridge :=
    { host := Bridge.host
      setting := { config, identity := .ofEnvironment s.env s.machineNames, now := s.now }
      scene }
  match body session { host := bridge, files := s.files, out := {} } with
  | .error failure stage =>
    ⟨1, stage.out.text, (Fatal.of failure).line, stage.files, stage.host.heard⟩
  | .ok summary stage =>
    ⟨if summary.succeeded then 0 else 1, stage.out.text,
      String.join (summary.assets.flatMap failureLines), stage.files, stage.host.heard⟩

/-- A directive as it is shown to the user. -/
def showDirective : Directive → String
  | .set name value => name ++ "=" ++ value.display
  | .press name => "press " ++ name

/-- The lines about a pipeline that is valid. -/
def showSpec (spec : PipelineSpec) : String :=
  let line (node : NodeSpec) (index : Nat) : String :=
    "  [" ++ toString index ++ "] " ++ node.typeName ++ " " ++
      String.intercalate " " (node.directives.map showDirective) ++ "\n"
  "Pipeline is valid\nNodes: " ++ toString spec.nodes.length ++ "\n" ++
    String.join (spec.nodes.zipIdx.map fun (node, index) => line node index)

def execute (config : Config) (host? : Option String) : Command → Except Fatal Completion
  | .check checks options => do
    let assets ← collectAssets s options
    let bridge ← findBridge s host?
    return runSession s config bridge options.scene fun session => session.check checks assets
  | .run source options => do
    let spec ← loadSpec s source
    let assets ← collectAssets s options
    let bridge ← findBridge s host?
    return runSession s config bridge options.scene fun session => session.run spec assets
  | .validate path => do
    let text ← readPipeline s path
    match PipelineSpec.parse text with
    | .ok spec => return printed s 0 (showSpec spec)
    | .error e => return printed s 1 ("[ERROR] " ++ e.message ++ "\n")
  | .schema => return printed s 0 (Report.schema.pretty ++ "\n")

def run (args : List String) : Completion :=
  match Invocation.ofArguments args with
  | .error .badUsage => ⟨2, "", "error: invalid arguments\n\n" ++ helpText, s.files, []⟩
  | .error .showHelp => printed s 0 helpText
  | .error .showVersion => printed s 0 ("qa " ++ version ++ "\n")
  | .ok invocation =>
    let result := do
      let config ← loadConfig s invocation.config
      execute s config invocation.host invocation.command
    match result with
    | .ok completion => completion
    | .error fatal => fatal.completion s

end AssetCheck.CommandLine
