/-!
Arguments of the command line. A command follows the options that all commands share; its own options
and these may follow it in any order. An option takes its value from the same argument or from the next
one, which must not look like an option; `--` ends the options.
-/

namespace AssetCheck.CommandLine

inductive Opt
  | verbose
  | config
  | host
  | help
  | version
  | check
  | asset
  | assetsPattern
  | scene
  | pipeline
  | pipelineFile
  deriving DecidableEq, Repr

def Opt.long : Opt → String
  | .verbose => "verbose"
  | .config => "config"
  | .host => "host"
  | .help => "help"
  | .version => "version"
  | .check => "check"
  | .asset => "asset"
  | .assetsPattern => "assets-pattern"
  | .scene => "scene"
  | .pipeline => "pipeline"
  | .pipelineFile => "pipeline-file"

def Opt.letter? : Opt → Option Char
  | .verbose => some 'v'
  | .help => some 'h'
  | .version => some 'V'
  | .check => some 'c'
  | .asset => some 'a'
  | _ => none

def Opt.takesValue : Opt → Bool
  | .verbose | .help | .version => false
  | _ => true

/-- The value is a path, which cannot be empty. -/
def Opt.takesPath : Opt → Bool
  | .config | .scene | .pipelineFile => true
  | _ => false

/-- The option may be given more than once. -/
def Opt.repeats : Opt → Bool
  | .check | .asset | .assetsPattern => true
  | _ => false

/-- Options that all commands share. -/
def shared : List Opt := [.verbose, .config, .host, .help]

/-- Why arguments are not carried out. -/
inductive Halt
  | badUsage
  | showHelp
  | showVersion
  deriving DecidableEq, Repr

/-- Options with their values, in order, and other arguments. -/
structure Given where
  options : List (Opt × String)
  words : List String

/-- The value of an option that is given at most once. -/
def Given.value? (g : Given) (opt : Opt) : Option String := (g.options.find? (·.1 = opt)).map (·.2)

def Given.values (g : Given) (opt : Opt) : List String := (g.options.filter (·.1 = opt)).map (·.2)

def Given.add (g : Given) (opt : Opt) (value : String) : Except Halt Given :=
  match opt with
  | .help => .error .showHelp
  | .version => .error .showVersion
  | opt =>
    if ¬ opt.repeats ∧ (g.value? opt).isSome then .error .badUsage
    else if opt.takesPath ∧ value = "" then .error .badUsage
    else .ok { g with options := g.options ++ [(opt, value)] }

/-- An argument that cannot be the value of the option before it. -/
def looksLikeOption (arg : String) : Bool :=
  match arg.toList with
  | '-' :: _ :: _ => true
  | _ => false

/-- What an argument does to what has been given: it may wait for a value in the next argument. -/
abbrev Step := Except Halt (Given × Option Opt)

/-- An argument of two hyphens and a name. -/
def readLong (allowed : List Opt) (g : Given) (name : List Char) : Step :=
  let key := name.takeWhile (· ≠ '=')
  let value? : Option String :=
    match name.dropWhile (· ≠ '=') with
    | [] => none
    | _ :: value => some (String.ofList value)
  match allowed.find? (·.long = String.ofList key), value? with
  | none, _ => .error .badUsage
  | some opt, none => if opt.takesValue then .ok (g, some opt) else (g.add opt "").map (·, none)
  | some opt, some value => if opt.takesValue then (g.add opt value).map (·, none) else .error .badUsage

/-- An argument of one hyphen and letters; what follows a letter that takes a value is the value. -/
def readLetters (allowed : List Opt) : Given → List Char → Step
  | g, [] => .ok (g, none)
  | g, letter :: rest =>
    match allowed.find? (·.letter? = some letter) with
    | none => .error .badUsage
    | some opt =>
      if opt.takesValue then
        match rest with
        | [] => .ok (g, some opt)
        | '=' :: value => (g.add opt (String.ofList value)).map (·, none)
        | value => (g.add opt (String.ofList value)).map (·, none)
      else do
        let g ← g.add opt ""
        readLetters allowed g rest

/-- Adds a word, of which there may be so many. -/
def Given.addWord (g : Given) (limit : Nat) (word : String) : Except Halt Given :=
  if g.words.length < limit ∧ word ≠ "" then .ok { g with words := g.words ++ [word] }
  else .error .badUsage

/-- Reads the arguments of a command with so many words. -/
def readArguments (allowed : List Opt) (limit : Nat) : Given → Option Opt → List String →
    Except Halt Given
  | g, none, [] => .ok g
  | _, some _, [] => .error .badUsage
  | g, some opt, arg :: rest =>
    if looksLikeOption arg then .error .badUsage
    else do
      let g ← g.add opt arg
      readArguments allowed limit g none rest
  | g, none, arg :: rest =>
    match arg.toList with
    | ['-', '-'] => rest.foldlM (fun g word => g.addWord limit word) g
    | '-' :: '-' :: name => do
      let (g, waiting) ← readLong allowed g name
      readArguments allowed limit g waiting rest
    | '-' :: letter :: letters => do
      let (g, waiting) ← readLetters allowed g (letter :: letters)
      readArguments allowed limit g waiting rest
    | _ => do
      let g ← g.addWord limit arg
      readArguments allowed limit g none rest

/-! ## Commands -/

/-- Where a pipeline comes from. -/
inductive PipelineSource
  | inline (text : String)
  | file (path : String)
  deriving DecidableEq, Repr

/-- Which assets a command is about. -/
structure AssetOptions where
  assets : List String
  patterns : List String
  scene : Option String
  deriving DecidableEq, Repr

inductive Command
  | check (checks : List String) (assets : AssetOptions)
  | run (pipeline : PipelineSource) (assets : AssetOptions)
  | validate (path : String)
  | schema
  deriving DecidableEq, Repr

/-- A command and what it shares with the others. -/
structure Invocation where
  command : Command
  config : Option String
  host : Option String
  deriving DecidableEq, Repr

inductive CommandName
  | check
  | run
  | validate
  | schema
  deriving DecidableEq, Repr

def CommandName.ofText? : String → Option CommandName
  | "check" => some .check
  | "run" => some .run
  | "validate" => some .validate
  | "schema" => some .schema
  | _ => none

def CommandName.options : CommandName → List Opt
  | .check => [.check, .asset, .assetsPattern, .scene] ++ shared
  | .run => [.pipeline, .pipelineFile, .asset, .assetsPattern, .scene] ++ shared
  | .validate | .schema => shared

def CommandName.words : CommandName → Nat
  | .validate => 1
  | _ => 0

def Given.assetOptions (g : Given) : AssetOptions :=
  ⟨g.values .asset, g.values .assetsPattern, g.value? .scene⟩

/-- The command that has been given, if nothing is missing. -/
def CommandName.command (name : CommandName) (g : Given) : Except Halt Command :=
  match name with
  | .check =>
    match g.values .check with
    | [] => .error .badUsage
    | checks => .ok (.check checks g.assetOptions)
  | .run =>
    match g.value? .pipeline, g.value? .pipelineFile with
    | some text, none => .ok (.run (.inline text) g.assetOptions)
    | none, some path => .ok (.run (.file path) g.assetOptions)
    | _, _ => .error .badUsage
  | .validate =>
    match g.words with
    | [path] => .ok (.validate path)
    | _ => .error .badUsage
  | .schema => .ok .schema

/-- Reads a command and its arguments; options given with the command count before those in front. -/
def readCommand (before : Given) (word : String) (rest : List String) : Except Halt Invocation :=
  if word = "help" then
    match rest with
    | [] => .error .showHelp
    | [topic] =>
      if (CommandName.ofText? topic).isSome ∨ topic = "help" then .error .showHelp else .error .badUsage
    | _ => .error .badUsage
  else
    match CommandName.ofText? word with
    | none => .error .badUsage
    | some name => do
      let g ← readArguments name.options name.words ⟨[], []⟩ none rest
      let command ← name.command g
      return {
        command
        config := g.value? .config <|> before.value? .config
        host := g.value? .host <|> before.value? .host }

/-- Reads the options in front of the command. -/
def readAll : Given → Option Opt → List String → Except Halt Invocation
  | _, _, [] => .error .badUsage
  | g, some opt, arg :: rest =>
    if looksLikeOption arg then .error .badUsage
    else do
      let g ← g.add opt arg
      readAll g none rest
  | g, none, arg :: rest =>
    match arg.toList with
    | ['-', '-'] => .error .badUsage
    | '-' :: '-' :: name => do
      let (g, waiting) ← readLong (.version :: shared) g name
      readAll g waiting rest
    | '-' :: letter :: letters => do
      let (g, waiting) ← readLetters (.version :: shared) g (letter :: letters)
      readAll g waiting rest
    | _ => readCommand g arg rest

/-- What the arguments ask for. -/
def Invocation.ofArguments (args : List String) : Except Halt Invocation := readAll ⟨[], []⟩ none args

end AssetCheck.CommandLine
