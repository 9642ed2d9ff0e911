import RecordFlow.CommandLine.Arguments
import RecordFlow.Graph.Benchmark
import RecordFlow.Manifest.Reader
import RecordFlow.Resource.Reader
import RecordFlow.Settings

/-! # Sessions of the command line

A session loads the settings, the manifest and the input, in this order, runs
the pipeline, and writes the result. What surrounds it is a set of effects, so
that the same definition serves as a program and as a plain function.
-/

namespace RecordFlow.CommandLine

/-- What a session needs of the world around it. -/
structure Surroundings (m : Type → Type) where
  /-- The text of a file, if it can be read. -/
  fileText : String → m (Option String)
  /-- The text of the standard input, if it can be read. -/
  inputText : m (Option String)
  /-- The value of a variable of the environment, if it is set. -/
  variableValue : String → m (Option String)
  /-- The time in nanoseconds. -/
  clock : m Nat

/-- What a session was doing when it failed. -/
inductive Step where
  | loadSettings
  | findManifest
  | readManifest (path : String)
  | parseManifest (path : String)
  | readInput (path : String)
  | readStandardInput
  | parseJson
  | wrapInput
  | parseResource
  | run (title : String)
  deriving DecidableEq, Repr

def Step.message : Step → String
  | loadSettings => "Failed to load configuration"
  | findManifest => "A manifest path is required"
  | readManifest path => "Failed to read manifest " ++ path
  | parseManifest path => "Failed to parse manifest " ++ path
  | readInput path => "Failed to read input " ++ path
  | readStandardInput => "Failed to read input from stdin"
  | parseJson => "Input is not valid JSON"
  | wrapInput => "Failed to wrap raw input as a resource"
  | parseResource => "Input is not a resource object"
  | run title => "Pipeline '" ++ title ++ "' failed"

inductive Outcome where
  /-- A text was asked for. -/
  | shown (text : String)
  /-- The arguments cannot be read. -/
  | misused
  | failed (step : Step)
  /-- The pipeline has run; `timed` tells whether its times are asked for. -/
  | completed (b : Benchmark) (timed : Bool)

namespace Outcome

def exitCode : Outcome → Nat
  | shown _ => 0
  | misused => 2
  | failed _ => 1
  | completed _ _ => 0

def output : Outcome → String
  | shown text => text
  | misused => ""
  | failed _ => ""
  | completed b _ => b.result.toJson.indented ++ "\n"

def notes : Outcome → List String
  | shown _ => []
  | misused => ["error: invalid arguments", "", "For more information, try '--help'."]
  | failed step => ["Error: " ++ step.message]
  | completed b timed => if timed then b.table else []

end Outcome

def versionText : String := "mapagg-run 0.1.0\n"

def helpLines : List String := [
  "Run a MapAggregate pipeline manifest against a JSON resource",
  "",
  "Usage: mapagg-run [OPTIONS] [MANIFEST] [INPUT]",
  "",
  "Arguments:",
  "  [MANIFEST]  Path to the pipeline manifest",
  "  [INPUT]     Path to the input JSON (stdin when omitted)",
  "",
  "Options:",
  "  -v, --verbose...",
  "          Increase verbosity (-v, -vv, -vvv)",
  "  -c, --config <CONFIG>",
  "          TOML configuration file",
  "      --list-nodes",
  "          List registered node types and exit",
  "  -b, --benchmark",
  "          Print per-stage timing to stderr",
  "      --resource-type <RESOURCE_TYPE>",
  "          Resource type for raw input (default: from config)",
  "      --items-key <ITEMS_KEY>",
  "          Treat the input as a raw object and take records from this key",
  "  -h, --help",
  "          Print help",
  "  -V, --version",
  "          Print version"]

def helpText : String := String.join (helpLines.map (· ++ "\n"))

variable [Engine]

def listingEntry (name : String) (type : NodeType) : String :=
  name ++ " - " ++ type.description ++ "\n" ++ type.schema.toJson.indented ++ "\n\n"

def listing (registry : Registry) : String :=
  String.join (registry.registrations.map fun (name, type) => listingEntry name type)

section

variable {m : Type → Type} [Monad m]

/-- The value of a result, or the end of the session at a step. -/
def atStep {α : Type} (step : Step) (result : Except Error α) : ExceptT Step m α :=
  match result with
  | .ok a => pure a
  | .error _ => throw step

def readAt (step : Step) (text : m (Option String)) : ExceptT Step m String := do
  match ← text with
  | some s => pure s
  | none => throw step

def loadSettings (s : Surroundings m) (a : Arguments) : ExceptT Step m Settings := do
  let file ← match a.config with
    | none => pure none
    | some path => do
      let content ← s.fileText path
      pure (some (Settings.File.mk path content))
  let environment ← liftM (Settings.Variables.read s.variableValue)
  atStep .loadSettings (Settings.load file environment)

def loadGraph (s : Surroundings m) (path : String) : ExceptT Step m Graph := do
  let manifest ← readAt (.readManifest path) (s.fileText path)
  atStep (.parseManifest path) (Graph.ofManifest .standard manifest)

def loadInput (s : Surroundings m) (a : Arguments) : ExceptT Step m String :=
  match a.input with
  | some path => readAt (.readInput path) (s.fileText path)
  | none => readAt .readStandardInput s.inputText

/-- The resource in an input: with an items key a raw object to wrap, else a resource. -/
def decodeInput (settings : Settings) (a : Arguments) (input : String) :
    ExceptT Step m Resource :=
  match a.itemsKey with
  | some itemsKey =>
    match Json.ofText? input with
    | none => throw .parseJson
    | some value =>
      atStep .wrapInput
        (Resource.wrap value (a.resourceType.getD settings.resourceType) itemsKey)
  | none => atStep .parseResource (Resource.ofText input)

def perform (s : Surroundings m) (a : Arguments) : ExceptT Step m Outcome := do
  let settings ← loadSettings s a
  if a.listNodes then return .shown (listing .standard)
  match a.manifest with
  | none => throw .findManifest
  | some path =>
    let g ← loadGraph s path
    let input ← loadInput s a
    let r ← decodeInput settings a input
    let result ← g.benchmark s.clock r
    let b ← atStep (.run g.title) result
    return .completed b (a.benchmark || settings.benchmark)

def respond (s : Surroundings m) (arguments : List String) : m Outcome :=
  match Arguments.read arguments with
  | .error .help => pure (.shown helpText)
  | .error .version => pure (.shown versionText)
  | .error .usage => pure .misused
  | .ok a => do
    match ← (perform s a).run with
    | .ok outcome => pure outcome
    | .error step => pure (.failed step)

end

end RecordFlow.CommandLine
