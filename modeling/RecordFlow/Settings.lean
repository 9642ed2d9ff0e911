import RecordFlow.Error
import RecordFlow.Json.Basic
import RecordFlow.Toml.Reader

/-! # Settings

Settings come from a TOML document, in which every field may be absent, and
from variables of the environment, which are written over them. A variable that
is no truth value leaves a truth value as it is.
-/

namespace RecordFlow

structure Settings where
  logFilter : String
  jsonLogs : Bool
  benchmark : Bool
  resourceType : String
  deriving DecidableEq, Repr

namespace Settings

def default : Settings where
  logFilter := "info"
  jsonLogs := false
  benchmark := false
  resourceType := "generic"

/-- A field that is absent or a string. -/
def stringField? (fields : Toml.Fields) (key absent : String) : Option String :=
  match fields.lookup key with
  | none => some absent
  | some (.string s) => some s
  | some _ => none

def booleanField? (fields : Toml.Fields) (key : String) (absent : Bool) : Option Bool :=
  match fields.lookup key with
  | none => some absent
  | some (.boolean b) => some b
  | some _ => none

/-- The settings in a document; fields with other names are passed over. -/
def ofFields? (fields : Toml.Fields) : Option Settings := do
  return {
    logFilter := ← stringField? fields "log_filter" default.logFilter
    jsonLogs := ← booleanField? fields "json_logs" default.jsonLogs
    benchmark := ← booleanField? fields "benchmark" default.benchmark
    resourceType := ← stringField? fields "default_resource_type" default.resourceType }

variable [Engine]

def ofText (text : String) : Except Error Settings :=
  match (Toml.ofText? text).bind ofFields? with
  | some s => .ok s
  | none => .error (.configuration .malformedSettings)

/-- The variables of the environment that hold settings. -/
structure Variables where
  logFilter : Option String
  jsonLogs : Option String
  benchmark : Option String
  resourceType : Option String

def Variables.read {m : Type → Type} [Monad m] (value : String → m (Option String)) :
    m Variables := do
  return {
    logFilter := ← value "MAPAGG_LOG"
    jsonLogs := ← value "MAPAGG_JSON_LOGS"
    benchmark := ← value "MAPAGG_BENCHMARK"
    resourceType := ← value "MAPAGG_RESOURCE_TYPE" }

def booleanOfText? : String → Option Bool
  | "true" => some true
  | "false" => some false
  | _ => none

/-- Writes the variables of the environment over settings. -/
def overwrite (s : Settings) (v : Variables) : Settings where
  logFilter := v.logFilter.getD s.logFilter
  jsonLogs := (v.jsonLogs.bind booleanOfText?).getD s.jsonLogs
  benchmark := (v.benchmark.bind booleanOfText?).getD s.benchmark
  resourceType := v.resourceType.getD s.resourceType

structure File where
  path : String
  content : Option String

def ofFile (file : File) : Except Error Settings :=
  match file.content with
  | some text => ofText text
  | none => .error (.configuration (.missingFile file.path))

/-- Reads settings from a file, if one is given, and from the environment. -/
def load (file : Option File) (v : Variables) : Except Error Settings :=
  match file with
  | none => .ok (default.overwrite v)
  | some file => (ofFile file).map (·.overwrite v)

def toJson (s : Settings) : Json :=
  .object [("log_filter", .string s.logFilter), ("json_logs", .bool s.jsonLogs),
    ("benchmark", .bool s.benchmark), ("default_resource_type", .string s.resourceType)]

end Settings

end RecordFlow
