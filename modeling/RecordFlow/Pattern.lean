import RecordFlow.Engine

/-! # Patterns

A pattern is a regular expression with flags behind it. The flags `i`, `m` and
`s` change what matches and are written in front of the source as an inline flag
group; the flags `d`, `g`, `u` and `y` are only kept. Source and flags determine
the pattern.
-/

namespace RecordFlow

/-- Why a source and flags are no pattern. -/
inductive PatternError where
  | unknownFlag (flag : Char)
  | duplicateFlag (flag : Char)
  | invalidExpression (source : String)
  deriving DecidableEq, Repr

namespace PatternError

/-- What stands in a message for the reason why an expression is invalid. -/
def engineMark : String := "<engine>"

def message : PatternError → String
  | unknownFlag flag => "unknown regular expression flag '" ++ flag.toString ++ "'"
  | duplicateFlag flag => "duplicate regular expression flag '" ++ flag.toString ++ "'"
  | invalidExpression source => "invalid regular expression /" ++ source ++ "/: " ++ engineMark

end PatternError

def patternFlags : List Char := ['d', 'g', 'i', 'm', 's', 'u', 'y']

/-- The flags that change what matches. -/
def matchingFlags : List Char := ['i', 'm', 's']

/-- The first flag that is unknown or stands there for the second time. -/
def flagError? (seen : List Char) : List Char → Option PatternError
  | [] => none
  | flag :: flags =>
    if flag ∉ patternFlags then some (.unknownFlag flag)
    else if flag ∈ seen then some (.duplicateFlag flag)
    else flagError? (flag :: seen) flags

/-- The expression that is matched for a source and flags. -/
def flaggedSource (source flags : String) : String :=
  let inline := flags.toList.filter (· ∈ matchingFlags)
  if inline.isEmpty then source else "(?" ++ String.ofList inline ++ ")" ++ source

variable [Engine]

/-- A source and flags that the engine accepts. -/
structure Pattern where
  source : String
  flags : String
  flags_ok : flagError? [] flags.toList = none
  compiles : (Engine.compile? (flaggedSource source flags)).isSome
  deriving DecidableEq

namespace Pattern

def make (source flags : String) : Except PatternError Pattern :=
  match h : flagError? [] flags.toList with
  | some e => .error e
  | none =>
    if hc : (Engine.compile? (flaggedSource source flags)).isSome then
      .ok ⟨source, flags, h, hc⟩
    else .error (.invalidExpression source)

def isMatch (p : Pattern) (text : String) : Bool :=
  (Engine.compile? (flaggedSource p.source p.flags)).get p.compiles text

def toText (p : Pattern) : String := "/" ++ p.source ++ "/" ++ p.flags

end Pattern

end RecordFlow
