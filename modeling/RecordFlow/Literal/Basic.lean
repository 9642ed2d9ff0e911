import RecordFlow.Binary64.Text
import RecordFlow.Json.Basic
import RecordFlow.Pattern
import RecordFlow.Text.Quoted

/-! # Literal values

Parameters are literals: strings, numbers, booleans, patterns, and flat arrays
of these. Each has a written form, which the reader of literals accepts, and a
JSON form, in which it is compared with the fields of records.
-/

namespace RecordFlow

variable [Engine]

/-- A literal that is not an array. -/
inductive Scalar where
  | string (value : String)
  | number (value : Binary64)
  | boolean (value : Bool)
  | pattern (value : Pattern)
  deriving DecidableEq

inductive Literal where
  | scalar (value : Scalar)
  | array (items : List Scalar)
  deriving DecidableEq

abbrev Parameters := Dict Literal

inductive LiteralKind where
  | string | number | boolean | pattern | array
  deriving DecidableEq, Repr

def LiteralKind.name : LiteralKind → String
  | string => "string"
  | number => "number"
  | boolean => "boolean"
  | pattern => "pattern"
  | array => "array"

namespace Scalar

def kind : Scalar → LiteralKind
  | string _ => .string
  | number _ => .number
  | boolean _ => .boolean
  | pattern _ => .pattern

def toText : Scalar → String
  | string s => quoted s
  | number x => x.toPlainText
  | boolean b => if b then "true" else "false"
  | pattern p => p.toText

/-- A number without fraction and below `2 ^ 63` in magnitude becomes an integer. -/
def numberToJson (x : Binary64) : Json :=
  match x.toInt? with
  | some n => if n.natAbs < 0x8000000000000000 then .ofInt n else .ofBinary64 x
  | none => .ofBinary64 x

/-- The JSON form; a pattern becomes its written form. -/
def toJson : Scalar → Json
  | string s => .string s
  | number x => numberToJson x
  | boolean b => .bool b
  | pattern p => .string p.toText

end Scalar

namespace Literal

def string (s : String) : Literal := scalar (.string s)

def number (x : Binary64) : Literal := scalar (.number x)

def boolean (b : Bool) : Literal := scalar (.boolean b)

def kind : Literal → LiteralKind
  | scalar s => s.kind
  | array _ => .array

def toText : Literal → String
  | scalar s => s.toText
  | array items => "[" ++ ", ".intercalate (items.map Scalar.toText) ++ "]"

def toJson : Literal → Json
  | scalar s => s.toJson
  | array items => .array (items.map Scalar.toJson)

def asString? : Literal → Option String
  | scalar (.string s) => some s
  | _ => none

def asNumber? : Literal → Option Binary64
  | scalar (.number x) => some x
  | _ => none

def asBoolean? : Literal → Option Bool
  | scalar (.boolean b) => some b
  | _ => none

def asPattern? : Literal → Option Pattern
  | scalar (.pattern p) => some p
  | _ => none

def asStrings? : Literal → Option (List String)
  | array items => items.mapM fun item => (scalar item).asString?
  | scalar _ => none

end Literal

namespace Parameters

/-- The object literal of parameters, its members in the order of their written forms. -/
def toText (p : Parameters) : String :=
  let members := p.entries.map fun (key, value) => key ++ ": " ++ value.toText
  "\x7b" ++ ", ".intercalate (members.mergeSort fun a b => decide (a ≤ b)) ++ "\x7d"

end Parameters

end RecordFlow
