import RecordFlow.Binary64.Basic
import RecordFlow.Dict

/-! # JSON values

A number is an integer in the range of 64-bit words, signed or unsigned, or a
finite floating point number. The fields of an object that was read stand in
ascending key order; an object that is only written keeps the order it is
given.
-/

namespace RecordFlow

/-- Whether a whole number is a 64-bit word, signed or unsigned: from `-2 ^ 63` up to `2 ^ 64`. -/
abbrev FitsWord (n : Int) : Prop := -0x8000000000000000 ≤ n ∧ n < 0x10000000000000000

inductive Json.Number where
  | integer (value : Int) (inRange : FitsWord value)
  | float (value : Binary64) (finite : value.isFinite = true)
  deriving DecidableEq

inductive Json where
  | null
  | bool (value : Bool)
  | number (value : Json.Number)
  | string (value : String)
  | array (items : List Json)
  | object (fields : List (String × Json))

namespace Json

instance : Inhabited Json := ⟨null⟩

def Number.toBinary64 : Number → Binary64
  | .integer n _ => .ofInt n
  | .float x _ => x

/-- A finite number as it is, anything else as nothing. -/
def ofBinary64 (x : Binary64) : Json :=
  if h : x.isFinite = true then number (.float x h) else null

/-- A whole number as an integer if it fits 64 bits, else as a floating point number. -/
def ofInt (n : Int) : Json :=
  if h : FitsWord n then number (.integer n h) else ofBinary64 (.ofInt n)

def ofNat (n : Nat) : Json := ofInt n

inductive Kind where
  | null | boolean | number | string | array | object
  deriving DecidableEq, Repr

def Kind.name : Kind → String
  | .null => "null"
  | .boolean => "boolean"
  | .number => "number"
  | .string => "string"
  | .array => "array"
  | .object => "object"

def kind : Json → Kind
  | null => .null
  | bool _ => .boolean
  | number _ => .number
  | string _ => .string
  | array _ => .array
  | object _ => .object

def ofDict (d : Dict Json) : Json := object d.entries

end Json

end RecordFlow
