import RecordFlow.Binary64.Text
import RecordFlow.Json.Basic

/-! # Writing JSON

The compact form has no spaces. The indented form puts every item and field on
a line of its own, two spaces deeper than its bracket. Strings escape only what
the grammar demands.
-/

namespace RecordFlow.Json

def escape (c : Char) : List Char :=
  if c = '"' then ['\\', '"']
  else if c = '\\' then ['\\', '\\']
  else if c = '\n' then ['\\', 'n']
  else if c = '\r' then ['\\', 'r']
  else if c = '\t' then ['\\', 't']
  else if c = '\x08' then ['\\', 'b']
  else if c = '\x0c' then ['\\', 'f']
  else if c.toNat < 16 then ['\\', 'u', '0', '0', '0'] ++ hexDigits c.toNat
  else if c.toNat < 32 then ['\\', 'u', '0', '0'] ++ hexDigits c.toNat
  else [c]

def writeString (s : String) : List Char := '"' :: s.toList.flatMap escape ++ ['"']

def writeNumber : Number → List Char
  | .integer n _ => if n < 0 then '-' :: decimalDigits n.natAbs else decimalDigits n.natAbs
  | .float x _ => x.toDataText.toList

mutual

def write : Json → List Char
  | null => "null".toList
  | bool b => if b then "true".toList else "false".toList
  | number n => writeNumber n
  | string s => writeString s
  | array items => '[' :: writeItems items ++ [']']
  | object fields => '\x7b' :: writeFields fields ++ ['\x7d']

def writeItems : List Json → List Char
  | [] => []
  | [item] => write item
  | item :: items => write item ++ ',' :: writeItems items

def writeFields : List (String × Json) → List Char
  | [] => []
  | [(key, value)] => writeString key ++ ':' :: write value
  | (key, value) :: fields => writeString key ++ ':' :: write value ++ ',' :: writeFields fields

end

def newLine (depth : Nat) : List Char := '\n' :: List.replicate (2 * depth) ' '

mutual

/-- The indented form of a value inside `depth` brackets. -/
def writeIndented (depth : Nat) : Json → List Char
  | array [] => "[]".toList
  | array items => '[' :: writeIndentedItems (depth + 1) items ++ newLine depth ++ [']']
  | object [] => ['\x7b', '\x7d']
  | object fields =>
    '\x7b' :: writeIndentedFields (depth + 1) fields ++ newLine depth ++ ['\x7d']
  | null => "null".toList
  | bool b => if b then "true".toList else "false".toList
  | number n => writeNumber n
  | string s => writeString s

def writeIndentedItems (depth : Nat) : List Json → List Char
  | [] => []
  | [item] => newLine depth ++ writeIndented depth item
  | item :: items =>
    newLine depth ++ writeIndented depth item ++ ',' :: writeIndentedItems depth items

def writeIndentedFields (depth : Nat) : List (String × Json) → List Char
  | [] => []
  | [(key, value)] =>
    newLine depth ++ writeString key ++ ": ".toList ++ writeIndented depth value
  | (key, value) :: fields =>
    newLine depth ++ writeString key ++ ": ".toList ++ writeIndented depth value ++
      ',' :: writeIndentedFields depth fields

end

def compact (value : Json) : String := String.ofList value.write

def indented (value : Json) : String := String.ofList (value.writeIndented 0)

end RecordFlow.Json
