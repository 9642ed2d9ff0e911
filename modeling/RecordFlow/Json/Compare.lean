import RecordFlow.Json.Writer
import RecordFlow.Text.Basic

/-! # Comparing JSON values

Values of the same scalar kind are ordered: numbers numerically, strings by
their characters, booleans with false first. The total order extends this to
all values by ranking the kinds. Equality of numbers is numeric, and equality of
everything else is equality of structure.
-/

namespace RecordFlow.Json

/-- Order of two values of the same scalar kind; other values are unordered. -/
def compareValues : Json → Json → Option Ordering
  | number x, number y => Binary64.compare? x.toBinary64 y.toBinary64
  | string x, string y => some (compare x y)
  | bool x, bool y => some (compare x y)
  | _, _ => none

def kindRank : Json → Nat
  | number _ => 0
  | string _ => 1
  | bool _ => 2
  | _ => 3

/-- Numbers, then strings, then booleans, then everything else, which is all alike. -/
def totalOrder (a b : Json) : Ordering :=
  (compare a.kindRank b.kindRank).then ((compareValues a b).getD .eq)

/-- Same structure: integers differ from floating point numbers, which compare numerically. -/
def Number.same : Number → Number → Bool
  | .integer m _, .integer n _ => m == n
  | .float x _, .float y _ => x.equals y
  | _, _ => false

mutual

def same : Json → Json → Bool
  | null, null => true
  | bool a, bool b => a == b
  | number x, number y => x.same y
  | string s, string t => s == t
  | array xs, array ys => sameItems xs ys
  | object xs, object ys => sameFields xs ys
  | _, _ => false

def sameItems : List Json → List Json → Bool
  | [], [] => true
  | x :: xs, y :: ys => same x y && sameItems xs ys
  | _, _ => false

def sameFields : List (String × Json) → List (String × Json) → Bool
  | [], [] => true
  | (j, x) :: xs, (k, y) :: ys => j == k && same x y && sameFields xs ys
  | _, _ => false

end

/-- Equality of values, by which `2` equals `2.0`. -/
def strictEquals : Json → Json → Bool
  | number x, number y => x.toBinary64.equals y.toBinary64
  | a, b => same a b

def includes : Json → Json → Bool
  | string whole, string piece => Text.contains piece.toList whole.toList
  | array items, value => items.any fun item => strictEquals item value
  | _, _ => false

/-- The name of a group of records: a string itself, or the compact form of any other value. -/
def label : Json → String
  | string s => s
  | value => value.compact

end RecordFlow.Json
