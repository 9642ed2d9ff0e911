import RecordFlow.Text.Digits

/-! # Tables of code points

A property of characters is a set of code points, given by ascending disjoint
ranges. Membership is a binary search over the ranges. The tables themselves
are written as text, one hexadecimal range a word.
-/

namespace RecordFlow.Unicode

def tableWords (text : String) : List String :=
  ((text.replace "\n" " ").splitOn " ").filter (· ≠ "")

/-- Ascending disjoint ranges of code points, both ends included. -/
structure RangeTable where
  bounds : Array (Nat × Nat)

namespace RangeTable

def rangeOfWord (word : String) : Nat × Nat :=
  match word.splitOn "-" with
  | [lo, hi] => (ofHexDigits lo.toList, ofHexDigits hi.toList)
  | _ => (ofHexDigits word.toList, ofHexDigits word.toList)

def ofText (text : String) : RangeTable :=
  ⟨((tableWords text).map rangeOfWord).toArray⟩

/-- Looks among the ranges from `lo` up to but not including `hi`. -/
def search (bounds : Array (Nat × Nat)) (code lo hi : Nat) : Bool :=
  if _h : lo < hi then
    let mid := (lo + hi) / 2
    match bounds[mid]? with
    | none => false
    | some (first, last) =>
      if code < first then search bounds code lo mid
      else if last < code then search bounds code (mid + 1) hi
      else true
  else false
termination_by hi - lo

def contains (table : RangeTable) (code : Nat) : Bool :=
  search table.bounds code 0 table.bounds.size

end RangeTable

end RecordFlow.Unicode
