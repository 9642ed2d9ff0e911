import RecordFlow.Unicode.CaseFolding
import RecordFlow.Unicode.Property
import RecordFlow.Unicode.Script

/-! # Sets of characters

The sets that one position of a regular expression can match, built from ranges
and named properties by the operations of sets. Closing a set under case adds
every character that equals one of its members up to case.
-/

namespace RecordFlow.Regex

open Unicode

inductive CharSet where
  | nothing
  | range (first last : Char)
  | digits
  | spaces
  | words
  | alphabetic
  | lowercase
  | uppercase
  | assigned
  | categories (members : List Category)
  | table (ranges : RangeTable)
  | complement (s : CharSet)
  | union (s t : CharSet)
  | intersection (s t : CharSet)
  | difference (s t : CharSet)
  | symmetricDifference (s t : CharSet)
  | caseClosure (s : CharSet)

namespace CharSet

def contains : CharSet → Char → Bool
  | nothing, _ => false
  | range first last, c => first ≤ c && c ≤ last
  | digits, c => isDecimalNumber c
  | spaces, c => isWhiteSpace c
  | words, c => isWordCharacter c
  | alphabetic, c => isAlphabetic c
  | lowercase, c => isLowercase c
  | uppercase, c => isUppercase c
  | assigned, c => category c != .Cn
  | categories members, c => members.contains (category c)
  | table ranges, c => ranges.contains c.toNat
  | complement s, c => !s.contains c
  | union s t, c => s.contains c || t.contains c
  | intersection s t, c => s.contains c && t.contains c
  | difference s t, c => s.contains c && !t.contains c
  | symmetricDifference s t, c => s.contains c != t.contains c
  | caseClosure s, c => (caseVariants c).any s.contains

def single (c : Char) : CharSet := range c c

def everything : CharSet := complement nothing

def foldIf (ignoreCase : Bool) (s : CharSet) : CharSet := if ignoreCase then caseClosure s else s

def negateIf (negated : Bool) (s : CharSet) : CharSet := if negated then complement s else s

def ofRanges (ranges : List (Char × Char)) : CharSet :=
  ranges.foldr (fun r s => union (range r.1 r.2) s) nothing

/-- About how many ranges of code points the set has. -/
def rangeCount : CharSet → Nat
  | nothing => 0
  | range .. => 1
  | digits => 71
  | spaces => 10
  | words => 770
  | alphabetic => 730
  | lowercase => 670
  | uppercase => 650
  | assigned => 710
  | categories members => 120 * members.length
  | table ranges => ranges.bounds.size
  | complement s => s.rangeCount + 1
  | union s t => s.rangeCount + t.rangeCount
  | intersection s t => s.rangeCount + t.rangeCount
  | difference s t => s.rangeCount + t.rangeCount
  | symmetricDifference s t => s.rangeCount + t.rangeCount
  | caseClosure s => s.rangeCount + 1

end CharSet

end RecordFlow.Regex
