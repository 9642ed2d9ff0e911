import RecordFlow.Json.Compare
import RecordFlow.Resolution
import RecordFlow.Resource.Basic

/-! # Filtering records

A filter keeps the records that carry a field whose value compares in a given
way with a given literal. Values of different kinds are unordered, so an order
comparison between them is false.
-/

namespace RecordFlow

inductive Comparison where
  | equal | notEqual | greater | greaterOrEqual | less | lessOrEqual
  | includes | notIncludes | matching
  deriving DecidableEq, Repr

variable [Engine]

namespace Comparison

def ofName? : String → Option Comparison
  | "===" => some equal
  | "!==" => some notEqual
  | ">" => some greater
  | ">=" => some greaterOrEqual
  | "<" => some less
  | "<=" => some lessOrEqual
  | "includes" => some includes
  | "not includes" => some notIncludes
  | "matches" => some matching
  | _ => none

def matchesLiteral : Json → Literal → Bool
  | .string s, .scalar (.pattern p) => p.isMatch s
  | _, _ => false

def holds (c : Comparison) (value : Json) (literal : Literal) : Bool :=
  let other := literal.toJson
  let order := value.compareValues other
  match c with
  | equal => value.strictEquals other
  | notEqual => !value.strictEquals other
  | greater => order == some .gt
  | greaterOrEqual => order == some .gt || order == some .eq
  | less => order == some .lt
  | lessOrEqual => order == some .lt || order == some .eq
  | includes => value.includes other
  | notIncludes => !value.includes other
  | matching => matchesLiteral value literal

end Comparison

structure Filter where
  comparison : Comparison
  target : String
  literal : Literal

namespace Filter

/-- A match needs a pattern; every other comparison takes any literal. -/
def ofParameters (p : Resolved) : Except Error Filter := do
  let comparison ← p.choice "operation" .comparison Comparison.ofName?
  let target ← p.string "target"
  let literal ← p.value "targetValue"
  if comparison = .matching ∧ literal.asPattern?.isNone then
    throw (.invalidParameter p.nodeType "targetValue" .pattern literal)
  return ⟨comparison, target, literal⟩

def keeps (f : Filter) (record : Record) : Bool :=
  match record.get? f.target with
  | some value => f.comparison.holds value f.literal
  | none => false

def apply (f : Filter) (records : List Record) : List Record := records.filter f.keeps

end Filter

end RecordFlow
