import RecordFlow.Json.Compare

/-! # The order of JSON values

The total order compares values by their rank, and values of one rank by a number, a
text or a truth value. It is therefore a transitive comparison, and turning it around
turns its result around.
-/

namespace RecordFlow

namespace Binary64

def place : Binary64 → Int
  | nan => 0
  | signed s m => orderKey s m

theorem compare?_eq_some {x y : Binary64} (hx : x ≠ nan) (hy : y ≠ nan) :
    compare? x y = some (compare x.place y.place) := by
  cases x with
  | nan => exact absurd rfl hx
  | signed s a =>
    cases y with
    | nan => exact absurd rfl hy
    | signed t b => rfl

end Binary64

namespace Json

theorem Number.toBinary64_ne_nan (n : Number) : n.toBinary64 ≠ .nan := by
  cases n with
  | integer n hn => exact Binary64.noConfusion
  | float x hx =>
    rintro rfl
    cases hx

def place : Json → Int
  | number x => x.toBinary64.place
  | _ => 0

def text : Json → String
  | string s => s
  | _ => ""

def truth : Json → Bool
  | bool b => b
  | _ => false

theorem then_compare_of_ne {m n : Nat} (h : m ≠ n) (o : Ordering) : (compare m n).then o = compare m n := by
  have hne : compare m n ≠ .eq := fun heq => h (Nat.compare_eq_eq.1 heq)
  cases hcompare : compare m n with
  | eq => exact absurd hcompare hne
  | lt | gt => rfl

/-- Numbers differ in their places only, strings in their texts, and truth values in themselves. -/
theorem totalOrder_eq_compareLex :
    totalOrder = compareLex (compareOn kindRank)
      (compareLex (compareOn place) (compareLex (compareOn text) (compareOn truth))) := by
  funext a b
  simp only [totalOrder, compareLex, compareOn]
  by_cases hrank : a.kindRank = b.kindRank
  · cases a <;> cases b <;> simp [kindRank] at hrank <;>
      simp [kindRank, compareValues, place, text, truth,
        Binary64.compare?_eq_some (Number.toBinary64_ne_nan _) (Number.toBinary64_ne_nan _)]
  · rw [then_compare_of_ne hrank, then_compare_of_ne hrank]

instance : Std.TransCmp totalOrder := by
  rw [totalOrder_eq_compareLex]
  infer_instance

end Json

end RecordFlow
