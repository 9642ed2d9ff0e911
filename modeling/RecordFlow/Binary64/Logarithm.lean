import RecordFlow.Binary64.Shortest

/-! # Decimal logarithm, rounded down

The decimal logarithm of a number is itself a binary number, the nearest one to
the true logarithm. Just below a power of ten the nearest one can be the
exponent of that power, so rounding it down gives one more than the decade.
-/

namespace RecordFlow.Binary64

/-- Logarithms are measured in units of `10 ^ -18`; so many of them make one. -/
def logarithmUnits : Nat := 1000000000000000000

def naturalLogTen : Nat := 2302585092994045684

/-- Halving exponent of the distance from a whole number to the midpoint of the gap below it: the
distance is `2 ^ -result`. -/
def halfGapExponent (k : Int) : Nat :=
  if k = 1 then 54
  else if 0 < k then 53 - (k.toNat - 1).log2
  else 53 - k.natAbs.log2

/-- Whether the logarithm of `units` units, which is below `k`, is nearest to `k`. -/
def logarithmRoundsTo (units : Nat) (k : Int) : Bool :=
  let target := one * Nat.pow 10 k.toNat
  let value := units * Nat.pow 10 (-k).toNat
  k ≠ 0 &&
    (target - value) * logarithmUnits * Nat.pow 2 (halfGapExponent k) < naturalLogTen * target

/-- The decimal logarithm of a finite positive magnitude, rounded down to a whole number. -/
def Magnitude.floorLogTen (m : Magnitude) : Int :=
  let k := decade m.units one
  if logarithmRoundsTo m.units (k + 1) then k + 1 else k

end RecordFlow.Binary64
