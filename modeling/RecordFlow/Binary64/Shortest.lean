import RecordFlow.Binary64.Decimal

/-! # Shortest decimals

A finite number is written with the fewest decimal digits that read back as the
same number. For each count of digits the two neighbours of the number on the
decimal grid are tried; the first grid with a neighbour that reads back wins,
and of two such neighbours the nearer one.
-/

namespace RecordFlow

/-- Number of decimal digits; zero has none. -/
def digitCount (n : Nat) : Nat := if n = 0 then 0 else digitCount (n / 10) + 1

/-- The largest `k` with `10 ^ k ≤ num / den`, for positive `num` and `den`. -/
def decade (num den : Nat) : Int :=
  if den ≤ num then (digitCount (num / den) : Int) - 1 else -(digitCount ((den - 1) / num) : Int)

/-- Where a number halfway between two shortest decimals goes. -/
inductive Tie where
  | up
  | toEven
  deriving DecidableEq

namespace Decimal

def stripZeros (digits : Nat) (exponent : Int) : Decimal :=
  if _h : digits ≠ 0 ∧ digits % 10 = 0 then stripZeros (digits / 10) (exponent + 1)
  else ⟨digits, exponent⟩
termination_by digits

end Decimal

namespace Binary64.Magnitude

/-- Whether `digits * 10 ^ exponent` lies between the midpoints to the two neighbouring codes; the
midpoints themselves count when the code is even. -/
def readsBack (code digits : Nat) (exponent : Int) : Bool :=
  let up := Nat.pow 10 (-exponent).toNat
  let twice := 2 * digits * one * Nat.pow 10 exponent.toNat
  let low := (unitsOfCode code + unitsOfCode (code - 1)) * up
  let high := (unitsOfCode code + unitsOfCode (code + 1)) * up
  if code % 2 = 0 then low ≤ twice && twice ≤ high else low < twice && twice < high

/-- The neighbour on the grid of multiples of `10 ^ exponent` that stands for the code, if one of
the two reads back. -/
def onGrid (tie : Tie) (code : Nat) (exponent : Int) : Option Nat :=
  let num := unitsOfCode code * Nat.pow 10 (-exponent).toNat
  let den := one * Nat.pow 10 exponent.toNat
  let below := num / den
  match readsBack code below exponent, readsBack code (below + 1) exponent with
  | false, false => none
  | true, false => some below
  | false, true => some (below + 1)
  | true, true =>
    let twice := 2 * (num % den)
    if twice < den then some below
    else if den < twice then some (below + 1)
    else match tie with
      | .up => some (below + 1)
      | .toEven => some (if below % 2 = 0 then below else below + 1)

/-- Tries the grids from `exponent` downwards, `count` of them. -/
def refine (tie : Tie) (code : Nat) (exponent : Int) : Nat → Decimal
  | 0 => ⟨0, 0⟩
  | count + 1 =>
    match onGrid tie code exponent with
    | some digits => .stripZeros digits exponent
    | none => refine tie code (exponent - 1) count

/-- The shortest decimal of a finite magnitude. Seventeen digits are always enough. -/
def shortest (tie : Tie) (m : Magnitude) : Decimal :=
  if m.units = 0 then ⟨0, 0⟩ else refine tie m.code (decade m.units one) 17

end Binary64.Magnitude

end RecordFlow
