import RecordFlow.Binary64.Shortest

/-! # Written numbers

Numbers are written in three styles. The plain style never has an exponent and
writes a whole number without a point. The data style marks a number as a
floating one by a point or an exponent, and takes an exponent for very large
and very small magnitudes. The inspection style does the same with other bounds
and leaves out the sign of a positive exponent.
-/

namespace RecordFlow

namespace Decimal

/-- Digits without exponent. A whole number ends in `tail`. -/
def plain (d : Decimal) (tail : String) : String :=
  let digits := decimalDigits d.digits
  if 0 ≤ d.exponent then
    String.ofList (digits ++ List.replicate d.exponent.toNat '0') ++ tail
  else
    let places := d.exponent.natAbs
    let padded := List.replicate (places + 1 - digits.length) '0' ++ digits
    let whole := padded.length - places
    String.ofList (padded.take whole ++ '.' :: padded.drop whole)

/-- One digit before the point, the others after it, then the exponent, its sign being `plus` if it
is not negative. -/
def scientific (d : Decimal) (plus : String) : String :=
  let digits := decimalDigits d.digits
  let exponent := d.exponent + digits.length - 1
  let mantissa := match digits with
    | [] => []
    | [c] => [c]
    | c :: rest => c :: '.' :: rest
  let sign := if exponent < 0 then "-" else plus
  String.ofList mantissa ++ "e" ++ sign ++ String.ofList (decimalDigits exponent.natAbs)

def leadingExponent (d : Decimal) : Int := d.exponent + (digitCount d.digits : Int) - 1

end Decimal

namespace Binary64

/-- The plain style: `2`, `0.5`, `100000000000000000000`, `-0`, `inf`. -/
def toPlainText : Binary64 → String
  | nan => "NaN"
  | signed s m =>
    (if s then "-" else "") ++
      if m.isFinite then (m.shortest .up).plain "" else "inf"

/-- The data style of a finite number: `2.0`, `0.5`, `1e+20`, `-0.0`, `1.5e-7`. -/
def toDataText : Binary64 → String
  | nan => "null"
  | signed s m =>
    let d := m.shortest .toEven
    let positional := d.digits = 0 ∨ (-5 ≤ d.leadingExponent ∧ d.leadingExponent < 16)
    (if s then "-" else "") ++ if positional then d.plain ".0" else d.scientific "+"

/-- The inspection style: `2.0`, `0.5`, `1e20`, `-0.0`, `1.5e-7`, `inf`. -/
def toInspectionText : Binary64 → String
  | nan => "NaN"
  | signed s m =>
    let d := m.shortest .up
    let positional := d.digits = 0 ∨ (-4 ≤ d.leadingExponent ∧ d.leadingExponent < 16)
    (if s then "-" else "") ++
      if m.isFinite then if positional then d.plain ".0" else d.scientific "" else "inf"

end Binary64

end RecordFlow
