import RecordFlow.Binary64.Basic
import RecordFlow.Text.Digits

/-! # Decimal notation of numbers

A decimal is a whole number times a power of ten. Reading one gives the nearest
binary number. Exponents beyond the range of the format are settled without
writing the power of ten out.
-/

namespace RecordFlow

/-- The number `digits * 10 ^ exponent`. -/
structure Decimal where
  digits : Nat
  exponent : Int
  deriving DecidableEq, Repr

namespace Binary64

def Magnitude.ofDecimal (d : Decimal) : Magnitude :=
  if d.digits = 0 then .zero
  else if 400 < d.exponent then .infinity
  else if 0 ≤ d.exponent then .round (d.digits * Nat.pow 10 d.exponent.toNat * one) 1
  else if d.digits.log2 + 1101 < 3 * d.exponent.natAbs then .zero
  else .round (d.digits * one) (Nat.pow 10 d.exponent.natAbs)

def ofDecimal (negative : Bool) (d : Decimal) : Binary64 := signed negative (.ofDecimal d)

end Binary64

/-- The parts of a decimal numeral: digits before and after the point, and the exponent. -/
structure Numeral where
  whole : List Char
  fraction : List Char
  exponent : Int
  deriving DecidableEq

namespace Numeral

def toDecimal (n : Numeral) : Decimal :=
  ⟨ofDecimalDigits (n.whole ++ n.fraction), n.exponent - n.fraction.length⟩

end Numeral

namespace Binary64

/-- Reads the exponent part `e`, sign, digits; a text without it has exponent zero. -/
def exponentOfText? : List Char → Option Int
  | [] => some 0
  | e :: text =>
    if e ≠ 'e' ∧ e ≠ 'E' then none
    else
      let (negative, digits) :=
        match text with
        | '-' :: digits => (true, digits)
        | '+' :: digits => (false, digits)
        | digits => (false, digits)
      if digits.isEmpty ∨ ¬ digits.all isDecimalDigit then none
      else
        let value : Int := ofDecimalDigits digits
        some (if negative then -value else value)

def numeralOfText? (text : List Char) : Option Numeral :=
  let (whole, rest) := text.span isDecimalDigit
  let (fraction, rest) :=
    match rest with
    | '.' :: rest => rest.span isDecimalDigit
    | rest => ([], rest)
  if whole.isEmpty ∧ fraction.isEmpty then none
  else (exponentOfText? rest).map fun exponent => ⟨whole, fraction, exponent⟩

/-- Reads a whole text as a number: an optional sign, then a numeral or a name of infinity or of
what is no number. -/
def ofText? (text : String) : Option Binary64 :=
  let (negative, rest) :=
    match text.toList with
    | '-' :: rest => (true, rest)
    | '+' :: rest => (false, rest)
    | rest => (false, rest)
  let lower := String.ofList (rest.map Char.toLower)
  if lower = "inf" ∨ lower = "infinity" then some (signed negative .infinity)
  else if lower = "nan" then some nan
  else (numeralOfText? rest).map fun n => ofDecimal negative n.toDecimal

end Binary64

end RecordFlow
