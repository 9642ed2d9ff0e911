import RecordFlow.Binary64.Basic

/-! # Arithmetic on binary floating point numbers

Every operation is exact on units and then rounds once to the nearest number,
ties to even. Zeros keep their signs: a sum is negative zero only when both
terms are, and a product or quotient takes the sign of its factors.
-/

namespace RecordFlow.Binary64

def addFinite (x y : Binary64) (bothNegative : Bool) : Binary64 :=
  let sum := x.signedUnits + y.signedUnits
  if sum = 0 then signed bothNegative .zero
  else signed (decide (sum < 0)) (.round sum.natAbs 1)

def add : Binary64 → Binary64 → Binary64
  | signed s a, signed t b =>
    if a.isFinite && b.isFinite then addFinite (signed s a) (signed t b) (s && t)
    else if a.isFinite then signed t b
    else if b.isFinite || s == t then signed s a
    else nan
  | _, _ => nan

def mul : Binary64 → Binary64 → Binary64
  | signed s a, signed t b =>
    let sign := s != t
    if a.isFinite && b.isFinite then signed sign (.round (a.units * b.units) one)
    else if a = .zero ∨ b = .zero then nan
    else signed sign .infinity
  | _, _ => nan

def div : Binary64 → Binary64 → Binary64
  | signed s a, signed t b =>
    let sign := s != t
    if b = .zero then if a = .zero then nan else signed sign .infinity
    else if a.isFinite && b.isFinite then signed sign (.round (a.units * one) b.units)
    else if a.isFinite then signed sign .zero
    else if b.isFinite then signed sign .infinity
    else nan
  | _, _ => nan

/-- Power by repeated squaring, from the lowest bit of the exponent. -/
def squaring (result base : Binary64) (exponent : Nat) : Binary64 :=
  if exponent = 0 then result
  else
    squaring (if exponent % 2 = 1 then mul result base else result) (mul base base)
      (exponent / 2)
termination_by exponent

/-- Whole power of a number; a negative power is the reciprocal of the positive one. -/
def power (base : Binary64) (exponent : Int) : Binary64 :=
  let positive := squaring (ofNat 1) base exponent.natAbs
  if exponent < 0 then div (ofNat 1) positive else positive

end RecordFlow.Binary64
