/-! # Binary floating point numbers

A number of the 64-bit binary format is a sign and a magnitude, or no number
at all. A magnitude is given by its code, the exponent and fraction fields read
as one natural number, so that larger codes are larger magnitudes. Every finite
magnitude is a whole number of units, the unit being the least positive one.
-/

namespace RecordFlow

namespace Binary64

def fractionSize : Nat := 0x10000000000000

/-- Code of infinity: the exponent field full, the fraction zero. -/
def infinityCode : Nat := 2047 * fractionSize

def one : Nat := Nat.pow 2 1074

/-- A magnitude, infinity included. -/
structure Magnitude where
  code : Nat
  code_le : code ≤ infinityCode
  deriving DecidableEq

namespace Magnitude

def zero : Magnitude := ⟨0, by decide⟩

def infinity : Magnitude := ⟨infinityCode, Nat.le_refl _⟩

def isFinite (m : Magnitude) : Bool := decide (m.code < infinityCode)

/-- The number of units in the magnitude with a given code. -/
def unitsOfCode (code : Nat) : Nat :=
  let field := code / fractionSize
  if field = 0 then code else (fractionSize + code % fractionSize) * Nat.pow 2 (field - 1)

def units (m : Magnitude) : Nat := unitsOfCode m.code

end Magnitude

/-- The whole number nearest to `num / den`; of two nearest ones, the even one. -/
def roundHalfEven (num den : Nat) : Nat :=
  let below := num / den
  let twice := 2 * (num % den)
  if twice < den then below
  else if den < twice then below + 1
  else if below % 2 = 0 then below else below + 1

/-- The power of two by which the last place of a magnitude of `units` units is scaled. -/
def scale (units : Nat) : Nat :=
  if units < 2 * fractionSize then 0 else units.log2 - 52

/-- The magnitude nearest to `num / den` units, ties going to the even code. -/
def Magnitude.round (num den : Nat) : Magnitude :=
  let shift := scale (num / den)
  ⟨min infinityCode (shift * fractionSize + roundHalfEven num (den * Nat.pow 2 shift)),
    Nat.min_le_left _ _⟩

end Binary64

inductive Binary64 where
  | nan
  | signed (negative : Bool) (magnitude : Binary64.Magnitude)
  deriving DecidableEq

namespace Binary64

def zero : Binary64 := .signed false .zero

def isFinite : Binary64 → Bool
  | nan => false
  | signed _ m => m.isFinite

def negate : Binary64 → Binary64
  | nan => nan
  | signed s m => signed (!s) m

/-- The value in units, with its sign; meaningful for finite numbers. -/
def signedUnits : Binary64 → Int
  | nan => 0
  | signed s m => if s then -(m.units : Int) else m.units

def ofInt (n : Int) : Binary64 := signed (decide (n < 0)) (.round (n.natAbs * one) 1)

def ofNat (n : Nat) : Binary64 := ofInt n

/-- A whole number whose order is the numeric order: both zeros are at zero. -/
def orderKey (negative : Bool) (m : Magnitude) : Int :=
  if negative then -(m.code : Int) else m.code

/-- Numeric order; nothing is comparable to what is no number. -/
def compare? : Binary64 → Binary64 → Option Ordering
  | signed s a, signed t b => some (compare (orderKey s a) (orderKey t b))
  | _, _ => none

/-- Numeric equality: the two zeros are equal, and what is no number equals nothing. -/
def equals (x y : Binary64) : Bool := compare? x y == some .eq

def less (x y : Binary64) : Bool := compare? x y == some .lt

/-- The larger of two numbers; what is no number gives way to the other. -/
def maximum (x y : Binary64) : Binary64 :=
  match compare? x y with
  | some .lt => y
  | some _ => x
  | none => if x = nan then y else x

def toInt? (x : Binary64) : Option Int :=
  if x.isFinite ∧ x.signedUnits % one = 0 then some (x.signedUnits / one) else none

end Binary64

end RecordFlow
