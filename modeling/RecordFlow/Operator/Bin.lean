import RecordFlow.Binary64.Arithmetic
import RecordFlow.Binary64.Logarithm
import RecordFlow.Binary64.Text

/-! # Logarithmic bins

A number falls into the bin between two consecutive powers of ten. A bin is
halved at five times its lower end, and the half that the number falls into is
taken.
-/

namespace RecordFlow

structure Bin where
  low : Binary64
  high : Binary64
  deriving DecidableEq

namespace Bin

/-- The whole part of the decimal logarithm of a magnitude; zero counts as one. -/
def exponentOf : Binary64 → Int
  | .nan => 0
  | .signed _ m => if m = .zero then 0 else m.floorLogTen

/-- A whole power of ten with the sign of `x`; zero counts as positive. -/
def signedPower (x : Binary64) (exponent : Int) : Binary64 :=
  let p := Binary64.power (.ofNat 10) exponent
  if x.less .zero then p.negate else p

def ofEnds (a b : Binary64) : Bin := if b.less a then ⟨b, a⟩ else ⟨a, b⟩

def logarithmic (x : Binary64) : Bin :=
  ofEnds (signedPower x (exponentOf x)) (signedPower x (exponentOf x + 1))

/-- The half of a bin that a number falls into. -/
def half (bin : Bin) (x : Binary64) : Bin :=
  let middle := bin.low.mul (.ofNat 5)
  if x.less middle then ⟨bin.low, middle⟩ else ⟨middle, bin.high⟩

def halfLogarithmic (x : Binary64) : Bin := (logarithmic x).half x

def toText (bin : Bin) : String := bin.low.toPlainText ++ "-" ++ bin.high.toPlainText

end Bin

end RecordFlow
