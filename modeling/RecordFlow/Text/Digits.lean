/-! # Digits

Decimal and hexadecimal digits of the ASCII range, the numbers that digit
strings denote, and the digit strings of a number. Other scripts' digits are
never digits here: every grammar of this library writes numbers in ASCII.
-/

namespace RecordFlow

def decimalValue? (c : Char) : Option Nat :=
  if '0' ≤ c ∧ c ≤ '9' then some (c.toNat - '0'.toNat) else none

def hexValue? (c : Char) : Option Nat :=
  if '0' ≤ c ∧ c ≤ '9' then some (c.toNat - '0'.toNat)
  else if 'a' ≤ c ∧ c ≤ 'f' then some (c.toNat - 'a'.toNat + 10)
  else if 'A' ≤ c ∧ c ≤ 'F' then some (c.toNat - 'A'.toNat + 10)
  else none

def isDecimalDigit (c : Char) : Bool := (decimalValue? c).isSome

def isHexDigit (c : Char) : Bool := (hexValue? c).isSome

def ofDecimalDigits (digits : List Char) : Nat :=
  digits.foldl (fun n c => 10 * n + (decimalValue? c).getD 0) 0

def ofHexDigits (digits : List Char) : Nat :=
  digits.foldl (fun n c => 16 * n + (hexValue? c).getD 0) 0

def decimalDigits (n : Nat) : List Char := Nat.toDigits 10 n

def hexDigits (n : Nat) : List Char := Nat.toDigits 16 n

end RecordFlow
