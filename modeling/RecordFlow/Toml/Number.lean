import RecordFlow.Binary64.Decimal
import RecordFlow.Toml.Basic

/-! # Numbers, dates and times of TOML

Underscores may stand between digits. A decimal number begins with no needless
zero; hexadecimal, octal and binary numbers have a mark in front and no sign.
Integers fit 64 bits. Dates are those of the calendar, and the seconds of a
minute may count to sixty.
-/

namespace RecordFlow.Toml

/-- Reads digits with single underscores between them; the digits come without them. -/
def readDigits (isDigit : Char → Bool) : List Char → Option (List Char × List Char)
  | [] => none
  | c :: '_' :: rest =>
    if isDigit c then (readDigits isDigit rest).map fun (ds, rest) => (c :: ds, rest) else none
  | c :: rest =>
    if isDigit c then
      match readDigits isDigit rest with
      | some (ds, rest) => some (c :: ds, rest)
      | none => if (rest.head?.map isDigit).getD false then none else some ([c], rest)
    else none

def readSign : List Char → Bool × List Char
  | '+' :: rest => (false, rest)
  | '-' :: rest => (true, rest)
  | rest => (false, rest)

/-- Reads the digits of a whole number: a zero alone, or digits that begin with none. -/
def readWhole : List Char → Option (List Char × List Char)
  | '0' :: rest => some (['0'], rest)
  | text => readDigits isDecimalDigit text

/-- A whole number that fits 64 bits with its sign. -/
def integer? (n : Int) : Option Value :=
  if -0x8000000000000000 ≤ n ∧ n < 0x8000000000000000 then some (.integer n) else none

def readExponent : List Char → Option (Option Int × List Char)
  | c :: rest =>
    if c = 'e' ∨ c = 'E' then
      let (negative, rest) := readSign rest
      (readDigits isDecimalDigit rest).map fun (digits, rest) =>
        let n : Int := ofDecimalDigits digits
        (some (if negative then -n else n), rest)
    else some (none, c :: rest)
  | [] => some (none, [])

def readFraction : List Char → Option (Option (List Char) × List Char)
  | '.' :: rest => (readDigits isDecimalDigit rest).map fun (digits, rest) => (some digits, rest)
  | rest => some (none, rest)

def readDecimal (negative : Bool) (text : List Char) : Option (Value × List Char) := do
  let (whole, rest) ← readWhole text
  let (fraction, rest) ← readFraction rest
  let (exponent, rest) ← readExponent rest
  if fraction.isNone ∧ exponent.isNone then
    let n : Int := ofDecimalDigits whole
    return (← integer? (if negative then -n else n), rest)
  else
    let numeral : Numeral := ⟨whole, fraction.getD [], exponent.getD 0⟩
    let x := Binary64.ofDecimal negative numeral.toDecimal
    if x = .signed false .infinity then none else return (.float x, rest)

def readBased (base : Nat) (text : List Char) : Option (Value × List Char) := do
  let isDigit := fun c => ((hexValue? c).map fun d => decide (d < base)).getD false
  let (digits, rest) ← readDigits isDigit text
  let n := digits.foldl (fun n c => base * n + (hexValue? c).getD 0) 0
  return (← integer? n, rest)

def readNumber (text : List Char) : Option (Value × List Char) :=
  match text with
  | '0' :: 'x' :: rest => readBased 16 rest
  | '0' :: 'o' :: rest => readBased 8 rest
  | '0' :: 'b' :: rest => readBased 2 rest
  | _ =>
    let (negative, rest) := readSign text
    match rest with
    | 'i' :: 'n' :: 'f' :: rest => some (.float (.signed negative .infinity), rest)
    | 'n' :: 'a' :: 'n' :: rest => some (.float .nan, rest)
    | rest => readDecimal negative rest

/-- Reads a number of exactly `count` digits within bounds. -/
def readField (count low high : Nat) (text : List Char) : Option (Nat × List Char) :=
  let digits := text.take count
  let n := ofDecimalDigits digits
  if digits.length = count ∧ digits.all isDecimalDigit ∧ low ≤ n ∧ n ≤ high then
    some (n, text.drop count)
  else none

def readChar (wanted : Char) : List Char → Option (List Char)
  | [] => none
  | c :: rest => if c = wanted then some rest else none

def daysInMonth (year month : Nat) : Nat :=
  if month = 2 then
    if year % 4 = 0 ∧ (year % 100 ≠ 0 ∨ year % 400 = 0) then 29 else 28
  else if month = 4 ∨ month = 6 ∨ month = 9 ∨ month = 11 then 30
  else 31

def readDate (text : List Char) : Option (List Char) := do
  let (year, rest) ← readField 4 0 9999 text
  let (month, rest) ← readField 2 1 12 (← readChar '-' rest)
  let (_, rest) ← readField 2 1 (daysInMonth year month) (← readChar '-' rest)
  return rest

def readTime (text : List Char) : Option (List Char) := do
  let (_, rest) ← readField 2 0 23 text
  let (_, rest) ← readField 2 0 59 (← readChar ':' rest)
  let (_, rest) ← readField 2 0 60 (← readChar ':' rest)
  match rest with
  | '.' :: digits =>
    if (digits.takeWhile isDecimalDigit).isEmpty then return rest
    else return digits.dropWhile isDecimalDigit
  | _ => return rest

def readOffset (text : List Char) : List Char :=
  match text with
  | [] => []
  | c :: rest =>
    if c = 'Z' ∨ c = 'z' then rest
    else if c = '+' ∨ c = '-' then
      (do
        let (_, rest) ← readField 2 0 23 rest
        let (_, rest) ← readField 2 0 59 (← readChar ':' rest)
        return rest).getD text
    else text

def readTimeOfDate (text : List Char) : List Char :=
  match text with
  | [] => []
  | c :: rest =>
    if c = 'T' ∨ c = 't' ∨ c = ' ' then ((readTime rest).map readOffset).getD text else text

def readMoment (text : List Char) : Option (List Char) :=
  ((readDate text).map readTimeOfDate).or (readTime text)

/-- Reads a value that begins with a sign or a digit. -/
def readNumeric (text : List Char) : Option (Value × List Char) :=
  match readMoment text with
  | some rest => some (.moment (String.ofList (text.take (text.length - rest.length))), rest)
  | none => readNumber text

end RecordFlow.Toml
