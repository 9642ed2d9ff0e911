import RecordFlow.Binary64.Arithmetic
import RecordFlow.Binary64.Decimal
import RecordFlow.Json.Basic

/-! # Reading JSON

A reader takes a list of characters to a value and the characters after it.
Values nest less than 128 deep. A value can also be read only to step over it:
then any depth, any size of numbers and any escape is accepted, as long as the
form is right.

A number with a fraction or an exponent is converted fast rather than exactly:
as many of its digits as a word holds are rounded to a floating point number,
which is then multiplied or divided by a power of ten. The result may differ
from the nearest number in its last places.
-/

namespace RecordFlow.Json

def isSpace (c : Char) : Bool := c = ' ' ∨ c = '\t' ∨ c = '\n' ∨ c = '\r'

def skipSpace (text : List Char) : List Char := text.dropWhile isSpace

/-- A piece of a string: a character, or a 16-bit unit given by its number. -/
inductive Piece where
  | char (c : Char)
  | unit (n : Nat)
  deriving DecidableEq

def unescape? : Char → Option Char
  | '"' => some '"'
  | '\\' => some '\\'
  | '/' => some '/'
  | 'b' => some '\x08'
  | 'f' => some '\x0c'
  | 'n' => some '\n'
  | 'r' => some '\r'
  | 't' => some '\t'
  | _ => none

def unitOfHex? (a b c d : Char) : Option Nat :=
  if [a, b, c, d].all isHexDigit then some (ofHexDigits [a, b, c, d]) else none

def readPieces : List Char → Option (List Piece × List Char)
  | [] => none
  | '"' :: text => some ([], text)
  | '\\' :: 'u' :: a :: b :: c :: d :: text =>
    match unitOfHex? a b c d, readPieces text with
    | some n, some (pieces, rest) => some (.unit n :: pieces, rest)
    | _, _ => none
  | '\\' :: e :: text =>
    match unescape? e, readPieces text with
    | some c, some (pieces, rest) => some (.char c :: pieces, rest)
    | _, _ => none
  | c :: text =>
    if c.toNat < 32 ∨ c = '\\' then none
    else (readPieces text).map fun (pieces, rest) => (.char c :: pieces, rest)

def isHighSurrogate (n : Nat) : Bool := 0xd800 ≤ n ∧ n < 0xdc00

def isLowSurrogate (n : Nat) : Bool := 0xdc00 ≤ n ∧ n < 0xe000

/-- The characters of a string; a unit of a surrogate pair must stand next to its partner. -/
def charsOfPieces : List Piece → Option (List Char)
  | [] => some []
  | .char c :: pieces => (charsOfPieces pieces).map (c :: ·)
  | .unit high :: .unit low :: pieces =>
    if isHighSurrogate high then
      if isLowSurrogate low then
        (charsOfPieces pieces).map
          (Char.ofNat (0x10000 + (high - 0xd800) * 0x400 + (low - 0xdc00)) :: ·)
      else none
    else if isLowSurrogate high then none
    else (charsOfPieces (.unit low :: pieces)).map (Char.ofNat high :: ·)
  | .unit n :: pieces =>
    if isHighSurrogate n ∨ isLowSurrogate n then none
    else (charsOfPieces pieces).map (Char.ofNat n :: ·)

/-- A written number: the exponent is absent, or a sign and digits. -/
structure NumberText where
  negative : Bool
  whole : List Char
  fraction : Option (List Char)
  exponent : Option (Bool × List Char)

/-- The whole part: a lone zero, or digits that begin with none. -/
def readWhole (text : List Char) : Option (List Char × List Char) :=
  let (digits, rest) := text.span isDecimalDigit
  match digits with
  | [] => none
  | '0' :: _ :: _ => none
  | digits => some (digits, rest)

def readFraction : List Char → Option (Option (List Char) × List Char)
  | '.' :: text =>
    let (digits, rest) := text.span isDecimalDigit
    if digits.isEmpty then none else some (some digits, rest)
  | text => some (none, text)

def readExponentSign : List Char → Bool × List Char
  | '-' :: text => (true, text)
  | '+' :: text => (false, text)
  | text => (false, text)

def readExponent : List Char → Option (Option (Bool × List Char) × List Char)
  | c :: text =>
    if c = 'e' ∨ c = 'E' then
      let (negative, text) := readExponentSign text
      let (digits, rest) := text.span isDecimalDigit
      if digits.isEmpty then none else some (some (negative, digits), rest)
    else some (none, c :: text)
  | [] => some (none, [])

def readNumberText (text : List Char) : Option (NumberText × List Char) := do
  let (negative, text) := match text with
    | '-' :: text => (true, text)
    | text => (false, text)
  let (whole, text) ← readWhole text
  let (fraction, text) ← readFraction text
  let (exponent, text) ← readExponent text
  return (⟨negative, whole, fraction, exponent⟩, text)

namespace NumberText

def writtenExponent (n : NumberText) : Int :=
  match n.exponent with
  | none => 0
  | some (negative, digits) =>
    if negative then -(ofDecimalDigits digits : Int) else ofDecimalDigits digits

/-- Appends digits to a significand for as long as it fits a 64-bit word, and counts them. -/
def gather : Nat → List Char → Nat × Nat
  | significand, [] => (significand, 0)
  | significand, c :: digits =>
    let next := 10 * significand + (decimalValue? c).getD 0
    if next < 0x10000000000000000 then
      let (result, count) := gather next digits
      (result, count + 1)
    else (significand, 0)

/-- The digits that are taken into account. Each digit before the point that was passed over counts as one
more power of ten. The digits after the point are tried again from the first one on. -/
def toDecimal (n : NumberText) : Decimal :=
  let (whole, count) := gather 0 n.whole
  let (digits, places) := gather whole (n.fraction.getD [])
  ⟨digits, ((n.whole.length - count : Nat) : Int) - places + n.writtenExponent⟩

/-- The largest power of ten that a number is multiplied with or divided by. -/
def maxPlaces : Nat := 308

def powerOfTen (exponent : Nat) : Binary64 := .ofDecimal false ⟨1, exponent⟩

/-- Divides so many times by the largest power of ten; a zero stays as it is. -/
def shrink : Nat → Binary64 → Binary64
  | 0, x => x
  | count + 1, x => if x = .zero then x else shrink count (x.div (powerOfTen maxPlaces))

/-- The decimal as a floating point number without sign, rounded more than once. -/
def scale? (d : Decimal) : Option Binary64 :=
  let x := Binary64.ofNat d.digits
  let places := d.exponent.natAbs
  if d.exponent < 0 then
    let count := (places - 1) / maxPlaces
    some ((shrink count x).div (powerOfTen (places - count * maxPlaces)))
  else if places ≤ maxPlaces then some (x.mul (powerOfTen places))
  else if d.digits = 0 then some x
  else none

def toFloat? (n : NumberText) : Option Number := do
  let x ← scale? n.toDecimal
  let signed := if n.negative then x.negate else x
  if h : signed.isFinite = true then some (.float signed h) else none

/-- A number without fraction and exponent, if it fits 64 bits and is no negative zero. -/
def toInteger? (n : NumberText) : Option Number :=
  let magnitude := ofDecimalDigits n.whole
  let value : Int := if n.negative then -(magnitude : Int) else magnitude
  if n.fraction.isNone ∧ n.exponent.isNone ∧ ¬ (n.negative ∧ magnitude = 0) then
    if h : FitsWord value then some (.integer value h) else none
  else none

/-- Every number that is no integer is a floating point number. -/
def toNumber? (n : NumberText) : Option Number := n.toInteger? <|> n.toFloat?

end NumberText

/-- How scalars are decoded once their form has been read. -/
structure Decoding where
  number : NumberText → Option Json
  text : List Piece → Option String

def Decoding.converting (number? : NumberText → Option Number) : Decoding where
  number n := (number? n).map Json.number
  text pieces := (charsOfPieces pieces).map String.ofList

def Decoding.exact : Decoding := .converting NumberText.toNumber?

def Decoding.ignoring : Decoding where
  number _ := some .null
  text _ := some ""

/-- Reads items with commas between them, up to and with the closing character. There may be at
most `limit` items. -/
def readSeparated {α : Type} (close : Char) (item : List Char → Option (α × List Char)) :
    Nat → List Char → Option (List α × List Char)
  | 0, _ => none
  | limit + 1, text =>
    match item text with
    | none => none
    | some (x, rest) =>
      match skipSpace rest with
      | [] => none
      | c :: next =>
        if c = close then some ([x], next)
        else if c = ',' then
          (readSeparated close item limit next).map fun (xs, rest) => (x :: xs, rest)
        else none

def readItems {α : Type} (close : Char) (item : List Char → Option (α × List Char)) (limit : Nat)
    (text : List Char) : Option (List α × List Char) :=
  match skipSpace text with
  | [] => none
  | c :: rest =>
    if c = close then some ([], rest) else readSeparated close item limit (c :: rest)

def readMember {α : Type} (decoding : Decoding) (value : String → List Char → Option (α × List Char))
    (text : List Char) : Option ((String × α) × List Char) :=
  match skipSpace text with
  | '"' :: text => do
    let (pieces, rest) ← readPieces text
    let key ← decoding.text pieces
    match skipSpace rest with
    | ':' :: rest =>
      let (x, rest) ← value key rest
      return ((key, x), rest)
    | _ => none
  | _ => none

/-- Writes fields in key order; a repeated key keeps its last value. -/
def sortFields (fields : List (String × Json)) : List (String × Json) :=
  fields.foldl (fun sorted field => insertEntry field.1 field.2 sorted) []

def readScalar (decoding : Decoding) (text : List Char) : Option (Json × List Char) :=
  match text with
  | 'n' :: 'u' :: 'l' :: 'l' :: rest => some (null, rest)
  | 't' :: 'r' :: 'u' :: 'e' :: rest => some (bool true, rest)
  | 'f' :: 'a' :: 'l' :: 's' :: 'e' :: rest => some (bool false, rest)
  | '"' :: text => do
    let (pieces, rest) ← readPieces text
    let s ← decoding.text pieces
    return (string s, rest)
  | text => do
    let (n, rest) ← readNumberText text
    let value ← decoding.number n
    return (value, rest)

/-- Reads a value that nests at most `depth` brackets, none of them with more than `limit` items. -/
def readValue (decoding : Decoding) (limit : Nat) : Nat → List Char → Option (Json × List Char)
  | depth, text =>
    match skipSpace text with
    | '[' :: rest =>
      match depth with
      | 0 => none
      | depth + 1 =>
        (readItems ']' (readValue decoding limit depth) limit rest).map fun (items, rest) =>
          (array items, rest)
    | '\x7b' :: rest =>
      match depth with
      | 0 => none
      | depth + 1 =>
        (readItems '\x7d' (readMember decoding fun _ => readValue decoding limit depth) limit
          rest).map fun (fields, rest) => (object (sortFields fields), rest)
    | text => readScalar decoding text

def maxDepth : Nat := 127

def skipValue (limit : Nat) (text : List Char) : Option (List Char) :=
  (readValue .ignoring limit limit text).map (·.2)

/-- Reads a whole text as one value. A bracket has fewer items than the text has characters. -/
def ofText? (text : String) : Option Json :=
  let text := text.toList
  match readValue .exact text.length maxDepth text with
  | some (value, rest) => if (skipSpace rest).isEmpty then some value else none
  | none => none

end RecordFlow.Json
