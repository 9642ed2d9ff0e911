import RecordFlow.Error
import RecordFlow.Proofs.Text.Offsets

/-! # Object literals by a cursor

The readers of object literals work on what is left of a text. Here the same literals are read
the other way: the text stays whole, and a cursor counts the octets before it. The cursor is moved by
the lengths of characters, by fixed counts and by searching; a part of the text is cut out by two
offsets, and only where both lie between two characters. A loop has one turn for each character of
the text and one more. A run that breaks one of these rules stops, and says which. The digits of a
numeral are counted without a bound; a signed 32-bit word holds up to `2 ^ 31 - 1` of them.
-/

namespace RecordFlow.Literal

inductive Stop where
  /-- The text is no object literal. -/
  | fault (fault : LocatedFault)
  /-- A cut that does not lie between two characters of the text. -/
  | cut
  /-- A loop that has no turns left. -/
  | turns
  /-- What was scanned before a step is not what the step takes. -/
  | scan
  deriving DecidableEq

/-- A run over a text, from one offset to another. -/
abbrev Cursor := ReaderT (List Char) (StateT Nat (Except Stop))

inductive Turn (σ α : Type) where
  | next (state : σ)
  | done (value : α)

/-- The number that a text of hexadecimal digits denotes, if there are any and it is below a bound. A plus
sign may stand in front of them. -/
def ofHexText? (bound : Nat) (text : List Char) : Option Nat :=
  let digits := (Text.after? ['+'] text).getD text
  if digits.isEmpty ∨ ¬ digits.all isHexDigit ∨ bound ≤ ofHexDigits digits then none
  else some (ofHexDigits digits)

/-- The number that a text denotes: a decimal numeral, or in any case of letters a word for an infinity or for
no number. A sign may stand in front of them. -/
def ofDecimalText? (text : List Char) : Option Binary64 :=
  let (negative, text) := readExponentSign text
  let word := text.map Char.toLower
  if word = "nan".toList then some .nan
  else if word = "inf".toList ∨ word = "infinity".toList then some (.signed negative .infinity)
  else
    match readDecimal negative text with
    | .ok (x, []) => some x
    | _ => none

variable [Engine]

namespace Cursor

variable {σ α : Type}

def fail (fault : Fault) : Cursor α := do throw (.fault ⟨fault, ← get⟩)

def ofCut : Option (List Char) → Cursor (List Char)
  | some piece => return piece
  | none => throw .cut

def slice (start stop : Nat) : Cursor (List Char) := do ofCut (Text.slice? start stop (← read))

def since (start : Nat) : Cursor (List Char) := do slice start (← get)

def ahead : Cursor (List Char) := do slice (← get) (Text.octets (← read))

def peek : Cursor (Option Char) := return (← ahead).head?

def peekSecond : Cursor (Option Char) := return (← ahead).tail.head?

/-- Moves the cursor. It has to come to lie between two characters again. -/
def advance (count : Nat) : Cursor Unit := do
  let start ← get
  let _ ← slice start (start + count)
  set (start + count)

def bump : Cursor (Option Char) := do
  match ← peek with
  | some c => advance c.utf8Size; return some c
  | none => return none

def expect (wanted : Char) : Cursor Unit := do
  match ← bump with
  | some c => if c = wanted then return () else fail (.expected wanted c)
  | none => fail (.expectedAtEnd wanted)

/-- A loop of at most so many turns. -/
def loopFor (turn : σ → Cursor (Turn σ α)) : Nat → σ → Cursor α
  | 0, _ => throw .turns
  | turns + 1, state => do
    match ← turn state with
    | .next state => loopFor turn turns state
    | .done a => return a

def loop (turn : σ → Cursor (Turn σ α)) (state : σ) : Cursor α := do
  loopFor turn ((← read).length + 1) state

def whileTurn (p : Char → Bool) (count : Nat) : Cursor (Turn Nat Nat) := do
  match ← peek with
  | some c => if p c then do let _ ← bump; return .next (count + 1) else return .done count
  | none => return .done count

/-- Moves the cursor over the characters that satisfy a test, and counts them. -/
def bumpWhile (p : Char → Bool) : Cursor Nat := loop (whileTurn p) 0

def lineTurn (_ : Unit) : Cursor (Turn Unit Unit) := do
  match ← bump with
  | some c => if c = '\n' then return .done () else return .next ()
  | none => return .done ()

def block : Cursor Unit := do
  advance 2
  match Text.breakAt ['*', '/'] (← ahead) with
  | some (comment, _) => advance (Text.octets comment + 2)
  | none => fail .openComment

def triviaTurn (_ : Unit) : Cursor (Turn Unit Unit) := do
  let first ← peek
  let second ← peekSecond
  if first.any Unicode.isWhiteSpace then do let _ ← bump; return .next ()
  else if first = some '/' ∧ second = some '/' then do loop lineTurn (); return .next ()
  else if first = some '/' ∧ second = some '*' then do block; return .next ()
  else return .done ()

def trivia : Cursor Unit := loop triviaTurn ()

def charOf (code : Nat) : Cursor (List Char) :=
  if code.isValidChar then return [Char.ofNat code] else fail (.codePoint code)

def bumpHex : Nat → Cursor Unit
  | 0 => return ()
  | count + 1 => do
    match ← peek with
    | some c => if isHexDigit c then do let _ ← bump; bumpHex count else fail .hexEscape
    | none => fail .hexEscape

def fixedCode (count : Nat) : Cursor (List Char) := do
  let start ← get
  bumpHex count
  match ofHexText? 0x100000000 (← since start) with
  | some code => charOf code
  | none => throw .scan

def bracedCode : Cursor (List Char) := do
  let _ ← bump
  let start ← get
  let _ ← bumpWhile isHexDigit
  let digits ← since start
  expect '\x7d'
  match ofHexText? 0x100000000 digits with
  | some code => charOf code
  | none => fail .unicodeEscape

def escape : Cursor (List Char) := do
  match ← bump with
  | none => fail .openString
  | some c =>
    if c = 'x' then fixedCode 2
    else if c = 'u' then do
      if (← peek) = some '\x7b' then bracedCode else fixedCode 4
    else return escapedChar c

def stringTurn (quote : Char) (chars : List Char) : Cursor (Turn (List Char) (List Char)) := do
  match ← bump with
  | none => fail .openString
  | some c =>
    if c = quote then return .done chars
    else if c = '\\' then return .next (chars ++ (← escape))
    else if c = '\n' then fail .openString
    else return .next (chars ++ [c])

def string : Cursor (List Char) := do
  match ← bump with
  | some quote => loop (stringTurn quote) []
  | none => throw .scan

def endOfWord : Cursor Unit := do
  if (← peek).any isIdentifierPart then fail .wordAfterNumber else return ()

def hexadecimal (negative : Bool) : Cursor Binary64 := do
  advance 2
  let start ← get
  let _ ← bumpWhile isHexDigit
  match ofHexText? 0x10000000000000000 (← since start) with
  | none => fail .hexNumber
  | some n => do
    endOfWord
    return if negative then (Binary64.ofNat n).negate else .ofNat n

/-- Moves the cursor over a point and digits, if there is a point, and counts the digits. -/
def fraction : Cursor Nat := do
  if (← peek) = some '.' then do let _ ← bump; bumpWhile isDecimalDigit else return 0

def exponentSign : Cursor Unit := do
  if (← peek) = some '+' ∨ (← peek) = some '-' then do let _ ← bump else return ()

def exponent : Cursor Unit := do
  if (← peek) = some 'e' ∨ (← peek) = some 'E' then do
    let _ ← bump
    exponentSign
    let start ← get
    let _ ← bumpWhile isDecimalDigit
    if (← get) = start then fail .missingExponent else return ()
  else return ()

/-- A decimal numeral, its sign being at the offset `start`. -/
def decimal (start : Nat) : Cursor Binary64 := do
  let whole ← bumpWhile isDecimalDigit
  let places ← fraction
  if whole + places = 0 then fail .numeral
  else do
    exponent
    endOfWord
    match ofDecimalText? (← since start) with
    | some x => return x
    | none => throw .scan

def magnitude (start : Nat) (negative : Bool) : Cursor Binary64 := do
  let first ← peek
  let second ← peekSecond
  if first = some '0' ∧ (second = some 'x' ∨ second = some 'X') then hexadecimal negative
  else decimal start

def number : Cursor Binary64 := do
  let start ← get
  if (← peek) = some '-' then do let _ ← bump; magnitude start true
  else magnitude start false

def sourceTurn (inBracket : Bool) : Cursor (Turn Bool Unit) := do
  match ← bump with
  | none => fail .openPattern
  | some c =>
    if c = '\\' then do
      match ← bump with
      | none => fail .openPattern
      | some d => if d = '\n' then fail .openPattern else return .next inBracket
    else if c = '[' then return .next true
    else if c = ']' then return .next false
    else if c = '/' ∧ ¬ inBracket then return .done ()
    else if c = '\n' then fail .openPattern
    else return .next inBracket

def pattern : Cursor Pattern := do
  expect '/'
  let start ← get
  loop sourceTurn false
  let source ← slice start ((← get) - 1)
  if source.isEmpty then fail .emptyPattern
  else do
    let start ← get
    let _ ← bumpWhile isIdentifierPart
    let flags ← since start
    match Pattern.make (String.ofList source) (String.ofList flags) with
    | .ok p => return p
    | .error e => fail (.pattern e)

def identifier : Cursor String := do
  let start ← get
  match ← peek with
  | none => fail .missingBrace
  | some c =>
    if isIdentifierStart c then do
      let _ ← bump
      let _ ← bumpWhile isIdentifierPart
      return String.ofList (← since start)
    else fail (.noKey c)

/-- One of the two words that are values. Another word puts the cursor back in front of it. -/
def word : Cursor Bool := do
  let start ← get
  let name ← identifier
  if name = "true" then return true
  else if name = "false" then return false
  else do set start; fail (.notALiteral name)

/-- A value. What an opening bracket leads to depends on the place. -/
def valueOr (bracket : Cursor α) (ofScalar : Scalar → α) : Cursor α := do
  match ← peek with
  | none => fail .valueAtEnd
  | some c =>
    if c = '"' ∨ c = '\'' then return ofScalar (.string (String.ofList (← string)))
    else if c = '[' then bracket
    else if c = '/' then return ofScalar (.pattern (← pattern))
    else if c = '\x7b' then fail .nestedObject
    else if c = '-' ∨ c = '.' ∨ isDecimalDigit c then return ofScalar (.number (← number))
    else if isIdentifierStart c then return ofScalar (.boolean (← word))
    else fail (.noValue c)

/-- What stands behind an entry: a comma, or what closes the entries. -/
def entryEnd (close : Char) (missing : Fault) (unexpected : Char → Fault) (entries : σ) : Cursor (Turn σ σ) := do
  trivia
  match ← bump with
  | none => fail missing
  | some c =>
    if c = ',' then return .next entries
    else if c = close then return .done entries
    else fail (unexpected c)

/-- Entries between brackets or braces: each one is put to those read so far. -/
def entryTurn (close : Char) (missing : Fault) (unexpected : Char → Fault) (entry : σ → Cursor σ) (entries : σ) :
    Cursor (Turn σ σ) := do
  trivia
  if (← peek) = some close then do let _ ← bump; return .done entries
  else entryEnd close missing unexpected (← entry entries)

def item (items : List Scalar) : Cursor (List Scalar) :=
  return items ++ [← valueOr (fail .nestedArray) id]

def array : Cursor Literal := do
  expect '['
  return .array (← loop (entryTurn ']' .missingBracket .noCommaOrBracket item) [])

def member (members : Parameters) : Cursor Parameters := do
  let key ← identifier
  trivia
  expect ':'
  trivia
  return members.insert key (← valueOr array .scalar)

def object : Cursor Parameters := do
  trivia
  expect '\x7b'
  loop (entryTurn '\x7d' .missingBrace .noCommaOrBrace member) .empty

def wholeText : Cursor Parameters := do
  let members ← object
  trivia
  match ← peek with
  | some c => fail (.afterObject c)
  | none => return members

end Cursor

/-- Reads an object literal by a cursor from the start of the text. -/
def runText (text : String) : Except Stop Parameters :=
  (Cursor.wholeText text.toList 0).map Prod.fst

end RecordFlow.Literal
