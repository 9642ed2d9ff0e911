import RecordFlow.Literal.Basic
import RecordFlow.Literal.Fault

/-! # Reading object literals

A reader takes a list of characters to a value and the characters after it, or
fails with a fault and the characters that were left when it was found. Blanks
and comments may stand around every token. Readers that run in a loop come with
a lemma that they leave fewer characters than they were given.

Of the digits of a numeral it is only asked whether there are any. A count of
them in a signed 32-bit word tells the same up to `2 ^ 31 - 1` digits.
-/

namespace RecordFlow.Literal

/-- A fault, with the characters that were left when it was found. -/
structure Failure where
  fault : Fault
  rest : List Char
  deriving DecidableEq

/-- The result of a reader: a value and the characters after it. -/
abbrev Reading (α : Type) := Except Failure (α × List Char)

def isIdentifierStart (c : Char) : Bool := Unicode.isAlphabetic c || c == '_' || c == '$'

def isIdentifierPart (c : Char) : Bool := Unicode.isAlphanumeric c || c == '_' || c == '$'

def afterLine : List Char → List Char
  | [] => []
  | c :: text => if c = '\n' then text else afterLine text

def afterBlock? : List Char → Option (List Char)
  | '*' :: '/' :: text => some text
  | _ :: text => afterBlock? text
  | [] => none

theorem length_afterLine (text : List Char) : (afterLine text).length ≤ text.length := by
  induction text with
  | nil => simp [afterLine]
  | cons c text ih =>
    simp only [afterLine]
    split <;> simp only [List.length_cons] <;> omega

theorem length_afterBlock? {text rest : List Char} (h : afterBlock? text = some rest) :
    rest.length < text.length := by
  fun_induction afterBlock? text with
  | case1 text => cases h; simp only [List.length_cons]; omega
  | case2 c text _ ih => have := ih h; simp only [List.length_cons]; omega
  | case3 => cases h

def skipTrivia (text : List Char) : Except Failure (List Char) :=
  match text with
  | [] => .ok []
  | '/' :: '/' :: text => skipTrivia (afterLine text)
  | '/' :: '*' :: text =>
    match _h : afterBlock? text with
    | some rest => skipTrivia rest
    | none => .error ⟨.openComment, text⟩
  | c :: text => if Unicode.isWhiteSpace c then skipTrivia text else .ok (c :: text)
termination_by text.length
decreasing_by
  · have := length_afterLine text; simp only [List.length_cons]; omega
  · have := length_afterBlock? _h; simp only [List.length_cons]; omega
  · simp

theorem length_skipTrivia {text rest : List Char} (h : skipTrivia text = .ok rest) :
    rest.length ≤ text.length := by
  fun_induction skipTrivia text with
  | case1 => cases h; simp
  | case2 text ih =>
    have := ih h
    have := length_afterLine text
    simp only [List.length_cons]; omega
  | case3 text rest' h' ih =>
    have := ih h
    have := length_afterBlock? h'
    simp only [List.length_cons]; omega
  | case4 => cases h
  | case5 c text _ _ _ ih => have := ih h; simp only [List.length_cons]; omega
  | case6 => cases h; simp

def expect (wanted : Char) : List Char → Except Failure (List Char)
  | [] => .error ⟨.expectedAtEnd wanted, []⟩
  | c :: text => if c = wanted then .ok text else .error ⟨.expected wanted c, text⟩

theorem length_expect {wanted : Char} {text rest : List Char} (h : expect wanted text = .ok rest) :
    rest.length < text.length := by
  cases text with
  | nil => cases h
  | cons c text =>
    simp only [expect] at h
    split at h
    · cases h; simp
    · cases h

def readKey (text : List Char) : Reading String :=
  match text with
  | [] => .error ⟨.missingBrace, []⟩
  | c :: _ =>
    if isIdentifierStart c then
      .ok (String.ofList (text.takeWhile isIdentifierPart), text.dropWhile isIdentifierPart)
    else .error ⟨.noKey c, text⟩

def readHex (value : Nat) : Nat → List Char → Reading Nat
  | 0, text => .ok (value, text)
  | _ + 1, [] => .error ⟨.hexEscape, []⟩
  | count + 1, c :: text =>
    match hexValue? c with
    | some digit => readHex (16 * value + digit) count text
    | none => .error ⟨.hexEscape, c :: text⟩

def charOfCode (code : Nat) (rest : List Char) : Reading (List Char) :=
  if code.isValidChar then .ok ([Char.ofNat code], rest) else .error ⟨.codePoint code, rest⟩

def readBracedCode (text : List Char) : Reading (List Char) :=
  let digits := text.takeWhile isHexDigit
  match expect '\x7d' (text.dropWhile isHexDigit) with
  | .error e => .error e
  | .ok rest =>
    if digits.isEmpty ∨ 0x100000000 ≤ ofHexDigits digits then .error ⟨.unicodeEscape, rest⟩
    else charOfCode (ofHexDigits digits) rest

def readFixedCode (count : Nat) (text : List Char) : Reading (List Char) :=
  match readHex 0 count text with
  | .error e => .error e
  | .ok (code, rest) => charOfCode code rest

def readUnicodeEscape : List Char → Reading (List Char)
  | [] => .error ⟨.hexEscape, []⟩
  | c :: text => if c = '\x7b' then readBracedCode text else readFixedCode 4 (c :: text)

/-- What a character stands for after a backslash. A newline stands for nothing, and a character
without a meaning of its own for itself. -/
def escapedChar : Char → List Char
  | 'n' => ['\n']
  | 't' => ['\t']
  | 'r' => ['\r']
  | 'b' => ['\x08']
  | 'f' => ['\x0c']
  | 'v' => ['\x0b']
  | '0' => ['\x00']
  | '\n' => []
  | c => [c]

def readEscape : List Char → Reading (List Char)
  | [] => .error ⟨.openString, []⟩
  | c :: text =>
    if c = 'x' then readFixedCode 2 text
    else if c = 'u' then readUnicodeEscape text
    else .ok (escapedChar c, text)

theorem length_readHex {value count code : Nat} {text rest : List Char}
    (h : readHex value count text = .ok (code, rest)) : rest.length ≤ text.length := by
  fun_induction readHex value count text with
  | case1 => cases h; simp
  | case2 => cases h
  | case3 value count c text digit _ ih => have := ih h; simp only [List.length_cons]; omega
  | case4 => cases h

theorem length_charOfCode {code : Nat} {text chars rest : List Char}
    (h : charOfCode code text = .ok (chars, rest)) : rest = text := by
  simp only [charOfCode] at h
  split at h
  · cases h; rfl
  · cases h

theorem length_readFixedCode {count : Nat} {text chars rest : List Char}
    (h : readFixedCode count text = .ok (chars, rest)) : rest.length ≤ text.length := by
  simp only [readFixedCode] at h
  split at h
  · cases h
  · next h' => rw [length_charOfCode h]; exact length_readHex h'

theorem length_readBracedCode {text chars rest : List Char}
    (h : readBracedCode text = .ok (chars, rest)) : rest.length < text.length := by
  simp only [readBracedCode] at h
  split at h
  · cases h
  · next h' =>
    split at h
    · cases h
    · have := length_expect h'
      have := (List.dropWhile_sublist isHexDigit (l := text)).length_le
      rw [length_charOfCode h]
      omega

theorem length_readUnicodeEscape {text chars rest : List Char}
    (h : readUnicodeEscape text = .ok (chars, rest)) : rest.length ≤ text.length := by
  cases text with
  | nil => cases h
  | cons c text =>
    simp only [readUnicodeEscape] at h
    split at h
    · have := length_readBracedCode h
      simp only [List.length_cons]; omega
    · exact length_readFixedCode h

theorem length_readEscape {text chars rest : List Char}
    (h : readEscape text = .ok (chars, rest)) : rest.length < text.length := by
  cases text with
  | nil => cases h
  | cons c text =>
    simp only [readEscape] at h
    split at h
    · have := length_readFixedCode h
      simp only [List.length_cons]; omega
    split at h
    · have := length_readUnicodeEscape h
      simp only [List.length_cons]; omega
    · cases h; simp

def readString (quote : Char) (text : List Char) : Reading (List Char) :=
  match text with
  | [] => .error ⟨.openString, []⟩
  | c :: text =>
    if c = quote then .ok ([], text)
    else if c = '\\' then
      match _h : readEscape text with
      | .error e => .error e
      | .ok (chars, rest) => (readString quote rest).map fun (s, rest) => (chars ++ s, rest)
    else if c = '\n' then .error ⟨.openString, text⟩
    else (readString quote text).map fun (s, rest) => (c :: s, rest)
termination_by text.length
decreasing_by
  · have := length_readEscape _h; simp only [List.length_cons]; omega
  · simp

def endNumber (x : Binary64) (rest : List Char) : Reading Binary64 :=
  match rest with
  | [] => .ok (x, [])
  | c :: text =>
    if isIdentifierPart c then .error ⟨.wordAfterNumber, c :: text⟩ else .ok (x, c :: text)

/-- Reads hexadecimal digits as a number of at most 64 bits. -/
def readHexNumber (negative : Bool) (text : List Char) : Reading Binary64 :=
  let digits := text.takeWhile isHexDigit
  let rest := text.dropWhile isHexDigit
  if digits.isEmpty ∨ 0x10000000000000000 ≤ ofHexDigits digits then .error ⟨.hexNumber, rest⟩
  else
    let x := Binary64.ofNat (ofHexDigits digits)
    endNumber (if negative then x.negate else x) rest

def readFraction : List Char → List Char × List Char
  | '.' :: text => (text.takeWhile isDecimalDigit, text.dropWhile isDecimalDigit)
  | text => ([], text)

def readExponentSign : List Char → Bool × List Char
  | '+' :: text => (false, text)
  | '-' :: text => (true, text)
  | text => (false, text)

def readExponent (text : List Char) : Reading Int :=
  match text with
  | [] => .ok (0, [])
  | c :: text =>
    if c = 'e' ∨ c = 'E' then
      let (negative, text) := readExponentSign text
      let digits := text.takeWhile isDecimalDigit
      if digits.isEmpty then .error ⟨.missingExponent, text⟩
      else
        let value : Int := ofDecimalDigits digits
        .ok (if negative then -value else value, text.dropWhile isDecimalDigit)
    else .ok (0, c :: text)

/-- Reads a decimal number: digits with an optional point among them, and an optional exponent. -/
def readDecimal (negative : Bool) (text : List Char) : Reading Binary64 :=
  let whole := text.takeWhile isDecimalDigit
  let (fraction, rest) := readFraction (text.dropWhile isDecimalDigit)
  if whole.isEmpty ∧ fraction.isEmpty then .error ⟨.numeral, rest⟩
  else
    match readExponent rest with
    | .error e => .error e
    | .ok (exponent, rest) =>
      endNumber (.ofDecimal negative (Numeral.toDecimal ⟨whole, fraction, exponent⟩)) rest

def readMagnitude (negative : Bool) (text : List Char) : Reading Binary64 :=
  match text with
  | '0' :: 'x' :: text => readHexNumber negative text
  | '0' :: 'X' :: text => readHexNumber negative text
  | text => readDecimal negative text

def readNumber : List Char → Reading Binary64
  | '-' :: text => readMagnitude true text
  | text => readMagnitude false text

/-- Reads the source of a pattern up to the slash that closes it: the first one outside a bracket
that no backslash precedes. -/
def readSource (inBracket : Bool) : List Char → Reading (List Char)
  | [] => .error ⟨.openPattern, []⟩
  | ['\\'] => .error ⟨.openPattern, []⟩
  | '\\' :: c :: text =>
    if c = '\n' then .error ⟨.openPattern, text⟩
    else (readSource inBracket text).map fun (s, rest) => ('\\' :: c :: s, rest)
  | c :: text =>
    if c = '/' ∧ ¬ inBracket then .ok ([], text)
    else if c = '\n' then .error ⟨.openPattern, text⟩
    else
      let inBracket := if c = '[' then true else if c = ']' then false else inBracket
      (readSource inBracket text).map fun (s, rest) => (c :: s, rest)

theorem map_eq_ok {ε α β : Type} {f : α → β} {x : Except ε α} {y : β} (h : x.map f = .ok y) :
    ∃ a, x = .ok a ∧ f a = y := by
  cases x with
  | error e => cases h
  | ok a => exact ⟨a, rfl, by cases h; rfl⟩

theorem length_readString {quote : Char} {text s rest : List Char}
    (h : readString quote text = .ok (s, rest)) : rest.length < text.length := by
  fun_induction readString quote text generalizing s with
  | case1 => cases h
  | case2 => cases h; simp
  | case3 => cases h
  | case4 _ _ _ _ _ ih =>
    obtain ⟨⟨s', r⟩, hr, heq⟩ := map_eq_ok h
    cases heq
    have := ih hr
    have := length_readEscape ‹_›
    simp only [List.length_cons]; omega
  | case5 => cases h
  | case6 c text _ _ _ ih =>
    obtain ⟨⟨s', r⟩, hr, heq⟩ := map_eq_ok h
    cases heq
    have := ih hr
    simp only [List.length_cons]; omega

theorem length_endNumber {x y : Binary64} {text rest : List Char}
    (h : endNumber x text = .ok (y, rest)) : rest = text := by
  cases text with
  | nil => cases h; rfl
  | cons c text =>
    simp only [endNumber] at h
    split at h
    · cases h
    · cases h; rfl

theorem length_readHexNumber {negative : Bool} {x : Binary64} {text rest : List Char}
    (h : readHexNumber negative text = .ok (x, rest)) : rest.length ≤ text.length := by
  simp only [readHexNumber] at h
  split at h
  · cases h
  · rw [length_endNumber h]
    exact (List.dropWhile_sublist _).length_le

theorem length_readFraction (text : List Char) :
    (readFraction text).1.length + (readFraction text).2.length ≤ text.length := by
  fun_cases readFraction text with
  | case1 text =>
    have := congrArg List.length (List.takeWhile_append_dropWhile (p := isDecimalDigit) (l := text))
    simp only [List.length_append] at this
    simp only [List.length_cons]; omega
  | case2 => simp

theorem length_readExponentSign (text : List Char) :
    (readExponentSign text).2.length ≤ text.length := by
  fun_cases readExponentSign text <;> simp

theorem length_readExponent {exponent : Int} {text rest : List Char}
    (h : readExponent text = .ok (exponent, rest)) : rest.length ≤ text.length := by
  cases text with
  | nil => cases h; simp
  | cons c text =>
    simp only [readExponent] at h
    split at h
    · split at h
      · cases h
      · cases h
        have := length_readExponentSign text
        have := (List.dropWhile_sublist isDecimalDigit (l := (readExponentSign text).2)).length_le
        simp only [List.length_cons]; omega
    · cases h; simp

theorem length_readDecimal {negative : Bool} {x : Binary64} {text rest : List Char}
    (h : readDecimal negative text = .ok (x, rest)) : rest.length < text.length := by
  simp only [readDecimal] at h
  split at h
  · cases h
  · next hne =>
    split at h
    · cases h
    · next h' =>
      rw [length_endNumber h]
      have h1 := length_readExponent h'
      have h2 := length_readFraction (text.dropWhile isDecimalDigit)
      have h3 := congrArg List.length
        (List.takeWhile_append_dropWhile (p := isDecimalDigit) (l := text))
      simp only [List.length_append] at h3
      have h4 : (text.takeWhile isDecimalDigit).length ≠ 0 ∨
          (readFraction (text.dropWhile isDecimalDigit)).1.length ≠ 0 := by
        rcases Classical.em ((text.takeWhile isDecimalDigit).length = 0) with h0 | h0
        · refine .inr fun h5 => hne ⟨?_, ?_⟩
          · simpa using h0
          · simpa using h5
        · exact .inl h0
      omega

theorem length_readMagnitude {negative : Bool} {x : Binary64} {text rest : List Char}
    (h : readMagnitude negative text = .ok (x, rest)) : rest.length < text.length := by
  fun_cases readMagnitude negative text with
  | case1 text =>
    have : rest.length ≤ text.length := length_readHexNumber h
    simp only [List.length_cons]; omega
  | case2 text =>
    have : rest.length ≤ text.length := length_readHexNumber h
    simp only [List.length_cons]; omega
  | case3 => simp_all only [readMagnitude]; exact length_readDecimal h

theorem length_readNumber {x : Binary64} {text rest : List Char}
    (h : readNumber text = .ok (x, rest)) : rest.length < text.length := by
  fun_cases readNumber text with
  | case1 text =>
    have : rest.length < text.length := length_readMagnitude h
    simp only [List.length_cons]; omega
  | case2 => simp_all only [readNumber]; exact length_readMagnitude h

theorem length_readSource {inBracket : Bool} {text s rest : List Char}
    (h : readSource inBracket text = .ok (s, rest)) : rest.length < text.length := by
  fun_induction readSource inBracket text generalizing s with
  | case1 => cases h
  | case2 => cases h
  | case3 => cases h
  | case4 _ c text _ ih =>
    obtain ⟨⟨s', r⟩, hr, heq⟩ := map_eq_ok h
    cases heq
    have := ih hr
    simp only [List.length_cons]; omega
  | case5 => cases h; simp
  | case6 => cases h
  | case7 =>
    rename_i ih
    obtain ⟨⟨s', r⟩, hr, heq⟩ := map_eq_ok h
    cases heq
    have := ih hr
    simp only [List.length_cons]; omega

theorem length_readKey {key : String} {text rest : List Char}
    (h : readKey text = .ok (key, rest)) : rest.length ≤ text.length := by
  cases text with
  | nil => cases h
  | cons c text =>
    simp only [readKey] at h
    split at h
    · cases h; exact (List.dropWhile_sublist _).length_le
    · cases h

variable [Engine]

def readPattern (text : List Char) : Reading Pattern :=
  match readSource false text with
  | .error e => .error e
  | .ok (source, rest) =>
    if source.isEmpty then .error ⟨.emptyPattern, rest⟩
    else
      let flags := rest.takeWhile isIdentifierPart
      let rest := rest.dropWhile isIdentifierPart
      match Pattern.make (String.ofList source) (String.ofList flags) with
      | .error e => .error ⟨.pattern e, rest⟩
      | .ok p => .ok (p, rest)

def readWord (text : List Char) : Reading Scalar :=
  let word := text.takeWhile isIdentifierPart
  let rest := text.dropWhile isIdentifierPart
  if word = "true".toList then .ok (.boolean true, rest)
  else if word = "false".toList then .ok (.boolean false, rest)
  else .error ⟨.notALiteral (String.ofList word), text⟩

def readScalar (text : List Char) : Reading Scalar :=
  match text with
  | [] => .error ⟨.valueAtEnd, []⟩
  | c :: rest =>
    if c = '"' ∨ c = '\'' then
      (readString c rest).map fun (s, rest) => (.string (String.ofList s), rest)
    else if c = '[' then .error ⟨.nestedArray, c :: rest⟩
    else if c = '/' then (readPattern rest).map fun (p, rest) => (.pattern p, rest)
    else if c = '\x7b' then .error ⟨.nestedObject, c :: rest⟩
    else if c = '-' ∨ c = '.' ∨ isDecimalDigit c then
      (readNumber (c :: rest)).map fun (x, rest) => (.number x, rest)
    else if isIdentifierStart c then readWord (c :: rest)
    else .error ⟨.noValue c, c :: rest⟩

theorem length_readPattern {p : Pattern} {text rest : List Char}
    (h : readPattern text = .ok (p, rest)) : rest.length < text.length := by
  simp only [readPattern] at h
  split at h
  · cases h
  · next h' =>
    split at h
    · cases h
    · split at h
      · cases h
      · cases h
        exact Nat.lt_of_le_of_lt (List.dropWhile_sublist _).length_le (length_readSource h')

theorem length_readWord {s : Scalar} {c : Char} {text rest : List Char}
    (h : readWord (c :: text) = .ok (s, rest)) : rest.length < (c :: text).length := by
  have key : (text.dropWhile isIdentifierPart).length < (c :: text).length :=
    Nat.lt_succ_of_le (List.dropWhile_sublist _).length_le
  cases hc : isIdentifierPart c with
  | false => simp [readWord, List.takeWhile, hc] at h
  | true =>
    simp only [readWord, List.dropWhile_cons, hc, if_true] at h
    split at h
    · cases h; exact key
    · split at h
      · cases h; exact key
      · cases h

theorem length_readScalar {s : Scalar} {text rest : List Char}
    (h : readScalar text = .ok (s, rest)) : rest.length < text.length := by
  cases text with
  | nil => cases h
  | cons c text =>
    simp only [readScalar] at h
    split at h
    · obtain ⟨⟨x, r⟩, hr, heq⟩ := map_eq_ok h
      cases heq
      have := length_readString hr
      simp only [List.length_cons]; omega
    split at h
    · cases h
    split at h
    · obtain ⟨⟨x, r⟩, hr, heq⟩ := map_eq_ok h
      cases heq
      have := length_readPattern hr
      simp only [List.length_cons]; omega
    split at h
    · cases h
    split at h
    · obtain ⟨⟨x, r⟩, hr, heq⟩ := map_eq_ok h
      cases heq
      exact length_readNumber hr
    split at h
    · exact length_readWord h
    · cases h

def readItems (text : List Char) : Reading (List Scalar) :=
  match _h1 : skipTrivia text with
  | .error e => .error e
  | .ok (']' :: rest) => .ok ([], rest)
  | .ok text =>
    match _h2 : readScalar text with
    | .error e => .error e
    | .ok (item, rest) =>
      match _h3 : skipTrivia rest with
      | .error e => .error e
      | .ok [] => .error ⟨.missingBracket, []⟩
      | .ok (c :: rest) =>
        if c = ',' then (readItems rest).map fun (items, rest) => (item :: items, rest)
        else if c = ']' then .ok ([item], rest)
        else .error ⟨.noCommaOrBracket c, rest⟩
termination_by text.length
decreasing_by
  have h1 := length_skipTrivia _h1
  have h2 := length_readScalar _h2
  have h3 := length_skipTrivia _h3
  simp only [List.length_cons] at h3
  omega

theorem length_readItems {items : List Scalar} {text rest : List Char}
    (h : readItems text = .ok (items, rest)) : rest.length < text.length := by
  fun_induction readItems text generalizing items with
  | case1 => cases h
  | case2 text rest' h1 =>
    cases h
    have := length_skipTrivia h1
    simp only [List.length_cons] at this
    omega
  | case3 => cases h
  | case4 => cases h
  | case5 => cases h
  | case6 _ _ _ h1 _ _ h2 _ h3 ih =>
    obtain ⟨⟨x, r⟩, hr, heq⟩ := map_eq_ok h
    cases heq
    have := ih hr
    have h1 := length_skipTrivia h1
    have h2 := length_readScalar h2
    have h3 := length_skipTrivia h3
    simp only [List.length_cons] at h3
    omega
  | case7 _ _ _ h1 _ _ h2 _ h3 _ =>
    cases h
    have h1 := length_skipTrivia h1
    have h2 := length_readScalar h2
    have h3 := length_skipTrivia h3
    simp only [List.length_cons] at h3
    omega
  | case8 => cases h

def readValue (text : List Char) : Reading Literal :=
  match text with
  | '[' :: rest => (readItems rest).map fun (items, rest) => (.array items, rest)
  | text => (readScalar text).map fun (s, rest) => (.scalar s, rest)

theorem length_readValue {value : Literal} {text rest : List Char}
    (h : readValue text = .ok (value, rest)) : rest.length < text.length := by
  fun_cases readValue text with
  | case1 text =>
    obtain ⟨⟨x, r⟩, hr, heq⟩ := map_eq_ok (x := readItems text) h
    cases heq
    have := length_readItems hr
    simp only [List.length_cons]; omega
  | case2 =>
    simp_all only [readValue]
    obtain ⟨⟨x, r⟩, hr, heq⟩ := map_eq_ok h
    cases heq
    exact length_readScalar hr

def readMember (text : List Char) : Reading (String × Literal) :=
  match readKey text with
  | .error e => .error e
  | .ok (key, rest) =>
    match skipTrivia rest with
    | .error e => .error e
    | .ok rest =>
      match expect ':' rest with
      | .error e => .error e
      | .ok rest =>
        match skipTrivia rest with
        | .error e => .error e
        | .ok rest => (readValue rest).map fun (value, rest) => ((key, value), rest)

theorem length_readMember {member : String × Literal} {text rest : List Char}
    (h : readMember text = .ok (member, rest)) : rest.length < text.length := by
  simp only [readMember] at h
  split at h
  · cases h
  next h1 =>
  split at h
  · cases h
  next h2 =>
  split at h
  · cases h
  next h3 =>
  split at h
  · cases h
  next h4 =>
  obtain ⟨⟨x, r⟩, hr, heq⟩ := map_eq_ok h
  cases heq
  have h1 := length_readKey h1
  have h2 := length_skipTrivia h2
  have h3 := length_expect h3
  have h4 := length_skipTrivia h4
  exact Nat.lt_of_lt_of_le (length_readValue hr) (by omega)

def readMembers (text : List Char) : Reading (List (String × Literal)) :=
  match _h1 : skipTrivia text with
  | .error e => .error e
  | .ok ('\x7d' :: rest) => .ok ([], rest)
  | .ok text =>
    match _h2 : readMember text with
    | .error e => .error e
    | .ok (member, rest) =>
      match _h3 : skipTrivia rest with
      | .error e => .error e
      | .ok [] => .error ⟨.missingBrace, []⟩
      | .ok (c :: rest) =>
        if c = ',' then (readMembers rest).map fun (members, rest) => (member :: members, rest)
        else if c = '\x7d' then .ok ([member], rest)
        else .error ⟨.noCommaOrBrace c, rest⟩
termination_by text.length
decreasing_by
  have h1 := length_skipTrivia _h1
  have h2 := length_readMember _h2
  have h3 := length_skipTrivia _h3
  simp only [List.length_cons] at h3
  omega

/-- Reads an object with the blanks and comments in front of it. -/
def readObject (text : List Char) : Reading (List (String × Literal)) :=
  match skipTrivia text with
  | .error e => .error e
  | .ok text =>
    match expect '\x7b' text with
    | .error e => .error e
    | .ok rest => readMembers rest

def readText (text : List Char) : Except Failure (List (String × Literal)) :=
  match readObject text with
  | .error e => .error e
  | .ok (members, rest) =>
    match skipTrivia rest with
    | .error e => .error e
    | .ok [] => .ok members
    | .ok (c :: rest) => .error ⟨.afterObject c, c :: rest⟩

/-- Why a text is no object literal: the fault, and the number of octets read before it. -/
structure LocatedFault where
  fault : Fault
  offset : Nat
  deriving DecidableEq, Repr

def Failure.locate (e : Failure) (text : List Char) : LocatedFault :=
  ⟨e.fault, Text.octets text - Text.octets e.rest⟩

end RecordFlow.Literal

namespace RecordFlow.Parameters

variable [Engine]

/-- Reads an object literal. A repeated key keeps its last value. -/
def ofText (text : String) : Except Literal.LocatedFault Parameters :=
  match Literal.readText text.toList with
  | .ok members => .ok (.ofList members)
  | .error e => .error (e.locate text.toList)

end RecordFlow.Parameters
