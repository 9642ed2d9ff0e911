import RecordFlow.Text.Digits

/-! # Strings of TOML

A string stands in double quotes, where a backslash begins an escape, or in
apostrophes, where every character stands for itself. Three quotes begin a
string of several lines: a newline right after them is dropped, and one or two
quotes may stand inside.
-/

namespace RecordFlow.Toml

def isBlank (c : Char) : Bool := c = ' ' || c = '\t'

def skipBlanks (text : List Char) : List Char := text.dropWhile isBlank

/-- Characters that may be written as they are: the tab, and all that is no control character. -/
def isPlain (c : Char) : Bool := c = '\t' || (32 ≤ c.toNat && c.toNat ≠ 127)

def newline? : List Char → Option (List Char)
  | '\n' :: rest => some rest
  | '\r' :: '\n' :: rest => some rest
  | _ => none

def charOfDigits? (digits : List Char) : Option Char :=
  let code := ofHexDigits digits
  if digits.all isHexDigit ∧ code.isValidChar then some (Char.ofNat code) else none

def readEscape : List Char → Option (Char × List Char)
  | 'b' :: rest => some ('\x08', rest)
  | 't' :: rest => some ('\t', rest)
  | 'n' :: rest => some ('\n', rest)
  | 'f' :: rest => some ('\x0c', rest)
  | 'r' :: rest => some ('\r', rest)
  | '"' :: rest => some ('"', rest)
  | '\\' :: rest => some ('\\', rest)
  | 'u' :: a :: b :: c :: d :: rest => (charOfDigits? [a, b, c, d]).map (·, rest)
  | 'U' :: a :: b :: c :: d :: e :: f :: g :: h :: rest =>
    (charOfDigits? [a, b, c, d, e, f, g, h]).map (·, rest)
  | _ => none

def skipLineEnds (text : List Char) : List Char :=
  match text with
  | ' ' :: rest => skipLineEnds rest
  | '\t' :: rest => skipLineEnds rest
  | '\n' :: rest => skipLineEnds rest
  | '\r' :: '\n' :: rest => skipLineEnds rest
  | rest => rest

def readLineString (escapes : Bool) (quote : Char) (text : List Char) :
    Option (List Char × List Char) :=
  match text with
  | [] => none
  | c :: rest =>
    if c = quote then some ([], rest)
    else if escapes && c = '\\' then
      match readEscape rest with
      | none => none
      | some (e, next) =>
        if _h : next.length ≤ rest.length then
          (readLineString escapes quote next).map fun (s, rest) => (e :: s, rest)
        else none
    else if isPlain c then
      (readLineString escapes quote rest).map fun (s, rest) => (c :: s, rest)
    else none
termination_by text.length
decreasing_by all_goals simp only [List.length_cons]; omega

/-- Reads the characters of a string of several lines, up to its closing quotes. Of up to five
quotes in a row, the last three close the string. -/
def readBlockString (escapes : Bool) (quote : Char) (text : List Char) :
    Option (List Char × List Char) :=
  match text with
  | [] => none
  | c :: rest =>
    if c = quote then
      let count := 1 + (rest.takeWhile (· = quote)).length
      let next := rest.dropWhile (· = quote)
      if 5 < count then none
      else if 3 ≤ count then some (List.replicate (count - 3) quote, next)
      else if _h : next.length ≤ rest.length then
        (readBlockString escapes quote next).map fun (s, rest) =>
          (List.replicate count quote ++ s, rest)
      else none
    else if escapes && c = '\\' then
      match newline? (skipBlanks rest), readEscape rest with
      | some after, _ =>
        let next := skipLineEnds after
        if _h : next.length ≤ rest.length then readBlockString escapes quote next else none
      | none, some (e, next) =>
        if _h : next.length ≤ rest.length then
          (readBlockString escapes quote next).map fun (s, rest) => (e :: s, rest)
        else none
      | none, none => none
    else
      match newline? (c :: rest) with
      | some next =>
        if _h : next.length ≤ rest.length then
          (readBlockString escapes quote next).map fun (s, rest) => ('\n' :: s, rest)
        else none
      | none =>
        if isPlain c then
          (readBlockString escapes quote rest).map fun (s, rest) => (c :: s, rest)
        else none
termination_by text.length
decreasing_by
  all_goals simp only [List.length_cons]
  · exact Nat.lt_succ_of_le _h
  · exact Nat.lt_succ_of_le _h
  · exact Nat.lt_succ_of_le _h
  · exact Nat.lt_succ_of_le _h
  · omega

def readShort (quote : Char) (text : List Char) : Option (String × List Char) :=
  (readLineString (quote = '"') quote text).map fun (s, rest) => (String.ofList s, rest)

def readString (quote : Char) (text : List Char) : Option (String × List Char) :=
  match text with
  | b :: c :: rest =>
    if b = quote ∧ c = quote then
      let rest := (newline? rest).getD rest
      (readBlockString (quote = '"') quote rest).map fun (s, rest) => (String.ofList s, rest)
    else readShort quote text
  | _ => readShort quote text

end RecordFlow.Toml
