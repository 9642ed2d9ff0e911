import RecordFlow.Toml.Number
import RecordFlow.Toml.Text

/-! # Reading TOML

A document is a sequence of lines, each empty, a comment, a key with its value,
or a header that begins a table. Values may nest less than 80 deep, and dotted
keys have fewer than 80 parts.
-/

namespace RecordFlow.Toml

/-- The bound of nesting and of the parts of a key. -/
def maxDepth : Nat := 79

def skipComment : List Char → List Char
  | '#' :: rest => rest.dropWhile isPlain
  | text => text

def skipTrivia (text : List Char) : List Char :=
  match text with
  | ' ' :: rest => skipTrivia rest
  | '\t' :: rest => skipTrivia rest
  | '\n' :: rest => skipTrivia rest
  | '\r' :: '\n' :: rest => skipTrivia rest
  | '#' :: rest => skipTrivia (rest.dropWhile isPlain)
  | rest => rest
termination_by text.length
decreasing_by
  all_goals simp only [List.length_cons]
  · omega
  · omega
  · omega
  · omega
  · exact Nat.lt_succ_of_le (List.dropWhile_sublist _).length_le

/-- Reads what may follow on a line: blanks, a comment, then the end of the line or the text. -/
def readLineEnd (text : List Char) : Option (List Char) :=
  match skipComment (skipBlanks text) with
  | [] => some []
  | text => newline? text

def isBareKeyChar (c : Char) : Bool := isDecimalDigit c || c.isAlpha || c = '-' || c = '_'

def readPart (text : List Char) : Option (String × List Char) :=
  match text with
  | '"' :: rest => readShort '"' rest
  | '\'' :: rest => readShort '\'' rest
  | text =>
    let word := text.takeWhile isBareKeyChar
    if word.isEmpty then none else some (String.ofList word, text.dropWhile isBareKeyChar)

def readParts (text : List Char) : Option (List String × List Char) :=
  match readPart (skipBlanks text) with
  | none => none
  | some (part, rest) =>
    match skipBlanks rest with
    | '.' :: next =>
      if _h : next.length < text.length then
        (readParts next).map fun (parts, rest) => (part :: parts, rest)
      else none
    | rest => some ([part], rest)
termination_by text.length

def readKey (text : List Char) : Option (Key × List Char) :=
  match readParts text with
  | none => none
  | some (parts, rest) =>
    match parts.getLast? with
    | none => none
    | some name => if parts.length ≤ maxDepth then some (⟨parts.dropLast, name⟩, rest) else none

def readItems (item : List Char → Option (Value × List Char)) (text : List Char) :
    Option (List Value × List Char) :=
  match skipTrivia text with
  | [] => none
  | ']' :: rest => some ([], rest)
  | text' =>
    match item text' with
    | none => none
    | some (value, rest) =>
      match skipTrivia rest with
      | ',' :: next =>
        if _h : next.length < text.length then
          (readItems item next).map fun (values, rest) => (value :: values, rest)
        else none
      | ']' :: rest => some ([value], rest)
      | _ => none
termination_by text.length

def readPair (value : List Char → Option (Value × List Char)) (text : List Char) :
    Option ((Key × Value) × List Char) := do
  let (key, rest) ← readKey text
  let (v, rest) ← value (skipBlanks (← readChar '=' rest))
  return ((key, v), rest)

def readPairs (value : List Char → Option (Value × List Char)) (text : List Char) :
    Option (List (Key × Value) × List Char) :=
  match readPair value text with
  | none => none
  | some (pair, rest) =>
    match skipBlanks rest with
    | ',' :: next =>
      if _h : next.length < text.length then
        (readPairs value next).map fun (pairs, rest) => (pair :: pairs, rest)
      else none
    | '\x7d' :: rest => some ([pair], rest)
    | _ => none
termination_by text.length

/-- The table that pairs in braces make. -/
def inlineTable? (pairs : List (Key × Value)) : Option Value := do
  let fields ← pairs.foldlM (fun (fields : Fields) (key, value) => fields.addPair? key value) []
  return .table .inline fields

def readInlineTable (value : List Char → Option (Value × List Char)) (text : List Char) :
    Option (Value × List Char) :=
  match skipBlanks text with
  | '\x7d' :: rest => some (.table .inline [], rest)
  | text => do
    let (pairs, rest) ← readPairs value text
    return (← inlineTable? pairs, rest)

/-- Reads a value that nests at most `depth` brackets. -/
def readValue : Nat → List Char → Option (Value × List Char)
  | depth, text =>
    match text with
    | [] => none
    | '[' :: rest =>
      match depth with
      | 0 => none
      | depth + 1 => (readItems (readValue depth) rest).map fun (items, rest) => (.array items, rest)
    | '\x7b' :: rest =>
      match depth with
      | 0 => none
      | depth + 1 => readInlineTable (readValue depth) rest
    | 't' :: 'r' :: 'u' :: 'e' :: rest => some (.boolean true, rest)
    | 'f' :: 'a' :: 'l' :: 's' :: 'e' :: rest => some (.boolean false, rest)
    | c :: rest =>
      if c = '"' ∨ c = '\'' then (readString c rest).map fun (s, rest) => (.string s, rest)
      else readNumeric (c :: rest)

inductive Line where
  | blank
  | pair (key : Key) (value : Value)
  | table (key : Key)
  | element (key : Key)

/-- Reads the rest of a header whose brackets have been opened. -/
def readHeader (close : List Char) (line : Key → Line) (text : List Char) :
    Option (Line × List Char) := do
  let (key, rest) ← readKey text
  let rest ← close.foldlM (fun rest c => readChar c rest) rest
  return (line key, ← readLineEnd rest)

def readLine (text : List Char) : Option (Line × List Char) :=
  match skipBlanks text with
  | '[' :: '[' :: rest => readHeader [']', ']'] .element rest
  | '[' :: rest => readHeader [']'] .table rest
  | text =>
    match readLineEnd text with
    | some rest => some (.blank, rest)
    | none => do
      let ((key, value), rest) ← readPair (readValue maxDepth) text
      return (.pair key value, ← readLineEnd rest)

def readLines (text : List Char) : Option (List Line) :=
  if text.isEmpty then some []
  else
    match readLine text with
    | none => none
    | some (line, next) =>
      if _h : next.length < text.length then (readLines next).map (line :: ·) else none
termination_by text.length

/-- The fields of a document so far, and the header of the section that a line stands in. -/
structure Document where
  header? : Option Key
  fields : Fields

def Document.add? (d : Document) : Line → Option Document
  | .blank => some d
  | .pair key value => do return { d with fields := ← d.fields.addBelow? d.header? key value }
  | .table key => do return ⟨key, ← d.fields.addTable? key⟩
  | .element key => do return ⟨key, ← d.fields.addElement? key⟩

def dropMark : List Char → List Char
  | '\ufeff' :: rest => rest
  | text => text

def ofText? (text : String) : Option Fields := do
  let lines ← readLines (dropMark text.toList)
  let document ← lines.foldlM Document.add? ⟨none, []⟩
  return document.fields

end RecordFlow.Toml
