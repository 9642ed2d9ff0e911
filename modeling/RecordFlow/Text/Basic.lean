import RecordFlow.Unicode.Property

/-! # Texts as lists of characters

The readers of this library work on lists of characters: what is left to read
is a suffix of the text. Positions are counted in octets of the UTF-8 form.
Lines, trimming and splitting are defined here once for all of them.
-/

namespace RecordFlow.Text

def octets : List Char → Nat
  | [] => 0
  | c :: rest => c.utf8Size + octets rest

def trimStart (text : List Char) : List Char := text.dropWhile Unicode.isWhiteSpace

def trimEnd (text : List Char) : List Char :=
  (text.reverse.dropWhile Unicode.isWhiteSpace).reverse

def trim (text : List Char) : List Char := trimEnd (trimStart text)

def isBlank (text : List Char) : Bool := text.all Unicode.isWhiteSpace

/-- What follows `start` in a text that begins with it. -/
def after? (start text : List Char) : Option (List Char) :=
  match start, text with
  | [], text => some text
  | _ :: _, [] => none
  | a :: start, c :: text => if a = c then after? start text else none

def beginsWith (start text : List Char) : Bool := (after? start text).isSome

/-- The text before and after the first occurrence of a piece. -/
def breakAt (piece : List Char) : List Char → Option (List Char × List Char)
  | [] => if piece.isEmpty then some ([], []) else none
  | c :: text =>
    match after? piece (c :: text) with
    | some rest => some ([], rest)
    | none => (breakAt piece text).map fun (before, rest) => (c :: before, rest)

theorem after?_eq_some_iff {start text rest : List Char} :
    after? start text = some rest ↔ text = start ++ rest := by
  induction start generalizing text with
  | nil => simp [after?, eq_comm]
  | cons a start ih =>
    cases text with
    | nil => simp [after?]
    | cons c text =>
      simp only [after?, List.cons_append, List.cons.injEq]
      split
      · next h => simp [ih, h]
      · next h => simp [Ne.symm h]

theorem eq_of_breakAt {piece text before rest : List Char}
    (h : breakAt piece text = some (before, rest)) : text = before ++ piece ++ rest := by
  induction text generalizing before with
  | nil =>
    simp only [breakAt] at h
    split at h
    · next hp => cases h; simpa using hp
    · cases h
  | cons c text ih =>
    simp only [breakAt] at h
    split at h
    · next h' => cases h; simpa using after?_eq_some_iff.1 h'
    · obtain ⟨⟨b, r⟩, hb, heq⟩ := Option.map_eq_some_iff.1 h
      cases heq
      simp [ih hb]

def contains (piece text : List Char) : Bool := (breakAt piece text).isSome

/-- The parts of a text between the occurrences of the separator `a b`. -/
def splitAtPair (a b : Char) : List Char → List (List Char)
  | [] => [[]]
  | [c] => [[c]]
  | c :: d :: text =>
    if c = a ∧ d = b then [] :: splitAtPair a b text
    else
      match splitAtPair a b (d :: text) with
      | [] => [[c]]
      | part :: parts => (c :: part) :: parts

def dropReturn (line : List Char) : List Char :=
  match line.reverse with
  | '\r' :: rest => rest.reverse
  | _ => line

/-- The lines of a text. A line ends with a newline, or a carriage return and a newline, or the
text; there is no empty line after the last newline. -/
def lines (text : List Char) : List (List Char) := go [] text
where
  /-- `line` holds the characters of the current line, the last one first. -/
  go (line : List Char) : List Char → List (List Char)
    | [] => if line.isEmpty then [] else [line.reverse]
    | '\n' :: text => dropReturn line.reverse :: go [] text
    | c :: text => go (c :: line) text

def join (separator : List Char) : List (List Char) → List Char
  | [] => []
  | [text] => text
  | text :: texts => text ++ separator ++ join separator texts

end RecordFlow.Text
