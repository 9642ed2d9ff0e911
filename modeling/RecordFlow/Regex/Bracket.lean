import RecordFlow.Regex.Property

/-! # Bracketed classes

The inside of a bracketed class is a sequence of tokens: characters that still
have their meaning for the class, characters that stand for themselves because
they were escaped, and whole sets. Classes nest, and two classes are combined by
`&&`, `--` and `~~`, from left to right.
-/

namespace RecordFlow.Regex

inductive BracketToken where
  | plain (c : Char)
  | escaped (c : Char)
  | set (s : CharSet)

namespace Bracket

inductive Operation where
  | intersection
  | difference
  | symmetricDifference
  deriving DecidableEq

def Operation.apply : Operation → CharSet → CharSet → CharSet
  | intersection => .intersection
  | difference => .difference
  | symmetricDifference => .symmetricDifference

/-- What is open while a class is read: a class, with what preceded it in the class around it, or
an operation with its left side. -/
inductive Frame where
  | bracket (before : CharSet) (negated : Bool)
  | operation (left : CharSet) (op : Operation)

/-- Reads `:name:]` or `:^name:]` after an opening bracket. -/
def readAscii (ignoreCase : Bool) (tokens : List BracketToken) :
    Option (CharSet × List BracketToken) :=
  match tokens with
  | .plain ':' :: tokens =>
    let (negated, tokens) := match tokens with
      | .plain '^' :: tokens => (true, tokens)
      | tokens => (false, tokens)
    let isLetter : BracketToken → Bool
      | .plain c => c ≠ ':'
      | _ => false
    let letters := (tokens.takeWhile isLetter).filterMap fun
      | .plain c => some c
      | _ => none
    match tokens.dropWhile isLetter with
    | .plain ':' :: .plain ']' :: rest =>
      (asciiClass? (String.ofList letters)).map fun s =>
        (.negateIf negated (.foldIf ignoreCase s), rest)
    | _ => none
  | _ => none

/-- Takes the hyphens that begin a class, or the closing bracket that does, for themselves. -/
def readStart (tokens : List BracketToken) : CharSet × List BracketToken :=
  let isHyphen : BracketToken → Bool
    | .plain '-' => true
    | _ => false
  match tokens.takeWhile isHyphen with
  | [] =>
    match tokens with
    | .plain ']' :: rest => (.single ']', rest)
    | tokens => (.nothing, tokens)
  | _ => (.single '-', tokens.dropWhile isHyphen)

inductive Item where
  | char (c : Char)
  | set (s : CharSet)

def itemOfToken : BracketToken → Item
  | .plain c => .char c
  | .escaped c => .char c
  | .set s => .set s

def Item.toSet : Item → CharSet
  | char c => .single c
  | set s => s

def readRange (first : BracketToken) (tokens : List BracketToken) :
    Option (CharSet × List BracketToken) :=
  let alone := some ((itemOfToken first).toSet, tokens)
  match tokens with
  | .plain '-' :: .plain ']' :: _ => alone
  | .plain '-' :: .plain '-' :: _ => alone
  | [.plain '-'] => none
  | .plain '-' :: last :: rest =>
    match itemOfToken first, itemOfToken last with
    | .char a, .char b => if a ≤ b then some (.range a b, rest) else none
    | _, _ => none
  | _ => alone

def closeOperation (ignoreCase : Bool) (right : CharSet) : List Frame → CharSet × List Frame
  | .operation left op :: frames =>
    (op.apply (.foldIf ignoreCase left) (.foldIf ignoreCase right), frames)
  | frames => (right, frames)

def readRest (ignoreCase : Bool) (frames : List Frame) (current : CharSet) :
    Nat → List BracketToken → Option CharSet
  | 0, _ => none
  | _ + 1, [] => none
  | fuel + 1, .plain '[' :: tokens =>
    match readAscii ignoreCase tokens with
    | some (s, rest) => readRest ignoreCase frames (.union current s) fuel rest
    | none =>
      let (negated, tokens) := match tokens with
        | .plain '^' :: tokens => (true, tokens)
        | tokens => (false, tokens)
      let (start, tokens) := readStart tokens
      readRest ignoreCase (.bracket current negated :: frames) start fuel tokens
  | fuel + 1, .plain ']' :: tokens =>
    match closeOperation ignoreCase current frames with
    | (closed, .bracket before negated :: frames) =>
      let s := .negateIf negated (.foldIf ignoreCase closed)
      if frames.isEmpty then if tokens.isEmpty then some s else none
      else readRest ignoreCase frames (.union before s) fuel tokens
    | _ => none
  | fuel + 1, token :: tokens =>
    let operate (op : Operation) (rest : List BracketToken) : Option CharSet :=
      let (left, frames) := closeOperation ignoreCase current frames
      readRest ignoreCase (.operation left op :: frames) .nothing fuel rest
    match token, tokens with
    | .plain '&', .plain '&' :: rest => operate .intersection rest
    | .plain '-', .plain '-' :: rest => operate .difference rest
    | .plain '~', .plain '~' :: rest => operate .symmetricDifference rest
    | token, tokens => do
      let (s, rest) ← readRange token tokens
      readRest ignoreCase frames (.union current s) fuel rest

end Bracket

/-- The set of a bracketed class, given by the tokens after its opening bracket. -/
def bracketSet? (ignoreCase negated : Bool) (tokens : List BracketToken) : Option CharSet :=
  let (start, rest) := Bracket.readStart tokens
  Bracket.readRest ignoreCase [.bracket .nothing negated] start (tokens.length + 1) rest

end RecordFlow.Regex
