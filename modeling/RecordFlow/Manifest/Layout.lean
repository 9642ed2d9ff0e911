import RecordFlow.Error

/-! # The layout of manifests

A manifest is made of lines. Three tagged lines give the title, the description
and the pipeline; the other lines form the block of declarations. A declaration
is a name, an opening parenthesis, a body, and a closing parenthesis at the start
of a line. Anything may stand in the body but such a parenthesis.
-/

namespace RecordFlow.Manifest

def titleTag : String := "TITLE"

def descriptionTag : String := "DESCRIPTION"

def pipelineTag : String := "PIPELINE"

/-- Lines that begin with one of these are no part of a declaration. -/
def reservedTags : List String := [titleTag, descriptionTag, pipelineTag]

def taggedValue? (tag : String) (line : List Char) : Option (List Char) :=
  (Text.after? (tag.toList ++ [':', ' ']) line).map Text.trim

def pipelineEntries (pipeline : String) : List String :=
  (Text.splitAtPair '-' '>' pipeline.toList).map fun entry => String.ofList (Text.trim entry)

def isMarkerChar (c : Char) : Bool := isDecimalDigit c || c.isAlpha || c == '_'

/-- Whether a text begins with a word in brackets. -/
def beginsWithMarker : List Char → Bool
  | '[' :: text =>
    !(text.takeWhile isMarkerChar).isEmpty && Text.beginsWith [']'] (text.dropWhile isMarkerChar)
  | _ => false

def hasMarker : List Char → Bool
  | [] => false
  | c :: text => beginsWithMarker (c :: text) || hasMarker text

def isMarker (entry : String) : Bool := hasMarker entry.toList

def isDeclarationLine (line : List Char) : Bool :=
  !Text.isBlank line && !reservedTags.any fun tag => Text.beginsWith tag.toList line

def declarationBlock (lines : List (List Char)) : List Char :=
  Text.trim (Text.join ['\n'] (lines.filter isDeclarationLine))

structure Declaration where
  /-- What stands before the opening parenthesis. -/
  head : List Char
  /-- What stands between the parentheses; it ends with a newline. -/
  body : List Char
  deriving DecidableEq

namespace Declaration

def name (d : Declaration) : String := String.ofList (Text.trim d.head)

def text (d : Declaration) : String :=
  String.ofList (Text.trim (d.head ++ '(' :: d.body ++ [')']))

/-- Cuts the first declaration off a text; `none` if it has no first declaration. -/
def cut? (text : List Char) : Option (Declaration × List Char) :=
  match Text.breakAt ['('] text with
  | none => none
  | some (head, inside) =>
    match Text.breakAt ['\n', ')'] inside with
    | none => none
    | some (body, rest) => some (⟨head, body ++ ['\n']⟩, rest)

theorem length_cut? {text rest : List Char} {d : Declaration} (h : cut? text = some (d, rest)) :
    rest.length < text.length := by
  simp only [cut?] at h
  split at h
  · cases h
  next h1 =>
  split at h
  · cases h
  next h2 =>
  cases h
  have h1 := congrArg List.length (Text.eq_of_breakAt h1)
  have h2 := congrArg List.length (Text.eq_of_breakAt h2)
  simp only [List.length_append, List.length_cons, List.length_nil] at h1 h2
  omega

end Declaration

variable [Engine]

/-- The value of the first line with a tag. -/
def tagValue (tag : String) (lines : List (List Char)) : Except Error String :=
  match lines.findSome? (taggedValue? tag) with
  | some value => .ok (String.ofList value)
  | none => .error (.missingTag tag)

/-- Cuts all declarations off a text, up to a rest that has no first declaration. -/
def declarations (text : List Char) : List Declaration × List Char :=
  match _h : Declaration.cut? text with
  | none => ([], text)
  | some (d, rest) =>
    let (ds, rest) := declarations rest
    (d :: ds, rest)
termination_by text.length
decreasing_by exact Declaration.length_cut? _h

/-- Whether a text that has no first declaration holds the beginning of one. -/
def isUnclosed (text : List Char) : Bool := text.contains '(' && text.contains ')'

end RecordFlow.Manifest
