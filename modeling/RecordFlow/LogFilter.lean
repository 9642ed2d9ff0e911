import RecordFlow.Binary64.Decimal
import RecordFlow.Engine
import RecordFlow.Error

/-! # Log filters

A log filter is a list of directives with commas between them. A directive names
a level, or a target that may be followed by a span in brackets and by a level;
a span may list fields in braces, each with a value that has to match.
-/

namespace RecordFlow.LogFilter

def levelNames : List String := ["off", "error", "warn", "info", "debug", "trace"]

/-- A whole number without its plus sign. -/
def dropPlus : List Char → List Char
  | '+' :: rest => rest
  | text => text

/-- Whether a text is a level: a name in either case, or a number up to five. -/
def isLevel (text : List Char) : Bool :=
  let digits := dropPlus text
  levelNames.contains (String.ofList (text.map Char.toLower)) ||
    (!digits.isEmpty && digits.all isDecimalDigit && decide (ofDecimalDigits digits ≤ 5))

variable [Engine]

/-- Whether a text is a value to match: a number or an expression. -/
def isFieldValue (text : List Char) : Bool :=
  let value := String.ofList text
  (Binary64.ofText? value).isSome || (Engine.compile? value).isSome

/-- Whether a text is a field: a name, and perhaps a value after an equals sign. -/
def isField (text : List Char) : Bool :=
  !text.isEmpty &&
    match text.dropWhile (· ≠ '=') with
    | [] => true
    | _ :: value => isFieldValue (value.takeWhile (· ≠ '='))

/-- Whether a level may end a directive; it takes none if blanks stand in front of it. -/
def isLevelPart (indented : Bool) (text : List Char) : Bool :=
  !indented && (text.isEmpty || isLevel text)

def isAfterSpan (indented : Bool) : List Char → Bool
  | '=' :: level => isLevelPart indented level
  | rest => Text.isBlank rest

def isSpan (indented : Bool) (text : List Char) : Bool :=
  match text.dropWhile fun c => c ≠ ']' ∧ c ≠ '\x7b' with
  | [] => false
  | ']' :: rest => isAfterSpan indented rest
  | _ :: inside =>
    isField (inside.takeWhile (· ≠ '\x7d')) &&
      match inside.dropWhile (· ≠ '\x7d') with
      | _ :: ']' :: rest => isAfterSpan indented rest
      | _ => false

def isStart (c : Char) : Bool := c = '-' || c = ':' || c = '_' || Unicode.isAlphanumeric c

def isDirective (text : List Char) : Bool :=
  let trimmed := Text.trimStart text
  let indented := trimmed.length < text.length
  match trimmed with
  | [] => false
  | '[' :: rest => isSpan indented rest
  | c :: rest =>
    isStart c &&
      match rest.dropWhile fun c => c ≠ '=' ∧ c ≠ '[' with
      | [] => true
      | '[' :: rest => isSpan indented rest
      | _ :: level => isLevelPart indented level

def splitAtCommas : List Char → List (List Char)
  | [] => [[]]
  | c :: text =>
    let parts := splitAtCommas text
    if c = ',' then [] :: parts
    else (c :: parts.headD []) :: parts.tail

/-- Whether a text is a log filter. Empty parts are passed over. -/
def isValid (text : String) : Bool :=
  (splitAtCommas text.toList).all fun part => part.isEmpty || isDirective part

/-- Installs logging with a filter in a program that has logging already, which cannot succeed. -/
def installAgain (filter? : Option String) : Error :=
  match filter? with
  | some text =>
    .configuration (if isValid text then .alreadyInstalled else .logFilter text)
  | none => .configuration .alreadyInstalled

end RecordFlow.LogFilter
