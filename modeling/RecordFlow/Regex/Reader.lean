import RecordFlow.Regex.Bracket
import RecordFlow.Regex.Syntax
import RecordFlow.Text.Basic

/-! # Reading regular expressions

The grammar of regular expressions. A reader takes the characters that are left
to an expression and the characters after it, and carries the scope: the flags
in force and the groups seen so far. A text outside the grammar has no reading;
why it has none is not told.
-/

namespace RecordFlow.Regex

structure Flags where
  ignoreCase : Bool := false
  multiLine : Bool := false
  dotNewline : Bool := false
  swapGreed : Bool := false
  ignoreSpace : Bool := false
  deriving DecidableEq, Repr

/-- What a reader knows besides the characters that are left. -/
structure Scope where
  flags : Flags
  /-- Number of octets of the whole expression. -/
  octets : Nat
  /-- Number of capture groups opened so far. -/
  groups : Nat
  names : List (String × Nat)
  /-- Groups that are referred to. -/
  referred : List Nat
  /-- Whether a group was referred to by its number. -/
  numbered : Bool

inductive Filler where
  | none
  | line
  | comment

/-- Skips comments in parentheses and, if space is ignored, blanks and line comments. -/
def skipFiller (ignoreSpace : Bool) : Filler → List Char → Option (List Char)
  | .none, '(' :: '?' :: '#' :: text => skipFiller ignoreSpace .comment text
  | .none, c :: text =>
    if ignoreSpace && c == '#' then skipFiller ignoreSpace .line text
    else if ignoreSpace && (c == ' ' || c == '\r' || c == '\n' || c == '\t') then
      skipFiller ignoreSpace .none text
    else some (c :: text)
  | .line, '\n' :: text => skipFiller ignoreSpace .none text
  | .line, _ :: text => skipFiller ignoreSpace .line text
  | .comment, ')' :: text => skipFiller ignoreSpace .none text
  | .comment, '\\' :: _ :: text => skipFiller ignoreSpace .comment text
  | .comment, _ :: text => skipFiller ignoreSpace .comment text
  | .comment, [] => none
  | _, [] => some []

def Scope.skip (scope : Scope) (text : List Char) : Option (List Char) :=
  skipFiller scope.flags.ignoreSpace .none text

structure Reading (α : Type) where
  value : α
  scope : Scope
  rest : List Char

def readNumber (text : List Char) : Option (Nat × List Char) :=
  let (digits, rest) := text.span isDecimalDigit
  if digits.isEmpty then none else some (ofDecimalDigits digits, rest)

def readBounds (scope : Scope) (text : List Char) : Option ((Nat × Option Nat) × List Char) := do
  let text ← scope.skip text
  let (least, text) ← match text with
    | ',' :: _ => some (0, text)
    | text => readNumber text
  let text ← scope.skip text
  let (most, text) ← match text with
    | '\x7d' :: _ => some (some least, text)
    | ',' :: text => do
      let text ← scope.skip text
      match readNumber text with
      | some (most, text) => some (some most, text)
      | none => some (none, text)
    | _ => none
  match ← scope.skip text with
  | '\x7d' :: text => return ((least, most), text)
  | _ => none

def isNameCharacter (c : Char) : Bool := Unicode.isAlphanumeric c || c == '_'

/-- Reads a group name between two delimiters. A hyphen may lead it if `relative` is set. -/
def readName (opening closing : List Char) (relative : Bool) (text : List Char) :
    Option (String × List Char) := do
  let text ← Text.after? opening text
  let (sign, letters) := match text with
    | '-' :: rest => if relative then (['-'], rest) else ([], text)
    | _ => ([], text)
  let (name, rest) := letters.span isNameCharacter
  if (sign ++ name).isEmpty then none
  else
    let rest ← Text.after? closing rest
    return (String.ofList (sign ++ name), rest)

/-- The group that a name in a reference denotes: a named group, a number, or a number counted
back from the last group. -/
def Scope.group? (scope : Scope) (name : String) : Option Nat :=
  match scope.names.lookup name with
  | some group => some group
  | none =>
    match name.toList with
    | '-' :: digits =>
      if digits.isEmpty ∨ ¬ digits.all isDecimalDigit then none
      else
        let back := ofDecimalDigits digits
        if back = 0 then some 0
        else if back ≤ scope.groups + 1 then some (scope.groups + 1 - back) else none
    | digits =>
      if digits.isEmpty ∨ ¬ digits.all isDecimalDigit then none else some (ofDecimalDigits digits)

/-- Notes a reference to a group, which must have been opened. -/
def Scope.refer (scope : Scope) (group : Nat) : Option Scope :=
  if group ≤ scope.groups then some { scope with referred := group :: scope.referred } else none

def readNumberedReference (scope : Scope) (text : List Char) : Option (Reading Nat) := do
  let (group, rest) ← readNumber text
  if group < scope.octets / 2 then
    let scope ← scope.refer group
    return ⟨group, { scope with numbered := true }, rest⟩
  else none

def readNamedReference (scope : Scope) (opening closing : List Char) (relative : Bool)
    (text : List Char) : Option (Reading Nat) := do
  let (name, rest) ← readName opening closing relative text
  let group ← scope.group? name
  return ⟨group, ← scope.refer group, rest⟩

/-- Reads the code point of a hexadecimal escape: a fixed count of digits, or up to eight digits in
braces. -/
def readCodePoint (count : Nat) (text : List Char) : Option (Char × List Char) := do
  let fixed := text.take count
  let (digits, rest) ←
    if fixed.length = count ∧ fixed.all isHexDigit then some (fixed, text.drop count)
    else
      match text with
      | '\x7b' :: text =>
        let (digits, rest) := text.span isHexDigit
        match rest with
        | '\x7d' :: rest => if digits.isEmpty ∨ 8 < digits.length then none else some (digits, rest)
        | _ => none
      | _ => none
  let code := ofHexDigits digits
  if code.isValidChar then some (Char.ofNat code, rest) else none

def readProperty (text : List Char) : Option (CharSet × List Char) :=
  match text with
  | '\x7b' :: text =>
    let (name, rest) := text.span (· ≠ '\x7d')
    match rest with
    | _ :: rest => (property? (String.ofList name)).map (·, rest)
    | [] => none
  | c :: rest => (loneProperty? (String.ofList [c])).map (·, rest)
  | [] => none

/-- End of text before any newlines that end it. -/
def beforeLastNewlines : Expr :=
  .look ⟨false, false⟩
    (.concat [.repetition (.literal '\n' false) 0 none true, .assertion .textEnd])

/-- Reads an escape after its backslash. In a class only escapes of characters and sets have a
meaning. -/
def readEscape (scope : Scope) (inClass : Bool) (text : List Char) : Option (Reading Expr) :=
  let ignoreCase := scope.flags.ignoreCase
  let done (e : Expr) (rest : List Char) : Option (Reading Expr) := some ⟨e, scope, rest⟩
  let outside (e : Expr) (rest : List Char) : Option (Reading Expr) := if inClass then none else done e rest
  let code (count : Nat) (rest : List Char) : Option (Reading Expr) :=
    (readCodePoint count rest).map fun (c, rest) => ⟨.literal c ignoreCase, scope, rest⟩
  match text with
  | [] => none
  | 'A' :: rest => outside (.assertion .textStart) rest
  | 'z' :: rest => outside (.assertion .textEnd) rest
  | 'Z' :: rest => outside beforeLastNewlines rest
  | 'b' :: rest =>
    if inClass then done (.literal '\x08' ignoreCase) rest
    else match rest with
      | '\x7b' :: _ => none
      | rest => done (.assertion .wordBoundary) rest
  | 'B' :: rest =>
    match rest with
    | '\x7b' :: _ => none
    | rest => outside (.assertion .noWordBoundary) rest
  | '<' :: rest => if inClass then done (.literal '<' false) rest else done (.assertion .wordStart) rest
  | '>' :: rest => if inClass then done (.literal '>' false) rest else done (.assertion .wordEnd) rest
  | 'd' :: rest => done (.set .digits) rest
  | 'D' :: rest => done (.set (.complement .digits)) rest
  | 's' :: rest => done (.set .spaces) rest
  | 'S' :: rest => done (.set (.complement .spaces)) rest
  | 'w' :: rest => done (.set .words) rest
  | 'W' :: rest => done (.set (.complement .words)) rest
  | 'h' :: rest => done (.set asciiHexDigits) rest
  | 'H' :: rest => done (.set (.complement asciiHexDigits)) rest
  | 'a' :: rest => done (.literal '\x07' ignoreCase) rest
  | 'e' :: rest => done (.literal '\x1b' ignoreCase) rest
  | 'f' :: rest => done (.literal '\x0c' ignoreCase) rest
  | 'n' :: rest => done (.literal '\n' ignoreCase) rest
  | 'r' :: rest => done (.literal '\r' ignoreCase) rest
  | 't' :: rest => done (.literal '\t' ignoreCase) rest
  | 'v' :: rest => done (.literal '\x0b' ignoreCase) rest
  | 'x' :: rest => code 2 rest
  | 'u' :: rest => code 4 rest
  | 'U' :: rest => code 8 rest
  | 'p' :: rest => (readProperty rest).map fun (s, rest) => ⟨.set (.foldIf ignoreCase s), scope, rest⟩
  | 'P' :: rest =>
    (readProperty rest).map fun (s, rest) =>
      ⟨.set (.complement (.foldIf ignoreCase s)), scope, rest⟩
  | 'K' :: rest => outside .keepOut rest
  | 'G' :: rest => outside .searchStart rest
  | 'k' :: rest =>
    if inClass then none
    else
      let reading := match rest with
        | '\'' :: _ => readNamedReference scope ['\''] ['\''] true rest
        | rest => readNamedReference scope ['<'] ['>'] true rest
      reading.map fun ⟨group, scope, rest⟩ => ⟨.backref group, scope, rest⟩
  | c :: rest =>
    if isDecimalDigit c then
      if inClass then none
      else
        (readNumberedReference scope (c :: rest)).map fun ⟨group, scope, rest⟩ =>
          ⟨.backref group, scope, rest⟩
    else if Unicode.isAsciiLetter c then none
    else if ' ' ≤ c ∧ c ≤ '\x7f' then done (.literal c ignoreCase) rest
    else none

/-- Reads the tokens of a bracketed class up to the bracket that closes it, at nesting `depth`. -/
def readBracket (scope : Scope) (depth : Nat) : Nat → List Char → Option (Reading (List BracketToken))
  | 0, _ => none
  | fuel + 1, text => do
    let next (token : BracketToken) (depth : Nat) (rest : List Char) :
        Option (Reading (List BracketToken)) :=
      (readBracket scope depth fuel rest).map fun ⟨tokens, scope, rest⟩ =>
        ⟨token :: tokens, scope, rest⟩
    match ← scope.skip text with
    | [] => none
    | '\\' :: rest =>
      let ⟨e, _, rest⟩ ← readEscape scope true rest
      match e with
      | .literal c _ => next (.escaped c) depth rest
      | .set s => next (.set s) depth rest
      | _ => none
    | '[' :: rest => next (.plain '[') (depth + 1) rest
    | ']' :: rest =>
      if depth ≤ 1 then some ⟨[.plain ']'], scope, rest⟩ else next (.plain ']') (depth - 1) rest
    | c :: rest => next (.plain c) depth rest

def readClass (scope : Scope) (text : List Char) : Option (Reading Expr) := do
  let (negated, text) := match text with
    | '^' :: rest => (true, rest)
    | text => (false, text)
  let (first, text) := match text with
    | ']' :: rest => ([BracketToken.plain ']'], rest)
    | text => ([], text)
  let ⟨tokens, scope, rest⟩ ← readBracket scope 1 (text.length + 1) text
  let s ← bracketSet? scope.flags.ignoreCase negated (first ++ tokens)
  return ⟨.set s, scope, rest⟩

/-- Reads the letters of a flag group up to its closing parenthesis or colon, which is kept. `seen`
tells how many letters were read, `negated` whether a hyphen was among them. -/
def readFlags (flags : Flags) (seen : Nat) (negated : Bool) :
    Nat → List Char → Option (Flags × List Char)
  | 0, _ => none
  | fuel + 1, text => do
    let on := !negated
    match ← skipFiller flags.ignoreSpace .none text with
    | 'i' :: rest =>
      readFlags { flags with ignoreCase := on } (seen + 1) negated fuel rest
    | 'm' :: rest =>
      readFlags { flags with multiLine := on } (seen + 1) negated fuel rest
    | 's' :: rest =>
      readFlags { flags with dotNewline := on } (seen + 1) negated fuel rest
    | 'U' :: rest =>
      readFlags { flags with swapGreed := on } (seen + 1) negated fuel rest
    | 'x' :: rest =>
      readFlags { flags with ignoreSpace := on } (seen + 1) negated fuel rest
    | 'u' :: rest => if negated then none else readFlags flags (seen + 1) negated fuel rest
    | '-' :: rest => if negated then none else readFlags flags (seen + 1) true fuel rest
    | ')' :: rest =>
      if seen = 0 ∨ negated ∧ seen = 1 then none else some (flags, ')' :: rest)
    | ':' :: rest => if negated ∧ seen = 1 then none else some (flags, ':' :: rest)
    | _ => none

def readClosing (scope : Scope) (text : List Char) : Option (List Char) := do
  match ← scope.skip text with
  | ')' :: rest => return rest
  | _ => none

inductive GroupStart where
  | capture (name : Option String)
  | look (kind : Look)
  | atomic
  | reference
  | conditional
  | flags

def readGroupStart (text : List Char) : Option (GroupStart × List Char) :=
  match text with
  | '?' :: '=' :: rest => some (.look ⟨false, false⟩, rest)
  | '?' :: '!' :: rest => some (.look ⟨false, true⟩, rest)
  | '?' :: '<' :: '=' :: rest => some (.look ⟨true, false⟩, rest)
  | '?' :: '<' :: '!' :: rest => some (.look ⟨true, true⟩, rest)
  | '?' :: '<' :: rest =>
    (readName ['<'] ['>'] false ('<' :: rest)).map fun (name, rest) => (.capture (some name), rest)
  | '?' :: 'P' :: '<' :: rest =>
    (readName ['<'] ['>'] false ('<' :: rest)).map fun (name, rest) => (.capture (some name), rest)
  | '?' :: 'P' :: '=' :: rest => some (.reference, rest)
  | '?' :: '>' :: rest => some (.atomic, rest)
  | '?' :: '(' :: rest => some (.conditional, rest)
  | '?' :: rest => some (.flags, rest)
  | rest => some (.capture none, rest)

def Scope.open (scope : Scope) (name : Option String) : Scope :=
  let index := scope.groups + 1
  { scope with
    groups := index
    names := match name with
      | some name => (name, index) :: scope.names
      | none => scope.names }

abbrev ExprReader := Scope → List Char → Option (Reading Expr)

/-- The branches of a conditional: the first alternative, and the others. -/
def conditionalBranches : Expr → Expr × Expr
  | .alt [a, b] => (a, b)
  | .alt (a :: rest) => (a, .alt rest)
  | e => (e, .empty)

/-- Reads the rest of a conditional group after `(?(`. -/
def readConditional (alternation : ExprReader) (scope : Scope) (text : List Char) :
    Option (Reading Expr) := do
  let ⟨condition, scope, rest⟩ ← match text with
    | [] => none
    | '\'' :: _ =>
      (readNamedReference scope ['\''] ['\''] true text).map fun ⟨g, scope, rest⟩ =>
        ⟨Expr.backref g, scope, rest⟩
    | '<' :: _ =>
      (readNamedReference scope ['<'] ['>'] true text).map fun ⟨g, scope, rest⟩ =>
        ⟨Expr.backref g, scope, rest⟩
    | c :: _ =>
      if isDecimalDigit c then
        (readNumberedReference scope text).map fun ⟨g, scope, rest⟩ => ⟨Expr.backref g, scope, rest⟩
      else alternation scope text
  let next ← readClosing scope rest
  let ⟨child, scope, rest⟩ ← alternation scope next
  if rest.length = next.length then
    match condition with
    | .backref group => return ⟨.matched group, scope, ← readClosing scope rest⟩
    | _ => none
  else
    let (whenTrue, whenFalse) := conditionalBranches child
    let condition := match condition with
      | .backref group => .matched group
      | condition => condition
    let rest ← readClosing scope rest
    if whenTrue.isEmpty ∧ whenFalse.isEmpty then return ⟨condition, scope, rest⟩
    else return ⟨.conditional condition whenTrue whenFalse, scope, rest⟩

def readGroup (alternation : ExprReader) (scope : Scope) (text : List Char) : Option (Reading Expr) := do
  let text ← scope.skip text
  let (start, text) ← readGroupStart text
  match start with
  | .capture name =>
    let scope := scope.open name
    let index := scope.groups
    let ⟨body, scope, rest⟩ ← alternation scope text
    return ⟨.group index body, scope, ← readClosing scope rest⟩
  | .look kind =>
    let ⟨body, scope, rest⟩ ← alternation scope text
    return ⟨.look kind body, scope, ← readClosing scope rest⟩
  | .atomic =>
    let ⟨body, scope, rest⟩ ← alternation scope text
    return ⟨.atomic body, scope, ← readClosing scope rest⟩
  | .reference =>
    let ⟨group, scope, rest⟩ ← readNamedReference scope [] [')'] false text
    return ⟨.backref group, scope, rest⟩
  | .conditional => readConditional alternation scope text
  | .flags =>
    let (flags, rest) ← readFlags scope.flags 0 false (text.length + 1) text
    match rest with
    | ')' :: rest => return ⟨.empty, { scope with flags }, rest⟩
    | _ :: rest =>
      let ⟨body, inner, rest⟩ ← alternation { scope with flags } rest
      match rest with
      | ')' :: rest => return ⟨body, { inner with flags := scope.flags }, rest⟩
      | _ => none
    | [] => none

def readAtom (group : ExprReader) (scope : Scope) (text : List Char) : Option (Reading Expr) := do
  let flags := scope.flags
  match ← scope.skip text with
  | [] => return ⟨.empty, scope, []⟩
  | '.' :: rest => return ⟨.any flags.dotNewline, scope, rest⟩
  | '^' :: rest =>
    return ⟨.assertion (if flags.multiLine then .lineStart else .textStart), scope, rest⟩
  | '$' :: rest =>
    return ⟨.assertion (if flags.multiLine then .lineEnd else .textEnd), scope, rest⟩
  | '(' :: rest => group scope rest
  | '\\' :: rest => readEscape scope false rest
  | '[' :: rest => readClass scope rest
  | c :: rest =>
    if c = '+' ∨ c = '*' ∨ c = '?' ∨ c = '|' ∨ c = ')' then return ⟨.empty, scope, c :: rest⟩
    else return ⟨.literal c flags.ignoreCase, scope, rest⟩

def readQuantifier (scope : Scope) : List Char → Option ((Nat × Option Nat) × List Char)
  | '?' :: rest => some ((0, some 1), rest)
  | '*' :: rest => some ((0, none), rest)
  | '+' :: rest => some ((1, none), rest)
  | '\x7b' :: rest => readBounds scope rest
  | _ => none

def readPiece (group : ExprReader) (scope : Scope) (text : List Char) : Option (Reading Expr) := do
  let ⟨atom, scope, rest⟩ ← readAtom group scope text
  let rest ← scope.skip rest
  match readQuantifier scope rest with
  | none => return ⟨atom, scope, rest⟩
  | some ((least, most), rest) =>
    if !atom.isRepeatable then none
    else
      let rest ← scope.skip rest
      let (lazy, rest) := match rest with
        | '?' :: rest => (true, rest)
        | rest => (false, rest)
      let repetition := Expr.repetition atom least most (lazy == scope.flags.swapGreed)
      match rest with
      | '+' :: rest => return ⟨.atomic repetition, scope, rest⟩
      | rest => return ⟨repetition, scope, rest⟩

def readPieces (group : ExprReader) : Nat → Scope → List Char → Option (Reading (List Expr))
  | 0, _, _ => none
  | fuel + 1, scope, text =>
    if text.isEmpty then some ⟨[], scope, text⟩
    else
      match readPiece group scope text with
      | none => none
      | some ⟨piece, next, rest⟩ =>
        if rest.length = text.length then some ⟨[], next, rest⟩
        else
          (readPieces group fuel next rest).map fun ⟨pieces, scope, rest⟩ =>
            ⟨if piece.isEmpty then pieces else piece :: pieces, scope, rest⟩

def readBranch (group : ExprReader) (scope : Scope) (text : List Char) : Option (Reading Expr) :=
  (readPieces group (text.length + 1) scope text).map fun ⟨pieces, scope, rest⟩ =>
    match pieces with
    | [] => ⟨.empty, scope, rest⟩
    | [piece] => ⟨piece, scope, rest⟩
    | pieces => ⟨.concat pieces, scope, rest⟩

def readBranches (group : ExprReader) : Nat → Scope → List Char → Option (Reading (List Expr))
  | 0, _, _ => none
  | fuel + 1, scope, text => do
    match ← scope.skip text with
    | '|' :: rest =>
      let ⟨branch, scope, rest⟩ ← readBranch group scope rest
      let ⟨branches, scope, rest⟩ ← readBranches group fuel scope rest
      return ⟨branch :: branches, scope, rest⟩
    | rest => return ⟨[], scope, rest⟩

/-- Reads alternatives. A reference by number and a named group do not go together, but that is
only noticed where there is a single alternative. -/
def readAlternation (group : ExprReader) (scope : Scope) (text : List Char) : Option (Reading Expr) := do
  let ⟨first, scope, rest⟩ ← readBranch group scope text
  let ⟨branches, scope, rest⟩ ← readBranches group (rest.length + 1) scope rest
  if branches.isEmpty then
    if scope.numbered ∧ ¬ scope.names.isEmpty then none else return ⟨first, scope, rest⟩
  else return ⟨.alt (first :: branches), scope, rest⟩

/-- Reads alternatives that may open at most `depth` groups inside each other. -/
def readNested : Nat → ExprReader
  | 0 => readAlternation fun _ _ => none
  | depth + 1 => readAlternation (readGroup (readNested depth))

def maxGroupDepth : Nat := 63

/-- Reads a whole text as a regular expression, with the groups that it refers to. -/
def Expr.ofText? (text : String) : Option (Expr × List Nat) :=
  let scope : Scope :=
    { flags := {}, octets := text.utf8ByteSize, groups := 0, names := [], referred := []
      numbered := false }
  match readNested maxGroupDepth scope text.toList with
  | some ⟨e, scope, []⟩ => some (e, scope.referred)
  | _ => none

end RecordFlow.Regex
