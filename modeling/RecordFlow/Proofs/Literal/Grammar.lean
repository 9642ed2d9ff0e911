import RecordFlow.Literal.Reader

/-! # The grammar of object literals

Tokens are given by their own characters. What is made of tokens is given in
its context: such a relation holds of a text and a rest if the text begins with
the thing and the rest follows it. Blanks and comments stand between tokens. The
grammar leaves open which characters the source of a pattern is made of.
-/

namespace RecordFlow.Literal.Grammar

/-- Blanks and comments, and what follows them. -/
inductive Trivia : List Char → List Char → Prop where

  | nil (rest : List Char) : Trivia rest rest

  | blank {c : Char} {text rest : List Char} : Unicode.isWhiteSpace c → Trivia text rest →
      Trivia (c :: text) rest

  | line {comment text rest : List Char} : '\n' ∉ comment → Trivia text rest →
      Trivia ('/' :: '/' :: comment ++ '\n' :: text) rest

  | lastLine {comment : List Char} : '\n' ∉ comment → Trivia ('/' :: '/' :: comment) []

  | block {comment text rest : List Char} : ¬ ['*', '/'] <:+: comment → Trivia text rest →
      Trivia ('/' :: '*' :: comment ++ '*' :: '/' :: text) rest

/-- No character of an identifier stands at the beginning. -/
def WordEnd (rest : List Char) : Prop := ∀ c ∈ rest.head?, ¬ isIdentifierPart c

/-- The characters of a key. -/
structure Identifier (key : List Char) : Prop where
  start : ∃ c ∈ key.head?, isIdentifierStart c ∧ ¬ Unicode.isWhiteSpace c
  parts : ∀ c ∈ key, isIdentifierPart c

/-- Letters that stand for a control character after a backslash. -/
def controls : List (Char × Char) :=
  [('n', '\n'), ('t', '\t'), ('r', '\r'), ('b', '\x08'), ('f', '\x0c'), ('v', '\x0b'),
    ('0', '\x00')]

/-- Letters that introduce a code of so many hexadecimal digits. -/
def codeLengths : List (Char × Nat) := [('x', 2), ('u', 4)]

/-- What stands after a backslash, and the characters that both denote together. -/
inductive Escape : List Char → List Char → Prop where

  | control {letter c : Char} : (letter, c) ∈ controls → Escape [letter] [c]

  | continuation : Escape ['\n'] []

  | code {letter : Char} {digits : List Char} : (letter, digits.length) ∈ codeLengths →
      (∀ d ∈ digits, isHexDigit d) → (ofHexDigits digits).isValidChar →
      Escape (letter :: digits) [Char.ofNat (ofHexDigits digits)]

  | braced {digits : List Char} : digits ≠ [] → (∀ d ∈ digits, isHexDigit d) →
      (ofHexDigits digits).isValidChar →
      Escape ('u' :: '\x7b' :: digits ++ ['\x7d']) [Char.ofNat (ofHexDigits digits)]

  | plain {c : Char} : c ≠ '\n' → c ∉ controls.map Prod.fst → c ∉ codeLengths.map Prod.fst →
      Escape [c] [c]

/-- The characters between two quotes, and the characters they denote. -/
inductive StringBody (quote : Char) : List Char → List Char → Prop where

  | nil : StringBody quote [] []

  | plain {c : Char} {body chars : List Char} : c ≠ quote → c ≠ '\\' → c ≠ '\n' →
      StringBody quote body chars → StringBody quote (c :: body) (c :: chars)

  | escape {code denoted body chars : List Char} : Escape code denoted →
      StringBody quote body chars →
      StringBody quote ('\\' :: code ++ body) (denoted ++ chars)

/-- The optional sign of a number, and whether it is negative. -/
inductive Sign : List Char → Bool → Prop where

  | none : Sign [] false

  | minus : Sign ['-'] true

/-- The optional sign of an exponent, and whether it is negative. -/
inductive ExponentSign : List Char → Bool → Prop where

  | none : ExponentSign [] false

  | plus : ExponentSign ['+'] false

  | minus : ExponentSign ['-'] true

/-- The part of a numeral from its point on, if there is one, and its digits. -/
inductive Fraction : List Char → List Char → Prop where

  | none : Fraction [] []

  | point {digits : List Char} : (∀ d ∈ digits, isDecimalDigit d) →
      Fraction ('.' :: digits) digits

/-- The exponent part of a numeral, if there is one, and its value. -/
inductive Exponent : List Char → Int → Prop where

  | none : Exponent [] 0

  | letter {e : Char} {sign digits : List Char} {negative : Bool} : e = 'e' ∨ e = 'E' →
      ExponentSign sign negative → digits ≠ [] → (∀ d ∈ digits, isDecimalDigit d) →
      Exponent (e :: sign ++ digits)
        (if negative then -(ofDecimalDigits digits : Int) else ofDecimalDigits digits)

/-- The characters of a number, and the nearest binary number. -/
inductive Number : List Char → Binary64 → Prop where

  | decimal {sign whole point fraction power : List Char} {negative : Bool} {exponent : Int} :
      Sign sign negative → (∀ d ∈ whole, isDecimalDigit d) → Fraction point fraction →
      whole ++ fraction ≠ [] → Exponent power exponent →
      Number (sign ++ whole ++ point ++ power)
        (.ofDecimal negative (Numeral.toDecimal ⟨whole, fraction, exponent⟩))

  | hexadecimal {sign digits : List Char} {x : Char} {negative : Bool} :
      Sign sign negative → x = 'x' ∨ x = 'X' → digits ≠ [] → (∀ d ∈ digits, isHexDigit d) →
      ofHexDigits digits < 0x10000000000000000 →
      Number (sign ++ '0' :: x :: digits)
        (if negative then (Binary64.ofNat (ofHexDigits digits)).negate
          else .ofNat (ofHexDigits digits))

/-- Characters up to a slash that closes a pattern, from outside of a bracket or, with `true`,
from inside of one. A slash in a bracket or after a backslash closes nothing. -/
inductive Source : Bool → List Char → Prop where

  | nil : Source false []

  | escape {inBracket : Bool} {c : Char} {text : List Char} : Source inBracket text →
      Source inBracket ('\\' :: c :: text)

  | opening {inBracket : Bool} {text : List Char} : Source true text →
      Source inBracket ('[' :: text)

  | closing {inBracket : Bool} {text : List Char} : Source false text →
      Source inBracket (']' :: text)

  | plain {inBracket : Bool} {c : Char} {text : List Char} : c ≠ '\\' → c ≠ '[' → c ≠ ']' →
      (c = '/' → inBracket) → Source inBracket text → Source inBracket (c :: text)

/-- The characters that the source of a pattern is made of: a pattern stands on one line. -/
def OnOneLine (c : Char) : Prop := c ≠ '\n'

section

variable [Engine]

variable (sourceChar : Char → Prop)

/-- A value that is not an array. -/
inductive ScalarAt : List Char → List Char → Scalar → Prop where

  | string {quote : Char} {body chars rest : List Char} : quote = '"' ∨ quote = '\'' →
      StringBody quote body chars →
      ScalarAt (quote :: body ++ quote :: rest) rest (.string (String.ofList chars))

  | number {numeral rest : List Char} {x : Binary64} : Number numeral x → WordEnd rest →
      ScalarAt (numeral ++ rest) rest (.number x)

  | boolean {rest : List Char} (b : Bool) : WordEnd rest →
      ScalarAt ((if b then "true" else "false").toList ++ rest) rest (.boolean b)

  -- A slash with a star behind it opens a comment.
  | pattern {rest : List Char} {p : Pattern} : p.source ≠ "" → '*' ∉ p.source.toList.head? →
      Source false p.source.toList → (∀ c ∈ p.source.toList, sourceChar c) → WordEnd rest →
      ScalarAt ('/' :: p.source.toList ++ '/' :: p.flags.toList ++ rest) rest (.pattern p)

/-- The items of an array after its opening bracket, up to and with the closing one. -/
inductive ItemsAt : List Char → List Char → List Scalar → Prop where

  | nil {text rest : List Char} : Trivia text (']' :: rest) → ItemsAt text rest []

  | last {text value next rest : List Char} {item : Scalar} : Trivia text value →
      ScalarAt sourceChar value next item → Trivia next (']' :: rest) → ItemsAt text rest [item]

  | cons {text value next more rest : List Char} {item : Scalar} {items : List Scalar} :
      Trivia text value → ScalarAt sourceChar value next item → Trivia next (',' :: more) →
      ItemsAt more rest items → ItemsAt text rest (item :: items)

/-- A value. -/
inductive ValueAt : List Char → List Char → Literal → Prop where

  | scalar {text rest : List Char} {s : Scalar} : ScalarAt sourceChar text rest s →
      ValueAt text rest (.scalar s)

  | array {text rest : List Char} {items : List Scalar} : ItemsAt sourceChar text rest items →
      ValueAt ('[' :: text) rest (.array items)

/-- A key, a colon and a value. -/
inductive MemberAt : List Char → List Char → String × Literal → Prop where

  | mk {key next afterColon value rest : List Char} {v : Literal} : Identifier key →
      WordEnd next → Trivia next (':' :: afterColon) → Trivia afterColon value →
      ValueAt sourceChar value rest v → MemberAt (key ++ next) rest (String.ofList key, v)

/-- The members of an object after its opening brace, up to and with the closing one. -/
inductive MembersAt : List Char → List Char → List (String × Literal) → Prop where

  | nil {text rest : List Char} : Trivia text ('\x7d' :: rest) → MembersAt text rest []

  | last {text member next rest : List Char} {m : String × Literal} : Trivia text member →
      MemberAt sourceChar member next m → Trivia next ('\x7d' :: rest) → MembersAt text rest [m]

  | cons {text member next more rest : List Char} {m : String × Literal}
      {ms : List (String × Literal)} : Trivia text member → MemberAt sourceChar member next m →
      Trivia next (',' :: more) → MembersAt more rest ms → MembersAt text rest (m :: ms)

/-- A text that is an object literal, and its members. -/
inductive Sentence : List Char → List (String × Literal) → Prop where

  | mk {text inside rest : List Char} {members : List (String × Literal)} :
      Trivia text ('\x7b' :: inside) → MembersAt sourceChar inside rest members →
      Trivia rest [] → Sentence text members

/-- A text denotes the map that gives a key the value of its last member. -/
def Denotes (text : String) (p : Parameters) : Prop :=
  ∃ members, Sentence sourceChar text.toList members ∧
    ∀ key, p.get? key = members.reverse.lookup key

end

end RecordFlow.Literal.Grammar
