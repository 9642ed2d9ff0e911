import RecordFlow.Pattern
import RecordFlow.Text.Digits

/-! # Faults of object literals

Why a text is no object literal. Each fault has one wording; where it was found
is told apart from it, as the number of octets read before.
-/

namespace RecordFlow.Literal

inductive Fault where
  | expected (wanted found : Char)
  | expectedAtEnd (wanted : Char)
  | openComment
  | afterObject (found : Char)
  | noKey (found : Char)
  | missingBrace
  | noCommaOrBrace (found : Char)
  | missingBracket
  | noCommaOrBracket (found : Char)
  | nestedArray
  | nestedObject
  | notALiteral (word : String)
  | noValue (found : Char)
  | valueAtEnd
  | openString
  | hexEscape
  | unicodeEscape
  | codePoint (code : Nat)
  | hexNumber
  | numeral
  | missingExponent
  | wordAfterNumber
  | openPattern
  | emptyPattern
  | pattern (error : PatternError)
  deriving DecidableEq, Repr

namespace Fault

def inApostrophes (c : Char) : String := "'" ++ c.toString ++ "'"

def message : Fault → String
  | expected wanted found => "expected " ++ inApostrophes wanted ++ ", found " ++ inApostrophes found
  | expectedAtEnd wanted => "expected " ++ inApostrophes wanted ++ ", found end of input"
  | openComment => "unterminated block comment"
  | afterObject found => "unexpected " ++ inApostrophes found ++ " after object literal"
  | noKey found => "expected identifier key, found " ++ inApostrophes found
  | missingBrace => "unbalanced braces: missing '\x7d'"
  | noCommaOrBrace found => "expected ',' or '\x7d', found " ++ inApostrophes found
  | missingBracket => "unbalanced brackets: missing ']'"
  | noCommaOrBracket found => "expected ',' or ']', found " ++ inApostrophes found
  | nestedArray => "nested arrays are not allowed"
  | nestedObject => "nested objects are not allowed"
  | notALiteral word => "'" ++ word ++ "' is not a literal value"
  | noValue found => "unexpected " ++ inApostrophes found ++ " where a value was expected"
  | valueAtEnd => "expected a value, found end of input"
  | openString => "unterminated string literal"
  | hexEscape => "invalid hexadecimal escape"
  | unicodeEscape => "invalid unicode escape"
  | codePoint code => "invalid code point 0x" ++ String.ofList (hexDigits code)
  | hexNumber => "invalid hexadecimal literal"
  | numeral => "invalid numeric literal"
  | missingExponent => "missing exponent digits"
  | wordAfterNumber => "identifier directly after numeric literal"
  | openPattern => "unterminated regular expression"
  | emptyPattern => "empty regular expression"
  | pattern error => error.message

end Fault

end RecordFlow.Literal
