import RecordFlow.Text.Basic

/-! # Quoted texts

A text is shown between double quotes. Quotes, backslashes, the common control
characters, and every character that would not show on its own are escaped, so
that the quoted form is one line of visible characters.
-/

namespace RecordFlow.Text

def escape (c : Char) : List Char :=
  if c = '"' then ['\\', '"']
  else if c = '\\' then ['\\', '\\']
  else if c = '\n' then ['\\', 'n']
  else if c = '\r' then ['\\', 'r']
  else if c = '\t' then ['\\', 't']
  else if c = '\x00' then ['\\', '0']
  else if Unicode.isPrintable c && !Unicode.isGraphemeExtend c then [c]
  else ['\\', 'u', '\x7b'] ++ hexDigits c.toNat ++ ['\x7d']

def quote (text : List Char) : List Char := '"' :: text.flatMap escape ++ ['"']

end RecordFlow.Text

namespace RecordFlow

def quoted (s : String) : String := String.ofList (Text.quote s.toList)

end RecordFlow
