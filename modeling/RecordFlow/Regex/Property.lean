import RecordFlow.Regex.CharSet

/-! # Named character sets

The names that `\p` and `[:name:]` accept. Names of properties are compared in
lower case and without spaces, hyphens and underscores, and a leading `is` is
optional. A name stands for a property, a general category or a script.
-/

namespace RecordFlow.Regex

open Unicode

/-- The letters of a name in lower case, without its separators. -/
def bareName (name : String) : String :=
  let letters := (name.toList.filter fun c => c.toNat < 128 ∧ c ≠ ' ' ∧ c ≠ '_' ∧ c ≠ '-').map
    Char.toLower
  match letters with
  | 'i' :: 's' :: rest => if rest = ['c'] then "isc" else String.ofList rest
  | letters => String.ofList letters

def asciiHexDigits : CharSet := .ofRanges [('0', '9'), ('A', 'F'), ('a', 'f')]

def wideHexDigits : RangeTable := .ofText "30-39 41-46 61-66 ff10-ff19 ff21-ff26 ff41-ff46"

def binaryProperty? (name : String) : Option CharSet :=
  match name with
  | "alphabetic" | "alpha" => some .alphabetic
  | "lowercase" | "lower" => some .lowercase
  | "uppercase" | "upper" => some .uppercase
  | "whitespace" | "wspace" | "space" => some .spaces
  | "asciihexdigit" | "ahex" => some asciiHexDigits
  | "hexdigit" | "hex" => some (.table wideHexDigits)
  | _ => none

def categories? (name : String) : Option (List Category) :=
  match name with
  | "l" | "letter" => some [.Lu, .Ll, .Lt, .Lm, .Lo]
  | "lc" | "casedletter" => some [.Lu, .Ll, .Lt]
  | "lu" | "uppercaseletter" => some [.Lu]
  | "ll" | "lowercaseletter" => some [.Ll]
  | "lt" | "titlecaseletter" => some [.Lt]
  | "lm" | "modifierletter" => some [.Lm]
  | "lo" | "otherletter" => some [.Lo]
  | "m" | "mark" | "combiningmark" => some [.Mn, .Mc, .Me]
  | "mn" | "nonspacingmark" => some [.Mn]
  | "mc" | "spacingmark" => some [.Mc]
  | "me" | "enclosingmark" => some [.Me]
  | "n" | "number" => some [.Nd, .Nl, .No]
  | "nd" | "decimalnumber" | "digit" => some [.Nd]
  | "nl" | "letternumber" => some [.Nl]
  | "no" | "othernumber" => some [.No]
  | "p" | "punctuation" | "punct" => some [.Pc, .Pd, .Ps, .Pe, .Pi, .Pf, .Po]
  | "pc" | "connectorpunctuation" => some [.Pc]
  | "pd" | "dashpunctuation" => some [.Pd]
  | "ps" | "openpunctuation" => some [.Ps]
  | "pe" | "closepunctuation" => some [.Pe]
  | "pi" | "initialpunctuation" => some [.Pi]
  | "pf" | "finalpunctuation" => some [.Pf]
  | "po" | "otherpunctuation" => some [.Po]
  | "s" | "symbol" => some [.Sm, .Sc, .Sk, .So]
  | "sm" | "mathsymbol" => some [.Sm]
  | "sc" | "currencysymbol" => some [.Sc]
  | "sk" | "modifiersymbol" => some [.Sk]
  | "so" | "othersymbol" => some [.So]
  | "z" | "separator" => some [.Zs, .Zl, .Zp]
  | "zs" | "spaceseparator" => some [.Zs]
  | "zl" | "lineseparator" => some [.Zl]
  | "zp" | "paragraphseparator" => some [.Zp]
  | "c" | "other" => some [.Cc, .Cf, .Cn, .Co]
  | "cc" | "control" | "cntrl" => some [.Cc]
  | "cf" | "format" => some [.Cf]
  | "cn" | "unassigned" => some [.Cn]
  | "co" | "privateuse" => some [.Co]
  | _ => none

def generalCategory? (name : String) : Option CharSet :=
  match name with
  | "any" => some .everything
  | "ascii" => some (.range '\x00' '\x7f')
  | "assigned" => some .assigned
  | name => (categories? name).map .categories

def loneProperty? (name : String) : Option CharSet :=
  let name := bareName name
  binaryProperty? name <|> generalCategory? name <|> (script? name).map .table

def valuedProperty? (property value : String) : Option CharSet :=
  match bareName property with
  | "gc" | "generalcategory" => generalCategory? (bareName value)
  | "sc" | "script" | "scx" | "scriptextensions" => (script? (bareName value)).map .table
  | _ => none

def splitProperty (text piece : String) : Option (String × String) :=
  match text.splitOn piece with
  | name :: value :: more => some (name, piece.intercalate (value :: more))
  | _ => none

/-- The set that the text between the braces of `\p` stands for. -/
def property? (text : String) : Option CharSet :=
  match splitProperty text "!=" with
  | some (name, value) => (valuedProperty? name value).map .complement
  | none =>
    match splitProperty text ":" <|> splitProperty text "=" with
    | some (name, value) => valuedProperty? name value
    | none => loneProperty? text

/-- The classes of the form `[:name:]`, which hold characters of the ASCII range only. -/
def asciiClass? (name : String) : Option CharSet :=
  match name with
  | "alnum" => some (.ofRanges [('0', '9'), ('A', 'Z'), ('a', 'z')])
  | "alpha" => some (.ofRanges [('A', 'Z'), ('a', 'z')])
  | "ascii" => some (.range '\x00' '\x7f')
  | "blank" => some (.ofRanges [('\t', '\t'), (' ', ' ')])
  | "cntrl" => some (.ofRanges [('\x00', '\x1f'), ('\x7f', '\x7f')])
  | "digit" => some (.range '0' '9')
  | "graph" => some (.range '!' '~')
  | "lower" => some (.range 'a' 'z')
  | "print" => some (.range ' ' '~')
  | "punct" => some (.ofRanges [('!', '/'), (':', '@'), ('[', '\x60'), ('\x7b', '~')])
  | "space" => some (.ofRanges [('\t', '\r'), (' ', ' ')])
  | "upper" => some (.range 'A' 'Z')
  | "word" => some (.ofRanges [('0', '9'), ('A', 'Z'), ('_', '_'), ('a', 'z')])
  | "xdigit" => some asciiHexDigits
  | _ => none

end RecordFlow.Regex
