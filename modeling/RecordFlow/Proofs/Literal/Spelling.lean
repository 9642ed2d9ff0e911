import RecordFlow.Error
import RecordFlow.Proofs.Binary64.Nearest
import RecordFlow.Proofs.Literal.Places
import RecordFlow.Regex.Engine

/-! # Spellings of whole numbers

A whole number below `2 ^ 64` is spelled with decimal digits, or with hexadecimal digits
behind a mark. All spellings denote the nearest floating point number, so one may stand
for another. Hexadecimal digits of a larger number are refused in every place.
-/

namespace RecordFlow

/-- The floating point number that a whole number stands for, with a sign in front. -/
def Binary64.ofWhole (negative : Bool) (n : Nat) : Binary64 := if negative then (ofNat n).negate else ofNat n

theorem Binary64.ofDecimal_whole (negative : Bool) (n : Nat) : ofDecimal negative ⟨n, 0⟩ = ofWhole negative n := by
  have hmagnitude : Magnitude.ofDecimal ⟨n, 0⟩ = .round (n * one) 1 := by
    simp only [Magnitude.ofDecimal]
    split
    · next hn =>
      rw [hn, Nat.zero_mul]
      decide
    · simp
  rw [ofDecimal, hmagnitude, ofWhole, ofNat_eq]
  cases negative <;> rfl

namespace Literal

open Grammar

/-- The spellings of a whole number without sign, with any zeros in front. -/
inductive Grammar.Spelling (n : Nat) : List Char → Prop where

  | decimal {digits : List Char} : digits ≠ [] → (∀ d ∈ digits, isDecimalDigit d) → ofDecimalDigits digits = n →
      Spelling n digits

  | hexadecimal {mark : Char} {digits : List Char} : mark = 'x' ∨ mark = 'X' → digits ≠ [] →
      (∀ d ∈ digits, isHexDigit d) → ofHexDigits digits = n → Spelling n ('0' :: mark :: digits)

/-- No word and no fraction goes on behind a number. -/
def NumberEnd (rest : List Char) : Prop := WordEnd rest ∧ '.' ∉ rest.head?

variable {n : Nat} {sign spelling : List Char} {negative : Bool}

theorem Grammar.Spelling.number (h : Spelling n spelling) (hsign : Sign sign negative)
    (hn : n < 0x10000000000000000) : Number (sign ++ spelling) (.ofWhole negative n) := by
  cases h with
  | decimal hne hdigits hvalue =>
    have hnumber := Number.decimal hsign hdigits .none (by simpa using hne) .none
    simpa [Numeral.toDecimal, hvalue, Binary64.ofDecimal_whole] using hnumber
  | hexadecimal hmark hne hdigits hvalue =>
    subst hvalue
    exact .hexadecimal hsign hmark hne hdigits hn

theorem Grammar.Spelling.beginsNumber (h : Spelling n spelling) (hsign : Sign sign negative) (rest : List Char) :
    BeginsNumber (sign ++ spelling ++ rest) := by
  cases hsign with
  | minus => exact ⟨'-', rfl, .inl rfl⟩
  | none =>
    cases h with
    | decimal hne hdigits =>
      obtain ⟨d, digits, rfl⟩ := List.exists_cons_of_ne_nil hne
      exact ⟨d, rfl, .inr (hdigits d List.mem_cons_self)⟩
    | hexadecimal => exact ⟨'0', rfl, .inr (by decide)⟩

theorem readHexNumber_of_le {digits rest : List Char} (hdigits : ∀ d ∈ digits, isHexDigit d)
    (hlarge : 0x10000000000000000 ≤ ofHexDigits digits) (hrest : ∀ c ∈ rest.head?, ¬ isHexDigit c) :
    readHexNumber negative (digits ++ rest) = .error ⟨.hexNumber, rest⟩ := by
  simp only [readHexNumber]
  rw [Text.takeWhile_run hdigits hrest, Text.dropWhile_run hdigits hrest, if_pos (.inr hlarge)]

variable [Engine]

theorem Grammar.Spelling.readScalar_eq (h : Spelling n spelling) (hsign : Sign sign negative)
    (hn : n < 0x10000000000000000) {rest : List Char} (hrest : NumberEnd rest) :
    readScalar (sign ++ spelling ++ rest) = .ok (.number (.ofWhole negative n), rest) :=
  (ScalarAt.number (h.number hsign hn) hrest.1).readScalar_eq hrest.2

theorem BeginsNumber.readScalar_eq {text : List Char} (h : BeginsNumber text) :
    readScalar text = (readNumber text).map fun (x, rest) => (.number x, rest) := by
  obtain ⟨c, hc, hstart⟩ := h
  cases text with
  | nil => cases hc
  | cons d text =>
    obtain rfl : d = c := by simpa using hc
    exact readScalar_number (hstart.imp_right .inr)

theorem readScalar_of_le {mark : Char} {digits rest : List Char} (hsign : Sign sign negative)
    (hmark : mark = 'x' ∨ mark = 'X') (hdigits : ∀ d ∈ digits, isHexDigit d)
    (hlarge : 0x10000000000000000 ≤ ofHexDigits digits) (hrest : ∀ c ∈ rest.head?, ¬ isHexDigit c) :
    BeginsNumber (sign ++ '0' :: mark :: (digits ++ rest)) ∧
      readScalar (sign ++ '0' :: mark :: (digits ++ rest)) = .error ⟨.hexNumber, rest⟩ := by
  have hbegins : BeginsNumber (sign ++ '0' :: mark :: (digits ++ rest)) := by
    cases hsign with
    | minus => exact ⟨'-', rfl, .inl rfl⟩
    | none => exact ⟨'0', rfl, .inr (by decide)⟩
  refine ⟨hbegins, ?_⟩
  rw [hbegins.readScalar_eq, readNumber_sign hsign (by simp), readMagnitude_hexadecimal hmark,
    readHexNumber_of_le hdigits hlarge hrest]
  rfl

/-- All spellings of a whole number denote the nearest floating point number, or its negative behind a minus. -/
structure Denoted (n : Nat) : Prop where

  nearest : (Binary64.ofNat n).NearestEvenTo n

  /-- A spelling is read as that number wherever a scalar is read. -/
  scalar : ∀ sign negative spelling rest, Sign sign negative → Spelling n spelling → NumberEnd rest →
    readScalar (sign ++ spelling ++ rest) = .ok (.number (.ofWhole negative n), rest)

  /-- A spelling gives a parameter that value. -/
  parameter : ∀ key sign negative spelling, Identifier key → Sign sign negative → Spelling n spelling →
    Parameters.ofText (String.ofList ('\x7b' :: key ++ ':' :: (sign ++ spelling ++ ['\x7d']))) =
      .ok (Dict.ofList [(String.ofList key, .number (.ofWhole negative n))])

  /-- One spelling may stand for another in every place. -/
  exchange : ∀ before sign negative spelling spelling' rest, Place before → Sign sign negative →
    Spelling n spelling → Spelling n spelling' → NumberEnd rest → ∀ p,
    Parameters.ofText (String.ofList (before ++ (sign ++ spelling ++ rest))) = .ok p ↔
      Parameters.ofText (String.ofList (before ++ (sign ++ spelling' ++ rest))) = .ok p

theorem denoted_of_lt (hn : n < 0x10000000000000000) : Denoted n := by
  refine ⟨?_, ?_, ?_, ?_⟩
  · exact Binary64.nearestEvenTo_ofNat (Binary64.isFinite_ofInt (k := 64) (by decide) (by omega))
  · intro sign negative spelling rest hsign hspelling hrest
    exact hspelling.readScalar_eq hsign hn hrest
  · intro key sign negative spelling hkey hsign hspelling
    have hend : WordEnd ['\x7d'] := wordEnd_cons (by decide) []
    have hmember : MemberAt OnOneLine (key ++ ':' :: (sign ++ spelling ++ ['\x7d'])) ['\x7d']
        (String.ofList key, .number (.ofWhole negative n)) :=
      .mk hkey (wordEnd_cons (by decide) _) (.nil _) (.nil _) (.scalar (.number (hspelling.number hsign hn) hend))
    rw [Parameters.ofText_eq_ok_iff_readText]
    refine ⟨_, readText_eq_ok_iff.2 ?_, rfl⟩
    rw [String.toList_ofList]
    exact .mk (.nil _) (.last (.nil _) hmember (.nil _)) (.nil _)
  · intro before sign negative spelling spelling' rest hplace hsign hspelling hspelling' hrest p
    obtain ⟨next, hread⟩ := hplace.exists_readText
    simp only [Parameters.ofText_eq_ok_iff_readText, String.toList_ofList,
      hread _ (hspelling.beginsNumber hsign rest), hread _ (hspelling'.beginsNumber hsign rest),
      hspelling.readScalar_eq hsign hn hrest, hspelling'.readScalar_eq hsign hn hrest]

/-- In every place, decimal and hexadecimal spellings of a number below `2 ^ 64` denote the same nearest number,
and a larger hexadecimal number is refused. -/
theorem spellings_agree : (∀ n < 0x10000000000000000, Denoted n) ∧
    ∀ before sign negative mark digits rest, Place before → Sign sign negative → mark = 'x' ∨ mark = 'X' →
      (∀ d ∈ digits, isHexDigit d) → 0x10000000000000000 ≤ ofHexDigits digits → (∀ c ∈ rest.head?, ¬ isHexDigit c) →
      let text := before ++ (sign ++ '0' :: mark :: (digits ++ rest))
      Parameters.read (String.ofList text) = .error (.declarationSyntax (String.ofList text)
        (.literal ⟨.hexNumber, Text.octets text - Text.octets rest⟩)) := by
  refine ⟨fun n hn => denoted_of_lt hn, ?_⟩
  intro before sign negative mark digits rest hplace hsign hmark hdigits hlarge hrest text
  obtain ⟨hbegins, hscalar⟩ := readScalar_of_le hsign hmark hdigits hlarge hrest
  obtain ⟨next, hread⟩ := hplace.exists_readText
  have htext : readText text = .error ⟨.hexNumber, rest⟩ := by
    rw [hread _ hbegins, hscalar]
    rfl
  rw [Parameters.read, Parameters.ofText, String.toList_ofList, htext]
  rfl

end Literal

end RecordFlow

namespace RecordFlow.Literal

open Grammar

open scoped Regex

/-- A number that lies between two floating point numbers, in both spellings, and the least one that does not fit,
as an item of an array. -/
theorem spellings_agree_tie_and_limit :
    (Parameters.ofText "\x7ba:-9007199254740993\x7d" =
        .ok (Dict.ofList [("a", .number (.ofWhole true 9007199254740993))]) ∧
      Parameters.ofText "\x7ba:-0x0020000000000001\x7d" =
        .ok (Dict.ofList [("a", .number (.ofWhole true 9007199254740993))])) ∧
      Parameters.read "\x7bb:[0x10000000000000000]\x7d" =
        .error (.declarationSyntax "\x7bb:[0x10000000000000000]\x7d" (.literal ⟨.hexNumber, 23⟩)) := by
  have hdenoted := spellings_agree.1 9007199254740993 (by decide)
  have hkey (c : Char) (hstart : isIdentifierStart c) (hblank : ¬ Unicode.isWhiteSpace c) (hpart : isIdentifierPart c) :
      Identifier [c] := ⟨⟨c, rfl, hstart, hblank⟩, fun d hd => by rwa [List.mem_singleton.1 hd]⟩
  have hgap : Gap [] := .nil
  have hplace : Place ['\x7b', 'b', ':', '['] :=
    .mk hgap (.item hgap (hkey 'b' (by decide) (by decide) (by decide)) (wordEnd_cons (by decide) _) (.nil _) (.nil _)
      (.here hgap))
  refine ⟨⟨?_, ?_⟩, ?_⟩
  · exact hdenoted.parameter ['a'] ['-'] true "9007199254740993".toList
      (hkey 'a' (by decide) (by decide) (by decide)) .minus
      (.decimal (by decide) (List.all_eq_true.mp (by decide)) (by decide))
  · exact hdenoted.parameter ['a'] ['-'] true "0x0020000000000001".toList
      (hkey 'a' (by decide) (by decide) (by decide)) .minus
      (.hexadecimal (.inl rfl) (by decide) (List.all_eq_true.mp (by decide)) (by decide))
  · have hrefused := spellings_agree.2 _ [] false 'x' "10000000000000000".toList [']', '\x7d'] hplace .none (.inl rfl)
      (List.all_eq_true.mp (by decide)) (by decide) (by rintro _ ⟨⟩; decide)
    have htext : ['\x7b', 'b', ':', '['] ++ ([] ++ '0' :: 'x' :: ("10000000000000000".toList ++ [']', '\x7d'])) =
        "\x7bb:[0x10000000000000000]\x7d".toList := by decide
    have hoffset : Text.octets "\x7bb:[0x10000000000000000]\x7d".toList - Text.octets [']', '\x7d'] = 23 := by decide
    simpa only [htext, hoffset, String.ofList_toList] using hrefused

end RecordFlow.Literal
