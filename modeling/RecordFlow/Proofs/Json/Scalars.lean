import RecordFlow.Json.Reader
import RecordFlow.Json.Writer
import RecordFlow.Proofs.Binary64.Text
import RecordFlow.Proofs.Text.Run

/-! # Strings and numbers are read again

A written character is one piece of a string, and the pieces denote the characters. A
written number has a sign, digits, and perhaps a fraction and an exponent, by which it
denotes the number. It ends where the text goes on with something else.
-/

namespace RecordFlow.Json

/-- A piece that stands for a character: the character, or its number if that is small. -/
def Piece.Denotes (p : Piece) (c : Char) : Prop := p = .char c ∨ c.toNat < 32 ∧ p = .unit c.toNat

def paddedHex (n : Nat) : List Char := (if n < 16 then ['0', '0', '0'] else ['0', '0']) ++ hexDigits n

theorem exists_unitOfHex? {n : Nat} (h : n < 32) :
    ∃ a b c d, paddedHex n = [a, b, c, d] ∧ unitOfHex? a b c d = some n := by
  have hall : ∀ n < 32, paddedHex n = ['0', '0', (n / 16).digitChar, (n % 16).digitChar] ∧
      unitOfHex? '0' '0' (n / 16).digitChar (n % 16).digitChar = some n := by
    decide +kernel
  obtain ⟨hform, hunit⟩ := hall n h
  exact ⟨_, _, _, _, hform, hunit⟩

variable {text rest : List Char} {pieces : List Piece}

theorem readPieces_unit {n : Nat} (hn : n < 32) (h : readPieces text = some (pieces, rest)) :
    readPieces ('\\' :: 'u' :: (paddedHex n ++ text)) = some (.unit n :: pieces, rest) := by
  obtain ⟨a, b, c, d, hform, hunit⟩ := exists_unitOfHex? hn
  simp [hform, readPieces, hunit, h]

theorem readPieces_escape (c : Char) (h : readPieces text = some (pieces, rest)) :
    ∃ p : Piece, p.Denotes c ∧ readPieces (escape c ++ text) = some (p :: pieces, rest) := by
  have hshort {e : Char} (he : unescape? e = some c) (hu : e ≠ 'u') :
      ∃ p : Piece, p.Denotes c ∧ readPieces ('\\' :: e :: text) = some (p :: pieces, rest) := by
    refine ⟨.char c, .inl rfl, ?_⟩
    rw [readPieces, he, h]
    intro _ _ _ _ _ heq _
    exact hu heq
  simp only [escape]
  split
  · next hc => exact hshort (by rw [hc]; rfl) (by decide)
  split
  · next hc => exact hshort (by rw [hc]; rfl) (by decide)
  split
  · next hc => exact hshort (by rw [hc]; rfl) (by decide)
  split
  · next hc => exact hshort (by rw [hc]; rfl) (by decide)
  split
  · next hc => exact hshort (by rw [hc]; rfl) (by decide)
  split
  · next hc => exact hshort (by rw [hc]; rfl) (by decide)
  split
  · next hc => exact hshort (by rw [hc]; rfl) (by decide)
  split
  · next hlt =>
    have hn : c.toNat < 32 := by omega
    exact ⟨.unit c.toNat, .inr ⟨hn, rfl⟩, by simpa [paddedHex, hlt] using readPieces_unit hn h⟩
  split
  · next hge hn => exact ⟨.unit c.toNat, .inr ⟨hn, rfl⟩, by simpa [paddedHex, hge] using readPieces_unit hn h⟩
  · next hquote hbackslash _ _ _ _ _ _ hn =>
    refine ⟨.char c, .inl rfl, ?_⟩
    rw [List.singleton_append, readPieces, if_neg (by simp [hn, hbackslash]), h]
    · rfl
    · exact hquote
    · rintro _ _ _ _ _ rfl
      exact absurd rfl hbackslash
    · rintro _ _ rfl
      exact absurd rfl hbackslash

theorem readPieces_flatMap_escape (chars rest : List Char) :
    ∃ pieces, List.Forall₂ Piece.Denotes pieces chars ∧
      readPieces (chars.flatMap escape ++ '"' :: rest) = some (pieces, rest) := by
  induction chars with
  | nil => exact ⟨[], .nil, rfl⟩
  | cons c chars ih =>
    obtain ⟨pieces, hdenotes, hread⟩ := ih
    obtain ⟨p, hp, hread⟩ := readPieces_escape c hread
    refine ⟨p :: pieces, .cons hp hdenotes, ?_⟩
    rw [List.flatMap_cons, List.append_assoc]
    exact hread

theorem charsOfPieces_of_denotes {chars : List Char} (h : List.Forall₂ Piece.Denotes pieces chars) :
    charsOfPieces pieces = some chars := by
  induction h with
  | nil => rfl
  | @cons p c pieces chars hp _ ih =>
    rcases hp with rfl | ⟨hn, rfl⟩
    · rw [charsOfPieces, ih]
      rfl
    · have hhigh : isHighSurrogate c.toNat = false := by simp [isHighSurrogate]; omega
      have hlow : isLowSurrogate c.toNat = false := by simp [isLowSurrogate]; omega
      cases pieces with
      | nil =>
        cases ih
        simp [charsOfPieces, hhigh, hlow]
      | cons q pieces =>
        cases q with
        | char d => simp [charsOfPieces.eq_4, hhigh, hlow, ih]
        | unit m => simp [charsOfPieces.eq_3, hhigh, hlow, ih]

theorem readPieces_writeString (s : String) (rest : List Char) :
    ∃ pieces, charsOfPieces pieces = some s.toList ∧
      readPieces (s.toList.flatMap escape ++ '"' :: rest) = some (pieces, rest) := by
  obtain ⟨pieces, hdenotes, hread⟩ := readPieces_flatMap_escape s.toList rest
  exact ⟨pieces, charsOfPieces_of_denotes hdenotes, hread⟩

/-- A text that does not go on with a number. -/
def Delimited (rest : List Char) : Prop :=
  ∀ c ∈ rest.head?, ¬ isDecimalDigit c ∧ c ≠ '.' ∧ c ≠ 'e' ∧ c ≠ 'E'

namespace NumberText

/-- The parts of a written number are as the grammar has them. -/
structure WellFormed (n : NumberText) : Prop where
  whole_ne_nil : n.whole ≠ []
  whole : ∀ c ∈ n.whole, isDecimalDigit c
  noLeadingZero : NoLeadingZero n.whole
  fraction : ∀ digits ∈ n.fraction, digits ≠ [] ∧ ∀ c ∈ digits, isDecimalDigit c
  exponent : ∀ e ∈ n.exponent, e.2 ≠ [] ∧ ∀ c ∈ e.2, isDecimalDigit c

def fractionForm : Option (List Char) → List Char
  | none => []
  | some digits => '.' :: digits

def exponentForm : Option (Bool × List Char) → List Char
  | none => []
  | some (negative, digits) => 'e' :: (if negative then '-' else '+') :: digits

def form (n : NumberText) : List Char :=
  (if n.negative then ['-'] else []) ++ (n.whole ++ (fractionForm n.fraction ++ exponentForm n.exponent))

end NumberText

theorem readWhole_append {digits : List Char} (hne : digits ≠ []) (hdigits : ∀ c ∈ digits, isDecimalDigit c)
    (hzero : NoLeadingZero digits) (hrest : ∀ c ∈ rest.head?, ¬ isDecimalDigit c) :
    readWhole (digits ++ rest) = some (digits, rest) := by
  simp only [readWhole, Text.span_run hdigits hrest]
  split
  · exact absurd rfl hne
  · cases hzero rfl
  · rfl

theorem readFraction_append {fraction : Option (List Char)}
    (h : ∀ digits ∈ fraction, digits ≠ [] ∧ ∀ c ∈ digits, isDecimalDigit c)
    (hrest : ∀ c ∈ rest.head?, ¬ isDecimalDigit c ∧ c ≠ '.') :
    readFraction (NumberText.fractionForm fraction ++ rest) = some (fraction, rest) := by
  cases fraction with
  | none =>
    cases rest with
    | nil => rfl
    | cons c rest =>
      rw [NumberText.fractionForm, List.nil_append, readFraction]
      intro _ heq
      exact (hrest c rfl).2 (List.cons.inj heq).1
  | some digits =>
    obtain ⟨hne, hdigits⟩ := h digits rfl
    have hspan := Text.span_run hdigits fun c hc => (hrest c hc).1
    simp only [NumberText.fractionForm, List.cons_append, readFraction, hspan]
    rw [if_neg (by simpa using hne)]

theorem readExponent_append {exponent : Option (Bool × List Char)}
    (h : ∀ e ∈ exponent, e.2 ≠ [] ∧ ∀ c ∈ e.2, isDecimalDigit c) (hrest : Delimited rest) :
    readExponent (NumberText.exponentForm exponent ++ rest) = some (exponent, rest) := by
  cases exponent with
  | none =>
    cases rest with
    | nil => rfl
    | cons c rest =>
      obtain ⟨-, -, he, hE⟩ := hrest c rfl
      simp [NumberText.exponentForm, readExponent, he, hE]
  | some e =>
    obtain ⟨negative, digits⟩ := e
    obtain ⟨hne, hdigits⟩ := h _ rfl
    have hspan := Text.span_run hdigits fun c hc => (hrest c hc).1
    have hsign : readExponentSign ((if negative then '-' else '+') :: (digits ++ rest)) = (negative, digits ++ rest) := by
      cases negative <;> rfl
    simp only [NumberText.exponentForm, List.cons_append, readExponent, hsign, hspan]
    rw [if_pos (.inl trivial), if_neg (by simpa using hne)]

theorem of_mem_head?_exponentForm (exponent : Option (Bool × List Char)) (hrest : Delimited rest) :
    ∀ c ∈ (NumberText.exponentForm exponent ++ rest).head?, ¬ isDecimalDigit c ∧ c ≠ '.' := by
  intro c hc
  cases exponent with
  | none => exact ⟨(hrest c hc).1, (hrest c hc).2.1⟩
  | some e =>
    cases hc
    exact ⟨by decide, by decide⟩

theorem of_mem_head?_fractionForm (fraction : Option (List Char))
    (hrest : ∀ c ∈ rest.head?, ¬ isDecimalDigit c ∧ c ≠ '.') :
    ∀ c ∈ (NumberText.fractionForm fraction ++ rest).head?, ¬ isDecimalDigit c := by
  intro c hc
  cases fraction with
  | none => exact (hrest c hc).1
  | some digits =>
    cases hc
    decide

theorem readNumberText_form {n : NumberText} (h : n.WellFormed) (hrest : Delimited rest) :
    readNumberText (n.form ++ rest) = some (n, rest) := by
  obtain ⟨negative, whole, fraction, exponent⟩ := n
  have hafter := of_mem_head?_exponentForm exponent hrest
  have hwhole := readWhole_append h.whole_ne_nil h.whole h.noLeadingZero
    (of_mem_head?_fractionForm fraction hafter)
  have hfraction := readFraction_append h.fraction hafter
  have hexponent := readExponent_append h.exponent hrest
  cases negative with
  | true => simp [NumberText.form, readNumberText, hwhole, hfraction, hexponent]
  | false =>
    obtain ⟨c, more, hcons⟩ := List.exists_cons_of_ne_nil h.whole_ne_nil
    have hc : c ≠ '-' := by
      rintro rfl
      have hdigit := h.whole '-' (by rw [hcons]; exact List.mem_cons_self)
      cases hdigit
    obtain rfl : whole = c :: more := hcons
    simp only [List.cons_append] at hwhole
    simp [NumberText.form, readNumberText, hc, hwhole, hfraction, hexponent]

open Binary64

namespace NumberText

def numeral (n : NumberText) : Numeral := ⟨n.whole, n.fraction.getD [], n.writtenExponent⟩

def nearestFloat? (n : NumberText) : Option Number :=
  let x := ofDecimal n.negative n.numeral.toDecimal
  if h : x.isFinite = true then some (.float x h) else none

/-- The number that is denoted: unlike the one that is read, it is rounded only once. -/
def nearest? (n : NumberText) : Option Number := n.toInteger? <|> n.nearestFloat?

theorem toInteger?_of_form {n : NumberText} (h : ¬ (n.fraction.isNone ∧ n.exponent.isNone)) : n.toInteger? = none :=
  if_neg fun hform => h ⟨hform.1, hform.2.1⟩

/-- A form with a point or an exponent and a value in the span of a finite number denotes this number. -/
theorem nearest?_eq {n : NumberText} {m : Magnitude} (hform : ¬ (n.fraction.isNone ∧ n.exponent.isNone))
    (hfinite : m.isFinite) (hnearest : Magnitude.NearestDecimal m.code n.numeral.toDecimal) :
    n.nearest? = some (.float (.signed n.negative m) hfinite) := by
  have hvalue : ofDecimal n.negative n.numeral.toDecimal = .signed n.negative m := by
    rw [ofDecimal, Magnitude.ofDecimal_eq_of_nearest hnearest hfinite]
  have hfinite' : (Binary64.signed n.negative m).isFinite := hfinite
  rw [nearest?, toInteger?_of_form hform]
  simp only [nearestFloat?, hvalue, hfinite', dif_pos, Option.orElse_eq_orElse, Option.orElse_none]

end NumberText

theorem signed_natAbs (n : Int) : (if n < 0 then -(n.natAbs : Int) else (n.natAbs : Int)) = n := by
  split <;> omega

/-- A form of a number that denotes it. -/
structure NumberText.Spells (t : NumberText) (n : Number) (text : List Char) : Prop where
  wellFormed : t.WellFormed
  form : t.form = text
  nearest? : t.nearest? = some n

variable {m : Magnitude} {d : Decimal}

theorem exists_spells_point (negative : Bool) (hfinite : m.isFinite) (hnearest : Magnitude.NearestDecimal m.code d)
    (hexp : d.exponent < 0) : ∃ t : NumberText, t.Spells (.float (.signed negative m) hfinite)
      ((if negative then ['-'] else []) ++ (d.plain ".0").toList) := by
  obtain ⟨whole, fraction, htext, hsplit⟩ := Decimal.exists_split hexp ".0"
  obtain ⟨hwhole, hfraction⟩ := List.forall_mem_append.1 hsplit.digits
  have hlength := hsplit.length_fraction
  refine ⟨⟨negative, whole, some fraction, none⟩, ⟨hsplit.whole_ne_nil, hwhole, hsplit.noLeadingZero, ?_, nofun⟩,
    ?_, ?_⟩
  · rintro _ ⟨⟩
    exact ⟨List.ne_nil_of_length_pos (by omega), hfraction⟩
  · simp [NumberText.form, NumberText.fractionForm, NumberText.exponentForm, htext]
  · refine NumberText.nearest?_eq (by simp) hfinite ?_
    have hvalue : NumberText.numeral ⟨negative, whole, some fraction, none⟩ = ⟨whole, fraction, 0⟩ := rfl
    rw [hvalue, Numeral.toDecimal, hsplit.value, hlength, show (0 : Int) - d.exponent.natAbs = d.exponent by omega]
    exact hnearest

theorem noLeadingZero_plain (hzero : d.digits = 0 → d = ⟨0, 0⟩) {count : Nat} (hcount : d.exponent = count) :
    NoLeadingZero (decimalDigits d.digits ++ List.replicate count '0') := by
  intro hhead
  by_cases hdigits : d.digits = 0
  · have hexponent : d.exponent = 0 := by rw [hzero hdigits]
    obtain rfl : count = 0 := by omega
    rw [hdigits]
    rfl
  · rw [List.head?_append_of_ne_nil _ (decimalDigits_ne_nil _)] at hhead
    exact absurd hhead (head?_decimalDigits_ne_zero hdigits)

theorem exists_spells_whole (negative : Bool) (hfinite : m.isFinite) (hnearest : Magnitude.NearestDecimal m.code d)
    (hzero : d.digits = 0 → d = ⟨0, 0⟩) (hexp : 0 ≤ d.exponent) :
    ∃ t : NumberText, t.Spells (.float (.signed negative m) hfinite)
      ((if negative then ['-'] else []) ++ (d.plain ".0").toList) := by
  obtain ⟨count, hcount⟩ := Int.eq_ofNat_of_zero_le hexp
  refine ⟨⟨negative, decimalDigits d.digits ++ List.replicate count '0', some ['0'], none⟩,
    ⟨?_, ?_, noLeadingZero_plain hzero hcount, by simp [isDecimalDigit, decimalValue?], nofun⟩, ?_, ?_⟩
  · exact List.append_ne_nil_of_left_ne_nil (decimalDigits_ne_nil _) _
  · intro c hc
    exact (List.mem_append.1 hc).elim (isDecimalDigit_of_mem_decimalDigits c) (isDecimalDigit_of_mem_zeros c)
  · simp [NumberText.form, NumberText.fractionForm, NumberText.exponentForm, Decimal.toList_plain_of_nonneg hexp,
      hcount]
  · refine NumberText.nearest?_eq (by simp) hfinite ?_
    -- the digit after the point is one zero more
    have hvalue : ofDecimalDigits (decimalDigits d.digits ++ List.replicate count '0' ++ ['0']) =
        d.digits * 10 ^ (count + 1) := by
      rw [List.append_assoc, ← List.replicate_succ', ofDecimalDigits_append_zeros, ofDecimalDigits_decimalDigits]
    have hnumeral : NumberText.numeral
        ⟨negative, decimalDigits d.digits ++ List.replicate count '0', some ['0'], none⟩ =
        ⟨decimalDigits d.digits ++ List.replicate count '0', ['0'], 0⟩ := rfl
    rw [hnumeral, Numeral.toDecimal, hvalue, Magnitude.nearestDecimal_ten_pow, List.length_singleton,
      show (0 : Int) - (1 : Nat) + (count + 1 : Nat) = d.exponent by omega]
    exact hnearest

theorem exists_spells_scientific (negative : Bool) (hfinite : m.isFinite)
    (hnearest : Magnitude.NearestDecimal m.code d) :
    ∃ t : NumberText, t.Spells (.float (.signed negative m) hfinite)
      ((if negative then ['-'] else []) ++ (d.scientific "+").toList) := by
  obtain ⟨c, more, hdigits⟩ := List.exists_cons_of_ne_nil (decimalDigits_ne_nil d.digits)
  have hall : ∀ c ∈ decimalDigits d.digits, isDecimalDigit c := isDecimalDigit_of_mem_decimalDigits
  rw [hdigits] at hall
  obtain ⟨hc, hmore⟩ := List.forall_mem_cons.1 hall
  obtain ⟨exponent, hexponent⟩ : ∃ exponent, exponent = d.exponent + more.length := ⟨_, rfl⟩
  let fraction := if more = [] then none else some more
  refine ⟨⟨negative, [c], fraction, some (exponent < 0, decimalDigits exponent.natAbs)⟩,
    ⟨List.cons_ne_nil _ _, by simpa using hc, ?_, ?_, ?_⟩, ?_, ?_⟩
  · rintro ⟨⟩
    rfl
  · intro digits hfraction
    by_cases h : more = []
    · simp [fraction, h] at hfraction
    · obtain rfl : more = digits := by simpa [fraction, h] using hfraction
      exact ⟨h, hmore⟩
  · rintro _ ⟨⟩
    exact ⟨decimalDigits_ne_nil _, isDecimalDigit_of_mem_decimalDigits⟩
  · have hfraction : NumberText.fractionForm fraction = if more = [] then [] else '.' :: more := by
      by_cases h : more = [] <;> simp [fraction, h, NumberText.fractionForm]
    rw [Decimal.toList_scientific hdigits, ← hexponent]
    by_cases h : exponent < 0 <;> simp [NumberText.form, hfraction, NumberText.exponentForm, h]
  · refine NumberText.nearest?_eq (by simp) hfinite ?_
    have hgetD : fraction.getD [] = more := by
      by_cases h : more = [] <;> simp [fraction, h]
    have hnumeral : NumberText.numeral ⟨negative, [c], fraction, some (exponent < 0, decimalDigits exponent.natAbs)⟩ =
        ⟨[c], more, exponent⟩ := by
      simp only [NumberText.numeral, NumberText.writtenExponent, hgetD, ofDecimalDigits_decimalDigits, decide_eq_true_eq, signed_natAbs]
    have hvalue : ofDecimalDigits (c :: more) = d.digits := by rw [← hdigits, ofDecimalDigits_decimalDigits]
    rw [hnumeral, Numeral.toDecimal, List.singleton_append, hvalue, hexponent, Int.add_sub_cancel]
    exact hnearest

theorem toInteger?_decimalDigits {value : Int} (inRange : FitsWord value) :
    NumberText.toInteger? ⟨value < 0, decimalDigits value.natAbs, none, none⟩ = some (.integer value inRange) := by
  have hzero : ¬ (value < 0 ∧ value.natAbs = 0) := by omega
  simp only [NumberText.toInteger?, Option.isNone_none, ofDecimalDigits_decimalDigits, decide_eq_true_eq,
    signed_natAbs, hzero, not_false_eq_true, and_self, if_true, dif_pos inRange]

theorem exists_spells_writeNumber (n : Number) : ∃ t : NumberText, t.Spells n (writeNumber n) := by
  cases n with
  | integer value inRange =>
    refine ⟨⟨value < 0, decimalDigits value.natAbs, none, none⟩, ⟨decimalDigits_ne_nil _,
      isDecimalDigit_of_mem_decimalDigits, noLeadingZero_decimalDigits _, nofun, nofun⟩, ?_, ?_⟩
    · by_cases h : value < 0 <;> simp [NumberText.form, NumberText.fractionForm, NumberText.exponentForm, writeNumber, h]
    · rw [NumberText.nearest?, toInteger?_decimalDigits inRange]
      rfl
  | float x finite =>
    cases x with
    | nan => cases finite
    | signed negative m =>
      have hnearest := m.nearestDecimal_shortest .toEven
      have hsign : (if negative then "-" else "").toList = if negative then ['-'] else [] := by
        cases negative <;> rfl
      simp only [writeNumber, Binary64.toDataText, String.toList_append, hsign]
      by_cases h : (m.shortest .toEven).digits = 0 ∨
          (-5 ≤ (m.shortest .toEven).leadingExponent ∧ (m.shortest .toEven).leadingExponent < 16)
      · rw [if_pos h]
        rcases Int.lt_or_le (m.shortest .toEven).exponent 0 with hexp | hexp
        · exact exists_spells_point negative finite hnearest hexp
        · exact exists_spells_whole negative finite hnearest Magnitude.shortest_of_digits_eq_zero hexp
      · rw [if_neg h]
        exact exists_spells_scientific negative finite hnearest

end RecordFlow.Json
