import RecordFlow.Proofs.Literal.Grammar
import RecordFlow.Proofs.Text.Run

/-! # Reading numbers

A numeral is read as far as its digits, point and exponent go. The reader accepts
what the grammar derives, unless a point follows that would belong to the numeral.
-/

namespace RecordFlow.Literal

open Grammar

theorem toNat_le_of_isDecimalDigit {c : Char} (h : isDecimalDigit c) :
    48 ≤ c.toNat ∧ c.toNat ≤ 57 := by
  simp only [isDecimalDigit, decimalValue?] at h
  split at h
  · next hc => exact hc
  · cases h

theorem isIdentifierPart_of_isDecimalDigit {c : Char} (h : isDecimalDigit c) :
    isIdentifierPart c := by
  have hlt : c.toNat < 128 := by have := toNat_le_of_isDecimalDigit h; omega
  simp [isIdentifierPart, Unicode.isAlphanumeric, Unicode.isNumeric, hlt, h]

theorem isIdentifierPart_of_isHexDigit {c : Char} (h : isHexDigit c) : isIdentifierPart c := by
  simp only [isHexDigit, hexValue?] at h
  split at h
  · next hc => exact isIdentifierPart_of_isDecimalDigit (by simp [isDecimalDigit, decimalValue?, hc])
  split at h
  · next _ hc =>
    have hlt : c.toNat < 128 := Nat.lt_of_le_of_lt hc.2 (by decide)
    have hz : c ≤ 'z' := Char.le_trans hc.2 (by decide)
    simp [isIdentifierPart, Unicode.isAlphanumeric, Unicode.isAlphabetic, Unicode.isAsciiLetter,
      hlt, hc.1, hz]
  split at h
  · next _ _ hc =>
    have hlt : c.toNat < 128 := Nat.lt_of_le_of_lt hc.2 (by decide)
    have hz : c ≤ 'Z' := Char.le_trans hc.2 (by decide)
    simp [isIdentifierPart, Unicode.isAlphanumeric, Unicode.isAlphabetic, Unicode.isAsciiLetter,
      hlt, hc.1, hz]
  · cases h

theorem Grammar.wordEnd_cons {c : Char} (h : ¬ isIdentifierPart c) (rest : List Char) :
    WordEnd (c :: rest) := by
  rintro d ⟨⟩
  exact h

theorem Grammar.WordEnd.not_isDecimalDigit {rest : List Char} (h : WordEnd rest) :
    ∀ c ∈ rest.head?, ¬ isDecimalDigit c :=
  fun c hc hd => h c hc (isIdentifierPart_of_isDecimalDigit hd)

theorem Grammar.WordEnd.not_isHexDigit {rest : List Char} (h : WordEnd rest) :
    ∀ c ∈ rest.head?, ¬ isHexDigit c :=
  fun c hc hd => h c hc (isIdentifierPart_of_isHexDigit hd)

theorem endNumber_eq_ok_iff {x y : Binary64} {text rest : List Char} :
    endNumber x text = .ok (y, rest) ↔ x = y ∧ text = rest ∧ WordEnd rest := by
  cases text with
  | nil =>
    simp only [endNumber, Except.ok.injEq, Prod.mk.injEq]
    constructor
    · rintro ⟨rfl, rfl⟩; exact ⟨rfl, rfl, by simp [WordEnd]⟩
    · rintro ⟨rfl, rfl, -⟩; exact ⟨rfl, rfl⟩
  | cons c text =>
    simp only [endNumber]
    split
    · next hc =>
      simp only [reduceCtorEq, false_iff]
      rintro ⟨-, rfl, hend⟩
      exact hend c rfl hc
    · next hc =>
      simp only [Except.ok.injEq, Prod.mk.injEq]
      constructor
      · rintro ⟨rfl, rfl⟩; exact ⟨rfl, rfl, by simpa [WordEnd] using hc⟩
      · rintro ⟨rfl, rfl, -⟩; exact ⟨rfl, rfl⟩

theorem readHexNumber_eq_ok_iff {negative : Bool} {x : Binary64} {text rest : List Char} :
    readHexNumber negative text = .ok (x, rest) ↔
      ∃ digits, text = digits ++ rest ∧ digits ≠ [] ∧ (∀ d ∈ digits, isHexDigit d) ∧
        ofHexDigits digits < 0x10000000000000000 ∧ WordEnd rest ∧
        (if negative then (Binary64.ofNat (ofHexDigits digits)).negate
          else .ofNat (ofHexDigits digits)) = x := by
  simp only [readHexNumber]
  constructor
  · intro h
    split at h
    · cases h
    · next hsize =>
      obtain ⟨hx, hrest, hend⟩ := endNumber_eq_ok_iff.mp h
      obtain ⟨htext, hhex, -⟩ := Text.takeWhile_dropWhile_iff.mp ⟨rfl, hrest⟩
      refine ⟨_, htext, fun hnil => hsize (.inl ?_), hhex, ?_, hend, hx⟩
      · rw [hnil]; rfl
      · exact Nat.not_le.mp fun hle => hsize (.inr hle)
  · rintro ⟨digits, rfl, hne, hhex, hlt, hend, hx⟩
    rw [Text.takeWhile_run hhex hend.not_isHexDigit, Text.dropWhile_run hhex hend.not_isHexDigit]
    simp only [List.isEmpty_iff, hne, false_or, if_neg (Nat.not_le.mpr hlt)]
    exact endNumber_eq_ok_iff.mpr ⟨hx, rfl, hend⟩

theorem eq_of_readFraction (text : List Char) :
    ∃ point, text = point ++ (readFraction text).2 ∧ Fraction point (readFraction text).1 := by
  fun_cases readFraction text with
  | case1 text =>
    refine ⟨'.' :: text.takeWhile isDecimalDigit, ?_, .point fun c hc => List.mem_takeWhile_imp hc⟩
    rw [List.cons_append, List.takeWhile_append_dropWhile]
  | case2 text _ => exact ⟨[], rfl, .none⟩

theorem Grammar.Fraction.readFraction_eq {point fraction rest : List Char}
    (h : Fraction point fraction) (hpoint : point = [] → '.' ∉ rest.head?)
    (hrest : ∀ c ∈ rest.head?, ¬ isDecimalDigit c) :
    readFraction (point ++ rest) = (fraction, rest) := by
  cases h with
  | none =>
    rw [List.nil_append, readFraction.eq_2]
    rintro text rfl
    exact hpoint rfl rfl
  | point hdigits =>
    rw [List.cons_append, readFraction, Text.takeWhile_run hdigits hrest,
      Text.dropWhile_run hdigits hrest]

theorem eq_of_readExponentSign (text : List Char) :
    ∃ sign, text = sign ++ (readExponentSign text).2 ∧
      ExponentSign sign (readExponentSign text).1 := by
  fun_cases readExponentSign text with
  | case1 text => exact ⟨['+'], rfl, .plus⟩
  | case2 text => exact ⟨['-'], rfl, .minus⟩
  | case3 => exact ⟨[], rfl, .none⟩

theorem Grammar.ExponentSign.readExponentSign_eq {sign digits rest : List Char} {negative : Bool}
    (h : ExponentSign sign negative) (hne : digits ≠ []) (hdigits : ∀ d ∈ digits, isDecimalDigit d) :
    readExponentSign (sign ++ digits ++ rest) = (negative, digits ++ rest) := by
  cases h with
  | plus => rfl
  | minus => rfl
  | none =>
    cases digits with
    | nil => exact absurd rfl hne
    | cons d digits =>
      have hd := hdigits d (by simp)
      rw [List.nil_append, List.cons_append, readExponentSign.eq_3]
      · rintro text heq; obtain ⟨rfl, -⟩ := List.cons.inj heq; exact absurd hd (by decide)
      · rintro text heq; obtain ⟨rfl, -⟩ := List.cons.inj heq; exact absurd hd (by decide)

theorem eq_of_readExponent {text rest : List Char} {exponent : Int}
    (h : readExponent text = .ok (exponent, rest)) :
    ∃ power, text = power ++ rest ∧ Exponent power exponent := by
  cases text with
  | nil => cases h; exact ⟨[], rfl, .none⟩
  | cons e text =>
    simp only [readExponent] at h
    split at h
    · next he =>
      split at h
      · cases h
      · next hdigits =>
        obtain ⟨sign, htext, hsign⟩ := eq_of_readExponentSign text
        obtain ⟨hexponent, hrest⟩ := Prod.mk.inj (Except.ok.inj h)
        subst hexponent hrest
        refine ⟨e :: sign ++ (readExponentSign text).2.takeWhile isDecimalDigit, ?_,
          .letter he hsign (by simpa using hdigits) fun c hc => List.mem_takeWhile_imp hc⟩
        rw [List.cons_append, List.cons_append, List.append_assoc,
          List.takeWhile_append_dropWhile, ← htext]
    · cases h; exact ⟨[], rfl, .none⟩

theorem Grammar.Exponent.readExponent_eq {power rest : List Char} {exponent : Int}
    (h : Exponent power exponent) (hend : WordEnd rest) :
    readExponent (power ++ rest) = .ok (exponent, rest) := by
  cases h with
  | none =>
    cases rest with
    | nil => rfl
    | cons c rest =>
      have hc := hend c rfl
      have he : ¬ (c = 'e' ∨ c = 'E') := by
        rintro (rfl | rfl) <;> exact hc (by decide)
      simp only [List.nil_append, readExponent, if_neg he]
  | @letter e sign digits negative he hsign hne hdigits =>
    rw [List.append_assoc, List.cons_append, readExponent, if_pos he, ← List.append_assoc,
      hsign.readExponentSign_eq hne hdigits]
    simp only [Text.takeWhile_run hdigits hend.not_isDecimalDigit,
      Text.dropWhile_run hdigits hend.not_isDecimalDigit, List.isEmpty_iff, if_neg hne]

theorem eq_of_readDecimal {negative : Bool} {x : Binary64} {text rest : List Char}
    (h : readDecimal negative text = .ok (x, rest)) :
    ∃ whole point fraction power exponent, text = whole ++ point ++ power ++ rest ∧
      (∀ d ∈ whole, isDecimalDigit d) ∧ Fraction point fraction ∧ whole ++ fraction ≠ [] ∧
      Exponent power exponent ∧ WordEnd rest ∧
      .ofDecimal negative (Numeral.toDecimal ⟨whole, fraction, exponent⟩) = x := by
  simp only [readDecimal] at h
  split at h
  · cases h
  · next hdigits =>
    split at h
    · cases h
    · next exponent next hexponent =>
      obtain ⟨hx, rfl, hend⟩ := endNumber_eq_ok_iff.mp h
      obtain ⟨power, hpower, hexp⟩ := eq_of_readExponent hexponent
      obtain ⟨point, hpoint, hfraction⟩ := eq_of_readFraction (text.dropWhile isDecimalDigit)
      refine ⟨_, point, _, power, exponent, ?_, fun c hc => List.mem_takeWhile_imp hc, hfraction,
        ?_, hexp, hend, hx⟩
      · rw [List.append_assoc, List.append_assoc, ← hpower, ← hpoint,
          List.takeWhile_append_dropWhile]
      · rw [Ne, List.append_eq_nil_iff]
        simpa using hdigits

theorem Grammar.WordEnd.head_tail {point fraction power rest : List Char} {exponent : Int}
    (hend : WordEnd rest) (hfraction : Fraction point fraction) (hexp : Exponent power exponent) :
    ∀ c ∈ (point ++ (power ++ rest)).head?, ¬ isDecimalDigit c ∧ c ≠ 'x' ∧ c ≠ 'X' := by
  intro c hc
  rcases Text.mem_head?_append hc with hc | ⟨-, hc⟩
  · cases hfraction with
    | none => cases hc
    | point => cases hc; decide
  rcases Text.mem_head?_append hc with hc | ⟨-, hc⟩
  · cases hexp with
    | none => cases hc
    | letter he => cases hc; rcases he with rfl | rfl <;> decide
  · refine ⟨hend.not_isDecimalDigit c hc, ?_, ?_⟩
    · rintro rfl; exact hend _ hc (by decide)
    · rintro rfl; exact hend _ hc (by decide)

section

variable {whole point fraction power rest : List Char} {exponent : Int}
  (hwhole : ∀ d ∈ whole, isDecimalDigit d) (hfraction : Fraction point fraction)
  (hne : whole ++ fraction ≠ []) (hexp : Exponent power exponent) (hend : WordEnd rest)
include hwhole hfraction hne hexp hend

theorem readDecimal_eq (negative : Bool) (hpoint : '.' ∉ rest.head?) :
    readDecimal negative (whole ++ point ++ power ++ rest) =
      .ok (.ofDecimal negative (Numeral.toDecimal ⟨whole, fraction, exponent⟩), rest) := by
  have htail : ∀ c ∈ (point ++ (power ++ rest)).head?, ¬ isDecimalDigit c :=
    fun c hc => (hend.head_tail hfraction hexp c hc).1
  have hafter : ∀ c ∈ (power ++ rest).head?, ¬ isDecimalDigit c ∧ c ≠ '.' := by
    intro c hc
    rcases Text.mem_head?_append hc with hc | ⟨-, hc⟩
    · cases hexp with
      | none => cases hc
      | letter he => cases hc; rcases he with rfl | rfl <;> decide
    · exact ⟨hend.not_isDecimalDigit c hc, by rintro rfl; exact hpoint hc⟩
  have hread := hfraction.readFraction_eq (fun _ hmem => (hafter '.' hmem).2 rfl)
    (fun c hc => (hafter c hc).1)
  simp only [List.append_assoc, readDecimal]
  rw [Text.takeWhile_run hwhole htail, Text.dropWhile_run hwhole htail, hread]
  simp only [List.isEmpty_iff, hexp.readExponent_eq hend]
  rw [if_neg (by simpa using hne)]
  exact endNumber_eq_ok_iff.mpr ⟨rfl, rfl, hend⟩

theorem readMagnitude_decimal (negative : Bool) :
    readMagnitude negative (whole ++ point ++ power ++ rest) =
      readDecimal negative (whole ++ point ++ power ++ rest) := by
  have hmark : ∀ x text, x = 'x' ∨ x = 'X' →
      whole ++ point ++ power ++ rest ≠ '0' :: x :: text := by
    intro x text hx heq
    rw [List.append_assoc, List.append_assoc] at heq
    have htail := hend.head_tail hfraction hexp
    match whole with
    | [] =>
      rw [List.nil_append] at heq
      exact (htail '0' (by rw [heq]; rfl)).1 (by decide)
    | [c] =>
      have htext : point ++ (power ++ rest) = x :: text := (List.cons.inj heq).2
      have := htail x (by rw [htext]; rfl)
      rcases hx with rfl | rfl
      · exact this.2.1 rfl
      · exact this.2.2 rfl
    | c :: d :: _ =>
      obtain ⟨rfl, -⟩ := List.cons.inj (List.cons.inj heq).2
      have := hwhole d (by simp)
      rcases hx with rfl | rfl <;> exact absurd this (by decide)
  exact readMagnitude.eq_3 _ _ (fun text => hmark 'x' text (.inl rfl))
    (fun text => hmark 'X' text (.inr rfl))

end

theorem head_decimal {whole point fraction : List Char} (hwhole : ∀ d ∈ whole, isDecimalDigit d)
    (hfraction : Fraction point fraction) (hne : whole ++ fraction ≠ []) :
    ∃ c ∈ (whole ++ point).head?, c = '.' ∨ isDecimalDigit c := by
  cases whole with
  | cons d whole => exact ⟨d, rfl, .inr (hwhole d (by simp))⟩
  | nil =>
    cases hfraction with
    | none => exact absurd rfl hne
    | point => exact ⟨'.', rfl, .inl rfl⟩

theorem readMagnitude_hexadecimal {negative : Bool} {x : Char} {text : List Char}
    (hx : x = 'x' ∨ x = 'X') :
    readMagnitude negative ('0' :: x :: text) = readHexNumber negative text := by
  rcases hx with rfl | rfl <;> rfl

theorem number_of_readMagnitude {sign text rest : List Char} {negative : Bool} {x : Binary64}
    (hsign : Sign sign negative) (h : readMagnitude negative text = .ok (x, rest)) :
    ∃ numeral, text = numeral ++ rest ∧ Number (sign ++ numeral) x ∧ WordEnd rest := by
  have hexadecimal : ∀ mark digits, mark = 'x' ∨ mark = 'X' → text = '0' :: mark :: digits →
      ∃ numeral, text = numeral ++ rest ∧ Number (sign ++ numeral) x ∧ WordEnd rest := by
    rintro mark digits hmark rfl
    rw [readMagnitude_hexadecimal hmark] at h
    obtain ⟨digits, rfl, hne, hhex, hlt, hend, rfl⟩ := readHexNumber_eq_ok_iff.mp h
    exact ⟨'0' :: mark :: digits, rfl, .hexadecimal hsign hmark hne hhex hlt, hend⟩
  by_cases hlower : ∃ digits, text = '0' :: 'x' :: digits
  · obtain ⟨digits, htext⟩ := hlower
    exact hexadecimal 'x' digits (.inl rfl) htext
  by_cases hupper : ∃ digits, text = '0' :: 'X' :: digits
  · obtain ⟨digits, htext⟩ := hupper
    exact hexadecimal 'X' digits (.inr rfl) htext
  rw [readMagnitude.eq_3 _ _ (fun t ht => hlower ⟨t, ht⟩) (fun t ht => hupper ⟨t, ht⟩)] at h
  obtain ⟨whole, point, fraction, power, exponent, rfl, hwhole, hfraction, hne, hexp, hend, rfl⟩ :=
    eq_of_readDecimal h
  refine ⟨whole ++ point ++ power, rfl, ?_, hend⟩
  simpa only [List.append_assoc] using Number.decimal hsign hwhole hfraction hne hexp

theorem number_of_readNumber {text rest : List Char} {x : Binary64}
    (h : readNumber text = .ok (x, rest)) :
    ∃ numeral, text = numeral ++ rest ∧ Number numeral x ∧ WordEnd rest := by
  by_cases hminus : ∃ t, text = '-' :: t
  · obtain ⟨text, rfl⟩ := hminus
    obtain ⟨numeral, rfl, hnumber, hend⟩ := number_of_readMagnitude .minus h
    exact ⟨'-' :: numeral, rfl, hnumber, hend⟩
  · rw [readNumber.eq_2 _ (fun t ht => hminus ⟨t, ht⟩)] at h
    exact number_of_readMagnitude .none h

theorem readNumber_sign {sign text : List Char} {negative : Bool} (hsign : Sign sign negative)
    (hhead : '-' ∉ text.head?) : readNumber (sign ++ text) = readMagnitude negative text := by
  cases hsign with
  | minus => rfl
  | none =>
    rw [List.nil_append, readNumber.eq_2]
    rintro t rfl
    exact hhead rfl

theorem Grammar.Number.readNumber_eq {numeral rest : List Char} {x : Binary64}
    (h : Number numeral x) (hend : WordEnd rest) (hpoint : '.' ∉ rest.head?) :
    readNumber (numeral ++ rest) = .ok (x, rest) := by
  cases h with
  | @decimal sign whole point fraction power negative exponent hsign hwhole hfraction hne hexp =>
    obtain ⟨c, hc, hstart⟩ := head_decimal hwhole hfraction hne
    have hhead : '-' ∉ (whole ++ point ++ power ++ rest).head? := by
      rw [List.append_assoc (whole ++ point), Text.head?_append_of_mem hc]
      rintro ⟨⟩
      rcases hstart with h | h <;> exact absurd h (by decide)
    have hassoc : sign ++ whole ++ point ++ power ++ rest =
        sign ++ (whole ++ point ++ power ++ rest) := by simp only [List.append_assoc]
    rw [hassoc, readNumber_sign hsign hhead, readMagnitude_decimal hwhole hfraction hne hexp hend,
      readDecimal_eq hwhole hfraction hne hexp hend negative hpoint]
  | @hexadecimal sign digits mark negative hsign hmark hne hhex hlt =>
    rw [List.append_assoc, readNumber_sign hsign (by simp), List.cons_append, List.cons_append,
      readMagnitude_hexadecimal hmark]
    exact readHexNumber_eq_ok_iff.mpr ⟨digits, rfl, hne, hhex, hlt, hend, rfl⟩

theorem Grammar.Number.head {numeral : List Char} {x : Binary64} (h : Number numeral x) :
    ∃ c ∈ numeral.head?, c = '-' ∨ c = '.' ∨ isDecimalDigit c := by
  cases h with
  | @decimal sign whole point fraction power negative exponent hsign hwhole hfraction hne hexp =>
    cases hsign with
    | minus => exact ⟨'-', rfl, .inl rfl⟩
    | none =>
      obtain ⟨c, hc, hstart⟩ := head_decimal hwhole hfraction hne
      exact ⟨c, Text.head?_append_of_mem hc, .inr hstart⟩
  | hexadecimal hsign =>
    cases hsign with
    | minus => exact ⟨'-', rfl, .inl rfl⟩
    | none => exact ⟨'0', rfl, .inr (.inr (by decide))⟩

end RecordFlow.Literal
