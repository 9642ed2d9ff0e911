import RecordFlow.Proofs.Literal.Trivia
import RecordFlow.Proofs.Text.Run

/-! # Reading strings

The readers of escapes and of strings accept what the grammar derives, and what
they return is what the grammar says it denotes.
-/

namespace RecordFlow.Literal

open Grammar

theorem expect_eq_ok_iff {wanted : Char} {text rest : List Char} :
    expect wanted text = .ok rest ↔ text = wanted :: rest := by
  cases text with
  | nil => simp [expect]
  | cons c text =>
    simp only [expect]
    split
    · next h => simp [h]
    · next h => simp [h]

@[simp] theorem expect_self (c : Char) (rest : List Char) : expect c (c :: rest) = .ok rest :=
  expect_eq_ok_iff.mpr rfl

theorem readHex_eq_ok_iff {value count code : Nat} {text rest : List Char} :
    readHex value count text = .ok (code, rest) ↔
      ∃ digits, text = digits ++ rest ∧ digits.length = count ∧ (∀ d ∈ digits, isHexDigit d) ∧
        digits.foldl (fun n d => 16 * n + (hexValue? d).getD 0) value = code := by
  fun_induction readHex value count text with
  | case1 value text =>
    simp only [Except.ok.injEq, Prod.mk.injEq, List.length_eq_zero_iff]
    constructor
    · rintro ⟨rfl, rfl⟩; exact ⟨[], by simp⟩
    · rintro ⟨digits, rfl, rfl, -, rfl⟩; simp
  | case2 => simp
  | case3 value count c text digit hdigit ih =>
    rw [ih]
    constructor
    · rintro ⟨digits, rfl, rfl, hhex, rfl⟩
      refine ⟨c :: digits, rfl, rfl, ?_, by simp [hdigit]⟩
      exact List.forall_mem_cons.mpr ⟨by simp [isHexDigit, hdigit], hhex⟩
    · rintro ⟨digits, htext, hlength, hhex, hcode⟩
      cases digits with
      | nil => simp at hlength
      | cons d digits =>
        obtain ⟨rfl, rfl⟩ := List.cons.inj htext
        refine ⟨digits, rfl, by simpa using hlength, fun d hd => hhex d (by simp [hd]), ?_⟩
        simpa [hdigit] using hcode
  | case4 value count c text hdigit =>
    simp only [reduceCtorEq, false_iff, not_exists]
    rintro digits ⟨htext, hlength, hhex, -⟩
    cases digits with
    | nil => simp at hlength
    | cons d digits =>
      obtain ⟨rfl, rfl⟩ := List.cons.inj htext
      have := hhex c (by simp)
      simp [isHexDigit, hdigit] at this

theorem charOfCode_eq_ok_iff {code : Nat} {text chars rest : List Char} :
    charOfCode code text = .ok (chars, rest) ↔
      code.isValidChar ∧ [Char.ofNat code] = chars ∧ text = rest := by
  simp only [charOfCode]
  split
  · next h => simp [h]
  · next h => simp [h]

theorem readFixedCode_eq_ok_iff {count : Nat} {text chars rest : List Char} :
    readFixedCode count text = .ok (chars, rest) ↔
      ∃ digits, text = digits ++ rest ∧ digits.length = count ∧ (∀ d ∈ digits, isHexDigit d) ∧
        (ofHexDigits digits).isValidChar ∧ [Char.ofNat (ofHexDigits digits)] = chars := by
  simp only [readFixedCode]
  constructor
  · intro h
    split at h
    · cases h
    · next hread =>
      obtain ⟨hvalid, hchars, rfl⟩ := charOfCode_eq_ok_iff.mp h
      obtain ⟨digits, rfl, hlength, hhex, rfl⟩ := readHex_eq_ok_iff.mp hread
      exact ⟨digits, rfl, hlength, hhex, hvalid, hchars⟩
  · rintro ⟨digits, rfl, hlength, hhex, hvalid, hchars⟩
    rw [readHex_eq_ok_iff.mpr ⟨digits, rfl, hlength, hhex, rfl⟩]
    exact charOfCode_eq_ok_iff.mpr ⟨hvalid, hchars, rfl⟩

theorem lt_of_isValidChar {n : Nat} (h : n.isValidChar) : n < 0x100000000 := by
  rcases h with h | ⟨-, h⟩ <;> omega

theorem readBracedCode_eq_ok_iff {text chars rest : List Char} :
    readBracedCode text = .ok (chars, rest) ↔
      ∃ digits, text = digits ++ '\x7d' :: rest ∧ digits ≠ [] ∧ (∀ d ∈ digits, isHexDigit d) ∧
        (ofHexDigits digits).isValidChar ∧ [Char.ofNat (ofHexDigits digits)] = chars := by
  simp only [readBracedCode]
  constructor
  · intro h
    split at h
    · cases h
    · next hexpect =>
      rw [expect_eq_ok_iff] at hexpect
      obtain ⟨htext, hhex, -⟩ := Text.takeWhile_dropWhile_iff.mp ⟨rfl, hexpect⟩
      split at h
      · cases h
      · next hsize =>
        obtain ⟨hvalid, hchars, rfl⟩ := charOfCode_eq_ok_iff.mp h
        refine ⟨_, htext, fun hnil => hsize (.inl ?_), hhex, hvalid, hchars⟩
        rw [hnil]; rfl
  · rintro ⟨digits, rfl, hne, hhex, hvalid, hchars⟩
    have hbrace : ∀ c ∈ ('\x7d' :: rest).head?, ¬ isHexDigit c := by
      rintro c ⟨⟩; decide
    have hlt := lt_of_isValidChar hvalid
    rw [Text.takeWhile_run hhex hbrace, Text.dropWhile_run hhex hbrace, expect_self]
    simp only [List.isEmpty_iff, hne, false_or, if_neg (Nat.not_le.mpr hlt)]
    exact charOfCode_eq_ok_iff.mpr ⟨hvalid, hchars, rfl⟩

theorem escapedChar_of_mem {letter c : Char} (h : (letter, c) ∈ controls) :
    escapedChar letter = [c] := by
  simp only [controls, List.mem_cons, Prod.mk.injEq, List.not_mem_nil, or_false] at h
  rcases h with ⟨rfl, rfl⟩ | ⟨rfl, rfl⟩ | ⟨rfl, rfl⟩ | ⟨rfl, rfl⟩ | ⟨rfl, rfl⟩ | ⟨rfl, rfl⟩ |
    ⟨rfl, rfl⟩ <;> rfl

theorem escapedChar_of_not_mem {c : Char} (hnewline : c ≠ '\n')
    (h : c ∉ controls.map Prod.fst) : escapedChar c = [c] := by
  simp only [controls, List.map_cons, List.map_nil, List.mem_cons, List.not_mem_nil,
    or_false, not_or] at h
  unfold escapedChar
  split <;> simp_all

theorem escape_escapedChar {c : Char} (h : c ∉ codeLengths.map Prod.fst) :
    Escape [c] (escapedChar c) := by
  by_cases hnewline : c = '\n'
  · subst hnewline
    exact .continuation
  by_cases hmem : c ∈ controls.map Prod.fst
  · obtain ⟨⟨letter, d⟩, hd, rfl⟩ := List.mem_map.mp hmem
    rw [escapedChar_of_mem hd]
    exact .control hd
  · rw [escapedChar_of_not_mem hnewline hmem]
    exact .plain hnewline hmem h

theorem escape_of_readUnicodeEscape {text chars rest : List Char}
    (h : readUnicodeEscape text = .ok (chars, rest)) :
    ∃ code, text = code ++ rest ∧ Escape ('u' :: code) chars := by
  cases text with
  | nil => cases h
  | cons d text =>
    simp only [readUnicodeEscape] at h
    split at h
    · next hd =>
      subst hd
      obtain ⟨digits, rfl, hne, hhex, hvalid, rfl⟩ := readBracedCode_eq_ok_iff.mp h
      exact ⟨'\x7b' :: digits ++ ['\x7d'], by simp, .braced hne hhex hvalid⟩
    · obtain ⟨digits, hdigits, hlength, hhex, hvalid, rfl⟩ := readFixedCode_eq_ok_iff.mp h
      exact ⟨digits, hdigits, .code (by simp [codeLengths, hlength]) hhex hvalid⟩

theorem escape_of_readEscape {text chars rest : List Char} (h : readEscape text = .ok (chars, rest)) :
    ∃ code, text = code ++ rest ∧ Escape code chars := by
  cases text with
  | nil => cases h
  | cons c text =>
    simp only [readEscape] at h
    split at h
    · next hc =>
      subst hc
      obtain ⟨digits, rfl, hlength, hhex, hvalid, rfl⟩ := readFixedCode_eq_ok_iff.mp h
      exact ⟨'x' :: digits, rfl, .code (by simp [codeLengths, hlength]) hhex hvalid⟩
    next hx =>
    split at h
    · next hc =>
      subst hc
      obtain ⟨code, rfl, hescape⟩ := escape_of_readUnicodeEscape h
      exact ⟨'u' :: code, rfl, hescape⟩
    · next hu =>
      cases h
      exact ⟨[c], rfl, escape_escapedChar (by simp [codeLengths, hx, hu])⟩

theorem readEscape_code {letter : Char} {digits : List Char} (hlength : (letter, digits.length) ∈ codeLengths)
    (hhex : ∀ d ∈ digits, isHexDigit d) (hvalid : (ofHexDigits digits).isValidChar) (rest : List Char) :
    readEscape (letter :: digits ++ rest) = .ok ([Char.ofNat (ofHexDigits digits)], rest) := by
  simp only [codeLengths, List.mem_cons, Prod.mk.injEq, List.not_mem_nil, or_false] at hlength
  rcases hlength with ⟨rfl, hlength⟩ | ⟨rfl, hlength⟩
  · exact readFixedCode_eq_ok_iff.mpr ⟨digits, rfl, hlength, hhex, hvalid, rfl⟩
  · cases digits with
    | nil => simp at hlength
    | cons d digits =>
      have hd : d ≠ '\x7b' := by
        rintro rfl
        exact absurd (hhex '\x7b' (by simp)) (by decide)
      simp only [List.cons_append, readEscape, readUnicodeEscape, if_neg hd]
      exact readFixedCode_eq_ok_iff.mpr ⟨d :: digits, rfl, hlength, hhex, hvalid, rfl⟩

theorem Grammar.Escape.readEscape_append {code chars : List Char} (h : Escape code chars)
    (rest : List Char) : readEscape (code ++ rest) = .ok (chars, rest) := by
  cases h with
  | @control letter c hmem =>
    have hx : letter ≠ 'x' := by rintro rfl; simp [controls] at hmem
    have hu : letter ≠ 'u' := by rintro rfl; simp [controls] at hmem
    simp [readEscape, hx, hu, escapedChar_of_mem hmem]
  | continuation => rfl
  | code hlength hhex hvalid => exact readEscape_code hlength hhex hvalid rest
  | @braced digits hne hhex hvalid =>
    simp only [List.cons_append, List.append_assoc, List.nil_append, readEscape, readUnicodeEscape]
    exact readBracedCode_eq_ok_iff.mpr ⟨digits, rfl, hne, hhex, hvalid, rfl⟩
  | @plain c hnewline hmem hcode =>
    simp only [codeLengths, List.map_cons, List.map_nil, List.mem_cons, List.not_mem_nil,
      or_false, not_or] at hcode
    simp [readEscape, hcode.1, hcode.2, escapedChar_of_not_mem hnewline hmem]

theorem readEscape_eq_ok_iff {text chars rest : List Char} :
    readEscape text = .ok (chars, rest) ↔ ∃ code, text = code ++ rest ∧ Escape code chars := by
  constructor
  · exact escape_of_readEscape
  · rintro ⟨code, rfl, h⟩
    exact h.readEscape_append rest

theorem eq_of_readString {quote : Char} {text chars rest : List Char}
    (h : readString quote text = .ok (chars, rest)) :
    ∃ body, text = body ++ quote :: rest ∧ StringBody quote body chars := by
  fun_induction readString quote text generalizing chars with
  | case1 => cases h
  | case2 => cases h; exact ⟨[], rfl, .nil⟩
  | case3 => cases h
  | case4 text denoted next hescape _ ih =>
    obtain ⟨⟨chars', rest'⟩, hread, heq⟩ := map_eq_ok h
    cases heq
    obtain ⟨code, rfl, hcode⟩ := readEscape_eq_ok_iff.mp hescape
    obtain ⟨body, rfl, hbody⟩ := ih hread
    exact ⟨'\\' :: code ++ body, by simp, .escape hcode hbody⟩
  | case5 => cases h
  | case6 c text hquote hslash hnewline ih =>
    obtain ⟨⟨chars', rest'⟩, hread, heq⟩ := map_eq_ok h
    cases heq
    obtain ⟨body, rfl, hbody⟩ := ih hread
    exact ⟨c :: body, rfl, .plain hquote hslash hnewline hbody⟩

theorem Grammar.StringBody.readString_eq {quote : Char} {body chars : List Char}
    (h : StringBody quote body chars) (hquote : quote ≠ '\\') (rest : List Char) :
    readString quote (body ++ quote :: rest) = .ok (chars, rest) := by
  induction h with
  | nil => rw [List.nil_append, readString.eq_def]; simp
  | plain hc hslash hnewline _ ih =>
    rw [List.cons_append, readString.eq_def]
    simp only [if_neg hc, if_neg hslash, if_neg hnewline, ih]
    rfl
  | @escape code denoted body chars hcode _ ih =>
    have hread : readEscape (code ++ (body ++ quote :: rest)) =
        .ok (denoted, body ++ quote :: rest) := readEscape_eq_ok_iff.mpr ⟨code, rfl, hcode⟩
    rw [List.append_assoc, List.cons_append, readString.eq_def]
    simp only [if_neg hquote.symm, if_true]
    split
    · next h => cases hread.symm.trans h
    · next h => cases hread.symm.trans h; rw [ih]; rfl

end RecordFlow.Literal
