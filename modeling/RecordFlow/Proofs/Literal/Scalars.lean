import RecordFlow.Proofs.Literal.Numbers
import RecordFlow.Proofs.Literal.Patterns
import RecordFlow.Proofs.Literal.Strings
import RecordFlow.Proofs.Pattern

/-! # Reading scalars

The first character of a scalar tells its kind, and the reader of that kind
accepts what the grammar derives. A scalar never begins like a blank, a comment
or a bracket, so it is found behind blanks and comments.
-/

namespace RecordFlow.Literal

open Grammar

theorem isIdentifierPart_of_mem_patternFlags {f : Char} (h : f ∈ patternFlags) :
    isIdentifierPart f := by
  simp only [patternFlags, List.mem_cons, List.not_mem_nil, or_false] at h
  rcases h with rfl | rfl | rfl | rfl | rfl | rfl | rfl <;> decide

inductive ScalarStart : Char → Prop where

  | quote {c : Char} : c = '"' ∨ c = '\'' → ScalarStart c

  | number {c : Char} : c = '-' ∨ c = '.' ∨ isDecimalDigit c → ScalarStart c

  | word {c : Char} : c = 't' ∨ c = 'f' → ScalarStart c

  | slash : ScalarStart '/'

theorem not_isWhiteSpace_of_isDecimalDigit {c : Char} (h : isDecimalDigit c) :
    ¬ Unicode.isWhiteSpace c := by
  have := toNat_le_of_isDecimalDigit h
  simp [Unicode.isWhiteSpace]
  omega

theorem ScalarStart.not_isWhiteSpace {c : Char} (h : ScalarStart c) :
    ¬ Unicode.isWhiteSpace c := by
  cases h with
  | quote h => rcases h with rfl | rfl <;> decide
  | number h =>
    rcases h with rfl | rfl | h
    · decide
    · decide
    · exact not_isWhiteSpace_of_isDecimalDigit h
  | word h => rcases h with rfl | rfl <;> decide
  | slash => decide

theorem ScalarStart.ne_bracket {c : Char} (h : ScalarStart c) : c ≠ '[' ∧ c ≠ ']' := by
  cases h with
  | quote h => rcases h with rfl | rfl <;> decide
  | number h =>
    rcases h with rfl | rfl | h
    · decide
    · decide
    · constructor <;> rintro rfl <;> exact absurd h (by decide)
  | word h => rcases h with rfl | rfl <;> decide
  | slash => decide

variable [Engine]

theorem readPattern_eq_ok_iff {p : Pattern} {text rest : List Char} :
    readPattern text = .ok (p, rest) ↔
      text = p.source.toList ++ '/' :: p.flags.toList ++ rest ∧ p.source ≠ "" ∧
        Source false p.source.toList ∧ (∀ c ∈ p.source.toList, OnOneLine c) ∧ WordEnd rest := by
  constructor
  · intro h
    simp only [readPattern] at h
    split at h
    · cases h
    · next source next hsource =>
      obtain ⟨rfl, hs, hmem⟩ := eq_of_readSource hsource
      split at h
      · cases h
      · next hne =>
        split at h
        · cases h
        · next hmake =>
          obtain ⟨rfl, hrest⟩ := Prod.mk.inj (Except.ok.inj h)
          obtain ⟨hsourceEq, hflags⟩ := Pattern.make_eq_ok_iff.mp hmake
          obtain ⟨hnext, -, hend⟩ := Text.takeWhile_dropWhile_iff.mp ⟨rfl, hrest⟩
          have hline : ∀ c ∈ source, OnOneLine c := by rintro c hc rfl; exact hmem hc
          simp only [hsourceEq, hflags, String.toList_ofList]
          refine ⟨by simpa using hnext, fun h => hne ?_, hs, hline, hend⟩
          simpa using congrArg String.toList h
  · rintro ⟨rfl, hne, hs, hline, hend⟩
    have hmem : '\n' ∉ p.source.toList := fun h => hline _ h rfl
    have hflags : ∀ c ∈ p.flags.toList, isIdentifierPart c := fun c hc =>
      isIdentifierPart_of_mem_patternFlags (p.flags_known c hc)
    have hempty : p.source.toList ≠ [] := by simpa using hne
    rw [List.append_assoc, List.cons_append, readPattern, hs.readSource_eq hmem]
    simp only [List.isEmpty_iff, if_neg hempty, Text.takeWhile_run hflags hend,
      Text.dropWhile_run hflags hend, String.ofList_toList, Pattern.make_eq_ok_iff.mpr ⟨rfl, rfl⟩]

theorem readWord_eq_ok_iff {text rest : List Char} {s : Scalar} :
    readWord text = .ok (s, rest) ↔
      ∃ b : Bool, text = (if b then "true" else "false").toList ++ rest ∧ WordEnd rest ∧
        .boolean b = s := by
  have hword : ∀ b : Bool, ∀ c ∈ (if b then "true" else "false").toList, isIdentifierPart c := by
    intro b
    exact List.all_eq_true.mp (by cases b <;> rfl)
  simp only [readWord]
  constructor
  · intro h
    split at h
    · next htrue =>
      obtain ⟨rfl, hrest⟩ := Prod.mk.inj (Except.ok.inj h)
      obtain ⟨htext, -, hend⟩ := Text.takeWhile_dropWhile_iff.mp ⟨htrue, hrest⟩
      exact ⟨true, htext, hend, rfl⟩
    split at h
    · next _ hfalse =>
      obtain ⟨rfl, hrest⟩ := Prod.mk.inj (Except.ok.inj h)
      obtain ⟨htext, -, hend⟩ := Text.takeWhile_dropWhile_iff.mp ⟨hfalse, hrest⟩
      exact ⟨false, htext, hend, rfl⟩
    · cases h
  · rintro ⟨b, rfl, hend, rfl⟩
    rw [Text.takeWhile_run (hword b) hend, Text.dropWhile_run (hword b) hend]
    cases b
    · rw [if_neg (by decide), if_pos (by decide)]
    · rw [if_pos (by decide)]

theorem Grammar.ScalarAt.head {sourceChar : Char → Prop} {text rest : List Char} {s : Scalar}
    (h : ScalarAt sourceChar text rest s) : ∃ c ∈ text.head?, ScalarStart c := by
  cases h with
  | string hquote => exact ⟨_, rfl, .quote hquote⟩
  | number hnumber =>
    obtain ⟨c, hc, hstart⟩ := hnumber.head
    exact ⟨c, Text.head?_append_of_mem hc, .number hstart⟩
  | boolean b =>
    cases b
    · exact ⟨'f', rfl, .word (.inr rfl)⟩
    · exact ⟨'t', rfl, .word (.inl rfl)⟩
  | pattern => exact ⟨'/', rfl, .slash⟩

theorem Grammar.ScalarAt.skipTrivia_eq {sourceChar : Char → Prop} {text value rest : List Char}
    {s : Scalar} (h : ScalarAt sourceChar value rest s) (htrivia : Trivia text value) :
    skipTrivia text = .ok value := by
  obtain ⟨c, hc, hstart⟩ := h.head
  by_cases hslash : c = '/'
  · subst hslash
    cases h with
    | string hquote => cases hc; rcases hquote with h | h <;> cases h
    | number hnumber =>
      obtain ⟨d, hd, hnumber⟩ := hnumber.head
      obtain rfl : d = '/' := by simpa [Text.head?_append_of_mem hd] using hc
      rcases hnumber with h | h | h <;> exact absurd h (by decide)
    | boolean b => cases b <;> cases hc
    | @pattern rest p hne hstar hs _ _ =>
      obtain ⟨d, source, hsource⟩ : ∃ d source, p.source.toList = d :: source :=
        List.exists_cons_of_ne_nil (by simpa using hne)
      have hd : d ≠ '/' := by rintro rfl; exact hs.head_ne_slash (by simp [hsource])
      have hstar : d ≠ '*' := by rintro rfl; exact hstar (by simp [hsource])
      rw [htrivia.skipTrivia_eq, hsource]
      exact skipTrivia_slash _ hd hstar
  · obtain ⟨d, tail, rfl⟩ : ∃ d tail, value = d :: tail := by
      cases value with
      | nil => cases hc
      | cons d tail => exact ⟨d, tail, rfl⟩
    obtain rfl : d = c := by simpa using hc
    exact htrivia.skipTrivia_cons hslash hstart.not_isWhiteSpace

theorem scalarAt_of_readScalar {text rest : List Char} {s : Scalar} (hbegins : BeginsToken text)
    (h : readScalar text = .ok (s, rest)) : ScalarAt OnOneLine text rest s := by
  cases text with
  | nil => cases h
  | cons c text =>
    simp only [readScalar] at h
    split at h
    · next hquote =>
      obtain ⟨⟨chars, rest'⟩, hread, heq⟩ := map_eq_ok h
      cases heq
      obtain ⟨body, rfl, hbody⟩ := eq_of_readString hread
      exact .string hquote hbody
    split at h
    · cases h
    split at h
    · next hslash =>
      obtain ⟨⟨p, rest'⟩, hread, heq⟩ := map_eq_ok h
      cases heq
      obtain ⟨rfl, hne, hs, hline, hend⟩ := readPattern_eq_ok_iff.mp hread
      subst hslash
      refine .pattern hne (fun hstar => ?_) hs hline hend
      obtain ⟨source, hsource⟩ := List.head?_eq_some_iff.mp hstar
      exact (hbegins _ rfl '*' (by simp [hsource])).2 rfl
    split at h
    · cases h
    split at h
    · obtain ⟨⟨x, rest'⟩, hread, heq⟩ := map_eq_ok h
      cases heq
      obtain ⟨numeral, htext, hnumber, hend⟩ := number_of_readNumber hread
      exact htext ▸ .number hnumber hend
    split at h
    · obtain ⟨b, htext, hend, rfl⟩ := readWord_eq_ok_iff.mp h
      exact htext ▸ .boolean b hend
    · cases h

theorem readScalar_number {c : Char} {text : List Char} (h : c = '-' ∨ c = '.' ∨ isDecimalDigit c) :
    readScalar (c :: text) = (readNumber (c :: text)).map fun (x, rest) => (.number x, rest) := by
  have hne : ∀ d : Char, d ∈ ['"', '\'', '[', '/', '\x7b'] → c ≠ d := by
    rintro d hd rfl
    rcases h with rfl | rfl | h
    · simp at hd
    · simp at hd
    · simp only [List.mem_cons, List.not_mem_nil, or_false] at hd
      rcases hd with rfl | rfl | rfl | rfl | rfl <;> exact absurd h (by decide)
  simp only [readScalar]
  rw [if_neg (by simp [hne]), if_neg (hne _ (by simp)), if_neg (hne _ (by simp)),
    if_neg (hne _ (by simp)), if_pos h]

theorem readScalar_word {c : Char} {text : List Char} (h : c = 't' ∨ c = 'f') :
    readScalar (c :: text) = readWord (c :: text) := by
  rcases h with rfl | rfl <;> rfl

/-- What the grammar derives is read, unless a point follows. -/
theorem Grammar.ScalarAt.readScalar_eq {text rest : List Char} {s : Scalar}
    (h : ScalarAt OnOneLine text rest s) (hpoint : '.' ∉ rest.head?) :
    readScalar text = .ok (s, rest) := by
  cases h with
  | @string quote body chars rest hquote hbody =>
    have hslash : quote ≠ '\\' := by rcases hquote with rfl | rfl <;> decide
    simp only [List.cons_append, readScalar, if_pos hquote, hbody.readString_eq hslash rest]
    rfl
  | @number numeral rest x hnumber hend =>
    obtain ⟨c, hc, hstart⟩ := hnumber.head
    obtain ⟨tail, rfl⟩ : ∃ tail, numeral = c :: tail := by
      cases numeral with
      | nil => cases hc
      | cons d tail => exact ⟨tail, by simpa using hc⟩
    have hread := hnumber.readNumber_eq hend hpoint
    rw [List.cons_append] at hread ⊢
    rw [readScalar_number hstart, hread]
    rfl
  | @boolean rest b hend =>
    have hread := readWord_eq_ok_iff.mpr ⟨b, rfl, hend, rfl⟩
    cases b
    · exact (readScalar_word (.inr rfl)).trans hread
    · exact (readScalar_word (.inl rfl)).trans hread
  | @pattern rest p hne _ hs hline hend =>
    have hread := readPattern_eq_ok_iff.mpr ⟨rfl, hne, hs, hline, hend⟩
    simp only [List.cons_append, List.append_assoc, readScalar] at hread ⊢
    rw [if_neg (by decide), if_neg (by decide), if_pos trivial, hread]
    rfl

end RecordFlow.Literal
