import Mathlib.Data.List.Infix
import RecordFlow.Proofs.Literal.Grammar

/-! # Skipping blanks and comments

The reader skips exactly as far as the grammar allows: what it leaves follows
blanks and comments, and a text has the same rest with and without them.
-/

namespace RecordFlow.Literal

open Grammar

theorem afterLine_append {comment : List Char} (h : '\n' ∉ comment) (rest : List Char) :
    afterLine (comment ++ '\n' :: rest) = rest := by
  induction comment with
  | nil => simp [afterLine]
  | cons c comment ih =>
    obtain ⟨hc, hcomment⟩ := not_or.mp (List.mem_cons.not.mp h)
    simp only [List.cons_append, afterLine, if_neg (Ne.symm hc), ih hcomment]

theorem afterLine_of_not_mem {comment : List Char} (h : '\n' ∉ comment) :
    afterLine comment = [] := by
  induction comment with
  | nil => rfl
  | cons c comment ih =>
    obtain ⟨hc, hcomment⟩ := not_or.mp (List.mem_cons.not.mp h)
    simp only [afterLine, if_neg (Ne.symm hc), ih hcomment]

theorem afterLine_cases (text : List Char) :
    ∃ comment, '\n' ∉ comment ∧
      (text = comment ∧ afterLine text = [] ∨ text = comment ++ '\n' :: afterLine text) := by
  induction text with
  | nil => exact ⟨[], List.not_mem_nil, .inl ⟨rfl, rfl⟩⟩
  | cons c text ih =>
    by_cases hc : c = '\n'
    · exact ⟨[], List.not_mem_nil, .inr (by simp [afterLine, hc])⟩
    · obtain ⟨comment, hcomment, h⟩ := ih
      refine ⟨c :: comment, List.mem_cons.not.mpr (not_or.mpr ⟨Ne.symm hc, hcomment⟩), ?_⟩
      simp only [afterLine, if_neg hc, List.cons_append, List.cons.injEq, true_and]
      exact h

theorem afterBlock?_append {comment : List Char} (h : ¬ ['*', '/'] <:+: comment)
    (rest : List Char) : afterBlock? (comment ++ '*' :: '/' :: rest) = some rest := by
  induction comment with
  | nil => simp [afterBlock?]
  | cons c comment ih =>
    have hcomment : ¬ ['*', '/'] <:+: comment := fun hi => h (List.infix_cons hi)
    rw [List.cons_append, afterBlock?.eq_2 _ _ ?_]
    · exact ih hcomment
    · rintro text rfl heq
      cases comment with
      | nil => simp at heq
      | cons d comment =>
        obtain rfl : d = '/' := (List.cons.inj heq).1
        exact h ⟨[], comment, rfl⟩

theorem eq_of_afterBlock? {text rest : List Char} (h : afterBlock? text = some rest) :
    ∃ comment, ¬ ['*', '/'] <:+: comment ∧ text = comment ++ '*' :: '/' :: rest := by
  fun_induction afterBlock? text with
  | case1 text =>
    cases h
    exact ⟨[], by simp, rfl⟩
  | case2 c text hopen ih =>
    obtain ⟨comment, hcomment, rfl⟩ := ih h
    refine ⟨c :: comment, fun hi => ?_, rfl⟩
    rcases List.infix_cons_iff.mp hi with hp | hi
    · obtain ⟨rfl, htail⟩ := List.cons_prefix_cons.mp hp
      cases comment with
      | nil => simp at htail
      | cons d comment =>
        obtain ⟨rfl, -⟩ := List.cons_prefix_cons.mp htail
        exact hopen _ rfl rfl
    · exact hcomment hi
  | case3 => cases h

@[simp] theorem skipTrivia_nil : skipTrivia [] = .ok [] := by rw [skipTrivia.eq_def]

@[simp] theorem skipTrivia_line (text : List Char) :
    skipTrivia ('/' :: '/' :: text) = skipTrivia (afterLine text) := by
  rw [skipTrivia.eq_def]; rfl

theorem skipTrivia_block {text rest : List Char} (h : afterBlock? text = some rest) :
    skipTrivia ('/' :: '*' :: text) = skipTrivia rest := by
  rw [skipTrivia.eq_def]
  simp only
  split <;> simp_all

theorem skipTrivia_cons {c : Char} (text : List Char) (h : c ≠ '/') :
    skipTrivia (c :: text) =
      if Unicode.isWhiteSpace c then skipTrivia text else .ok (c :: text) := by
  rw [skipTrivia.eq_def]
  split <;> simp_all

theorem skipTrivia_slash {c : Char} (text : List Char) (h : c ≠ '/') (h' : c ≠ '*') :
    skipTrivia ('/' :: c :: text) = .ok ('/' :: c :: text) := by
  rw [skipTrivia.eq_def]
  split
  · simp_all
  · simp_all
  · simp_all
  · next heq =>
    obtain ⟨rfl, rfl⟩ := List.cons.inj heq
    rw [if_neg (by decide)]

theorem Grammar.Trivia.skipTrivia_eq {text rest : List Char} (h : Trivia text rest) :
    skipTrivia text = skipTrivia rest := by
  induction h with
  | nil => rfl
  | @blank c text rest hc _ ih =>
    have hslash : c ≠ '/' := by rintro rfl; exact absurd hc (by decide)
    rw [skipTrivia_cons _ hslash, if_pos hc, ih]
  | line hcomment _ ih =>
    rw [List.cons_append, List.cons_append, skipTrivia_line, afterLine_append hcomment, ih]
  | lastLine hcomment => rw [skipTrivia_line, afterLine_of_not_mem hcomment]
  | block hcomment _ ih =>
    rw [List.cons_append, List.cons_append, skipTrivia_block (afterBlock?_append hcomment _), ih]

theorem Grammar.Trivia.skipTrivia_cons {c : Char} {text rest : List Char}
    (h : Trivia text (c :: rest)) (hslash : c ≠ '/') (hblank : ¬ Unicode.isWhiteSpace c) :
    skipTrivia text = .ok (c :: rest) := by
  rw [h.skipTrivia_eq, Literal.skipTrivia_cons _ hslash, if_neg hblank]

theorem trivia_of_skipTrivia {text rest : List Char} (h : skipTrivia text = .ok rest) :
    Trivia text rest := by
  fun_induction skipTrivia text with
  | case1 => cases h; exact .nil _
  | case2 text ih =>
    obtain ⟨comment, hcomment, ⟨rfl, hnil⟩ | heq⟩ := afterLine_cases text
    · rw [hnil, skipTrivia_nil] at h
      cases h
      exact .lastLine hcomment
    · rw [heq]
      exact .line hcomment (ih h)
  | case3 text rest' hblock ih =>
    obtain ⟨comment, hcomment, rfl⟩ := eq_of_afterBlock? hblock
    exact .block hcomment (ih h)
  | case4 => cases h
  | case5 c text _ _ hc ih => exact .blank hc (ih h)
  | case6 => cases h; exact .nil _

theorem not_isWhiteSpace_of_skipTrivia {c : Char} {text rest : List Char}
    (h : skipTrivia text = .ok (c :: rest)) : ¬ Unicode.isWhiteSpace c := by
  fun_induction skipTrivia text with
  | case1 => cases h
  | case2 text ih => exact ih h
  | case3 text rest' hblock ih => exact ih h
  | case4 => cases h
  | case5 c text _ _ hc ih => exact ih h
  | case6 c text _ _ hc => cases h; exact hc

def BeginsToken (text : List Char) : Prop :=
  ∀ rest, text = '/' :: rest → ∀ c ∈ rest.head?, c ≠ '/' ∧ c ≠ '*'

theorem beginsToken_of_skipTrivia {text rest : List Char} (h : skipTrivia text = .ok rest) :
    BeginsToken rest := by
  fun_induction skipTrivia text with
  | case1 =>
    cases h
    rintro _ ⟨⟩
  | case2 text ih => exact ih h
  | case3 text rest' _ ih => exact ih h
  | case4 => cases h
  | case5 c text _ _ _ ih => exact ih h
  | case6 c text hline hblock _ =>
    cases h
    rintro more ⟨⟩ d hd
    obtain ⟨after, rfl⟩ := List.head?_eq_some_iff.mp hd
    constructor
    · rintro rfl
      exact hline after rfl rfl
    · rintro rfl
      exact hblock after rfl rfl

theorem Grammar.Trivia.space {text rest : List Char} (h : Trivia text rest) :
    Trivia (' ' :: text) rest :=
  .blank (by decide) h

theorem Grammar.Trivia.head {c d : Char} {text rest : List Char} (h : Trivia text (c :: rest))
    (hd : d ∈ text.head?) : d = c ∨ Unicode.isWhiteSpace d ∨ d = '/' := by
  cases h with
  | nil => exact .inl (by simpa using hd.symm)
  | blank hc => cases hd; exact .inr (.inl hc)
  | line => cases hd; exact .inr (.inr rfl)
  | block => cases hd; exact .inr (.inr rfl)

end RecordFlow.Literal
