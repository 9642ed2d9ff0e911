import RecordFlow.Proofs.Literal.Grammar
import RecordFlow.Proofs.Text.Run

/-! # Reading patterns

The source of a pattern is cut at the slash that closes it, the flags are the
word behind. What the reader takes for a source is a source of the grammar
without newlines.
-/

namespace RecordFlow.Literal

open Grammar

theorem readSource_plain {inBracket : Bool} {c : Char} {text : List Char} (hescape : c ≠ '\\')
    (hclose : c = '/' → inBracket) (hnewline : c ≠ '\n') :
    readSource inBracket (c :: text) =
      (readSource (if c = '[' then true else if c = ']' then false else inBracket) text).map
        fun (s, rest) => (c :: s, rest) := by
  have hslash : ¬ (c = '/' ∧ ¬ inBracket) := fun h => h.2 (hclose h.1)
  rw [readSource.eq_def]
  split
  · simp_all
  · simp_all
  · simp_all
  · next heq =>
    obtain ⟨rfl, rfl⟩ := List.cons.inj heq
    rw [if_neg hslash, if_neg hnewline]

theorem readSource_escape {inBracket : Bool} {c : Char} {text : List Char} (hnewline : c ≠ '\n') :
    readSource inBracket ('\\' :: c :: text) =
      (readSource inBracket text).map fun (s, rest) => ('\\' :: c :: s, rest) := by
  rw [readSource.eq_def]
  simp only [if_neg hnewline]

theorem readSource_close (text : List Char) :
    readSource false ('/' :: text) = .ok ([], text) := by
  rw [readSource.eq_def]
  simp

theorem eq_of_readSource {inBracket : Bool} {text s rest : List Char}
    (h : readSource inBracket text = .ok (s, rest)) :
    text = s ++ '/' :: rest ∧ Source inBracket s ∧ '\n' ∉ s := by
  fun_induction readSource inBracket text generalizing s with
  | case1 => cases h
  | case2 => cases h
  | case3 => cases h
  | case4 inBracket c text hnewline ih =>
    obtain ⟨⟨s', rest'⟩, hread, heq⟩ := map_eq_ok h
    cases heq
    obtain ⟨rfl, hs, hmem⟩ := ih hread
    exact ⟨rfl, .escape hs, by simp [hmem, Ne.symm hnewline]⟩
  | case5 inBracket c text _ _ hclose =>
    cases h
    obtain ⟨rfl, hout⟩ := hclose
    obtain rfl : inBracket = false := by simpa using hout
    exact ⟨rfl, .nil, List.not_mem_nil⟩
  | case6 => cases h
  | case7 inBracket c text hlast hescape hclose hnewline =>
    rename_i ih
    obtain ⟨⟨s', rest'⟩, hread, heq⟩ := map_eq_ok h
    cases heq
    obtain ⟨rfl, hs, hmem⟩ := ih hread
    refine ⟨rfl, ?_, by simp [hmem, Ne.symm hnewline]⟩
    have hslash : c ≠ '\\' := by
      rintro rfl
      cases s' with
      | nil => exact hescape _ _ rfl rfl
      | cons d s' => exact hescape _ _ rfl rfl
    by_cases hopen : c = '['
    · subst hopen; exact .opening hs
    by_cases hshut : c = ']'
    · subst hshut; exact .closing hs
    · change Source (if c = '[' then true else if c = ']' then false else inBracket) s' at hs
      rw [if_neg hopen, if_neg hshut] at hs
      exact .plain hslash hopen hshut (fun hc => by simpa [hc] using hclose) hs

theorem Grammar.Source.readSource_eq {inBracket : Bool} {s : List Char} (h : Source inBracket s)
    (hmem : '\n' ∉ s) (rest : List Char) :
    readSource inBracket (s ++ '/' :: rest) = .ok (s, rest) := by
  induction h with
  | nil => exact readSource_close rest
  | @escape inBracket c text _ ih =>
    simp only [List.mem_cons, not_or] at hmem
    rw [List.cons_append, List.cons_append, readSource_escape (Ne.symm hmem.2.1), ih hmem.2.2]
    rfl
  | @opening inBracket text _ ih =>
    simp only [List.mem_cons, not_or] at hmem
    rw [List.cons_append, readSource_plain (by decide) (by simp) (by decide), if_pos rfl,
      ih hmem.2]
    rfl
  | @closing inBracket text _ ih =>
    simp only [List.mem_cons, not_or] at hmem
    rw [List.cons_append, readSource_plain (by decide) (by simp) (by decide), if_neg (by decide),
      if_pos rfl, ih hmem.2]
    rfl
  | @plain inBracket c text hescape hopen hshut hclose _ ih =>
    simp only [List.mem_cons, not_or] at hmem
    rw [List.cons_append, readSource_plain hescape hclose (Ne.symm hmem.1), if_neg hopen,
      if_neg hshut, ih hmem.2]
    rfl

theorem Grammar.Source.head_ne_slash {s : List Char} (h : Source false s) : '/' ∉ s.head? := by
  cases h with
  | nil => simp
  | escape => simp
  | opening => simp
  | closing => simp
  | plain _ _ _ hclose => simpa using fun h => hclose h

end RecordFlow.Literal
