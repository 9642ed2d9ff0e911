import RecordFlow.Proofs.Text.Pieces

/-! # Lines of texts

A text is a sequence of lines, each with its end: a newline, or a carriage return and a
newline. The last line may end with the text. Every text has exactly one list of lines.
-/

namespace RecordFlow.Text

/-- The lines that a text is made of. A carriage return before a newline is no part of the line, and
there is no empty line behind the last newline. -/
inductive HasLines : List (List Char) → List Char → Prop where

  | nil : HasLines [] []

  | last {line : List Char} : line ≠ [] → '\n' ∉ line → HasLines [line] line

  | newline {line text : List Char} {lines : List (List Char)} : '\n' ∉ line → '\r' ∉ line.getLast? →
      HasLines lines text → HasLines (line :: lines) (line ++ '\n' :: text)

  | returnNewline {line text : List Char} {lines : List (List Char)} : '\n' ∉ line →
      HasLines lines text → HasLines (line :: lines) (line ++ '\r' :: '\n' :: text)

theorem dropReturn_concat (line : List Char) : dropReturn (line ++ ['\r']) = line := by
  simp [dropReturn]

theorem dropReturn_eq_self_of_getLast? {line : List Char} (h : '\r' ∉ line.getLast?) : dropReturn line = line := by
  rw [dropReturn]
  split
  · next rest hreverse =>
    rw [← List.head?_reverse, hreverse] at h
    exact absurd rfl h
  · rfl

theorem lines_append_newline {line : List Char} (h : '\n' ∉ line) (text : List Char) :
    lines (line ++ '\n' :: text) = dropReturn line :: lines text := by
  rw [lines, lines_go_append h, lines.go, List.append_nil, List.reverse_reverse]
  rfl

theorem lines_eq_singleton {line : List Char} (h : '\n' ∉ line) (hne : line ≠ []) : lines line = [line] := by
  have hgo := lines_go_append h [] []
  rw [List.append_nil, List.append_nil] at hgo
  rw [lines, hgo, lines.go, if_neg (by simpa using hne), List.reverse_reverse]

theorem HasLines.lines_eq {ls : List (List Char)} {text : List Char} (h : HasLines ls text) : lines text = ls := by
  induction h with
  | nil => rfl
  | last hne hline => exact lines_eq_singleton hline hne
  | newline hline hreturn _ ih => rw [lines_append_newline hline, dropReturn_eq_self_of_getLast? hreturn, ih]
  | @returnNewline line text ls hline _ ih =>
    rw [List.append_cons, lines_append_newline (by simpa using hline), dropReturn_concat, ih]

theorem exists_first_line (text : List Char) :
    ∃ line, '\n' ∉ line ∧ (text = line ∨ ∃ more, text = line ++ '\n' :: more) := by
  induction text with
  | nil => exact ⟨[], List.not_mem_nil, .inl rfl⟩
  | cons c text ih =>
    by_cases hc : c = '\n'
    · exact ⟨[], List.not_mem_nil, .inr ⟨text, by rw [hc]; rfl⟩⟩
    · obtain ⟨line, hline, rfl | ⟨more, rfl⟩⟩ := ih
      · exact ⟨c :: text, by simp [hline, Ne.symm hc], .inl rfl⟩
      · exact ⟨c :: line, by simp [hline, Ne.symm hc], .inr ⟨more, rfl⟩⟩

theorem hasLines_lines (text : List Char) : HasLines (lines text) text := by
  induction hlength : text.length using Nat.strong_induction_on generalizing text with
  | _ n ih =>
    subst hlength
    obtain ⟨line, hline, rfl | ⟨more, rfl⟩⟩ := exists_first_line text
    · by_cases hne : text = []
      · rw [hne]
        exact .nil
      · rw [lines_eq_singleton hline hne]
        exact .last hne hline
    · have hmore : HasLines (lines more) more := ih more.length (by simp; omega) more rfl
      rw [lines_append_newline hline]
      by_cases hreturn : '\r' ∈ line.getLast?
      · obtain ⟨front, rfl⟩ := List.getLast?_eq_some_iff.1 hreturn
        rw [dropReturn_concat, List.append_assoc]
        exact .returnNewline (fun hmem => hline (List.mem_append_left _ hmem)) hmore
      · rw [dropReturn_eq_self_of_getLast? hreturn]
        exact .newline hline hreturn hmore

theorem lines_eq_iff {ls : List (List Char)} {text : List Char} : lines text = ls ↔ HasLines ls text :=
  ⟨fun h => h ▸ hasLines_lines text, HasLines.lines_eq⟩

end RecordFlow.Text
