import Mathlib.Data.List.DropRight
import Mathlib.Data.List.TakeWhile
import Mathlib.Data.List.Infix
import RecordFlow.Text.Basic

/-! # Pieces of texts

Trimming takes blanks from both ends only, breaking a text finds the first
occurrence of a piece, and splitting finds all occurrences of a pair. Lines that
are joined are found again.
-/

namespace RecordFlow.Text

theorem trim_cons_of_blank {c : Char} (h : Unicode.isWhiteSpace c) (text : List Char) :
    trim (c :: text) = trim text := by
  simp [trim, trimStart, h]

theorem trim_concat_of_blank {c : Char} (h : Unicode.isWhiteSpace c) (text : List Char) :
    trim (text ++ [c]) = trim text := by
  simp only [trim, trimStart, List.dropWhile_append]
  split
  · next hall => simp [trimEnd, h, List.isEmpty_iff.1 hall]
  · simp [trimEnd, h]

theorem trimStart_eq_self_iff {text : List Char} :
    trimStart text = text ↔ ∀ c ∈ text.head?, ¬ Unicode.isWhiteSpace c := by
  cases text with
  | nil => simp [trimStart]
  | cons c text => simp [trimStart, List.dropWhile_eq_self_iff]

theorem trimEnd_eq_self_iff {text : List Char} :
    trimEnd text = text ↔ ∀ c ∈ text.getLast?, ¬ Unicode.isWhiteSpace c := by
  have h := @trimStart_eq_self_iff text.reverse
  rw [List.head?_reverse] at h
  rw [← h, trimEnd, trimStart, List.reverse_eq_iff]

theorem trim_eq_self_iff {text : List Char} :
    trim text = text ↔ (∀ c ∈ text.head?, ¬ Unicode.isWhiteSpace c) ∧
      ∀ c ∈ text.getLast?, ¬ Unicode.isWhiteSpace c := by
  rw [← trimStart_eq_self_iff, ← trimEnd_eq_self_iff]
  constructor
  · intro h
    have hstart : trimStart text <:+ text := List.dropWhile_suffix _
    have hend : (trim text).length ≤ (trimStart text).length := by
      have := (List.dropWhile_suffix Unicode.isWhiteSpace (l := (trimStart text).reverse)).length_le
      simpa [trim, trimEnd] using this
    rw [h] at hend
    have heq := hstart.eq_of_length_le hend
    exact ⟨heq, by rwa [trim, heq] at h⟩
  · rintro ⟨hstart, hend⟩
    rw [trim, hstart, hend]

theorem isPrefix_trimEnd (text : List Char) : trimEnd text <+: text := List.rdropWhile_prefix _ _

theorem isInfix_trim (text : List Char) : trim text <:+: text :=
  (isPrefix_trimEnd _).isInfix.trans (List.dropWhile_suffix _).isInfix

theorem trim_trim (text : List Char) : trim (trim text) = trim text := by
  have hstart : ∀ c ∈ (trimStart text).head?, ¬ Unicode.isWhiteSpace c :=
    trimStart_eq_self_iff.1 (List.dropWhile_idempotent _ _)
  have hend : trimEnd (trim text) = trim text := List.rdropWhile_idempotent _ _
  refine trim_eq_self_iff.2 ⟨fun c hc => ?_, trimEnd_eq_self_iff.1 hend⟩
  -- a trimmed text begins with the character that follows the blanks at the beginning
  have hhead : (trimEnd (trimStart text)).head? = some c := hc
  obtain ⟨rest, hrest⟩ := isPrefix_trimEnd (trimStart text)
  refine hstart c ?_
  rw [← hrest, List.head?_append, hhead]
  rfl

theorem after?_eq_none_iff {start text : List Char} : after? start text = none ↔ ¬ start <+: text := by
  simp only [Option.eq_none_iff_forall_ne_some, ne_eq, after?_eq_some_iff, ← not_exists]
  exact not_congr (exists_congr fun _ => eq_comm)

theorem beginsWith_iff {start text : List Char} : beginsWith start text ↔ start <+: text := by
  rw [beginsWith, ← not_iff_not, ← after?_eq_none_iff, Bool.not_eq_true, Option.isSome_eq_false_iff,
    Option.isNone_iff_eq_none]

theorem breakAt_eq_none_iff {piece text : List Char} :
    breakAt piece text = none ↔ ¬ piece <:+: text := by
  induction text with
  | nil => simp [breakAt, List.isEmpty_iff]
  | cons c text ih =>
    rw [breakAt, List.infix_cons_iff, not_or, ← after?_eq_none_iff]
    split
    · next h => simp [h]
    · next h => simp [h, ih]

theorem contains_iff {piece text : List Char} : contains piece text ↔ piece <:+: text := by
  rw [contains, Option.isSome_iff_ne_none, ne_eq, breakAt_eq_none_iff, not_not]

/-- A text is broken at an occurrence if the piece does not occur before its own last character. -/
theorem breakAt_append {piece before : List Char} (hpiece : piece ≠ [])
    (h : ¬ piece <:+: before ++ piece.dropLast) (rest : List Char) :
    breakAt piece (before ++ piece ++ rest) = some (before, rest) := by
  induction before with
  | nil =>
    obtain ⟨c, piece, rfl⟩ := List.exists_cons_of_ne_nil hpiece
    have hafter : after? (c :: piece) (c :: piece ++ rest) = some rest := after?_eq_some_iff.2 rfl
    simp only [List.nil_append, List.cons_append, breakAt] at hafter ⊢
    rw [hafter]
  | cons c before ih =>
    rw [List.cons_append, List.infix_cons_iff, not_or] at h
    have hafter : after? piece (c :: (before ++ piece ++ rest)) = none := by
      refine after?_eq_none_iff.2 fun hbegins => h.1 ?_
      refine List.prefix_of_prefix_length_le hbegins ?_ (by simp; omega)
      have hlast : piece = piece.dropLast ++ [piece.getLast hpiece] :=
        (List.dropLast_concat_getLast hpiece).symm
      refine ⟨piece.getLast hpiece :: rest, ?_⟩
      conv_rhs => rw [hlast]
      simp
    rw [List.cons_append, List.cons_append, breakAt, hafter, ih h.2]
    rfl

theorem pair_infix_append_iff {a b : Char} {s t : List Char} :
    [a, b] <:+: s ++ t ↔ [a, b] <:+: s ∨ [a, b] <:+: t ∨ a ∈ s.getLast? ∧ b ∈ t.head? := by
  induction s with
  | nil => simp
  | cons c s ih =>
    rw [List.cons_append, List.infix_cons_iff, ih, List.infix_cons_iff]
    cases s with
    | nil =>
      have hborder : [a, b] <+: c :: t ↔ c = a ∧ b ∈ t.head? := by
        cases t with
        | nil => simp
        | cons d t => simp [eq_comm]
      simp [hborder, or_comm]
    | cons d s => simp [List.getLast?_cons_cons, or_assoc]

theorem not_pair_infix_singleton {a b c : Char} : ¬ [a, b] <:+: [c] :=
  fun h => by simpa using h.length_le

theorem splitAtPair_cons {a b c : Char} {text part : List Char} {parts : List (List Char)}
    (h : ¬ [a, b] <+: c :: text) (htext : text ≠ []) (hparts : splitAtPair a b text = part :: parts) :
    splitAtPair a b (c :: text) = (c :: part) :: parts := by
  obtain ⟨d, text, rfl⟩ := List.exists_cons_of_ne_nil htext
  have hpair : ¬ (c = a ∧ d = b) := by
    rintro ⟨rfl, rfl⟩
    exact h ⟨text, rfl⟩
  rw [splitAtPair, if_neg hpair, hparts]

theorem splitAtPair_eq_singleton {a b : Char} {text : List Char} (h : ¬ [a, b] <:+: text) :
    splitAtPair a b text = [text] := by
  induction text with
  | nil => rfl
  | cons c text ih =>
    rw [List.infix_cons_iff, not_or] at h
    cases text with
    | nil => rfl
    | cons d text => exact splitAtPair_cons h.1 (List.cons_ne_nil d text) (ih h.2)

theorem splitAtPair_append {a b : Char} {before : List Char} (h : ¬ [a, b] <:+: before ++ [a])
    (rest : List Char) :
    splitAtPair a b (before ++ a :: b :: rest) = before :: splitAtPair a b rest := by
  induction before with
  | nil => simp [splitAtPair]
  | cons c before ih =>
    rw [List.cons_append, List.infix_cons_iff, not_or] at h
    refine splitAtPair_cons (fun hbegins => h.1 ?_) (by simp) (ih h.2)
    exact List.prefix_of_prefix_length_le hbegins ⟨b :: rest, by simp⟩ (by simp)

theorem dropReturn_eq_self {line : List Char} (h : '\r' ∉ line) : dropReturn line = line := by
  rw [dropReturn]
  split
  · next rest hreverse =>
    have hmem : '\r' ∈ line.reverse := by rw [hreverse]; exact List.mem_cons_self
    exact absurd (List.mem_reverse.1 hmem) h
  · rfl

theorem lines_go_append {line : List Char} (h : '\n' ∉ line) (before rest : List Char) :
    lines.go before (line ++ rest) = lines.go (line.reverse ++ before) rest := by
  induction line generalizing before with
  | nil => rfl
  | cons c line ih =>
    obtain ⟨hc, hline⟩ := not_or.1 (fun hor => h (List.mem_cons.2 hor))
    rw [List.cons_append, lines.go, ih hline, List.reverse_cons, List.append_assoc]
    · rfl
    · exact fun heq => hc heq.symm

theorem join_cons_cons (separator text next : List Char) (texts : List (List Char)) :
    join separator (text :: next :: texts) = text ++ separator ++ join separator (next :: texts) := rfl

theorem join_cons (separator text : List Char) (texts : List (List Char)) :
    join separator (text :: texts) = text ++ texts.flatMap (separator ++ ·) := by
  induction texts generalizing text with
  | nil => simp [join]
  | cons next texts ih => rw [join_cons_cons, ih, List.flatMap_cons]; simp

theorem length_le_of_mem_join (separator : List Char) {text : List Char} {texts : List (List Char)}
    (h : text ∈ texts) : text.length ≤ (join separator texts).length := by
  induction texts with
  | nil => cases h
  | cons first texts ih =>
    cases texts with
    | nil =>
      rw [List.mem_singleton.1 h]
      exact Nat.le_refl _
    | cons next texts =>
      rw [join_cons_cons, List.length_append, List.length_append]
      rcases List.mem_cons.1 h with rfl | h
      · omega
      · have := ih h
        omega

theorem length_le_length_join {separator : List Char} (h : separator ≠ []) (texts : List (List Char)) :
    texts.length ≤ (join separator texts).length + 1 := by
  have hseparator := List.length_pos_iff.2 h
  induction texts with
  | nil => exact Nat.zero_le _
  | cons first texts ih =>
    cases texts with
    | nil => exact Nat.le_add_left _ _
    | cons next texts =>
      rw [join_cons_cons, List.length_append, List.length_append, List.length_cons]
      omega

theorem exists_join_concat (separator text : List Char) (texts : List (List Char)) :
    ∃ front, join separator (texts ++ [text]) = front ++ text := by
  cases texts with
  | nil => exact ⟨[], rfl⟩
  | cons first texts =>
    rw [List.cons_append, join_cons, List.flatMap_append, List.flatMap_singleton]
    exact ⟨first ++ (texts.flatMap (separator ++ ·) ++ separator), by simp⟩

theorem trim_join {texts : List (List Char)} (h : ∀ t ∈ texts, t ≠ [] ∧ trim t = t)
    (separator : List Char) : trim (join separator texts) = join separator texts := by
  rw [trim_eq_self_iff]
  constructor
  · cases texts with
    | nil => simp [join]
    | cons first texts =>
      obtain ⟨hne, htrim⟩ := h first List.mem_cons_self
      rw [join_cons, List.head?_append_of_ne_nil _ hne]
      exact (trim_eq_self_iff.1 htrim).1
  · rcases List.eq_nil_or_concat' texts with rfl | ⟨others, last, rfl⟩
    · simp [join]
    · obtain ⟨hne, htrim⟩ := h last (by simp)
      obtain ⟨front, hfront⟩ := exists_join_concat separator last others
      rw [hfront, List.getLast?_append_of_ne_nil _ hne]
      exact (trim_eq_self_iff.1 htrim).2

/-- Joined lines, with or without a newline after the last one, are found again. -/
theorem lines_join {texts : List (List Char)} {ending : List Char} (hne : texts ≠ [])
    (h : ∀ line ∈ texts, line ≠ [] ∧ '\n' ∉ line ∧ '\r' ∉ line)
    (hending : ending = [] ∨ ending = ['\n']) : lines (join ['\n'] texts ++ ending) = texts := by
  induction texts with
  | nil => exact absurd rfl hne
  | cons line texts ih =>
    obtain ⟨⟨hline, hnewline, hreturn⟩, htexts⟩ := List.forall_mem_cons.1 h
    cases texts with
    | nil =>
      rw [join, lines, lines_go_append hnewline]
      rcases hending with rfl | rfl
      · simp [lines.go, hline]
      · simp [lines.go, dropReturn_eq_self hreturn]
    | cons next texts =>
      have ih := ih (List.cons_ne_nil next texts) htexts
      rw [join_cons_cons, lines, List.append_assoc, List.append_assoc, lines_go_append hnewline]
      have hgo : lines.go (line.reverse ++ []) (['\n'] ++ (join ['\n'] (next :: texts) ++ ending)) =
          dropReturn line :: lines (join ['\n'] (next :: texts) ++ ending) := by
        simp [lines.go, lines]
      rw [hgo, ih, dropReturn_eq_self hreturn]

end RecordFlow.Text
