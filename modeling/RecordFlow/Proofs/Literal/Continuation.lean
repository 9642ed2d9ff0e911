import RecordFlow.Proofs.Literal.Objects

/-! # Derivations and the text around them

What a derivation leaves is the end of its text. A derivation that leaves something does
not look further: it also holds with more text behind. Nothing in an object goes on
behind a newline but blanks and block comments, and these do not end with a brace.
-/

namespace RecordFlow.Literal.Grammar

variable {sourceChar : Char → Prop} {text rest : List Char}

theorem Trivia.append (h : Trivia text rest) (hrest : rest ≠ []) (more : List Char) :
    Trivia (text ++ more) (rest ++ more) := by
  induction h with
  | nil => exact .nil _
  | blank hc _ ih => exact .blank hc (ih hrest)
  | line hcomment _ ih =>
    rw [List.append_assoc, List.cons_append, List.cons_append, List.cons_append]
    exact .line hcomment (ih hrest)
  | lastLine => exact absurd rfl hrest
  | block hcomment _ ih =>
    rw [List.append_assoc, List.cons_append, List.cons_append, List.cons_append, List.cons_append]
    exact .block hcomment (ih hrest)

theorem Trivia.ne_nil {c : Char} (h : Trivia text (c :: rest)) : text ≠ [] := by
  rintro rfl
  cases h

theorem WordEnd.append (h : WordEnd rest) (hrest : rest ≠ []) (more : List Char) :
    WordEnd (rest ++ more) := by
  rwa [WordEnd, List.head?_append_of_ne_nil _ hrest]

theorem Trivia.isSuffix (h : Trivia text rest) : rest <:+ text := by
  induction h with
  | nil => exact List.suffix_rfl
  | blank _ _ ih => exact ih.trans (List.suffix_cons _ _)
  | line _ _ ih => exact ih.trans ⟨_, (List.append_cons _ _ _).symm⟩
  | lastLine => exact List.nil_suffix
  | @block comment _ _ _ _ ih => exact ih.trans ⟨'/' :: '*' :: comment ++ ['*', '/'], by simp⟩

/-- A line that is a closing brace and nothing else ends the text. -/
def EndsWithBrace (text : List Char) : Prop := ['\n', '\x7d'] <:+ '\n' :: text

theorem EndsWithBrace.of_suffix (h : EndsWithBrace text) (hrest : rest <:+ text) (hne : rest ≠ []) :
    EndsWithBrace rest := by
  have hrest' : rest <:+ '\n' :: text := hrest.trans (List.suffix_cons _ _)
  match rest with
  | [] => exact absurd rfl hne
  | [c] =>
    obtain ⟨before, heq⟩ := h
    obtain ⟨before', heq'⟩ := hrest'
    have heq : before ++ ['\n'] ++ ['\x7d'] = before' ++ [c] := by simpa [heq'] using heq
    rw [← (List.append_inj' heq rfl).2]
    exact List.suffix_rfl
  | c :: d :: more =>
    exact (List.suffix_of_suffix_length_le h hrest' (by simp)).trans (List.suffix_cons _ _)

theorem EndsWithBrace.of_append {front : List Char} {c : Char} (h : EndsWithBrace (front ++ c :: text))
    (hc : c ≠ '\x7d') : EndsWithBrace text := by
  have hsuffix : c :: text <:+ front ++ c :: text := List.suffix_append _ _
  by_cases hne : text = []
  · subst hne
    have hbrace : EndsWithBrace [c] := h.of_suffix hsuffix (List.cons_ne_nil _ _)
    have heq : ['\n', '\x7d'] = ['\n', c] := hbrace.eq_of_length rfl
    exact absurd (by simpa using heq.symm) hc
  · exact h.of_suffix ((List.suffix_cons _ _).trans hsuffix) hne

/-- Blanks and comments do not go on to a brace that stands at the start of a line. -/
theorem EndsWithBrace.not_trivia (hbrace : EndsWithBrace text) : ¬ Trivia text [] := by
  intro h
  generalize hrest : [] = rest at h
  induction h with
  | nil =>
    subst hrest
    exact absurd hbrace.length_le (by decide)
  | @blank c text rest hc _ ih =>
    have hbrace : EndsWithBrace ([] ++ c :: text) := hbrace
    refine ih (hbrace.of_append ?_) hrest
    rintro rfl
    exact absurd hc (by decide)
  | line _ _ ih => exact ih (hbrace.of_append (by decide)) hrest
  | @lastLine comment hcomment =>
    rcases List.suffix_cons_iff.1 hbrace with heq | hbrace
    · cases heq
    · have hmem : '\n' ∈ '/' :: '/' :: comment := hbrace.subset (by simp)
      exact hcomment (by simpa using hmem)
  | @block comment text _ _ _ ih =>
    rw [List.append_cons _ '*'] at hbrace
    exact ih (hbrace.of_append (by decide)) hrest

variable [Engine]

/-- A scalar that something follows does not depend on what comes later. -/
theorem ScalarAt.append {s : Scalar} (h : ScalarAt sourceChar text rest s) (hrest : rest ≠ [])
    (more : List Char) : ScalarAt sourceChar (text ++ more) (rest ++ more) s := by
  cases h with
  | string hquote hbody =>
    rw [List.append_assoc, List.cons_append]
    exact .string hquote hbody
  | number hnumber hend =>
    rw [List.append_assoc]
    exact .number hnumber (hend.append hrest more)
  | boolean b hend =>
    rw [List.append_assoc]
    exact .boolean b (hend.append hrest more)
  | pattern hne hstar hs hline hend =>
    rw [List.append_assoc]
    exact .pattern hne hstar hs hline (hend.append hrest more)

theorem ScalarAt.ne_nil {s : Scalar} (h : ScalarAt sourceChar text rest s) : text ≠ [] := by
  obtain ⟨c, hc, -⟩ := h.head
  rintro rfl
  cases hc

theorem ItemsAt.append {items : List Scalar} (h : ItemsAt sourceChar text rest items)
    (more : List Char) : ItemsAt sourceChar (text ++ more) (rest ++ more) items := by
  induction h with
  | nil h => exact .nil (h.append (List.cons_ne_nil _ _) more)
  | last hvalue hitem hnext =>
    exact .last (hvalue.append hitem.ne_nil more) (hitem.append hnext.ne_nil more)
      (hnext.append (List.cons_ne_nil _ _) more)
  | cons hvalue hitem hnext _ ih =>
    exact .cons (hvalue.append hitem.ne_nil more) (hitem.append hnext.ne_nil more)
      (hnext.append (List.cons_ne_nil _ _) more) ih

theorem ValueAt.ne_nil {v : Literal} (h : ValueAt sourceChar text rest v) : text ≠ [] := by
  cases h with
  | scalar hs => exact hs.ne_nil
  | array => exact List.cons_ne_nil _ _

theorem ValueAt.append {v : Literal} (h : ValueAt sourceChar text rest v) (hrest : rest ≠ [])
    (more : List Char) : ValueAt sourceChar (text ++ more) (rest ++ more) v := by
  cases h with
  | scalar hs => exact .scalar (hs.append hrest more)
  | array hitems => exact .array (hitems.append more)

theorem MemberAt.ne_nil {m : String × Literal} (h : MemberAt sourceChar text rest m) :
    text ≠ [] := by
  cases h with
  | mk _ _ hcolon => exact List.append_ne_nil_of_right_ne_nil _ hcolon.ne_nil

theorem MemberAt.append {m : String × Literal} (h : MemberAt sourceChar text rest m)
    (hrest : rest ≠ []) (more : List Char) :
    MemberAt sourceChar (text ++ more) (rest ++ more) m := by
  cases h with
  | mk hkey hend hcolon hvalue hv =>
    rw [List.append_assoc]
    exact .mk hkey (hend.append hcolon.ne_nil more) (hcolon.append (List.cons_ne_nil _ _) more)
      (hvalue.append hv.ne_nil more) (hv.append hrest more)

theorem MembersAt.append {members : List (String × Literal)}
    (h : MembersAt sourceChar text rest members) (more : List Char) :
    MembersAt sourceChar (text ++ more) (rest ++ more) members := by
  induction h with
  | nil h => exact .nil (h.append (List.cons_ne_nil _ _) more)
  | last hmember hm hnext =>
    exact .last (hmember.append hm.ne_nil more) (hm.append hnext.ne_nil more)
      (hnext.append (List.cons_ne_nil _ _) more)
  | cons hmember hm hnext _ ih =>
    exact .cons (hmember.append hm.ne_nil more) (hm.append hnext.ne_nil more)
      (hnext.append (List.cons_ne_nil _ _) more) ih

theorem ScalarAt.isSuffix {s : Scalar} (h : ScalarAt sourceChar text rest s) : rest <:+ text := by
  cases h with
  | string => exact (List.suffix_cons _ _).trans (List.suffix_append _ _)
  | number => exact List.suffix_append _ _
  | boolean => exact List.suffix_append _ _
  | pattern => exact List.suffix_append _ _

theorem ItemsAt.isSuffix {items : List Scalar} (h : ItemsAt sourceChar text rest items) :
    rest <:+ text := by
  induction h with
  | nil h => exact (List.suffix_cons _ _).trans h.isSuffix
  | last hvalue hitem hnext =>
    exact (List.suffix_cons _ _).trans <| hnext.isSuffix.trans <| hitem.isSuffix.trans hvalue.isSuffix
  | cons hvalue hitem hnext _ ih =>
    exact ih.trans <| (List.suffix_cons _ _).trans <|
      hnext.isSuffix.trans <| hitem.isSuffix.trans hvalue.isSuffix

theorem ValueAt.isSuffix {v : Literal} (h : ValueAt sourceChar text rest v) : rest <:+ text := by
  cases h with
  | scalar hs => exact hs.isSuffix
  | array hitems => exact hitems.isSuffix.trans (List.suffix_cons _ _)

theorem MemberAt.isSuffix {m : String × Literal} (h : MemberAt sourceChar text rest m) :
    rest <:+ text := by
  cases h with
  | mk _ _ hcolon hvalue hv =>
    exact hv.isSuffix.trans <| hvalue.isSuffix.trans <| (List.suffix_cons _ _).trans <|
      hcolon.isSuffix.trans (List.suffix_append _ _)

theorem MembersAt.isSuffix {members : List (String × Literal)}
    (h : MembersAt sourceChar text rest members) : '\x7d' :: rest <:+ text := by
  induction h with
  | nil h => exact h.isSuffix
  | last hmember hm hnext => exact hnext.isSuffix.trans (hm.isSuffix.trans hmember.isSuffix)
  | cons hmember hm hnext _ ih =>
    exact ih.trans <| (List.suffix_cons _ _).trans <|
      hnext.isSuffix.trans <| hm.isSuffix.trans hmember.isSuffix

/-- An object is closed in one place only. -/
theorem MembersAt.unique {rest' : List Char} {members members' : List (String × Literal)}
    (h : MembersAt OnOneLine text rest members) (h' : MembersAt OnOneLine text rest' members') :
    members = members' ∧ rest = rest' :=
  Prod.mk.inj (Except.ok.inj (h.readMembers_eq.symm.trans h'.readMembers_eq))

theorem sentence_brace_iff {inside : List Char} {members : List (String × Literal)} :
    Sentence sourceChar ('\x7b' :: inside) members ↔
      ∃ rest, MembersAt sourceChar inside rest members ∧ Trivia rest [] := by
  constructor
  · rintro ⟨hstart, hmembers, hend⟩
    have hskip := hstart.skipTrivia_cons (by decide) (by decide)
    rw [(Trivia.nil ('\x7b' :: inside)).skipTrivia_cons (by decide) (by decide)] at hskip
    cases hskip
    exact ⟨_, hmembers, hend⟩
  · rintro ⟨rest, hmembers, hend⟩
    exact .mk (.nil _) hmembers hend

end RecordFlow.Literal.Grammar
