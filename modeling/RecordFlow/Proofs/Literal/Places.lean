import RecordFlow.Proofs.Literal.Continuation

/-! # Places of values

A value is a member's value or an item of one. What is read of a text up to a place where
a number begins is settled by what stands before it, so reading goes on with the result of
reading that number, whatever follows.
-/

namespace RecordFlow.Literal

open Grammar

/-- Blanks and closed comments. -/
def Grammar.Gap (gap : List Char) : Prop := ∀ rest, Trivia (gap ++ rest) rest

def BeginsNumber (text : List Char) : Prop := ∃ c ∈ text.head?, c = '-' ∨ isDecimalDigit c

theorem BeginsNumber.head {text : List Char} (h : BeginsNumber text) :
    ∃ c rest, text = c :: rest ∧ c ≠ '/' ∧ c ≠ '[' ∧ c ≠ ']' ∧ ¬ Unicode.isWhiteSpace c := by
  obtain ⟨c, hc, hstart⟩ := h
  have hscalar : ScalarStart c := .number (hstart.imp_right .inr)
  cases text with
  | nil => cases hc
  | cons d rest =>
    obtain rfl : d = c := by simpa using hc
    refine ⟨d, rest, rfl, ?_, hscalar.ne_bracket.1, hscalar.ne_bracket.2, hscalar.not_isWhiteSpace⟩
    rintro rfl
    rcases hstart with hminus | hdigit
    · cases hminus
    · exact absurd hdigit (by decide)

theorem Grammar.Gap.skipTrivia_eq {gap value : List Char} (h : Gap gap) (hvalue : BeginsNumber value) :
    skipTrivia (gap ++ value) = .ok value := by
  obtain ⟨c, rest, rfl, hslash, -, -, hblank⟩ := hvalue.head
  exact (h _).skipTrivia_cons hslash hblank

theorem map_bind {ε α β γ : Type} (x : Except ε α) (f : α → Except ε β) (g : β → γ) :
    (x.bind f).map g = x.bind fun a => (f a).map g := by
  cases x <;> rfl

theorem bind_map {ε α β γ : Type} (x : Except ε α) (f : α → β) (g : β → Except ε γ) :
    (x.map f).bind g = x.bind fun a => g (f a) := by
  cases x <;> rfl

variable [Engine]

namespace Grammar

/-- What may stand between the opening bracket of an array, or a comma in it, and an item. -/
inductive ItemPlace : List Char → Prop where

  | here {gap : List Char} : Gap gap → ItemPlace gap

  | later {gap item next more : List Char} {s : Scalar} : Gap gap → ScalarAt OnOneLine item next s →
      Trivia next (',' :: more) → ItemPlace more → ItemPlace (gap ++ item)

/-- What may stand between the opening brace of an object, or a comma in it, and a value that is no array. -/
inductive ValuePlace : List Char → Prop where

  | here {gap key next gap' : List Char} : Gap gap → Identifier key → WordEnd next → Trivia next (':' :: gap') →
      Gap gap' → ValuePlace (gap ++ (key ++ next))

  | item {gap key next afterColon items : List Char} : Gap gap → Identifier key → WordEnd next →
      Trivia next (':' :: afterColon) → Trivia afterColon ('[' :: items) → ItemPlace items →
      ValuePlace (gap ++ (key ++ next))

  | later {gap member next more : List Char} {m : String × Literal} : Gap gap → MemberAt OnOneLine member next m →
      Trivia next (',' :: more) → ValuePlace more → ValuePlace (gap ++ member)

/-- What may stand before a value that is no array in an object literal. -/
inductive Place : List Char → Prop where

  | mk {gap inside : List Char} : Gap gap → ValuePlace inside → Place (gap ++ '\x7b' :: inside)

end Grammar

def itemsBehind : Scalar × List Char → Reading (List Scalar)
  | (item, rest) =>
    match skipTrivia rest with
    | .error e => .error e
    | .ok [] => .error ⟨.missingBracket, []⟩
    | .ok (c :: rest) =>
      if c = ',' then (readItems rest).map fun (items, rest) => (item :: items, rest)
      else if c = ']' then .ok ([item], rest)
      else .error ⟨.noCommaOrBracket c, rest⟩

def membersBehind : (String × Literal) × List Char → Reading (List (String × Literal))
  | (member, rest) =>
    match skipTrivia rest with
    | .error e => .error e
    | .ok [] => .error ⟨.missingBrace, []⟩
    | .ok (c :: rest) =>
      if c = ',' then (readMembers rest).map fun (members, rest) => (member :: members, rest)
      else if c = '\x7d' then .ok ([member], rest)
      else .error ⟨.noCommaOrBrace c, rest⟩

theorem readItems_eq_bind {text value : List Char} (h : skipTrivia text = .ok value) (hhead : ']' ∉ value.head?) :
    readItems text = (readScalar value).bind itemsBehind := by
  rw [readItems.eq_def]
  split
  · simp_all
  · next heq =>
    cases heq.symm.trans h
    exact absurd rfl hhead
  · next heq =>
    cases heq.symm.trans h
    cases readScalar value with
    | error => rfl
    | ok read =>
      obtain ⟨item, rest⟩ := read
      simp only [Except.bind, itemsBehind]
      cases skipTrivia rest with
      | error => rfl
      | ok more => cases more <;> rfl

theorem readMembers_eq_bind {text value : List Char} (h : skipTrivia text = .ok value)
    (hhead : '\x7d' ∉ value.head?) : readMembers text = (readMember value).bind membersBehind := by
  rw [readMembers.eq_def]
  split
  · simp_all
  · next heq =>
    cases heq.symm.trans h
    exact absurd rfl hhead
  · next heq =>
    cases heq.symm.trans h
    cases readMember value with
    | error => rfl
    | ok read =>
      obtain ⟨member, rest⟩ := read
      simp only [Except.bind, membersBehind]
      cases skipTrivia rest with
      | error => rfl
      | ok more => cases more <;> rfl

theorem Grammar.ItemPlace.exists_readItems {before : List Char} (h : ItemPlace before) :
    ∃ next : Scalar × List Char → Reading (List Scalar),
      ∀ value, BeginsNumber value → readItems (before ++ value) = (readScalar value).bind next := by
  induction h with
  | here hgap =>
    refine ⟨itemsBehind, fun value hvalue => readItems_eq_bind (hgap.skipTrivia_eq hvalue) ?_⟩
    obtain ⟨c, rest, rfl, -, -, hbracket, -⟩ := hvalue.head
    simpa using hbracket
  | @later gap item comma more s hgap hitem hcomma _ ih =>
    obtain ⟨next, ih⟩ := ih
    refine ⟨fun read => (next read).map fun (items, rest) => (s :: items, rest), fun value hvalue => ?_⟩
    have hitem := hitem.append hcomma.ne_nil value
    have hcomma : Trivia (comma ++ value) (',' :: (more ++ value)) := hcomma.append (List.cons_ne_nil _ _) value
    rw [List.append_assoc, readItems_item (hitem.skipTrivia_eq (hgap _)) hitem.bracket_not_mem_head.1
      (hitem.readScalar_eq (hcomma.point_not_mem_head (by decide)))
      (hcomma.skipTrivia_cons (by decide) (by decide)), if_pos rfl, ih value hvalue, map_bind]

theorem readMember_key {key next colon value : List Char} (hkey : Identifier key) (hend : WordEnd next)
    (hnext : skipTrivia next = .ok (':' :: colon)) (hvalue : skipTrivia colon = .ok value) :
    readMember (key ++ next) =
      (readValue value).map fun (v, rest) => ((String.ofList key, v), rest) := by
  obtain ⟨c, hc, hstart, -⟩ := hkey.start
  have hread : readKey (key ++ next) = .ok (String.ofList key, next) :=
    readKey_eq_ok_iff.mpr ⟨by simp, ⟨c, by simpa using hc, hstart⟩, by simpa using hkey.parts, hend⟩
  simp only [readMember, hread, hnext, expect_self, hvalue]

theorem readMembers_key {gap key next colon value : List Char} (hgap : Gap gap) (hkey : Identifier key)
    (hend : WordEnd next) (hnext : skipTrivia next = .ok (':' :: colon)) (hvalue : skipTrivia colon = .ok value) :
    readMembers (gap ++ (key ++ next)) =
      (readValue value).bind fun (v, rest) => membersBehind ((String.ofList key, v), rest) := by
  obtain ⟨c, hc, hstart, hblank⟩ := hkey.start
  obtain ⟨tail, rfl⟩ : ∃ tail, key = c :: tail := by
    cases key with
    | nil => cases hc
    | cons d tail => exact ⟨tail, by simpa using hc⟩
  have hne : ∀ d : Char, ¬ isIdentifierStart d → c ≠ d := by
    rintro d hd rfl
    exact hd hstart
  have hskip : skipTrivia (gap ++ (c :: tail ++ next)) = .ok (c :: tail ++ next) :=
    (hgap _).skipTrivia_cons (hne _ (by decide)) hblank
  have hbrace : c ≠ '\x7d' := hne _ (by decide)
  rw [readMembers_eq_bind hskip (by simpa using hbrace), readMember_key hkey hend hnext hvalue, bind_map]

theorem BeginsNumber.readValue_eq {value : List Char} (h : BeginsNumber value) :
    readValue value = (readScalar value).map fun (s, rest) => (.scalar s, rest) := by
  obtain ⟨c, rest, rfl, -, hbracket, -, -⟩ := h.head
  exact readValue.eq_2 _ fun inside heq => hbracket (List.cons.inj heq).1

theorem Grammar.ValuePlace.exists_readMembers {before : List Char} (h : ValuePlace before) :
    ∃ next : Scalar × List Char → Reading (List (String × Literal)),
      ∀ value, BeginsNumber value → readMembers (before ++ value) = (readScalar value).bind next := by
  induction h with
  | @here gap key next gap' hgap hkey hend hnext hgap' =>
    refine ⟨fun (s, rest) => membersBehind ((String.ofList key, .scalar s), rest), fun value hvalue => ?_⟩
    have hnext' := hnext.append (List.cons_ne_nil _ _) value
    rw [List.append_assoc, List.append_assoc, readMembers_key hgap hkey (hend.append hnext.ne_nil value)
      (hnext'.skipTrivia_cons (by decide) (by decide)) (hgap'.skipTrivia_eq hvalue), hvalue.readValue_eq, bind_map]
  | @item gap key next afterColon items hgap hkey hend hnext hafter hitems =>
    obtain ⟨nextItem, hread⟩ := hitems.exists_readItems
    refine ⟨fun read => (nextItem read).bind fun (items, rest) =>
      membersBehind ((String.ofList key, .array items), rest), fun value hvalue => ?_⟩
    have hnext' := hnext.append (List.cons_ne_nil _ _) value
    have hafter' : Trivia (afterColon ++ value) ('[' :: (items ++ value)) :=
      hafter.append (List.cons_ne_nil _ _) value
    rw [List.append_assoc, List.append_assoc, readMembers_key hgap hkey (hend.append hnext.ne_nil value)
      (hnext'.skipTrivia_cons (by decide) (by decide)) (hafter'.skipTrivia_cons (by decide) (by decide)),
      readValue, hread value hvalue, bind_map]
    cases readScalar value <;> rfl
  | @later gap member comma more m hgap hm hcomma _ ih =>
    obtain ⟨next, ih⟩ := ih
    refine ⟨fun read => (next read).map fun (members, rest) => (m :: members, rest), fun value hvalue => ?_⟩
    have hcomma' : Trivia (comma ++ value) (',' :: (more ++ value)) := hcomma.append (List.cons_ne_nil _ _) value
    rw [List.append_assoc, (hm.append hcomma.ne_nil value).readMembers_eq (hgap _) hcomma' (.inl rfl), if_pos rfl,
      ih value hvalue, map_bind]

/-- Reading a text goes on with what is read of the number that begins at a place. -/
theorem Grammar.Place.exists_readText {before : List Char} (h : Place before) :
    ∃ next : Scalar × List Char → Except Failure (List (String × Literal)),
      ∀ value, BeginsNumber value → readText (before ++ value) = (readScalar value).bind next := by
  obtain @⟨gap, inside, hgap, hplace⟩ := h
  obtain ⟨next, hread⟩ := hplace.exists_readMembers
  refine ⟨fun read => (next read).bind fun (members, rest) =>
    match skipTrivia rest with
    | .error e => .error e
    | .ok [] => .ok members
    | .ok (c :: rest) => .error ⟨.afterObject c, c :: rest⟩, fun value hvalue => ?_⟩
  have hskip : skipTrivia (gap ++ '\x7b' :: (inside ++ value)) = .ok ('\x7b' :: (inside ++ value)) :=
    (hgap _).skipTrivia_cons (by decide) (by decide)
  rw [List.append_assoc, List.cons_append]
  simp only [readText, readObject, hskip, expect_self, hread value hvalue]
  cases readScalar value with
  | error => rfl
  | ok read =>
    simp only [Except.bind]
    cases next read <;> rfl

end RecordFlow.Literal
