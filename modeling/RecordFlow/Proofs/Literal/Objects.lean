import RecordFlow.Proofs.Dict
import RecordFlow.Proofs.Literal.Scalars
import RecordFlow.Regex.Engine

/-! # Object literals are the sentences of the grammar

The readers of arrays, members and objects follow the grammar item by item and
member by member. A text is therefore read if and only if it is a sentence, and
what is read is the map that the sentence denotes.
-/

namespace RecordFlow.Literal

open Grammar

/-- Behind a value there is a blank, a comment or the next token, hence no point. -/
theorem Grammar.Trivia.point_not_mem_head {c : Char} {text rest : List Char}
    (h : Trivia text (c :: rest)) (hc : c ≠ '.') : '.' ∉ text.head? := by
  intro hmem
  rcases h.head hmem with hd | hd | hd
  · exact hc hd.symm
  · exact absurd hd (by decide)
  · cases hd

theorem readKey_eq_ok_iff {key : String} {text rest : List Char} :
    readKey text = .ok (key, rest) ↔
      text = key.toList ++ rest ∧ (∃ c ∈ key.toList.head?, isIdentifierStart c) ∧
        (∀ c ∈ key.toList, isIdentifierPart c) ∧ WordEnd rest := by
  have hpart : ∀ c, isIdentifierStart c → isIdentifierPart c := by
    intro c hc
    simp only [isIdentifierStart, isIdentifierPart, Unicode.isAlphanumeric, Bool.or_eq_true] at hc ⊢
    rcases hc with (h | h) | h
    · exact .inl (.inl (.inl h))
    · exact .inl (.inr h)
    · exact .inr h
  constructor
  · intro h
    cases text with
    | nil => cases h
    | cons c text =>
      simp only [readKey] at h
      split at h
      · next hstart =>
        obtain ⟨hkey, hrest⟩ := Prod.mk.inj (Except.ok.inj h)
        obtain ⟨htext, hparts, hend⟩ := Text.takeWhile_dropWhile_iff.mp ⟨rfl, hrest⟩
        rw [← hkey, String.toList_ofList]
        refine ⟨htext, ⟨c, ?_, hstart⟩, hparts, hend⟩
        rw [List.takeWhile_cons_of_pos (hpart c hstart)]
        rfl
      · cases h
  · rintro ⟨rfl, ⟨c, hc, hstart⟩, hparts, hend⟩
    have htake := Text.takeWhile_run hparts hend
    have hdrop := Text.dropWhile_run hparts hend
    obtain ⟨text, htext⟩ : ∃ text, key.toList ++ rest = c :: text := by
      cases hkey : key.toList with
      | nil => simp [hkey] at hc
      | cons d tail => exact ⟨tail ++ rest, by simpa [hkey] using hc⟩
    rw [htext] at htake hdrop ⊢
    simp only [readKey, if_pos hstart, htake, hdrop, String.ofList_toList]

variable [Engine]

theorem readItems_nil {text rest : List Char} (h : skipTrivia text = .ok (']' :: rest)) :
    readItems text = .ok ([], rest) := by
  rw [readItems.eq_def]
  split <;> simp_all

theorem readItems_item {text value next more : List Char} {item : Scalar} {c : Char}
    (hvalue : skipTrivia text = .ok value) (hhead : ']' ∉ value.head?)
    (hitem : readScalar value = .ok (item, next)) (hnext : skipTrivia next = .ok (c :: more)) :
    readItems text =
      if c = ',' then (readItems more).map fun (items, rest) => (item :: items, rest)
      else if c = ']' then .ok ([item], more)
      else .error ⟨.noCommaOrBracket c, more⟩ := by
  rw [readItems.eq_def]
  split
  · simp_all
  · next heq =>
    cases heq.symm.trans hvalue
    exact absurd rfl hhead
  · split
    · simp_all
    · split <;> simp_all

theorem itemsAt_of_readItems {text rest : List Char} {items : List Scalar}
    (h : readItems text = .ok (items, rest)) : ItemsAt OnOneLine text rest items := by
  fun_induction readItems text generalizing items with
  | case1 => cases h
  | case2 text rest' hskip => cases h; exact .nil (trivia_of_skipTrivia hskip)
  | case3 => cases h
  | case4 => cases h
  | case5 => cases h
  | case6 text value _ hvalue item next hitem more hnext ih =>
    obtain ⟨⟨items', rest'⟩, hread, heq⟩ := map_eq_ok h
    cases heq
    exact .cons (trivia_of_skipTrivia hvalue)
      (scalarAt_of_readScalar (beginsToken_of_skipTrivia hvalue) hitem) (trivia_of_skipTrivia hnext) (ih hread)
  | case7 text value _ hvalue item next hitem more hnext _ =>
    cases h
    exact .last (trivia_of_skipTrivia hvalue)
      (scalarAt_of_readScalar (beginsToken_of_skipTrivia hvalue) hitem) (trivia_of_skipTrivia hnext)
  | case8 => cases h

theorem Grammar.ScalarAt.bracket_not_mem_head {text rest : List Char} {s : Scalar}
    (h : ScalarAt OnOneLine text rest s) : ']' ∉ text.head? ∧ '[' ∉ text.head? := by
  obtain ⟨c, hc, hstart⟩ := h.head
  rw [Option.mem_def.mp hc]
  exact ⟨fun hd => hstart.ne_bracket.2 (by simpa using hd),
    fun hd => hstart.ne_bracket.1 (by simpa using hd)⟩

theorem Grammar.ItemsAt.readItems_eq {text rest : List Char} {items : List Scalar}
    (h : ItemsAt OnOneLine text rest items) : readItems text = .ok (items, rest) := by
  induction h with
  | nil h => exact readItems_nil (h.skipTrivia_cons (by decide) (by decide))
  | last hvalue hitem hnext =>
    rw [readItems_item (hitem.skipTrivia_eq hvalue) hitem.bracket_not_mem_head.1
      (hitem.readScalar_eq (hnext.point_not_mem_head (by decide)))
      (hnext.skipTrivia_cons (by decide) (by decide))]
    rfl
  | cons hvalue hitem hnext _ ih =>
    rw [readItems_item (hitem.skipTrivia_eq hvalue) hitem.bracket_not_mem_head.1
      (hitem.readScalar_eq (hnext.point_not_mem_head (by decide)))
      (hnext.skipTrivia_cons (by decide) (by decide)), if_pos rfl, ih]
    rfl

theorem valueAt_of_readValue {text rest : List Char} {v : Literal} (hbegins : BeginsToken text)
    (h : readValue text = .ok (v, rest)) : ValueAt OnOneLine text rest v := by
  by_cases hopen : ∃ inside, text = '[' :: inside
  · obtain ⟨inside, rfl⟩ := hopen
    obtain ⟨⟨items, rest'⟩, hread, heq⟩ := map_eq_ok (x := readItems inside) h
    cases heq
    exact .array (itemsAt_of_readItems hread)
  · rw [readValue.eq_2 _ fun inside heq => hopen ⟨inside, heq⟩] at h
    obtain ⟨⟨s, rest'⟩, hread, heq⟩ := map_eq_ok h
    cases heq
    exact .scalar (scalarAt_of_readScalar hbegins hread)

theorem Grammar.ValueAt.readValue_eq {text rest : List Char} {v : Literal}
    (h : ValueAt OnOneLine text rest v) (hpoint : '.' ∉ rest.head?) :
    readValue text = .ok (v, rest) := by
  cases h with
  | scalar hs =>
    have hopen : ∀ inside, text ≠ '[' :: inside := by
      rintro inside rfl
      exact hs.bracket_not_mem_head.2 rfl
    rw [readValue.eq_2 _ hopen, hs.readScalar_eq hpoint]
    rfl
  | array hitems =>
    rw [readValue, hitems.readItems_eq]
    rfl

theorem Grammar.ValueAt.skipTrivia_eq {text value rest : List Char} {v : Literal}
    (h : ValueAt OnOneLine value rest v) (htrivia : Trivia text value) :
    skipTrivia text = .ok value := by
  cases h with
  | scalar hs => exact hs.skipTrivia_eq htrivia
  | array => exact htrivia.skipTrivia_cons (by decide) (by decide)

theorem memberAt_of_readMember {text rest : List Char} {m : String × Literal}
    (hblank : ∀ c ∈ text.head?, ¬ Unicode.isWhiteSpace c)
    (h : readMember text = .ok (m, rest)) : MemberAt OnOneLine text rest m := by
  simp only [readMember] at h
  split at h
  · cases h
  next key next hkey =>
  split at h
  · cases h
  next colon hcolon =>
  split at h
  · cases h
  next afterColon hexpect =>
  split at h
  · cases h
  next value hvalue =>
  obtain ⟨⟨v, rest'⟩, hread, heq⟩ := map_eq_ok h
  cases heq
  obtain ⟨rfl, ⟨c, hc, hstart⟩, hparts, hend⟩ := readKey_eq_ok_iff.mp hkey
  rw [expect_eq_ok_iff] at hexpect
  subst hexpect
  have hident : Identifier key.toList :=
    ⟨⟨c, hc, hstart, hblank c (Text.head?_append_of_mem hc)⟩, hparts⟩
  simpa using MemberAt.mk hident hend (trivia_of_skipTrivia hcolon) (trivia_of_skipTrivia hvalue)
    (valueAt_of_readValue (beginsToken_of_skipTrivia hvalue) hread)

theorem Grammar.MemberAt.readMember_eq {text rest : List Char} {m : String × Literal}
    (h : MemberAt OnOneLine text rest m) (hpoint : '.' ∉ rest.head?) :
    readMember text = .ok (m, rest) := by
  cases h with
  | @mk key next afterColon value rest v hkey hend hcolon hvalue hv =>
    obtain ⟨c, hc, hstart, -⟩ := hkey.start
    have hread : readKey (key ++ next) = .ok (String.ofList key, next) :=
      readKey_eq_ok_iff.mpr ⟨by simp, ⟨c, by simpa using hc, hstart⟩,
        by simpa using hkey.parts, hend⟩
    simp only [readMember, hread, hcolon.skipTrivia_cons (by decide) (by decide),
      expect_self, hv.skipTrivia_eq hvalue, hv.readValue_eq hpoint]
    rfl

theorem Grammar.MemberAt.head {text rest : List Char} {m : String × Literal}
    (h : MemberAt OnOneLine text rest m) :
    ∃ c tail, text = c :: tail ∧ c ≠ '/' ∧ c ≠ '\x7d' ∧ ¬ Unicode.isWhiteSpace c := by
  cases h with
  | @mk key next _ _ _ _ hkey =>
    obtain ⟨c, hc, hstart, hblank⟩ := hkey.start
    cases key with
    | nil => cases hc
    | cons d tail =>
      obtain rfl : d = c := by simpa using hc
      refine ⟨d, tail ++ next, rfl, ?_, ?_, hblank⟩
      · rintro rfl; exact absurd hstart (by decide)
      · rintro rfl; exact absurd hstart (by decide)

theorem readMembers_nil {text rest : List Char} (h : skipTrivia text = .ok ('\x7d' :: rest)) :
    readMembers text = .ok ([], rest) := by
  rw [readMembers.eq_def]
  split <;> simp_all

theorem readMembers_member {text member next more : List Char} {m : String × Literal} {c : Char}
    (hmember : skipTrivia text = .ok member) (hhead : '\x7d' ∉ member.head?)
    (hread : readMember member = .ok (m, next)) (hnext : skipTrivia next = .ok (c :: more)) :
    readMembers text =
      if c = ',' then (readMembers more).map fun (members, rest) => (m :: members, rest)
      else if c = '\x7d' then .ok ([m], more)
      else .error ⟨.noCommaOrBrace c, more⟩ := by
  rw [readMembers.eq_def]
  split
  · simp_all
  · next heq =>
    cases heq.symm.trans hmember
    exact absurd rfl hhead
  · split
    · simp_all
    · split <;> simp_all

theorem membersAt_of_readMembers {text rest : List Char} {members : List (String × Literal)}
    (h : readMembers text = .ok (members, rest)) : MembersAt OnOneLine text rest members := by
  have hstart : ∀ {text member : List Char}, skipTrivia text = .ok member →
      ∀ c ∈ member.head?, ¬ Unicode.isWhiteSpace c := by
    intro text member hskip c hc
    cases member with
    | nil => cases hc
    | cons d tail =>
      obtain rfl : d = c := by simpa using hc
      exact not_isWhiteSpace_of_skipTrivia hskip
  fun_induction readMembers text generalizing members with
  | case1 => cases h
  | case2 text rest' hskip => cases h; exact .nil (trivia_of_skipTrivia hskip)
  | case3 => cases h
  | case4 => cases h
  | case5 => cases h
  | case6 text member _ hmember m next hread more hnext ih =>
    obtain ⟨⟨members', rest'⟩, hmore, heq⟩ := map_eq_ok h
    cases heq
    exact .cons (trivia_of_skipTrivia hmember) (memberAt_of_readMember (hstart hmember) hread)
      (trivia_of_skipTrivia hnext) (ih hmore)
  | case7 text member _ hmember m next hread more hnext _ =>
    cases h
    exact .last (trivia_of_skipTrivia hmember) (memberAt_of_readMember (hstart hmember) hread)
      (trivia_of_skipTrivia hnext)
  | case8 => cases h

theorem Grammar.MemberAt.readMembers_eq {text member next more : List Char}
    {m : String × Literal} {c : Char} (hm : MemberAt OnOneLine member next m)
    (hmember : Trivia text member) (hnext : Trivia next (c :: more))
    (hc : c = ',' ∨ c = '\x7d') :
    readMembers text =
      if c = ',' then (readMembers more).map fun (members, rest) => (m :: members, rest)
      else .ok ([m], more) := by
  obtain ⟨d, tail, rfl, hslash, hbrace, hblank⟩ := hm.head
  have hpoint : '.' ∉ next.head? := hnext.point_not_mem_head (by rcases hc with rfl | rfl <;> decide)
  have hskip : skipTrivia next = .ok (c :: more) := by
    rcases hc with rfl | rfl <;> exact hnext.skipTrivia_cons (by decide) (by decide)
  rw [readMembers_member (hmember.skipTrivia_cons hslash hblank) (by simpa using hbrace)
    (hm.readMember_eq hpoint) hskip]
  rcases hc with rfl | rfl <;> rfl

theorem Grammar.MembersAt.readMembers_eq {text rest : List Char}
    {members : List (String × Literal)} (h : MembersAt OnOneLine text rest members) :
    readMembers text = .ok (members, rest) := by
  induction h with
  | nil h => exact readMembers_nil (h.skipTrivia_cons (by decide) (by decide))
  | last hmember hm hnext =>
    rw [hm.readMembers_eq hmember hnext (.inr rfl)]
    rfl
  | cons hmember hm hnext _ ih =>
    rw [hm.readMembers_eq hmember hnext (.inl rfl), if_pos rfl, ih]
    rfl

/-- A text is read as members if and only if it is a sentence with these members. -/
theorem readText_eq_ok_iff {text : List Char} {members : List (String × Literal)} :
    readText text = .ok members ↔ Sentence OnOneLine text members := by
  constructor
  · intro h
    simp only [readText, readObject] at h
    split at h
    · cases h
    next members' rest hobject =>
    split at hobject
    · cases hobject
    next start hstart =>
    split at hobject
    · cases hobject
    next inside hopen =>
    rw [expect_eq_ok_iff] at hopen
    subst hopen
    split at h
    · cases h
    · next hend =>
      cases h
      exact .mk (trivia_of_skipTrivia hstart) (membersAt_of_readMembers hobject)
        (trivia_of_skipTrivia hend)
    · cases h
  · rintro ⟨hstart, hmembers, hend⟩
    simp only [readText, readObject, hstart.skipTrivia_cons (by decide) (by decide),
      expect_self, hmembers.readMembers_eq, hend.skipTrivia_eq, skipTrivia_nil]

end RecordFlow.Literal

namespace RecordFlow.Parameters

open Literal Literal.Grammar

section

variable [Engine]

theorem ofText_eq_ok_iff_readText {text : String} {p : Parameters} :
    ofText text = .ok p ↔ ∃ members, readText text.toList = .ok members ∧ Dict.ofList members = p := by
  simp only [ofText]
  cases readText text.toList with
  | error e => simp
  | ok members => simp

/-- A text is read as a map if and only if it is a sentence of the grammar that denotes the map. -/
theorem ofText_eq_ok_iff (text : String) (p : Parameters) :
    ofText text = .ok p ↔ Denotes OnOneLine text p := by
  rw [ofText_eq_ok_iff_readText]
  simp only [readText_eq_ok_iff, Dict.eq_ofList_iff, Denotes]

end

open scoped Regex

/-- A pattern on two lines is refused, although a slash closes it. -/
theorem denotes_pattern_on_two_lines :
    ∃ p, Denotes (fun _ => True) "\x7ba: /a\nb/\x7d" p ∧ ofText "\x7ba: /a\nb/\x7d" ≠ .ok p := by
  have hcompiles : (Engine.compile? (flaggedSource "a\nb" "")).isSome := by
    have hsource : flaggedSource "a\nb" "" = String.ofList ['a', '\n', 'b'] := by decide
    have hsize : (String.ofList ['a', '\n', 'b']).utf8ByteSize = 3 := by decide
    rw [Regex.isSome_engine, hsource, Regex.compile?, Regex.Expr.ofText?, String.toList_ofList, hsize]
    cbv
  obtain ⟨p, hp, hflags⟩ : ∃ p : Pattern, p.source.toList = ['a', '\n', 'b'] ∧ p.flags = "" :=
    ⟨⟨"a\nb", "", by decide, hcompiles⟩, (by decide : "a\nb".toList = ['a', '\n', 'b']), rfl⟩
  have hsource : Source false ['a', '\n', 'b'] :=
    .plain (by decide) (by decide) (by decide) (by decide) <|
      .plain (by decide) (by decide) (by decide) (by decide) <|
        .plain (by decide) (by decide) (by decide) (by decide) .nil
  have hend : WordEnd ['\x7d'] := wordEnd_cons (by decide) []
  have hscalar : ScalarAt (fun _ => True) "/a\nb/\x7d".toList ['\x7d'] (.pattern p) := by
    have h := @ScalarAt.pattern _ (fun _ => True) ['\x7d'] p (by rintro h; simp [h] at hp)
      (by simp [hp]) (hp ▸ hsource) (fun _ _ => trivial) hend
    rwa [hp, hflags] at h
  have hmember : MemberAt (fun _ => True) (['a'] ++ ": /a\nb/\x7d".toList) ['\x7d']
      ("a", .scalar (.pattern p)) :=
    .mk ⟨⟨'a', rfl, by decide⟩, fun c hc => by rw [List.mem_singleton.mp hc]; decide⟩
      (wordEnd_cons (by decide) _) (.nil _) (Trivia.nil _).space (.scalar hscalar)
  have hsentence : Sentence (fun _ => True) "\x7ba: /a\nb/\x7d".toList [("a", .scalar (.pattern p))] :=
    .mk (.nil _) (.last (.nil _) hmember (.nil _)) (.nil _)
  refine ⟨Dict.ofList [("a", .scalar (.pattern p))], ⟨_, hsentence, Dict.get?_ofList _⟩, fun h => ?_⟩
  have hfails : (ofText "\x7ba: /a\nb/\x7d").isOk = false := by decide +kernel
  rw [h] at hfails
  cases hfails

end RecordFlow.Parameters
