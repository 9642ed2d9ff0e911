import RecordFlow.Proofs.Literal.Scans

/-! # Faults and where they lie

The cursor reads every text as the readers do. So each text is read to its end or refused for a fault, the fault lies
between two characters of the text, and nothing else can stop the cursor.
-/

namespace RecordFlow.Literal

variable {σ α β : Type} {text rest : List Char} {offset : Nat}

theorem runs_identifier {x : Reading String} (h : readKey rest = x) : Runs text Cursor.identifier rest x := by
  refine Runs.get_bind fun start hstart => Runs.peek.bind ?_
  cases x with
  | error e =>
    cases rest with
    | nil => cases h; exact .fail _
    | cons c rest =>
      rw [readKey] at h
      split at h
      · cases h
      · next hc => cases h; exact .ite_neg hc (.fail _)
  | ok p =>
    obtain ⟨key, rest'⟩ := p
    obtain ⟨rfl, ⟨c, hc, hfirst⟩, hparts, hend⟩ := readKey_eq_ok_iff.mp h
    obtain ⟨more, hkey⟩ := List.head?_eq_some_iff.mp hc
    rw [hkey] at hparts hstart ⊢
    have hrun : Runs text (Cursor.bumpWhile isIdentifierPart) (more ++ rest') _ := runs_bumpWhile isIdentifierPart
    rw [Text.dropWhile_run (fun d hd => hparts d (List.mem_cons_of_mem c hd)) hend] at hrun
    have hword : String.ofList (c :: more) = key := by rw [← hkey, String.ofList_toList]
    rw [← hword]
    exact .ite_pos hfirst (Runs.bump.bind (hrun.bind ((Runs.since hstart).bind (.pure _))))

section Entries

variable {close c : Char} {missing : Fault} {unexpected : Char → Fault} {entry : σ → Cursor σ}
  {entries entries' : σ} {value next : List Char} {e : Failure} {reading : Reading (Turn σ σ)}

theorem runs_entryTurn (h : skipTrivia rest = .ok value) (hclose : ∀ more, value = close :: more → False)
    (hentry : Runs text (entry entries) value (.ok (entries', next)))
    (hend : Runs text (Cursor.entryEnd close missing unexpected entries') next reading) :
    Runs text (Cursor.entryTurn close missing unexpected entry entries) rest reading :=
  (runs_trivia h).bind (Runs.peek.bind (.ite_neg (head?_ne_some hclose) (hentry.bind hend)))

theorem runs_entryTurn_entry_error (h : skipTrivia rest = .ok value)
    (hclose : ∀ more, value = close :: more → False) (hentry : Runs text (entry entries) value (.error e)) :
    Runs text (Cursor.entryTurn close missing unexpected entry entries) rest (.error e) :=
  (runs_trivia h).bind (Runs.peek.bind (.ite_neg (head?_ne_some hclose) hentry.bind_error))

theorem runs_entryTurn_error (h : skipTrivia rest = .error e) :
    Runs text (Cursor.entryTurn close missing unexpected entry entries) rest (.error e) :=
  (runs_trivia h).bind_error

theorem runs_entryTurn_close (h : skipTrivia rest = .ok (close :: next)) :
    Runs text (Cursor.entryTurn close missing unexpected entry entries) rest (.ok (.done entries, next)) :=
  (runs_trivia h).bind (Runs.peek.bind (.ite_pos rfl (Runs.bump.bind (.pure _))))

theorem runs_entryEnd_error (h : skipTrivia rest = .error e) :
    Runs text (Cursor.entryEnd close missing unexpected entries) rest (.error e) :=
  (runs_trivia h).bind_error

theorem runs_entryEnd_missing (h : skipTrivia rest = .ok []) :
    Runs text (Cursor.entryEnd close missing unexpected entries) rest (.error ⟨missing, []⟩) :=
  (runs_trivia h).bind (Runs.bump_nil.bind (.fail _))

theorem runs_entryEnd_next (h : skipTrivia rest = .ok (',' :: next)) :
    Runs text (Cursor.entryEnd close missing unexpected entries) rest (.ok (.next entries, next)) :=
  (runs_trivia h).bind (Runs.bump.bind (.ite_pos rfl (.pure _)))

theorem runs_entryEnd_done (hclose : close ≠ ',') (h : skipTrivia rest = .ok (close :: next)) :
    Runs text (Cursor.entryEnd close missing unexpected entries) rest (.ok (.done entries, next)) :=
  (runs_trivia h).bind (Runs.bump.bind (.ite_neg hclose (.ite_pos rfl (.pure _))))

theorem runs_entryEnd_unexpected (hcomma : c ≠ ',') (hclose : c ≠ close) (h : skipTrivia rest = .ok (c :: next)) :
    Runs text (Cursor.entryEnd close missing unexpected entries) rest (.error ⟨unexpected c, next⟩) :=
  (runs_trivia h).bind (Runs.bump.bind (.ite_neg hcomma (.ite_neg hclose (.fail _))))

end Entries

/-- A fault lies between two characters of a text, and its wording ends with its offset. -/
structure LocatedFault.LiesIn (fault : LocatedFault) (text : String) : Prop where
  boundary : String.Pos.Raw.IsValid text ⟨fault.offset⟩
  offset_le : fault.offset ≤ text.utf8ByteSize
  wording : ∃ reason, (DeclarationFault.literal fault).message = reason ++ " at offset " ++ toString fault.offset

theorem Ahead.liesIn {text : String} (h : Ahead text.toList offset rest) (fault : Fault) :
    LocatedFault.LiesIn ⟨fault, offset⟩ text := by
  obtain ⟨before, htext, hoffset⟩ := h
  have happend : text = String.ofList before ++ String.ofList rest := by
    rw [← String.ofList_append, ← htext, String.ofList_toList]
  have hend : (⟨offset⟩ : String.Pos.Raw) = (String.ofList before).rawEndPos := by
    rw [String.Pos.Raw.ext_iff, ← hoffset, ← Text.utf8ByteSize_ofList]
    rfl
  have hvalid := String.Pos.Raw.isValid_iff_exists_append.mpr ⟨_, _, happend, hend⟩
  exact ⟨hvalid, hvalid.le_rawEndPos, _, rfl⟩

variable [Engine]

theorem runs_word {c : Char} (hc : isIdentifierStart c) : ∃ x : Reading Bool,
    readWord (c :: rest) = x.map (fun p => (.boolean p.1, p.2)) ∧ Runs text Cursor.word (c :: rest) x := by
  have hkey : readKey (c :: rest) = .ok _ := if_pos hc
  have hname (name : String) : String.ofList ((c :: rest).takeWhile isIdentifierPart) = name ↔
      (c :: rest).takeWhile isIdentifierPart = name.toList := by
    rw [← String.ofList_inj, String.ofList_toList]
  simp only [readWord]
  by_cases htrue : (c :: rest).takeWhile isIdentifierPart = "true".toList
  · rw [if_pos htrue]
    refine ⟨.ok (true, _), rfl, Runs.get_bind fun _ _ => (runs_identifier hkey).bind ?_⟩
    exact .ite_pos ((hname _).mpr htrue) (.pure _)
  have hnot : String.ofList ((c :: rest).takeWhile isIdentifierPart) ≠ "true" := mt (hname _).mp htrue
  rw [if_neg htrue]
  by_cases hfalse : (c :: rest).takeWhile isIdentifierPart = "false".toList
  · rw [if_pos hfalse]
    refine ⟨.ok (false, _), rfl, Runs.get_bind fun _ _ => (runs_identifier hkey).bind ?_⟩
    exact .ite_neg hnot (.ite_pos ((hname _).mpr hfalse) (.pure _))
  · rw [if_neg hfalse]
    refine ⟨.error _, rfl, Runs.get_bind fun start hstart => (runs_identifier hkey).bind ?_⟩
    -- the fault lies in front of the word, where the cursor is put back to
    exact .ite_neg hnot (.ite_neg (mt (hname _).mp hfalse) ((Runs.set hstart).bind (.fail _)))

theorem Runs.value {m : Cursor α} {reading : Reading α} (hm : Runs text m rest reading) (f : α → Scalar)
    (g : Scalar → β) :
    Runs text (do return g (f (← m))) rest ((reading.map fun p => (f p.1, p.2)).map fun p => (g p.1, p.2)) := by
  cases reading with
  | error e => exact hm.bind_error
  | ok p => exact hm.bind (.pure _)

theorem runs_valueOr {bracket : Cursor α} {ofScalar : Scalar → α} (hbracket : '[' ∉ rest.head?) :
    Runs text (Cursor.valueOr bracket ofScalar) rest ((readScalar rest).map fun p => (ofScalar p.1, p.2)) := by
  refine Runs.peek.bind ?_
  cases rest with
  | nil => exact .fail _
  | cons c rest =>
    simp only [readScalar, List.head?_cons]
    by_cases hquote : c = '"' ∨ c = '\''
    · simp only [if_pos hquote]
      exact (runs_string rfl).value (fun s => .string (String.ofList s)) ofScalar
    have hopen : c ≠ '[' := fun heq => hbracket (congrArg some heq)
    simp only [if_neg hquote, if_neg hopen]
    by_cases hslash : c = '/'
    · simp only [hslash]
      exact (runs_pattern rfl).value .pattern ofScalar
    simp only [if_neg hslash]
    by_cases hbrace : c = '\x7b'
    · simp only [if_pos hbrace]
      exact .fail _
    simp only [if_neg hbrace]
    by_cases hdigit : c = '-' ∨ c = '.' ∨ isDecimalDigit c
    · simp only [if_pos hdigit]
      exact runs_number.value .number ofScalar
    simp only [if_neg hdigit]
    by_cases hstart : isIdentifierStart c
    · obtain ⟨x, hword, hrun⟩ : ∃ x, _ ∧ Runs text Cursor.word (c :: rest) x := runs_word hstart
      simp only [if_pos hstart]
      rw [hword]
      exact hrun.value .boolean ofScalar
    · simp only [if_neg hstart]
      exact .fail _

theorem runs_valueOr_bracket {bracket : Cursor α} {ofScalar : Scalar → α} {reading : Reading α}
    (h : Runs text bracket ('[' :: rest) reading) :
    Runs text (Cursor.valueOr bracket ofScalar) ('[' :: rest) reading :=
  Runs.peek.bind (.ite_neg (by decide) (.ite_pos rfl h))

theorem runs_item {x : Reading Scalar} (items : List Scalar) (h : readScalar rest = x) :
    Runs text (Cursor.item items) rest (x.map fun p => (items ++ [p.1], p.2)) := by
  subst h
  refine Runs.map ?_ fun item => items ++ [item]
  by_cases hopen : '[' ∈ rest.head?
  · obtain ⟨more, rfl⟩ := List.head?_eq_some_iff.mp hopen
    exact runs_valueOr_bracket (.fail _)
  · have hrun : Runs text (Cursor.valueOr (Cursor.fail .nestedArray) id) rest _ := runs_valueOr hopen
    cases hread : readScalar rest <;> rw [hread] at hrun <;> exact hrun

theorem loops_items (items : List Scalar) :
    Loops text (Cursor.entryTurn ']' .missingBracket .noCommaOrBracket Cursor.item) items rest
      ((readItems rest).map fun p => (items ++ p.1, p.2)) := by
  fun_induction readItems rest generalizing items with
  | case1 rest e h => exact .error (runs_entryTurn_error h)
  | case2 rest next h =>
    simp only [Except.map, List.append_nil]
    exact .done (runs_entryTurn_close h)
  | case3 rest value hclose h e hitem => exact .error (runs_entryTurn_entry_error h hclose (runs_item items hitem))
  | case4 rest value hclose h item next hitem e hnext =>
    exact .error (runs_entryTurn h hclose (runs_item items hitem) (runs_entryEnd_error hnext))
  | case5 rest value hclose h item next hitem hnext =>
    exact .error (runs_entryTurn h hclose (runs_item items hitem) (runs_entryEnd_missing hnext))
  | case6 rest value hclose h item next hitem more hnext ih =>
    have hlength : more.length < rest.length := by
      have := length_skipTrivia h
      have := length_readScalar hitem
      have := length_skipTrivia hnext
      simp only [List.length_cons] at this
      omega
    refine .next (runs_entryTurn h hclose (runs_item items hitem) (runs_entryEnd_next hnext)) hlength ?_
    have hloop := ih (items ++ [item])
    simp only [List.append_assoc] at hloop
    exact (map_value_map (items ++ ·) ([item] ++ ·) _).symm ▸ hloop
  | case7 rest value hclose h item next hitem more hnext hcomma =>
    exact .done (runs_entryTurn h hclose (runs_item items hitem) (runs_entryEnd_done hcomma hnext))
  | case8 rest value hclose h item next hitem c more hnext hcomma hbracket =>
    exact .error (runs_entryTurn h hclose (runs_item items hitem) (runs_entryEnd_unexpected hcomma hbracket hnext))

theorem runs_value {x : Reading Literal} (h : readValue rest = x) :
    Runs text (Cursor.valueOr Cursor.array .scalar) rest x := by
  subst h
  fun_cases readValue rest with
  | case1 rest =>
    refine runs_valueOr_bracket ((Runs.expect '[' (expect_self _ _)).bind ?_)
    have hloop : Runs text (Cursor.loop _ []) rest _ := (loops_items []).runs
    have hvalue := hloop.map Literal.array
    rw [map_value_map Literal.array ([] ++ ·)] at hvalue
    exact hvalue
  | case2 _ hopen => exact runs_valueOr (head?_ne_some hopen)

theorem runs_member {x : Reading (String × Literal)} (members : Parameters) (h : readMember rest = x) :
    Runs text (Cursor.member members) rest (x.map fun p => (members.insert p.1.1 p.1.2, p.2)) := by
  subst h
  fun_cases readMember rest with
  | case1 e h1 => exact (runs_identifier h1).bind_error
  | case2 key next h1 e h2 => exact (runs_identifier h1).bind (runs_trivia h2).bind_error
  | case3 key next h1 colon h2 e h3 =>
    exact (runs_identifier h1).bind ((runs_trivia h2).bind (Runs.expect _ h3).bind_error)
  | case4 key next h1 colon h2 after h3 e h4 =>
    exact (runs_identifier h1).bind ((runs_trivia h2).bind ((Runs.expect _ h3).bind (runs_trivia h4).bind_error))
  | case5 key next h1 colon h2 after h3 value h4 =>
    refine (runs_identifier h1).bind ((runs_trivia h2).bind ((Runs.expect _ h3).bind ((runs_trivia h4).bind ?_)))
    exact (map_value_map (fun p : String × Literal => members.insert p.1 p.2) (key, ·) _).symm ▸
      (runs_value rfl).map (members.insert key ·)

theorem loops_members (members : Parameters) :
    Loops text (Cursor.entryTurn '\x7d' .missingBrace .noCommaOrBrace Cursor.member) members rest
      ((readMembers rest).map fun p => (members.insertAll p.1, p.2)) := by
  fun_induction readMembers rest generalizing members with
  | case1 rest e h => exact .error (runs_entryTurn_error h)
  | case2 rest next h => exact .done (runs_entryTurn_close h)
  | case3 rest value hclose h e hmember =>
    exact .error (runs_entryTurn_entry_error h hclose (runs_member members hmember))
  | case4 rest value hclose h m next hmember e hnext =>
    exact .error (runs_entryTurn h hclose (runs_member members hmember) (runs_entryEnd_error hnext))
  | case5 rest value hclose h m next hmember hnext =>
    exact .error (runs_entryTurn h hclose (runs_member members hmember) (runs_entryEnd_missing hnext))
  | case6 rest value hclose h m next hmember more hnext ih =>
    have hlength : more.length < rest.length := by
      have := length_skipTrivia h
      have := length_readMember hmember
      have := length_skipTrivia hnext
      simp only [List.length_cons] at this
      omega
    refine .next (runs_entryTurn h hclose (runs_member members hmember) (runs_entryEnd_next hnext)) hlength ?_
    exact (map_value_map members.insertAll (m :: ·) _).symm ▸ ih (members.insert m.1 m.2)
  | case7 rest value hclose h m next hmember more hnext hcomma =>
    exact .done (runs_entryTurn h hclose (runs_member members hmember) (runs_entryEnd_done hcomma hnext))
  | case8 rest value hclose h m next hmember c more hnext hcomma hbrace =>
    exact .error (runs_entryTurn h hclose (runs_member members hmember) (runs_entryEnd_unexpected hcomma hbrace hnext))

theorem runs_object {x : Reading (List (String × Literal))} (h : readObject rest = x) :
    Runs text Cursor.object rest (x.map fun p => (Dict.ofList p.1, p.2)) := by
  subst h
  fun_cases readObject rest with
  | case1 e h1 => exact (runs_trivia h1).bind_error
  | case2 next h1 e h2 => exact (runs_trivia h1).bind (Runs.expect _ h2).bind_error
  | case3 next h1 more h2 => exact (runs_trivia h1).bind ((Runs.expect _ h2).bind (loops_members .empty).runs)

theorem runs_wholeText {x : Except Failure (List (String × Literal))} (h : readText rest = x) :
    Runs text Cursor.wholeText rest (x.map fun members => (Dict.ofList members, [])) := by
  subst h
  fun_cases readText rest with
  | case1 e h1 => exact (runs_object h1).bind_error
  | case2 members next h1 e h2 => exact (runs_object h1).bind (runs_trivia h2).bind_error
  | case3 members next h1 h2 => exact (runs_object h1).bind ((runs_trivia h2).bind (Runs.peek.bind (.pure _)))
  | case4 members next h1 c more h2 => exact (runs_object h1).bind ((runs_trivia h2).bind (Runs.peek.bind (.fail _)))

/-- The cursor has the value of the reader, or its fault in front of what the reader left. -/
theorem runText_eq (text : String) :
    (∃ members, readText text.toList = .ok members ∧ runText text = .ok (Dict.ofList members)) ∨
      ∃ e offset, readText text.toList = .error e ∧ Ahead text.toList offset e.rest ∧
        runText text = .error (.fault ⟨e.fault, offset⟩) := by
  have hmatches := runs_wholeText rfl 0 (Ahead.zero text.toList)
  rw [runText]
  generalize Cursor.wholeText text.toList 0 = outcome at hmatches ⊢
  cases hread : readText text.toList with
  | ok members =>
    rw [hread] at hmatches
    cases hmatches
    exact .inl ⟨members, rfl, rfl⟩
  | error e =>
    rw [hread] at hmatches
    cases hmatches with
    | error h => exact .inr ⟨_, _, rfl, h, rfl⟩

end RecordFlow.Literal

namespace RecordFlow

variable [Engine]

/-- Every text is read to its end or refused. Either way the cursor takes no other course: each of its loops ends,
and each of its cuts lies between two characters of the text. -/
theorem Parameters.read_or_refused (text : String) :
    (∃ parameters, Literal.runText text = .ok parameters ∧ Parameters.read text = .ok parameters) ∨
      ∃ fault : Literal.LocatedFault, Literal.runText text = .error (.fault fault) ∧
        Parameters.read text = .error (.declarationSyntax text (.literal fault)) ∧ fault.LiesIn text := by
  rcases Literal.runText_eq text with ⟨members, hread, hrun⟩ | ⟨e, offset, hread, hahead, hrun⟩
  · have htext : Parameters.ofText text = .ok (.ofList members) := by rw [Parameters.ofText, hread]
    exact .inl ⟨_, hrun, by rw [Parameters.read, htext]; rfl⟩
  · have htext : Parameters.ofText text = .error ⟨e.fault, offset⟩ := by
      rw [Parameters.ofText, hread, hahead.eq_sub]
      rfl
    exact .inr ⟨_, hrun, by rw [Parameters.read, htext]; rfl, hahead.liesIn e.fault⟩

end RecordFlow
