import RecordFlow.Proofs.Literal.Objects
import RecordFlow.Proofs.Literal.Runs
import RecordFlow.Proofs.Text.Digits

/-! # Tokens by the cursor

Blanks and comments, strings, numbers and patterns are scanned as they are read. What is cut out of the text after
a scan is what the scan went over, so its conversion takes it.
-/

namespace RecordFlow.Literal

open Grammar

variable {α β γ : Type} {text rest rest' : List Char} {start : Nat}

theorem loops_line : Loops text Cursor.lineTurn () rest (.ok ((), afterLine rest)) := by
  induction rest with
  | nil => exact .done (Runs.bump_nil.bind (.pure _))
  | cons c rest ih =>
    rw [afterLine]
    by_cases hc : c = '\n'
    · rw [if_pos hc]
      exact .done (Runs.bump.bind (.ite_pos hc (.pure _)))
    · rw [if_neg hc]
      exact .next (Runs.bump.bind (.ite_neg hc (.pure _))) (by simp) ih

theorem afterBlock?_eq_breakAt (text : List Char) : afterBlock? text = (Text.breakAt ['*', '/'] text).map Prod.snd := by
  fun_induction afterBlock? text with
  | case1 text => simp [Text.breakAt, Text.after?]
  | case2 c text hclose ih =>
    have hnone : Text.after? ['*', '/'] (c :: text) = none := by
      by_contra hne
      obtain ⟨rest, hrest⟩ := Option.ne_none_iff_exists'.mp hne
      obtain ⟨rfl, rfl⟩ := List.cons.inj (Text.after?_eq_some_iff.mp hrest)
      exact hclose rest rfl rfl
    rw [ih, Text.breakAt, hnone, Option.map_map]
    rfl
  | case3 => rfl

theorem runs_block (h : afterBlock? rest = some rest') :
    Runs text Cursor.block ('/' :: '*' :: rest) (.ok ((), rest')) := by
  rw [afterBlock?_eq_breakAt] at h
  obtain ⟨⟨comment, _⟩, hbreak, rfl⟩ := Option.map_eq_some_iff.mp h
  refine (Runs.advance ['/', '*'] rfl).bind (Runs.ahead.bind ?_)
  rw [hbreak, Text.eq_of_breakAt hbreak]
  exact .advance _ (by rw [Text.octets_append]; rfl)

theorem runs_block_open (h : afterBlock? rest = none) :
    Runs text Cursor.block ('/' :: '*' :: rest) (.error ⟨.openComment, rest⟩) := by
  rw [afterBlock?_eq_breakAt] at h
  refine (Runs.advance ['/', '*'] rfl).bind (Runs.ahead.bind ?_)
  rw [Option.map_eq_none_iff.mp h]
  exact .fail _

theorem not_isWhiteSpace_slash : ¬ Unicode.isWhiteSpace '/' := by decide

section TriviaTurn

variable {c : Char}

theorem runs_triviaTurn_blank (hc : Unicode.isWhiteSpace c) :
    Runs text (Cursor.triviaTurn ()) (c :: rest) (.ok (.next (), rest)) :=
  Runs.peek_two (.ite_pos hc (Runs.bump.bind (.pure _)))

theorem runs_triviaTurn_line :
    Runs text (Cursor.triviaTurn ()) ('/' :: '/' :: rest) (.ok (.next (), afterLine rest)) := by
  refine Runs.peek_two (.ite_neg not_isWhiteSpace_slash (.ite_pos ⟨rfl, rfl⟩ ?_))
  have hline : Runs text _ ('/' :: '/' :: rest) (.ok ((), afterLine rest)) := loops_line.runs
  exact hline.bind (.pure _)

theorem runs_triviaTurn_block (h : afterBlock? rest = some rest') :
    Runs text (Cursor.triviaTurn ()) ('/' :: '*' :: rest) (.ok (.next (), rest')) := by
  refine Runs.peek_two (.ite_neg not_isWhiteSpace_slash (.ite_neg (by simp) (.ite_pos ⟨rfl, rfl⟩ ?_)))
  exact (runs_block h).bind (.pure _)

theorem runs_triviaTurn_open (h : afterBlock? rest = none) :
    Runs text (Cursor.triviaTurn ()) ('/' :: '*' :: rest) (.error ⟨.openComment, rest⟩) := by
  refine Runs.peek_two (.ite_neg not_isWhiteSpace_slash (.ite_neg (by simp) (.ite_pos ⟨rfl, rfl⟩ ?_)))
  exact (runs_block_open h).bind_error

theorem runs_triviaTurn_nil : Runs text (Cursor.triviaTurn ()) [] (.ok (.done (), [])) :=
  Runs.peek_two (.ite_neg (by simp) (.ite_neg (by simp) (.ite_neg (by simp) (.pure _))))

theorem runs_triviaTurn_token (hline : ∀ more, c = '/' → rest = '/' :: more → False)
    (hblock : ∀ more, c = '/' → rest = '*' :: more → False) (hc : ¬ Unicode.isWhiteSpace c) :
    Runs text (Cursor.triviaTurn ()) (c :: rest) (.ok (.done (), c :: rest)) := by
  have hopen (d : Char) (h : ∀ more, c = '/' → rest = d :: more → False) :
      ¬ ((c :: rest).head? = some '/' ∧ (c :: rest).tail.head? = some d) := by
    rintro ⟨hfirst, hsecond⟩
    exact head?_ne_some (fun more => h more (Option.some.inj hfirst)) hsecond
  exact Runs.peek_two (.ite_neg hc (.ite_neg (hopen '/' hline) (.ite_neg (hopen '*' hblock) (.pure _))))

end TriviaTurn

theorem runs_trivia {x : Except Failure (List Char)} (h : skipTrivia rest = x) :
    Runs text Cursor.trivia rest (x.map (Prod.mk ())) := by
  subst h
  refine Loops.runs ?_
  fun_induction skipTrivia rest with
  | case1 => exact .done runs_triviaTurn_nil
  | case2 rest ih =>
    have hlength := length_afterLine rest
    exact .next runs_triviaTurn_line (by simp only [List.length_cons]; omega) ih
  | case3 rest rest' hblock ih =>
    have hlength := length_afterBlock? hblock
    exact .next (runs_triviaTurn_block hblock) (by simp only [List.length_cons]; omega) ih
  | case4 rest hblock => exact .error (runs_triviaTurn_open hblock)
  | case5 c rest _ _ hc ih => exact .next (runs_triviaTurn_blank hc) (by simp) ih
  | case6 c rest hline hblock hc => exact .done (runs_triviaTurn_token hline hblock hc)

theorem ofHexText?_of_digits {bound : Nat} {digits : List Char} (h : ∀ d ∈ digits, isHexDigit d) :
    ofHexText? bound digits =
      if digits.isEmpty ∨ bound ≤ ofHexDigits digits then none else some (ofHexDigits digits) := by
  have hplus : Text.after? ['+'] digits = none := by
    by_contra hne
    obtain ⟨rest, hrest⟩ := Option.ne_none_iff_exists'.mp hne
    rw [Text.after?_eq_some_iff.mp hrest] at h
    exact absurd (h '+' (by simp)) (by decide)
  have hall : digits.all isHexDigit := List.all_eq_true.mpr h
  rw [ofHexText?, hplus, Option.getD_none]
  simp only [hall, not_true_eq_false, false_or]

theorem runs_charOf (code : Nat) : Runs text (Cursor.charOf code) rest (charOfCode code rest) := by
  rw [Cursor.charOf, charOfCode]
  split
  · exact .pure _
  · exact .fail _

theorem runs_bumpHex {x : Reading Nat} {value count : Nat} (h : readHex value count rest = x) :
    Runs text (Cursor.bumpHex count) rest (x.map fun p => ((), p.2)) := by
  subst h
  fun_induction readHex value count rest with
  | case1 => exact .pure _
  | case2 => exact Runs.peek.bind (.fail _)
  | case3 value count c rest digit hdigit ih =>
    have hc : isHexDigit c := by rw [isHexDigit, hdigit]; rfl
    exact Runs.peek.bind (.ite_pos hc (Runs.bump.bind ih))
  | case4 value count c rest hdigit =>
    have hc : ¬ isHexDigit c := by rw [isHexDigit, hdigit]; decide
    exact Runs.peek.bind (.ite_neg hc (.fail _))

theorem runs_fixedCode {x : Reading (List Char)} {count : Nat} (hcount : 0 < count ∧ count ≤ 8)
    (h : readFixedCode count rest = x) : Runs text (Cursor.fixedCode count) rest x := by
  subst h
  refine Runs.get_bind fun start hstart => ?_
  rw [readFixedCode]
  split
  · next e hread => exact (runs_bumpHex hread).bind_error
  · next code rest' hread =>
    obtain ⟨digits, rfl, rfl, hhex, hcode⟩ := readHex_eq_ok_iff.mp hread
    -- eight digits fit into 32 bits
    have hlt : ofHexDigits digits < 0x100000000 :=
      (ofHexDigits_lt digits).trans_le (Nat.pow_le_pow_right (by decide) hcount.2)
    have hne : ¬ digits.isEmpty := by
      rw [List.isEmpty_iff_length_eq_zero]
      omega
    refine (runs_bumpHex hread).bind ((Runs.since hstart).bind ?_)
    rw [ofHexText?_of_digits hhex, if_neg (not_or.mpr ⟨hne, Nat.not_le.mpr hlt⟩), ← hcode]
    exact runs_charOf _

theorem runs_bracedCode {x : Reading (List Char)} {c : Char} (h : readBracedCode rest = x) :
    Runs text Cursor.bracedCode (c :: rest) x := by
  subst h
  refine Runs.bump.bind (Runs.get_bind fun start hstart => (runs_bumpWhile isHexDigit).bind ?_)
  refine (Runs.since (hstart.span isHexDigit)).bind ?_
  rw [ofHexText?_of_digits fun d hd => List.mem_takeWhile_imp hd]
  rw [readBracedCode]
  cases hbrace : expect '\x7d' (rest.dropWhile isHexDigit) with
  | error e => exact (Runs.expect _ hbrace).bind_error
  | ok rest' =>
    refine (Runs.expect _ hbrace).bind ?_
    dsimp only
    split_ifs
    · exact .fail _
    · exact runs_charOf _

theorem runs_escape {x : Reading (List Char)} (h : readEscape rest = x) : Runs text Cursor.escape rest x := by
  subst h
  cases rest with
  | nil => exact Runs.bump_nil.bind (.fail _)
  | cons c rest =>
    refine Runs.bump.bind ?_
    by_cases hx : c = 'x'
    · simp only [readEscape, if_pos hx]
      exact runs_fixedCode (by decide) rfl
    by_cases hu : c = 'u'
    · simp only [readEscape, if_neg hx, if_pos hu]
      refine Runs.peek.bind ?_
      cases rest with
      | nil => exact .ite_neg (by simp) (runs_fixedCode (by decide) rfl)
      | cons d rest =>
        by_cases hd : d = '\x7b'
        · rw [readUnicodeEscape, if_pos hd]
          exact .ite_pos (congrArg some hd) (runs_bracedCode rfl)
        · rw [readUnicodeEscape, if_neg hd]
          exact .ite_neg (fun hsome => hd (Option.some.inj hsome)) (runs_fixedCode (by decide) rfl)
    · simp only [readEscape, if_neg hx, if_neg hu]
      exact .pure _

theorem loops_string (quote : Char) (chars : List Char) :
    Loops text (Cursor.stringTurn quote) chars rest ((readString quote rest).map fun p => (chars ++ p.1, p.2)) := by
  fun_induction readString quote rest generalizing chars with
  | case1 => exact .error (Runs.bump_nil.bind (.fail _))
  | case2 rest =>
    simp only [Except.map, List.append_nil]
    exact .done (Runs.bump.bind (.ite_pos rfl (.pure _)))
  | case3 rest e hescape hquote =>
    exact .error (Runs.bump.bind (.ite_neg hquote (.ite_pos rfl (runs_escape hescape).bind_error)))
  | case4 rest code rest' hescape hquote ih =>
    refine .next (Runs.bump.bind (.ite_neg hquote (.ite_pos rfl ((runs_escape hescape).bind (.pure _)))))
      (Nat.lt_succ_of_lt (length_readEscape hescape)) ?_
    have hloop := ih (chars ++ code)
    simp only [List.append_assoc] at hloop
    exact (map_value_map (chars ++ ·) (code ++ ·) _).symm ▸ hloop
  | case5 rest hquote => exact .error (Runs.bump.bind (.ite_neg hquote (.ite_neg (by decide) (.ite_pos rfl (.fail _)))))
  | case6 c rest hquote hescape hnewline ih =>
    refine .next (Runs.bump.bind (.ite_neg hquote (.ite_neg hescape (.ite_neg hnewline (.pure _))))) (by simp) ?_
    have hloop := ih (chars ++ [c])
    simp only [List.append_assoc] at hloop
    exact (map_value_map (chars ++ ·) ([c] ++ ·) _).symm ▸ hloop

theorem runs_string {quote : Char} {x : Reading (List Char)} (h : readString quote rest = x) :
    Runs text Cursor.string (quote :: rest) x := by
  subst h
  refine Runs.bump.bind ?_
  have hrun : Runs text (Cursor.loop (Cursor.stringTurn quote) []) rest _ := (loops_string quote []).runs
  cases hread : readString quote rest <;> rw [hread] at hrun <;> exact hrun

theorem runs_endOfWord {x : Binary64} {f : Unit → Cursor Binary64}
    (hf : WordEnd rest → Runs text (f ()) rest (.ok (x, rest))) :
    Runs text (Cursor.endOfWord >>= f) rest (endNumber x rest) := by
  cases rest with
  | nil => exact (Runs.peek.bind (.ite_neg (by simp) (.pure ()))).bind (hf (by simp [WordEnd]))
  | cons c rest =>
    rw [endNumber]
    by_cases hc : isIdentifierPart c
    · rw [if_pos hc]
      exact (Runs.peek.bind (.ite_pos hc (.fail _))).bind_error
    · rw [if_neg hc]
      exact (Runs.peek.bind (.ite_neg hc (.pure ()))).bind (hf (wordEnd_cons hc rest))

theorem runs_hexadecimal {mark : Char} {negative : Bool} (hmark : mark = 'x' ∨ mark = 'X') :
    Runs text (Cursor.hexadecimal negative) ('0' :: mark :: rest) (readHexNumber negative rest) := by
  have hoctets : Text.octets ['0', mark] = 2 := by rcases hmark with rfl | rfl <;> rfl
  refine (Runs.advance _ hoctets).bind (Runs.get_bind fun start hstart => (runs_bumpWhile isHexDigit).bind ?_)
  refine (Runs.since (hstart.span isHexDigit)).bind ?_
  rw [ofHexText?_of_digits fun d hd => List.mem_takeWhile_imp hd]
  by_cases hdigits : (rest.takeWhile isHexDigit).isEmpty ∨
      0x10000000000000000 ≤ ofHexDigits (rest.takeWhile isHexDigit)
  · simp only [readHexNumber, if_pos hdigits]
    exact .fail _
  · simp only [readHexNumber, if_neg hdigits]
    refine runs_endOfWord fun _ => ?_
    exact .pure _

theorem runs_fraction :
    Runs text Cursor.fraction rest (.ok ((readFraction rest).1.length, (readFraction rest).2)) := by
  refine Runs.peek.bind ?_
  fun_cases readFraction rest with
  | case1 rest => exact .ite_pos rfl (Runs.bump.bind (runs_bumpWhile isDecimalDigit))
  | case2 _ hpoint =>
    exact .ite_neg (head?_ne_some hpoint) (.pure 0)

theorem runs_exponentSign : Runs text Cursor.exponentSign rest (.ok ((), (readExponentSign rest).2)) := by
  refine Runs.peek.bind (Runs.peek.bind ?_)
  fun_cases readExponentSign rest with
  | case1 rest => exact .ite_pos (.inl rfl) (Runs.bump.bind (.pure ()))
  | case2 rest => exact .ite_pos (.inr rfl) (Runs.bump.bind (.pure ()))
  | case3 _ hplus hminus =>
    exact .ite_neg (not_or.mpr ⟨head?_ne_some hplus, head?_ne_some hminus⟩) (.pure ())

theorem runs_exponent {x : Reading Int} (h : readExponent rest = x) :
    Runs text Cursor.exponent rest (x.map fun p => ((), p.2)) := by
  subst h
  refine Runs.peek.bind (Runs.peek.bind ?_)
  cases rest with
  | nil => exact .ite_neg (by simp) (.pure ())
  | cons c rest =>
    by_cases hc : c = 'e' ∨ c = 'E'
    · refine .ite_pos (hc.imp (congrArg some) (congrArg some)) (Runs.bump.bind (runs_exponentSign.bind ?_))
      rw [readExponent, if_pos hc]
      generalize readExponentSign rest = signed
      obtain ⟨negative, digits⟩ := signed
      refine Runs.get_bind fun start hstart => (runs_bumpWhile isDecimalDigit).bind (Runs.get_bind fun stop hstop => ?_)
      have hempty : stop = start ↔ (digits.takeWhile isDecimalDigit).isEmpty := by
        rw [← (hstart.span isDecimalDigit).add.unique hstop, Nat.add_eq_left, Text.octets_eq_zero_iff,
          List.isEmpty_iff]
      by_cases hdigits : (digits.takeWhile isDecimalDigit).isEmpty
      · have hrest : digits.dropWhile isDecimalDigit = digits := by
          have happend := List.takeWhile_append_dropWhile (p := isDecimalDigit) (l := digits)
          rwa [List.isEmpty_iff.mp hdigits, List.nil_append] at happend
        simp only [hdigits, if_true, hrest]
        exact .ite_pos (hempty.mpr hdigits) (.fail _)
      · simp only [hdigits]
        exact .ite_neg (fun heq => hdigits (hempty.mp heq)) (.pure ())
    · rw [readExponent, if_neg hc]
      exact .ite_neg (fun hhead => hc (hhead.imp Option.some.inj Option.some.inj)) (.pure ())

theorem exists_head_of_readDecimal {negative : Bool} {numeral : List Char} {x : Binary64}
    (h : readDecimal negative numeral = .ok (x, [])) :
    ∃ c more, numeral = c :: more ∧ (c = '.' ∨ isDecimalDigit c) := by
  obtain ⟨whole, point, fraction, power, exponent, rfl, hwhole, hfraction, hne, -⟩ := eq_of_readDecimal h
  obtain ⟨c, hc, hstart⟩ := head_decimal hwhole hfraction hne
  obtain ⟨more, hmore⟩ := List.head?_eq_some_iff.mp hc
  exact ⟨c, _, by rw [hmore]; rfl, hstart⟩

theorem toLower_of_toNat_lt {c : Char} (h : c.toNat < 65) : c.toLower = c := by
  have hcapital : ¬ (c.val ≥ 'A'.val ∧ c.val ≤ 'Z'.val) := fun hc => absurd h (Nat.not_lt.mpr hc.1)
  exact dif_neg hcapital

/-- What was scanned as a numeral begins with no sign of its own, and with no letter. -/
theorem ofDecimalText?_of_readDecimal {sign numeral : List Char} {negative : Bool} {x : Binary64}
    (hsign : Sign sign negative) (h : readDecimal negative numeral = .ok (x, [])) :
    ofDecimalText? (sign ++ numeral) = some x := by
  obtain ⟨c, more, rfl, hc⟩ := exists_head_of_readDecimal h
  have hlt : c.toNat < 65 := by
    rcases hc with rfl | hc
    · decide
    · have := toNat_le_of_isDecimalDigit hc
      omega
  have hplain : readExponentSign (sign ++ c :: more) = (negative, c :: more) := by
    cases hsign with
    | minus => rfl
    | none =>
      refine readExponentSign.eq_3 _ ?_ ?_
      all_goals
        rintro _ ⟨rfl, -⟩
        revert hc
        decide
  have hword (word : List Char) (hletter : ∀ d ∈ word.head?, 65 ≤ d.toNat) :
      (c :: more).map Char.toLower ≠ word := by
    rintro rfl
    have := hletter c (by rw [List.map_cons, toLower_of_toNat_lt hlt]; rfl)
    omega
  have hnan := hword "nan".toList (by rintro _ ⟨⟩; decide)
  have hinf := hword "inf".toList (by rintro _ ⟨⟩; decide)
  have hinfinity := hword "infinity".toList (by rintro _ ⟨⟩; decide)
  rw [ofDecimalText?, hplain]
  simp only
  rw [if_neg hnan, if_neg (not_or.mpr ⟨hinf, hinfinity⟩), h]

theorem readDecimal_span {negative : Bool} {x : Binary64} (h : readDecimal negative rest = .ok (x, rest')) :
    ∃ numeral, rest = numeral ++ rest' ∧ readDecimal negative numeral = .ok (x, []) := by
  obtain ⟨whole, point, fraction, power, exponent, rfl, hwhole, hfraction, hne, hexp, -, rfl⟩ := eq_of_readDecimal h
  refine ⟨whole ++ point ++ power, rfl, ?_⟩
  have hend : WordEnd [] := by simp [WordEnd]
  have hread := readDecimal_eq hwhole hfraction hne hexp hend negative (by simp)
  rwa [List.append_nil] at hread

theorem runs_decimal {sign : List Char} {negative : Bool} (hsign : Sign sign negative)
    (hstart : Ahead text start (sign ++ rest)) :
    Runs text (Cursor.decimal start) rest (readDecimal negative rest) := by
  refine (runs_bumpWhile isDecimalDigit).bind (runs_fraction.bind ?_)
  have hdigits :
      (rest.takeWhile isDecimalDigit).length + (readFraction (rest.dropWhile isDecimalDigit)).1.length = 0 ↔
        (rest.takeWhile isDecimalDigit).isEmpty ∧ (readFraction (rest.dropWhile isDecimalDigit)).1.isEmpty := by
    rw [Nat.add_eq_zero_iff, List.isEmpty_iff_length_eq_zero, List.isEmpty_iff_length_eq_zero]
  by_cases hempty : (rest.takeWhile isDecimalDigit).isEmpty ∧ (readFraction (rest.dropWhile isDecimalDigit)).1.isEmpty
  · have hread : readDecimal negative rest = .error ⟨.numeral, (readFraction (rest.dropWhile isDecimalDigit)).2⟩ :=
      if_pos hempty
    rw [hread]
    exact .ite_pos (hdigits.mpr hempty) (.fail _)
  · refine .ite_neg (fun hzero => hempty (hdigits.mp hzero)) ?_
    cases hexp : readExponent (readFraction (rest.dropWhile isDecimalDigit)).2 with
    | error e =>
      have hread : readDecimal negative rest = .error e := by
        simp only [readDecimal]
        rw [if_neg hempty, hexp]
      rw [hread]
      exact (runs_exponent hexp).bind_error
    | ok p =>
      obtain ⟨exponent, rest'⟩ := p
      have hread : readDecimal negative rest = endNumber (.ofDecimal negative (Numeral.toDecimal
          ⟨rest.takeWhile isDecimalDigit, (readFraction (rest.dropWhile isDecimalDigit)).1, exponent⟩)) rest' := by
        simp only [readDecimal]
        rw [if_neg hempty, hexp]
      rw [hread]
      refine (runs_exponent hexp).bind (runs_endOfWord fun hend => ?_)
      rw [endNumber_eq_ok_iff.mpr ⟨rfl, rfl, hend⟩] at hread
      obtain ⟨numeral, rfl, hnumeral⟩ := readDecimal_span hread
      rw [← List.append_assoc] at hstart
      refine (Runs.since hstart).bind ?_
      rw [ofDecimalText?_of_readDecimal hsign hnumeral]
      exact .pure _

theorem runs_magnitude {sign : List Char} {negative : Bool} (hsign : Sign sign negative)
    (hstart : Ahead text start (sign ++ rest)) :
    Runs text (Cursor.magnitude start negative) rest (readMagnitude negative rest) := by
  refine Runs.peek_two ?_
  fun_cases readMagnitude negative rest with
  | case1 rest => exact .ite_pos ⟨rfl, .inl rfl⟩ (runs_hexadecimal (.inl rfl))
  | case2 rest => exact .ite_pos ⟨rfl, .inr rfl⟩ (runs_hexadecimal (.inr rfl))
  | case3 _ hlower hupper =>
    refine .ite_neg ?_ (runs_decimal hsign hstart)
    rintro ⟨hfirst, hsecond⟩
    obtain ⟨more, rfl⟩ := List.head?_eq_some_iff.mp hfirst
    rcases hsecond with hsecond | hsecond
    · exact head?_ne_some (fun digits heq => hlower digits (congrArg ('0' :: ·) heq)) hsecond
    · exact head?_ne_some (fun digits heq => hupper digits (congrArg ('0' :: ·) heq)) hsecond

theorem runs_number : Runs text Cursor.number rest (readNumber rest) := by
  refine Runs.get_bind fun start hstart => Runs.peek.bind ?_
  fun_cases readNumber rest with
  | case1 rest => exact .ite_pos rfl (Runs.bump.bind (runs_magnitude .minus hstart))
  | case2 _ hminus => exact .ite_neg (head?_ne_some hminus) (runs_magnitude .none hstart)

section SourceTurn

variable {inBracket : Bool} {c : Char}

theorem runs_sourceTurn_escape (h : c ≠ '\n') :
    Runs text (Cursor.sourceTurn inBracket) ('\\' :: c :: rest) (.ok (.next inBracket, rest)) :=
  Runs.bump.bind (.ite_pos rfl (Runs.bump.bind (.ite_neg h (.pure _))))

theorem runs_sourceTurn_escape_newline :
    Runs text (Cursor.sourceTurn inBracket) ('\\' :: '\n' :: rest) (.error ⟨.openPattern, rest⟩) :=
  Runs.bump.bind (.ite_pos rfl (Runs.bump.bind (.ite_pos rfl (.fail _))))

theorem runs_sourceTurn_escape_nil :
    Runs text (Cursor.sourceTurn inBracket) ['\\'] (.error ⟨.openPattern, []⟩) :=
  Runs.bump.bind (.ite_pos rfl (Runs.bump_nil.bind (.fail _)))

theorem runs_sourceTurn_close (h : ¬ inBracket) :
    Runs text (Cursor.sourceTurn inBracket) ('/' :: rest) (.ok (.done (), rest)) := by
  refine Runs.bump.bind (.ite_neg (by decide) (.ite_neg (by decide) (.ite_neg (by decide) ?_)))
  exact .ite_pos ⟨rfl, h⟩ (.pure _)

theorem runs_sourceTurn_newline :
    Runs text (Cursor.sourceTurn inBracket) ('\n' :: rest) (.error ⟨.openPattern, rest⟩) := by
  refine Runs.bump.bind (.ite_neg (by decide) (.ite_neg (by decide) (.ite_neg (by decide) ?_)))
  exact .ite_neg (by simp) (.ite_pos rfl (.fail _))

theorem runs_sourceTurn_plain (hescape : c ≠ '\\') (hclose : ¬ (c = '/' ∧ ¬ inBracket)) (hnewline : c ≠ '\n') :
    Runs text (Cursor.sourceTurn inBracket) (c :: rest)
      (.ok (.next (if c = '[' then true else if c = ']' then false else inBracket), rest)) := by
  refine Runs.bump.bind (.ite_neg hescape ?_)
  simp only [if_neg hclose, if_neg hnewline]
  split_ifs
  · exact .pure _
  · exact .pure _
  · exact .pure _

end SourceTurn

theorem loops_source (inBracket : Bool) :
    Loops text Cursor.sourceTurn inBracket rest ((readSource inBracket rest).map fun p => ((), p.2)) := by
  fun_induction readSource inBracket rest with
  | case1 => exact .error (Runs.bump_nil.bind (.fail _))
  | case2 => exact .error runs_sourceTurn_escape_nil
  | case3 => exact .error runs_sourceTurn_escape_newline
  | case4 inBracket c rest hnewline ih =>
    refine .next (runs_sourceTurn_escape hnewline) (by simp only [List.length_cons]; omega) ?_
    exact (map_value_map (fun _ => ()) (fun s => '\\' :: c :: s) _).symm ▸ ih
  | case5 inBracket c rest _ _ hclose =>
    obtain ⟨rfl, hout⟩ := hclose
    exact .done (runs_sourceTurn_close hout)
  | case6 => exact .error runs_sourceTurn_newline
  | case7 inBracket c rest hlast hescape hclose hnewline =>
    rename_i ih
    -- the reader tells a backslash apart by what follows it
    have hbackslash : c ≠ '\\' := by
      rintro rfl
      cases rest with
      | nil => exact hlast rfl rfl
      | cons d rest => exact hescape d rest rfl rfl
    refine .next (runs_sourceTurn_plain hbackslash hclose hnewline) (by simp) ?_
    exact (map_value_map (fun _ => ()) (fun s => c :: s) _).symm ▸ ih

variable [Engine]

theorem runs_pattern {x : Reading Pattern} (h : readPattern rest = x) : Runs text Cursor.pattern ('/' :: rest) x := by
  subst h
  refine (Runs.expect '/' (expect_self _ _)).bind (Runs.get_bind fun start hstart => ?_)
  have hloop : Runs text (Cursor.loop Cursor.sourceTurn false) rest _ := (loops_source false).runs
  rw [readPattern]
  cases hread : readSource false rest with
  | error e =>
    rw [hread] at hloop
    exact hloop.bind_error
  | ok p =>
    obtain ⟨source, rest'⟩ := p
    rw [hread] at hloop
    obtain ⟨rfl, -, -⟩ := eq_of_readSource hread
    refine hloop.bind (Runs.get_bind fun stop hstop => ?_)
    -- the slash that closes the source is one octet, so the cut before the cursor's last octet is in front of it
    have hbefore : Ahead text (stop - 1) ('/' :: rest') := by
      have hslash := hstart.add
      rw [← hslash.cons.unique hstop]
      exact hslash
    refine (Runs.slice hstart hbefore).bind ?_
    dsimp only
    refine .ite (fun _ => .fail _) fun _ => ?_
    refine Runs.get_bind fun flagsStart hflags => (runs_bumpWhile isIdentifierPart).bind ?_
    refine (Runs.since (hflags.span isIdentifierPart)).bind ?_
    cases Pattern.make (String.ofList source) (String.ofList (rest'.takeWhile isIdentifierPart)) with
    | error e => exact .fail _
    | ok p => exact .pure p

end RecordFlow.Literal
