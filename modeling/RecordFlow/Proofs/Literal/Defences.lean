import RecordFlow.Proofs.Literal.Located
import RecordFlow.Proofs.Literal.Rendering
import RecordFlow.Proofs.Pattern.Flags
import RecordFlow.Regex.Engine

/-! # Refusals that no text leads to

The readers hold refusals that are there for the case that another part of them is wrong. A pattern
is read only behind blanks and comments, where two slashes would have been taken for a comment, so its source is
never empty. What was scanned as hexadecimal digits or as a numeral is always converted.
-/

namespace RecordFlow

variable [Engine]

def Scalar.patterns : Scalar → List Pattern
  | .pattern q => [q]
  | _ => []

def Parameters.patterns (p : Parameters) : List Pattern :=
  p.entries.flatMap fun e => e.2.scalars.flatMap Scalar.patterns

end RecordFlow

namespace RecordFlow.Literal

open Grammar

variable {α β : Type} {text rest : List Char}

/-- A source between the slashes of a value: with the slash in front of it, it opens no comment. -/
structure IsSource (source : List Char) : Prop where
  ne_nil : source ≠ []
  head : ∀ c ∈ source.head?, c ≠ '/' ∧ c ≠ '*'

theorem isSource_of_readSource {source : List Char} (h : readSource false text = .ok (source, rest))
    (hhead : ∀ c ∈ text.head?, c ≠ '/' ∧ c ≠ '*') : IsSource source := by
  obtain ⟨rfl, -, -⟩ := eq_of_readSource h
  constructor
  · rintro rfl
    exact (hhead '/' rfl).1 rfl
  · intro c hc
    refine hhead c ?_
    rw [List.head?_append, Option.mem_def.mp hc]
    rfl

/-- A fault that some text leads to: the pattern that the engine refuses has a source. -/
def Fault.Arises : Fault → Prop
  | .emptyPattern => False
  | .pattern (.invalidExpression source) => IsSource source.toList
  | _ => True

/-- A reader fails with such faults only. -/
def FaultsArise (x : Except Failure α) : Prop := ∀ e, x = .error e → e.fault.Arises

namespace FaultsArise

variable {x : Except Failure α} {e : Failure}

theorem ok (a : α) : FaultsArise (.ok a) := nofun

theorem error {fault : Fault} (h : fault.Arises) : FaultsArise (.error ⟨fault, rest⟩ : Except Failure α) := by
  rintro _ ⟨⟩
  exact h

theorem passed (h : FaultsArise x) (hx : x = .error e) : FaultsArise (.error e : Except Failure β) := by
  rintro _ ⟨⟩
  exact h e hx

theorem map (h : FaultsArise x) (f : α → β) : FaultsArise (x.map f) := by
  cases x with
  | error e => exact h.passed rfl
  | ok a => exact .ok _

end FaultsArise

theorem faultsArise_skipTrivia (text : List Char) : FaultsArise (skipTrivia text) := by
  fun_induction skipTrivia text with
  | case1 => exact .ok _
  | case2 text ih => exact ih
  | case3 text rest _ ih => exact ih
  | case4 => exact .error trivial
  | case5 c text _ _ _ ih => exact ih
  | case6 => exact .ok _

theorem faultsArise_expect (wanted : Char) (text : List Char) : FaultsArise (expect wanted text) := by
  fun_cases expect wanted text with
  | case1 => exact .error trivial
  | case2 => exact .ok _
  | case3 => exact .error trivial

theorem faultsArise_readKey (text : List Char) : FaultsArise (readKey text) := by
  fun_cases readKey text with
  | case1 => exact .error trivial
  | case2 => exact .ok _
  | case3 => exact .error trivial

theorem faultsArise_readHex (value count : Nat) (text : List Char) : FaultsArise (readHex value count text) := by
  fun_induction readHex value count text with
  | case1 => exact .ok _
  | case2 => exact .error trivial
  | case3 value count c text digit _ ih => exact ih
  | case4 => exact .error trivial

theorem faultsArise_charOfCode (code : Nat) (rest : List Char) : FaultsArise (charOfCode code rest) := by
  fun_cases charOfCode code rest with
  | case1 => exact .ok _
  | case2 => exact .error trivial

theorem faultsArise_readBracedCode (text : List Char) : FaultsArise (readBracedCode text) := by
  fun_cases readBracedCode text with
  | case1 e h => exact (faultsArise_expect _ _).passed h
  | case2 => exact .error trivial
  | case3 => exact faultsArise_charOfCode _ _

theorem faultsArise_readFixedCode (count : Nat) (text : List Char) :
    FaultsArise (readFixedCode count text) := by
  fun_cases readFixedCode count text with
  | case1 e h => exact (faultsArise_readHex _ _ _).passed h
  | case2 => exact faultsArise_charOfCode _ _

theorem faultsArise_readEscape (text : List Char) : FaultsArise (readEscape text) := by
  fun_cases readEscape text with
  | case1 => exact .error trivial
  | case2 => exact faultsArise_readFixedCode _ _
  | case3 text =>
    fun_cases readUnicodeEscape text with
    | case1 => exact .error trivial
    | case2 => exact faultsArise_readBracedCode _
    | case3 => exact faultsArise_readFixedCode _ _
  | case4 => exact .ok _

theorem faultsArise_readString (quote : Char) (text : List Char) : FaultsArise (readString quote text) := by
  fun_induction readString quote text with
  | case1 => exact .error trivial
  | case2 => exact .ok _
  | case3 text e h => exact (faultsArise_readEscape _).passed h
  | case4 text chars rest _ _ ih => exact ih.map _
  | case5 => exact .error trivial
  | case6 c text _ _ _ ih => exact ih.map _

theorem faultsArise_endNumber (x : Binary64) (text : List Char) : FaultsArise (endNumber x text) := by
  fun_cases endNumber x text with
  | case1 => exact .ok _
  | case2 => exact .error trivial
  | case3 => exact .ok _

theorem faultsArise_readExponent (text : List Char) : FaultsArise (readExponent text) := by
  fun_cases readExponent text with
  | case1 => exact .ok _
  | case2 => exact .error trivial
  | case3 => exact .ok _
  | case4 => exact .ok _

theorem faultsArise_readMagnitude (negative : Bool) (text : List Char) :
    FaultsArise (readMagnitude negative text) := by
  have hhex (text : List Char) : FaultsArise (readHexNumber negative text) := by
    fun_cases readHexNumber negative text with
    | case1 => exact .error trivial
    | case2 => exact faultsArise_endNumber _ _
  have hdecimal (text : List Char) : FaultsArise (readDecimal negative text) := by
    fun_cases readDecimal negative text with
    | case1 => exact .error trivial
    | case2 => exact (faultsArise_readExponent _).passed ‹_›
    | case3 => exact faultsArise_endNumber _ _
  fun_cases readMagnitude negative text with
  | case1 text => exact hhex text
  | case2 text => exact hhex text
  | case3 => exact hdecimal text

theorem faultsArise_readNumber (text : List Char) : FaultsArise (readNumber text) := by
  fun_cases readNumber text with
  | case1 => exact faultsArise_readMagnitude _ _
  | case2 => exact faultsArise_readMagnitude _ _

theorem faultsArise_readSource (inBracket : Bool) (text : List Char) :
    FaultsArise (readSource inBracket text) := by
  fun_induction readSource inBracket text with
  | case1 => exact .error trivial
  | case2 => exact .error trivial
  | case3 => exact .error trivial
  | case4 inBracket c text _ ih => exact ih.map _
  | case5 => exact .ok _
  | case6 => exact .error trivial
  | case7 =>
    rename_i ih
    exact ih.map _

/-- What the messages of the refusals begin with that no text leads to. -/
def unusedWordings : List String := ["empty regular expression", "expected string", "invalid numeric literal: "]

section Openings

variable {opening message : String}

theorem prefix_append (h : opening.toList <+: message.toList) (more : String) :
    opening.toList <+: (message ++ more).toList := by
  rw [String.toList_append]
  exact h.trans (List.prefix_append _ _)

theorem prefix_append_two (opening more last : String) : opening.toList <+: (opening ++ more ++ last).toList :=
  prefix_append (prefix_append (List.prefix_refl _) _) _

theorem prefix_inApostrophes (opening : String) (c : Char) :
    (opening ++ "'").toList <+: (opening ++ Fault.inApostrophes c).toList := by
  rw [String.toList_append, String.toList_append]
  exact (List.prefix_append_right_inj _).mpr (prefix_append_two "'" c.toString "'")

/-- A message begins with no unused wording if its opening is told apart from all of them. -/
theorem unused_of_opening (opening : String) (h : opening.toList <+: message.toList)
    (hopening : ∀ w ∈ unusedWordings, ¬ w.toList <+: opening.toList ∧ ¬ opening.toList <+: w.toList) :
    ∀ w ∈ unusedWordings, ¬ w.toList <+: message.toList := fun w hw hprefix =>
  (List.prefix_or_prefix_of_prefix hprefix h).elim (hopening w hw).1 (hopening w hw).2

end Openings

theorem Fault.Arises.message {fault : Fault} (h : fault.Arises) :
    ∀ w ∈ unusedWordings, ¬ w.toList <+: fault.message.toList := by
  cases fault with
  | emptyPattern => exact h.elim
  | expected wanted found =>
    exact unused_of_opening ("expected " ++ "'")
      (prefix_append (prefix_append (prefix_inApostrophes _ wanted) _) _) (by decide)
  | expectedAtEnd wanted =>
    exact unused_of_opening ("expected " ++ "'") (prefix_append (prefix_inApostrophes _ wanted) _) (by decide)
  | afterObject found =>
    exact unused_of_opening ("unexpected " ++ "'") (prefix_append (prefix_inApostrophes _ found) _) (by decide)
  | noValue found =>
    exact unused_of_opening ("unexpected " ++ "'") (prefix_append (prefix_inApostrophes _ found) _) (by decide)
  | noKey found =>
    exact unused_of_opening "expected identifier key, found " (prefix_append (List.prefix_refl _) _) (by decide)
  | noCommaOrBrace found =>
    exact unused_of_opening "expected ',' or '\x7d', found " (prefix_append (List.prefix_refl _) _) (by decide)
  | noCommaOrBracket found =>
    exact unused_of_opening "expected ',' or ']', found " (prefix_append (List.prefix_refl _) _) (by decide)
  | codePoint code =>
    exact unused_of_opening "invalid code point 0x" (prefix_append (List.prefix_refl _) _) (by decide)
  | notALiteral word => exact unused_of_opening "'" (prefix_append_two _ _ _) (by decide)
  | pattern e =>
    cases e with
    | unknownFlag flag =>
      exact unused_of_opening "unknown regular expression flag '" (prefix_append_two _ _ _) (by decide)
    | duplicateFlag flag =>
      exact unused_of_opening "duplicate regular expression flag '" (prefix_append_two _ _ _) (by decide)
    | invalidExpression source =>
      exact unused_of_opening "invalid regular expression /" (prefix_append (prefix_append_two _ _ _) _) (by decide)
  | openComment | missingBrace | missingBracket | nestedArray | nestedObject | valueAtEnd | openString | hexEscape
  | unicodeEscape | hexNumber | numeral | missingExponent | wordAfterNumber | openPattern => decide

section Spans

variable {γ : Type} {m : Cursor α} {f : α → Cursor β} {a : α} {reading : Reading β} {start offset stop : Nat}

theorem Matches.following (h : Matches text ((m >>= f) text offset) reading)
    (hm : m text offset = .ok (a, stop)) : Matches text (f a text stop) reading := by
  change Matches text (Except.bind (m text offset) fun p => f p.1 text p.2) reading at h
  rwa [hm] at h

/-- Goes on with what a text that was scanned is converted to. -/
def Cursor.converted (convert : List Char → Option γ) (start : Nat) (f : γ → Cursor β) : Cursor β := do
  match convert (← Cursor.since start) with
  | some c => f c
  | none => throw .scan

theorem Matches.exists_span {convert : List Char → Option γ} {f : γ → Cursor β}
    (h : Matches text (Cursor.converted convert start f text stop) reading) :
    ∃ span, Text.slice? start stop text = some span ∧ (convert span).isSome := by
  have hrun : Cursor.converted convert start f text stop =
      Except.bind (Cursor.ofCut (Text.slice? start stop text) text stop)
        fun p => (match convert p.1 with | some c => f c | none => throw .scan : Cursor β) text p.2 := rfl
  rw [hrun] at h
  cases hslice : Text.slice? start stop text with
  | none =>
    rw [hslice] at h
    cases h
  | some span =>
    rw [hslice] at h
    refine ⟨span, rfl, ?_⟩
    cases hconvert : convert span with
    | some c => rfl
    | none =>
      change Matches text ((match convert span with | some c => f c | none => throw .scan : Cursor β) text stop) _ at h
      rw [hconvert] at h
      cases h

end Spans

theorem Cursor.fixedCode_eq (count : Nat) : Cursor.fixedCode count = (do
    let start ← get
    Cursor.bumpHex count
    Cursor.converted (ofHexText? 0x100000000) start Cursor.charOf) := by
  refine bind_congr fun start => bind_congr fun _ => bind_congr fun span => ?_
  cases ofHexText? 0x100000000 span <;> rfl

theorem exists_span_of_bumpHex {start stop count : Nat} (hcount : 0 < count ∧ count ≤ 8)
    (hahead : Ahead text start rest) (h : Cursor.bumpHex count text start = .ok ((), stop)) :
    ∃ span, Text.slice? start stop text = some span ∧ (ofHexText? 0x100000000 span).isSome := by
  -- the run matches a reading of the grammar, and a failed conversion matches none
  have hmatches := runs_fixedCode hcount rfl start hahead
  rw [Cursor.fixedCode_eq] at hmatches
  have hget : (get : Cursor Nat) text start = .ok (start, start) := rfl
  exact ((hmatches.following hget).following h).exists_span

def Cursor.numeral : Cursor Unit := do
  let whole ← Cursor.bumpWhile isDecimalDigit
  let places ← Cursor.fraction
  if whole + places = 0 then Cursor.fail .numeral
  else do
    Cursor.exponent
    Cursor.endOfWord

theorem Cursor.decimal_eq (start : Nat) :
    Cursor.decimal start = Cursor.numeral >>= fun _ => Cursor.converted ofDecimalText? start pure := by
  rw [Cursor.decimal, Cursor.numeral, bind_assoc]
  refine bind_congr fun whole => ?_
  rw [bind_assoc]
  refine bind_congr fun places => ?_
  by_cases hnone : whole + places = 0
  · rw [if_pos hnone, if_pos hnone]
    rfl
  · rw [if_neg hnone, if_neg hnone, bind_assoc]
    refine bind_congr fun _ => bind_congr fun _ => bind_congr fun span => ?_
    cases ofDecimalText? span <;> rfl

/-- A numeral that was scanned is converted, with the sign in front of it. -/
theorem exists_span_of_numeral {sign : List Char} {negative : Bool} {start stop : Nat} (hsign : Sign sign negative)
    (hahead : Ahead text start (sign ++ rest))
    (h : Cursor.numeral text (start + Text.octets sign) = .ok ((), stop)) :
    ∃ span, Text.slice? start stop text = some span ∧ (ofDecimalText? span).isSome := by
  have hmatches := runs_decimal hsign hahead _ hahead.add
  rw [Cursor.decimal_eq] at hmatches
  exact (hmatches.following h).exists_span

variable [Engine]

theorem isSource_of_scalarAt {q : Pattern} (h : ScalarAt OnOneLine text rest (.pattern q)) :
    IsSource q.source.toList := by
  generalize hs : Scalar.pattern q = s at h
  cases h with
  | string | number | boolean => cases hs
  | pattern hne hstar hsource hline hend =>
    cases hs
    refine ⟨by simpa using hne, fun c hc => ⟨?_, ?_⟩⟩
    · rintro rfl
      exact hsource.head_ne_slash hc
    · rintro rfl
      exact hstar hc

/-- Where a pattern is read, its source is not empty, and the engine is asked for a source. -/
theorem faultsArise_readPattern (hhead : ∀ c ∈ text.head?, c ≠ '/' ∧ c ≠ '*') :
    FaultsArise (readPattern text) := by
  fun_cases readPattern text with
  | case1 e h => exact (faultsArise_readSource _ _).passed h
  | case2 source rest h hempty =>
    have hsource := isSource_of_readSource h hhead
    exact absurd (List.isEmpty_iff.mp hempty) hsource.ne_nil
  | case3 source rest h hne flags rest' e hmake =>
    refine .error ?_
    rcases Pattern.make_eq_error_iff.mp hmake with ⟨before, flag, after, -, -, hrefused⟩ | ⟨-, -, rfl⟩
    · cases hrefused <;> trivial
    · have hsource := isSource_of_readSource h hhead
      rwa [Fault.Arises, String.toList_ofList]
  | case4 => exact .ok _

theorem faultsArise_readWord (text : List Char) : FaultsArise (readWord text) := by
  fun_cases readWord text with
  | case1 => exact .ok _
  | case2 => exact .ok _
  | case3 => exact .error trivial

theorem faultsArise_readScalar (htoken : BeginsToken text) : FaultsArise (readScalar text) := by
  fun_cases readScalar text with
  | case1 => exact .error trivial
  | case2 => exact (faultsArise_readString _ _).map _
  | case3 => exact .error trivial
  | case4 rest _ _ => exact (faultsArise_readPattern (htoken rest rfl)).map _
  | case5 => exact .error trivial
  | case6 => exact (faultsArise_readNumber _).map _
  | case7 => exact faultsArise_readWord _
  | case8 => exact .error trivial

theorem faultsArise_readItems (text : List Char) : FaultsArise (readItems text) := by
  fun_induction readItems text with
  | case1 text e h => exact (faultsArise_skipTrivia _).passed h
  | case2 => exact .ok _
  | case3 text value _ h e hitem => exact (faultsArise_readScalar (beginsToken_of_skipTrivia h)).passed hitem
  | case4 text value _ h item rest _ e hnext => exact (faultsArise_skipTrivia _).passed hnext
  | case5 => exact .error trivial
  | case6 =>
    rename_i ih
    exact ih.map _
  | case7 => exact .ok _
  | case8 => exact .error trivial

theorem faultsArise_readValue (htoken : BeginsToken text) : FaultsArise (readValue text) := by
  fun_cases readValue text with
  | case1 => exact (faultsArise_readItems _).map _
  | case2 => exact (faultsArise_readScalar htoken).map _

theorem faultsArise_readMember (text : List Char) : FaultsArise (readMember text) := by
  fun_cases readMember text with
  | case1 e h => exact (faultsArise_readKey _).passed h
  | case2 key rest _ e h => exact (faultsArise_skipTrivia _).passed h
  | case3 key rest _ colon _ e h => exact (faultsArise_expect _ _).passed h
  | case4 key rest _ colon _ value _ e h => exact (faultsArise_skipTrivia _).passed h
  | case5 key rest _ colon _ after _ value h => exact (faultsArise_readValue (beginsToken_of_skipTrivia h)).map _

theorem faultsArise_readMembers (text : List Char) : FaultsArise (readMembers text) := by
  fun_induction readMembers text with
  | case1 text e h => exact (faultsArise_skipTrivia _).passed h
  | case2 => exact .ok _
  | case3 text member _ _ e hmember => exact (faultsArise_readMember _).passed hmember
  | case4 text member _ _ m rest _ e hnext => exact (faultsArise_skipTrivia _).passed hnext
  | case5 => exact .error trivial
  | case6 =>
    rename_i ih
    exact ih.map _
  | case7 => exact .ok _
  | case8 => exact .error trivial

theorem faultsArise_readText (text : List Char) : FaultsArise (readText text) := by
  have hobject : FaultsArise (readObject text) := by
    fun_cases readObject text with
    | case1 e h => exact (faultsArise_skipTrivia _).passed h
    | case2 rest _ e h => exact (faultsArise_expect _ _).passed h
    | case3 => exact faultsArise_readMembers _
  fun_cases readText text with
  | case1 e h => exact hobject.passed h
  | case2 members rest _ e h => exact (faultsArise_skipTrivia _).passed h
  | case3 => exact .ok _
  | case4 => exact .error trivial

theorem isSource_of_readText {members : List (String × Literal)} (h : readText text = .ok members) :
    ∀ q ∈ Parameters.patterns (.ofList members), IsSource q.source.toList := by
  intro q hq
  obtain ⟨m, hm, hq⟩ := List.mem_flatMap.mp hq
  obtain ⟨s, hs, hq⟩ := List.mem_flatMap.mp hq
  obtain rfl : s = .pattern q := by
    cases s with
    | pattern p => rw [List.mem_singleton.mp hq]
    | string | number | boolean => cases hq
  obtain ⟨member, next, hmember⟩ := memberAt_of_readText h m (Dict.mem_of_mem_ofList hm)
  cases hmember with
  | mk _ _ _ _ hvalue =>
    cases hvalue with
    | scalar hscalar =>
      cases List.mem_singleton.mp hs
      exact isSource_of_scalarAt hscalar
    | array hitems =>
      obtain ⟨value, rest, hscalar⟩ := hitems.mem _ hs
      exact isSource_of_scalarAt hscalar

end RecordFlow.Literal

namespace RecordFlow

open Literal Grammar

section

variable [Engine]

/-- No run over a text stops because a conversion does not take what was scanned for it, or because a string has no
quote. The patterns that are read have sources that open no comment, and a fault is never that of an empty pattern,
nor worded like a refusal that no text leads to. Wherever two or four hexadecimal digits or a numeral are scanned in
a text, they are converted. -/
theorem Parameters.unreached_refusals (text : String) :
    runText text ≠ .error .scan ∧
    ((∃ p : Parameters, runText text = .ok p ∧ Parameters.read text = .ok p ∧
        ∀ q ∈ p.patterns, IsSource q.source.toList) ∨
      ∃ fault, runText text = .error (.fault fault) ∧
        Parameters.read text = .error (.declarationSyntax text (.literal fault)) ∧ fault.fault.Arises ∧
        ∀ w ∈ unusedWordings, ¬ w.toList <+: fault.fault.message.toList) ∧
    (∀ start rest count stop, Ahead text.toList start rest → count = 2 ∨ count = 4 →
      Cursor.bumpHex count text.toList start = .ok ((), stop) →
      ∃ span, Text.slice? start stop text.toList = some span ∧ (ofHexText? 0x100000000 span).isSome) ∧
    ∀ start sign negative rest stop, Ahead text.toList start (sign ++ rest) → Sign sign negative →
      Cursor.numeral text.toList (start + Text.octets sign) = .ok ((), stop) →
      ∃ span, Text.slice? start stop text.toList = some span ∧ (ofDecimalText? span).isSome := by
  refine ⟨?_, ?_, ?_, ?_⟩
  · rcases runText_eq text with ⟨members, -, hrun⟩ | ⟨e, offset, -, -, hrun⟩
    · rw [hrun]
      rintro ⟨⟩
    · rw [hrun]
      rintro ⟨⟩
  · rcases runText_eq text with ⟨members, hread, hrun⟩ | ⟨e, offset, hread, hahead, hrun⟩
    · have htext : Parameters.ofText text = .ok (.ofList members) := by rw [Parameters.ofText, hread]
      exact .inl ⟨_, hrun, by rw [Parameters.read, htext]; rfl, isSource_of_readText hread⟩
    · have htext : Parameters.ofText text = .error ⟨e.fault, offset⟩ := by
        rw [Parameters.ofText, hread, hahead.eq_sub]
        rfl
      have harises : e.fault.Arises := faultsArise_readText text.toList e hread
      exact .inr ⟨_, hrun, by rw [Parameters.read, htext]; rfl, harises, harises.message⟩
  · rintro start rest count stop hahead hcount h
    exact exists_span_of_bumpHex (by omega) hahead h
  · rintro start sign negative rest stop hahead hsign h
    exact exists_span_of_numeral hsign hahead h

end

open scoped Regex

/-- An escape by a code, a signed numeral that begins with its point, and two slashes in place of a value. -/
theorem Parameters.unreached_refusals_spans :
    let text := "\x7ba: '\\x41', b: -.5e1\x7d"
    (∃ span, Text.slice? 7 9 text.toList = some span ∧ (ofHexText? 0x100000000 span).isSome) ∧
    (∃ span, Text.slice? 15 20 text.toList = some span ∧ (ofDecimalText? span).isSome) ∧
    runText "\x7ba: //\x7d" ≠ .error .scan := by
  intro text
  obtain ⟨-, -, hhex, hnumeral⟩ := Parameters.unreached_refusals text
  have hdigits : Ahead text.toList 7 "41', b: -.5e1\x7d".toList := ⟨"\x7ba: '\\x".toList, by decide, by decide⟩
  have hsign : Ahead text.toList 15 (['-'] ++ ".5e1\x7d".toList) :=
    ⟨"\x7ba: '\\x41', b: ".toList, by decide, by decide⟩
  refine ⟨?_, ?_, (Parameters.unreached_refusals "\x7ba: //\x7d").1⟩
  · exact hhex 7 _ 2 9 hdigits (.inl rfl) (by decide +kernel)
  · exact hnumeral 15 ['-'] true _ 20 hsign .minus (by decide +kernel)

end RecordFlow
