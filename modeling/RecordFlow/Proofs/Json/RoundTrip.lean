import Mathlib.Data.List.DropRight
import RecordFlow.Proofs.Json.Reread
import RecordFlow.Proofs.Json.Scalars
import RecordFlow.Proofs.Text.Pieces

/-! # Written values are read again

A written value is read up to its end, whatever its layout is. The items of a bracket are
read one after another, each up to the comma or the bracket after it; the values of the
items nest one level less deep, so the induction is on the value.
-/

namespace RecordFlow.Json

theorem skipSpace_append {gap : List Char} (h : ∀ c ∈ gap, isSpace c) (text : List Char) :
    skipSpace (gap ++ text) = skipSpace text := List.dropWhile_append_of_pos h

theorem skipSpace_cons {c : Char} (h : ¬ isSpace c) (text : List Char) : skipSpace (c :: text) = c :: text :=
  List.dropWhile_cons_of_neg h

theorem skipSpace_skipSpace (text : List Char) : skipSpace (skipSpace text) = skipSpace text :=
  List.dropWhile_idempotent _ _

theorem not_isDecimalDigit_of_isSpace {c : Char} (h : isSpace c) :
    ¬ isDecimalDigit c ∧ c ≠ '.' ∧ c ≠ 'e' ∧ c ≠ 'E' := by
  simp only [isSpace, decide_eq_true_eq] at h
  rcases h with rfl | rfl | rfl | rfl <;> decide

def IsClosing (c : Char) : Prop := c = ']' ∨ c = '\x7d'

theorem delimited_cons {c : Char} (h : ¬ isDecimalDigit c ∧ c ≠ '.' ∧ c ≠ 'e' ∧ c ≠ 'E') (rest : List Char) :
    Delimited (c :: rest) := by
  rintro _ ⟨⟩
  exact h

theorem delimited_closing {gap : List Char} (hgap : ∀ c ∈ gap, isSpace c) {close : Char} (hclose : IsClosing close)
    (rest : List Char) : Delimited (gap ++ close :: rest) := by
  cases gap with
  | nil => rcases hclose with rfl | rfl <;> exact delimited_cons (by decide) rest
  | cons c gap => exact delimited_cons (not_isDecimalDigit_of_isSpace (hgap c List.mem_cons_self)) _

section Items

variable {α β : Type} {close : Char} {item : List Char → Option (α × List Char)} {limit : Nat}

/-- A reader of items that passes over blanks. -/
structure ReadsItems (close : Char) (item : List Char → Option (α × List Char)) : Prop where
  closing : IsClosing close
  skipSpace : ∀ text, item (skipSpace text) = item text

theorem readSeparated_skipSpace (h : ReadsItems close item) (limit : Nat) (text : List Char) :
    readSeparated close item limit (skipSpace text) = readSeparated close item limit text := by
  cases limit with
  | zero => rfl
  | succ limit => rw [readSeparated, readSeparated, h.skipSpace]

def BeginsItem (close : Char) (text : List Char) : Prop := ∃ c more, Json.skipSpace text = c :: more ∧ c ≠ close

theorem BeginsItem.append {text : List Char} (h : BeginsItem close text) (rest : List Char) :
    BeginsItem close (text ++ rest) := by
  obtain ⟨c, more, htext, hne⟩ := h
  refine ⟨c, more ++ rest, ?_, hne⟩
  unfold Json.skipSpace at htext ⊢
  rw [List.dropWhile_append, htext]
  rfl

theorem readItems_eq_readSeparated (h : ReadsItems close item) {text : List Char} (hbegins : BeginsItem close text) :
    readItems close item limit text = readSeparated close item limit text := by
  obtain ⟨c, more, htext, hne⟩ := hbegins
  rw [← readSeparated_skipSpace h, readItems, htext]
  exact if_neg hne

variable {form : β → List Char} {value : β → Option α}

theorem readSeparated_join (hclose : IsClosing close) {gap : List Char} (hgap : ∀ c ∈ gap, isSpace c) {xs : List β}
    (hxs : xs ≠ []) (hlimit : xs.length ≤ limit)
    (hitem : ∀ x ∈ xs, ∀ rest, Delimited rest → item (form x ++ rest) = (value x).map (·, rest)) (rest : List Char) :
    readSeparated close item limit (Text.join [','] (xs.map form) ++ (gap ++ close :: rest)) =
      (xs.mapM value).map (·, rest) := by
  induction xs generalizing limit with
  | nil => exact absurd rfl hxs
  | cons x xs ih =>
    obtain ⟨limit, rfl⟩ : ∃ n, limit = n + 1 := Nat.exists_eq_succ_of_ne_zero (by simp at hlimit; omega)
    obtain ⟨hx, hxs⟩ := List.forall_mem_cons.1 hitem
    cases xs with
    | nil =>
      have hfirst := hx _ (delimited_closing hgap hclose rest)
      have hnext : skipSpace (gap ++ close :: rest) = close :: rest := by
        rw [skipSpace_append hgap]
        rcases hclose with rfl | rfl <;> rfl
      have hform : Text.join [','] ([x].map form) ++ (gap ++ close :: rest) = form x ++ (gap ++ close :: rest) := rfl
      rw [hform, readSeparated, hfirst]
      cases hvalue : value x <;> simp [hnext, hvalue]
    | cons y xs =>
      have hcomma (more : List Char) : Delimited (',' :: more) := delimited_cons (by decide) more
      have hne : ',' ≠ close := by rcases hclose with rfl | rfl <;> decide
      have hrest := ih (List.cons_ne_nil y xs) (Nat.le_of_succ_le_succ hlimit) hxs
      have hform : Text.join [','] ((x :: y :: xs).map form) ++ (gap ++ close :: rest) =
          form x ++ ',' :: (Text.join [','] ((y :: xs).map form) ++ (gap ++ close :: rest)) := by
        simp [Text.join]
      rw [hform, readSeparated, hx _ (hcomma _), List.mapM_cons]
      cases value x with
      | none => rfl
      | some v =>
        simp only [Option.map_some, skipSpace_cons (c := ',') (by decide), if_neg hne, if_true, hrest]
        cases (y :: xs).mapM value <;> rfl

theorem readItems_contents (h : ReadsItems close item) (l : Layout) (depth : Nat) {xs : List β}
    (hlimit : xs.length ≤ limit) (hbegins : ∀ x ∈ xs, BeginsItem close (form x))
    (hitem : ∀ x ∈ xs, ∀ rest, Delimited rest → item (form x ++ rest) = (value x).map (·, rest)) (rest : List Char) :
    readItems close item limit (l.contents depth close (xs.map form) ++ rest) = (xs.mapM value).map (·, rest) := by
  cases xs with
  | nil =>
    have hspace : ¬ isSpace close := by rcases h.closing with rfl | rfl <;> decide
    simp [Layout.contents, readItems, skipSpace_cons hspace]
  | cons x xs =>
    have hcontents : l.contents depth close ((x :: xs).map form) ++ rest =
        Text.join [','] ((x :: xs).map form) ++ (l.newLine depth ++ close :: rest) := by
      simp [Layout.contents]
    obtain ⟨more, hmore⟩ : ∃ more, Text.join [','] ((x :: xs).map form) = form x ++ more := by
      cases xs with
      | nil => exact ⟨[], (List.append_nil _).symm⟩
      | cons y xs => exact ⟨[','] ++ Text.join [','] ((y :: xs).map form), by simp [Text.join]⟩
    have hfirst : BeginsItem close (Text.join [','] ((x :: xs).map form) ++ (l.newLine depth ++ close :: rest)) := by
      rw [hmore, List.append_assoc]
      exact (hbegins x List.mem_cons_self).append _
    rw [hcontents, readItems_eq_readSeparated h hfirst]
    exact readSeparated_join h.closing (l.isSpace_newLine depth) (List.cons_ne_nil x xs) hlimit hitem rest

end Items

section Scalars

variable {number? : NumberText → Option Number} {limit depth : Nat} {rest : List Char}

theorem readValue_skipSpace (decoding : Decoding) (limit depth : Nat) (text : List Char) :
    readValue decoding limit depth (skipSpace text) = readValue decoding limit depth text := by
  rw [readValue.eq_def, readValue.eq_def]
  simp only [skipSpace_skipSpace]

def BeginsScalar (c : Char) : Prop := ¬ isSpace c ∧ c ≠ '[' ∧ c ≠ '\x7b'

theorem readValue_of_beginsScalar {c : Char} (h : BeginsScalar c) (decoding : Decoding) (text : List Char) :
    readValue decoding limit depth (c :: text) = readScalar decoding (c :: text) := by
  obtain ⟨hspace, hitems, hfields⟩ := h
  rw [readValue.eq_def]
  simp only [skipSpace_cons hspace]
  split
  · next heq => exact absurd (List.cons.inj heq).1 hitems
  · next heq => exact absurd (List.cons.inj heq).1 hfields
  · rfl

theorem readScalar_writeString (s : String) (rest : List Char) :
    readScalar (.converting number?) (writeString s ++ rest) = some (string s, rest) := by
  obtain ⟨pieces, hchars, hread⟩ := readPieces_writeString s rest
  have htext : writeString s ++ rest = '"' :: (s.toList.flatMap escape ++ '"' :: rest) := by
    simp [writeString]
  rw [htext, readScalar, hread]
  simp [Decoding.converting, hchars]

theorem NumberText.WellFormed.of_mem_head?_form {t : NumberText} (h : t.WellFormed) (rest : List Char) :
    ∀ c ∈ (t.form ++ rest).head?, c = '-' ∨ isDecimalDigit c := by
  intro c hc
  by_cases hnegative : t.negative
  · rw [form, if_pos hnegative] at hc
    cases hc
    exact .inl rfl
  · obtain ⟨d, more, hwhole⟩ := List.exists_cons_of_ne_nil h.whole_ne_nil
    rw [form, if_neg hnegative, hwhole] at hc
    cases hc
    exact .inr (h.whole c (by rw [hwhole]; exact List.mem_cons_self))

theorem readScalar_form {t : NumberText} (h : t.WellFormed) (hrest : Delimited rest) :
    readScalar (.converting number?) (t.form ++ rest) = (number? t).map fun n => (number n, rest) := by
  have hread := readNumberText_form h hrest
  have hhead := h.of_mem_head?_form rest
  generalize t.form ++ rest = text at hread hhead
  unfold readScalar
  split
  · cases (hhead 'n' rfl).resolve_left (by decide)
  · cases (hhead 't' rfl).resolve_left (by decide)
  · cases (hhead 'f' rfl).resolve_left (by decide)
  · cases (hhead '"' rfl).resolve_left (by decide)
  · rw [hread]
    cases hn : number? t <;> simp [Decoding.converting, hn]

theorem NumberText.Spells.reread? {t : NumberText} {n : Number} (h : t.Spells n (writeNumber n)) :
    n.reread? number? = number? t := by
  have hend : Delimited [] := nofun
  have hread := readNumberText_form h.wellFormed hend
  rw [List.append_nil, h.form] at hread
  rw [Number.reread?, hread]
  rfl

theorem Number.reread?_nearest? (n : Number) : n.reread? NumberText.nearest? = some n := by
  obtain ⟨t, ht⟩ := exists_spells_writeNumber n
  rw [ht.reread?, ht.nearest?]

theorem beginsScalar_of_digit {c : Char} (h : c = '-' ∨ isDecimalDigit c) : BeginsScalar c := by
  rcases h with rfl | hdigit
  · exact ⟨by decide, by decide, by decide⟩
  · refine ⟨fun hspace => (not_isDecimalDigit_of_isSpace hspace).1 hdigit, ?_, ?_⟩
    · rintro rfl
      cases hdigit
    · rintro rfl
      cases hdigit

theorem exists_head_of_writeNumber (n : Number) :
    ∃ c more, writeNumber n = c :: more ∧ (c = '-' ∨ isDecimalDigit c) := by
  obtain ⟨t, ht⟩ := exists_spells_writeNumber n
  have hhead := ht.wellFormed.of_mem_head?_form []
  have hne : t.form ++ [] ≠ [] := by simp [NumberText.form, ht.wellFormed.whole_ne_nil]
  obtain ⟨c, more, heq⟩ := List.exists_cons_of_ne_nil hne
  rw [heq] at hhead
  rw [List.append_nil, ht.form] at heq
  exact ⟨c, more, heq, hhead c rfl⟩

theorem readValue_writeNumber (n : Number) (hrest : Delimited rest) :
    readValue (.converting number?) limit depth (writeNumber n ++ rest) =
      (n.reread? number?).map fun m => (number m, rest) := by
  obtain ⟨t, ht⟩ := exists_spells_writeNumber n
  obtain ⟨c, more, heq, hc⟩ := exists_head_of_writeNumber n
  rw [ht.reread?, ← readScalar_form ht.wellFormed hrest, ht.form, heq]
  exact readValue_of_beginsScalar (beginsScalar_of_digit hc) _ _

end Scalars

variable {number? : NumberText → Option Number}

theorem readsItems_readValue (decoding : Decoding) (limit depth : Nat) :
    ReadsItems ']' (readValue decoding limit depth) where
  closing := .inl rfl
  skipSpace := readValue_skipSpace decoding limit depth

theorem readsItems_readMember {α : Type} (decoding : Decoding) (value : String → List Char → Option (α × List Char)) :
    ReadsItems '\x7d' (readMember decoding value) where
  closing := .inr rfl
  skipSpace text := by rw [readMember, readMember, skipSpace_skipSpace]

theorem readMember_member {α : Type} {value : String → List Char → Option (α × List Char)} {x : Option α} {key : String}
    {text rest : List Char} {l : Layout} (h : value key (l.gap ++ (text ++ rest)) = x.map (·, rest)) (depth : Nat) :
    readMember (.converting number?) value (l.member depth key text ++ rest) = (x.map (key, ·)).map (·, rest) := by
  obtain ⟨pieces, hchars, hread⟩ := readPieces_writeString key (':' :: (l.gap ++ (text ++ rest)))
  have htext : l.member depth key text ++ rest = l.newLine depth ++
      '"' :: (key.toList.flatMap escape ++ '"' :: ':' :: (l.gap ++ (text ++ rest))) := by
    simp [Layout.member, writeString]
  have hquote (more : List Char) : skipSpace ('"' :: more) = '"' :: more := rfl
  have hcolon (more : List Char) : skipSpace (':' :: more) = ':' :: more := rfl
  rw [htext, readMember, skipSpace_append (l.isSpace_newLine depth), hquote]
  cases x <;> simp [hread, Decoding.converting, hchars, hcolon, h]

theorem beginsItem_member (l : Layout) (depth : Nat) (key : String) (text : List Char) :
    BeginsItem '\x7d' (l.member depth key text) := by
  refine ⟨'"', key.toList.flatMap escape ++ '"' :: ':' :: (l.gap ++ text), ?_, by decide⟩
  have htext : l.member depth key text =
      l.newLine depth ++ '"' :: (key.toList.flatMap escape ++ '"' :: ':' :: (l.gap ++ text)) := by
    simp [Layout.member, writeString]
  rw [htext, skipSpace_append (l.isSpace_newLine depth)]
  rfl

theorem beginsItem_write (l : Layout) (depth : Nat) (v : Json) : BeginsItem ']' (l.write depth v) := by
  have hcons {c : Char} (hspace : ¬ isSpace c) (hne : c ≠ ']') (more : List Char) : BeginsItem ']' (c :: more) :=
    ⟨c, more, skipSpace_cons hspace more, hne⟩
  cases v with
  | number n =>
    rw [Layout.write]
    obtain ⟨c, more, heq, hc⟩ := exists_head_of_writeNumber n
    rw [heq]
    refine hcons (beginsScalar_of_digit hc).1 ?_ more
    rintro rfl
    rcases hc with hc | hc <;> cases hc
  | bool b =>
    rw [Layout.write]
    cases b <;> exact hcons (by decide) (by decide) _
  | null | string | array | object =>
    rw [Layout.write]
    exact hcons (by decide) (by decide) _

theorem readValue_array (decoding : Decoding) (limit depth : Nat) (text : List Char) :
    readValue decoding limit (depth + 1) ('[' :: text) =
      (readItems ']' (readValue decoding limit depth) limit text).map fun (items, rest) => (array items, rest) := rfl

theorem readValue_object (decoding : Decoding) (limit depth : Nat) (text : List Char) :
    readValue decoding limit (depth + 1) ('\x7b' :: text) =
      (readItems '\x7d' (readMember decoding fun _ => readValue decoding limit depth) limit text).map
        fun (fields, rest) => (object (sortFields fields), rest) := rfl

theorem readValue_append (decoding : Decoding) (limit depth : Nat) {gap : List Char} (hgap : ∀ c ∈ gap, isSpace c)
    (text : List Char) : readValue decoding limit depth (gap ++ text) = readValue decoding limit depth text := by
  rw [← readValue_skipSpace, skipSpace_append hgap, readValue_skipSpace]

theorem Layout.length_le_length_member (l : Layout) (depth : Nat) (key : String) (value : List Char) :
    value.length ≤ (l.member depth key value).length := by
  rw [member, List.length_append]
  exact Nat.le_add_left _ _

/-- A bracket is longer than each item, and has fewer items than characters. -/
theorem length_contents (l : Layout) (depth : Nat) (closing : Char) (texts : List (List Char)) :
    texts.length ≤ (l.contents depth closing texts).length ∧
      ∀ text ∈ texts, text.length ≤ (l.contents depth closing texts).length := by
  have hjoin := Text.length_le_length_join (List.cons_ne_nil ',' []) texts
  cases texts with
  | nil => exact ⟨Nat.zero_le _, nofun⟩
  | cons first texts =>
    have hcontents : (l.contents depth closing (first :: texts)).length =
        (Text.join [','] (first :: texts)).length + (l.newLine depth).length + 1 := by
      simp [Layout.contents, Nat.add_assoc]
    refine ⟨by omega, fun text htext => ?_⟩
    have := Text.length_le_of_mem_join [','] htext
    omega

theorem readValue_write_array (l : Layout) {items : List Json} {written limit depth : Nat}
    (hitems : ∀ item ∈ items, (l.write (written + 1) item).length ≤ limit → ∀ rest, Delimited rest →
      readValue (.converting number?) limit depth (l.write (written + 1) item ++ rest) =
        (item.reread? number?).map (·, rest))
    (hlimit : (l.write written (array items)).length ≤ limit) (rest : List Char) :
    readValue (.converting number?) limit (depth + 1) (l.write written (array items) ++ rest) =
      ((array items).reread? number?).map (·, rest) := by
  let form (item : Json) := l.newLine (written + 1) ++ l.write (written + 1) item
  have hform : l.write written (array items) = '[' :: l.contents written ']' (items.map form) := by
    rw [Layout.write]
  rw [hform] at hlimit ⊢
  obtain ⟨hcount, hlengths⟩ := length_contents l written ']' (items.map form)
  rw [List.length_cons] at hlimit
  have hbegins (item : Json) (_ : item ∈ items) : BeginsItem ']' (form item) := by
    obtain ⟨c, more, heq, hne⟩ := beginsItem_write l (written + 1) item
    exact ⟨c, more, (skipSpace_append (l.isSpace_newLine _) _).trans heq, hne⟩
  have hitem (item : Json) (hmem : item ∈ items) (rest : List Char) (hrest : Delimited rest) :
      readValue (.converting number?) limit depth (form item ++ rest) = (item.reread? number?).map (·, rest) := by
    have hlength := hlengths (form item) (List.mem_map_of_mem hmem)
    rw [List.length_append] at hlength
    rw [List.append_assoc, readValue_append _ _ _ (l.isSpace_newLine _)]
    exact hitems item hmem (by omega) rest hrest
  have hnumber : items.length ≤ limit := by
    rw [List.length_map] at hcount
    omega
  rw [List.cons_append, readValue_array,
    readItems_contents (readsItems_readValue _ limit depth) l written hnumber hbegins hitem rest, reread?,
    rereadItems?_eq]
  cases items.mapM (reread? number?) <;> rfl

theorem keys_of_mapM {fields reread : List (String × Json)}
    (h : (fields.mapM fun field => (field.2.reread? number?).map (field.1, ·)) = some reread) :
    reread.map (·.1) = fields.map (·.1) := by
  induction fields generalizing reread with
  | nil =>
    cases h
    rfl
  | cons field fields ih =>
    rw [List.mapM_cons] at h
    obtain ⟨field', hfield, h⟩ := Option.bind_eq_some_iff.1 h
    obtain ⟨fields', hfields, h⟩ := Option.bind_eq_some_iff.1 h
    obtain ⟨v, -, rfl⟩ := Option.map_eq_some_iff.1 hfield
    cases h
    rw [List.map_cons, List.map_cons, ih hfields]

theorem pairwise_entryLess_iff {fields : List (String × Json)} :
    fields.Pairwise entryLess ↔ (fields.map (·.1)).Pairwise (· < ·) := by
  rw [List.pairwise_map]
  rfl

theorem readValue_write_object (l : Layout) {fields : List (String × Json)} {written limit depth : Nat}
    (hascending : fields.Pairwise entryLess)
    (hvalues : ∀ field ∈ fields, (l.write (written + 1) field.2).length ≤ limit → ∀ rest, Delimited rest →
      readValue (.converting number?) limit depth (l.write (written + 1) field.2 ++ rest) =
        (field.2.reread? number?).map (·, rest))
    (hlimit : (l.write written (object fields)).length ≤ limit) (rest : List Char) :
    readValue (.converting number?) limit (depth + 1) (l.write written (object fields) ++ rest) =
      ((object fields).reread? number?).map (·, rest) := by
  let form (field : String × Json) := l.member (written + 1) field.1 (l.write (written + 1) field.2)
  have hform : l.write written (object fields) = '\x7b' :: l.contents written '\x7d' (fields.map form) := by
    rw [Layout.write]
  rw [hform] at hlimit ⊢
  obtain ⟨hcount, hlengths⟩ := length_contents l written '\x7d' (fields.map form)
  rw [List.length_cons] at hlimit
  have hmember (field : String × Json) (hmem : field ∈ fields) (rest : List Char) (hrest : Delimited rest) :
      readMember (.converting number?) (fun _ => readValue (.converting number?) limit depth) (form field ++ rest) =
        ((field.2.reread? number?).map (field.1, ·)).map (·, rest) := by
    have hlength := (l.length_le_length_member (written + 1) field.1 _).trans
      (hlengths (form field) (List.mem_map_of_mem hmem))
    refine readMember_member ?_ _
    rw [readValue_append _ _ _ l.isSpace_gap]
    exact hvalues field hmem (by omega) rest hrest
  have hnumber : fields.length ≤ limit := by
    rw [List.length_map] at hcount
    omega
  rw [List.cons_append, readValue_object, readItems_contents (readsItems_readMember _ _) l written hnumber
    (fun _ _ => beginsItem_member ..) hmember rest, reread?, rereadFields?_eq]
  cases hreread : fields.mapM fun field => (field.2.reread? number?).map (field.1, ·) with
  | none => rfl
  | some reread =>
    have hkeys : reread.Pairwise entryLess := by
      rw [pairwise_entryLess_iff, keys_of_mapM hreread, ← pairwise_entryLess_iff]
      exact hascending
    simp only [Option.map_some, sortFields_of_ascending hkeys]

/-- A written value is read up to its end. -/
theorem readValue_write (number? : NumberText → Option Number) (l : Layout) {v : Json} (hv : v.Ordered)
    {written limit depth : Nat} (hdepth : v.depth ≤ depth) (hlimit : (l.write written v).length ≤ limit)
    {rest : List Char} (hrest : Delimited rest) :
    readValue (.converting number?) limit depth (l.write written v ++ rest) = (v.reread? number?).map (·, rest) := by
  induction v using Json.induction generalizing written depth rest with
  | null =>
    rw [Layout.write]
    exact readValue_of_beginsScalar ⟨by decide, by decide, by decide⟩ _ _
  | bool b =>
    rw [Layout.write]
    cases b <;> exact readValue_of_beginsScalar ⟨by decide, by decide, by decide⟩ _ _
  | number n =>
    rw [Layout.write, reread?, readValue_writeNumber n hrest, Option.map_map]
    rfl
  | string s =>
    have hread : readScalar (.converting number?) (writeString s ++ rest) = some (string s, rest) :=
      readScalar_writeString s rest
    rw [Layout.write]
    refine Eq.trans ?_ hread
    exact readValue_of_beginsScalar ⟨by decide, by decide, by decide⟩ _ _
  | array items ih =>
    cases hv with | array hitems =>
    obtain ⟨depth, rfl⟩ : ∃ n, depth = n + 1 := Nat.exists_eq_succ_of_ne_zero (by rw [Json.depth] at hdepth; omega)
    have hdepths := depthOfItems_le_iff.1 (Nat.le_of_succ_le_succ hdepth)
    refine readValue_write_array l (fun item hmem hlength rest hrest => ?_) hlimit rest
    exact ih item hmem (hitems item hmem) (hdepths item hmem) hlength hrest
  | object fields ih =>
    cases hv with | object hascending hvalues =>
    obtain ⟨depth, rfl⟩ : ∃ n, depth = n + 1 := Nat.exists_eq_succ_of_ne_zero (by rw [Json.depth] at hdepth; omega)
    have hdepths := depthOfFields_le_iff.1 (Nat.le_of_succ_le_succ hdepth)
    refine readValue_write_object l hascending (fun field hmem hlength rest hrest => ?_) hlimit rest
    exact ih field hmem (hvalues field hmem) (hdepths field hmem) hlength hrest

theorem ofText?_compact {v : Json} (hv : v.Ordered) (hdepth : v.depth ≤ maxDepth) :
    ofText? v.compact = v.reread? NumberText.toNumber? := by
  have hend : Delimited [] := nofun
  have hlimit : (Layout.compact.write 0 v).length ≤ v.write.length := by rw [write_compact]
  have hread := readValue_write NumberText.toNumber? .compact hv hdepth hlimit hend
  rw [List.append_nil, write_compact] at hread
  unfold ofText? compact
  simp only [String.toList_ofList, Decoding.exact, hread]
  cases v.reread? NumberText.toNumber? <;> rfl

/-- A number that is read back from its own text. -/
def Number.ReadsBack (n : Number) : Prop := ofText? (number n).compact = some (number n)

theorem Number.readsBack_iff {n : Number} : n.ReadsBack ↔ n.reread? NumberText.toNumber? = some n := by
  rw [ReadsBack, ofText?_compact (.number n) (Nat.zero_le _), Json.reread?]
  simp

theorem NumberText.toInteger?_of_nearest? {t : NumberText} {value : Int} {inRange : FitsWord value}
    (h : t.nearest? = some (.integer value inRange)) : t.toInteger? = some (.integer value inRange) := by
  rw [nearest?] at h
  cases ht : t.toInteger? with
  | some n => simpa [ht] using h
  | none =>
    have hfloat : t.nearestFloat? = some (.integer value inRange) := by simpa [ht] using h
    simp only [nearestFloat?] at hfloat
    split at hfloat <;> cases hfloat

/-- Only floating point numbers may be read as other numbers than they are. -/
theorem Number.readsBack_integer (value : Int) (inRange : FitsWord value) : (integer value inRange).ReadsBack := by
  obtain ⟨t, ht⟩ := exists_spells_writeNumber (integer value inRange)
  rw [readsBack_iff, ht.reread?, NumberText.toNumber?, NumberText.toInteger?_of_nearest? ht.nearest?]
  rfl

end RecordFlow.Json
