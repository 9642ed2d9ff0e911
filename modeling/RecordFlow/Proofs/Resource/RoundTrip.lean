import RecordFlow.Proofs.Json.RoundTrip
import RecordFlow.Proofs.Resource.Reading
import RecordFlow.Regex.Engine

/-! # Written resources are read again

A resource is an object of at most three fields. Each field is read by its own name, from
a value that nests one level less deep than the resource. Absent metadata is a field that
is left out, so it stays absent; empty metadata is an empty object. The resource that is
read differs at most in its numbers, so it is the one that was written if and only if every
number in it is read back from its own text.
-/

namespace RecordFlow

namespace Resource

open Json (readItems readMember readValue skipSpace Layout Delimited NumberText)

def fields (r : Resource) : List (String × Json) :=
  let metadata := match r.metadata with
    | none => []
    | some fields => [("metadata", Json.ofDict fields)]
  ("resourceType", .string r.resourceType) :: metadata ++ [("data", .array (r.records.map Json.ofDict))]

theorem toJson_eq (r : Resource) : r.toJson = .object r.fields := rfl

def Field.ofJson? (key : String) (v : Json) : Option Field :=
  if key = "resourceType" then v.asString?.map .resourceType
  else if key = "metadata" then (metadataOfJson? v).map .metadata
  else if key = "data" then (recordsOfJson? v).map .records
  else none

theorem recordsOfJson?_ofDict (records : List Record) :
    recordsOfJson? (.array (records.map Json.ofDict)) = some records := by
  show (records.map Json.ofDict).mapM Json.asDict? = some records
  induction records with
  | nil => rfl
  | cons record records ih => simp [Json.asDict?_ofDict, ih]

theorem Field.ofJson?_metadata (d : Dict Json) : ofJson? "metadata" (Json.ofDict d) = some (.metadata (some d)) := by
  show ((Json.ofDict d).asDict?.map some).map Field.metadata = _
  rw [Json.asDict?_ofDict]
  rfl

theorem Field.ofJson?_records (records : List Record) :
    ofJson? "data" (.array (records.map Json.ofDict)) = some (.records records) := by
  show (recordsOfJson? _).map Field.records = _
  rw [recordsOfJson?_ofDict]
  rfl

variable {r : Resource}

theorem mem_fields_iff {field : String × Json} : field ∈ r.fields ↔
    field = ("resourceType", .string r.resourceType) ∨
      (∃ d, r.metadata = some d ∧ field = ("metadata", Json.ofDict d)) ∨
      field = ("data", .array (r.records.map Json.ofDict)) := by
  cases h : r.metadata <;> simp [fields, h]

theorem Ordered.of_mem_fields (hr : r.Ordered) {field : String × Json} (h : field ∈ r.fields) :
    field.2.Ordered := by
  rcases mem_fields_iff.1 h with rfl | ⟨d, hd, rfl⟩ | rfl
  · exact .string _
  · exact (hr.metadata d hd).ofDict
  · refine .array fun item hitem => ?_
    obtain ⟨record, hrecord, rfl⟩ := List.mem_map.1 hitem
    exact (hr.records record hrecord).ofDict

theorem mem_names_of_mem_fields {field : String × Json} (h : field ∈ r.fields) :
    field.1 ∈ ["resourceType", "metadata", "data"] := by
  rcases mem_fields_iff.1 h with rfl | ⟨d, -, rfl⟩ | rfl <;> simp

theorem readField_of_name {key : String} (hkey : key ∈ ["resourceType", "metadata", "data"]) (limit : Nat)
    (text : List Char) : readField limit key text =
      (readValue .exact limit fieldDepth text).bind fun (v, rest) =>
        (Field.ofJson? key v).bind fun f => some (some f, rest) := by
  simp only [List.mem_cons, List.not_mem_nil, or_false] at hkey
  rcases hkey with rfl | rfl | rfl <;> rfl

/-- The field that a written field is read as. -/
def rereadField? (field : String × Json) : Option (Option Field) :=
  (field.2.reread? NumberText.toNumber?).bind fun v => (Field.ofJson? field.1 v).map some

theorem readField_write (l : Layout) {field : String × Json} (hkey : field.1 ∈ ["resourceType", "metadata", "data"])
    (hv : field.2.Ordered) (hdepth : field.2.depth ≤ fieldDepth) {written limit : Nat}
    (hlimit : (l.write written field.2).length ≤ limit) {rest : List Char} (hrest : Delimited rest) :
    readField limit field.1 (l.gap ++ (l.write written field.2 ++ rest)) = (rereadField? field).map (·, rest) := by
  have hread : readValue .exact limit fieldDepth (l.gap ++ (l.write written field.2 ++ rest)) =
      (field.2.reread? NumberText.toNumber?).map (·, rest) := by
    rw [Json.readValue_append _ _ _ l.isSpace_gap]
    exact Json.readValue_write _ l hv hdepth hlimit hrest
  rw [readField_of_name hkey, hread, rereadField?]
  cases field.2.reread? NumberText.toNumber? with
  | none => rfl
  | some v =>
    show (Field.ofJson? field.1 v).bind _ = ((Field.ofJson? field.1 v).map some).map _
    cases Field.ofJson? field.1 v <;> rfl

def rereadRecord? (record : Record) : Option Record :=
  ((Json.ofDict record).reread? NumberText.toNumber?).bind Json.asDict?

/-- The resource that the written form of a resource is read as. -/
def reread? (r : Resource) : Option Resource := do
  let metadata ← match r.metadata with
    | none => some none
    | some fields => (rereadRecord? fields).map some
  let records ← r.records.mapM rereadRecord?
  return ⟨r.resourceType, metadata, records⟩

theorem reread?_ofDict (record : Record) :
    (Json.ofDict record).reread? NumberText.toNumber? = (rereadRecord? record).map Json.ofDict := by
  rw [rereadRecord?, Json.ofDict, Json.reread?, Json.rereadFields?_eq]
  cases h : record.entries.mapM fun field => (field.2.reread? NumberText.toNumber?).map (field.1, ·) with
  | none => rfl
  | some entries =>
    have hascending : entries.Pairwise entryLess := by
      rw [Json.pairwise_entryLess_iff, Json.keys_of_mapM h, ← Json.pairwise_entryLess_iff]
      exact record.ascending
    show some (Json.ofDict ⟨entries, hascending⟩) = (Json.ofDict ⟨entries, hascending⟩).asDict?.map Json.ofDict
    rw [Json.asDict?_ofDict]
    rfl

theorem reread?_records (records : List Record) :
    (Json.array (records.map Json.ofDict)).reread? NumberText.toNumber? =
      (records.mapM rereadRecord?).map fun records => .array (records.map Json.ofDict) := by
  rw [Json.reread?, Json.rereadItems?_eq]
  have hitems : (records.map Json.ofDict).mapM (Json.reread? NumberText.toNumber?) =
      (records.mapM rereadRecord?).map (List.map Json.ofDict) := by
    induction records with
    | nil => rfl
    | cons record records ih =>
      rw [List.map_cons, List.mapM_cons, List.mapM_cons, ih, reread?_ofDict]
      cases rereadRecord? record <;> cases records.mapM rereadRecord? <;> rfl
  rw [hitems, Option.map_map]
  rfl

theorem reread?_fields (r : Resource) :
    (r.fields.mapM fun field => (rereadField? field).map (field.1, ·)).bind ofMembers? = r.reread? := by
  obtain ⟨resourceType, metadata, records⟩ := r
  have htype : rereadField? ("resourceType", .string resourceType) = some (some (.resourceType resourceType)) := rfl
  have hrecords : rereadField? ("data", .array (records.map Json.ofDict)) =
      (records.mapM rereadRecord?).map fun records => some (.records records) := by
    rw [rereadField?, reread?_records]
    cases records.mapM rereadRecord? with
    | none => rfl
    | some records => exact congrArg (Option.map some) (Field.ofJson?_records records)
  have hmetadata (d : Dict Json) : rereadField? ("metadata", Json.ofDict d) =
      (rereadRecord? d).map fun d => some (.metadata (some d)) := by
    rw [rereadField?, reread?_ofDict]
    cases rereadRecord? d with
    | none => rfl
    | some d => exact congrArg (Option.map some) (Field.ofJson?_metadata d)
  cases metadata with
  | none =>
    simp only [fields, List.cons_append, List.nil_append, List.mapM_cons, List.mapM_nil, htype, hrecords, reread?]
    cases records.mapM rereadRecord? <;> rfl
  | some d =>
    simp only [fields, List.cons_append, List.nil_append, List.mapM_cons, List.mapM_nil, htype, hrecords, hmetadata,
      reread?]
    cases rereadRecord? d <;> cases records.mapM rereadRecord? <;> rfl

/-- Every floating point number in the resource is read back from its own text. -/
def ReadsBack (r : Resource) : Prop :=
  ∀ x finite, Json.Number.float x finite ∈ r.toJson.numbers → (Json.Number.float x finite).ReadsBack

theorem readsBack_iff_numbers : r.ReadsBack ↔ ∀ n ∈ r.toJson.numbers, n.ReadsBack := by
  constructor
  · intro h n hn
    cases n with
    | integer value inRange => exact Json.Number.readsBack_integer value inRange
    | float x finite => exact h x finite hn
  · exact fun h x finite hn => h _ hn

theorem rereadRecord?_eq_self_iff {record : Record} :
    rereadRecord? record = some record ↔ ∀ n ∈ (Json.ofDict record).numbers, n.ReadsBack := by
  have hinjective : Function.Injective (Json.ofDict) := by
    rintro ⟨entries, _⟩ ⟨others, _⟩ ⟨⟩
    rfl
  simp only [Json.Number.readsBack_iff]
  rw [← Json.reread?_eq_self_iff, reread?_ofDict, ← Option.map_some, (Option.map_injective hinjective).eq_iff]

theorem mem_numbers_iff {n : Json.Number} : n ∈ r.toJson.numbers ↔
    (∃ d ∈ r.metadata, n ∈ (Json.ofDict d).numbers) ∨ ∃ record ∈ r.records, n ∈ (Json.ofDict record).numbers := by
  rw [toJson_eq, Json.numbers, Json.mem_numbersOfFields_iff]
  constructor
  · rintro ⟨field, hfield, hn⟩
    rcases mem_fields_iff.1 hfield with rfl | ⟨d, hd, rfl⟩ | rfl
    · cases hn
    · exact .inl ⟨d, hd, hn⟩
    · obtain ⟨item, hitem, hn⟩ := Json.mem_numbersOfItems_iff.1 hn
      obtain ⟨record, hrecord, rfl⟩ := List.mem_map.1 hitem
      exact .inr ⟨record, hrecord, hn⟩
  · rintro (⟨d, hd, hn⟩ | ⟨record, hrecord, hn⟩)
    · exact ⟨_, mem_fields_iff.2 (.inr (.inl ⟨d, hd, rfl⟩)), hn⟩
    · exact ⟨_, mem_fields_iff.2 (.inr (.inr rfl)),
        Json.mem_numbersOfItems_iff.2 ⟨_, List.mem_map_of_mem hrecord, hn⟩⟩

theorem readsBack_iff : r.ReadsBack ↔ (∀ d ∈ r.metadata, rereadRecord? d = some d) ∧
    ∀ record ∈ r.records, rereadRecord? record = some record := by
  simp only [readsBack_iff_numbers, mem_numbers_iff, rereadRecord?_eq_self_iff]
  exact ⟨fun h => ⟨fun d hd n hn => h n (.inl ⟨d, hd, hn⟩), fun record hrecord n hn => h n (.inr ⟨record, hrecord, hn⟩)⟩,
    fun h n hn => hn.elim (fun ⟨d, hd, hn⟩ => h.1 d hd n hn) fun ⟨record, hrecord, hn⟩ => h.2 record hrecord n hn⟩

/-- A resource stays what it is if and only if each of its floating point numbers does. -/
theorem reread?_eq_self_iff : r.reread? = some r ↔ r.ReadsBack := by
  rw [readsBack_iff, ← Json.mapM_eq_self_iff]
  obtain ⟨resourceType, metadata, records⟩ := r
  cases metadata with
  | none => cases h : records.mapM rereadRecord? <;> simp [reread?, h]
  | some d => cases h : records.mapM rereadRecord? <;> cases h' : rereadRecord? d <;> simp [reread?, h, h']

theorem readResource_write (l : Layout) (hr : r.Ordered) (hdepth : r.toJson.depth ≤ Json.maxDepth) {limit : Nat}
    (hlimit : (l.write 0 r.toJson).length ≤ limit) (rest : List Char) :
    readResource limit (l.write 0 r.toJson ++ rest) = r.reread?.map (·, rest) := by
  have hdepths := Json.depthOfFields_le_iff.1 (Nat.le_of_succ_le_succ hdepth)
  let form (field : String × Json) := l.member 1 field.1 (l.write 1 field.2)
  have hform : l.write 0 r.toJson = '\x7b' :: l.contents 0 '\x7d' (r.fields.map form) := by
    rw [toJson_eq, Layout.write]
  rw [hform] at hlimit ⊢
  obtain ⟨hcount, hlengths⟩ := Json.length_contents l 0 '\x7d' (r.fields.map form)
  rw [List.length_cons] at hlimit
  have hmember (field : String × Json) (hmem : field ∈ r.fields) (rest : List Char) (hrest : Delimited rest) :
      readMember .exact (readField limit) (form field ++ rest) =
        ((rereadField? field).map (field.1, ·)).map (·, rest) := by
    have hlength := (l.length_le_length_member 1 field.1 _).trans (hlengths (form field) (List.mem_map_of_mem hmem))
    refine Json.readMember_member ?_ 1
    exact readField_write l (mem_names_of_mem_fields hmem) (hr.of_mem_fields hmem) (hdepths field hmem) (by omega) hrest
  have hfields : r.fields.length ≤ limit := by
    rw [List.length_map] at hcount
    omega
  have hread : readItems '\x7d' (readMember .exact (readField limit)) limit
      (l.contents 0 '\x7d' (r.fields.map form) ++ rest) =
        (r.fields.mapM fun field => (rereadField? field).map (field.1, ·)).map (·, rest) :=
    Json.readItems_contents (Json.readsItems_readMember ..) l 0 hfields (fun _ _ => Json.beginsItem_member ..) hmember
      rest
  have hopen (text : List Char) : skipSpace ('\x7b' :: text) = '\x7b' :: text := rfl
  simp only [readResource, List.cons_append, hopen, hread, ← reread?_fields]
  cases r.fields.mapM fun field => (rereadField? field).map (field.1, ·) with
  | none => rfl
  | some members => cases h : ofMembers? members <;> simp [h]

variable [Engine]

theorem ofText_write (l : Layout) (hr : r.Ordered) (hdepth : r.toJson.depth ≤ Json.maxDepth) {ending : List Char}
    (hending : ∀ c ∈ ending, Json.isSpace c) :
    ofText (String.ofList (l.write 0 r.toJson ++ ending)) = r.reread?.elim (.error .malformedJson) .ok := by
  have hspace : skipSpace ending = [] := List.dropWhile_eq_nil_iff.2 hending
  have hlength : (l.write 0 r.toJson).length ≤ (l.write 0 r.toJson ++ ending).length := by simp
  have hread := readResource_write l hr hdepth hlength ending
  simp only [ofText, String.toList_ofList, hread]
  cases r.reread? <;> simp [hspace]

/-- A resource that nests less than 128 brackets survives both of its written forms, if its floating point
numbers survive theirs. -/
theorem ofText_toJson (hr : r.Ordered) (hdepth : r.toJson.depth < 128) (hnumbers : r.ReadsBack) :
    ofText r.toJson.compact = .ok r ∧ ofText r.toJson.indented = .ok r := by
  have hmax : r.toJson.depth ≤ Json.maxDepth := Nat.le_of_lt_succ hdepth
  have hreread := reread?_eq_self_iff.2 hnumbers
  constructor
  · have h := ofText_write .compact hr hmax (List.forall_mem_nil _)
    rwa [List.append_nil, Json.write_compact, hreread] at h
  · have h := ofText_write .indented hr hmax (List.forall_mem_nil _)
    rwa [List.append_nil, Json.write_indented, hreread] at h

end Resource

end RecordFlow

namespace RecordFlow.Resource

open Json (NumberText)

open scoped Regex

/-- Empty and absent metadata, a negative zero, a tenth, a large and a tiny number, the largest integer, an empty
object and a key with a quote and a control character. -/
theorem ofText_toJson_mixed :
    let value : Json := .array [.number (.float (.signed true .zero) rfl), .ofBinary64 (.ofDecimal false ⟨1, -1⟩),
      .ofBinary64 (.ofDecimal false ⟨15, 299⟩), .ofBinary64 (.ofDecimal true ⟨25, -310⟩), .ofNat 18446744073709551615,
      .object [], .object [("a\"\x01", .null), ("ü\n", .array [.bool true])]]
    let record : Record := .ofList [("items", value), ("", .string "\\ \x1f")]
    let empty : Resource := ⟨"event", some .empty, [record, .empty]⟩
    let absent : Resource := ⟨"event", none, []⟩
    (empty.Ordered ∧ empty.toJson.depth < 128 ∧ empty.ReadsBack) ∧
      (absent.Ordered ∧ absent.toJson.depth < 128 ∧ absent.ReadsBack) ∧
      (ofText empty.toJson.compact = .ok empty ∧ ofText empty.toJson.indented = .ok empty) ∧
      ofText absent.toJson.compact = .ok absent ∧ ofText absent.toJson.indented = .ok absent := by
  intro value record empty absent
  have hfields : (Json.object [("a\"\x01", .null), ("ü\n", .array [.bool true])]).Ordered := by
    refine .object (List.pairwise_pair.2 ?_) (List.forall_mem_cons.2 ⟨.null, List.forall_mem_singleton.2 ?_⟩)
    · show "a\"\x01" < "ü\n"
      decide
    · exact .array (List.forall_mem_singleton.2 (.bool true))
  have hvalue : value.Ordered := by
    refine .array (List.forall_mem_cons.2 ⟨.number _, List.forall_mem_cons.2 ⟨Json.ordered_ofBinary64 _, ?_⟩⟩)
    refine List.forall_mem_cons.2 ⟨Json.ordered_ofBinary64 _, List.forall_mem_cons.2 ⟨Json.ordered_ofBinary64 _, ?_⟩⟩
    refine List.forall_mem_cons.2 ⟨Json.ordered_ofInt _, List.forall_mem_cons.2 ⟨.object .nil nofun, ?_⟩⟩
    exact List.forall_mem_singleton.2 hfields
  have hrecord : Record.Ordered record :=
    Record.ordered_ofList (List.forall_mem_cons.2 ⟨hvalue, List.forall_mem_singleton.2 (.string _)⟩)
  have hempty : empty.Ordered := by
    refine ⟨?_, List.forall_mem_cons.2 ⟨hrecord, List.forall_mem_singleton.2 nofun⟩⟩
    rintro _ ⟨⟩
    exact nofun
  have habsent : absent.Ordered := ⟨nofun, nofun⟩
  have hdepth : empty.toJson.depth < 128 := by decide +kernel
  have hdepth' : absent.toJson.depth < 128 := by decide
  have hreread : ∀ n ∈ empty.toJson.numbers, n.reread? NumberText.toNumber? = some n := by decide +kernel
  have hread : empty.ReadsBack := fun x finite hx => Json.Number.readsBack_iff.2 (hreread _ hx)
  have hread' : absent.ReadsBack := readsBack_iff.2 ⟨nofun, nofun⟩
  exact ⟨⟨hempty, hdepth, hread⟩, ⟨habsent, hdepth', hread'⟩, ofText_toJson hempty hdepth hread,
    ofText_toJson habsent hdepth' hread'⟩

end RecordFlow.Resource
