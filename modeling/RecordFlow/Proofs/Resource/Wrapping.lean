import RecordFlow.Proofs.Resource.Reading
import RecordFlow.Regex.Engine

/-! # Wrapped objects

An object is wrapped if there is an array of objects under the items key, or nothing at all.
What is under the other keys becomes metadata, so the records can be put back under their key
and the object is there again. Any other value is refused as a whole, and the error names the
kind of the first thing in it that does not fit.
-/

namespace RecordFlow

namespace Json

variable {v : Json} {d : Dict Json} {items : List Json} {records : List Record}

theorem asDict?_eq_none_iff : v.asDict? = none ↔ v.kind ≠ .object := by
  cases v <;> simp [asDict?, kind]

theorem kind_eq_object_iff : v.kind = .object ↔ ∃ d, v.asDict? = some d := by
  cases v <;> simp [asDict?, kind]

theorem kind_eq_array_iff : v.kind = .array ↔ ∃ items, v = array items := by
  cases v <;> simp [kind]

/-- Nothing is lost when an object is taken as a dictionary. -/
theorem ofDict_of_asDict? (hv : v.Ordered) (h : v.asDict? = some d) : ofDict d = v := by
  cases hv with
  | object hascending _ =>
    cases h
    rw [ofDict, Dict.ofList_of_perm (d := ⟨_, hascending⟩) (.refl _)]
  | _ => cases h

theorem Ordered.of_mem_array (h : (Json.array items).Ordered) : ∀ item ∈ items, item.Ordered := by
  cases h with
  | array hitems => exact hitems

theorem map_ofDict_of_map_asDict? (hitems : ∀ item ∈ items, item.Ordered)
    (h : items.map asDict? = records.map some) : records.map ofDict = items := by
  induction items generalizing records with
  | nil =>
    obtain rfl := List.map_eq_nil_iff.1 h.symm
    rfl
  | cons item items ih =>
    cases records with
    | nil => cases h
    | cons record records =>
      obtain ⟨hitem, hitems⟩ := List.forall_mem_cons.1 hitems
      obtain ⟨hrecord, hrecords⟩ := List.cons.inj h
      rw [List.map_cons, ofDict_of_asDict? hitem hrecord, ih hitems hrecords]

theorem ordered_of_map_asDict? (hitems : ∀ item ∈ items, item.Ordered)
    (h : items.map asDict? = records.map some) : ∀ record ∈ records, Record.Ordered record := by
  intro record hrecord
  have hmem : some record ∈ items.map asDict? := h ▸ List.mem_map_of_mem hrecord
  obtain ⟨item, hitem, hdict⟩ := List.mem_map.1 hmem
  exact Record.ordered_of_asDict? (hitems item hitem) hdict

/-- Whether a value is an object in which a key is absent or has an array of objects. -/
def Wrappable (v : Json) (key : String) : Prop :=
  ∃ fields, v.asDict? = some fields ∧ ∀ entry, fields.get? key = some entry →
    ∃ items, entry = .array items ∧ ∀ item ∈ items, item.kind = .object

/-- The fault for which a value is not wrapped, and the kind that it names: that of the value itself, of what is
under the key, or of the first item there that is no object. -/
inductive Refused (v : Json) (key : String) : ConfigurationFault → Kind → Prop
  | value : v.kind ≠ .object → Refused v key (.notAnObject v.kind) v.kind
  | entry {fields : Dict Json} {entry : Json} : v.asDict? = some fields → fields.get? key = some entry →
      entry.kind ≠ .array → Refused v key (.notAnArray key entry.kind) entry.kind
  | item {fields : Dict Json} {before after : List Json} {item : Json} : v.asDict? = some fields →
      fields.get? key = some (.array (before ++ item :: after)) → (∀ other ∈ before, other.kind = .object) →
      item.kind ≠ .object → Refused v key (.itemNotAnObject key item.kind) item.kind

end Json

namespace Resource

/-- The object that has the records under a key, and the metadata under the others. -/
def unwrap (r : Resource) (key : String) : Json :=
  .ofDict ((r.metadata.getD .empty).insert key (.array (r.records.map .ofDict)))

/-- Whether a resource has the content of an object, with what is under a key as its records. If the object is as
values are held in memory, it can be put together again, with an empty list where there was nothing. -/
structure Wraps (r : Resource) (v : Json) (resourceType key : String) : Prop where
  resourceType : r.resourceType = resourceType
  metadata : ∃ metadata, r.metadata = some metadata ∧ ¬ metadata.contains key
  records : ∀ fields items, v.asDict? = some fields → fields.get? key = some (.array items) →
    items.map Json.asDict? = r.records.map some
  unwrap : v.Ordered → ∀ fields, v.asDict? = some fields →
    r.unwrap key = if fields.contains key then v else .ofDict (fields.insert key (.array []))

theorem unwrap_eq (resourceType : String) (fields : Dict Json) (records : List Record) :
    (⟨resourceType, some (fields.erase key), records⟩ : Resource).unwrap key =
      .ofDict (fields.insert key (.array (records.map .ofDict))) := by
  rw [← Dict.insert_erase]
  rfl

variable [Engine]

variable {v : Json} {resourceType key : String} {fields : Dict Json} {items : List Json} {records : List Record}
  {r : Resource} {e : Error}

theorem recordsOfItems_eq_ok_iff :
    recordsOfItems key items = .ok records ↔ items.map Json.asDict? = records.map some := by
  induction items generalizing records with
  | nil => cases records <;> simp [recordsOfItems]
  | cons item items ih =>
    rw [recordsOfItems, List.map_cons]
    cases hitem : item.asDict? with
    | none => cases records <;> simp
    | some record =>
      cases records with
      | nil => cases recordsOfItems key items <;> simp [Except.map]
      | cons record' records =>
        rw [List.map_cons, List.cons.injEq, ← ih]
        cases recordsOfItems key items <;> simp [Except.map]

theorem recordsOfItems_eq_error_iff : recordsOfItems key items = .error e ↔
    ∃ item, items.find? (fun item => item.kind ≠ .object) = some item ∧
      e = .configuration (.itemNotAnObject key item.kind) := by
  induction items with
  | nil => simp [recordsOfItems]
  | cons item items ih =>
    rw [recordsOfItems, List.find?_cons]
    cases hitem : item.asDict? with
    | none =>
      rw [decide_eq_true (Json.asDict?_eq_none_iff.1 hitem)]
      simp [eq_comm]
    | some record =>
      have hkind : item.kind = .object := Json.kind_eq_object_iff.2 ⟨record, hitem⟩
      rw [decide_eq_false (not_not_intro hkind), ← ih]
      cases recordsOfItems key items <;> simp [Except.map]

theorem exists_recordsOfItems_eq_ok_iff :
    (∃ records, recordsOfItems key items = .ok records) ↔ ∀ item ∈ items, item.kind = .object := by
  cases hresult : recordsOfItems key items with
  | error e =>
    obtain ⟨item, hfind, -⟩ := recordsOfItems_eq_error_iff.1 hresult
    refine iff_of_false (fun ⟨records, h⟩ => nomatch h) fun hall => ?_
    have hkind := List.find?_some (p := fun item : Json => decide (item.kind ≠ .object)) hfind
    exact of_decide_eq_true hkind (hall item (List.mem_of_find?_eq_some hfind))
  | ok records =>
    refine iff_of_true ⟨records, rfl⟩ fun item hitem => ?_
    have hmem : item.asDict? ∈ records.map some :=
      recordsOfItems_eq_ok_iff.1 hresult ▸ List.mem_map_of_mem hitem
    obtain ⟨record, -, hrecord⟩ := List.mem_map.1 hmem
    exact Json.kind_eq_object_iff.2 ⟨record, hrecord.symm⟩

theorem recordsAt_eq_ok_iff : recordsAt fields key = .ok records ↔
    (fields.get? key = none ∧ records = []) ∨
      ∃ items, fields.get? key = some (.array items) ∧ items.map Json.asDict? = records.map some := by
  unfold recordsAt
  split
  · next hnone => simp [hnone, eq_comm]
  · next items hitems => simp [hitems, recordsOfItems_eq_ok_iff]
  · next entry hother hentry =>
    refine iff_of_false nofun ?_
    rintro (⟨hnone, -⟩ | ⟨items, hitems, -⟩)
    · rw [hentry] at hnone
      cases hnone
    · exact hother items (Option.some.inj (hentry.symm.trans hitems))

theorem exists_recordsAt_eq_ok_iff : (∃ records, recordsAt fields key = .ok records) ↔
    ∀ entry, fields.get? key = some entry →
      ∃ items, entry = .array items ∧ ∀ item ∈ items, item.kind = .object := by
  unfold recordsAt
  split
  · next hnone => simp [hnone]
  · next items hitems => simp [hitems, exists_recordsOfItems_eq_ok_iff]
  · next entry hother hentry =>
    refine iff_of_false (fun ⟨records, h⟩ => nomatch h) fun hall => ?_
    obtain ⟨items, hitems, -⟩ := hall entry hentry
    exact hother items hitems

theorem recordsAt_eq_error_iff : recordsAt fields key = .error e ↔ ∃ entry, fields.get? key = some entry ∧
    ((entry.kind ≠ .array ∧ e = .configuration (.notAnArray key entry.kind)) ∨
      ∃ items, entry = .array items ∧ recordsOfItems key items = .error e) := by
  unfold recordsAt
  split
  · next hnone => simp [hnone]
  · next items hitems => simp [hitems, Json.kind]
  · next entry hother hentry =>
    constructor
    · rintro ⟨⟩
      refine ⟨entry, hentry, .inl ⟨fun hkind => ?_, rfl⟩⟩
      obtain ⟨items, hitems⟩ := Json.kind_eq_array_iff.1 hkind
      exact hother items hitems
    · rintro ⟨entry', hentry', hcause⟩
      obtain rfl := Option.some.inj (hentry.symm.trans hentry')
      rcases hcause with ⟨-, rfl⟩ | ⟨items, hitems, -⟩
      · rfl
      · exact (hother items hitems).elim

theorem wrap_of_asDict? (h : v.asDict? = some fields) : wrap v resourceType key =
    (recordsAt fields key).map fun records => ⟨resourceType, some (fields.erase key), records⟩ := by
  rw [wrap, h]

theorem exists_of_wrap (h : wrap v resourceType key = .ok r) : ∃ fields records, v.asDict? = some fields ∧
    recordsAt fields key = .ok records ∧ r = ⟨resourceType, some (fields.erase key), records⟩ := by
  cases hfields : v.asDict? with
  | none =>
    rw [wrap, hfields] at h
    cases h
  | some fields =>
    rw [wrap_of_asDict? hfields] at h
    obtain ⟨records, hrecords, rfl⟩ := Literal.map_eq_ok h
    exact ⟨fields, records, rfl, hrecords, rfl⟩

theorem exists_wrap_eq_ok_iff : (∃ r, wrap v resourceType key = .ok r) ↔ v.Wrappable key := by
  constructor
  · rintro ⟨r, h⟩
    obtain ⟨fields, records, hfields, hrecords, -⟩ := exists_of_wrap h
    exact ⟨fields, hfields, exists_recordsAt_eq_ok_iff.1 ⟨records, hrecords⟩⟩
  · rintro ⟨fields, hfields, hentry⟩
    obtain ⟨records, hrecords⟩ := exists_recordsAt_eq_ok_iff.2 hentry
    rw [wrap_of_asDict? hfields, hrecords]
    exact ⟨_, rfl⟩

theorem ordered_of_wrap (hv : v.Ordered) (h : wrap v resourceType key = .ok r) : r.Ordered := by
  obtain ⟨fields, records, hfields, hrecords, rfl⟩ := exists_of_wrap h
  have hordered := Record.ordered_of_asDict? hv hfields
  constructor
  · rintro _ ⟨⟩
    exact hordered.filterKeys _
  · rcases recordsAt_eq_ok_iff.1 hrecords with ⟨-, rfl⟩ | ⟨items, hitems, hmap⟩
    · exact nofun
    · exact Json.ordered_of_map_asDict? (hordered key _ hitems).of_mem_array hmap

theorem wrap_eq_error_iff : wrap v resourceType key = .error e ↔
    (v.kind ≠ .object ∧ e = .configuration (.notAnObject v.kind)) ∨
      ∃ fields, v.asDict? = some fields ∧ recordsAt fields key = .error e := by
  cases hfields : v.asDict? with
  | none =>
    rw [wrap, hfields]
    simp [Json.asDict?_eq_none_iff.1 hfields, eq_comm]
  | some fields =>
    have hkind : v.kind = .object := Json.kind_eq_object_iff.2 ⟨fields, hfields⟩
    rw [wrap_of_asDict? hfields]
    cases hrecords : recordsAt fields key <;> simp [Except.map, hkind, hrecords]

/-- Whether a value is wrapped as a whole, or refused for the first thing in it that does not fit. -/
structure WrapsExactly (v : Json) (resourceType key : String) : Prop where
  isOk_iff : (∃ r, wrap v resourceType key = .ok r) ↔ v.Wrappable key
  of_ok : ∀ r, wrap v resourceType key = .ok r → r.Wraps v resourceType key
  error_iff : ∀ e, wrap v resourceType key = .error e ↔ ∃ fault found lead, v.Refused key fault found ∧
    e = .configuration fault ∧ e.message = lead ++ found.name

theorem wraps_of_wrap (h : wrap v resourceType key = .ok r) : r.Wraps v resourceType key := by
  obtain ⟨fields, records, hfields, hrecords, rfl⟩ := exists_of_wrap h
  refine ⟨rfl, ⟨_, rfl, ?_⟩, ?_, ?_⟩
  · simp [Dict.contains, Dict.get?_erase]
  · intro fields' items hfields' hitems
    obtain rfl := Option.some.inj (hfields.symm.trans hfields')
    rw [recordsAt, hitems] at hrecords
    exact recordsOfItems_eq_ok_iff.1 hrecords
  · intro hv fields' hfields'
    obtain rfl := Option.some.inj (hfields.symm.trans hfields')
    rw [unwrap_eq]
    rcases recordsAt_eq_ok_iff.1 hrecords with ⟨hnone, rfl⟩ | ⟨items, hitems, hmap⟩
    · rw [Dict.contains, hnone]
      rfl
    · have hordered := (Record.ordered_of_asDict? hv hfields key _ hitems).of_mem_array
      rw [Json.map_ofDict_of_map_asDict? hordered hmap, if_pos (Dict.contains_of_some hitems),
        Dict.insert_of_get? hitems, Json.ofDict_of_asDict? hv hfields]

theorem wrap_eq_error_iff_refused : wrap v resourceType key = .error e ↔
    ∃ fault found, v.Refused key fault found ∧ e = .configuration fault := by
  rw [wrap_eq_error_iff]
  constructor
  · rintro (⟨hkind, rfl⟩ | ⟨fields, hfields, h⟩)
    · exact ⟨_, _, .value hkind, rfl⟩
    · obtain ⟨entry, hentry, ⟨hkind, rfl⟩ | ⟨items, rfl, h⟩⟩ := recordsAt_eq_error_iff.1 h
      · exact ⟨_, _, .entry hfields hentry hkind, rfl⟩
      · obtain ⟨item, hfind, rfl⟩ := recordsOfItems_eq_error_iff.1 h
        obtain ⟨hkind, before, after, rfl, hbefore⟩ := List.find?_eq_some_iff_append.1 hfind
        refine ⟨_, _, .item hfields hentry (fun other hother => ?_) (of_decide_eq_true hkind), rfl⟩
        simpa using hbefore other hother
  · rintro ⟨fault, found, hrefused, rfl⟩
    cases hrefused with
    | value hkind => exact .inl ⟨hkind, rfl⟩
    | entry hfields hentry hkind =>
      exact .inr ⟨_, hfields, recordsAt_eq_error_iff.2 ⟨_, hentry, .inl ⟨hkind, rfl⟩⟩⟩
    | item hfields hentry hbefore hkind =>
      refine .inr ⟨_, hfields, recordsAt_eq_error_iff.2 ⟨_, hentry, .inr ⟨_, rfl, ?_⟩⟩⟩
      refine recordsOfItems_eq_error_iff.2 ⟨_, List.find?_eq_some_iff_append.2 ?_, rfl⟩
      refine ⟨decide_eq_true hkind, _, _, rfl, fun other hother => ?_⟩
      simpa using hbefore other hother

theorem exists_message_of_refused {fault : ConfigurationFault} {found : Json.Kind} (h : v.Refused key fault found) :
    ∃ lead, (Error.configuration fault).message = lead ++ found.name := by
  cases h <;> exact ⟨_, (String.append_assoc ..).symm⟩

/-- Every value is wrapped as a whole or refused as a whole, with any type and any key. -/
theorem wrapsExactly (v : Json) (resourceType key : String) : WrapsExactly v resourceType key where
  isOk_iff := exists_wrap_eq_ok_iff
  of_ok _ h := wraps_of_wrap h
  error_iff e := by
    rw [wrap_eq_error_iff_refused]
    constructor
    · rintro ⟨fault, found, hrefused, rfl⟩
      obtain ⟨lead, hlead⟩ := exists_message_of_refused hrefused
      exact ⟨fault, found, lead, hrefused, rfl, hlead⟩
    · rintro ⟨fault, found, lead, hrefused, rfl, -⟩
      exact ⟨fault, found, hrefused, rfl⟩

end Resource

end RecordFlow

namespace RecordFlow.Resource

open scoped Regex

/-- Two items are put back beside another field, and where there were none an empty list is put. -/
theorem wrapsExactly_two_items :
    let item (n : Nat) : Record := .ofList [("n", .ofNat n)]
    let other : Dict Json := .ofList [("next", .string "abc")]
    let whole : Dict Json := other.insert "items" (.array [.ofDict (item 2), .ofDict (item 1)])
    (∃ r, wrap (.ofDict whole) "event" "items" = .ok r ∧ r.unwrap "items" = .ofDict whole) ∧
      ∃ r, wrap (.ofDict other) "event" "items" = .ok r ∧
        r.unwrap "items" = .ofDict (other.insert "items" (.array [])) := by
  intro item other whole
  have hitem (n : Nat) : Record.Ordered (item n) := Record.ordered_ofList (by simp [Json.ordered_ofInt, Json.ofNat])
  have hother : Record.Ordered other := Record.ordered_ofList (by simp [Json.Ordered.string])
  have hwhole : Record.Ordered whole := hother.insert "items" (.array (by simp [(hitem _).ofDict]))
  have hitems : whole.get? "items" = some (.array [.ofDict (item 2), .ofDict (item 1)]) := by
    rw [Dict.get?_insert, if_pos rfl]
  have hnone : other.get? "items" = none := by simp [other, Dict.get?_ofList_eq_none_iff]
  constructor
  · have hwrappable : (Json.ofDict whole).Wrappable "items" := by
      refine ⟨whole, Json.asDict?_ofDict whole, fun entry hentry => ?_⟩
      refine ⟨_, Option.some.inj (hentry.symm.trans hitems), ?_⟩
      simp [Json.ofDict, Json.kind]
    obtain ⟨r, hr⟩ := (wrapsExactly (.ofDict whole) "event" "items").isOk_iff.2 hwrappable
    have hunwrap := ((wrapsExactly _ _ _).of_ok r hr).unwrap hwhole.ofDict whole (Json.asDict?_ofDict whole)
    rw [if_pos (Dict.contains_of_some hitems)] at hunwrap
    exact ⟨r, hr, hunwrap⟩
  · have hwrappable : (Json.ofDict other).Wrappable "items" := by
      refine ⟨other, Json.asDict?_ofDict other, fun entry hentry => ?_⟩
      rw [hnone] at hentry
      cases hentry
    obtain ⟨r, hr⟩ := (wrapsExactly (.ofDict other) "event" "items").isOk_iff.2 hwrappable
    have hunwrap := ((wrapsExactly _ _ _).of_ok r hr).unwrap hother.ofDict other (Json.asDict?_ofDict other)
    rw [Dict.contains, hnone] at hunwrap
    exact ⟨r, hr, hunwrap⟩

end RecordFlow.Resource
