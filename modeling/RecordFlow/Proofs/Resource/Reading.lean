import RecordFlow.Proofs.Json.Reading
import RecordFlow.Resource.Reader

/-! # Resources that were read

The values in a resource that was read are as values are held in memory: the fields of their
objects stand in key order. This is what lets them be written and read again.
-/

namespace RecordFlow

theorem Json.asDict?_ofDict (d : Dict Json) : (Json.ofDict d).asDict? = some d :=
  congrArg some (Dict.ofList_of_perm (.refl _))

def Record.Ordered (record : Record) : Prop := ∀ key value, record.get? key = some value → value.Ordered

namespace Record

variable {record : Record}

theorem ordered_ofList {entries : List (String × Json)} (h : ∀ e ∈ entries, e.2.Ordered) :
    Ordered (.ofList entries) :=
  fun key value hget => h (key, value) (Dict.mem_of_mem_ofList (Dict.get?_eq_some_iff.1 hget))

theorem Ordered.ofDict (h : Ordered record) : (Json.ofDict record).Ordered :=
  .object record.ascending fun field hfield => h field.1 field.2 (Dict.get?_eq_some_iff.2 hfield)

theorem Ordered.insert (h : Ordered record) (key : String) {value : Json} (hvalue : value.Ordered) :
    Ordered (record.insert key value) := by
  intro k v hget
  rw [Dict.get?_insert] at hget
  split at hget
  · cases hget
    exact hvalue
  · exact h k v hget

theorem Ordered.filterKeys (h : Ordered record) (test : String → Bool) : Ordered (record.filterKeys test) := by
  intro k v hget
  have hmem := Dict.get?_eq_some_iff.1 hget
  exact h k v (Dict.get?_eq_some_iff.2 (List.mem_filter.1 hmem).1)

theorem ordered_of_asDict? {v : Json} (hv : v.Ordered) (h : v.asDict? = some record) : Ordered record := by
  cases hv with
  | object _ hvalues =>
    cases h
    exact ordered_ofList hvalues
  | null | bool | number | string | array => cases h

end Record

namespace Resource

/-- A resource whose values are as they are held in memory. -/
structure Ordered (r : Resource) : Prop where
  metadata : ∀ d ∈ r.metadata, Record.Ordered d
  records : ∀ record ∈ r.records, Record.Ordered record

theorem ordered_of_metadataOfJson? {v : Json} (hv : v.Ordered) {metadata : Option (Dict Json)}
    (h : metadataOfJson? v = some metadata) : ∀ d ∈ metadata, Record.Ordered d := by
  unfold metadataOfJson? at h
  split at h
  · cases h
    exact nofun
  · obtain ⟨d, hd, rfl⟩ := Option.map_eq_some_iff.1 h
    rintro _ ⟨⟩
    exact Record.ordered_of_asDict? hv hd

theorem ordered_of_recordsOfJson? {v : Json} (hv : v.Ordered) {records : List Record}
    (h : recordsOfJson? v = some records) : ∀ record ∈ records, Record.Ordered record := by
  cases hv with
  | @array items hitems =>
    change items.mapM Json.asDict? = some records at h
    induction items generalizing records with
    | nil =>
      cases h
      exact nofun
    | cons item items ih =>
      obtain ⟨hitem, hitems⟩ := List.forall_mem_cons.1 hitems
      rw [List.mapM_cons] at h
      obtain ⟨record, hrecord, h⟩ := Option.bind_eq_some_iff.1 h
      obtain ⟨rest, hrest, h⟩ := Option.bind_eq_some_iff.1 h
      cases h
      exact List.forall_mem_cons.2 ⟨Record.ordered_of_asDict? hitem hrecord, ih hitems hrest⟩
  | null | bool | number | string | object => cases h

def Field.Ordered : Field → Prop
  | .resourceType _ => True
  | .metadata m => ∀ d ∈ m, Record.Ordered d
  | .records rs => ∀ record ∈ rs, Record.Ordered record

theorem Field.ordered_of_readField {limit : Nat} {key : String} {text rest : List Char} {f : Field}
    (h : readField limit key text = some (some f, rest)) : f.Ordered := by
  unfold readField at h
  dsimp only at h
  split at h
  · obtain ⟨⟨v, more⟩, -, h⟩ := Option.bind_eq_some_iff.1 h
    obtain ⟨f', hf, h⟩ := Option.bind_eq_some_iff.1 h
    obtain ⟨s, -, rfl⟩ := Option.map_eq_some_iff.1 hf
    cases h
    exact trivial
  split at h
  · obtain ⟨⟨v, more⟩, hv, h⟩ := Option.bind_eq_some_iff.1 h
    obtain ⟨f', hf, h⟩ := Option.bind_eq_some_iff.1 h
    obtain ⟨m, hm, rfl⟩ := Option.map_eq_some_iff.1 hf
    cases h
    exact ordered_of_metadataOfJson? (Json.ordered_of_readValue hv) hm
  split at h
  · obtain ⟨⟨v, more⟩, hv, h⟩ := Option.bind_eq_some_iff.1 h
    obtain ⟨f', hf, h⟩ := Option.bind_eq_some_iff.1 h
    obtain ⟨rs, hrs, rfl⟩ := Option.map_eq_some_iff.1 hf
    cases h
    exact ordered_of_recordsOfJson? (Json.ordered_of_readValue hv) hrs
  · obtain ⟨more, -, h⟩ := Option.map_eq_some_iff.1 h
    cases h

namespace Fields

structure Ordered (fs : Fields) : Prop where
  metadata : ∀ m ∈ fs.metadata, ∀ d ∈ m, Record.Ordered d
  records : ∀ rs ∈ fs.records, ∀ record ∈ rs, Record.Ordered record

variable {fs fs' : Fields}

theorem Ordered.add? (h : fs.Ordered) {f : Field} (hf : f.Ordered) (hadd : fs.add? f = some fs') : fs'.Ordered := by
  cases f with
  | resourceType t =>
    obtain ⟨-, rfl⟩ : fs.resourceType.isNone ∧ { fs with resourceType := t } = fs' := by simpa [Fields.add?] using hadd
    exact ⟨h.metadata, h.records⟩
  | metadata m =>
    obtain ⟨-, rfl⟩ : fs.metadata.isNone ∧ { fs with metadata := some m } = fs' := by simpa [Fields.add?] using hadd
    refine ⟨?_, h.records⟩
    rintro _ ⟨⟩
    exact hf
  | records rs =>
    obtain ⟨-, rfl⟩ : fs.records.isNone ∧ { fs with records := some rs } = fs' := by simpa [Fields.add?] using hadd
    refine ⟨h.metadata, ?_⟩
    rintro _ ⟨⟩
    exact hf

theorem Ordered.foldlM_add? (h : fs.Ordered) {fields : List Field} (hfields : ∀ f ∈ fields, f.Ordered)
    (hfold : fields.foldlM Fields.add? fs = some fs') : fs'.Ordered := by
  induction fields generalizing fs with
  | nil =>
    cases hfold
    exact h
  | cons f fields ih =>
    obtain ⟨hf, hfields⟩ := List.forall_mem_cons.1 hfields
    rw [List.foldlM_cons] at hfold
    obtain ⟨fs₁, hadd, hfold⟩ := Option.bind_eq_some_iff.1 hfold
    exact ih (h.add? hf hadd) hfields hfold

theorem Ordered.toResource? (h : fs.Ordered) {r : Resource} (hr : fs.toResource? = some r) : r.Ordered := by
  obtain ⟨t, -, rfl⟩ := Option.map_eq_some_iff.1 hr
  obtain ⟨hmetadata, hrecords⟩ := h
  constructor
  · cases hm : fs.metadata with
    | none => exact nofun
    | some m => exact hmetadata m hm
  · cases hrs : fs.records with
    | none => exact nofun
    | some rs => exact hrecords rs hrs

end Fields

variable {r : Resource}

theorem ordered_of_ofMembers? {members : List (String × Option Field)}
    (hmembers : ∀ m ∈ members, ∀ f ∈ m.2, f.Ordered) (h : ofMembers? members = some r) : r.Ordered := by
  obtain ⟨fs, hfold, hr⟩ := Option.bind_eq_some_iff.1 h
  have hempty : Fields.empty.Ordered := ⟨nofun, nofun⟩
  refine (hempty.foldlM_add? (fun f hf => ?_) hfold).toResource? hr
  obtain ⟨m, hm, hf⟩ := List.mem_filterMap.1 hf
  exact hmembers m hm f hf

theorem ordered_of_ofItems? {items : List Json} (hitems : ∀ item ∈ items, item.Ordered)
    (h : ofItems? items = some r) : r.Ordered := by
  unfold ofItems? at h
  split at h
  · obtain ⟨t, -, h⟩ := Option.bind_eq_some_iff.1 h
    cases h
    exact ⟨nofun, nofun⟩
  · obtain ⟨t, -, h⟩ := Option.bind_eq_some_iff.1 h
    obtain ⟨m, hm, h⟩ := Option.bind_eq_some_iff.1 h
    cases h
    exact ⟨ordered_of_metadataOfJson? (hitems _ (by simp)) hm, nofun⟩
  · obtain ⟨t, -, h⟩ := Option.bind_eq_some_iff.1 h
    obtain ⟨m, hm, h⟩ := Option.bind_eq_some_iff.1 h
    obtain ⟨rs, hrs, h⟩ := Option.bind_eq_some_iff.1 h
    cases h
    exact ⟨ordered_of_metadataOfJson? (hitems _ (by simp)) hm, ordered_of_recordsOfJson? (hitems _ (by simp)) hrs⟩
  · cases h

theorem ordered_of_readResource {limit : Nat} {text rest : List Char} (h : readResource limit text = some (r, rest)) :
    r.Ordered := by
  unfold readResource at h
  split at h
  · obtain ⟨⟨members, more⟩, hmembers, h⟩ := Option.bind_eq_some_iff.1 h
    obtain ⟨r', hr, h⟩ := Option.bind_eq_some_iff.1 h
    cases h
    refine ordered_of_ofMembers? (Json.forall_of_readItems (fun text m rest hm f hf => ?_) hmembers) hr
    obtain ⟨text, hread⟩ := Json.exists_of_readMember hm
    rw [show m.2 = some f from hf] at hread
    exact Field.ordered_of_readField hread
  · obtain ⟨⟨items, more⟩, hitems, h⟩ := Option.bind_eq_some_iff.1 h
    obtain ⟨r', hr, h⟩ := Option.bind_eq_some_iff.1 h
    cases h
    exact ordered_of_ofItems? (Json.forall_of_readItems (fun _ _ _ hitem => Json.ordered_of_readValue hitem) hitems) hr
  · cases h

variable [Engine]

theorem ordered_of_ofText {text : String} (h : ofText text = .ok r) : r.Ordered := by
  unfold ofText at h
  dsimp only at h
  split at h
  · next r' rest hread =>
    split at h
    · cases h
      exact ordered_of_readResource hread
    · cases h
  · cases h

end Resource

end RecordFlow
