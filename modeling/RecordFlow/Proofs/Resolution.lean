import RecordFlow.Proofs.Dict
import RecordFlow.Resolution

/-! # What parameters resolve to

A call finds a value for every property of a schema, or it fails at the first one
that has no override, no bound value and no default. Overrides count as much as if
they had been written over the bound parameters.
-/

namespace RecordFlow

variable [Engine]

variable {nodeType : String} {bound : Parameters} {overrides : Option Parameters} {e : Error}

theorem Literal.asString?_eq_some_iff {v : Literal} {s : String} : v.asString? = some s ↔ v = .string s := by
  constructor
  · intro h
    unfold asString? at h
    split at h
    · cases h
      rfl
    · cases h
  · rintro rfl
    rfl

theorem Literal.asNumber?_eq_some_iff {v : Literal} {x : Binary64} : v.asNumber? = some x ↔ v = .number x := by
  constructor
  · intro h
    unfold asNumber? at h
    split at h
    · cases h
      rfl
    · cases h
  · rintro rfl
    rfl

namespace Property

/-- Whether there is no override, no bound value and no default. -/
def isUnset (p : Property) (bound : Parameters) (overrides : Option Parameters) : Bool :=
  (overrides.bind (·.get? p.name)).isNone && (bound.get? p.name).isNone && p.default?.isNone

theorem resolve_eq_none_iff {p : Property} : p.resolve bound overrides = none ↔ p.isUnset bound overrides := by
  simp [resolve, isUnset]

theorem resolve_overwrite (p : Property) (bound q : Parameters) :
    p.resolve (bound.overwrite q) none = p.resolve bound (some q) := by
  simp [resolve, Dict.get?_overwrite]

end Property

namespace Resolved

theorem entries_cons_unset {p : Property} (h : p.isUnset bound overrides) (ps : List Property) :
    entries nodeType bound overrides (p :: ps) = .error (.mandatoryParameter nodeType p.name) := by
  rw [entries, Property.resolve_eq_none_iff.2 h]

theorem entries_cons_set {p : Property} (h : ¬ p.isUnset bound overrides) (nodeType : String)
    (ps : List Property) : ∃ value, entries nodeType bound overrides (p :: ps) =
      (entries nodeType bound overrides ps).map ((p.name, value) :: ·) := by
  rw [← Property.resolve_eq_none_iff, ← ne_eq, Option.ne_none_iff_exists'] at h
  obtain ⟨value, hvalue⟩ := h
  exact ⟨value, by rw [entries, hvalue]⟩

/-- The first property without a value is the cause of a failure, and there is no other cause. -/
theorem entries_eq_error_iff {ps : List Property} : entries nodeType bound overrides ps = .error e ↔
    ∃ p, ps.find? (·.isUnset bound overrides) = some p ∧ e = .mandatoryParameter nodeType p.name := by
  induction ps with
  | nil => simp [entries]
  | cons p ps ih =>
    by_cases hp : p.isUnset bound overrides
    · rw [entries_cons_unset hp, List.find?_cons, hp]
      simp [eq_comm]
    · obtain ⟨value, hvalue⟩ := entries_cons_set hp nodeType ps
      rw [hvalue, List.find?_cons, eq_false_of_ne_true hp, ← ih]
      cases entries nodeType bound overrides ps <;> simp [Except.map]

theorem map_fst_of_entries {ps : List Property} {values : List (String × Literal)}
    (h : entries nodeType bound overrides ps = .ok values) : values.map Prod.fst = ps.map Property.name := by
  induction ps generalizing values with
  | nil =>
    cases h
    rfl
  | cons p ps ih =>
    by_cases hp : p.isUnset bound overrides
    · rw [entries_cons_unset hp] at h
      cases h
    · obtain ⟨value, hvalue⟩ := entries_cons_set hp nodeType ps
      rw [hvalue] at h
      obtain ⟨rest, hrest, rfl⟩ := Literal.map_eq_ok h
      rw [List.map_cons, List.map_cons, ih hrest]

theorem entries_congr (nodeType : String) {bound' : Parameters} {overrides' : Option Parameters}
    {ps : List Property} (h : ∀ p ∈ ps, p.resolve bound' overrides' = p.resolve bound overrides) :
    entries nodeType bound' overrides' ps = entries nodeType bound overrides ps := by
  induction ps with
  | nil => rfl
  | cons p ps ih =>
    obtain ⟨hp, hps⟩ := List.forall_mem_cons.1 h
    rw [entries, entries, hp, ih hps]

variable {schema : Schema}

theorem ofSchema_eq_error_iff : ofSchema nodeType schema bound overrides = .error e ↔
    ∃ p, schema.properties.find? (·.isUnset bound overrides) = some p ∧
      e = .mandatoryParameter nodeType p.name := by
  rw [← entries_eq_error_iff, ofSchema]
  cases entries nodeType bound overrides schema.properties <;> simp [Except.map]

/-- Overrides count as much as if they had been written over the bound parameters. -/
theorem ofSchema_overwrite (nodeType : String) (schema : Schema) (bound q : Parameters) :
    ofSchema nodeType schema (bound.overwrite q) none = ofSchema nodeType schema bound (some q) := by
  have hentries := entries_congr nodeType fun p (_ : p ∈ schema.properties) => p.resolve_overwrite bound q
  rw [ofSchema, ofSchema, hentries]

variable {r : Resolved} {key : String} {v : Literal} {α : Type}

theorem value_eq_ok_iff : r.value key = .ok v ↔ r.get? key = some v := by
  unfold value
  cases r.get? key <;> simp

theorem read_of_some {expected : Expectation} {as? : Literal → Option α} {a : α} (h : r.get? key = some v)
    (ha : as? v = some a) : r.read key expected as? = .ok a := by
  simp only [read, value_eq_ok_iff.2 h, ha]

theorem read_of_none {as? : Literal → Option α} (h : r.get? key = some v) (ha : as? v = none)
    (expected : Expectation) :
    r.read key expected as? = .error (.invalidParameter r.nodeType key expected v) := by
  simp only [read, value_eq_ok_iff.2 h, ha]

theorem read_eq_ok_iff {expected : Expectation} {as? : Literal → Option α} {a : α} :
    r.read key expected as? = .ok a ↔ ∃ v, r.get? key = some v ∧ as? v = some a := by
  cases hv : r.get? key with
  | none => simp [read, value, hv]
  | some v =>
    cases ha : as? v with
    | none => simp [read_of_none hv ha, ha]
    | some b => simp [read_of_some hv ha, ha]

theorem read_eq_error_iff {expected : Expectation} {as? : Literal → Option α} (h : r.get? key = some v) :
    r.read key expected as? = .error e ↔ e = .invalidParameter r.nodeType key expected v ∧ as? v = none := by
  cases ha : as? v with
  | none => simp [read_of_none h ha, eq_comm]
  | some a => simp [read_of_some h ha]

theorem string_eq_ok_iff {s : String} : r.string key = .ok s ↔ r.get? key = some (.string s) := by
  simp [string, read_eq_ok_iff, Literal.asString?_eq_some_iff]

def Covers (r : Resolved) (schema : Schema) : Prop := ∀ name ∈ schema.names, (r.get? name).isSome

theorem covers_of_ofSchema {r : Resolved} (h : ofSchema nodeType schema bound overrides = .ok r) :
    r.nodeType = nodeType ∧ r.Covers schema := by
  obtain ⟨values, hvalues, rfl⟩ := Literal.map_eq_ok h
  refine ⟨rfl, fun name hname => ?_⟩
  have hmem : name ∈ values.map Prod.fst := by
    rw [map_fst_of_entries hvalues]
    exact hname
  rw [get?, Option.isSome_iff_ne_none]
  exact fun hnone => Dict.get?_ofList_eq_none_iff.1 hnone hmem

theorem lookup_entries {ps : List Property} {values : List (String × Literal)} (hnodup : (ps.map Property.name).Nodup)
    (h : entries nodeType bound overrides ps = .ok values) {p : Property} (hp : p ∈ ps) :
    values.lookup p.name = p.resolve bound overrides := by
  induction ps generalizing values with
  | nil => cases hp
  | cons q ps ih =>
    obtain ⟨hhead, hnodup⟩ := List.nodup_cons.1 hnodup
    unfold entries at h
    split at h
    · cases h
    · next value hvalue =>
      obtain ⟨rest, hrest, rfl⟩ := Literal.map_eq_ok h
      rw [lookup_cons_eq_ite]
      rcases List.mem_cons.1 hp with rfl | hp
      · rw [if_pos rfl, hvalue]
      · have hne : p.name ≠ q.name := fun heq => hhead (heq ▸ List.mem_map_of_mem hp)
        rw [if_neg hne, ih hnodup hrest hp]

theorem get?_of_ofSchema {r : Resolved} (h : ofSchema nodeType schema bound overrides = .ok r) {p : Property}
    (hp : p ∈ schema.properties) : r.get? p.name = p.resolve bound overrides := by
  obtain ⟨values, hvalues, rfl⟩ := Literal.map_eq_ok h
  have hnodup : (values.map Prod.fst).Nodup := by
    rw [map_fst_of_entries hvalues]
    exact schema.distinct
  rw [get?, Dict.get?_ofList_of_nodup hnodup, lookup_entries schema.distinct hvalues hp]

theorem entries_of_get? {ps : List Property} {values : List (String × Literal)}
    (hnames : values.map Prod.fst = ps.map Property.name) (hvalues : ∀ e ∈ values, bound.get? e.1 = some e.2) :
    entries nodeType bound none ps = .ok values := by
  induction ps generalizing values with
  | nil =>
    obtain rfl : values = [] := List.map_eq_nil_iff.1 hnames
    rfl
  | cons p ps ih =>
    cases values with
    | nil => cases hnames
    | cons e values =>
      obtain ⟨hname, hnames⟩ := List.cons.inj hnames
      obtain ⟨hvalue, hvalues⟩ := List.forall_mem_cons.1 hvalues
      have hresolve : p.resolve bound none = some e.2 := by
        rw [Property.resolve, ← hname, hvalue]
        rfl
      rw [entries, hresolve, ih hnames hvalues, ← hname]
      rfl

theorem ofSchema_ofList {values : List (String × Literal)} (hnames : values.map Prod.fst = schema.names)
    (nodeType : String) : ofSchema nodeType schema (.ofList values) none = .ok ⟨nodeType, .ofList values⟩ := by
  have hnodup : (values.map Prod.fst).Nodup := hnames ▸ schema.distinct
  have hvalues : ∀ e ∈ values, (Dict.ofList values).get? e.1 = some e.2 := by
    intro e he
    rw [Dict.get?_ofList_of_nodup hnodup]
    exact (lookup_eq_some_iff_mem hnodup).2 he
  rw [ofSchema, entries_of_get? hnames hvalues]
  rfl

/-- With one override more, a call that had its parameters has them still, and only one of them is new. -/
theorem ofSchema_insert {r : Resolved} (h : ofSchema nodeType schema bound overrides = .ok r) (key : String)
    (v : Literal) : ∃ r', ofSchema nodeType schema bound (some ((overrides.getD .empty).insert key v)) = .ok r' ∧
      ∀ name ∈ schema.names, r'.get? name = if name = key then some v else r.get? name := by
  have hresolve (p : Property) : p.resolve bound (some ((overrides.getD .empty).insert key v)) =
      if p.name = key then some v else p.resolve bound overrides := by
    simp only [Property.resolve, Option.bind_some, Dict.get?_insert, Dict.get?_getD_empty]
    split <;> rfl
  cases hnew : ofSchema nodeType schema bound (some ((overrides.getD .empty).insert key v)) with
  | error e =>
    obtain ⟨p, hfind, -⟩ := ofSchema_eq_error_iff.1 hnew
    have hnone := Property.resolve_eq_none_iff.2 (List.find?_some (p := fun p : Property => p.isUnset bound _) hfind)
    rw [hresolve] at hnone
    split at hnone
    · cases hnone
    · have hsome := (covers_of_ofSchema h).2 p.name (List.mem_map_of_mem (List.mem_of_find?_eq_some hfind))
      rw [get?_of_ofSchema h (List.mem_of_find?_eq_some hfind), hnone] at hsome
      cases hsome
  | ok r' =>
    refine ⟨r', rfl, fun name hname => ?_⟩
    obtain ⟨p, hp, rfl⟩ := List.mem_map.1 hname
    rw [get?_of_ofSchema hnew hp, get?_of_ofSchema h hp, hresolve]

end Resolved

end RecordFlow
