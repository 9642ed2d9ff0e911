import Mathlib.Data.Option.Basic
import RecordFlow.Proofs.Resolution

/-! # Where parameters come from

A parameter of a call is its override if there is one, else the value bound to the node, else
the default of the schema. A call fails at the first mandatory property that is not given.
Names that the schema does not declare are never looked at.
-/

namespace RecordFlow

namespace Dict

variable {α : Type} {keys : List String} {key : String}

def AgreeOn (keys : List String) (d e : Dict α) : Prop := ∀ key ∈ keys, d.get? key = e.get? key

theorem agreeOn_insert (h : key ∉ keys) (d : Dict α) (value : α) : AgreeOn keys (d.insert key value) d := by
  intro k hk
  have hne : k ≠ key := fun heq => h (heq ▸ hk)
  rw [get?_insert, if_neg hne]

theorem agreeOn_erase (h : key ∉ keys) (d : Dict α) : AgreeOn keys (d.erase key) d := by
  intro k hk
  have hne : k ≠ key := fun heq => h (heq ▸ hk)
  rw [get?_erase, if_neg hne]

end Dict

variable [Engine]

variable {nodeType : String} {schema : Schema} {bound bound' : Parameters} {overrides overrides' : Option Parameters}

namespace Property

variable {p : Property} {v : Literal}

def IsGiven (p : Property) (bound : Parameters) (overrides : Option Parameters) : Prop :=
  (overrides.getD .empty).contains p.name ∨ bound.contains p.name

/-- The value of a property: the override, or without one the bound value, or without both the default. -/
inductive Takes (p : Property) (bound : Parameters) (overrides : Option Parameters) (v : Literal) : Prop
  | override : (overrides.getD .empty).get? p.name = some v → Takes p bound overrides v
  | bound : (overrides.getD .empty).get? p.name = none → bound.get? p.name = some v → Takes p bound overrides v
  | default : ¬ p.IsGiven bound overrides → p.default? = some v → Takes p bound overrides v

theorem not_isGiven_iff : ¬ p.IsGiven bound overrides ↔
    (overrides.getD .empty).get? p.name = none ∧ bound.get? p.name = none := by
  simp [IsGiven, Dict.contains]

theorem isUnset_iff : p.isUnset bound overrides ↔ p.isMandatory ∧ ¬ p.IsGiven bound overrides := by
  simp only [isUnset, isMandatory, not_isGiven_iff, Dict.get?_getD_empty, Bool.and_eq_true, Option.isNone_iff_eq_none]
  exact and_comm

theorem not_isUnset_iff : ¬ p.isUnset bound overrides ↔ (p.isMandatory → p.IsGiven bound overrides) := by
  rw [isUnset_iff, not_and, not_not]

theorem resolve_eq_some_iff : p.resolve bound overrides = some v ↔ p.Takes bound overrides v := by
  rw [resolve, ← Dict.get?_getD_empty]
  constructor
  · intro h
    cases hoverride : (overrides.getD .empty).get? p.name with
    | some w =>
      rw [hoverride] at h
      exact .override (hoverride.trans h)
    | none =>
      cases hbound : bound.get? p.name with
      | some w =>
        rw [hoverride, hbound] at h
        exact .bound hoverride (hbound.trans h)
      | none =>
        rw [hoverride, hbound] at h
        exact .default (not_isGiven_iff.2 ⟨hoverride, hbound⟩) h
  · intro h
    cases h with
    | override hoverride => rw [hoverride]; rfl
    | bound hoverride hbound => rw [hoverride, hbound]; rfl
    | default hgiven hdefault =>
      obtain ⟨hoverride, hbound⟩ := not_isGiven_iff.1 hgiven
      rw [hoverride, hbound]
      exact hdefault

end Property

namespace Resolved

variable {r r' : Resolved} {e : Error}

/-- The parameters of a call in full: a value for each name of the schema, and for no others. -/
structure Layered (r : Resolved) (nodeType : String) (schema : Schema) (bound : Parameters)
    (overrides : Option Parameters) : Prop where
  nodeType : r.nodeType = nodeType
  keys : ∀ key, r.values.contains key ↔ key ∈ schema.names
  values : ∀ p ∈ schema.properties, ∃ v, r.get? p.name = some v ∧ p.Takes bound overrides v

theorem layered_of_ofSchema (h : ofSchema nodeType schema bound overrides = .ok r) :
    r.Layered nodeType schema bound overrides where
  nodeType := (covers_of_ofSchema h).1
  keys key := by
    obtain ⟨values, hvalues, rfl⟩ := Literal.map_eq_ok h
    rw [Dict.contains, Option.isSome_iff_ne_none, ne_eq, Dict.get?_ofList_eq_none_iff, not_not,
      map_fst_of_entries hvalues]
    rfl
  values p hp := by
    have hcovers := (covers_of_ofSchema h).2 p.name (List.mem_map_of_mem hp)
    obtain ⟨v, hv⟩ := Option.isSome_iff_exists.1 hcovers
    refine ⟨v, hv, Property.resolve_eq_some_iff.1 ?_⟩
    rw [← hv, get?_of_ofSchema h hp]

theorem Layered.get?_eq (h : r.Layered nodeType schema bound overrides) {p : Property} (hp : p ∈ schema.properties) :
    r.get? p.name = p.resolve bound overrides := by
  obtain ⟨v, hv, htakes⟩ := h.values p hp
  rw [hv, Property.resolve_eq_some_iff.2 htakes]

theorem Layered.unique (h : r.Layered nodeType schema bound overrides)
    (h' : r'.Layered nodeType schema bound overrides) : r = r' := by
  have hvalues : r.values = r'.values := by
    refine Dict.ext_get? fun key => ?_
    by_cases hkey : key ∈ schema.names
    · obtain ⟨p, hp, rfl⟩ := List.mem_map.1 hkey
      exact (h.get?_eq hp).trans (h'.get?_eq hp).symm
    · have hnone : ¬ r.values.contains key := fun hcontains => hkey ((h.keys key).1 hcontains)
      have hnone' : ¬ r'.values.contains key := fun hcontains => hkey ((h'.keys key).1 hcontains)
      rw [Dict.contains, Option.not_isSome_iff_eq_none] at hnone hnone'
      rw [hnone, hnone']
  obtain ⟨_, values⟩ := r
  obtain ⟨_, values'⟩ := r'
  obtain rfl := h.nodeType
  obtain rfl := h'.nodeType
  obtain rfl : values = values' := hvalues
  rfl

/-- Whether a call finds its parameters as a schema says. It succeeds if every mandatory property is given, and
otherwise the first one that is not is the error. -/
structure FollowsSchema (nodeType : String) (schema : Schema) (bound : Parameters) (overrides : Option Parameters) :
    Prop where
  isOk_iff : (∃ r, ofSchema nodeType schema bound overrides = .ok r) ↔
    ∀ p ∈ schema.properties, p.isMandatory → p.IsGiven bound overrides
  ok_iff : ∀ r, ofSchema nodeType schema bound overrides = .ok r ↔ r.Layered nodeType schema bound overrides
  error_iff : ∀ e, ofSchema nodeType schema bound overrides = .error e ↔
    ∃ before p after, schema.properties = before ++ p :: after ∧
      (∀ q ∈ before, q.isMandatory → q.IsGiven bound overrides) ∧ p.isMandatory ∧ ¬ p.IsGiven bound overrides ∧
      e = .mandatoryParameter nodeType p.name

theorem exists_ofSchema_eq_ok_iff : (∃ r, ofSchema nodeType schema bound overrides = .ok r) ↔
    ∀ p ∈ schema.properties, p.isMandatory → p.IsGiven bound overrides := by
  simp only [← Property.not_isUnset_iff]
  cases hresult : ofSchema nodeType schema bound overrides with
  | error e =>
    obtain ⟨p, hfind, -⟩ := ofSchema_eq_error_iff.1 hresult
    refine iff_of_false (fun ⟨r, hr⟩ => nomatch hr) fun hall => ?_
    have hunset := List.find?_some (p := fun q : Property => q.isUnset bound overrides) hfind
    exact hall p (List.mem_of_find?_eq_some hfind) hunset
  | ok r =>
    refine iff_of_true ⟨r, rfl⟩ fun p hp => ?_
    obtain ⟨v, -, htakes⟩ := (layered_of_ofSchema hresult).values p hp
    rw [← Property.resolve_eq_none_iff, Property.resolve_eq_some_iff.2 htakes]
    exact Option.some_ne_none v

theorem followsSchema (nodeType : String) (schema : Schema) (bound : Parameters) (overrides : Option Parameters) :
    FollowsSchema nodeType schema bound overrides where
  isOk_iff := exists_ofSchema_eq_ok_iff
  ok_iff r := by
    refine ⟨layered_of_ofSchema, fun h => ?_⟩
    have hgiven : ∀ p ∈ schema.properties, p.isMandatory → p.IsGiven bound overrides := by
      intro p hp hmandatory
      by_contra hnot
      obtain ⟨v, -, htakes⟩ := h.values p hp
      have hnone := Property.resolve_eq_none_iff.2 (Property.isUnset_iff.2 ⟨hmandatory, hnot⟩)
      rw [Property.resolve_eq_some_iff.2 htakes] at hnone
      cases hnone
    obtain ⟨r', hr'⟩ := exists_ofSchema_eq_ok_iff.2 hgiven
    rw [hr', (layered_of_ofSchema hr').unique h]
  error_iff e := by
    simp only [ofSchema_eq_error_iff, List.find?_eq_some_iff_append, Bool.not_eq_true']
    constructor
    · rintro ⟨p, ⟨hunset, before, after, hsplit, hbefore⟩, rfl⟩
      obtain ⟨hmandatory, hnot⟩ := Property.isUnset_iff.1 hunset
      refine ⟨before, p, after, hsplit, fun q hq => ?_, hmandatory, hnot, rfl⟩
      exact Property.not_isUnset_iff.1 (Bool.eq_false_iff.1 (hbefore q hq))
    · rintro ⟨before, p, after, hsplit, hbefore, hmandatory, hnot, rfl⟩
      refine ⟨p, ⟨Property.isUnset_iff.2 ⟨hmandatory, hnot⟩, before, after, hsplit, fun q hq => ?_⟩, rfl⟩
      exact Bool.eq_false_iff.2 (Property.not_isUnset_iff.2 (hbefore q hq))

theorem ofSchema_of_agreeOn (hbound : Dict.AgreeOn schema.names bound' bound)
    (hoverrides : Dict.AgreeOn schema.names (overrides'.getD .empty) (overrides.getD .empty)) :
    ofSchema nodeType schema bound' overrides' = ofSchema nodeType schema bound overrides := by
  have hresolve : ∀ p ∈ schema.properties, p.resolve bound' overrides' = p.resolve bound overrides := by
    intro p hp
    have hname : p.name ∈ schema.names := List.mem_map_of_mem hp
    rw [Property.resolve, Property.resolve, hbound p.name hname, ← Dict.get?_getD_empty, hoverrides p.name hname,
      Dict.get?_getD_empty]
  rw [ofSchema, ofSchema, entries_congr nodeType hresolve]

end Resolved

end RecordFlow
