import Mathlib.Data.Finset.Card
import Mathlib.Data.List.Sort
import RecordFlow.Regex.Engine
import RecordFlow.Schema

/-! # Histories of schemas

A schema comes about from an empty one by declaring parameters one after another, and a
name may be declared again. After any declarations the names are distinct and stand in the
order in which they were first declared, and each has the content with which it was last
declared. This is also what the JSON form shows, and it determines the schema.
-/

namespace RecordFlow

variable [Engine]

theorem Property.find?_declare (p : Property) (ps : List Property) (name : String) :
    (p.declare ps).find? (·.name = name) = if name = p.name then some p else ps.find? (·.name = name) := by
  induction ps with
  | nil =>
    by_cases h : name = p.name
    · simp [declare, h]
    · simp [declare, h, Ne.symm h]
  | cons q rest ih =>
    simp only [declare]
    split
    · next hq =>
      by_cases h : name = p.name
      · simp [h]
      · simp [h, hq, Ne.symm h]
    · next hq =>
      rw [List.find?_cons, List.find?_cons, ih]
      by_cases h : q.name = name
      · have hne : name ≠ p.name := h ▸ hq
        simp [h, hne]
      · simp [h]

namespace Schema

variable {s s' : Schema} {p : Property} {key : String}

theorem names_declare (s : Schema) (p : Property) :
    (s.declare p).names = if p.name ∈ s.names then s.names else s.names ++ [p.name] :=
  p.map_name_declare s.properties

theorem mem_names_declare : key ∈ (s.declare p).names ↔ key ∈ s.names ∨ key = p.name := by
  rw [names_declare]
  split
  · next h => exact ⟨.inl, fun hkey => hkey.elim id fun heq => heq ▸ h⟩
  · rw [List.mem_append, List.mem_singleton]

theorem get?_declare (s : Schema) (p : Property) (key : String) :
    (s.declare p).get? key = if key = p.name then some p else s.get? key :=
  p.find?_declare s.properties key

theorem get?_of_mem (h : p ∈ s.properties) : s.get? p.name = some p := by
  cases hfind : s.get? p.name with
  | none => simpa using List.find?_eq_none.1 hfind p h
  | some q =>
    have hname : q.name = p.name := by
      simpa using List.find?_some (p := fun r : Property => r.name = p.name) hfind
    rw [List.inj_on_of_nodup_map s.distinct (List.mem_of_find?_eq_some hfind) h hname]

theorem ext_get? (hnames : s.names = s'.names) (h : ∀ name, s.get? name = s'.get? name) : s = s' := by
  have hcontent (t : Schema) : t.names.map t.get? = t.properties.map some := by
    rw [names, List.map_map]
    exact List.map_congr_left fun p hp => get?_of_mem hp
  have hproperties : s.properties.map some = s'.properties.map some := by
    rw [← hcontent, ← hcontent, hnames, funext h]
  obtain ⟨properties, _⟩ := s
  obtain ⟨properties', _⟩ := s'
  obtain rfl : properties = properties' := (Option.some_injective _).list_map hproperties
  rfl

inductive Declaration where
  | required (name description : String)
  | optional (name description : String) (default : Literal)

namespace Declaration

def name : Declaration → String
  | required name _ => name
  | optional name _ _ => name

/-- What is declared: without a default the parameter is mandatory. -/
def property : Declaration → Property
  | required name description => ⟨name, description, none⟩
  | optional name description default => ⟨name, description, some default⟩

@[simp] theorem name_property (d : Declaration) : d.property.name = d.name := by
  cases d <;> rfl

def IsLastIn (d : Declaration) (done : List Declaration) : Prop :=
  ∃ before after, done = before ++ d :: after ∧ ∀ e ∈ after, e.name ≠ d.name

/-- The JSON form of what is declared. -/
inductive Shows : Declaration → Json → Prop
  | required {name description : String} :
    Shows (required name description) (.object [("description", .string description)])
  | optional {name description : String} {default : Literal} :
    Shows (optional name description default)
      (.object [("description", .string description), ("defaultValue", default.toJson)])

theorem shows_toJson (d : Declaration) : d.Shows d.property.toJson := by
  cases d with
  | required => exact .required
  | optional => exact .optional

variable {d e : Declaration} {done : List Declaration}

theorem find?_reverse_eq_some_iff :
    done.reverse.find? (·.name = key) = some d ↔ d.IsLastIn done ∧ d.name = key := by
  rw [List.find?_eq_some_iff_append, decide_eq_true_iff, and_comm]
  refine and_congr_left fun hkey => ?_
  subst hkey
  constructor
  · rintro ⟨after, before, hdone, hafter⟩
    refine ⟨before.reverse, after.reverse, ?_, fun e he => ?_⟩
    · rw [← List.reverse_reverse done, hdone]
      simp
    · simpa using hafter e (List.mem_reverse.1 he)
  · rintro ⟨before, after, rfl, hafter⟩
    refine ⟨after.reverse, before.reverse, by simp, fun e he => ?_⟩
    simpa using hafter e (List.mem_reverse.1 he)

theorem IsLastIn.unique (hd : d.IsLastIn done) (he : e.IsLastIn done) (hname : d.name = e.name) : d = e := by
  have hfind := find?_reverse_eq_some_iff.2 ⟨hd, hname⟩
  rw [find?_reverse_eq_some_iff.2 ⟨he, rfl⟩] at hfind
  exact (Option.some_inj.1 hfind).symm

/-- The last declaration of a name decides whether the parameter is mandatory. -/
theorem IsLastIn.isMandatory_iff (hd : d.IsLastIn done) :
    d.property.isMandatory ↔ ∃ description, (required d.name description).IsLastIn done := by
  cases d with
  | required name description => exact iff_of_true rfl ⟨description, hd⟩
  | optional name description default =>
    refine iff_of_false Bool.false_ne_true fun ⟨_, hrequired⟩ => ?_
    cases hd.unique hrequired rfl

end Declaration

/-- Whether a name is first found in a list before another one is. One that is not there comes last. -/
def FirstBefore (names : List String) (a b : String) : Prop := names.idxOf a < names.idxOf b

namespace FirstBefore

variable {names : List String} {a b : String}

instance : Std.Irrefl (FirstBefore names) := ⟨fun _ => Nat.lt_irrefl _⟩

instance : Std.Antisymm (FirstBefore names) := ⟨fun _ _ h h' => absurd h' (Nat.lt_asymm h)⟩

omit [Engine] in
theorem of_not_mem (ha : a ∈ names) (hb : b ∉ names) : FirstBefore names a b := by
  rw [FirstBefore, List.idxOf_eq_length hb]
  exact List.idxOf_lt_length_of_mem ha

omit [Engine] in
theorem append (h : FirstBefore names a b) (more : List String) : FirstBefore (names ++ more) a b := by
  have ha : a ∈ names := List.idxOf_lt_length_iff.1 (Nat.lt_of_lt_of_le h List.idxOf_le_length)
  rw [FirstBefore, List.idxOf_append_of_mem ha]
  by_cases hb : b ∈ names
  · rw [List.idxOf_append_of_mem hb]
    exact h
  · rw [List.idxOf_append_of_notMem hb]
    have hlength := List.idxOf_lt_length_of_mem ha
    omega

end FirstBefore

def after (s : Schema) : Declaration → Schema
  | .required name description => s.required name description
  | .optional name description default => s.optional name description default

def afterAll (s : Schema) (ds : List Declaration) : Schema := ds.foldl after s

theorem after_eq_declare (s : Schema) (d : Declaration) : s.after d = s.declare d.property := by
  cases d <;> rfl

/-- A schema that has been made by declarations. -/
structure MadeBy (done : List Declaration) (s : Schema) : Prop where
  mem_names_iff : ∀ name, name ∈ s.names ↔ name ∈ done.map Declaration.name
  ordered : s.names.Pairwise (FirstBefore (done.map Declaration.name))
  get? : ∀ name, s.get? name = (done.reverse.find? (·.name = name)).map Declaration.property

variable {done : List Declaration} {d : Declaration}

theorem madeBy_empty : MadeBy [] empty where
  mem_names_iff _ := Iff.rfl
  ordered := .nil
  get? _ := rfl

theorem MadeBy.after (h : MadeBy done s) (d : Declaration) : MadeBy (done ++ [d]) (s.after d) where
  mem_names_iff name := by
    rw [after_eq_declare, mem_names_declare, h.mem_names_iff]
    simp
  ordered := by
    have hnames : (s.declare d.property).names.Pairwise (FirstBefore (done.map Declaration.name)) := by
      rw [names_declare, d.name_property]
      split
      · exact h.ordered
      · next hnew =>
        refine List.pairwise_append.2 ⟨h.ordered, List.pairwise_singleton _ _, ?_⟩
        rintro a ha _ hb
        obtain rfl := List.mem_singleton.1 hb
        exact .of_not_mem ((h.mem_names_iff a).1 ha) fun hmem => hnew ((h.mem_names_iff _).2 hmem)
    -- The order was stated by the names declared so far, and one more of them does not change it.
    rw [after_eq_declare, List.map_append]
    exact hnames.imp fun hbefore => hbefore.append _
  get? name := by
    rw [after_eq_declare, get?_declare, List.reverse_append, List.reverse_singleton, List.singleton_append,
      List.find?_cons, h.get?, d.name_property]
    by_cases hname : name = d.name
    · simp [hname]
    · simp [hname, Ne.symm hname]

theorem MadeBy.afterAll (h : MadeBy done s) (ds : List Declaration) : MadeBy (done ++ ds) (s.afterAll ds) := by
  induction ds generalizing s done with
  | nil =>
    rw [List.append_nil]
    exact h
  | cons d ds ih =>
    rw [← List.singleton_append, ← List.append_assoc]
    exact ih (h.after d)

theorem MadeBy.get?_eq_some_iff (h : MadeBy done s) :
    s.get? key = some p ↔ ∃ d : Declaration, d.IsLastIn done ∧ d.name = key ∧ p = d.property := by
  simp only [h.get?, Option.map_eq_some_iff, Declaration.find?_reverse_eq_some_iff, and_assoc, eq_comm (a := p)]

theorem MadeBy.nodup_names (h : MadeBy done s) : s.names.Nodup := h.ordered.nodup

/-- The fields of the JSON form of a schema that declarations have made. -/
structure Shown (done : List Declaration) (s : Schema) (fields : List (String × Json)) : Prop where
  names : fields.map Prod.fst = s.names
  /-- Each name that has been declared stands there once, and no other name does. -/
  count : ∀ name, (fields.map Prod.fst).count name = if name ∈ done.map Declaration.name then 1 else 0
  value : ∀ field ∈ fields, ∃ d : Declaration, d.IsLastIn done ∧ d.name = field.1 ∧ d.Shows field.2
  defaultValue : ∀ field ∈ fields, ∃ p members, s.get? field.1 = some p ∧ field.2 = .object members ∧
    ("defaultValue" ∈ members.map Prod.fst ↔ ¬ p.isMandatory)

/-- What holds of a schema that declarations have made. -/
structure Consistent (done : List Declaration) (s : Schema) : Prop where
  distinct : s.names.Nodup
  mem_names_iff : ∀ name, name ∈ s.names ↔ name ∈ done.map Declaration.name
  /-- The names stand in the order in which they were first declared. -/
  ordered : s.names.Pairwise (FirstBefore (done.map Declaration.name))
  /-- A name has the content of its last declaration. -/
  get?_eq_some_iff : ∀ name p, s.get? name = some p ↔
    ∃ d : Declaration, d.IsLastIn done ∧ d.name = name ∧ p = d.property
  get?_eq_none_iff : ∀ name, s.get? name = none ↔ name ∉ done.map Declaration.name
  isMandatory_iff : ∀ name p, s.get? name = some p →
    (p.isMandatory ↔ ∃ description, (Declaration.required name description).IsLastIn done)
  size : s.size = (done.map Declaration.name).toFinset.card
  toJson : ∃ fields, s.toJson = .object fields ∧ Shown done s fields

theorem MadeBy.shown (h : MadeBy done s) : Shown done s (s.properties.map fun p => (p.name, p.toJson)) := by
  have hnames : (s.properties.map fun p => (p.name, p.toJson)).map Prod.fst = s.names := by
    rw [List.map_map]
    rfl
  constructor
  case names => exact hnames
  case count =>
    intro name
    rw [hnames, h.nodup_names.count]
    exact if_congr (h.mem_names_iff name) rfl rfl
  case value =>
    intro field hfield
    obtain ⟨p, hp, rfl⟩ := List.mem_map.1 hfield
    obtain ⟨d, hlast, hname, rfl⟩ := h.get?_eq_some_iff.1 (get?_of_mem hp)
    exact ⟨d, hlast, hname, d.shows_toJson⟩
  case defaultValue =>
    intro field hfield
    obtain ⟨p, hp, rfl⟩ := List.mem_map.1 hfield
    refine ⟨p, _, get?_of_mem hp, rfl, ?_⟩
    cases hdefault : p.default? <;> simp [Property.isMandatory, hdefault]

theorem MadeBy.consistent (h : MadeBy done s) : Consistent done s where
  distinct := h.nodup_names
  mem_names_iff := h.mem_names_iff
  ordered := h.ordered
  get?_eq_some_iff _ _ := h.get?_eq_some_iff
  get?_eq_none_iff name := by simp [h.get?]
  isMandatory_iff name p hp := by
    obtain ⟨d, hlast, rfl, rfl⟩ := h.get?_eq_some_iff.1 hp
    exact hlast.isMandatory_iff
  size := by
    have hnames : s.names.toFinset = (done.map Declaration.name).toFinset := by
      ext name
      rw [List.mem_toFinset, List.mem_toFinset, h.mem_names_iff]
    rw [← hnames, List.toFinset_card_of_nodup h.nodup_names, names, List.length_map, Schema.size]
  toJson := ⟨_, rfl, h.shown⟩

theorem Consistent.unique (h : Consistent done s) (h' : Consistent done s') : s = s' := by
  refine ext_get? ?_ fun name => ?_
  · refine h.ordered.eq_of_mem_iff h'.ordered fun name => ?_
    rw [h.mem_names_iff, h'.mem_names_iff]
  · refine Option.ext fun p => ?_
    rw [h.get?_eq_some_iff, h'.get?_eq_some_iff]

/-- After any declarations, of mandatory parameters and of others, a schema has each declared name once, in the
order of the first declarations and with the content of the last ones, and so has its JSON form. No other schema
than the one that the declarations make is like that. -/
theorem consistent_iff_eq_afterAll (ds : List Declaration) (s : Schema) :
    Consistent ds s ↔ s = empty.afterAll ds := by
  have hmade : Consistent ds (empty.afterAll ds) := (madeBy_empty.afterAll ds).consistent
  constructor
  · intro h
    exact h.unique hmade
  · rintro rfl
    exact hmade

end Schema

end RecordFlow

namespace RecordFlow.Schema

open scoped Regex

/-- A mandatory parameter gets a default, and another one loses it; both keep their places. -/
theorem consistent_iff_eq_afterAll_redeclared :
    let ds : List Declaration :=
      [.required "count" "first", .optional "mode" "first" (.string "a"), .required "last" "only",
        .optional "count" "second" (.number (.ofNat 5)), .required "mode" "second"]
    let s : Schema :=
      ⟨[⟨"count", "second", some (.number (.ofNat 5))⟩, ⟨"mode", "second", none⟩, ⟨"last", "only", none⟩],
        by decide⟩
    s = empty.afterAll ds ∧ Consistent ds s := by
  intro ds s
  have h : s = empty.afterAll ds := by decide +kernel
  exact ⟨h, (consistent_iff_eq_afterAll ds s).2 h⟩

end RecordFlow.Schema
