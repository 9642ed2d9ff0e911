import RecordFlow.Json.Reader
import RecordFlow.Json.Writer
import RecordFlow.Proofs.Dict
import RecordFlow.Text.Basic

/-! # Values and their written form

Values are looked at through their items and fields. The compact and the indented form
are one form with different blanks between the tokens: items and fields stand apart by
commas, and each begins on a line of its own or right after the comma.
-/

namespace RecordFlow.Json

theorem sizeOf_item_lt {item : Json} {items : List Json} (h : item ∈ items) :
    sizeOf item < sizeOf (array items) := by
  have hmem := List.sizeOf_lt_of_mem h
  simp only [array.sizeOf_spec]
  omega

theorem sizeOf_field_lt {field : String × Json} {fields : List (String × Json)} (h : field ∈ fields) :
    sizeOf field.2 < sizeOf (object fields) := by
  obtain ⟨key, value⟩ := field
  have hmem := List.sizeOf_lt_of_mem h
  simp only [Prod.mk.sizeOf_spec] at hmem
  simp only [object.sizeOf_spec]
  omega

/-- What holds of a value if it holds of its items and of the values of its fields holds of all values. -/
@[elab_as_elim]
theorem induction {P : Json → Prop} (null : P null) (bool : ∀ b, P (bool b)) (number : ∀ n, P (number n))
    (string : ∀ s, P (string s)) (array : ∀ items, (∀ item ∈ items, P item) → P (array items))
    (object : ∀ fields, (∀ field ∈ fields, P field.2) → P (object fields)) : ∀ v, P v
  | .null => null
  | .bool b => bool b
  | .number n => number n
  | .string s => string s
  | .array items => array items fun item _ => induction null bool number string array object item
  | .object fields => object fields fun field _ => induction null bool number string array object field.2
termination_by v => sizeOf v
decreasing_by
  · exact sizeOf_item_lt ‹item ∈ items›
  · exact sizeOf_field_lt ‹field ∈ fields›

mutual

/-- How many brackets are around the innermost values, at most. -/
def depth : Json → Nat
  | array items => depthOfItems items + 1
  | object fields => depthOfFields fields + 1
  | _ => 0

def depthOfItems : List Json → Nat
  | [] => 0
  | item :: items => max item.depth (depthOfItems items)

def depthOfFields : List (String × Json) → Nat
  | [] => 0
  | (_, value) :: fields => max value.depth (depthOfFields fields)

end

theorem depthOfItems_le_iff {items : List Json} {n : Nat} :
    depthOfItems items ≤ n ↔ ∀ item ∈ items, item.depth ≤ n := by
  induction items with
  | nil => simp [depthOfItems]
  | cons item items ih => simp only [depthOfItems, Nat.max_le, ih, List.forall_mem_cons]

theorem depthOfFields_le_iff {fields : List (String × Json)} {n : Nat} :
    depthOfFields fields ≤ n ↔ ∀ field ∈ fields, field.2.depth ≤ n := by
  induction fields with
  | nil => simp [depthOfFields]
  | cons field fields ih => simp only [depthOfFields, Nat.max_le, ih, List.forall_mem_cons]

/-- Values as they are held in memory: the fields of every object stand in key order. -/
inductive Ordered : Json → Prop
  | null : Ordered null
  | bool (b : Bool) : Ordered (bool b)
  | number (n : Number) : Ordered (number n)
  | string (s : String) : Ordered (string s)
  | array {items : List Json} (hitems : ∀ item ∈ items, Ordered item) : Ordered (array items)
  | object {fields : List (String × Json)} (hascending : fields.Pairwise entryLess)
      (hvalues : ∀ field ∈ fields, Ordered field.2) : Ordered (object fields)

theorem ordered_ofBinary64 (x : Binary64) : (ofBinary64 x).Ordered := by
  unfold ofBinary64
  split
  · exact .number _
  · exact .null

theorem ordered_ofInt (n : Int) : (ofInt n).Ordered := by
  unfold ofInt
  split
  · exact .number _
  · exact ordered_ofBinary64 _

theorem sortFields_eq (fields : List (String × Json)) : sortFields fields = (Dict.ofList fields).entries := by
  show fields.foldl _ (Dict.empty : Dict Json).entries = _
  exact List.foldl_hom Dict.entries fun _ _ => rfl

theorem sortFields_of_ascending {fields : List (String × Json)} (h : fields.Pairwise entryLess) :
    sortFields fields = fields := by
  rw [sortFields_eq, Dict.ofList_of_perm (d := ⟨fields, h⟩) (.refl _)]

theorem ordered_sortFields {fields : List (String × Json)} (h : ∀ field ∈ fields, field.2.Ordered) :
    (object (sortFields fields)).Ordered := by
  rw [sortFields_eq]
  exact .object (Dict.ascending _) fun field hfield => h field (Dict.mem_of_mem_ofList hfield)

/-- The blanks between the tokens of a written value. -/
structure Layout where
  /-- What stands before an item, a field or a closing bracket at some depth. -/
  newLine : Nat → List Char
  /-- What stands between a colon and a value. -/
  gap : List Char
  isSpace_newLine : ∀ depth, ∀ c ∈ newLine depth, isSpace c
  isSpace_gap : ∀ c ∈ gap, isSpace c

namespace Layout

def compact : Layout where
  newLine _ := []
  gap := []
  isSpace_newLine := nofun
  isSpace_gap := nofun

theorem isSpace_newLine_indented (depth : Nat) : ∀ c ∈ Json.newLine depth, isSpace c := by
  intro c hc
  rcases List.mem_cons.1 hc with rfl | hc
  · rfl
  · rw [List.eq_of_mem_replicate hc]
    rfl

def indented : Layout where
  newLine := Json.newLine
  gap := [' ']
  isSpace_newLine := isSpace_newLine_indented
  isSpace_gap := List.forall_mem_singleton.2 rfl

def member (l : Layout) (depth : Nat) (key : String) (value : List Char) : List Char :=
  l.newLine depth ++ writeString key ++ ':' :: l.gap ++ value

/-- The form of what stands in a bracket up to and with its closing character. -/
def contents (l : Layout) (depth : Nat) (closing : Char) (items : List (List Char)) : List Char :=
  if items.isEmpty then [closing] else Text.join [','] items ++ l.newLine depth ++ [closing]

/-- The form of a value inside `depth` brackets. -/
def write (l : Layout) (depth : Nat) : Json → List Char
  | array items =>
    '[' :: l.contents depth ']' (items.map fun item => l.newLine (depth + 1) ++ l.write (depth + 1) item)
  | object fields =>
    '\x7b' :: l.contents depth '\x7d' (fields.map fun field =>
      l.member (depth + 1) field.1 (l.write (depth + 1) field.2))
  | .null => "null".toList
  | .bool b => if b then "true".toList else "false".toList
  | .number n => writeNumber n
  | .string s => writeString s
termination_by v => sizeOf v
decreasing_by
  · exact sizeOf_item_lt ‹item ∈ items›
  · exact sizeOf_field_lt ‹field ∈ fields›

end Layout

theorem writeItems_eq (items : List Json) : writeItems items = Text.join [','] (items.map Json.write) := by
  induction items with
  | nil => rfl
  | cons item items ih =>
    cases items with
    | nil => rfl
    | cons next items => simp [writeItems, ih, Text.join]

theorem writeFields_eq (fields : List (String × Json)) :
    writeFields fields = Text.join [','] (fields.map fun field => writeString field.1 ++ ':' :: field.2.write) := by
  induction fields with
  | nil => rfl
  | cons field fields ih =>
    cases fields with
    | nil => rfl
    | cons next fields => simp [writeFields, ih, Text.join]

theorem writeIndentedItems_eq (depth : Nat) (items : List Json) : writeIndentedItems depth items =
    Text.join [','] (items.map fun item => newLine depth ++ item.writeIndented depth) := by
  induction items with
  | nil => rfl
  | cons item items ih =>
    cases items with
    | nil => rfl
    | cons next items => simp [writeIndentedItems, ih, Text.join]

theorem writeIndentedFields_eq (depth : Nat) (fields : List (String × Json)) :
    writeIndentedFields depth fields = Text.join [','] (fields.map fun field =>
      newLine depth ++ writeString field.1 ++ ": ".toList ++ field.2.writeIndented depth) := by
  induction fields with
  | nil => rfl
  | cons field fields ih =>
    cases fields with
    | nil => rfl
    | cons next fields => simp [writeIndentedFields, ih, Text.join]

theorem write_compact (v : Json) (depth : Nat) : Layout.compact.write depth v = v.write := by
  induction v using Json.induction generalizing depth with
  | null | bool | number | string => rw [Layout.write, Json.write]
  | array items ih =>
    rw [Layout.write, Json.write, writeItems_eq]
    have hitems : items.map (fun item => Layout.compact.newLine (depth + 1) ++ Layout.compact.write (depth + 1) item) =
        items.map Json.write := List.map_congr_left fun item hitem => ih item hitem (depth + 1)
    rw [hitems]
    cases items <;> simp [Layout.contents, Layout.compact, Text.join]
  | object fields ih =>
    rw [Layout.write, Json.write, writeFields_eq]
    have hfields : fields.map (fun field => Layout.compact.member (depth + 1) field.1
        (Layout.compact.write (depth + 1) field.2)) =
        fields.map fun field => writeString field.1 ++ ':' :: field.2.write :=
      List.map_congr_left fun field hfield => by
        rw [ih field hfield (depth + 1)]
        simp [Layout.member, Layout.compact]
    rw [hfields]
    cases fields <;> simp [Layout.contents, Layout.compact, Text.join]

theorem write_indented (v : Json) (depth : Nat) : Layout.indented.write depth v = v.writeIndented depth := by
  induction v using Json.induction generalizing depth with
  | null | bool | number | string => rw [Layout.write, Json.writeIndented]
  | array items ih =>
    rw [Layout.write]
    have hitems : items.map (fun item => Layout.indented.newLine (depth + 1) ++ Layout.indented.write (depth + 1) item) =
        items.map fun item => newLine (depth + 1) ++ item.writeIndented (depth + 1) :=
      List.map_congr_left fun item hitem => by rw [ih item hitem (depth + 1)]; rfl
    rw [hitems]
    cases items with
    | nil => rfl
    | cons item items =>
      rw [Json.writeIndented, writeIndentedItems_eq]
      · simp [Layout.contents, Layout.indented]
      · nofun
  | object fields ih =>
    rw [Layout.write]
    have hfields : fields.map (fun field => Layout.indented.member (depth + 1) field.1
        (Layout.indented.write (depth + 1) field.2)) =
        fields.map fun field =>
          newLine (depth + 1) ++ writeString field.1 ++ ": ".toList ++ field.2.writeIndented (depth + 1) :=
      List.map_congr_left fun field hfield => by
        rw [ih field hfield (depth + 1)]
        simp [Layout.member, Layout.indented]
    rw [hfields]
    cases fields with
    | nil => rfl
    | cons field fields =>
      rw [Json.writeIndented, writeIndentedFields_eq]
      · simp [Layout.contents, Layout.indented]
      · nofun

end RecordFlow.Json
