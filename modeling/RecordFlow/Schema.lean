import RecordFlow.Json.Basic
import RecordFlow.Literal.Basic

/-! # Parameter schemas

A schema declares the parameters that a type of nodes reads, in order, each
with a description and perhaps a default. A parameter without a default is
mandatory. A name that is declared again keeps its place and takes the new
declaration.
-/

namespace RecordFlow

variable [Engine]

structure Property where
  name : String
  description : String
  default? : Option Literal
  deriving DecidableEq

namespace Property

def isMandatory (p : Property) : Bool := p.default?.isNone

def toJson (p : Property) : Json :=
  .object <| ("description", .string p.description) ::
    match p.default? with
    | none => []
    | some value => [("defaultValue", value.toJson)]

/-- Declares a property among others, over one of the same name or else after them. -/
def declare (p : Property) : List Property → List Property
  | [] => [p]
  | q :: rest => if q.name = p.name then p :: rest else q :: declare p rest

theorem map_name_declare (p : Property) (ps : List Property) :
    (p.declare ps).map name =
      if p.name ∈ ps.map name then ps.map name else ps.map name ++ [p.name] := by
  induction ps with
  | nil => simp [declare]
  | cons q rest ih =>
    simp only [declare]
    split
    · next h => simp [h]
    · next h =>
      have h' : ¬ p.name = q.name := fun e => h e.symm
      simp only [List.map_cons, ih, List.mem_cons, h', false_or]
      split <;> simp

theorem nodup_map_name_declare (p : Property) {ps : List Property} (h : (ps.map name).Nodup) :
    ((p.declare ps).map name).Nodup := by
  rw [map_name_declare]
  split
  · exact h
  · next hp =>
    refine List.nodup_append.2 ⟨h, by simp, fun a ha b hb => ?_⟩
    rintro rfl
    exact hp (List.mem_singleton.1 hb ▸ ha)

end Property

/-- Declared parameters in order, with distinct names. -/
structure Schema where
  properties : List Property
  distinct : (properties.map Property.name).Nodup

namespace Schema

def empty : Schema := ⟨[], List.nodup_nil⟩

def declare (s : Schema) (p : Property) : Schema :=
  ⟨p.declare s.properties, p.nodup_map_name_declare s.distinct⟩

def required (s : Schema) (name description : String) : Schema :=
  s.declare ⟨name, description, none⟩

def optional (s : Schema) (name description : String) (default : Literal) : Schema :=
  s.declare ⟨name, description, some default⟩

def ofList (ps : List Property) : Schema := ps.foldl declare empty

def get? (s : Schema) (name : String) : Option Property := s.properties.find? (·.name = name)

def names (s : Schema) : List String := s.properties.map Property.name

def size (s : Schema) : Nat := s.properties.length

def isEmpty (s : Schema) : Bool := s.properties.isEmpty

/-- One field for each parameter, in the order of declaration. -/
def toJson (s : Schema) : Json := .object (s.properties.map fun p => (p.name, p.toJson))

instance : DecidableEq Schema := fun a b =>
  decidable_of_iff (a.properties = b.properties) <| by
    cases a; cases b; simp

end Schema

end RecordFlow
