import RecordFlow.Proofs.Manifest.Refusal
import RecordFlow.Regex.Engine

/-! # Reading against larger registries

A registry may grow between two readings of a manifest. Both readings go through the
same declarations and entries in step. The second one differs from the first only if
that failed for a type which the larger registry has.
-/

namespace RecordFlow

variable [Engine]

/-- The registry has every type of another one, unchanged. -/
def Registry.Extends (larger smaller : Registry) : Prop :=
  ∀ name type, smaller.lookup? name = some type → larger.lookup? name = some type

def cause? {α : Type} : Except Error α → Option Error
  | .ok _ => none
  | .error e => some e.rootCause

/-- A second outcome is the same as the first one, unless the first one is a failure for a type that the
registry has. -/
def Agrees {α : Type} (registry : Registry) (first second : Except Error α) : Prop :=
  second = first ∨ ∃ type, cause? first = some (.unregisteredType type) ∧ registry.contains type

variable {registry : Registry} {α β : Type} {x y : Except Error α} {cause : Error}

theorem cause?_eq_none_iff : cause? x = none ↔ ∃ a, x = .ok a := by
  cases x with
  | ok a => simp [cause?]
  | error e => simp [cause?]

theorem cause?_eq_some_iff : cause? x = some cause ↔ ∃ e, x = .error e ∧ e.rootCause = cause := by
  cases x with
  | ok a => simp [cause?]
  | error e => simp [cause?]

theorem cause?_bind (h : cause? x = some cause) (f : α → Except Error β) : cause? (x >>= f) = some cause := by
  obtain ⟨e, rfl, rfl⟩ := cause?_eq_some_iff.1 h
  rfl

theorem cause?_reading (layer : ReadingLayer) (context : String) (x : Except Error α) :
    cause? (x.mapError (.reading layer context)) = cause? x := by
  cases x <;> rfl

namespace Agrees

theorem refl (registry : Registry) (x : Except Error α) : Agrees registry x x := .inl rfl

theorem bind {f f' : α → Except Error β} (h : Agrees registry x y) (hf : ∀ a, Agrees registry (f a) (f' a)) :
    Agrees registry (x >>= f) (y >>= f') := by
  rcases h with rfl | ⟨type, hcause, htype⟩
  · cases y with
    | error e => exact refl registry (.error e)
    | ok a => exact hf a
  · exact .inr ⟨type, cause?_bind hcause f, htype⟩

theorem reading (h : Agrees registry x y) (layer : ReadingLayer) (context : String) :
    Agrees registry (x.mapError (.reading layer context)) (y.mapError (.reading layer context)) := by
  rcases h with rfl | ⟨type, hcause, htype⟩
  · exact refl registry _
  · exact .inr ⟨type, (cause?_reading layer context x).trans hcause, htype⟩

end Agrees

namespace Manifest

variable {larger smaller : Registry}

theorem agrees_create (h : larger.Extends smaller) (type : String) (p : Parameters) :
    Agrees larger (smaller.create type p) (larger.create type p) := by
  cases hsmaller : smaller.lookup? type with
  | some nodeType =>
    left
    rw [Registry.create, Registry.create, hsmaller, h type nodeType hsmaller]
  | none =>
    cases hlarger : larger.lookup? type with
    | none =>
      left
      rw [Registry.create, Registry.create, hsmaller, hlarger]
    | some nodeType =>
      refine .inr ⟨type, ?_, Option.isSome_of_eq_some hlarger⟩
      rw [Registry.create, hsmaller]
      rfl

theorem agrees_node (h : larger.Extends smaller) (d : Declaration) :
    Agrees larger (d.node smaller) (d.node larger) := by
  by_cases hname : d.name = ""
  · rw [Declaration.node_nameless hname, Declaration.node_nameless hname]
    exact .refl _ _
  · rw [Declaration.node_named hname, Declaration.node_named hname]
    exact .bind (.refl _ _) fun p => .bind (.refl _ _) fun type => agrees_create h type p

theorem nodesOf_cons (registry : Registry) (d : Declaration) (ds : List Declaration) :
    nodesOf registry (d :: ds) = (do
      let node ← (d.node registry).mapError (.reading .node d.text)
      let nodes ← nodesOf registry ds
      return (d.name, node) :: nodes) := by
  rw [nodesOf]
  cases d.node registry with
  | error e => rfl
  | ok node => cases nodesOf registry ds <;> rfl

/-- The two readings go through the declarations in step. -/
theorem agrees_nodesOf (h : larger.Extends smaller) (ds : List Declaration) :
    Agrees larger (nodesOf smaller ds) (nodesOf larger ds) := by
  induction ds with
  | nil => exact .refl _ _
  | cons d ds ih =>
    rw [nodesOf_cons, nodesOf_cons]
    exact .bind ((agrees_node h d).reading .node d.text) fun _ => .bind ih fun _ => .refl _ _

theorem declaredNodes_eq_bind (registry : Registry) (block : List Char) :
    declaredNodes registry block = (do
      let nodes ← nodesOf registry (declarations block).1
      if isUnclosed (declarations block).2 then .error (unclosedError (declarations block).2)
      else .ok (.ofList nodes)) := by
  cases hnodes : nodesOf registry (declarations block).1 with
  | ok nodes => exact declaredNodes_eq hnodes
  | error e =>
    simp only [declaredNodes, hnodes]
    rfl

theorem agrees_declaredNodes (h : larger.Extends smaller) (block : List Char) :
    Agrees larger (declaredNodes smaller block) (declaredNodes larger block) := by
  rw [declaredNodes_eq_bind, declaredNodes_eq_bind]
  exact .bind (agrees_nodesOf h _) fun _ => .refl _ _

theorem agrees_readLines (h : larger.Extends smaller) (lines : List (List Char)) :
    Agrees larger (readLines smaller lines) (readLines larger lines) := by
  unfold readLines
  refine .bind (.refl _ _) fun title => .bind (.refl _ _) fun description => ?_
  refine .bind (.refl _ _) fun pipeline => .bind (agrees_declaredNodes h _) fun declared => ?_
  exact .refl _ _

end Manifest

namespace Graph

open Manifest

variable {larger smaller : Registry}

theorem agrees_ofManifest (h : larger.Extends smaller) (manifest : String) :
    Agrees larger (ofManifest smaller manifest) (ofManifest larger manifest) :=
  (agrees_readLines h (Text.lines manifest.toList)).reading .graph manifest

/-- A larger registry gives the same graph, and the same error unless a type was missing that it has. -/
theorem ofManifest_of_extends (h : larger.Extends smaller) (manifest : String) :
    (∀ g, ofManifest smaller manifest = .ok g → ofManifest larger manifest = .ok g) ∧
    (∀ e, ofManifest smaller manifest = .error e → (∀ type, e.rootCause ≠ .unregisteredType type) →
      ofManifest larger manifest = .error e) ∧
    ∀ e type, ofManifest smaller manifest = .error e → e.rootCause = .unregisteredType type →
      ¬ larger.contains type → ofManifest larger manifest = .error e := by
  rcases agrees_ofManifest h manifest with hsame | ⟨type, hcause, htype⟩
  · rw [hsame]
    exact ⟨fun _ => id, fun _ he _ => he, fun _ _ he _ _ => he⟩
  · obtain ⟨e, hfirst, hcause⟩ := cause?_eq_some_iff.1 hcause
    rw [hfirst]
    refine ⟨nofun, fun e' he' hother => ?_, fun e' type' he' hcause' hmissing => ?_⟩
    · cases he'
      exact absurd hcause (hother type)
    · cases he'
      rw [hcause] at hcause'
      cases hcause'
      exact absurd htype hmissing

end Graph

end RecordFlow

namespace RecordFlow.Graph

open Manifest

open scoped Regex

/-- The smaller registry has limits only. Of a manifest with a limit both make the same graph, and they
refuse one without a title and one with an unknown type in the same way; one that sorts is refused by the
smaller registry alone. -/
theorem ofManifest_of_extends_limit :
    let smaller := (Registry.empty.registerAll (Registry.typesOf [.limit])).1
    let limit := "TITLE: T\nDESCRIPTION: D\nPIPELINE: n1\nn1(\n  type: 'Limit'\n)"
    let unknown := "TITLE: T\nDESCRIPTION: D\nPIPELINE: n1\nn1(\n  type: 'Nope'\n)"
    let sort := "TITLE: T\nDESCRIPTION: D\nPIPELINE: n1\nn1(\n  type: 'Sort'\n)"
    Registry.standard.Extends smaller ∧
      (∃ g, ofManifest smaller limit = .ok g ∧ ofManifest .standard limit = .ok g) ∧
      (∃ e, e.rootCause = .missingTag "TITLE" ∧ ofManifest smaller "" = .error e ∧
        ofManifest .standard "" = .error e) ∧
      (∃ e, e.rootCause = .unregisteredType "Nope" ∧ ofManifest smaller unknown = .error e ∧
        ofManifest .standard unknown = .error e) ∧
      cause? (ofManifest smaller sort) = some (.unregisteredType "Sort") ∧
      (ofManifest .standard sort).isOk := by
  intro smaller limit unknown sort
  have hextends : Registry.standard.Extends smaller := by
    intro name type hlookup
    change (Table.empty.insert "Limit" (Operator.limit.nodeType)).get? name = some type at hlookup
    rw [Table.get?_insert] at hlookup
    split at hlookup
    · next hname =>
      cases hlookup
      rw [hname]
      rfl
    · cases hlookup
  have hlimit : cause? (ofManifest smaller limit) = none := by decide +kernel
  have htag : cause? (ofManifest smaller "") = some (.missingTag "TITLE") := by decide +kernel
  have hunknown : cause? (ofManifest smaller unknown) = some (.unregisteredType "Nope") := by decide +kernel
  obtain ⟨g, hlimit⟩ := cause?_eq_none_iff.1 hlimit
  obtain ⟨e₁, htag, hcause₁⟩ := cause?_eq_some_iff.1 htag
  obtain ⟨e₂, hunknown, hcause₂⟩ := cause?_eq_some_iff.1 hunknown
  refine ⟨hextends, ?_, ⟨e₁, hcause₁, htag, ?_⟩, ⟨e₂, hcause₂, hunknown, ?_⟩, ?_, by decide +kernel⟩
  · exact ⟨g, hlimit, (ofManifest_of_extends hextends limit).1 g hlimit⟩
  · refine (ofManifest_of_extends hextends "").2.1 e₁ htag fun type => ?_
    rw [hcause₁]
    nofun
  · exact (ofManifest_of_extends hextends unknown).2.2 e₂ "Nope" hunknown hcause₂ (by decide +kernel)
  · decide +kernel

end RecordFlow.Graph
