import RecordFlow.Proofs.Table
import RecordFlow.Registry

/-! # Registered types

Registering one type after another adds no types but those. So what holds of a
registry's types and of those that are added holds of all types afterwards. In
particular every type of the standard registry makes a node of any parameters, and
there is one for each operator.
-/

namespace RecordFlow.Registry

variable [Engine]

variable {g : Registry} {name : String} {type : NodeType}

theorem register_taken (h : g.contains name) (type : NodeType) :
    g.register name type = (g, .error (.duplicateRegistration name)) := if_pos h

theorem register_untaken (h : ¬ g.contains name) (type : NodeType) :
    g.register name type = (⟨g.types.insert name type⟩, .ok ()) := if_neg h

theorem forall_registerAll {P : NodeType → Prop} {types : List (String × NodeType)}
    (hg : ∀ name type, g.lookup? name = some type → P type) (htypes : ∀ e ∈ types, P e.2) :
    ∀ name type, (g.registerAll types).1.lookup? name = some type → P type := by
  induction types generalizing g with
  | nil => exact hg
  | cons e types ih =>
    obtain ⟨key, added⟩ := e
    obtain ⟨hadded, htypes⟩ := List.forall_mem_cons.1 htypes
    rw [registerAll]
    by_cases htaken : g.contains key
    · rw [register_taken htaken]
      exact hg
    · rw [register_untaken htaken]
      refine ih ?_ htypes
      intro name type hlookup
      rw [lookup?, Table.get?_insert] at hlookup
      split at hlookup
      · cases hlookup
        exact hadded
      · exact hg name type hlookup

/-- Every type of a registry makes a node of any parameters. -/
def Total (g : Registry) : Prop :=
  ∀ name type, g.lookup? name = some type → ∀ p, ∃ node, type.create p = .ok node

theorem total_standard : standard.Total := by
  refine forall_registerAll (P := fun type => ∀ p, ∃ node, type.create p = .ok node) ?_ ?_
  · intro name type hlookup
    cases hlookup
  · intro e he p
    obtain ⟨operator, -, rfl⟩ := List.mem_map.1 he
    exact ⟨.ofOperator operator p, rfl⟩

theorem create_standard (o : Operator) (p : Parameters) : standard.create o.name p = .ok (.ofOperator o p) := by
  have hlookup : standard.lookup? o.name = some o.nodeType := by cases o <;> rfl
  rw [create, hlookup]
  rfl

end RecordFlow.Registry
