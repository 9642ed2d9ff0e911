import Mathlib.Data.List.TakeWhile
import RecordFlow.Proofs.Registry
import RecordFlow.Regex.Engine

/-! # Histories of registries

Types come into a registry one by one, or as the table of all operators. A type under
a taken name is refused, and the table is added up to the first operator whose name is
taken. After any additions a name stands for the type that was first added under it,
and what the registry holds is listed in ascending order, in whatever order it was added.
-/

namespace RecordFlow

variable [Engine]

structure NodeDescriptor where
  name : String
  displayName : String
  description : String
  schema : Schema
  make : Parameters → Except Error Node

def NodeDescriptor.nodeType (d : NodeDescriptor) : NodeType :=
  ⟨d.displayName, d.description, d.schema, d.make⟩

inductive Addition where
  /-- A type without a schema. -/
  | plain (name displayName description : String) (create : Parameters → Except Error Node)
  | described (d : NodeDescriptor)
  | prepared (name : String) (type : NodeType)
  | operators

def Addition.types : Addition → List (String × NodeType)
  | plain name displayName description create => [(name, ⟨displayName, description, .empty, create⟩)]
  | described d => [(d.name, d.nodeType)]
  | prepared name type => [(name, type)]
  | operators => Registry.typesOf Operator.all

namespace Registry

/-- Carries out an addition: the registry after it, and whether it was refused. -/
def add (g : Registry) : Addition → Registry × Except Error Unit
  | .plain name displayName description create =>
    g.register name ⟨displayName, description, .empty, create⟩
  | .described d => g.register d.name d.nodeType
  | .prepared name type => g.register name type
  | .operators => g.registerOperators

def afterAll (g : Registry) (as : List Addition) : Registry := as.foldl (fun g a => (g.add a).1) g

/-- The types up to the first one whose name is taken. -/
def untaken (g : Registry) (types : List (String × NodeType)) : List (String × NodeType) :=
  types.takeWhile fun e => !g.contains e.1

def outcome (g : Registry) (types : List (String × NodeType)) : Except Error Unit :=
  match types.find? fun e => g.contains e.1 with
  | none => .ok ()
  | some e => .error (.duplicateRegistration e.1)

/-- The types that additions one after another have added, in order. -/
def accepted (g : Registry) : List Addition → List (String × NodeType)
  | [] => []
  | a :: as => g.untaken a.types ++ (g.add a).1.accepted as

variable {g : Registry} {name key : String} {type : NodeType} {types more : List (String × NodeType)}

theorem contains_insert : (⟨g.types.insert name type⟩ : Registry).contains key ↔ key = name ∨ g.contains key := by
  simp only [contains, Table.contains, Table.get?_insert]
  split <;> simp [*]

theorem registerAll_singleton (g : Registry) (name : String) (type : NodeType) :
    g.registerAll [(name, type)] = g.register name type := by
  by_cases h : g.contains name
  · rw [registerAll, register_taken h]
  · rw [registerAll, register_untaken h]
    rfl

theorem registerAll_append (hnew : ∀ e ∈ types, ¬ g.contains e.1) (hnodup : (types.map Prod.fst).Nodup)
    (more : List (String × NodeType)) :
    g.registerAll (types ++ more) = (⟨g.types.insertAll types⟩ : Registry).registerAll more := by
  induction types generalizing g with
  | nil => rfl
  | cons e types ih =>
    obtain ⟨hname, hnew⟩ := List.forall_mem_cons.1 hnew
    obtain ⟨hfresh, hnodup⟩ := List.nodup_cons.1 hnodup
    -- Names are distinct, so those of the later types are not taken by this one.
    have hstill : ∀ f ∈ types, ¬ (⟨g.types.insert e.1 e.2⟩ : Registry).contains f.1 := by
      intro f hf
      rw [contains_insert, not_or]
      exact ⟨fun heq => hfresh (heq ▸ List.mem_map_of_mem hf), hnew f hf⟩
    rw [List.cons_append, registerAll, register_untaken hname]
    exact ih hstill hnodup

theorem contains_insertAll_of_not_mem (h : key ∉ types.map Prod.fst) :
    (⟨g.types.insertAll types⟩ : Registry).contains key = g.contains key := by
  have hnone : types.reverse.lookup key = none := by
    rw [← Dict.get?_ofList]
    exact Dict.get?_ofList_eq_none_iff.2 h
  rw [contains, contains, Table.contains, Table.contains, Table.get?_insertAll, hnone, Option.none_or]

/-- Types with distinct names are added up to the first one whose name is taken, and this one is
refused. -/
theorem registerAll_eq (g : Registry) (hnodup : (types.map Prod.fst).Nodup) :
    g.registerAll types = (⟨g.types.insertAll (g.untaken types)⟩, g.outcome types) := by
  unfold untaken outcome
  cases hfind : types.find? fun e => g.contains e.1 with
  | none =>
    have hnew : ∀ e ∈ types, ¬ g.contains e.1 := List.find?_eq_none.1 hfind
    have hall : (types.takeWhile fun e => !g.contains e.1) = types := by
      rw [List.takeWhile_eq_self_iff]
      simpa using hnew
    have happend := registerAll_append hnew hnodup []
    rw [List.append_nil] at happend
    rw [happend, hall]
    rfl
  | some e =>
    obtain ⟨htaken, before, after, rfl, hbefore⟩ := List.find?_eq_some_iff_append.1 hfind
    have huntaken : ((before ++ e :: after).takeWhile fun e => !g.contains e.1) = before := by
      rw [List.takeWhile_append_of_pos hbefore, List.takeWhile_cons_of_neg (by simpa using htaken),
        List.append_nil]
    rw [List.map_append, List.nodup_append] at hnodup
    obtain ⟨hnodup, -, hdisjoint⟩ := hnodup
    -- The refusal was foreseen in `g`, but it comes after the types before it have been added.
    have hstill : (⟨g.types.insertAll before⟩ : Registry).contains e.1 := by
      rw [contains_insertAll_of_not_mem fun hmem => hdisjoint e.1 hmem e.1 List.mem_cons_self rfl]
      exact htaken
    rw [registerAll_append (by simpa using hbefore) hnodup, huntaken, registerAll, register_taken hstill]

theorem not_contains_of_mem_untaken {e : String × NodeType} (h : e ∈ g.untaken types) : ¬ g.contains e.1 := by
  simpa using List.mem_takeWhile_imp h

theorem nodup_untaken (g : Registry) (hnodup : (types.map Prod.fst).Nodup) :
    ((g.untaken types).map Prod.fst).Nodup :=
  hnodup.sublist ((List.takeWhile_sublist _).map Prod.fst)

theorem lookup?_insertAll_untaken (g : Registry) (hnodup : (types.map Prod.fst).Nodup) (key : String) :
    (⟨g.types.insertAll (g.untaken types)⟩ : Registry).lookup? key =
      (g.lookup? key).or ((g.untaken types).lookup key) := by
  rw [lookup?, Table.get?_insertAll, lookup_of_perm (List.reverse_perm _) (g.nodup_untaken hnodup)]
  cases hadded : (g.untaken types).lookup key with
  | none => rw [Option.none_or, Option.or_none, lookup?]
  | some type =>
    have hmem := (lookup_eq_some_iff_mem (g.nodup_untaken hnodup)).1 hadded
    have hnone : g.lookup? key = none := by
      simpa [contains, Table.contains, lookup?] using not_contains_of_mem_untaken hmem
    rw [hnone, Option.none_or, Option.some_or]

theorem nodup_types (a : Addition) : (a.types.map Prod.fst).Nodup := by
  cases a with
  | operators =>
    change (Operator.all.map Operator.name).Nodup
    decide
  | plain | described | prepared => simp [Addition.types]

theorem add_eq (g : Registry) (a : Addition) :
    g.add a = (⟨g.types.insertAll (g.untaken a.types)⟩, g.outcome a.types) := by
  rw [← registerAll_eq g (nodup_types a)]
  cases a with
  | operators => rfl
  | plain | described | prepared => exact (g.registerAll_singleton _ _).symm

/-- A registry that has been made by adding types one after another. -/
structure Recorded (done : List (String × NodeType)) (g : Registry) : Prop where
  /-- A name stands for the type that was first added under it, and for nothing else. -/
  lookup : ∀ name, g.lookup? name = done.lookup name
  once : (done.map Prod.fst).Nodup

variable {done : List (String × NodeType)}

theorem recorded_empty : Recorded [] empty where
  lookup _ := rfl
  once := .nil

theorem Recorded.contains_iff (h : Recorded done g) : g.contains name ↔ name ∈ done.map Prod.fst := by
  have hlookup : g.lookup? name = (Dict.ofList done).get? name := by
    rw [h.lookup, Dict.get?_ofList_of_nodup h.once]
  rw [← not_iff_not, ← Dict.get?_ofList_eq_none_iff, ← hlookup]
  simp [contains, Table.contains, lookup?]

theorem Recorded.add (h : Recorded done g) (a : Addition) :
    Recorded (done ++ g.untaken a.types) (g.add a).1 where
  lookup name := by
    rw [add_eq, lookup?_insertAll_untaken g (nodup_types a), h.lookup, List.lookup_append]
  once := by
    rw [List.map_append, List.nodup_append]
    refine ⟨h.once, g.nodup_untaken (nodup_types a), ?_⟩
    rintro name hname _ hadded rfl
    obtain ⟨e, he, rfl⟩ := List.mem_map.1 hadded
    exact not_contains_of_mem_untaken he (h.contains_iff.2 hname)

theorem Recorded.afterAll (h : Recorded done g) (as : List Addition) :
    Recorded (done ++ g.accepted as) (g.afterAll as) := by
  induction as generalizing g done with
  | nil =>
    rw [accepted, List.append_nil]
    exact h
  | cons a as ih =>
    rw [accepted, ← List.append_assoc]
    exact ih (h.add a)

theorem recorded_afterAll (as : List Addition) : Recorded (empty.accepted as) (empty.afterAll as) :=
  recorded_empty.afterAll as

theorem untaken_typesOf (g : Registry) (operators : List Operator) :
    g.untaken (typesOf operators) = typesOf (operators.takeWhile fun o => !g.contains o.name) := by
  rw [untaken, typesOf, List.takeWhile_map]
  rfl

theorem outcome_typesOf (g : Registry) (operators : List Operator) : g.outcome (typesOf operators) =
    match operators.find? fun o => g.contains o.name with
    | none => .ok ()
    | some o => .error (.duplicateRegistration o.name) := by
  have hfind : (typesOf operators).find? (fun e => g.contains e.1) =
      (operators.find? fun o => g.contains o.name).map fun o => (o.name, o.nodeType) := by
    rw [typesOf, List.find?_map]
    rfl
  rw [outcome, hfind]
  cases operators.find? fun o => g.contains o.name <;> rfl

/-- What holds of a registry that has been made by adding types one after another. -/
structure Consistent (done : List (String × NodeType)) (g : Registry) : Prop extends Recorded done g where
  ascending : g.names.Pairwise (· < ·)
  mem_names_iff : ∀ name, name ∈ g.names ↔ g.contains name
  map_fst_registrations : g.registrations.map Prod.fst = g.names
  mem_registrations_iff : ∀ name type, (name, type) ∈ g.registrations ↔ g.lookup? name = some type
  length_names : g.names.length = g.size

theorem map_fst_registrations (g : Registry) : g.registrations.map Prod.fst = g.names :=
  List.map_mergeSort fun _ _ _ _ => rfl

/-- Sorting puts the names in ascending order, and as they are distinct, in strictly ascending order. -/
theorem pairwise_names (g : Registry) : g.names.Pairwise (· < ·) := by
  have htrans (a b c : String) (hab : decide (a ≤ b)) (hbc : decide (b ≤ c)) : decide (a ≤ c) :=
    decide_eq_true (String.le_trans (of_decide_eq_true hab) (of_decide_eq_true hbc))
  have htotal (a b : String) : decide (a ≤ b) || decide (b ≤ a) := by simp [String.le_total a b]
  have hsorted : g.names.Pairwise fun a b => decide (a ≤ b) := List.pairwise_mergeSort htrans htotal g.types.keys
  have hdistinct : g.names.Nodup := (List.mergeSort_perm _ _).nodup_iff.2 g.types.distinct
  refine (hsorted.and hdistinct).imp fun ⟨hle, hne⟩ => ?_
  by_contra hlt
  exact hne (String.le_antisymm (of_decide_eq_true hle) (String.not_lt.1 hlt))

theorem names_eq_of_perm {names : List String} (hperm : g.types.keys.Perm names) (h : names.Pairwise (· < ·)) :
    g.names = names :=
  ((List.mergeSort_perm _ _).trans hperm).eq_of_pairwise (fun _ _ _ _ hab hba => (String.lt_asymm hab hba).elim)
    g.pairwise_names h

theorem Recorded.consistent (h : Recorded done g) : Consistent done g where
  toRecorded := h
  ascending := g.pairwise_names
  mem_names_iff _ := List.mem_mergeSort.trans Table.contains_iff_mem_keys.symm
  map_fst_registrations := g.map_fst_registrations
  mem_registrations_iff _ _ := List.mem_mergeSort.trans Table.get?_eq_some_iff.symm
  length_names := (List.length_mergeSort _).trans (List.length_map _)

/-- After any additions a name stands for the type that was first added under it. A single type is added
unless its name is taken; then it is refused and nothing changes. The operators are added up to the first
one whose name is taken, which is refused, and no type that was there before is changed. -/
theorem consistent_additions :
    (∀ as : List Addition, Consistent (empty.accepted as) (empty.afterAll as)) ∧
    (∀ (g : Registry) (a : Addition) (name : String) (type : NodeType), a.types = [(name, type)] →
      if g.contains name then
        g.add a = (g, .error (.duplicateRegistration name)) ∧ g.untaken a.types = []
      else g.add a = (⟨g.types.insert name type⟩, .ok ()) ∧ g.untaken a.types = [(name, type)]) ∧
    ∀ g : Registry,
      (∀ name, (g.add .operators).1.lookup? name = (g.lookup? name).or
        ((typesOf (Operator.all.takeWhile fun o => !g.contains o.name)).lookup name)) ∧
      (g.add .operators).2 = match Operator.all.find? fun o => g.contains o.name with
        | none => .ok ()
        | some o => .error (.duplicateRegistration o.name) := by
  refine ⟨fun as => (recorded_afterAll as).consistent, ?_, fun g => ?_⟩
  · intro g a name type htypes
    have hnodup := nodup_types a
    rw [htypes] at hnodup ⊢
    rw [add_eq, htypes, ← registerAll_eq g hnodup, registerAll_singleton, register, untaken]
    split
    · next h => simp [h]
    · next h => simp [h]
  · rw [add_eq]
    constructor
    · intro name
      rw [← untaken_typesOf]
      exact lookup?_insertAll_untaken g (nodup_types .operators) name
    · exact outcome_typesOf g Operator.all

end Registry

end RecordFlow

namespace RecordFlow.Registry

open scoped Regex

/-- The table stops at a name that is taken; what comes behind it in the table is not added, and what came
before it is not added a second time. -/
theorem consistent_additions_stopped :
    let type : NodeType := ⟨"Own sort", "", .empty, fun p => .ok (.ofOperator .limit p)⟩
    let as : List Addition :=
      [.prepared "Sort" type, .operators, .plain "Limit" "Own limit" "" type.create]
    Consistent (empty.accepted as) (empty.afterAll as) ∧
      (empty.accepted as).map Prod.fst = ["Sort", "Input", "Limit", "Filter"] ∧
      (empty.afterAll as).names = ["Filter", "Input", "Limit", "Sort"] ∧
      ((empty.afterAll as).lookup? "Sort").map (·.displayName) = some "Own sort" ∧
      (((empty.afterAll as).add (.prepared "Limit" type)).2 = .error (.duplicateRegistration "Limit")) := by
  intro type as
  have hadd := consistent_additions.2.1 (empty.afterAll as) (.prepared "Limit" type) "Limit" type rfl
  refine ⟨consistent_additions.1 as, by decide +kernel, ?_, by decide +kernel, ?_⟩
  · exact names_eq_of_perm (by decide +kernel) (by decide)
  rw [if_pos (by decide +kernel)] at hadd
  rw [hadd.1]

end RecordFlow.Registry
