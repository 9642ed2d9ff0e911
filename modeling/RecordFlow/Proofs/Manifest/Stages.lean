import Mathlib.Data.List.Forall2
import RecordFlow.Manifest.Reader
import RecordFlow.Proofs.Dict

/-! # The stages of a pipeline

The entries of a pipeline are resolved one after another. Whatever has been
resolved, the graph holds the declared node of each of its stages and no others.
An entry fails only if nothing is declared under its name.
-/

namespace RecordFlow.Manifest

variable [Engine]

variable {declared : Dict Node} {g : Graph} {entry : String}

/-- A graph holds the declared nodes of its stages and no others. -/
structure DrawnFrom (declared : Dict Node) (g : Graph) : Prop where
  nodes : ∀ name, g.nodes.get? name = if name ∈ g.pipeline then declared.get? name else none
  declared : ∀ name ∈ g.pipeline, (declared.get? name).isSome

theorem drawnFrom_empty (declared : Dict Node) (title description : String) :
    DrawnFrom declared (.empty title description) where
  nodes _ := rfl
  declared _ h := nomatch h

theorem DrawnFrom.has_iff (h : DrawnFrom declared g) : g.has entry ↔ entry ∈ g.pipeline := by
  rw [Graph.has, Dict.contains, h.nodes]
  split
  · next hmem => simp [h.declared entry hmem, hmem]
  · next hmem => simp [hmem]

theorem addEntry_marker (h : isMarker entry) : addEntry declared g entry = .ok g := by
  rw [addEntry, if_pos h]

theorem DrawnFrom.addEntry_undeclared (h : DrawnFrom declared g) (hmarker : ¬ isMarker entry)
    (hentry : declared.get? entry = none) :
    addEntry declared g entry = .error (.unregisteredReference entry) := by
  have hnot : ¬ g.has entry := by
    rw [h.has_iff]
    intro hmem
    have := h.declared entry hmem
    simp [hentry] at this
  rw [addEntry, if_neg hmarker, if_neg hnot, hentry]

theorem DrawnFrom.addEntry_declared (h : DrawnFrom declared g) (hmarker : ¬ isMarker entry)
    (hentry : (declared.get? entry).isSome) :
    ∃ nodes, addEntry declared g entry = .ok { g with pipeline := g.pipeline ++ [entry], nodes } ∧
      DrawnFrom declared { g with pipeline := g.pipeline ++ [entry], nodes } := by
  obtain ⟨node, hnode⟩ := Option.isSome_iff_exists.1 hentry
  have hdeclared : ∀ name ∈ g.pipeline ++ [entry], (declared.get? name).isSome := by
    intro name hname
    rcases List.mem_append.1 hname with hname | hname
    · exact h.declared name hname
    · rwa [List.mem_singleton.1 hname]
  by_cases hhas : g.has entry
  · refine ⟨g.nodes, ?_, fun name => ?_, hdeclared⟩
    · rw [addEntry, if_neg hmarker, if_pos hhas, Graph.append, if_pos hhas]
      rfl
    have hmem := h.has_iff.1 hhas
    simp only [h.nodes name, List.mem_append, List.mem_singleton]
    by_cases hname : name = entry
    · simp [hname, hmem]
    · simp [hname]
  · refine ⟨g.nodes.insert entry node, ?_, ?_, hdeclared⟩
    · simp only [addEntry, if_neg hmarker, if_neg hhas, hnode, Graph.add]
      rfl
    · intro name
      simp only [Dict.get?_insert, h.nodes name, List.mem_append, List.mem_singleton]
      by_cases hname : name = entry
      · simp [hname, hnode]
      · simp [hname]

def isUndeclared (declared : Dict Node) (entry : String) : Bool :=
  !isMarker entry && (declared.get? entry).isNone

theorem isUndeclared_iff : isUndeclared declared entry ↔ ¬ isMarker entry ∧ declared.get? entry = none := by
  simp [isUndeclared]

theorem isSome_of_not_isUndeclared (h : ¬ isUndeclared declared entry) (hmarker : ¬ isMarker entry) :
    (declared.get? entry).isSome := by
  rw [isUndeclared_iff, not_and] at h
  exact Option.isSome_iff_ne_none.2 (h hmarker)

theorem DrawnFrom.foldlM_addEntry_undeclared {name : String} (h : DrawnFrom declared g)
    {entries : List String} (hfind : entries.find? (isUndeclared declared) = some name) :
    entries.foldlM (addEntry declared) g = .error (.unregisteredReference name) := by
  induction entries generalizing g with
  | nil => cases hfind
  | cons entry entries ih =>
    rw [List.foldlM_cons]
    by_cases hundeclared : isUndeclared declared entry
    · rw [List.find?_cons_of_pos hundeclared] at hfind
      cases hfind
      obtain ⟨hmarker, hnone⟩ := isUndeclared_iff.1 hundeclared
      rw [h.addEntry_undeclared hmarker hnone]
      rfl
    · rw [List.find?_cons_of_neg hundeclared] at hfind
      by_cases hmarker : isMarker entry
      · rw [addEntry_marker hmarker]
        exact ih h hfind
      · have hsome := isSome_of_not_isUndeclared hundeclared hmarker
        obtain ⟨nodes, hadd, hdrawn⟩ := h.addEntry_declared hmarker hsome
        rw [hadd]
        exact ih hdrawn hfind

theorem DrawnFrom.foldlM_addEntry_declared (h : DrawnFrom declared g) {entries : List String}
    (hfind : entries.find? (isUndeclared declared) = none) :
    ∃ g', entries.foldlM (addEntry declared) g = .ok g' ∧ DrawnFrom declared g' ∧
      g'.title = g.title ∧ g'.description = g.description ∧
      g'.pipeline = g.pipeline ++ entries.filter (fun e => !isMarker e) := by
  induction entries generalizing g with
  | nil => exact ⟨g, rfl, h, rfl, rfl, by simp⟩
  | cons entry entries ih =>
    obtain ⟨hentry, hentries⟩ := List.forall_mem_cons.1 (List.find?_eq_none.1 hfind)
    have hfind := List.find?_eq_none.2 hentries
    rw [List.foldlM_cons]
    by_cases hmarker : isMarker entry
    · rw [addEntry_marker hmarker]
      obtain ⟨g', hfold, hg', htitle, hdescription, hpipeline⟩ := ih h hfind
      exact ⟨g', hfold, hg', htitle, hdescription, by simp [hpipeline, hmarker]⟩
    · have hsome := isSome_of_not_isUndeclared hentry hmarker
      obtain ⟨nodes, hadd, hdrawn⟩ := h.addEntry_declared hmarker hsome
      rw [hadd]
      obtain ⟨g', hfold, hg', htitle, hdescription, hpipeline⟩ := ih hdrawn hfind
      exact ⟨g', hfold, hg', htitle, hdescription, by simp [hpipeline, hmarker]⟩

/-- Either all entries are resolved, and those that are no markers are the stages, or an entry is
not declared. -/
theorem DrawnFrom.foldlM_addEntry (h : DrawnFrom declared g) (entries : List String) :
    (∃ g', entries.foldlM (addEntry declared) g = .ok g' ∧ DrawnFrom declared g' ∧
        g'.title = g.title ∧ g'.description = g.description ∧
        g'.pipeline = g.pipeline ++ entries.filter (fun e => !isMarker e)) ∨
      ∃ name ∈ entries, ¬ isMarker name ∧ declared.get? name = none ∧
        entries.foldlM (addEntry declared) g = .error (.unregisteredReference name) := by
  cases hfind : entries.find? (isUndeclared declared) with
  | none => exact .inl (h.foldlM_addEntry_declared hfind)
  | some name =>
    obtain ⟨hmarker, hnone⟩ := isUndeclared_iff.1 (List.find?_some hfind)
    exact .inr ⟨name, List.mem_of_find?_eq_some hfind, hmarker, hnone, h.foldlM_addEntry_undeclared hfind⟩

theorem DrawnFrom.of_foldlM_addEntry (h : DrawnFrom declared g) {entries : List String} {g' : Graph}
    (hfold : entries.foldlM (addEntry declared) g = .ok g') :
    DrawnFrom declared g' ∧ g'.pipeline = g.pipeline ++ entries.filter (fun e => !isMarker e) := by
  rcases h.foldlM_addEntry entries with ⟨g'', hfold', hdrawn, -, -, hpipeline⟩ | ⟨_, -, -, -, hfold'⟩
  · cases hfold.symm.trans hfold'
    exact ⟨hdrawn, hpipeline⟩
  · cases hfold.symm.trans hfold'

theorem nodesOf_eq_ok_iff {registry : Registry} {ds : List Declaration} {nodes : List (String × Node)} :
    nodesOf registry ds = .ok nodes ↔
      List.Forall₂ (fun d n => d.name = n.1 ∧ d.node registry = .ok n.2) ds nodes := by
  induction ds generalizing nodes with
  | nil =>
    rw [nodesOf, List.forall₂_nil_left_iff, Except.ok.injEq]
    exact eq_comm
  | cons d ds ih =>
    rw [nodesOf, List.forall₂_cons_left_iff]
    cases hnode : d.node registry with
    | error e => simp
    | ok node =>
      simp only [Except.ok.injEq]
      constructor
      · intro h
        obtain ⟨rest, hrest, rfl⟩ := Literal.map_eq_ok h
        exact ⟨(d.name, node), rest, ⟨rfl, rfl⟩, ih.1 hrest, rfl⟩
      · rintro ⟨⟨name, node'⟩, rest, ⟨rfl, rfl⟩, hrest, rfl⟩
        rw [ih.2 hrest]
        rfl

end RecordFlow.Manifest
