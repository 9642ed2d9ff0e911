import RecordFlow.Proofs.Manifest.Reading
import RecordFlow.Proofs.Registry
import RecordFlow.Proofs.Resolution
import RecordFlow.Regex.Engine

/-! # Refused manifests

Reading fails for the first cause in a fixed order: a tag that is absent, a
declaration that gives no node, a declaration that is left open, an entry of the
pipeline that no declaration names. An error holds the whole manifest in one layer,
and the piece at fault in a second one if a declaration is the cause.
-/

namespace RecordFlow.Manifest

/-- No line begins with the tag, a colon and a blank. -/
def isAbsent (manifest tag : String) : Bool :=
  !(Text.lines manifest.toList).any (Text.beginsWith (tag.toList ++ [':', ' ']))

theorem isAbsent_iff {manifest tag : String} :
    isAbsent manifest tag ↔ ∀ line ∈ Text.lines manifest.toList, taggedValue? tag line = none := by
  simp only [isAbsent, taggedValue?, Bool.not_eq_true', List.any_eq_false, Text.beginsWith,
    Bool.not_eq_true, Option.isSome_eq_false_iff, Option.isNone_iff_eq_none, Option.map_eq_none_iff]

theorem isInfix_source {d : Declaration} (h : d ∈ consumed manifest) :
    d.source <:+: declarationBlock (Text.lines manifest.toList) := by
  have hpiece : d.source <:+: (consumed manifest).flatMap Declaration.source := by
    rw [List.flatMap_def]
    exact List.infix_of_mem_flatten (List.mem_map_of_mem h)
  have hblock := (leftOver_spec manifest).1
  exact hpiece.trans (hblock ▸ List.prefix_append _ _).isInfix

theorem isInfix_leftOver (manifest : String) :
    leftOver manifest <:+: declarationBlock (Text.lines manifest.toList) := by
  have hblock := (leftOver_spec manifest).1
  exact (hblock ▸ List.suffix_append _ _).isInfix

variable [Engine]

namespace Declaration

def literal (d : Declaration) : String := String.ofList ('\x7b' :: d.body ++ ['\x7d'])

def isGood (registry : Registry) (d : Declaration) : Bool := (d.node registry).isOk

/-- Why a declaration gives no node. -/
inductive Refused (registry : Registry) (d : Declaration) : Error → Prop

  | nameless : d.name = "" →
      Refused registry d (.declarationSyntax (String.ofList (Text.trim d.body)) .nameless)

  | malformed {fault : Literal.LocatedFault} : d.name ≠ "" →
      Parameters.ofText d.literal = .error fault →
      Refused registry d (.declarationSyntax d.literal (.literal fault))

  | untyped {p : Parameters} : d.name ≠ "" → Parameters.ofText d.literal = .ok p →
      (∀ type, p.get? "type" ≠ some (.string type)) → Refused registry d (.missingType p)

  | unregistered {p : Parameters} {type : String} : d.name ≠ "" →
      Parameters.ofText d.literal = .ok p → p.get? "type" = some (.string type) →
      registry.lookup? type = none → Refused registry d (.unregisteredType type)

end Declaration

/-- Why a manifest is refused. A rest that opens a declaration is a cause only if it holds a closing
parenthesis as well. -/
inductive Refused (registry : Registry) (manifest : String) : Error → Prop

  | tag {tag : String} : reservedTags.find? (isAbsent manifest) = some tag →
      Refused registry manifest (.missingTag tag)

  | declaration {d : Declaration} {cause : Error} : reservedTags.find? (isAbsent manifest) = none →
      (consumed manifest).find? (fun d => !d.isGood registry) = some d → d.Refused registry cause →
      Refused registry manifest (.reading .node d.text cause)

  | unclosed : reservedTags.find? (isAbsent manifest) = none →
      (consumed manifest).find? (fun d => !d.isGood registry) = none →
      '(' ∈ leftOver manifest → ')' ∈ leftOver manifest →
      Refused registry manifest (unclosedError (leftOver manifest))

  | entry {pipeline name : String} : reservedTags.find? (isAbsent manifest) = none →
      (consumed manifest).find? (fun d => !d.isGood registry) = none →
      ¬ ('(' ∈ leftOver manifest ∧ ')' ∈ leftOver manifest) →
      tagValue pipelineTag (Text.lines manifest.toList) = .ok pipeline →
      (pipelineEntries pipeline).find?
        (fun e => !isMarker e && !(consumed manifest).any (·.name = e)) = some name →
      Refused registry manifest (.unregisteredReference name)

def OfDeclaration : Error → Prop
  | .declarationSyntax _ _ => True
  | .missingType _ => True
  | .unregisteredType _ => True
  | _ => False

/-- One layer for the manifest, and a second one for a trimmed piece of the block if the cause lies
in a declaration. -/
inductive Layered (manifest : String) : Error → Prop

  | tag (tag : String) : Layered manifest (.reading .graph manifest (.missingTag tag))

  | reference (name : String) : Layered manifest (.reading .graph manifest (.unregisteredReference name))

  | declaration {context : String} {cause : Error} : OfDeclaration cause →
      Text.trim context.toList = context.toList →
      context.toList <:+: declarationBlock (Text.lines manifest.toList) →
      Layered manifest (.reading .graph manifest (.reading .node context cause))

section

variable {manifest tag : String}

theorem tagValue_of_absent (h : isAbsent manifest tag) :
    tagValue tag (Text.lines manifest.toList) = .error (.missingTag tag) := by
  rw [tagValue, List.findSome?_eq_none_iff.2 (isAbsent_iff.1 h)]

theorem exists_tagValue (h : ¬ isAbsent manifest tag) :
    ∃ value, tagValue tag (Text.lines manifest.toList) = .ok value := by
  rw [tagValue]
  cases hfind : (Text.lines manifest.toList).findSome? (taggedValue? tag) with
  | none => exact absurd (isAbsent_iff.2 (List.findSome?_eq_none_iff.1 hfind)) h
  | some value => exact ⟨_, rfl⟩

theorem readLines_of_absent {registry : Registry}
    (h : reservedTags.find? (isAbsent manifest) = some tag) :
    readLines registry (Text.lines manifest.toList) = .error (.missingTag tag) := by
  rw [reservedTags, List.find?_cons] at h
  split at h
  · next htitle =>
    cases h
    rw [readLines, tagValue_of_absent htitle]
    rfl
  next htitle =>
  obtain ⟨title, htitle⟩ := exists_tagValue (ne_true_of_eq_false htitle)
  rw [List.find?_cons] at h
  split at h
  · next hdescription =>
    cases h
    rw [readLines, htitle, tagValue_of_absent hdescription]
    rfl
  next hdescription =>
  obtain ⟨description, hdescription⟩ := exists_tagValue (ne_true_of_eq_false hdescription)
  rw [List.find?_singleton] at h
  split at h
  · next hpipeline =>
    cases h
    rw [readLines, htitle, hdescription, tagValue_of_absent hpipeline]
    rfl
  · cases h

end

theorem typeOf_typed {p : Parameters} {type : String} (h : p.get? "type" = some (.string type)) :
    typeOf p = .ok type := by
  rw [typeOf, h]
  rfl

theorem typeOf_untyped {p : Parameters} (h : ∀ type, p.get? "type" ≠ some (.string type)) :
    typeOf p = .error (.missingType p) := by
  unfold typeOf
  split
  · next type htype =>
    obtain ⟨v, hv, hstring⟩ := Option.bind_eq_some_iff.1 htype
    rw [Literal.asString?_eq_some_iff.1 hstring] at hv
    exact absurd hv (h type)
  · rfl

namespace Declaration

variable {registry : Registry} {d : Declaration} {p : Parameters} {cause : Error}

theorem isGood_iff : d.isGood registry ↔ ∃ node, d.node registry = .ok node := by
  unfold isGood
  cases d.node registry with
  | error e => simp [Except.isOk, Except.toBool]
  | ok node => simp [Except.isOk, Except.toBool]

theorem node_nameless (h : d.name = "") : d.node registry =
    .error (.declarationSyntax (String.ofList (Text.trim d.body)) .nameless) := by
  rw [node, h]
  rfl

theorem node_named (h : d.name ≠ "") : d.node registry =
    (Parameters.read d.literal).bind fun p => (typeOf p).bind fun type => registry.create type p := by
  rw [node, if_neg (by rwa [String.isEmpty_iff])]
  rfl

theorem node_malformed {fault : Literal.LocatedFault} (h : d.name ≠ "")
    (hread : Parameters.ofText d.literal = .error fault) :
    d.node registry = .error (.declarationSyntax d.literal (.literal fault)) := by
  rw [node_named h, Parameters.read, hread]
  rfl

theorem node_read (h : d.name ≠ "") (hread : Parameters.ofText d.literal = .ok p) :
    d.node registry = (typeOf p).bind fun type => registry.create type p := by
  rw [node_named h, Parameters.read, hread]
  rfl

theorem Refused.node_eq (h : d.Refused registry cause) : d.node registry = .error cause := by
  cases h with
  | nameless hname => exact node_nameless hname
  | malformed hname hread => exact node_malformed hname hread
  | untyped hname hread htype =>
    rw [node_read hname hread, typeOf_untyped htype]
    rfl
  | unregistered hname hread htype hlookup =>
    rw [node_read hname hread, typeOf_typed htype]
    show registry.create _ _ = _
    rw [Registry.create, hlookup]

theorem refused_of_node (hregistry : registry.Total) (h : d.node registry = .error cause) :
    d.Refused registry cause := by
  by_cases hname : d.name = ""
  · rw [node_nameless hname] at h
    cases h
    exact .nameless hname
  cases hread : Parameters.ofText d.literal with
  | error fault =>
    rw [node_malformed hname hread] at h
    cases h
    exact .malformed hname hread
  | ok p =>
    rw [node_read hname hread] at h
    by_cases htype : ∃ type, p.get? "type" = some (.string type)
    · obtain ⟨type, htype⟩ := htype
      rw [typeOf_typed htype] at h
      change registry.create type p = _ at h
      unfold Registry.create at h
      split at h
      · next hlookup =>
        cases h
        exact .unregistered hname hread htype hlookup
      · next nodeType hlookup =>
        obtain ⟨node, hnode⟩ := hregistry type nodeType hlookup p
        rw [hnode] at h
        cases h
    · have huntyped := not_exists.1 htype
      rw [typeOf_untyped huntyped] at h
      cases h
      exact .untyped hname hread huntyped

end Declaration

variable {registry : Registry} {manifest : String} {cause : Error}

theorem nodesOf_of_bad {ds : List Declaration} {d : Declaration}
    (hfind : ds.find? (fun d => !d.isGood registry) = some d) (hd : d.node registry = .error cause) :
    nodesOf registry ds = .error (.reading .node d.text cause) := by
  induction ds with
  | nil => cases hfind
  | cons first ds ih =>
    rw [List.find?_cons] at hfind
    split at hfind
    · cases hfind
      rw [nodesOf, hd]
    · next hgood =>
      obtain ⟨node, hnode⟩ := Declaration.isGood_iff.1 (by simpa using hgood)
      rw [nodesOf, hnode, ih hfind]
      rfl

theorem exists_nodesOf_of_good {ds : List Declaration}
    (hfind : ds.find? (fun d => !d.isGood registry) = none) : ∃ nodes, nodesOf registry ds = .ok nodes := by
  refine exists_nodesOf fun d hd => Declaration.isGood_iff.1 ?_
  simpa using List.find?_eq_none.1 hfind d hd

theorem isUndeclared_ofList {ds : List Declaration} {nodes : List (String × Node)}
    (h : nodesOf registry ds = .ok nodes) :
    isUndeclared (.ofList nodes) = fun e => !isMarker e && !ds.any (·.name = e) := by
  have hnames : ds.map Declaration.name = nodes.map Prod.fst := by
    have hnodes := nodesOf_eq_ok_iff.1 h
    rw [← List.forall₂_eq_eq_eq, List.forall₂_map_left_iff, List.forall₂_map_right_iff]
    exact hnodes.imp fun _ _ hd => hd.1
  funext e
  have hnone : (Dict.ofList nodes).get? e = none ↔ ¬ ds.any (·.name = e) := by
    rw [Dict.get?_ofList_eq_none_iff, ← hnames]
    simp
  unfold isUndeclared
  congr 1
  rw [Bool.eq_iff_iff, Option.isNone_iff_eq_none, hnone, Bool.not_eq_true, Bool.not_eq_true']

theorem exists_tagValue_of_present (h : reservedTags.find? (isAbsent manifest) = none) :
    ∀ tag ∈ reservedTags, ∃ value, tagValue tag (Text.lines manifest.toList) = .ok value :=
  fun tag htag => exists_tagValue (List.find?_eq_none.1 h tag htag)

theorem readLines_of_present (registry : Registry)
    (h : reservedTags.find? (isAbsent manifest) = none) {pipeline : String}
    (hpipeline : tagValue pipelineTag (Text.lines manifest.toList) = .ok pipeline) :
    ∃ title description, readLines registry (Text.lines manifest.toList) =
      (declaredNodes registry (declarationBlock (Text.lines manifest.toList))).bind fun declared =>
        (pipelineEntries pipeline).foldlM (addEntry declared) (.empty title description) := by
  obtain ⟨title, htitle⟩ := exists_tagValue_of_present h titleTag (by simp [reservedTags])
  obtain ⟨description, hdescription⟩ := exists_tagValue_of_present h descriptionTag (by simp [reservedTags])
  exact ⟨title, description, readLines_eq htitle hdescription hpipeline⟩

theorem declaredNodes_of_bad {d : Declaration}
    (hfind : (consumed manifest).find? (fun d => !d.isGood registry) = some d)
    (hd : d.node registry = .error cause) :
    declaredNodes registry (declarationBlock (Text.lines manifest.toList)) =
      .error (.reading .node d.text cause) := by
  unfold declaredNodes
  have hnodes := nodesOf_of_bad hfind hd
  unfold consumed at hnodes
  simp only [hnodes]

theorem declaredNodes_of_good {nodes : List (String × Node)}
    (hnodes : nodesOf registry (consumed manifest) = .ok nodes) :
    declaredNodes registry (declarationBlock (Text.lines manifest.toList)) =
      if isUnclosed (leftOver manifest) then .error (unclosedError (leftOver manifest))
      else .ok (.ofList nodes) :=
  declaredNodes_eq hnodes

theorem Refused.readLines_eq (h : Refused registry manifest cause) :
    readLines registry (Text.lines manifest.toList) = .error cause := by
  cases h with
  | tag htag => exact readLines_of_absent htag
  | declaration htags hfind hd =>
    obtain ⟨pipeline, hpipeline⟩ := exists_tagValue_of_present htags pipelineTag (by simp [reservedTags])
    obtain ⟨title, description, hread⟩ := readLines_of_present registry htags hpipeline
    rw [hread, declaredNodes_of_bad hfind hd.node_eq]
    rfl
  | unclosed htags hfind hopening hclosing =>
    obtain ⟨pipeline, hpipeline⟩ := exists_tagValue_of_present htags pipelineTag (by simp [reservedTags])
    obtain ⟨title, description, hread⟩ := readLines_of_present registry htags hpipeline
    obtain ⟨nodes, hnodes⟩ := exists_nodesOf_of_good hfind
    rw [hread, declaredNodes_of_good hnodes, if_pos (isUnclosed_iff.2 ⟨hopening, hclosing⟩)]
    rfl
  | entry htags hfind hrest hpipeline hentry =>
    obtain ⟨title, description, hread⟩ := readLines_of_present registry htags hpipeline
    obtain ⟨nodes, hnodes⟩ := exists_nodesOf_of_good hfind
    rw [← isUndeclared_ofList hnodes] at hentry
    rw [hread, declaredNodes_of_good hnodes, if_neg (fun h => hrest (isUnclosed_iff.1 h))]
    exact (drawnFrom_empty (.ofList nodes) title description).foldlM_addEntry_undeclared hentry

theorem refused_or_readLines (manifest : String) (hregistry : registry.Total) :
    (∃ cause, Refused registry manifest cause) ∨
      ∃ g, readLines registry (Text.lines manifest.toList) = .ok g := by
  cases htags : reservedTags.find? (isAbsent manifest) with
  | some tag => exact .inl ⟨_, .tag htags⟩
  | none =>
  obtain ⟨pipeline, hpipeline⟩ := exists_tagValue_of_present htags pipelineTag (by simp [reservedTags])
  cases hfind : (consumed manifest).find? (fun d => !d.isGood registry) with
  | some d =>
    have hbad : ¬ d.isGood registry := by simpa using List.find?_some hfind
    cases hd : d.node registry with
    | error cause => exact .inl ⟨_, .declaration htags hfind (Declaration.refused_of_node hregistry hd)⟩
    | ok node => exact absurd (Declaration.isGood_iff.2 ⟨node, hd⟩) hbad
  | none =>
  by_cases hrest : '(' ∈ leftOver manifest ∧ ')' ∈ leftOver manifest
  · exact .inl ⟨_, .unclosed htags hfind hrest.1 hrest.2⟩
  obtain ⟨nodes, hnodes⟩ := exists_nodesOf_of_good hfind
  cases hentry : (pipelineEntries pipeline).find?
      (fun e => !isMarker e && !(consumed manifest).any (·.name = e)) with
  | some name => exact .inl ⟨_, .entry htags hfind hrest hpipeline hentry⟩
  | none =>
    right
    rw [← isUndeclared_ofList hnodes] at hentry
    obtain ⟨title, description, hread⟩ := readLines_of_present registry htags hpipeline
    obtain ⟨g, hfold, -⟩ :=
      (drawnFrom_empty (.ofList nodes) title description).foldlM_addEntry_declared hentry
    refine ⟨g, ?_⟩
    rw [hread, declaredNodes_of_good hnodes, if_neg (fun h => hrest (isUnclosed_iff.1 h))]
    exact hfold

theorem Declaration.Refused.ofDeclaration {d : Declaration} (h : d.Refused registry cause) :
    OfDeclaration cause := by
  cases h <;> trivial

theorem Layered.trimmed {piece : List Char} (hcause : OfDeclaration cause)
    (hpiece : piece <:+: declarationBlock (Text.lines manifest.toList)) :
    Layered manifest (.reading .graph manifest (.reading .node (String.ofList (Text.trim piece)) cause)) := by
  apply Layered.declaration hcause
  · rw [String.toList_ofList]
    exact Text.trim_trim piece
  · rw [String.toList_ofList]
    exact (Text.isInfix_trim piece).trans hpiece

theorem Refused.layered (h : Refused registry manifest cause) :
    Layered manifest (.reading .graph manifest cause) := by
  cases h with
  | tag _ => exact .tag _
  | declaration _ hfind hd => exact .trimmed hd.ofDeclaration (isInfix_source (List.mem_of_find?_eq_some hfind))
  | unclosed _ _ _ _ => exact .trimmed trivial (isInfix_leftOver manifest)
  | entry _ _ _ _ _ => exact .reference _

end RecordFlow.Manifest

namespace RecordFlow.Graph

open Manifest

section

variable [Engine]

variable {registry : Registry} {manifest : String} {e : Error}

/-- A manifest is refused for its first cause and for no other, and the error holds the manifest in
one layer, and a declaration at fault in a second one. A declaration that is opened and never closed
is no cause if no closing parenthesis stands in the rest: then the next cause in order counts. -/
theorem ofManifest_refusal (hregistry : registry.Total) :
    (ofManifest registry manifest = .error e ↔
      ∃ cause, Refused registry manifest cause ∧ e = .reading .graph manifest cause) ∧
    (ofManifest registry manifest = .error e → Layered manifest e) := by
  have hiff : ofManifest registry manifest = .error e ↔
      ∃ cause, Refused registry manifest cause ∧ e = .reading .graph manifest cause := by
    unfold ofManifest
    constructor
    · intro h
      rcases refused_or_readLines manifest hregistry with ⟨cause, hcause⟩ | ⟨g, hg⟩
      · rw [hcause.readLines_eq] at h
        cases h
        exact ⟨cause, hcause, rfl⟩
      · rw [hg] at h
        cases h
    · rintro ⟨cause, hcause, rfl⟩
      rw [hcause.readLines_eq]
      rfl
  refine ⟨hiff, ?_⟩
  intro h
  obtain ⟨cause, hcause, rfl⟩ := hiff.1 h
  exact hcause.layered

end

open scoped Regex

/-- The stage is named by a declaration that is never closed, and the error says that nothing is
declared under the name. -/
theorem ofManifest_refusal_open_declaration :
    let manifest := "TITLE: T\nDESCRIPTION: D\nPIPELINE: n1\nn1(\n  type: \"Limit\""
    let e := Error.reading .graph manifest (.unregisteredReference "n1")
    Registry.standard.Total ∧ leftOver manifest = "n1(\n  type: \"Limit\"".toList ∧
      ofManifest .standard manifest = .error e ∧ Layered manifest e := by
  intro manifest e
  have hcut : declarations (declarationBlock (Text.lines manifest.toList)) =
      ([], "n1(\n  type: \"Limit\"".toList) := by decide +kernel
  have hconsumed : consumed manifest = [] := congrArg Prod.fst hcut
  have hleft : leftOver manifest = "n1(\n  type: \"Limit\"".toList := congrArg Prod.snd hcut
  have hcause : Refused .standard manifest (.unregisteredReference "n1") := by
    refine @Refused.entry _ .standard manifest "n1" "n1" ?_ ?_ ?_ ?_ ?_
    · decide +kernel
    · rw [hconsumed]
      rfl
    · rw [hleft]
      decide
    · decide +kernel
    · rw [hconsumed]
      decide +kernel
  have hmain := @ofManifest_refusal _ .standard manifest e Registry.total_standard
  have herror := hmain.1.2 ⟨_, hcause, rfl⟩
  exact ⟨Registry.total_standard, hleft, herror, hmain.2 herror⟩

end RecordFlow.Graph
