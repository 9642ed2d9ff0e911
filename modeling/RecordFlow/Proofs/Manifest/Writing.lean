import RecordFlow.Proofs.Manifest.Reading

/-! # Written manifests

A manifest is written from its parts: a title, a description, the entries of the
pipeline, and declarations given by a name and the lines of a body. The tagged lines
may stand anywhere between the declarations. Reading finds the parts again.
-/

namespace RecordFlow.Manifest

structure DeclarationText where
  name : List Char
  lines : List (List Char)
  deriving DecidableEq

inductive Segment where
  | title
  | description
  | pipeline
  | declaration (d : DeclarationText)
  deriving DecidableEq

/-- The parts of a manifest, and the order in which they are written. -/
structure ManifestText where
  title : List Char
  description : List Char
  entries : List (List Char)
  segments : List Segment
  /-- What follows the last line. -/
  ending : List Char

namespace DeclarationText

def toLines (d : DeclarationText) : List (List Char) := (d.name ++ ['(']) :: d.lines ++ [[')']]

def literal (d : DeclarationText) : String :=
  String.ofList ('\x7b' :: '\n' :: d.lines.flatMap (· ++ ['\n']) ++ ['\x7d'])

variable [Engine]

/-- The declaration describes a node: its body names a registered type, which makes the node of the
parameters in the body. -/
def Describes (registry : Registry) (d : DeclarationText) (node : Node) : Prop :=
  ∃ p type nodeType, Parameters.ofText d.literal = .ok p ∧ p.get? "type" = some (.string type) ∧
    registry.lookup? type = some nodeType ∧ nodeType.create p = .ok node

end DeclarationText

def Segment.declaration? : Segment → Option DeclarationText
  | declaration d => some d
  | _ => none

namespace ManifestText

def separator : List Char := [' ', '-', '>', ' ']

def tagLine (tag : String) (value : List Char) : List Char := tag.toList ++ [':', ' '] ++ value

def linesOf (m : ManifestText) : Segment → List (List Char)
  | .title => [tagLine titleTag m.title]
  | .description => [tagLine descriptionTag m.description]
  | .pipeline => [tagLine pipelineTag (Text.join separator m.entries)]
  | .declaration d => d.toLines

def toLines (m : ManifestText) : List (List Char) := m.segments.flatMap m.linesOf

def toText (m : ManifestText) : String := String.ofList (Text.join ['\n'] m.toLines ++ m.ending)

def declarations (m : ManifestText) : List DeclarationText := m.segments.filterMap Segment.declaration?

/-- The declaration of a name that counts: the last one. -/
def declarationOf? (m : ManifestText) (name : String) : Option DeclarationText :=
  m.declarations.reverse.find? fun d => String.ofList d.name == name

end ManifestText

def Unbroken (text : List Char) : Prop := '\n' ∉ text ∧ '\r' ∉ text

def Reserved (line : List Char) : Prop := ∃ tag ∈ reservedTags, tag.toList <+: line

instance : DecidablePred Unbroken := fun _ => inferInstanceAs (Decidable (_ ∧ _))

instance : DecidablePred Reserved := fun _ => inferInstanceAs (Decidable (∃ tag ∈ reservedTags, _))

structure ProperName (name : List Char) : Prop where
  ne_nil : name ≠ []
  trimmed : Text.trim name = name
  no_parenthesis : '(' ∉ name ∧ ')' ∉ name
  unbroken : Unbroken name
  no_arrow : ¬ ['-', '>'] <:+: name
  no_marker : ¬ hasMarker name
  not_reserved : ¬ Reserved name

structure ProperLine (line : List Char) : Prop where
  visible : ¬ Text.isBlank line
  unbroken : Unbroken line
  not_closing : ')' ∉ line.head?
  not_reserved : ¬ Reserved line

structure ProperMarker (entry : List Char) : Prop where
  trimmed : Text.trim entry = entry
  no_arrow : ¬ ['-', '>'] <:+: entry
  unbroken : Unbroken entry
  marker : hasMarker entry

/-- Each tagged line is written once, and all parts are proper. -/
structure ManifestText.WellFormed (m : ManifestText) : Prop where
  segments : m.segments.Perm (.title :: .description :: .pipeline :: m.declarations.map .declaration)
  ending : m.ending = [] ∨ m.ending = ['\n']
  title : Unbroken m.title
  description : Unbroken m.description
  names : ∀ d ∈ m.declarations, ProperName d.name
  lines : ∀ d ∈ m.declarations, ∀ line ∈ d.lines, ProperLine line
  entries_ne_nil : m.entries ≠ []
  entries : ∀ e ∈ m.entries, (∃ d ∈ m.declarations, d.name = e) ∨ ProperMarker e

namespace DeclarationText

variable {d : DeclarationText}

def cutAs (d : DeclarationText) (lead : List Char) : Declaration :=
  ⟨lead ++ d.name, d.lines.flatMap ('\n' :: ·) ++ ['\n']⟩

structure Proper (d : DeclarationText) : Prop where
  name : ProperName d.name
  lines : ∀ line ∈ d.lines, ProperLine line

theorem not_infix_body {lines : List (List Char)} (h : ∀ line ∈ lines, ProperLine line) :
    ¬ ['\n', ')'] <:+: lines.flatMap ('\n' :: ·) ++ ['\n'] := by
  induction lines with
  | nil => decide
  | cons line lines ih =>
    obtain ⟨hline, hlines⟩ := List.forall_mem_cons.1 h
    have hne : line ≠ [] := by rintro rfl; exact hline.visible rfl
    rw [List.flatMap_cons, List.append_assoc, List.cons_append, List.infix_cons_iff,
      Text.pair_infix_append_iff]
    rintro (hbegins | hoccurs | hoccurs | ⟨hlast, -⟩)
    · obtain ⟨c, line, rfl⟩ := List.exists_cons_of_ne_nil hne
      refine hline.not_closing ?_
      simpa [eq_comm] using hbegins
    · exact hline.unbroken.1 (hoccurs.subset List.mem_cons_self)
    · exact ih hlines hoccurs
    · exact hline.unbroken.1 (List.mem_of_getLast? hlast)

theorem Proper.cut? (h : d.Proper) {lead : List Char} (hlead : '(' ∉ lead) (rest : List Char) :
    Declaration.cut? ((d.cutAs lead).source ++ rest) = some (d.cutAs lead, rest) := by
  refine Declaration.cut?_source ?_ (not_infix_body h.lines) rest
  simp [hlead, h.name.no_parenthesis.1]

/-- Every declaration is cut off exactly, and nothing is left over. -/
theorem declarations_cutAs {ds : List DeclarationText} (h : ∀ d ∈ ds, d.Proper) :
    Manifest.declarations (ds.flatMap fun d => (d.cutAs ['\n']).source) =
      (ds.map (cutAs · ['\n']), []) := by
  induction ds with
  | nil => exact declarations_eq_of_none rfl
  | cons d ds ih =>
    obtain ⟨hd, hds⟩ := List.forall_mem_cons.1 h
    rw [List.flatMap_cons, declarations_eq_of_some (hd.cut? (by decide) _), ih hds, List.map_cons]

theorem flatMap_newline (lines : List (List Char)) :
    lines.flatMap ('\n' :: ·) ++ ['\n'] = '\n' :: lines.flatMap (· ++ ['\n']) := by
  induction lines with
  | nil => rfl
  | cons line lines ih => simp [ih]

theorem toLines_flatMap (d : DeclarationText) :
    d.toLines.flatMap ('\n' :: ·) = (d.cutAs ['\n']).source := by
  simp [toLines, cutAs, Declaration.source]

theorem join_toLines (d : DeclarationText) (ds : List DeclarationText) :
    Text.join ['\n'] ((d :: ds).flatMap toLines) =
      (d.cutAs []).source ++ ds.flatMap fun d => (d.cutAs ['\n']).source := by
  have hrest : (ds.flatMap toLines).flatMap (['\n'] ++ ·) =
      ds.flatMap fun d => (d.cutAs ['\n']).source := by
    rw [List.flatMap_assoc]
    exact congrArg ds.flatMap (funext fun d => d.toLines_flatMap)
  rw [List.flatMap_cons, toLines, List.cons_append, List.cons_append, Text.join_cons,
    List.flatMap_append, hrest]
  simp [cutAs, Declaration.source]

theorem trim_join_toLines {ds : List DeclarationText} (h : ∀ d ∈ ds, d.Proper) :
    Text.trim (Text.join ['\n'] (ds.flatMap toLines)) = Text.join ['\n'] (ds.flatMap toLines) := by
  cases ds with
  | nil => rfl
  | cons d ds =>
    have hd := h d List.mem_cons_self
    rw [join_toLines, Text.trim_eq_self_iff]
    constructor
    · have hname := (Text.trim_eq_self_iff.1 hd.name.trimmed).1
      obtain ⟨c, name, hcons⟩ := List.exists_cons_of_ne_nil hd.name.ne_nil
      simpa [cutAs, Declaration.source, hcons] using hname c (by simp [hcons])
    · obtain ⟨front, hfront⟩ : ∃ front, (d.cutAs []).source ++
          (ds.flatMap fun d => (d.cutAs ['\n']).source) = front ++ [')'] := by
        rcases List.eq_nil_or_concat' ds with rfl | ⟨others, last, rfl⟩
        · exact ⟨_, List.append_nil _⟩
        · rw [List.flatMap_append, List.flatMap_singleton, ← List.append_assoc]
          exact ⟨_, (List.append_assoc ..).symm⟩
      rw [hfront, List.getLast?_concat]
      rintro c ⟨⟩
      decide

theorem name_cutAs (h : d.Proper) {lead : List Char} (hlead : lead = [] ∨ lead = ['\n']) :
    (d.cutAs lead).name = String.ofList d.name := by
  have htrim : Text.trim (lead ++ d.name) = d.name := by
    rcases hlead with rfl | rfl
    · exact h.name.trimmed
    · exact (Text.trim_cons_of_blank (by decide) _).trans h.name.trimmed
  rw [Declaration.name, cutAs, htrim]

variable [Engine]

theorem node_cutAs {registry : Registry} {node : Node} (h : d.Proper)
    (hnode : d.Describes registry node) {lead : List Char} (hlead : lead = [] ∨ lead = ['\n']) :
    (d.cutAs lead).node registry = .ok node := by
  obtain ⟨p, type, nodeType, hread, htype, hlookup, hcreate⟩ := hnode
  have hne : (d.cutAs lead).name.isEmpty = false := by
    rw [name_cutAs h hlead, String.isEmpty_eq_false_iff]
    simpa using h.name.ne_nil
  have hliteral : String.ofList ('\x7b' :: (d.cutAs lead).body ++ ['\x7d']) = d.literal := by
    simp only [cutAs, literal, List.cons_append, flatMap_newline]
  have hparameters : (d.cutAs lead).parameters = .ok p := by
    rw [Declaration.parameters, hliteral, Parameters.read, hread]
    rfl
  have htypeOf : typeOf p = .ok type := by
    rw [typeOf, htype]
    rfl
  rw [Declaration.node, hne, hparameters]
  simp only [Bool.false_eq_true, if_false]
  show (do let type ← typeOf p; registry.create type p) = .ok node
  rw [htypeOf]
  show registry.create type p = .ok node
  rw [Registry.create, hlookup]
  exact hcreate

/-- Joined declarations are cut off again one by one and read as the nodes that they describe. -/
theorem nodesOf_declarations_join {registry : Registry} {node : DeclarationText → Node}
    {ds : List DeclarationText} (h : ∀ d ∈ ds, d.Proper) (hnode : ∀ d ∈ ds, d.Describes registry (node d)) :
    ∃ cuts, Manifest.declarations (Text.join ['\n'] (ds.flatMap toLines)) = (cuts, []) ∧
      nodesOf registry cuts = .ok (ds.map fun d => (String.ofList d.name, node d)) := by
  cases ds with
  | nil => exact ⟨[], declarations_eq_of_none rfl, rfl⟩
  | cons d ds =>
    obtain ⟨hd, hds⟩ := List.forall_mem_cons.1 h
    obtain ⟨hnode, hnodes⟩ := List.forall_mem_cons.1 hnode
    refine ⟨d.cutAs [] :: ds.map (cutAs · ['\n']), ?_, ?_⟩
    · rw [join_toLines, declarations_eq_of_some (hd.cut? List.not_mem_nil _), declarations_cutAs hds]
    · refine nodesOf_eq_ok_iff.2 (.cons ⟨name_cutAs hd (.inl rfl), node_cutAs hd hnode (.inl rfl)⟩ ?_)
      rw [List.forall₂_map_left_iff, List.forall₂_map_right_iff, List.forall₂_same]
      exact fun d hd => ⟨name_cutAs (hds d hd) (.inr rfl), node_cutAs (hds d hd) (hnodes d hd) (.inr rfl)⟩

end DeclarationText

end RecordFlow.Manifest
