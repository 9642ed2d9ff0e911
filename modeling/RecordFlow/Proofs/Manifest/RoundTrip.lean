import RecordFlow.Proofs.Manifest.Writing
import RecordFlow.Regex.Engine

/-! # Reading written manifests

The lines of a written manifest are found again. The tagged ones give title,
description and pipeline; the others are the joined declarations.
-/

namespace RecordFlow.Manifest

theorem map_trim_splitAtPair {entries : List (List Char)} (hne : entries ≠ [])
    (h : ∀ e ∈ entries, Text.trim e = e ∧ ¬ ['-', '>'] <:+: e) {lead : List Char}
    (hlead : lead = [] ∨ lead = [' ']) :
    (Text.splitAtPair '-' '>' (lead ++ Text.join ManifestText.separator entries)).map Text.trim =
      entries := by
  induction entries generalizing lead with
  | nil => exact absurd rfl hne
  | cons e entries ih =>
    obtain ⟨⟨htrim, harrow⟩, hentries⟩ := List.forall_mem_cons.1 h
    have htrim_lead : Text.trim (lead ++ e) = e := by
      rcases hlead with rfl | rfl
      · exact htrim
      · exact (Text.trim_cons_of_blank (by decide) e).trans htrim
    have harrow_lead : ¬ ['-', '>'] <:+: lead ++ e := by
      rcases hlead with rfl | rfl
      · exact harrow
      · rw [Text.pair_infix_append_iff]
        simp [harrow, Text.not_pair_infix_singleton]
    cases entries with
    | nil =>
      rw [Text.join, Text.splitAtPair_eq_singleton harrow_lead]
      simp [htrim_lead]
    | cons next entries =>
      have hbefore : ¬ ['-', '>'] <:+: lead ++ e ++ [' '] ++ ['-'] := by
        rw [Text.pair_infix_append_iff, Text.pair_infix_append_iff]
        simp [harrow_lead, Text.not_pair_infix_singleton]
      have htext : lead ++ Text.join ManifestText.separator (e :: next :: entries) =
          lead ++ e ++ [' '] ++ '-' :: '>' :: ([' '] ++ Text.join ManifestText.separator (next :: entries)) := by
        rw [Text.join_cons_cons]
        simp [ManifestText.separator]
      rw [htext, Text.splitAtPair_append hbefore, List.map_cons, Text.trim_concat_of_blank (by decide),
        htrim_lead, ih (List.cons_ne_nil _ _) hentries (.inr rfl)]

theorem pipelineEntries_ofList_join {entries : List (List Char)} (hne : entries ≠ [])
    (h : ∀ e ∈ entries, Text.trim e = e ∧ ¬ ['-', '>'] <:+: e) :
    pipelineEntries (String.ofList (Text.join ManifestText.separator entries)) = entries.map String.ofList := by
  have hsplit := map_trim_splitAtPair hne h (.inl rfl)
  rw [List.nil_append] at hsplit
  rw [pipelineEntries, String.toList_ofList]
  conv_rhs => rw [← hsplit]
  rw [List.map_map]
  rfl

theorem pipelineEntries_join {entries : List (List Char)} (hne : entries ≠ [])
    (h : ∀ e ∈ entries, e ≠ [] ∧ Text.trim e = e ∧ ¬ ['-', '>'] <:+: e) :
    pipelineEntries (String.ofList (Text.trim (Text.join ManifestText.separator entries))) =
      entries.map String.ofList := by
  rw [Text.trim_join fun e he => ⟨(h e he).1, (h e he).2.1⟩]
  exact pipelineEntries_ofList_join hne fun e he => (h e he).2

theorem not_reserved_opening {name : List Char} (h : ¬ Reserved name) : ¬ Reserved (name ++ ['(']) := by
  rintro ⟨tag, htag, hbegins⟩
  rcases List.prefix_concat_iff.1 hbegins with heq | hbegins
  · have hno : ∀ tag ∈ reservedTags, '(' ∉ tag.toList := by decide
    exact hno tag htag (by rw [heq]; simp)
  · exact h ⟨tag, htag, hbegins⟩

theorem not_reserved_closing : ¬ Reserved [')'] := by
  rintro ⟨tag, htag, hbegins⟩
  simp only [reservedTags, List.mem_cons, List.not_mem_nil, or_false] at htag
  rcases htag with rfl | rfl | rfl <;> revert hbegins <;> decide

theorem reserved_tagLine {tag : String} (h : tag ∈ reservedTags) (value : List Char) :
    Reserved (ManifestText.tagLine tag value) :=
  ⟨tag, h, by simp [ManifestText.tagLine]⟩

theorem isDeclarationLine_iff {line : List Char} :
    isDeclarationLine line ↔ ¬ Text.isBlank line ∧ ¬ Reserved line := by
  simp only [isDeclarationLine, Bool.and_eq_true, Bool.not_eq_true', Reserved, Bool.not_eq_true,
    List.any_eq_false, Text.beginsWith_iff, not_exists, not_and]

namespace DeclarationText

variable {d : DeclarationText}

theorem Proper.line_of_mem (h : d.Proper) {line : List Char} (hline : line ∈ d.toLines) :
    ¬ Text.isBlank line ∧ ¬ Reserved line ∧ Unbroken line := by
  simp only [toLines, List.cons_append, List.mem_cons, List.mem_append, List.not_mem_nil, or_false] at hline
  rcases hline with rfl | hline | rfl
  · refine ⟨?_, not_reserved_opening h.name.not_reserved, ?_⟩
    · intro hblank
      have := List.all_eq_true.1 hblank '(' (by simp)
      revert this; decide
    · have hunbroken := h.name.unbroken
      simpa [Unbroken] using hunbroken
  · have hproper := h.lines line hline
    exact ⟨hproper.visible, hproper.not_reserved, hproper.unbroken⟩
  · exact ⟨by decide, not_reserved_closing, by decide, by decide⟩

end DeclarationText

namespace ManifestText

variable {m : ManifestText}

theorem WellFormed.proper (h : m.WellFormed) : ∀ d ∈ m.declarations, d.Proper :=
  fun d hd => ⟨h.names d hd, h.lines d hd⟩

theorem mem_declarations {d : DeclarationText} : d ∈ m.declarations ↔ .declaration d ∈ m.segments := by
  rw [declarations, List.mem_filterMap]
  constructor
  · rintro ⟨s, hs, hd⟩
    cases s <;> cases hd
    exact hs
  · exact fun h => ⟨_, h, rfl⟩

theorem WellFormed.filter_toLines (h : m.WellFormed) :
    m.toLines.filter isDeclarationLine = m.declarations.flatMap DeclarationText.toLines := by
  have hproper : ∀ d, .declaration d ∈ m.segments → d.Proper := fun d hd =>
    h.proper d (mem_declarations.2 hd)
  rw [toLines, declarations]
  generalize m.segments = segments at hproper
  induction segments with
  | nil => rfl
  | cons s segments ih =>
    have ih := ih fun d hd => hproper d (List.mem_cons_of_mem _ hd)
    have htag {tag : String} (htag : tag ∈ reservedTags) (value : List Char) :
        isDeclarationLine (tagLine tag value) = false := by
      rw [← Bool.not_eq_true, isDeclarationLine_iff]
      exact fun hline => hline.2 (reserved_tagLine htag value)
    rw [List.flatMap_cons, List.filter_append, ih]
    cases s with
    | title => rw [List.filterMap_cons_none rfl]; simp [linesOf, htag (by decide : titleTag ∈ reservedTags)]
    | description => rw [List.filterMap_cons_none rfl]; simp [linesOf, htag (by decide : descriptionTag ∈ reservedTags)]
    | pipeline => rw [List.filterMap_cons_none rfl]; simp [linesOf, htag (by decide : pipelineTag ∈ reservedTags)]
    | declaration d =>
      have hd := hproper d List.mem_cons_self
      have hall : d.toLines.filter isDeclarationLine = d.toLines := by
        refine List.filter_eq_self.2 fun line hline => isDeclarationLine_iff.2 ?_
        exact ⟨(hd.line_of_mem hline).1, (hd.line_of_mem hline).2.1⟩
      have hcons : (Segment.declaration d :: segments).filterMap Segment.declaration? =
          d :: segments.filterMap Segment.declaration? := rfl
      rw [hcons, List.flatMap_cons, linesOf, hall]

theorem WellFormed.mem_segments (h : m.WellFormed) {s : Segment} :
    s ∈ m.segments ↔ s = .title ∨ s = .description ∨ s = .pipeline ∨
      ∃ d ∈ m.declarations, s = .declaration d := by
  rw [h.segments.mem_iff]
  simp [eq_comm]

theorem WellFormed.entry (h : m.WellFormed) {e : List Char} (he : e ∈ m.entries) :
    e ≠ [] ∧ Text.trim e = e ∧ ¬ ['-', '>'] <:+: e ∧ Unbroken e := by
  rcases h.entries e he with ⟨d, hd, rfl⟩ | hmarker
  · have hname := h.names d hd
    exact ⟨hname.ne_nil, hname.trimmed, hname.no_arrow, hname.unbroken⟩
  · refine ⟨?_, hmarker.trimmed, hmarker.no_arrow, hmarker.unbroken⟩
    rintro rfl
    exact Bool.false_ne_true hmarker.marker

def tags (m : ManifestText) : List (String × List Char) :=
  [(titleTag, m.title), (descriptionTag, m.description), (pipelineTag, Text.join separator m.entries)]

theorem reserved_of_mem_tags {t : String × List Char} (h : t ∈ m.tags) : t.1 ∈ reservedTags := by
  simp only [tags, List.mem_cons, List.not_mem_nil, or_false] at h
  rcases h with rfl | rfl | rfl <;> simp [reservedTags]

/-- A reserved tag is determined by its first letter, so a line begins with one tag only. -/
theorem eq_of_tag_prefix {a b : String} (ha : a ∈ reservedTags) (hb : b ∈ reservedTags)
    {rest : List Char} (h : a.toList <+: b.toList ++ rest) : a = b := by
  have hletter : ∀ a ∈ reservedTags, ∀ b ∈ reservedTags, a.toList.head? = b.toList.head? → a = b := by
    decide
  have hne : ∀ a ∈ reservedTags, a.toList ≠ [] := by decide
  refine hletter a ha b hb ?_
  obtain ⟨more, heq⟩ := h
  rw [← List.head?_append_of_ne_nil _ (hne b hb), ← heq, List.head?_append_of_ne_nil _ (hne a ha)]

theorem eq_of_mem_tags {s t : String × List Char} (hs : s ∈ m.tags) (ht : t ∈ m.tags) (h : s.1 = t.1) :
    s = t := by
  have hnodup : (m.tags.map Prod.fst).Nodup := (by decide : reservedTags.Nodup)
  have hs := (lookup_eq_some_iff_mem hnodup).2 hs
  rw [h, (lookup_eq_some_iff_mem hnodup).2 ht] at hs
  exact Prod.ext h (Option.some.inj hs).symm

theorem unbroken_join {entries : List (List Char)} (h : ∀ e ∈ entries, Unbroken e) :
    Unbroken (Text.join separator entries) := by
  cases entries with
  | nil => exact ⟨List.not_mem_nil, List.not_mem_nil⟩
  | cons e entries =>
    obtain ⟨he, hentries⟩ := List.forall_mem_cons.1 h
    rw [Text.join_cons]
    constructor <;> rw [List.mem_append, List.mem_flatMap, not_or, not_exists]
    · refine ⟨he.1, fun e' ⟨hmem, hbreak⟩ => ?_⟩
      rcases List.mem_append.1 hbreak with hbreak | hbreak
      · revert hbreak; decide
      · exact (hentries e' hmem).1 hbreak
    · refine ⟨he.2, fun e' ⟨hmem, hbreak⟩ => ?_⟩
      rcases List.mem_append.1 hbreak with hbreak | hbreak
      · revert hbreak; decide
      · exact (hentries e' hmem).2 hbreak

theorem WellFormed.unbroken_tags (h : m.WellFormed) : ∀ t ∈ m.tags, Unbroken t.2 := by
  simp only [tags, List.forall_mem_cons]
  exact ⟨h.title, h.description, unbroken_join fun e he => (h.entry he).2.2.2, by simp⟩

theorem WellFormed.mem_toLines (h : m.WellFormed) {line : List Char} :
    line ∈ m.toLines ↔ (∃ t ∈ m.tags, line = tagLine t.1 t.2) ∨
      ∃ d ∈ m.declarations, line ∈ d.toLines := by
  rw [toLines, List.mem_flatMap]
  constructor
  · rintro ⟨s, hs, hline⟩
    rcases h.mem_segments.1 hs with rfl | rfl | rfl | ⟨d, hd, rfl⟩
    · exact .inl ⟨(titleTag, m.title), by simp [tags], List.mem_singleton.1 hline⟩
    · exact .inl ⟨(descriptionTag, m.description), by simp [tags], List.mem_singleton.1 hline⟩
    · exact .inl ⟨(pipelineTag, _), by simp [tags], List.mem_singleton.1 hline⟩
    · exact .inr ⟨d, hd, hline⟩
  · rintro (⟨t, ht, rfl⟩ | ⟨d, hd, hline⟩)
    · simp only [tags, List.mem_cons, List.not_mem_nil, or_false] at ht
      rcases ht with rfl | rfl | rfl
      · exact ⟨.title, h.mem_segments.2 (by simp), List.mem_singleton_self _⟩
      · exact ⟨.description, h.mem_segments.2 (by simp), List.mem_singleton_self _⟩
      · exact ⟨.pipeline, h.mem_segments.2 (by simp), List.mem_singleton_self _⟩
    · exact ⟨.declaration d, mem_declarations.1 hd, hline⟩

theorem unbroken_tagLine {tag : String} (htag : tag ∈ reservedTags) {value : List Char}
    (h : Unbroken value) : tagLine tag value ≠ [] ∧ Unbroken (tagLine tag value) := by
  have hunbroken : ∀ tag ∈ reservedTags, '\n' ∉ tag.toList ∧ '\r' ∉ tag.toList := by decide
  obtain ⟨hnewline, hreturn⟩ := hunbroken tag htag
  simp [tagLine, Unbroken, hnewline, hreturn, h.1, h.2]

theorem WellFormed.unbroken (h : m.WellFormed) :
    ∀ line ∈ m.toLines, line ≠ [] ∧ '\n' ∉ line ∧ '\r' ∉ line := by
  intro line hline
  rcases h.mem_toLines.1 hline with ⟨t, ht, rfl⟩ | ⟨d, hd, hline⟩
  · exact unbroken_tagLine (reserved_of_mem_tags ht) (h.unbroken_tags t ht)
  · obtain ⟨hvisible, -, hunbroken⟩ := (h.proper d hd).line_of_mem hline
    exact ⟨by rintro rfl; exact hvisible rfl, hunbroken⟩

theorem WellFormed.lines_toText (h : m.WellFormed) : Text.lines m.toText.toList = m.toLines := by
  rw [toText, String.toList_ofList]
  refine Text.lines_join ?_ h.unbroken h.ending
  exact List.ne_nil_of_mem (h.mem_toLines.2 (.inl ⟨_, List.mem_cons_self, rfl⟩))

theorem after?_tagLine (tag : String) (value : List Char) :
    Text.after? (tag.toList ++ [':', ' ']) (tagLine tag value) = some value :=
  Text.after?_eq_some_iff.2 rfl

theorem lookup_map {α : Type} {β : Type} (key : α → String) (value : α → β) (l : List α) (k : String) :
    (l.map fun a => (key a, value a)).lookup k = (l.find? fun a => key a == k).map value := by
  induction l with
  | nil => rfl
  | cons a l ih =>
    rw [List.map_cons, lookup_cons_eq_ite, ih, List.find?_cons]
    by_cases hk : k = key a
    · simp [hk]
    · have : (key a == k) = false := beq_eq_false_iff_ne.2 (Ne.symm hk)
      simp [hk, this]

variable [Engine]

theorem WellFormed.tagValue_eq (h : m.WellFormed) {tag : String} {value : List Char}
    (ht : (tag, value) ∈ m.tags) :
    tagValue tag m.toLines = .ok (String.ofList (Text.trim value)) := by
  have hvalue : m.toLines.findSome? (taggedValue? tag) = some (Text.trim value) := by
    have hline : tagLine tag value ∈ m.toLines := h.mem_toLines.2 (.inl ⟨_, ht, rfl⟩)
    have hothers : ∀ line ∈ m.toLines, ∀ found, taggedValue? tag line = some found →
        found = Text.trim value := by
      intro line hline found hfound
      obtain ⟨rest, hafter, rfl⟩ := Option.map_eq_some_iff.1 hfound
      obtain rfl := Text.after?_eq_some_iff.1 hafter
      have hbegins : tag.toList <+: tag.toList ++ [':', ' '] ++ rest :=
        ⟨[':', ' '] ++ rest, (List.append_assoc ..).symm⟩
      rcases h.mem_toLines.1 hline with ⟨s, hs, heq⟩ | ⟨d, hd, hmem⟩
      · rw [heq, tagLine, List.append_assoc] at hbegins
        have htag := eq_of_tag_prefix (reserved_of_mem_tags ht) (reserved_of_mem_tags hs) hbegins
        obtain rfl := eq_of_mem_tags ht hs htag
        rw [List.append_cancel_left heq]
      · exact absurd ⟨tag, reserved_of_mem_tags ht, hbegins⟩ ((h.proper d hd).line_of_mem hmem).2.1
    cases hfind : m.toLines.findSome? (taggedValue? tag) with
    | none =>
      have hnone := List.findSome?_eq_none_iff.1 hfind _ hline
      rw [taggedValue?, after?_tagLine] at hnone
      cases hnone
    | some found =>
      obtain ⟨line, hmem, hfound⟩ := List.exists_of_findSome?_eq_some hfind
      rw [hothers line hmem found hfound]
  rw [tagValue, hvalue]

/-- The declarations are read as the nodes that they describe. -/
theorem WellFormed.declaredNodes_eq (h : m.WellFormed) {registry : Registry} {node : DeclarationText → Node}
    (hnode : ∀ d ∈ m.declarations, d.Describes registry (node d)) :
    declaredNodes registry (declarationBlock m.toLines) =
      .ok (.ofList (m.declarations.map fun d => (String.ofList d.name, node d))) := by
  obtain ⟨cuts, hcuts, hnodes⟩ := DeclarationText.nodesOf_declarations_join h.proper hnode
  have hblock : declarationBlock m.toLines =
      Text.join ['\n'] (m.declarations.flatMap DeclarationText.toLines) := by
    rw [declarationBlock, h.filter_toLines, DeclarationText.trim_join_toLines h.proper]
  rw [hblock, Manifest.declaredNodes_eq (by rw [hcuts]; exact hnodes), hcuts]
  rfl

theorem get?_declared (m : ManifestText) (node : DeclarationText → Node) (name : String) :
    (Dict.ofList (m.declarations.map fun d => (String.ofList d.name, node d))).get? name =
      (m.declarationOf? name).map node := by
  rw [Dict.get?_ofList, ← List.map_reverse, lookup_map, declarationOf?]

end ManifestText

end RecordFlow.Manifest

namespace RecordFlow.Graph

open Manifest

section

variable [Engine]

/-- A manifest that is written from proper parts is read as a graph of these parts: its title and
description are trimmed, its stages are the entries that are no markers, and its nodes are those that
the last declarations of its stages describe. -/
theorem ofManifest_toText {registry : Registry} {m : ManifestText} {node : DeclarationText → Node}
    (hm : m.WellFormed) (hnode : ∀ d ∈ m.declarations, d.Describes registry (node d)) :
    ∃ g, ofManifest registry m.toText = .ok g ∧
      g.title = String.ofList (Text.trim m.title) ∧
      g.description = String.ofList (Text.trim m.description) ∧
      g.pipeline = (m.entries.filter fun e => !hasMarker e).map String.ofList ∧
      ∀ name, g.nodes.get? name =
        if name ∈ g.pipeline then (m.declarationOf? name).map node else none := by
  have htitle := hm.tagValue_eq List.mem_cons_self
  have hdescription := hm.tagValue_eq (List.mem_cons_of_mem _ List.mem_cons_self)
  have hpipeline := hm.tagValue_eq (List.mem_cons_of_mem _ (List.mem_cons_of_mem _ List.mem_cons_self))
  rw [ofManifest, hm.lines_toText, readLines_eq htitle hdescription hpipeline, hm.declaredNodes_eq hnode,
    pipelineEntries_join hm.entries_ne_nil fun e he => ⟨(hm.entry he).1, (hm.entry he).2.1, (hm.entry he).2.2.1⟩]
  generalize hdeclared : Dict.ofList (m.declarations.map fun d => (String.ofList d.name, node d)) = declared
  have hget (name : String) : declared.get? name = (m.declarationOf? name).map node := by
    rw [← hdeclared, ManifestText.get?_declared]
  have hdrawn := drawnFrom_empty declared (String.ofList (Text.trim m.title))
    (String.ofList (Text.trim m.description))
  rcases hdrawn.foldlM_addEntry (m.entries.map String.ofList) with
    ⟨g, hfold, hg, htitle, hdescription, hpipeline⟩ | ⟨name, hname, hmarker, hnone, -⟩
  · refine ⟨g, ?_, htitle, hdescription, ?_, fun name => by rw [hg.nodes, hget]⟩
    · show Except.mapError _ (List.foldlM _ _ _) = _
      rw [hfold]
      rfl
    · rw [hpipeline, List.filter_map]
      simp [Graph.empty, Function.comp_def, isMarker]
  · -- every entry is declared or a marker
    exfalso
    obtain ⟨e, he, rfl⟩ := List.mem_map.1 hname
    rcases hm.entries e he with ⟨d, hd, rfl⟩ | hproper
    · rw [hget, Option.map_eq_none_iff, ManifestText.declarationOf?, List.find?_eq_none] at hnone
      exact hnone d (List.mem_reverse.2 hd) (beq_self_eq_true _)
    · exact hmarker (by rw [isMarker, String.toList_ofList]; exact hproper.marker)

end

open scoped Regex

/-- Tagged lines around a declaration, a parenthesis in its body, and a marker in the pipeline. -/
theorem ofManifest_toText_limit :
    let d : DeclarationText := ⟨"n1".toList, ["type: 'Limit', // (".toList, " count: 2".toList]⟩
    let m : ManifestText := ⟨" T".toList, "D".toList, ["[in]".toList, "n1".toList],
      [.pipeline, .declaration d, .title, .description], ['\n']⟩
    ∃ node g, d.Describes .standard node ∧ ofManifest .standard m.toText = .ok g ∧ g.title = "T" ∧
      g.pipeline = ["n1"] ∧ g.nodes.get? "n1" = some node := by
  intro d m
  have hname : ProperName "n1".toList :=
    ⟨by decide, by decide, by decide, by decide, by decide, by decide, by decide⟩
  have hlines : ∀ line ∈ d.lines, ProperLine line := by
    simp only [d, List.forall_mem_cons]
    exact ⟨⟨by decide, by decide, by decide, by decide⟩, ⟨by decide, by decide, by decide, by decide⟩,
      by simp⟩
  have hm : m.WellFormed := by
    refine ⟨by decide, .inr rfl, by decide, by decide, ?_, ?_, by decide, ?_⟩
    · exact List.forall_mem_singleton.2 hname
    · exact List.forall_mem_singleton.2 hlines
    · refine List.forall_mem_cons.2 ⟨.inr ⟨by decide, by decide, by decide, by decide⟩, ?_⟩
      exact List.forall_mem_singleton.2 (.inl ⟨d, List.mem_singleton_self d, rfl⟩)
  have htype : (Parameters.ofText d.literal).toOption.bind (·.get? "type") = some (.string "Limit") := by
    decide +kernel
  cases hread : Parameters.ofText d.literal with
  | error e => rw [hread] at htype; cases htype
  | ok p =>
    rw [hread] at htype
    have hdescribes : d.Describes .standard (.ofOperator .limit p) :=
      ⟨p, "Limit", Operator.limit.nodeType, hread, htype, rfl, rfl⟩
    obtain ⟨g, hg, htitle, -, hpipeline, hnodes⟩ := @ofManifest_toText _ .standard m
      (fun _ => .ofOperator .limit p) hm (List.forall_mem_singleton.2 hdescribes)
    have hstages : g.pipeline = ["n1"] := by rw [hpipeline]; decide
    refine ⟨_, g, hdescribes, hg, ?_, hstages, ?_⟩
    · rw [htitle]; decide
    · rw [hnodes, hstages]; rfl

end RecordFlow.Graph
