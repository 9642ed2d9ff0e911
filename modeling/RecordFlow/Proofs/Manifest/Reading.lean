import RecordFlow.Proofs.Manifest.Declarations
import RecordFlow.Proofs.Manifest.Stages
import RecordFlow.Regex.Engine

/-! # Reading manifests

If the tagged lines are there and the declarations that are cut off are good, then
reading can fail for two reasons only: the rest of the block holds an opening and a
closing parenthesis, or an entry of the pipeline is not declared.
-/

namespace RecordFlow.Manifest

def consumed (manifest : String) : List Declaration :=
  (declarations (declarationBlock (Text.lines manifest.toList))).1

/-- What is left of the block after the last declaration. -/
def leftOver (manifest : String) : List Char :=
  (declarations (declarationBlock (Text.lines manifest.toList))).2

/-- The block is cut completely: no parenthesis at the start of a line closes the first one that
opens in the rest. -/
theorem leftOver_spec (manifest : String) :
    (consumed manifest).flatMap Declaration.source ++ leftOver manifest =
        declarationBlock (Text.lines manifest.toList) ∧
      ∀ head inside, leftOver manifest = head ++ '(' :: inside → '(' ∉ head → ¬ ['\n', ')'] <:+: inside :=
  ⟨declarations_source _, Declaration.cut?_eq_none_iff.1 (cut?_declarations _)⟩

variable [Engine]

variable {registry : Registry}

theorem exists_nodesOf {ds : List Declaration} (h : ∀ d ∈ ds, ∃ node, d.node registry = .ok node) :
    ∃ nodes, nodesOf registry ds = .ok nodes := by
  induction ds with
  | nil => exact ⟨[], rfl⟩
  | cons d ds ih =>
    obtain ⟨⟨node, hnode⟩, hds⟩ := List.forall_mem_cons.1 h
    obtain ⟨nodes, hnodes⟩ := ih hds
    exact ⟨(d.name, node) :: nodes, by rw [nodesOf, hnode, hnodes]; rfl⟩

def unclosedError (rest : List Char) : Error :=
  .reading .node (String.ofList (Text.trim rest)) (.declarationSyntax (String.ofList (Text.trim rest)) .unclosed)

/-- Reading good declarations depends on the parentheses in the rest. -/
theorem declaredNodes_eq {block : List Char} {nodes : List (String × Node)}
    (h : nodesOf registry (declarations block).1 = .ok nodes) :
    declaredNodes registry block =
      if isUnclosed (declarations block).2 then .error (unclosedError (declarations block).2)
      else .ok (.ofList nodes) := by
  simp only [declaredNodes, h, unclosedError]

theorem readLines_eq {lines : List (List Char)} {title description pipeline : String}
    (htitle : tagValue titleTag lines = .ok title)
    (hdescription : tagValue descriptionTag lines = .ok description)
    (hpipeline : tagValue pipelineTag lines = .ok pipeline) :
    readLines registry lines = (declaredNodes registry (declarationBlock lines)).bind fun declared =>
      (pipelineEntries pipeline).foldlM (addEntry declared) (.empty title description) := by
  simp only [readLines, htitle, hdescription, hpipeline]
  rfl

theorem entries_of_readLines {lines : List (List Char)} {g : Graph} (h : readLines registry lines = .ok g) :
    ∃ (title description pipeline : String) (declared : Dict Node),
      tagValue pipelineTag lines = .ok pipeline ∧
        declaredNodes registry (declarationBlock lines) = .ok declared ∧
        (pipelineEntries pipeline).foldlM (addEntry declared) (.empty title description) = .ok g := by
  cases htitle : tagValue titleTag lines with
  | error e =>
    rw [readLines, htitle] at h
    cases h
  | ok title =>
  cases hdescription : tagValue descriptionTag lines with
  | error e =>
    rw [readLines, htitle, hdescription] at h
    cases h
  | ok description =>
  cases hpipeline : tagValue pipelineTag lines with
  | error e =>
    rw [readLines, htitle, hdescription, hpipeline] at h
    cases h
  | ok pipeline =>
  rw [readLines_eq htitle hdescription hpipeline] at h
  cases hdeclared : declaredNodes registry (declarationBlock lines) with
  | error e =>
    rw [hdeclared] at h
    cases h
  | ok declared =>
    rw [hdeclared] at h
    exact ⟨title, description, pipeline, declared, rfl, rfl, h⟩

theorem foldlM_of_readLines {lines : List (List Char)} {g : Graph} (h : readLines registry lines = .ok g) :
    ∃ (title description pipeline : String) (declared : Dict Node),
      declaredNodes registry (declarationBlock lines) = .ok declared ∧
        (pipelineEntries pipeline).foldlM (addEntry declared) (.empty title description) = .ok g := by
  obtain ⟨title, description, pipeline, declared, -, hdeclared, hfold⟩ := entries_of_readLines h
  exact ⟨title, description, pipeline, declared, hdeclared, hfold⟩

theorem readLines_of_ofManifest {manifest : String} {g : Graph}
    (h : Graph.ofManifest registry manifest = .ok g) : readLines registry (Text.lines manifest.toList) = .ok g := by
  unfold Graph.ofManifest at h
  cases hread : readLines registry (Text.lines manifest.toList) with
  | error e =>
    rw [hread] at h
    cases h
  | ok g₁ =>
    rw [hread] at h
    cases h
    rfl

end RecordFlow.Manifest

namespace RecordFlow.Graph

open Manifest

section

variable [Engine]

variable {registry : Registry} {manifest : String}

/-- With all tags and good declarations, the result depends on the rest and the pipeline. -/
theorem ofManifest_eq
    (htags : ∀ tag ∈ reservedTags, ∃ value, tagValue tag (Text.lines manifest.toList) = .ok value)
    (hnodes : ∀ d ∈ consumed manifest, ∃ node, d.node registry = .ok node) :
    ∃ (title description : String) (entries : List String) (declared : Dict Node),
      ofManifest registry manifest = Except.mapError (.reading .graph manifest)
        (if isUnclosed (leftOver manifest) then .error (unclosedError (leftOver manifest))
        else entries.foldlM (addEntry declared) (.empty title description)) := by
  obtain ⟨title, htitle⟩ := htags titleTag (by simp [reservedTags])
  obtain ⟨description, hdescription⟩ := htags descriptionTag (by simp [reservedTags])
  obtain ⟨pipeline, hpipeline⟩ := htags pipelineTag (by simp [reservedTags])
  obtain ⟨nodes, hnodes⟩ := exists_nodesOf hnodes
  have hdeclared : declaredNodes registry (declarationBlock (Text.lines manifest.toList)) =
      if isUnclosed (leftOver manifest) then .error (unclosedError (leftOver manifest))
      else .ok (.ofList nodes) := declaredNodes_eq hnodes
  refine ⟨title, description, pipelineEntries pipeline, .ofList nodes, ?_⟩
  rw [ofManifest, readLines_eq htitle hdescription hpipeline, hdeclared]
  split <;> rfl

/-- With all tags and good declarations, a manifest is refused for the syntax of a declaration if and
only if both an opening and a closing parenthesis are left over. A declaration that is opened and
never closed is thus passed over if no closing parenthesis stands anywhere in the rest. -/
theorem ofManifest_declarationSyntax_iff
    (htags : ∀ tag ∈ reservedTags, ∃ value, tagValue tag (Text.lines manifest.toList) = .ok value)
    (hnodes : ∀ d ∈ consumed manifest, ∃ node, d.node registry = .ok node) :
    (∃ e fragment fault, ofManifest registry manifest = .error e ∧
        e.rootCause = .declarationSyntax fragment fault) ↔
      '(' ∈ leftOver manifest ∧ ')' ∈ leftOver manifest := by
  obtain ⟨title, description, entries, declared, heq⟩ := ofManifest_eq htags hnodes
  rw [← isUnclosed_iff, heq]
  split
  · next hrest => exact iff_of_true ⟨_, _, _, rfl, rfl⟩ hrest
  · next hrest =>
    refine iff_of_false ?_ hrest
    rintro ⟨e, fragment, fault, herror, hcause⟩
    rcases (drawnFrom_empty declared title description).foldlM_addEntry entries with
      ⟨g, hfold, -⟩ | ⟨name, -, -, -, hfold⟩
    · rw [hfold] at herror
      cases herror
    · rw [hfold] at herror
      cases herror
      cases hcause

end

open scoped Regex

/-- The declaration is opened and not closed, and the manifest is read without it. -/
theorem ofManifest_open_declaration :
    let manifest := "TITLE: T\nDESCRIPTION: D\nPIPELINE: [none]\nn1(\n  type: \"Limit\""
    '(' ∈ leftOver manifest ∧ (∃ g, ofManifest .standard manifest = .ok g) ∧
      ¬ ∃ e fragment fault, ofManifest .standard manifest = .error e ∧
        e.rootCause = .declarationSyntax fragment fault := by
  intro manifest
  have hlines : Text.lines manifest.toList = ["TITLE: T".toList, "DESCRIPTION: D".toList,
      "PIPELINE: [none]".toList, "n1(".toList, "  type: \"Limit\"".toList] := by decide +kernel
  have htags : ∀ tag ∈ reservedTags, ∃ value, tagValue tag (Text.lines manifest.toList) = .ok value := by
    simp only [reservedTags, List.forall_mem_cons, hlines]
    exact ⟨⟨"T", rfl⟩, ⟨"D", rfl⟩, ⟨"[none]", rfl⟩, by simp⟩
  have hcut : declarations (declarationBlock (Text.lines manifest.toList)) =
      ([], "n1(\n  type: \"Limit\"".toList) := by rw [hlines]; decide +kernel
  have hconsumed : consumed manifest = [] := congrArg Prod.fst hcut
  have hleft : leftOver manifest = "n1(\n  type: \"Limit\"".toList := congrArg Prod.snd hcut
  have hopening : '(' ∈ leftOver manifest := by rw [hleft]; decide
  have hclosing : ')' ∉ leftOver manifest := by rw [hleft]; decide
  have hnodes : ∀ d ∈ consumed manifest, ∃ node, d.node .standard = .ok node := by simp [hconsumed]
  have hok : (ofManifest .standard manifest).isOk := by decide +kernel
  refine ⟨hopening, ?_, fun h => hclosing ((ofManifest_declarationSyntax_iff htags hnodes).1 h).2⟩
  cases hread : ofManifest .standard manifest with
  | error e => rw [hread] at hok; cases hok
  | ok g => exact ⟨g, rfl⟩

end RecordFlow.Graph
