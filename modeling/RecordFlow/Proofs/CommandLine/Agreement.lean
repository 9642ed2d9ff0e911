import RecordFlow.CommandLine.Session
import RecordFlow.Proofs.Graph.Composition
import RecordFlow.Proofs.Manifest.Nodes
import RecordFlow.Proofs.Operator.Values
import RecordFlow.Proofs.Resource.RoundTrip
import RecordFlow.Proofs.Resource.Wrapping
import RecordFlow.Regex.Engine

/-! # Sessions and the library

A session in a world that stays as it is comes to the calls of the library that one would
make by hand: load the settings, read the manifest, decode the input, run the pipeline. The
first call that fails ends the session. What a session prints is the result of the run. It is read
back as that result as far as its numbers are, since a result holds only values that were read or
that operators write.
-/

namespace RecordFlow.CommandLine

section

variable {σ : Type}

def typeIn (fields : Toml.Fields) : Option String :=
  match fields.lookup "default_resource_type" with
  | some (.string type) => some type
  | _ => none

def valueAt {α : Type} (step : Step) (x : Option α) : Except Step α := x.elim (.error step) .ok

theorem valueAt_some {α : Type} (step : Step) (x : α) : valueAt step (some x) = .ok x := rfl

theorem valueAt_eq_ok_iff {α : Type} {step : Step} {x : Option α} {y : α} :
    valueAt step x = .ok y ↔ x = some y := by
  cases x <;> simp [valueAt]

/-- What surrounds a session, if nothing of it changes while the session runs. -/
structure World where
  fileText : String → Option String
  inputText : Option String
  variableValue : String → Option String

namespace World

def surroundings (w : World) (clock : StateM σ Nat) : Surroundings (StateM σ) where
  fileText path := pure (w.fileText path)
  inputText := pure w.inputText
  variableValue name := pure (w.variableValue name)
  clock

def variablesSet (w : World) : Settings.Variables where
  logFilter := w.variableValue "MAPAGG_LOG"
  jsonLogs := w.variableValue "MAPAGG_JSON_LOGS"
  benchmark := w.variableValue "MAPAGG_BENCHMARK"
  resourceType := w.variableValue "MAPAGG_RESOURCE_TYPE"

def configuredType (w : World) (a : Arguments) : Option String := do
  let path ← a.config
  let text ← w.fileText path
  typeIn (← Toml.ofText? text)

/-- The type of a raw object: that of the option, else that of the environment, else that of the file of
settings, else the built-in one. -/
def resourceType (w : World) (a : Arguments) : String :=
  (a.resourceType <|> w.variableValue "MAPAGG_RESOURCE_TYPE" <|> w.configuredType a).getD "generic"

def input (w : World) (a : Arguments) : Except Step String :=
  match a.input with
  | some path => valueAt (.readInput path) (w.fileText path)
  | none => valueAt .readStandardInput w.inputText

end World

variable {w : World} {clock : StateM σ Nat} {a : Arguments}

theorem readAt_eq (step : Step) (text : Option String) :
    readAt (m := StateM σ) step (pure text) = .mk (pure (valueAt step text)) := by
  cases text <;> rfl

theorem loadInput_eq : loadInput (w.surroundings clock) a = .mk (pure (w.input a)) := by
  unfold loadInput World.input
  cases a.input with
  | none => exact readAt_eq _ _
  | some path => exact readAt_eq _ _

theorem configuredType_eq {path text : String} {fields : Toml.Fields} (hpath : a.config = some path)
    (htext : w.fileText path = some text) (hfields : Toml.ofText? text = some fields) :
    w.configuredType a = typeIn fields := by
  simp [World.configuredType, hpath, htext, hfields]

theorem ok_bind {α β : Type} (x : α) (f : α → Except Step β) : (Except.ok x >>= f) = f x := rfl

theorem lifted_ok_bind {α β : Type} (x : α) (f : α → ExceptT Step (StateM σ) β) :
    (ExceptT.mk (pure (.ok x)) >>= f) = f x := rfl

def Outcome.ofSession : Except Step (Benchmark × Bool) → Outcome
  | .error step => .failed step
  | .ok (b, timed) => .completed b timed

theorem run_report (x : StateM σ (Except Step Outcome)) (s : σ) :
    ((do match ← x with
      | .ok outcome => pure outcome
      | .error step => pure (.failed step) : StateM σ Outcome).run s).1 =
      match (x.run s).1 with
        | .ok outcome => outcome
        | .error step => .failed step := by
  have hrun : (do match ← x with
      | .ok outcome => pure outcome
      | .error step => pure (.failed step) : StateM σ Outcome).run s =
        (match (x.run s).1 with
          | .ok outcome => pure outcome
          | .error step => pure (.failed step) : StateM σ Outcome).run (x.run s).2 := rfl
  rw [hrun]
  cases (x.run s).1 <;> rfl

variable [Engine]

/-- The result of a call of the library, or the end of a session at a step. -/
def resultAt {α : Type} (step : Step) (x : Except Error α) : Except Step α := x.mapError fun _ => step

theorem resultAt_ok {α : Type} (step : Step) (x : α) : resultAt step (.ok x) = .ok x := rfl

theorem resultAt_eq_ok_iff {α : Type} {step : Step} {x : Except Error α} {y : α} :
    resultAt step x = .ok y ↔ x = .ok y := by
  cases x <;> simp [resultAt, Except.mapError]

namespace World

def settings (w : World) (a : Arguments) : Except Error Settings :=
  Settings.load (a.config.map fun path => ⟨path, w.fileText path⟩) w.variablesSet

def graph (w : World) (path : String) : Except Step Graph := do
  let manifest ← valueAt (.readManifest path) (w.fileText path)
  resultAt (.parseManifest path) (Graph.ofManifest .standard manifest)

def decode (w : World) (a : Arguments) (input : String) : Except Step Resource :=
  match a.itemsKey with
  | some key => do
    let value ← valueAt .parseJson (Json.ofText? input)
    resultAt .wrapInput (Resource.wrap value (w.resourceType a) key)
  | none => resultAt .parseResource (Resource.ofText input)

/-- What a session comes to: calls of the library, in this order, up to the first one that fails. -/
def session (w : World) (a : Arguments) (clock : StateM σ Nat) (s : σ) : Except Step (Benchmark × Bool) := do
  let settings ← resultAt .loadSettings (w.settings a)
  let path ← valueAt .findManifest a.manifest
  let g ← w.graph path
  let input ← w.input a
  let r ← w.decode a input
  let b ← resultAt (.run g.title) ((g.benchmark clock r).run s).1
  return (b, a.benchmark || settings.benchmark)

end World

theorem atStep_eq {α : Type} (step : Step) (x : Except Error α) :
    atStep (m := StateM σ) step x = .mk (pure (resultAt step x)) := by
  cases x <;> rfl

theorem loadSettings_eq :
    loadSettings (w.surroundings clock) a = .mk (pure (resultAt .loadSettings (w.settings a))) := by
  rw [← atStep_eq]
  unfold loadSettings World.settings
  cases a.config <;> rfl

theorem loadGraph_eq (path : String) : loadGraph (w.surroundings clock) path = .mk (pure (w.graph path)) := by
  unfold loadGraph World.graph
  rw [show (w.surroundings clock).fileText path = pure (w.fileText path) from rfl, readAt_eq]
  cases w.fileText path with
  | none => rfl
  | some manifest => exact atStep_eq _ _

theorem resourceType_of_ofText {text : String} {fields : Toml.Fields} {settings : Settings}
    (hfields : Toml.ofText? text = some fields) (h : Settings.ofText text = .ok settings) :
    settings.resourceType = (typeIn fields).getD "generic" := by
  have hsettings : Settings.ofFields? fields = some settings := by
    unfold Settings.ofText at h
    rw [hfields, Option.bind_some] at h
    split at h
    · next hsome => rwa [Except.ok.inj h] at hsome
    · cases h
  obtain ⟨_, -, hsettings⟩ := Option.bind_eq_some_iff.1 hsettings
  obtain ⟨_, -, hsettings⟩ := Option.bind_eq_some_iff.1 hsettings
  obtain ⟨_, -, hsettings⟩ := Option.bind_eq_some_iff.1 hsettings
  obtain ⟨type, htype, ⟨⟩⟩ := Option.bind_eq_some_iff.1 hsettings
  unfold Settings.stringField? at htype
  unfold typeIn
  split at htype
  · next hlookup =>
    rw [hlookup]
    exact (Option.some.inj htype).symm
  · next hlookup =>
    rw [hlookup]
    exact (Option.some.inj htype).symm
  · cases htype

theorem resourceType_eq {settings : Settings} (h : w.settings a = .ok settings) :
    a.resourceType.getD settings.resourceType = w.resourceType a := by
  have hfile : settings.resourceType =
      (w.variableValue "MAPAGG_RESOURCE_TYPE").getD ((w.configuredType a).getD "generic") := by
    unfold World.settings at h
    cases hpath : a.config with
    | none =>
      rw [hpath] at h
      cases h
      simp [World.configuredType, hpath, Settings.overwrite, Settings.default, World.variablesSet]
    | some path =>
      rw [hpath] at h
      obtain ⟨s, hs, rfl⟩ := Literal.map_eq_ok h
      unfold Settings.ofFile at hs
      dsimp only at hs
      split at hs
      · next text htext =>
        cases hfields : Toml.ofText? text with
        | none => simp [Settings.ofText, hfields] at hs
        | some fields =>
          rw [configuredType_eq hpath htext hfields, ← resourceType_of_ofText hfields hs]
          rfl
      · cases hs
  rw [hfile]
  unfold World.resourceType
  cases a.resourceType <;> cases w.variableValue "MAPAGG_RESOURCE_TYPE" <;> rfl

theorem decodeInput_eq {settings : Settings} (h : w.settings a = .ok settings) (input : String) :
    decodeInput (m := StateM σ) settings a input = .mk (pure (w.decode a input)) := by
  unfold decodeInput World.decode
  rw [resourceType_eq h]
  cases a.itemsKey with
  | none => exact atStep_eq _ _
  | some key =>
    cases Json.ofText? input with
    | none => rfl
    | some value => exact atStep_eq _ _

/-- The stages never fail as effects, so it makes no difference that a session could end within them. -/
theorem timeStages_lift (g : Graph) (overrides : Dict Parameters) (names : List String) (r : Resource) :
    g.timeStages overrides (liftM clock : ExceptT Step (StateM σ) Nat) names r =
      liftM (g.timeStages overrides clock names r) := by
  induction names generalizing r with
  | nil => rfl
  | cons name names ih =>
    unfold Graph.timeStages
    cases g.runStage overrides name r with
    | error e => rfl
    | ok r' =>
      simp only [ih]
      rfl

theorem run_atStep {α β : Type} (x : StateM σ (Except Error α)) (step : Step) (f : α → β) (s : σ) :
    ((do let y ← atStep step (← liftM x); pure (f y) : ExceptT Step (StateM σ) β).run.run s).1 =
      (resultAt step (x.run s).1).map f := by
  have hrun : ((do let y ← atStep step (← liftM x); pure (f y) : ExceptT Step (StateM σ) β).run.run s) =
      (((do let y ← atStep step (x.run s).1; pure (f y) : ExceptT Step (StateM σ) β)).run.run (x.run s).2) := rfl
  rw [hrun]
  cases (x.run s).1 <;> rfl

/-- Each call fails on both sides, which ends them, or gives both the same value to go on with. -/
theorem perform_eq (hlist : a.listNodes = false) (s : σ) :
    ((perform (w.surroundings clock) a).run.run s).1 =
      (w.session a clock s).map fun (b, timed) => .completed b timed := by
  unfold perform World.session
  rw [loadSettings_eq, hlist]
  cases hsettings : w.settings a with
  | error e => rfl
  | ok settings =>
  simp only [resultAt_ok, ok_bind, lifted_ok_bind, Bool.false_eq_true, if_false, loadGraph_eq, loadInput_eq,
    decodeInput_eq hsettings]
  cases a.manifest with
  | none => rfl
  | some path =>
  simp only [valueAt_some, ok_bind]
  cases w.graph path with
  | error step => rfl
  | ok g =>
  simp only [ok_bind, lifted_ok_bind]
  cases w.input a with
  | error step => rfl
  | ok input =>
  simp only [ok_bind, lifted_ok_bind]
  cases w.decode a input with
  | error step => rfl
  | ok r =>
  simp only [ok_bind, lifted_ok_bind, Graph.benchmark, Graph.benchmarkWith]
  rw [show liftM (w.surroundings clock).clock = (liftM clock : ExceptT Step (StateM σ) Nat) from rfl, timeStages_lift]
  rw [run_atStep (g.timeStages .empty clock g.pipeline r) (.run g.title)
    (fun b => Outcome.completed b (a.benchmark || settings.benchmark)) s]
  cases ((g.timeStages .empty clock g.pipeline r).run s).1 <;> rfl

theorem respond_eq {arguments : List String} (hread : Arguments.read arguments = .ok a)
    (hlist : a.listNodes = false) (s : σ) :
    ((respond (w.surroundings clock) arguments).run s).1 = .ofSession (w.session a clock s) := by
  unfold respond
  rw [hread]
  refine (run_report _ s).trans ?_
  rw [perform_eq hlist s]
  cases w.session a clock s <;> rfl

/-- A session comes to a result if and only if all its calls succeed. -/
theorem session_eq_ok_iff {s : σ} {b : Benchmark} {timed : Bool} :
    w.session a clock s = .ok (b, timed) ↔ ∃ settings path manifest g input r,
      w.settings a = .ok settings ∧ a.manifest = some path ∧ w.fileText path = some manifest ∧
      Graph.ofManifest .standard manifest = .ok g ∧ w.input a = .ok input ∧ w.decode a input = .ok r ∧
      ((g.benchmark clock r).run s).1 = .ok b ∧ timed = (a.benchmark || settings.benchmark) := by
  constructor
  · intro h
    obtain ⟨settings, hsettings, h⟩ := bind_eq_ok_iff.1 h
    obtain ⟨path, hpath, h⟩ := bind_eq_ok_iff.1 h
    obtain ⟨g, hg, h⟩ := bind_eq_ok_iff.1 h
    obtain ⟨input, hinput, h⟩ := bind_eq_ok_iff.1 h
    obtain ⟨r, hr, h⟩ := bind_eq_ok_iff.1 h
    obtain ⟨b', hb, ⟨⟩⟩ := bind_eq_ok_iff.1 h
    obtain ⟨manifest, hmanifest, hg⟩ := bind_eq_ok_iff.1 hg
    exact ⟨settings, path, manifest, g, input, r, resultAt_eq_ok_iff.1 hsettings, valueAt_eq_ok_iff.1 hpath,
      valueAt_eq_ok_iff.1 hmanifest, resultAt_eq_ok_iff.1 hg, hinput, hr, resultAt_eq_ok_iff.1 hb, rfl⟩
  · rintro ⟨settings, path, manifest, g, input, r, hsettings, hpath, hmanifest, hg, hinput, hr, hb, rfl⟩
    simp only [World.session, World.graph, hsettings, hpath, hmanifest, hg, hinput, hr, hb, resultAt_ok, valueAt_some,
      ok_bind]
    rfl

theorem ordered_of_decode {input : String} {r : Resource} (h : w.decode a input = .ok r) : r.Ordered := by
  unfold World.decode at h
  split at h
  · obtain ⟨value, hvalue, h⟩ := bind_eq_ok_iff.1 h
    exact Resource.ordered_of_wrap (Json.ordered_of_ofText? (valueAt_eq_ok_iff.1 hvalue)) (resultAt_eq_ok_iff.1 h)
  · exact Resource.ordered_of_ofText (resultAt_eq_ok_iff.1 h)

/-- What a session prints is read back as the result of the run, but for numbers that are not read back. -/
theorem ofText_output_iff {s : σ} {b : Benchmark} {timed : Bool} (h : w.session a clock s = .ok (b, timed))
    (hdepth : b.result.toJson.depth < 128) :
    Resource.ofText (Outcome.completed b timed).output = .ok b.result ↔ b.result.ReadsBack := by
  obtain ⟨settings, path, manifest, g, input, r, -, -, -, hg, -, hr, hb, -⟩ := session_eq_ok_iff.1 h
  have hexecute : g.execute .empty r = .ok b.result := by
    rw [← Graph.result_benchmarkWith_eq_execute g .empty clock r s]
    exact congrArg (Except.map (·.result)) hb
  have hordered : b.result.Ordered :=
    (Graph.ofOperators_of_ofManifest hg).ordered_execute (ordered_of_decode hr) hexecute
  have hread := Resource.ofText_write .indented hordered (Nat.le_of_lt_succ hdepth)
    (List.forall_mem_singleton.2 (by decide : Json.isSpace '\n' = true))
  rw [Json.write_indented, String.ofList_append] at hread
  rw [← Resource.reread?_eq_self_iff, Outcome.output, Json.indented]
  refine (Eq.congr_left hread).trans ?_
  cases b.result.reread? <;> simp

namespace World

def untypedSettings (w : World) (path : String) : Option Settings := do
  let text ← w.fileText path
  let settings ← (Settings.ofText text).toOption
  return { settings with resourceType := "" }

/-- Two worlds that are the same for a session, but for the type of raw objects that the environment and
the file of settings give. -/
structure SameButType (w w' : World) (a : Arguments) : Prop where
  manifest : ∀ path, a.manifest = some path → w'.fileText path = w.fileText path
  input : w'.input a = w.input a
  file : ∀ path, a.config = some path → w'.untypedSettings path = w.untypedSettings path
  environment : ∀ name, name ≠ "MAPAGG_RESOURCE_TYPE" → w'.variableValue name = w.variableValue name

variable {w' : World}

/-- Whether times are asked for in the settings, if they can be loaded. -/
def timed (w : World) (a : Arguments) : Option Bool := (w.settings a).toOption.map (·.benchmark)

theorem timed_of_config {path : String} (h : a.config = some path) :
    w.timed a = (w.untypedSettings path).map fun settings =>
      ((w.variableValue "MAPAGG_BENCHMARK").bind Settings.booleanOfText?).getD settings.benchmark := by
  unfold timed settings untypedSettings
  rw [h]
  cases htext : w.fileText path with
  | none => simp [Settings.load, Settings.ofFile, htext, Except.toOption, Except.map]
  | some text =>
    cases hread : Settings.ofText text with
    | error e => simp [Settings.load, Settings.ofFile, htext, hread, Except.toOption, Except.map]
    | ok settings =>
      simp [Settings.load, Settings.ofFile, htext, hread, Except.toOption, Except.map, Settings.overwrite, variablesSet]

theorem SameButType.timed_eq (h : w.SameButType w' a) : w'.timed a = w.timed a := by
  have henvironment := h.environment "MAPAGG_BENCHMARK" (by decide)
  cases hpath : a.config with
  | some path => rw [timed_of_config hpath, timed_of_config hpath, h.file path hpath, henvironment]
  | none =>
    unfold timed settings
    rw [hpath]
    show some _ = some _
    simp [Settings.overwrite, variablesSet, henvironment]

theorem SameButType.session_eq (h : w.SameButType w' a) (hkey : a.itemsKey = none) (type : Option String) (s : σ) :
    w'.session { a with resourceType := type } clock s = w.session a clock s := by
  have htimed := h.timed_eq
  unfold timed at htimed
  have hgraph (path : String) (hpath : a.manifest = some path) : w'.graph path = w.graph path := by
    rw [graph, graph, h.manifest path hpath]
  have hinput : w'.input { a with resourceType := type } = w.input a := h.input
  have hsettings : w'.settings { a with resourceType := type } = w'.settings a := rfl
  have hdecode (input : String) : w'.decode { a with resourceType := type } input = w.decode a input := by
    simp [decode, hkey]
  unfold session
  simp only [hinput, hdecode, hsettings]
  cases hw : w.settings a with
  | error e =>
    cases hw' : w'.settings a with
    | error e' => rfl
    | ok settings' => simp [hw, hw', Except.toOption] at htimed
  | ok settings =>
    cases hw' : w'.settings a with
    | error e' => simp [hw, hw', Except.toOption] at htimed
    | ok settings' =>
      have hbenchmark : settings'.benchmark = settings.benchmark := by
        simpa [hw, hw', Except.toOption] using htimed
      cases hpath : a.manifest with
      | none => rfl
      | some path => simp only [resultAt_ok, valueAt_some, ok_bind, hgraph path hpath, hbenchmark]

end World

/-- A session that is no listing succeeds exactly when the settings, the manifest, the input and the run all
succeed, in this order, and else reports the first of them that fails and prints nothing. It prints the result of the
run, whether times are asked for or not, and what it prints is read back as that result exactly if every floating
point number in it is. The type of a raw object is sought in four places; an input that is a resource depends on
none of them. -/
theorem respond_agrees {arguments : List String} {a : Arguments} (hread : Arguments.read arguments = .ok a)
    (hlist : a.listNodes = false) (w : World) (clock : StateM σ Nat) (s : σ) :
    let outcome := ((respond (w.surroundings clock) arguments).run s).1
    (outcome.exitCode = 0 ↔ ∃ b timed, outcome = .completed b timed) ∧
    (∀ b timed, outcome = .completed b timed ↔ ∃ settings path manifest g input r,
      w.settings a = .ok settings ∧ a.manifest = some path ∧ w.fileText path = some manifest ∧
      Graph.ofManifest .standard manifest = .ok g ∧ w.input a = .ok input ∧ w.decode a input = .ok r ∧
      ((g.benchmark clock r).run s).1 = .ok b ∧ timed = (a.benchmark || settings.benchmark)) ∧
    (∀ step, outcome = .failed step ↔ w.session a clock s = .error step) ∧
    (outcome.exitCode ≠ 0 → outcome.output = "") ∧
    (∀ b timed, outcome = .completed b timed → outcome.output = b.result.toJson.indented ++ "\n" ∧
      (b.result.toJson.depth < 128 → (Resource.ofText outcome.output = .ok b.result ↔ b.result.ReadsBack))) ∧
    (a.itemsKey = none → ∀ (w' : World) (arguments' : List String) (type : Option String),
      Arguments.read arguments' = .ok { a with resourceType := type } → w.SameButType w' a →
      ((respond (w'.surroundings clock) arguments').run s).1 = outcome) := by
  intro outcome
  have houtcome : outcome = .ofSession (w.session a clock s) := respond_eq hread hlist s
  have hcompleted (b : Benchmark) (timed : Bool) :
      outcome = .completed b timed ↔ w.session a clock s = .ok (b, timed) := by
    rw [houtcome]
    cases w.session a clock s <;> simp [Outcome.ofSession, Prod.ext_iff]
  refine ⟨?_, fun b timed => (hcompleted b timed).trans session_eq_ok_iff, fun step => ?_, ?_, ?_, ?_⟩
  · rw [houtcome]
    cases w.session a clock s <;> simp [Outcome.ofSession, Outcome.exitCode]
  · rw [houtcome]
    cases w.session a clock s <;> simp [Outcome.ofSession]
  · rw [houtcome]
    cases w.session a clock s <;> simp [Outcome.ofSession, Outcome.exitCode, Outcome.output]
  · intro b timed h
    rw [h]
    exact ⟨rfl, ofText_output_iff ((hcompleted b timed).1 h)⟩
  · intro hkey w' arguments' type hread' hsame
    rw [houtcome, ← hsame.session_eq hkey type s]
    exact respond_eq hread' hlist s

end

open scoped Regex

/-- A raw object whose type stands in the file of settings, with times asked for; and a resource, for which the
type of the environment and of the option does not matter. -/
theorem respond_agrees_typed :
    let manifest := "TITLE: T\nDESCRIPTION: D\nPIPELINE: few\nfew(\n  type: \"Limit\",\n  count: 1\n)\n"
    let files (path : String) : Option String :=
      if path = "m" then some manifest
      else if path = "c" then some "default_resource_type = \"event\""
      else if path = "r" then some "\x7b\"resourceType\": \"t\", \"data\": [\x7b\x7d, \x7b\x7d]\x7d"
      else none
    let w : World := ⟨files, some "\x7b\"items\": [\x7b\"x\": 1\x7d, \x7b\x7d], \"m\": 2\x7d", fun _ => none⟩
    let w' : World :=
      { w with variableValue := fun name => if name = "MAPAGG_RESOURCE_TYPE" then some "meeting" else none }
    let clock : StateM Nat Nat := fun s => (s, s + 1)
    let answer (w : World) (arguments : List String) := ((respond (w.surroundings clock) arguments).run 0).1
    let raw := ["-b", "--items-key=items", "-c", "c", "m"]
    (Arguments.read raw = .ok ⟨0, some "c", false, true, none, some "items", some "m", none⟩ ∧
      ∃ b timed, answer w raw = .completed b timed ∧ b.result.toJson.depth < 128 ∧ b.result.ReadsBack ∧
        Resource.ofText (answer w raw).output = .ok b.result ∧ b.result.resourceType = "event") ∧
    Arguments.read ["m", "r"] = .ok ⟨0, none, false, false, none, none, some "m", some "r"⟩ ∧
      (answer w ["m", "r"]).exitCode = 0 ∧
      answer w' ["m", "r", "--resource-type", "call"] = answer w ["m", "r"] := by
  intro manifest files w w' clock answer raw
  have hraw : Arguments.read raw = .ok ⟨0, some "c", false, true, none, some "items", some "m", none⟩ := by
    decide +kernel
  have hread : Arguments.read ["m", "r"] = .ok ⟨0, none, false, false, none, none, some "m", some "r"⟩ := by
    decide +kernel
  obtain ⟨hcode, -, -, -, houtput, -⟩ := respond_agrees hraw rfl w clock 0
  obtain ⟨-, -, -, -, -, htype⟩ := respond_agrees hread rfl w clock 0
  refine ⟨⟨hraw, ?_⟩, hread, by decide +kernel, ?_⟩
  · obtain ⟨b, timed, hb⟩ := hcode.1 (by decide +kernel)
    let holds : Outcome → Bool
      | .completed b _ => decide (b.result.toJson.depth < 128 ∧ b.result.resourceType = "event" ∧
          ∀ n ∈ b.result.toJson.numbers, n.reread? Json.NumberText.toNumber? = some n)
      | _ => false
    have hholds : holds (answer w raw) = true := by decide +kernel
    rw [show answer w raw = .completed b timed from hb] at hholds
    obtain ⟨hdepth, htype, hreread⟩ := of_decide_eq_true hholds
    have hread : b.result.ReadsBack := fun x finite hx => Json.Number.readsBack_iff.2 (hreread _ hx)
    exact ⟨b, timed, hb, hdepth, hread, ((houtput b timed hb).2 hdepth).2 hread, htype⟩
  · refine htype rfl w' _ (some "call") (by decide +kernel) ⟨fun _ _ => rfl, rfl, nofun, fun name hname => ?_⟩
    exact if_neg hname

/-- The average of 0.1 and 0.7 is printed as 0.39999999999999997, which is read as 0.4. -/
theorem respond_average_unread :
    let manifest := "TITLE: T\nDESCRIPTION: D\nPIPELINE: mean\nmean(\n  type: \"Aggregate\",\n" ++
      "  operation: \"average\"\n)\n"
    let input := "\x7b\"resourceType\":\"t\",\"data\":[\x7b\"contentValue\":0.1\x7d,\x7b\"contentValue\":0.7\x7d]\x7d"
    let w : World := ⟨fun path => if path = "m" then some manifest else none, some input, fun _ => none⟩
    let clock : StateM Nat Nat := fun s => (s, s + 1)
    let outcome := ((respond (w.surroundings clock) ["m"]).run 0).1
    Arguments.read ["m"] = .ok ⟨0, none, false, false, none, none, some "m", none⟩ ∧
      ∃ b timed, outcome = .completed b timed ∧ b.result.toJson.depth < 128 ∧
        Resource.ofText outcome.output ≠ .ok b.result := by
  intro manifest input w clock outcome
  have hread : Arguments.read ["m"] = .ok ⟨0, none, false, false, none, none, some "m", none⟩ := by decide +kernel
  refine ⟨hread, ?_⟩
  have houtcome : outcome = .ofSession (w.session _ clock 0) := respond_eq hread rfl 0
  let holds : Outcome → Bool
    | .completed b _ => decide (b.result.toJson.depth < 128 ∧
        ¬ ∀ n ∈ b.result.toJson.numbers, n.reread? Json.NumberText.toNumber? = some n)
    | _ => false
  have hholds : holds outcome = true := by decide +kernel
  cases hsession : w.session ⟨0, none, false, false, none, none, some "m", none⟩ clock 0 with
  | error step =>
    rw [houtcome, hsession] at hholds
    cases hholds
  | ok result =>
    obtain ⟨b, timed⟩ := result
    rw [hsession] at houtcome
    rw [houtcome] at hholds
    obtain ⟨hdepth, hreread⟩ := of_decide_eq_true hholds
    refine ⟨b, timed, houtcome, hdepth, fun houtput => hreread fun n hn => ?_⟩
    rw [houtcome] at houtput
    have hread := Resource.readsBack_iff_numbers.1 ((ofText_output_iff hsession hdepth).1 houtput)
    exact Json.Number.readsBack_iff.1 (hread n hn)

end RecordFlow.CommandLine
