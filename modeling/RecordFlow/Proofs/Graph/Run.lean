import RecordFlow.Graph.Benchmark
import RecordFlow.Literal.Reader

/-! # Runs

A run of one pipeline after another is the run of both. It fails where one of its
stages fails, and with the error of that stage. A timed run is the same run, whatever
the clock shows.
-/

namespace RecordFlow

/-- The run `a` and, from its result on, the run `b`. -/
def Run.andThen (a b : Run) : Run := ⟨b.result, a.stages ++ b.stages⟩

def Benchmark.andThen (a b : Benchmark) : Benchmark := ⟨b.result, a.performance ++ b.performance⟩

namespace Graph

variable [Engine]

variable {g : Graph} {overrides : Dict Parameters} {name : String} {names more : List String}
  {r r' : Resource} {e : Error}

theorem runStages_cons_ok (h : g.runStage overrides name r = .ok r') (names : List String) :
    g.runStages overrides (name :: names) r =
      (g.runStages overrides names r').map (Run.andThen ⟨r', [⟨name, r.size⟩]⟩) := by
  rw [runStages, h]
  rfl

theorem runStages_cons_error (h : g.runStage overrides name r = .error e) (names : List String) :
    g.runStages overrides (name :: names) r = .error e := by
  rw [runStages, h]

theorem runStages_cons_eq_ok {run : Run} (h : g.runStages overrides (name :: names) r = .ok run) :
    ∃ r' rest, g.runStage overrides name r = .ok r' ∧ g.runStages overrides names r' = .ok rest ∧
      run = Run.andThen ⟨r', [⟨name, r.size⟩]⟩ rest := by
  cases hstage : g.runStage overrides name r with
  | error e =>
    rw [runStages_cons_error hstage] at h
    cases h
  | ok r' =>
    rw [runStages_cons_ok hstage] at h
    obtain ⟨rest, hrest, rfl⟩ := Literal.map_eq_ok h
    exact ⟨r', rest, rfl, hrest, rfl⟩

theorem runStages_congr {g' : Graph} {overrides' : Dict Parameters}
    (h : ∀ name ∈ names, ∀ r, g'.runStage overrides' name r = g.runStage overrides name r) (r : Resource) :
    g'.runStages overrides' names r = g.runStages overrides names r := by
  induction names generalizing r with
  | nil => rfl
  | cons name names ih =>
    obtain ⟨hname, hnames⟩ := List.forall_mem_cons.1 h
    cases hstage : g.runStage overrides name r with
    | error e => rw [runStages_cons_error hstage, runStages_cons_error ((hname r).trans hstage)]
    | ok r' => rw [runStages_cons_ok hstage, runStages_cons_ok ((hname r).trans hstage), ih hnames]

theorem runStages_append (names more : List String) (r : Resource) :
    g.runStages overrides (names ++ more) r =
      (g.runStages overrides names r).bind fun a => (g.runStages overrides more a.result).map a.andThen := by
  induction names generalizing r with
  | nil =>
    show g.runStages overrides more r = (g.runStages overrides more r).map (Run.andThen ⟨r, []⟩)
    cases g.runStages overrides more r <;> rfl
  | cons name names ih =>
    rw [List.cons_append]
    cases hstage : g.runStage overrides name r with
    | error e =>
      rw [runStages_cons_error hstage, runStages_cons_error hstage]
      rfl
    | ok r' =>
      rw [runStages_cons_ok hstage, runStages_cons_ok hstage, ih]
      cases g.runStages overrides names r' with
      | error e => rfl
      | ok a =>
        show ((g.runStages overrides more a.result).map a.andThen).map _ =
          (g.runStages overrides more a.result).map _
        cases g.runStages overrides more a.result <;> rfl

theorem exists_of_runStages_error (h : g.runStages overrides names r = .error e) :
    ∃ name ∈ names, ∃ r', g.runStage overrides name r' = .error e := by
  induction names generalizing r with
  | nil => cases h
  | cons name names ih =>
    cases hstage : g.runStage overrides name r with
    | error e' =>
      rw [runStages_cons_error hstage] at h
      cases h
      exact ⟨name, List.mem_cons_self, r, hstage⟩
    | ok r' =>
      rw [runStages_cons_ok hstage] at h
      cases hrest : g.runStages overrides names r' with
      | error e' =>
        rw [hrest] at h
        cases h
        obtain ⟨later, hmem, hlater⟩ := ih hrest
        exact ⟨later, List.mem_cons_of_mem _ hmem, hlater⟩
      | ok run =>
        rw [hrest] at h
        cases h

section

variable {m : Type → Type} [Monad m] {clock : m Nat}

theorem timeStages_cons_ok (h : g.runStage overrides name r = .ok r') (names : List String) :
    g.timeStages overrides clock (name :: names) r = (do
      let start ← clock
      let stop ← clock
      let rest ← g.timeStages overrides clock names r'
      pure (rest.map (Benchmark.andThen ⟨r', [⟨name, stop - start, r.size⟩]⟩))) := by
  rw [timeStages, h]
  rfl

theorem timeStages_cons_error (h : g.runStage overrides name r = .error e) (names : List String) :
    g.timeStages overrides clock (name :: names) r = (do
      let _ ← clock
      pure (.error e)) := by
  rw [timeStages, h]

theorem timeStages_congr {g' : Graph} {overrides' : Dict Parameters} {names : List String}
    (h : ∀ name ∈ names, ∀ r, g'.runStage overrides' name r = g.runStage overrides name r) (r : Resource) :
    g'.timeStages overrides' clock names r = g.timeStages overrides clock names r := by
  induction names generalizing r with
  | nil => rfl
  | cons name names ih =>
    obtain ⟨hname, hnames⟩ := List.forall_mem_cons.1 h
    cases hstage : g.runStage overrides name r with
    | error e => rw [timeStages_cons_error hstage, timeStages_cons_error ((hname r).trans hstage)]
    | ok r' => rw [timeStages_cons_ok hstage, timeStages_cons_ok ((hname r).trans hstage), ih hnames]

theorem timeStages_append [LawfulMonad m] (names more : List String) (r : Resource) :
    g.timeStages overrides clock (names ++ more) r = (do
      match ← g.timeStages overrides clock names r with
      | .error e => pure (.error e)
      | .ok a =>
        let rest ← g.timeStages overrides clock more a.result
        pure (rest.map a.andThen)) := by
  induction names generalizing r with
  | nil =>
    have hself : Except.map (Benchmark.andThen ⟨r, []⟩) = (id : Except Error Benchmark → _) := by
      funext rest
      cases rest <;> rfl
    rw [timeStages, pure_bind]
    show g.timeStages overrides clock more r =
      (do pure ((← g.timeStages overrides clock more r).map (Benchmark.andThen ⟨r, []⟩)))
    rw [bind_pure_comp, hself, id_map]
  | cons name names ih =>
    rw [List.cons_append]
    cases hstage : g.runStage overrides name r with
    | error e =>
      rw [timeStages_cons_error hstage, timeStages_cons_error hstage, bind_assoc]
      simp only [pure_bind]
    | ok r' =>
      rw [timeStages_cons_ok hstage, timeStages_cons_ok hstage, ih]
      simp only [bind_assoc, pure_bind]
      refine bind_congr fun start => bind_congr fun stop => bind_congr fun first => ?_
      cases first with
      | error e => simp [Except.map]
      | ok a =>
        simp only [bind_assoc, pure_bind]
        refine bind_congr fun rest => ?_
        cases rest <;> rfl

theorem benchmarkWith_append [LawfulMonad m] {first second : List String}
    (h : g.pipeline = first ++ second) (r : Resource) :
    g.benchmarkWith overrides clock r = (do
      match ← { g with pipeline := first }.benchmarkWith overrides clock r with
      | .error e => pure (.error e)
      | .ok a =>
        let rest ← { g with pipeline := second }.benchmarkWith overrides clock a.result
        pure (rest.map a.andThen)) := by
  have hpart (part : List String) (r : Resource) :
      { g with pipeline := part }.benchmarkWith overrides clock r =
        g.timeStages overrides clock part r := by
    have hstage : ∀ name ∈ part, ∀ r, { g with pipeline := part }.runStage overrides name r =
        g.runStage overrides name r := fun _ _ _ => rfl
    exact timeStages_congr hstage r
  have hwhole : g.benchmarkWith overrides clock r = g.timeStages overrides clock (first ++ second) r := by
    rw [benchmarkWith, h]
  rw [hwhole, timeStages_append]
  simp only [hpart]

end

theorem map_run_andThen (a : Benchmark) (rest : Except Error Benchmark) :
    (rest.map a.andThen).map Benchmark.run = (rest.map Benchmark.run).map a.run.andThen := by
  cases rest with
  | error e => rfl
  | ok b => simp [Except.map, Benchmark.andThen, Run.andThen, Benchmark.run]

/-- Whatever the clock shows, a timed run without its times is the run. -/
theorem run_timeStages {σ : Type} (clock : StateM σ Nat) (names : List String) (r : Resource) (s : σ) :
    ((g.timeStages overrides clock names r).run s).1.map Benchmark.run =
      g.runStages overrides names r := by
  induction names generalizing r s with
  | nil => rfl
  | cons name names ih =>
    cases hstage : g.runStage overrides name r with
    | error e =>
      rw [timeStages_cons_error hstage, runStages_cons_error hstage]
      rfl
    | ok r' =>
      rw [timeStages_cons_ok hstage, runStages_cons_ok hstage, ← ih r' (clock.run (clock.run s).2).2]
      exact map_run_andThen _ _

end Graph

end RecordFlow
