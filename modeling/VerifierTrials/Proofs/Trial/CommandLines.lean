import VerifierTrials.Proofs.Path.Expansion
import VerifierTrials.Proofs.Trial.Notes
import VerifierTrials.Proofs.Trial.Progress

/-!
# The command lines that are recorded

A run is recorded with the arguments that it has been made ready with, and it is these that
its log begins with. What is started is their expansion (`Host.commandLine`). So the notes of
a benchmark are the recorded command lines, each of them expanded, and the two agree exactly
when expansion leaves each recorded word alone (`Trial.run_started`).
-/

namespace VerifierTrials.Trial

variable {σ : Type} {setup : Setup σ} {machine : Machine} {desk : Desk} {state : σ}

/-! ### Runs that are over -/

/-- **The runs of a benchmark that are over**, when it has come to its end or has been stopped
in one of its tests. -/
inductive Over (setup : Setup σ) (machine : Machine) (desk : Desk) (state : σ) :
    Except Failure Tally → List FinishedRun → Prop
  | ended {start final : Trial σ} {tests : List FinishedTest} {tally : Tally}
      (begun : Begun setup machine desk state start) (went : Went setup start tests final)
      (all : tests.map FinishedTest.test = setup.benchmark.tests) :
      Over setup machine desk state (.ok tally) (tests.flatMap FinishedTest.runs)
  | stopped {start middle final : Trial σ} {tests : List FinishedTest} {test : Test}
      {later : List Test} {runs : List FinishedRun} {cause : BenchmarkError}
      (begun : Begun setup machine desk state start) (went : Went setup start tests middle)
      (stopped : TestStopped setup (1 + tests.length) test runs cause middle final)
      (all : setup.benchmark.tests = tests.map FinishedTest.test ++ test :: later) :
      Over setup machine desk state (.error (.stopped cause))
        (tests.flatMap FinishedTest.runs ++ runs)

/-- A run that stops the benchmark has started its command line, or nothing at all. -/
theorem StopsAt.notes {test : Test} {item : WorkItem} {cause : BenchmarkError}
    {trial final : Trial (Noted σ)} (stops : StopsAt setup.noting test item cause trial final) :
    ∃ rest, final.state.notes = trial.state.notes ++ rest ∧ rest.length ≤ 1 := by
  obtain ⟨begun, beginning, failing⟩ := stops
  obtain ⟨prepared, made, state, preparing⟩ : ∃ prepared made state,
      readying setup test item begun.forget = (prepared, made, state) := ⟨_, _, _, rfl⟩
  cases prepared with
  | error failure =>
    have notes := notes_runItem_of_error preparing
    rw [failing, state_report beginning] at notes
    exact ⟨[], by simpa [stateAfter] using notes, by simp⟩
  | ok invocation =>
    have notes := notes_runItem_of_ok preparing
    rw [failing, state_report beginning] at notes
    exact ⟨_, notes, Host.length_started_le _ _⟩

theorem TestStopped.notes {number : Nat} {test : Test} {runs : List FinishedRun}
    {cause : BenchmarkError} {trial final : Trial (Noted σ)}
    (stopped : TestStopped setup.noting number test runs cause trial final) :
    ∃ rest, final.state.notes =
        trial.state.notes ++ (recorded runs).map (Host.commandLine setup.environment) ++ rest ∧
      rest.length ≤ 1 := by
  obtain ⟨opened, middle, item, rest, opening, ran, stops, -⟩ := stopped.course
  obtain ⟨last, notes, short⟩ := stops.notes
  have clocks : (afterClocks setup.noting trial).state.notes = trial.state.notes := rfl
  refine ⟨last, ?_, short⟩
  rw [notes, ran.notes, state_report opening, clocks]

/-- **The notes of a benchmark** that does not fail because of a report. -/
theorem notes_run {result : Except Failure Tally} {noted : Noted σ}
    (ran : (run setup.noting machine desk noted).tally = result)
    (reported : ∀ cause, result ≠ .error (.unreported cause)) :
    ∃ runs rest, Over setup.noting machine desk noted result runs ∧
      (run setup.noting machine desk noted).state.notes =
        noted.notes ++ (recorded runs).map (Host.commandLine setup.environment) ++ rest ∧
      rest.length ≤ 1 ∧ ∀ tally, result = .ok tally → rest = [] := by
  cases result with
  | ok tally =>
    obtain ⟨start, final, begun, tests, -, state_eq, -⟩ := run_ended ran
    obtain ⟨finished, all, -, went⟩ := runTests_went tests
    refine ⟨_, [], .ended begun went all, ?_, by simp, fun _ _ => rfl⟩
    rw [state_eq, went.notes, begun.notes, List.append_nil]
  | error failure =>
    cases failure with
    | unreported cause => exact absurd rfl (reported cause)
    | stopped cause =>
      obtain ⟨start, final, begun, tests, -, state_eq⟩ := run_halted ran
      obtain ⟨finished, test, later, runs, middle, all, -, went, stopped⟩ :=
        runTests_stopped tests
      obtain ⟨rest, notes, short⟩ := stopped.notes
      refine ⟨_, rest, .stopped begun went stopped all, ?_, short, fun _ ended => by cases ended⟩
      rw [state_eq, notes, went.notes, begun.notes, recorded_append, List.map_append,
        List.append_assoc noted.notes]

/-! ### What is recorded and what is started -/

/-- What a run of a tool that gets its source as it is is recorded with. -/
theorem arguments_of_runItem {test : Test} {item : WorkItem} {trial final : Trial σ}
    {run : RunReport} (plain : setup.benchmark.tool ≠ .acsar)
    (ran : (runItem setup test item).run trial = .ok run final) :
    run.arguments = setup.benchmark.tool.plainWords setup.executable
      (optionsOf setup.benchmark test item) item.file := by
  obtain ⟨outcome, -, rfl⟩ := exists_outcome_of_runItem (Verifier.prepare_of_ne plain) ran
  rfl

theorem Ran.arguments {test : Test} {trial final : Trial σ} {runs : List FinishedRun}
    (plain : setup.benchmark.tool ≠ .acsar) (ran : Ran setup test trial runs final) :
    runs.map (fun run => run.report.arguments) = (runs.map FinishedRun.item).map fun item =>
      setup.benchmark.tool.plainWords setup.executable (optionsOf setup.benchmark test item)
        item.file := by
  induction ran with
  | nil => rfl
  | next _ running _ _ _ ih => rw [List.map_cons, arguments_of_runItem plain running, ih]; rfl

/-- **The command lines that are recorded** of a tool that gets its source as it is: one for
each work item of the selected tests. -/
theorem Went.recorded_eq {trial final : Trial σ} {tests : List FinishedTest}
    (plain : setup.benchmark.tool ≠ .acsar) (went : Went setup trial tests final) :
    recorded (tests.flatMap FinishedTest.runs) =
      ((tests.map FinishedTest.test).filter fun test => setup.settings.selects test.name).flatMap
        fun test => test.items.map fun item =>
          setup.benchmark.tool.plainWords setup.executable (optionsOf setup.benchmark test item)
            item.file := by
  induction went with
  | nil => rfl
  | skipped leaving _ _ ih => rw [List.flatMap_cons, recorded_append, ih]; simp [leaving, recorded]
  | @tested _ _ _ _ _ _ test runs _ selecting _ running all _ _ ih =>
    have words := running.arguments plain
    rw [all] at words
    rw [List.flatMap_cons, recorded_append, ih, recorded, words]
    simp [selecting, Verifier.plainWords]

theorem map_eq_self_iff {α : Type} {f : α → α} {l : List α} :
    l.map f = l ↔ ∀ a ∈ l, f a = a := by
  rw [show l.map f = l ↔ l.map f = l.map id by rw [List.map_id]]
  exact List.map_inj_left

/-- The first line of a log is the command line that is recorded. -/
theorem logText_eq (run : RunReport) :
    ∃ below, Journal.logText run = " ".intercalate run.arguments ++ "\n" ++ below := by
  have breaks : "\n\n\n" = "\n" ++ "\n\n" := by decide
  refine ⟨"\n\n" ++ Text.line '-' 80 ++ "\n\n\n" ++ run.output, ?_⟩
  rw [Journal.logText, breaks]
  simp only [String.append_assoc]

/-- **What is recorded of the runs of a benchmark, and what is started**: for each run that is
recorded with arguments their expansion, in the order of the runs, and besides at most the
command line of the run that has stopped the benchmark. -/
theorem run_started {result : Except Failure Tally}
    (ran : (run setup machine desk state).tally = result)
    (reported : ∀ cause, result ≠ .error (.unreported cause)) :
    ∃ runs rest, Over setup.noting machine desk ⟨[], state⟩ result runs ∧
      let told := run setup.noting machine desk ⟨[], state⟩
      told.tally = result ∧ told.desk = (run setup machine desk state).desk ∧
      told.state.notes = (recorded runs).map (Host.commandLine setup.environment) ++ rest ∧
      rest.length ≤ 1 ∧ (∀ tally, result = .ok tally → rest = []) ∧
      (told.state.notes = recorded runs ++ rest ↔
        ∀ arguments ∈ recorded runs, ∀ word ∈ arguments,
          Path.expand setup.environment word = word) ∧
      ∀ run ∈ runs, ∃ below,
        Journal.logText run.report = " ".intercalate run.report.arguments ++ "\n" ++ below := by
  have same := run_noting setup machine desk ⟨[], state⟩
  have tally_eq : (run setup.noting machine desk ⟨[], state⟩).tally = result :=
    (congrArg Result.tally same).trans ran
  obtain ⟨runs, rest, course, notes, short, ended⟩ := notes_run tally_eq reported
  rw [List.nil_append] at notes
  refine ⟨runs, rest, course, tally_eq, congrArg Result.desk same, notes, short, ended, ?_,
    fun run _ => logText_eq run.report⟩
  rw [notes, List.append_left_inj]
  exact map_eq_self_iff.trans (forall₂_congr fun arguments _ => map_eq_self_iff)

/-- An option that refers to a set variable: it is recorded as it is, and its value is
started. -/
theorem run_started_option : ∃ tally runs,
    let setup := smallOf [⟨some "t", [⟨"-I$X", none⟩], [⟨"p/a.c", []⟩]⟩] ⟨[("X", "b")]⟩
    let told := run setup.noting smallMachine smallDesk ⟨[], ()⟩
    (run setup smallMachine smallDesk ()).tally = .ok tally ∧
      (∀ cause, Except.ok tally ≠ .error (Failure.unreported cause)) ∧
      Over setup.noting smallMachine smallDesk ⟨[], ()⟩ (.ok tally) runs ∧
      recorded runs = [["satabs", "-I$X", "p/a.c"]] ∧
      told.state.notes = [["satabs", "-Ib", "p/a.c"]] := by
  obtain ⟨tally, done⟩ :=
    @run_smallOf_ok [⟨some "t", [⟨"-I$X", none⟩], [⟨"p/a.c", []⟩]⟩] ⟨[("X", "b")]⟩
      (by decide) (by decide)
  obtain ⟨runs, rest, course, -, -, notes, -, ended, -⟩ := run_started done (by simp)
  obtain rfl := ended tally rfl
  have arguments : recorded runs = [["satabs", "-I$X", "p/a.c"]] := by
    cases course with
    | ended begun went all =>
      rw [went.recorded_eq (show Verifier.satabs ≠ .acsar by decide), all]
      rfl
  refine ⟨tally, runs, done, by simp, course, arguments, ?_⟩
  rw [notes, arguments]
  show [Host.commandLine ⟨[("X", "b")]⟩ ["satabs", "-I$X", "p/a.c"]] ++ [] =
    [["satabs", "-Ib", "p/a.c"]]
  decide

/-- A small benchmark that is about to begin, with no notes yet. -/
def smallTrial (environment : Environment) : Trial (Noted Unit) :=
  ⟨⟨journalOf (smallOf [] environment) smallMachine smallDesk (), smallDesk⟩, ⟨[], ()⟩⟩

/-- What is recorded of a run is not always what has been started. -/
theorem not_forall_started_recorded :
    ¬∀ (setup : Setup Unit) (test : Test) (item : WorkItem) (trial final : Trial (Noted Unit))
      (run : RunReport), (runItem setup.noting test item).run trial = .ok run final →
        run.arguments ≠ [] → final.state.notes = trial.state.notes ++ [run.arguments] := by
  intro all
  let env : Environment := ⟨[("X", "b")]⟩
  let test : Test := ⟨none, [⟨"-I$X", none⟩], []⟩
  have plain : Verifier.satabs ≠ .acsar := by decide
  have command : Host.commandLine env ["satabs", "-I$X", "p/a.c"] = ["satabs", "-Ib", "p/a.c"] := by
    decide
  have clean : (smallWords env test ⟨"p/a.c", []⟩).any Host.hasNull = false := by decide
  obtain ⟨run, _, done⟩ : ∃ run final, (runItem (smallOf [] env) test ⟨"p/a.c", []⟩).run
      (smallTrial env).forget = .ok run final := runItem_smallOn_ok clean rfl _
  obtain ⟨final, ran⟩ := (Mirrors.runItem _ _ _).exists_of_ok done
  have arguments : run.arguments = ["satabs", "-I$X", "p/a.c"] := arguments_of_runItem plain ran
  have started := notes_of_runItem ran
  rw [all _ _ _ _ _ _ ran (by simp [arguments]), arguments] at started
  have same : [["satabs", "-I$X", "p/a.c"]] =
      [Host.commandLine env ["satabs", "-I$X", "p/a.c"]] := started
  rw [command] at same
  revert same
  decide

end VerifierTrials.Trial
