import VerifierTrials.Proofs.Trial.Contents

/-!
# The beginning and the end of a benchmark

A benchmark begins with asking for the version of the tool and with a new journal
(`Trial.Begun`), and from there it is the run of its tests. What is assumed of a benchmark
whose reports are to be right is gathered in `Trial.Undisturbed`; where the names of its tests
are of no account, in `Trial.Calm`.
-/

namespace VerifierTrials.Trial

open FileTree

variable {σ : Type}

/-! ### The beginning -/

/-- The version of the tool, and the files and the host once it has been asked for. -/
def probed (setup : Setup σ) (desk : Desk) (state : σ) : HostAnswer σ String :=
  setup.host.version setup.benchmark.tool setup.executable desk.tree state

/-- The journal of a benchmark that begins. -/
def journalOf (setup : Setup σ) (machine : Machine) (desk : Desk) (state : σ) : Journal :=
  Journal.blank setup.benchmark (probed setup desk state).1 machine setup.settings
    (Tally.ofMarks setup.settings.bugMarks) desk.now

theorem logDirectory_eq (setup : Setup σ) (machine : Machine) (desk : Desk) (state : σ) :
    (journalOf setup machine desk state).logDirectory =
      (journalOf setup machine desk state).base ++ "logfiles" := by
  rw [Journal.base, ← Path.join_append _ _ (by simp)]
  simp only [journalOf, Journal.blank, String.append_assoc]
  rfl

/-- The header of the text report. -/
def headerOf (setup : Setup σ) (machine : Machine) (desk : Desk) (state : σ) : String :=
  ((journalOf setup machine desk state).header setup.benchmark (probed setup desk state).1).text

/-- **Where a benchmark finds itself**: the files once the log directory has been made, and the
directory that the text report will lie in. -/
structure BeginsIn (setup : Setup σ) (machine : Machine) (desk : Desk) (state : σ)
    (made : FileTree) (q : List String) : Prop where
  making : (probed setup desk state).2.1.makeDirectories
    (journalOf setup machine desk state).logDirectory = .ok made
  way : made.locate false (journalOf setup machine desk state).textPath =
    .ok ((journalOf setup machine desk state).placeOf q none "txt")

/-- **A benchmark that is not disturbed**: its tests have different names, the directory of its
reports is in order when it begins, and the tool leaves that directory alone. Files may lie in
that directory already, those of earlier reports with the same names among them. -/
structure Undisturbed (setup : Setup σ) (machine : Machine) (desk : Desk) (state : σ) : Prop where
  distinct : (setup.benchmark.tests.map Test.name).Nodup
  orderly : ∀ made q, BeginsIn setup machine desk state made q →
    (journalOf setup machine desk state).Orderly q made
  alone : ∀ made q, BeginsIn setup machine desk state made q →
    LeavesAlone setup (journalOf setup machine desk state) q

/-- **A benchmark whose reports are left alone**, whatever the names of its tests: the directory
of the reports is in order when it begins, and the tool leaves that directory alone. -/
structure Calm (setup : Setup σ) (machine : Machine) (desk : Desk) (state : σ) : Prop where
  orderly : ∀ made q, BeginsIn setup machine desk state made q →
    (journalOf setup machine desk state).Orderly q made
  alone : ∀ made q, BeginsIn setup machine desk state made q →
    LeavesAlone setup (journalOf setup machine desk state) q

/-- **A trial that begins**: the journal has been started. -/
structure Begun (setup : Setup σ) (machine : Machine) (desk : Desk) (state : σ)
    (start : Trial σ) : Prop where
  started : (Journal.start setup.benchmark (probed setup desk state).1 machine setup.settings
    (Tally.ofMarks setup.settings.bugMarks)).run
      { desk with tree := (probed setup desk state).2.1 } =
        .ok start.session.journal start.session.desk
  state_eq : start.state = (probed setup desk state).2.2

variable {setup : Setup σ} {machine : Machine} {desk : Desk} {state : σ}

theorem run_eq (setup : Setup σ) (machine : Machine) (desk : Desk) (state : σ) :
    run setup machine desk state =
      match (Journal.start setup.benchmark (probed setup desk state).1 machine setup.settings
        (Tally.ofMarks setup.settings.bugMarks)).run
          { desk with tree := (probed setup desk state).2.1 } with
      | .error cause desk' => ⟨.error (.unreported cause), desk', (probed setup desk state).2.2⟩
      | .ok journal desk' =>
        resultOf (runAll setup) ⟨⟨journal, desk'⟩, (probed setup desk state).2.2⟩ := rfl

/-- A benchmark that does not fail at its beginning is the run of its tests. -/
theorem run_of_tally {result : Except Failure Tally}
    (ran : (run setup machine desk state).tally = result)
    (reported : ∀ cause, result ≠ .error (.unreported cause)) :
    ∃ start, Begun setup machine desk state start ∧
      run setup machine desk state = resultOf (runAll setup) start := by
  rw [run_eq] at ran ⊢
  split at ran
  next cause desk' failed => exact absurd ran.symm (reported cause)
  next journal desk' started =>
    exact ⟨⟨⟨journal, desk'⟩, (probed setup desk state).2.2⟩, ⟨started, rfl⟩, rfl⟩

/-- A benchmark that comes to its end leaves the files and the host as its last test does. -/
theorem run_ended {tally : Tally} (ran : (run setup machine desk state).tally = .ok tally) :
    ∃ start final, Begun setup machine desk state start ∧
      (runTests setup 1 setup.benchmark.tests).run start = .ok () final ∧
      (run setup machine desk state).desk.tree = final.tree ∧
      (run setup machine desk state).state = final.state ∧
      final.session.journal.tally = tally := by
  obtain ⟨start, begun, result⟩ := run_of_tally ran (by simp)
  rw [result] at ran ⊢
  rw [resultOf] at ran ⊢
  split at ran
  next final done =>
    rw [runAll] at done
    obtain ⟨_, middle, tests, summary⟩ := run_bind_eq_ok done
    obtain ⟨same, tree⟩ := Journal.tell_eq_ok (report_eq_ok summary)
    exact ⟨start, middle, begun, tests, tree, state_report summary,
      by rw [← same]; exact Except.ok.inj ran⟩
  next => cases ran

/-- **A benchmark that comes to its end** has run all its tests. -/
theorem run_eq_ok {tally : Tally} (ran : (run setup machine desk state).tally = .ok tally) :
    ∃ start final, Begun setup machine desk state start ∧
      (runTests setup 1 setup.benchmark.tests).run start = .ok () final ∧
      (run setup machine desk state).desk.tree = final.tree ∧
      final.session.journal.tally = tally := by
  obtain ⟨start, final, begun, tests, tree, -, counted⟩ := run_ended ran
  exact ⟨start, final, begun, tests, tree, counted⟩

/-- A benchmark that has begun is the run of its tests. -/
theorem Begun.run_eq {start : Trial σ} (begun : Begun setup machine desk state start) :
    run setup machine desk state = resultOf (runAll setup) start := by
  rw [Trial.run_eq, begun.started]
  dsimp only
  rw [← begun.state_eq]

/-- **A benchmark that fails once it has begun** fails in its tests, and leaves the files and the
host as they are then. -/
theorem Begun.failed {start : Trial σ} {failure : Failure}
    (begun : Begun setup machine desk state start)
    (ran : (run setup machine desk state).tally = .error failure) :
    ∃ final, (runTests setup 1 setup.benchmark.tests).run start = .error failure final ∧
      (run setup machine desk state).desk.tree = final.tree ∧
      (run setup machine desk state).state = final.state := by
  rw [begun.run_eq] at ran ⊢
  rw [resultOf] at ran ⊢
  split at ran
  next => cases ran
  next failure final failed =>
    cases ran
    rw [runAll] at failed
    rcases run_bind_eq_error failed with stopped | ⟨_, middle, -, summary⟩
    · exact ⟨final, stopped, rfl, rfl⟩
    -- the summary is only shown
    · obtain ⟨_, -, impossible⟩ := report_eq_error summary
      cases impossible

/-- A benchmark that is stopped leaves the files and the host as its last run does. -/
theorem run_halted {cause : BenchmarkError}
    (ran : (run setup machine desk state).tally = .error (.stopped cause)) :
    ∃ start final, Begun setup machine desk state start ∧
      (runTests setup 1 setup.benchmark.tests).run start = .error (.stopped cause) final ∧
      (run setup machine desk state).desk.tree = final.tree ∧
      (run setup machine desk state).state = final.state := by
  obtain ⟨start, begun, -⟩ := run_of_tally ran (by simp)
  obtain ⟨final, failed, tree, host⟩ := begun.failed ran
  exact ⟨start, final, begun, failed, tree, host⟩

/-- **A benchmark that is stopped** has been running its tests. -/
theorem run_eq_stopped {cause : BenchmarkError}
    (ran : (run setup machine desk state).tally = .error (.stopped cause)) :
    ∃ start final, Begun setup machine desk state start ∧
      (runTests setup 1 setup.benchmark.tests).run start = .error (.stopped cause) final ∧
      (run setup machine desk state).desk.tree = final.tree := by
  obtain ⟨start, final, begun, tests, tree, -⟩ := run_halted ran
  exact ⟨start, final, begun, tests, tree⟩

theorem Undisturbed.calm (undisturbed : Undisturbed setup machine desk state) :
    Calm setup machine desk state :=
  ⟨undisturbed.orderly, undisturbed.alone⟩

/-- **What has been filed when the first test begins.** -/
theorem Begun.filed_of_calm {start : Trial σ} (calm : Calm setup machine desk state)
    (begun : Begun setup machine desk state start) :
    start.session.journal = journalOf setup machine desk state ∧
      ∃ made q, BeginsIn setup machine desk state made q ∧
        (journalOf setup machine desk state).Filed q made start.tree
          (startFilings setup (journalOf setup machine desk state) q
            (headerOf setup machine desk state)) ∧
        ∀ test ∈ setup.benchmark.tests, setup.settings.selects test.name = true →
          (journalOf setup machine desk state).Writable test.name "csv" := by
  obtain ⟨journal_eq, made, q, making, way, filed⟩ := Journal.start_filed begun.started
  change start.session.journal = journalOf setup machine desk state at journal_eq
  rw [journal_eq] at making way filed
  have begins : BeginsIn setup machine desk state made q := ⟨making, way⟩
  obtain ⟨filings, writable⟩ := filed (calm.orderly made q begins)
  exact ⟨journal_eq, made, q, begins, filings, writable⟩

theorem Begun.filed {start : Trial σ} (undisturbed : Undisturbed setup machine desk state)
    (begun : Begun setup machine desk state start) :
    start.session.journal = journalOf setup machine desk state ∧
      ∃ made q, BeginsIn setup machine desk state made q ∧
        (journalOf setup machine desk state).Filed q made start.tree
          (startFilings setup (journalOf setup machine desk state) q
            (headerOf setup machine desk state)) ∧
        ∀ test ∈ setup.benchmark.tests, setup.settings.selects test.name = true →
          (journalOf setup machine desk state).Writable test.name "csv" :=
  begun.filed_of_calm undisturbed.calm

end VerifierTrials.Trial
