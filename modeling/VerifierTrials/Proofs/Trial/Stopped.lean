import VerifierTrials.Proofs.Trial.Parts
import VerifierTrials.Proofs.Trial.Reports
import Mathlib.Data.List.Nodup

/-!
# What a stopped benchmark leaves behind

A benchmark can be stopped in any of its runs, when a tool cannot be started or when the
operator interrupts. Its reports then hold what a benchmark that came to its end would have
written up to that run, and nothing else (`Trial.run_stopped`). The filings are those of the
tests before, followed by those of the stopped test up to the run (`haltFilings`), which
have neither an end line nor a document.

In a directory that was empty before, the filings also tell which files are there at all
(`Halted.place_of_contentAt`), and what each log holds (`Halted.log`).
-/

namespace VerifierTrials.Trial

open FileTree

variable {σ : Type} {setup : Setup σ} {machine : Machine} {desk : Desk} {state : σ}

/-- **A benchmark whose output directory is empty** when it begins, but for the log directory
that has just been made. -/
def StartsEmpty (setup : Setup σ) (machine : Machine) (desk : Desk) (state : σ) : Prop :=
  ∀ made q, BeginsIn setup machine desk state made q → ∀ p, q <+: p → p ≠ q →
    made.entry? p =
      if p = (journalOf setup machine desk state).logsAt q then some .directory else none

/-- What has been filed when a test is stopped. -/
theorem TestStopped.filed {journal : Journal} {q : List String} {tally : Tally} {number : Nat}
    {test : Test} {runs : List FinishedRun} {cause : BenchmarkError} {trial final : Trial σ}
    (alone : LeavesAlone setup journal q)
    (stopped : TestStopped setup number test runs cause trial final)
    (state : trial.session.journal = journal.during none tally)
    (orderly : journal.Orderly q trial.tree) :
    journal.Filed q trial.tree final.tree
        ([⟨journal.placeOf q none "txt", Utf8.encode (openingOf journal number test), false⟩] ++
          runs.flatMap (runFilings journal q (journal.tableOf test) test.name)) ∧
      ∀ run ∈ runs, Reported setup journal q trial.tree test.name run := by
  obtain ⟨opened, middle, item, rest, opening, running, ⟨begun, beginning, failing⟩, -⟩ :=
    stopped.course
  obtain ⟨-, runsFiled, reported⟩ := opening_filed alone state orderly opening running
  obtain ⟨-, tree⟩ := Journal.tell_eq_ok (report_eq_ok beginning)
  have begunTree : begun.tree = middle.tree := tree
  have kept := runItem_eq_error alone (begunTree ▸ runsFiled.orderly) failing
  have last := begunTree ▸ kept.filed
  refine ⟨?_, reported⟩
  have filed := runsFiled.append last
  rwa [List.append_nil] at filed

/-! ### The reports of a benchmark that has been stopped -/

/-- What a test files up to the run that stops it. -/
def haltFilings (journal : Journal) (q : List String) (last : FinishedTest) : List Filing :=
  [⟨journal.placeOf q none "txt", Utf8.encode (openingOf journal last.number last.test),
      false⟩] ++
    last.runs.flatMap (runFilings journal q (journal.tableOf last.test) last.test.name)

/-- The part of a test that has been stopped. -/
def FinishedTest.haltedPart (journal : Journal) (q : List String) (last : FinishedTest) :
    TestPart :=
  { test := last.test
    runs := last.runs
    filings := haltFilings journal q last }

/-- **A benchmark that has been halted** in one of its tests, and what has been filed there. -/
structure Halted (setup : Setup σ) (journal : Journal) (q : List String) (header : String)
    (tests : List FinishedTest) (last : FinishedTest) (later : List Test)
    (made files : FileTree) : Prop where
  distinct : (setup.benchmark.tests.map Test.name).Nodup
  tests_eq : setup.benchmark.tests = tests.map FinishedTest.test ++ last.test :: later
  selected : setup.settings.selects last.test.name = true
  filings : journal.Filed q made files
    (startFilings setup journal q header ++ tests.flatMap (testFilings setup journal q) ++
      haltFilings journal q last)
  reported : ∀ test ∈ tests, TestReported setup journal q made test
  lastReported : ∀ run ∈ last.runs, Reported setup journal q made last.test.name run
  writable : ∀ test ∈ setup.benchmark.tests, setup.settings.selects test.name = true →
    journal.Writable test.name "csv"

namespace Halted

variable {journal : Journal} {q : List String} {header : String} {tests : List FinishedTest}
  {last : FinishedTest} {later : List Test} {made files : FileTree}

/-- **A benchmark that has been halted is in parts.** -/
theorem parted (halted : Halted setup journal q header tests last later made files) :
    Parted setup journal q header
      (partsOf setup journal q tests (last.haltedPart journal q) later) made files :=
  parted_partsOf halted.tests_eq halted.filings halted.reported
    (.of_opening last.number halted.lastReported) halted.writable

theorem once (halted : Halted setup journal q header tests last later made files)
    (name : Option String) : (setup.benchmark.tests.map Test.name).count name ≤ 1 :=
  List.nodup_iff_count.mp halted.distinct name

theorem mem_of_finished (halted : Halted setup journal q header tests last later made files)
    {test : FinishedTest} (within : test ∈ tests) : test.test ∈ setup.benchmark.tests := by
  rw [halted.tests_eq]
  exact List.mem_append_left _ (List.mem_map_of_mem within)

/-- The text report. -/
theorem text (halted : Halted setup journal q header tests last later made files) :
    files.read journal.textPath = .ok (Utf8.encode (header ++
      String.join (tests.map (textOf setup journal)) ++
        (openingOf journal last.number last.test ++
          rowsOf journal (journal.tableOf last.test) last.runs))) := by
  have orderly := halted.filings.orderly
  have logs : ∀ run ∈ last.runs, run.log ≠ journal.placeOf q none "txt" :=
    fun run within => (halted.lastReported run within).log_ne none (by decide)
  refine orderly.read (orderly.locate_iff.mp orderly.way).1 ?_
  rw [halted.filings.report, filed_append, filed_append, filed_start_text,
    filed_tests_text halted.reported, haltFilings, filed_append, filed_cons, filed_nil,
    Filing.on_behind, filed_runs_text logs]
  simp [Utf8.encode_append]

/-- The tab-separated report of a test before the one that has been stopped. -/
theorem csv_finished (halted : Halted setup journal q header tests last later made files)
    {test : FinishedTest} (within : test ∈ tests)
    (selected : setup.settings.selects test.test.name = true) :
    Lists journal files test.test test.runs := by
  have lists := halted.parted.lists (part_mem_partsOf within) selected (halted.once _) rfl
  exact lists

/-- The XML report of a test before the one that has been stopped. -/
theorem xml_finished (halted : Halted setup journal q header tests last later made files)
    {test : FinishedTest} (within : test ∈ tests)
    (selected : setup.settings.selects test.test.name = true) :
    Documents journal files test.test test.runs test.times :=
  halted.parted.documents (part_mem_partsOf within) selected (halted.once _)

/-- The tab-separated report of the test that has been stopped. -/
theorem csv_last (halted : Halted setup journal q header tests last later made files) :
    Lists journal files last.test last.runs := by
  have lists := halted.parted.lists last_mem_partsOf halted.selected (halted.once _) rfl
  exact lists

/-- The tab-separated report of a test behind the one that has been stopped. -/
theorem csv_later (halted : Halted setup journal q header tests last later made files)
    {test : Test} (within : test ∈ later)
    (selected : setup.settings.selects test.name = true) :
    files.read (journal.reportPath test.name "csv") =
      .ok (Utf8.encode (Separated.header journal.titles)) := by
  have lists := halted.parted.lists (unbegun_mem_partsOf within) selected (halted.once _) rfl
  have none_ : linesOf journal (unbegun test).runs = "" := rfl
  rwa [Lists, none_, String.append_empty] at lists

/-- **The files that are there at all**: the text report, the tab-separated reports of the
selected tests, the XML reports of the selected tests before the one that has been stopped,
and the logs of the runs. -/
theorem place_of_contentAt (halted : Halted setup journal q header tests last later made files)
    {p : List String} (inside : q <+: p) (empty : made.contentAt p = none)
    (found : files.contentAt p ≠ none) :
    p = journal.placeOf q none "txt" ∨
      (∃ test ∈ setup.benchmark.tests, setup.settings.selects test.name = true ∧
        p = journal.placeOf q test.name "csv") ∨
      (∃ test ∈ tests, setup.settings.selects test.test.name = true ∧
        p = journal.placeOf q test.test.name "xml") ∨
      ∃ test ∈ tests ++ [last], ∃ run ∈ test.runs, p = run.log := by
  rw [halted.filings.contents p inside, empty] at found
  obtain ⟨filing, mem, rfl⟩ := exists_mem_of_filed found
  have lastMem : last.test ∈ setup.benchmark.tests := by
    rw [halted.tests_eq]
    simp
  rcases List.mem_append.mp mem with mem | mem
  · rcases List.mem_append.mp mem with mem | mem
    · rcases place_of_mem_startFilings mem with text | ⟨test, within, selected, fields⟩
      · exact .inl text
      · exact .inr (.inl ⟨test, within, selected, fields⟩)
    · obtain ⟨test, within, mem⟩ := List.mem_flatMap.mp mem
      rcases place_of_mem_testFilings mem with
        text | ⟨selected, fields | document | ⟨run, among, log⟩⟩
      · exact .inl text
      · exact .inr (.inl ⟨test.test, halted.mem_of_finished within, selected, fields⟩)
      · exact .inr (.inr (.inl ⟨test, within, selected, document⟩))
      · exact .inr (.inr (.inr ⟨test, by simp [within], run, among, log⟩))
  · simp only [haltFilings, runFilings, List.mem_append, List.mem_cons, List.not_mem_nil, or_false,
      List.mem_flatMap] at mem
    rcases mem with rfl | ⟨run, among, rfl | rfl | rfl⟩
    · exact .inl rfl
    · exact .inr (.inr (.inr ⟨last, by simp, run, among, rfl⟩))
    · exact .inl rfl
    · exact .inr (.inl ⟨last.test, lastMem, halted.selected, rfl⟩)

theorem reported_run (halted : Halted setup journal q header tests last later made files)
    {test : FinishedTest} (within : test ∈ tests ++ [last]) {run : FinishedRun}
    (among : run ∈ test.runs) : Reported setup journal q made test.test.name run := by
  rcases List.mem_append.mp within with within | within
  · exact (halted.reported test within).runs run among
  · obtain rfl := List.mem_singleton.mp within
    exact halted.lastReported run among

/-- **The XML reports that are there** are those of the selected tests before the one that has
been stopped. -/
theorem isFile_xml_iff (halted : Halted setup journal q header tests last later made files)
    {test : Test} (within : test ∈ setup.benchmark.tests)
    (empty : made.contentAt (journal.placeOf q test.name "xml") = none) :
    files.isFile (journal.reportPath test.name "xml") = true ↔
      test ∈ tests.map FinishedTest.test ∧ setup.settings.selects test.name = true := by
  constructor
  · intro file
    obtain ⟨p, led, found⟩ := exists_of_isFile file
    obtain ⟨-, rfl⟩ := halted.filings.orderly.locate_iff.mp led
    rcases halted.place_of_contentAt (List.prefix_append _ _) empty found with
      text | ⟨other, -, -, fields⟩ | ⟨other, before, selected, document⟩ |
        ⟨other, mem, run, among, log⟩
    · exact absurd text (xml_ne_text _ _)
    · exact absurd fields (xml_ne_csv _ _)
    · have name : test.name = other.test.name := (Journal.placeOf_inj document rfl).1
      obtain rfl : test = other.test :=
        List.inj_on_of_nodup_map halted.distinct within (halted.mem_of_finished before) name
      exact ⟨List.mem_map_of_mem before, selected⟩
    · exact absurd log.symm ((halted.reported_run mem among).log_ne _ (by decide))
  · rintro ⟨before, selected⟩
    obtain ⟨finished, mem, rfl⟩ := List.mem_map.mp before
    exact isFile_of_read (halted.xml_finished mem selected)

/-- **The logs of the runs**, each replaced by those that go to the same place later on. -/
theorem log (halted : Halted setup journal q header tests last later made files)
    {earlier after : List FinishedRun} {run : FinishedRun}
    (runs : (tests ++ [last]).flatMap FinishedTest.runs = earlier ++ run :: after)
    (final : ∀ other ∈ after, other.log ≠ run.log) (inside : q <+: run.log) :
    files.contentAt run.log = some (Utf8.encode (Journal.logText run.report)) := by
  obtain ⟨test, within, among⟩ : ∃ test ∈ tests ++ [last], run ∈ test.runs :=
    List.mem_flatMap.mp (runs ▸ by simp)
  have apart := (halted.reported_run within among).placeOf_ne
  rw [halted.filings.contents _ inside, filed_append, filed_append, haltFilings, filed_append,
    filed_cons, filed_nil, Filing.on_other (apart _ _ (by decide)),
    filed_runs_logs (apart _ _ (by decide)) (apart _ _ (by decide)),
    filed_tests_logs halted.reported apart, ← filed_append, ← List.map_append]
  rw [List.flatMap_append, List.flatMap_singleton] at runs
  rw [runs]
  exact filed_logs final

end Halted

/-- An empty output directory has a place for logs. -/
theorem StartsEmpty.keepsLogs (empty : StartsEmpty setup machine desk state) {made : FileTree}
    {q : List String} (begins : BeginsIn setup machine desk state made q) :
    (journalOf setup machine desk state).KeepsLogs q made where
  named := logDirectory_eq setup machine desk state
  directory := by
    have inside : q <+: (journalOf setup machine desk state).logsAt q := List.prefix_append _ _
    rw [empty made q begins _ inside (by simp [Journal.logsAt]), if_pos rfl]
  files name := by
    have inside : q <+: (journalOf setup machine desk state).logsAt q ++ [name] :=
      (List.prefix_append _ _).trans (List.prefix_append _ _)
    refine .of_none ?_
    rw [empty made q begins _ inside (by simp [Journal.logsAt]), if_neg (by simp)]

/-- The log of a run lies in the log directory, unless its name leads out of it. -/
theorem log_place (empty : StartsEmpty setup machine desk state) {made : FileTree} {q : List String}
    (begins : BeginsIn setup machine desk state made q) {name : Option String} {run : FinishedRun}
    (reported : Reported setup (journalOf setup machine desk state) q made name run)
    (plain : '/' ∉ (Journal.logName name run.report.file).toList) :
    run.log = (journalOf setup machine desk state).logsAt q ++
      [Journal.logName name run.report.file] :=
  (reported.placed (empty.keepsLogs begins) plain).2

theorem startsEmpty_smallOn {result : List String → Except BenchmarkError Outcome}
    {clocks : σ → Times × σ} {tests : List Test} {only : Option String}
    {environment : Environment} :
    StartsEmpty (smallOn result clocks tests only environment) smallMachine smallDesk state := by
  intro made q begins p inside proper
  obtain ⟨rfl, rfl⟩ := isSmall_smallOn.eq_of_begins begins
  have place : (journalOf (smallOn result clocks tests only environment) smallMachine smallDesk
      state).logsAt [] = ["b.0001-02-03.logfiles"] := by
    rw [Journal.logsAt, isSmall_smallOn.stem]
    rfl
  rw [entry_small, place]
  by_cases logs : p = ["b.0001-02-03.logfiles"]
  · rw [if_pos (.inr logs), if_pos logs]
  · rw [if_neg (by simp [proper, logs]), if_neg logs]

/-- What a tool comes to when the operator interrupts on the last source. -/
def interruptedLast (words : List String) : Except BenchmarkError Outcome :=
  if words.getLast? = some "p/d.c" then .error .interrupted else verdictOn words

/-- Both tests, run until the operator interrupts. -/
def pairSetup : Setup Nat := smallOn interruptedLast ticking pairTests none ⟨[]⟩

/-- The second test. -/
def secondTest : Test := ⟨none, [], [⟨"p/c.c", []⟩, ⟨"p/d.c", []⟩]⟩

theorem clean_pair : ∀ test ∈ pairTests, isClean ⟨[]⟩ test = true := by decide

theorem isOk_interruptedLast : ∀ test ∈ pairTests, ∀ item ∈ test.items,
    (interruptedLast (smallWords ⟨[]⟩ test item)).isOk = (item.file != "p/d.c") := by decide

/-- Both tests are interrupted in the last run of the second one. -/
theorem stopped_pair {number : Nat} {tests : List FinishedTest} {test : Test} {later : List Test}
    {runs : List FinishedRun} {cause : BenchmarkError} {trial final : Trial Nat}
    (tests_eq : pairTests = tests.map FinishedTest.test ++ test :: later)
    (stopped : TestStopped pairSetup number test runs cause trial final) :
    ∃ first run, tests = [first] ∧ first.test = ⟨some "t", [], [⟨"p/a.c", []⟩, ⟨"p/b.c", []⟩]⟩ ∧
      test = secondTest ∧ runs = [run] ∧ run.item = ⟨"p/c.c", []⟩ := by
  obtain ⟨opened, reached, item, rest, -, -, ⟨begun, -, failing⟩, items⟩ := stopped.course
  have within : test ∈ pairTests := tests_eq ▸ by simp
  have among : item ∈ test.items := items ▸ by simp
  have ill := result_of_refuses (hasNull_of_isClean (clean_pair test within) among)
    (runItem_stopped failing)
  have last : item.file = "p/d.c" := by
    have done := isOk_interruptedLast test within item among
    rw [ill] at done
    simpa [Except.isOk, Except.toBool] using done.symm
  cases tests with
  | nil =>
    obtain rfl := (List.cons.inj tests_eq).1
    obtain rfl | rfl : item = ⟨"p/a.c", []⟩ ∨ item = ⟨"p/b.c", []⟩ := by simpa using among
    all_goals exact absurd last (by decide)
  | cons first tests =>
    obtain ⟨first_eq, tests_eq⟩ := List.cons.inj tests_eq
    cases tests with
    | cons second tests => simp at tests_eq
    | nil =>
      obtain rfl := (List.cons.inj tests_eq).1
      -- the source before the last one has been run
      cases runs with
      | nil =>
        obtain rfl : _ = item := (List.cons.inj items).1
        exact absurd last (by decide)
      | cons run runs =>
        obtain ⟨run_eq, items⟩ := List.cons.inj items
        cases runs with
        | nil => exact ⟨first, run, rfl, first_eq.symm, rfl, rfl, run_eq.symm⟩
        | cons other runs => simp at items

theorem eq_interrupted {words : List String} {cause : BenchmarkError}
    (ill : interruptedLast words = .error cause) : cause = .interrupted := by
  rw [interruptedLast] at ill
  split at ill
  · exact (Except.error.inj ill).symm
  · cases ill

end VerifierTrials.Trial
