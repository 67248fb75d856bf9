import VerifierTrials.Proofs.Report.Failures
import VerifierTrials.Proofs.Trial.Contents

/-!
# What each test has filed

Whether a test has come to its end, has failed in between, or has not begun at all: what it has
filed are lines of its own tab-separated report, the last of which may have been cut short, and its
document or a beginning of it, if it has come to its end (`Trial.IsPart`). Everything else goes to
the text report and to logs.

So the filings of a benchmark fall into parts, one for each test (`Trial.Parted`), and a test with
a name of its own finds in its reports what its own part has put there. Without a document of its
own it finds the one that was there before.
-/

namespace VerifierTrials.Trial

open FileTree

variable {σ : Type} {setup : Setup σ} {journal : Journal} {q : List String}

/-! ### The part of one test -/

/-- **What a test has filed**: nothing in the reports of other tests, the lines of its runs in its
tab-separated report, with the rest of a line behind them, and a document if it has come to that. -/
structure IsPart (journal : Journal) (q : List String) (test : Test) (runs : List FinishedRun)
    (rest : Bytes) (document? : Option Bytes) (filings : List Filing) : Prop where
  apart : ∀ filing ∈ filings, ∀ name, name ≠ test.name → ∀ extension ∈ ["csv", "xml"],
    filing.place ≠ journal.placeOf q name extension
  fields : ∀ bytes, filed filings (journal.placeOf q test.name "csv") (some bytes) =
    some (bytes ++ Utf8.encode (linesOf journal runs) ++ rest)
  document : ∀ held, filed filings (journal.placeOf q test.name "xml") held = document?.or held

namespace IsPart

variable {test : Test} {runs : List FinishedRun} {rest : Bytes} {document? : Option Bytes}
  {filings first last : List Filing}

/-- A test without runs. -/
theorem of_spares (spares : journal.Spares q filings) :
    IsPart journal q test [] [] none filings where
  apart filing within name _ extension kind := spares filing within name extension kind
  fields bytes := by
    rw [spares.filed_eq test.name (by decide)]
    simp [linesOf, Utf8.encode_empty]
  document held := spares.filed_eq test.name (by decide)

/-- Runs of a test. -/
theorem of_runs {table : Table}
    (logs : ∀ run ∈ runs, ∀ name, ∀ extension ∈ ["txt", "csv", "xml"],
      run.log ≠ journal.placeOf q name extension) :
    IsPart journal q test runs [] none
      (runs.flatMap (runFilings journal q table test.name)) where
  apart filing within name other extension kind := by
    obtain ⟨run, among, inside⟩ := List.mem_flatMap.mp within
    simp only [runFilings, List.mem_cons, List.not_mem_nil, or_false] at inside
    rcases inside with rfl | rfl | rfl
    · exact logs run among name extension (List.mem_cons_of_mem _ kind)
    · exact Journal.spares_text [] false _ (List.mem_singleton_self _) name extension kind
    · intro same
      exact other (Journal.placeOf_inj same (length_of_kind kind).symm).1.symm
  fields bytes := by
    rw [List.append_nil]
    exact filed_runs_fields fun run among => logs run among _ _ (by decide)
  document held := filed_runs_elsewhere (fun run among => logs run among _ _ (by decide))
    (xml_ne_text test.name none).symm (xml_ne_csv _ _).symm

/-- Other filings before those of a test. -/
theorem behind (part : IsPart journal q test runs rest document? filings)
    (before : journal.Spares q first) :
    IsPart journal q test runs rest document? (first ++ filings) where
  apart filing within name other extension kind := by
    rcases List.mem_append.mp within with within | within
    · exact before filing within name extension kind
    · exact part.apart filing within name other extension kind
  fields bytes := by rw [filed_append, before.filed_eq _ (by decide), part.fields]
  document held := by rw [filed_append, before.filed_eq _ (by decide), part.document]

/-- Other filings behind those of a test. -/
theorem before (part : IsPart journal q test runs rest document? filings)
    (behind : journal.Spares q last) :
    IsPart journal q test runs rest document? (filings ++ last) where
  apart filing within name other extension kind := by
    rcases List.mem_append.mp within with within | within
    · exact part.apart filing within name other extension kind
    · exact behind filing within name extension kind
  fields bytes := by rw [filed_append, part.fields, behind.filed_eq _ (by decide)]
  document held := by rw [filed_append, part.document, behind.filed_eq _ (by decide)]

/-- A line that has been begun behind those of the runs. -/
theorem begin_line (part : IsPart journal q test runs [] document? filings) (taken : Bytes) :
    IsPart journal q test runs taken document?
      (filings ++ [⟨journal.placeOf q test.name "csv", taken, false⟩]) where
  apart filing within name other extension kind := by
    rcases List.mem_append.mp within with within | within
    · exact part.apart filing within name other extension kind
    · obtain rfl := List.mem_singleton.mp within
      intro same
      exact other (Journal.placeOf_inj same (length_of_kind kind).symm).1.symm
  fields bytes := by
    rw [filed_append, part.fields, List.append_nil, filed_cons, filed_nil]
    exact Filing.on_behind _ _
  document held := by
    rw [filed_append, part.document, filed_cons, filed_nil]
    exact Filing.on_other (xml_ne_csv _ _).symm

/-- A test whose document has been written, or a beginning of it. -/
theorem close (part : IsPart journal q test runs rest none filings) (content : Bytes) :
    IsPart journal q test runs rest (some content)
      (filings ++ [⟨journal.placeOf q test.name "xml", content, true⟩]) where
  apart filing within name other extension kind := by
    rcases List.mem_append.mp within with within | within
    · exact part.apart filing within name other extension kind
    · obtain rfl := List.mem_singleton.mp within
      intro same
      exact other (Journal.placeOf_inj same (length_of_kind kind).symm).1.symm
  fields bytes := by
    rw [filed_append, part.fields, filed_cons, filed_nil, Filing.on_other (xml_ne_csv _ _)]
  document held := by
    rw [filed_append, filed_cons, filed_nil, Filing.on_anew]
    rfl

end IsPart

/-- **The part of a test that is open**: its opening and its runs. -/
theorem IsPart.of_opening {start : FileTree} {test : Test} {runs : List FinishedRun} (number : Nat)
    (reported : ∀ run ∈ runs, Reported setup journal q start test.name run) :
    IsPart journal q test runs [] none
      ([⟨journal.placeOf q none "txt", Utf8.encode (openingOf journal number test), false⟩] ++
        runs.flatMap (runFilings journal q (journal.tableOf test) test.name)) :=
  IsPart.behind (.of_runs fun run among name _ => (reported run among).log_ne name)
    (Journal.spares_text _ _)

/-- The document that a test has come to, if it is selected. -/
def FinishedTest.document? (setup : Setup σ) (journal : Journal) (test : FinishedTest) :
    Option Bytes :=
  if setup.settings.selects test.test.name then
    some (Utf8.encode (documentAfter journal test.test test.runs test.times).text)
  else none

/-- **The part of a test that is over**, or has been left out. -/
theorem TestReported.isPart {start : FileTree} {test : FinishedTest}
    (reported : TestReported setup journal q start test) :
    IsPart journal q test.test test.runs [] (test.document? setup journal)
      (testFilings setup journal q test) := by
  rw [testFilings, FinishedTest.document?]
  split
  next selected =>
    have opened := IsPart.of_opening test.number reported.runs
    have closed := (opened.close
      (Utf8.encode (documentAfter journal test.test test.runs test.times).text)).before
        (Journal.spares_text (Utf8.encode (closingOf journal test.number test.test test.times))
          false)
    rwa [List.append_assoc] at closed
  next left =>
    rw [reported.left (by simpa using left)]
    exact .of_spares (Journal.spares_text _ _)

/-! ### The reports of one test -/

/-- **The tab-separated report of a test lists runs**: it has a line for each of them behind its
titles. -/
def Lists (journal : Journal) (files : FileTree) (test : Test) (runs : List FinishedRun) : Prop :=
  files.read (journal.reportPath test.name "csv") =
    .ok (Utf8.encode (Separated.header journal.titles ++ linesOf journal runs))

/-- **The document of a test tells of runs**: it has an element for each of them. -/
def Documents (journal : Journal) (files : FileTree) (test : Test) (runs : List FinishedRun)
    (times : Times) : Prop :=
  files.read (journal.reportPath test.name "xml") =
    .ok (Utf8.encode (documentAfter journal test runs times).text)

/-- **A document that is as it was before.** -/
def KeepsDocument (journal : Journal) (made files : FileTree) (test : Test) : Prop :=
  files.read (journal.reportPath test.name "xml") = made.read (journal.reportPath test.name "xml")

/-! ### A benchmark in parts -/

/-- **A test of a benchmark** with what it has filed. -/
structure TestPart where
  test : Test
  runs : List FinishedRun := []
  /-- What there is of a further line in the tab-separated report. -/
  rest : Bytes := []
  /-- What there is of a document. -/
  document? : Option Bytes := none
  filings : List Filing := []

/-- The part of a test that is over. -/
def FinishedTest.part (setup : Setup σ) (journal : Journal) (q : List String)
    (test : FinishedTest) : TestPart :=
  { test := test.test
    runs := test.runs
    document? := test.document? setup journal
    filings := testFilings setup journal q test }

/-- The part of a test that has not begun. -/
def unbegun (test : Test) : TestPart := { test }

/-- **A benchmark in parts**: behind the beginning each test has filed its part. -/
structure Parted (setup : Setup σ) (journal : Journal) (q : List String) (header : String)
    (parts : List TestPart) (made files : FileTree) : Prop where
  tests_eq : parts.map TestPart.test = setup.benchmark.tests
  filings : journal.Filed q made files
    (startFilings setup journal q header ++ parts.flatMap TestPart.filings)
  parts : ∀ part ∈ parts,
    IsPart journal q part.test part.runs part.rest part.document? part.filings
  writable : ∀ test ∈ setup.benchmark.tests, setup.settings.selects test.name = true →
    journal.Writable test.name "csv"

namespace Parted

variable {header : String} {parts : List TestPart} {made files : FileTree} {part : TestPart}

theorem mem_tests (parted : Parted setup journal q header parts made files)
    (within : part ∈ parts) : part.test ∈ setup.benchmark.tests := by
  rw [← parted.tests_eq]
  exact List.mem_map_of_mem within

/-- What the parts put into a report of a test with a name of its own is what its part puts
there. -/
theorem filed_parts (parted : Parted setup journal q header parts made files)
    (within : part ∈ parts) (once : (setup.benchmark.tests.map Test.name).count part.test.name ≤ 1)
    {extension : String} (kind : extension ∈ ["csv", "xml"]) {held : Option Bytes} :
    filed (parts.flatMap TestPart.filings) (journal.placeOf q part.test.name extension) held =
      filed part.filings (journal.placeOf q part.test.name extension) held := by
  have names : (parts.map fun part => part.test.name) = setup.benchmark.tests.map Test.name := by
    rw [← parted.tests_eq, List.map_map]
    rfl
  exact filed_flatMap_of_mem within (names ▸ once) fun other among apart filing inside =>
    (parted.parts other among).apart filing inside _ apart.symm extension kind

/-- **The tab-separated report of a test** lists the runs of its part, and ends as it does. -/
theorem csv (parted : Parted setup journal q header parts made files) (within : part ∈ parts)
    (selected : setup.settings.selects part.test.name = true)
    (once : (setup.benchmark.tests.map Test.name).count part.test.name ≤ 1) :
    files.read (journal.reportPath part.test.name "csv") =
      .ok (Utf8.encode (Separated.header journal.titles ++ linesOf journal part.runs) ++
        part.rest) := by
  have mem := parted.mem_tests within
  refine parted.filings.orderly.read (parted.writable _ mem selected) ?_
  rw [parted.filings.report, filed_append, filed_start_once once mem selected,
    parted.filed_parts within once (by decide), (parted.parts part within).fields,
    Utf8.encode_append]

theorem lists (parted : Parted setup journal q header parts made files) (within : part ∈ parts)
    (selected : setup.settings.selects part.test.name = true)
    (once : (setup.benchmark.tests.map Test.name).count part.test.name ≤ 1)
    (whole : part.rest = []) : Lists journal files part.test part.runs := by
  have fields := parted.csv within selected once
  rwa [whole, List.append_nil] at fields

/-- **The document of a test** is its own if it has come to it, and the one before otherwise. -/
theorem xml (parted : Parted setup journal q header parts made files) (within : part ∈ parts)
    (once : (setup.benchmark.tests.map Test.name).count part.test.name ≤ 1) :
    files.contentAt (journal.placeOf q part.test.name "xml") =
      part.document?.or (made.contentAt (journal.placeOf q part.test.name "xml")) := by
  have start : ∀ filing ∈ startFilings setup journal q header,
      filing.place ≠ journal.placeOf q part.test.name "xml" := by
    intro filing within same
    rcases place_of_mem_startFilings within with text | ⟨test, -, -, fields⟩
    · exact xml_ne_text _ _ (same.symm.trans text)
    · exact xml_ne_csv _ _ (same.symm.trans fields)
  rw [parted.filings.report, filed_append, filed_of_forall_ne start,
    parted.filed_parts within once (by decide), (parted.parts part within).document]

/-- A document that a test has come to is read. -/
theorem read_document (parted : Parted setup journal q header parts made files)
    (within : part ∈ parts) (selected : setup.settings.selects part.test.name = true)
    (once : (setup.benchmark.tests.map Test.name).count part.test.name ≤ 1) {content : Bytes}
    (come : part.document? = some content) :
    files.read (journal.reportPath part.test.name "xml") = .ok content := by
  have mem := parted.mem_tests within
  refine parted.filings.orderly.read (parted.writable _ mem selected).xml_of_csv ?_
  rw [parted.xml within once, come]
  rfl

/-- The document of a test that has not come to it is what was there before. -/
theorem keepsDocument (parted : Parted setup journal q header parts made files)
    (orderly : journal.Orderly q made) (within : part ∈ parts)
    (selected : setup.settings.selects part.test.name = true)
    (once : (setup.benchmark.tests.map Test.name).count part.test.name ≤ 1)
    (none_ : part.document? = none) : KeepsDocument journal made files part.test := by
  have mem := parted.mem_tests within
  refine orderly.read_congr parted.filings.orderly (parted.writable _ mem selected).xml_of_csv ?_
  rw [parted.xml within once, none_, Option.none_or]

/-- A test that is over has a document of its runs. -/
theorem documents (parted : Parted setup journal q header parts made files) {test : FinishedTest}
    (within : test.part setup journal q ∈ parts)
    (selected : setup.settings.selects test.test.name = true)
    (once : (setup.benchmark.tests.map Test.name).count test.test.name ≤ 1) :
    Documents journal files test.test test.runs test.times := by
  refine parted.read_document within selected once ?_
  change test.document? setup journal = _
  rw [FinishedTest.document?, if_pos selected]

end Parted

/-! ### Tests up to one of them -/

/-- **The parts of tests up to one of them**: those before it are over, and those behind it have not
begun. -/
def partsOf (setup : Setup σ) (journal : Journal) (q : List String) (tests : List FinishedTest)
    (last : TestPart) (later : List Test) : List TestPart :=
  tests.map (FinishedTest.part setup journal q) ++ last :: later.map unbegun

section PartsOf

variable {tests : List FinishedTest} {last : TestPart} {later : List Test}

theorem part_mem_partsOf {test : FinishedTest} (within : test ∈ tests) :
    test.part setup journal q ∈ partsOf setup journal q tests last later :=
  List.mem_append_left _ (List.mem_map_of_mem within)

theorem last_mem_partsOf : last ∈ partsOf setup journal q tests last later :=
  List.mem_append_right _ List.mem_cons_self

theorem unbegun_mem_partsOf {test : Test} (within : test ∈ later) :
    unbegun test ∈ partsOf setup journal q tests last later :=
  List.mem_append_right _ (List.mem_cons_of_mem _ (List.mem_map_of_mem within))

theorem flatMap_partsOf : (partsOf setup journal q tests last later).flatMap TestPart.filings =
    tests.flatMap (testFilings setup journal q) ++ last.filings := by
  have nothing : (later.map unbegun).flatMap TestPart.filings = [] := by
    rw [List.flatMap_map]
    exact List.flatMap_eq_nil_iff.mpr fun _ _ => rfl
  rw [partsOf, List.flatMap_append, List.flatMap_cons, nothing, List.append_nil, List.flatMap_map]
  rfl

/-- **A benchmark up to one of its tests is in parts.** -/
theorem parted_partsOf {header : String} {start made files : FileTree}
    (tests_eq : setup.benchmark.tests = tests.map FinishedTest.test ++ last.test :: later)
    (filed : journal.Filed q made files (startFilings setup journal q header ++
      tests.flatMap (testFilings setup journal q) ++ last.filings))
    (reported : ∀ test ∈ tests, TestReported setup journal q start test)
    (part : IsPart journal q last.test last.runs last.rest last.document? last.filings)
    (writable : ∀ test ∈ setup.benchmark.tests, setup.settings.selects test.name = true →
      journal.Writable test.name "csv") :
    Parted setup journal q header (partsOf setup journal q tests last later) made files where
  tests_eq := by
    rw [tests_eq, partsOf, List.map_append, List.map_cons, List.map_map, List.map_map]
    congr 2
    exact List.map_id later
  filings := by
    rwa [flatMap_partsOf, ← List.append_assoc]
  parts := by
    intro part' within
    rcases List.mem_append.mp within with within | within
    · obtain ⟨test, mem, rfl⟩ := List.mem_map.mp within
      exact (reported test mem).isPart
    rcases List.mem_cons.mp within with rfl | within
    · exact part
    · obtain ⟨test, -, rfl⟩ := List.mem_map.mp within
      exact .of_spares .nil
  writable := writable

end PartsOf

end VerifierTrials.Trial
