import VerifierTrials.Proofs.Trial.Effects

/-!
# What the reports hold

The filings of a benchmark are one list, and a report is what that list comes to at one place.
Here the list is gone through for each kind of report: the filings at other places drop out,
since different reports have different places and no log takes the place of a report, and what
is left are the texts that the report is made of (`textOf`, `linesOf`, `documentAfter`).
-/

namespace VerifierTrials

variable {p : List String} {held : Option Bytes}

/-! ### Filings at one place -/

theorem Filing.on_other {place : List String} {content : Bytes} {anew : Bool}
    (other : place ≠ p) : (⟨place, content, anew⟩ : Filing).on p held = held :=
  if_neg (Ne.symm other)

theorem Filing.on_anew (content : Bytes) :
    (⟨p, content, true⟩ : Filing).on p held = some content := by
  simp [on]

theorem Filing.on_appended (content : Bytes) (held : Option Bytes) :
    (⟨p, content, false⟩ : Filing).on p held = some (held.getD [] ++ content) := by
  simp [on]

theorem Filing.on_behind (content bytes : Bytes) :
    (⟨p, content, false⟩ : Filing).on p (some bytes) = some (bytes ++ content) :=
  on_appended content (some bytes)

theorem filed_nil : filed [] p held = held := rfl

/-- Of things that file under keys only the one with a key of its own files at a place of that
key. -/
theorem filed_flatMap_of_mem {α κ : Type} [BEq κ] [LawfulBEq κ] {items : List α} {f : α → List Filing}
    {key : α → κ} {a : α} (within : a ∈ items) (once : (items.map key).count (key a) ≤ 1)
    (others : ∀ b ∈ items, key b ≠ key a → ∀ filing ∈ f b, filing.place ≠ p) :
    filed (items.flatMap f) p held = filed (f a) p held := by
  obtain ⟨before, after, rfl⟩ := List.append_of_mem within
  rw [List.map_append, List.map_cons, List.count_append, List.count_cons_self] at once
  -- the key stands nowhere else, neither before nor after
  have first : key a ∉ before.map key := List.count_eq_zero.mp (by omega)
  have last : key a ∉ after.map key := List.count_eq_zero.mp (by omega)
  have apart : ∀ part : List α, (∀ b ∈ part, b ∈ before ++ a :: after) → key a ∉ part.map key →
      ∀ held, filed (part.flatMap f) p held = held := fun part among absent held =>
    filed_flatMap_of_forall_ne fun b mem => others b (among b mem) fun same =>
      absent (same ▸ List.mem_map_of_mem mem)
  rw [List.flatMap_append, List.flatMap_cons, filed_append, filed_append,
    apart before (fun b mem => by simp [mem]) first,
    apart after (fun b mem => by simp [mem]) last]

namespace Trial

variable {σ : Type} {setup : Setup σ} {journal : Journal} {q : List String} {table : Table}
  {name : Option String} {runs : List FinishedRun} {bytes : Bytes}

/-! ### Places of reports -/

theorem placeOf_ne_of_kind {test other : Option String} {extension extension' : String}
    (lengths : extension.length = extension'.length) (kinds : extension ≠ extension') :
    journal.placeOf q test extension ≠ journal.placeOf q other extension' :=
  fun same => kinds (Journal.placeOf_inj same lengths).2

theorem placeOf_ne_of_test {test other : Option String} {extension : String}
    (tests : test ≠ other) : journal.placeOf q test extension ≠ journal.placeOf q other extension :=
  fun same => tests (Journal.placeOf_inj same rfl).1

theorem length_of_kind {extension : String} (kind : extension ∈ ["csv", "xml"]) :
    extension.length = 3 := by
  obtain rfl | rfl : extension = "csv" ∨ extension = "xml" := by simpa using kind
  all_goals decide

theorem csv_ne_text (test other : Option String) :
    journal.placeOf q test "csv" ≠ journal.placeOf q other "txt" :=
  placeOf_ne_of_kind (by decide) (by decide)

theorem xml_ne_text (test other : Option String) :
    journal.placeOf q test "xml" ≠ journal.placeOf q other "txt" :=
  placeOf_ne_of_kind (by decide) (by decide)

theorem xml_ne_csv (test other : Option String) :
    journal.placeOf q test "xml" ≠ journal.placeOf q other "csv" :=
  placeOf_ne_of_kind (by decide) (by decide)

/-! ### What runs put into the reports -/

/-- The lines of runs in the text report. -/
def rowsOf (journal : Journal) (table : Table) (runs : List FinishedRun) : String :=
  String.join (runs.map fun run => journal.rowOf table run.report)

/-- The lines of runs in the tab-separated report. -/
def linesOf (journal : Journal) (runs : List FinishedRun) : String :=
  String.join (runs.map fun run => journal.fieldsOf run.report)

theorem filed_runs_text (logs : ∀ run ∈ runs, run.log ≠ journal.placeOf q none "txt") :
    filed (runs.flatMap (runFilings journal q table name)) (journal.placeOf q none "txt")
        (some bytes) =
      some (bytes ++ Utf8.encode (rowsOf journal table runs)) := by
  induction runs generalizing bytes with
  | nil => simp [filed_nil, rowsOf, Utf8.encode_empty]
  | cons run runs ih =>
    rw [List.flatMap_cons, filed_append, runFilings, filed_cons, filed_cons, filed_cons, filed_nil,
      Filing.on_other (logs run (by simp)), Filing.on_behind,
      Filing.on_other (csv_ne_text name none), ih fun other within => logs other (by simp [within])]
    simp [rowsOf, String.join_cons, Utf8.encode_append]

theorem filed_runs_fields (logs : ∀ run ∈ runs, run.log ≠ journal.placeOf q name "csv") :
    filed (runs.flatMap (runFilings journal q table name)) (journal.placeOf q name "csv")
        (some bytes) =
      some (bytes ++ Utf8.encode (linesOf journal runs)) := by
  induction runs generalizing bytes with
  | nil => simp [filed_nil, linesOf, Utf8.encode_empty]
  | cons run runs ih =>
    rw [List.flatMap_cons, filed_append, runFilings, filed_cons, filed_cons, filed_cons, filed_nil,
      Filing.on_other (logs run (by simp)), Filing.on_other (csv_ne_text name none).symm,
      Filing.on_behind, ih fun other within => logs other (by simp [within])]
    simp [linesOf, String.join_cons, Utf8.encode_append]

theorem filed_runs_elsewhere (logs : ∀ run ∈ runs, run.log ≠ p)
    (text : journal.placeOf q none "txt" ≠ p) (fields : journal.placeOf q name "csv" ≠ p) :
    filed (runs.flatMap (runFilings journal q table name)) p held = held := by
  refine filed_flatMap_of_forall_ne fun run mem filing inside => ?_
  simp only [runFilings, List.mem_cons, List.not_mem_nil, or_false] at inside
  rcases inside with rfl | rfl | rfl
  · exact logs run mem
  · exact text
  · exact fields

/-! ### What tests put into the reports -/

variable {test : FinishedTest} {tests : List FinishedTest} {start : FileTree}

/-- **The part of the text report that a test has.** -/
def textOf (setup : Setup σ) (journal : Journal) (test : FinishedTest) : String :=
  if setup.settings.selects test.test.name then
    openingOf journal test.number test.test ++
      rowsOf journal (journal.tableOf test.test) test.runs ++
        closingOf journal test.number test.test test.times
  else Table.skipped test.test.name test.number journal.testCount

theorem filed_test_text (reported : TestReported setup journal q start test) :
    filed (testFilings setup journal q test) (journal.placeOf q none "txt") (some bytes) =
      some (bytes ++ Utf8.encode (textOf setup journal test)) := by
  have logs : ∀ run ∈ test.runs, run.log ≠ journal.placeOf q none "txt" :=
    fun run within => (reported.runs run within).log_ne none (by decide)
  rw [testFilings, textOf]
  split
  · simp only [filed_append, filed_cons, filed_nil]
    rw [Filing.on_behind, filed_runs_text logs, Filing.on_other (xml_ne_text _ none),
      Filing.on_behind]
    simp [Utf8.encode_append]
  · rw [filed_cons, filed_nil, Filing.on_behind]

/-- The places that a test files at: those of its own reports, the text report, and those of
the logs of its runs. -/
theorem place_of_mem_testFilings {filing : Filing}
    (within : filing ∈ testFilings setup journal q test) :
    filing.place = journal.placeOf q none "txt" ∨
      (setup.settings.selects test.test.name = true ∧
        (filing.place = journal.placeOf q test.test.name "csv" ∨
          filing.place = journal.placeOf q test.test.name "xml" ∨
          ∃ run ∈ test.runs, filing.place = run.log)) := by
  rw [testFilings] at within
  split at within
  next selected =>
    simp only [List.mem_append, List.mem_cons, List.not_mem_nil, or_false, List.mem_flatMap,
      runFilings] at within
    rcases within with (rfl | ⟨run, mem, rfl | rfl | rfl⟩) | rfl | rfl
    · exact .inl rfl
    · exact .inr ⟨selected, .inr (.inr ⟨run, mem, rfl⟩)⟩
    · exact .inl rfl
    · exact .inr ⟨selected, .inl rfl⟩
    · exact .inr ⟨selected, .inr (.inl rfl)⟩
    · exact .inl rfl
  next =>
    simp only [List.mem_cons, List.not_mem_nil, or_false] at within
    rw [within]
    exact .inl rfl

/-- **The text report behind tests.** -/
theorem filed_tests_text (reported : ∀ test ∈ tests, TestReported setup journal q start test) :
    filed (tests.flatMap (testFilings setup journal q)) (journal.placeOf q none "txt")
        (some bytes) =
      some (bytes ++ Utf8.encode (String.join (tests.map (textOf setup journal)))) := by
  induction tests generalizing bytes with
  | nil => simp [filed_nil, Utf8.encode_empty]
  | cons test tests ih =>
    rw [List.flatMap_cons, filed_append, filed_test_text (reported test (by simp)),
      ih fun other within => reported other (by simp [within])]
    simp [String.join_cons, Utf8.encode_append]

/-- **The titles of a selected test**, before its first run. -/
theorem filed_titles_csv {all : List Test} {test : Test}
    (once : (all.map Test.name).count test.name ≤ 1) (within : test ∈ all)
    (selected : setup.settings.selects test.name = true) :
    filed (all.flatMap (journal.titleFilings q setup.settings)) (journal.placeOf q test.name "csv")
        held =
      some (Utf8.encode (Separated.header journal.titles)) := by
  rw [filed_flatMap_of_mem within once, Journal.titleFilings, if_pos selected, filed_cons,
    filed_nil, Filing.on_anew]
  intro other mem apart filing inside
  rw [Journal.titleFilings] at inside
  split at inside
  next =>
    obtain rfl := List.mem_singleton.mp inside
    exact placeOf_ne_of_test apart
  next => cases inside

theorem filed_titles_elsewhere {all : List Test}
    (elsewhere : ∀ test ∈ all, setup.settings.selects test.name = true →
      journal.placeOf q test.name "csv" ≠ p) :
    filed (all.flatMap (journal.titleFilings q setup.settings)) p held = held := by
  refine filed_flatMap_of_forall_ne fun test mem filing inside => ?_
  rw [Journal.titleFilings] at inside
  split at inside
  next selected =>
    obtain rfl := List.mem_singleton.mp inside
    exact elsewhere test mem selected
  next => cases inside

/-- What is filed when a journal begins. -/
def startFilings (setup : Setup σ) (journal : Journal) (q : List String) (header : String) :
    List Filing :=
  ⟨journal.placeOf q none "txt", Utf8.encode header, true⟩ ::
    setup.benchmark.tests.flatMap (journal.titleFilings q setup.settings)

theorem filed_start_text (header : String) :
    filed (startFilings setup journal q header) (journal.placeOf q none "txt") held =
      some (Utf8.encode header) := by
  rw [startFilings, filed_cons, Filing.on_anew]
  exact filed_titles_elsewhere fun test _ _ => csv_ne_text test.name none

theorem filed_start_once {header : String} {test : Test}
    (once : (setup.benchmark.tests.map Test.name).count test.name ≤ 1)
    (within : test ∈ setup.benchmark.tests)
    (selected : setup.settings.selects test.name = true) :
    filed (startFilings setup journal q header) (journal.placeOf q test.name "csv") held =
      some (Utf8.encode (Separated.header journal.titles)) := by
  rw [startFilings, filed_cons]
  exact filed_titles_csv once within selected

theorem place_of_mem_startFilings {header : String} {filing : Filing}
    (within : filing ∈ startFilings setup journal q header) :
    filing.place = journal.placeOf q none "txt" ∨
      ∃ test ∈ setup.benchmark.tests, setup.settings.selects test.name = true ∧
        filing.place = journal.placeOf q test.name "csv" := by
  rcases List.mem_cons.mp within with rfl | within
  · exact .inl rfl
  · obtain ⟨test, mem, inside⟩ := List.mem_flatMap.mp within
    rw [Journal.titleFilings] at inside
    split at inside
    next selected =>
      obtain rfl := List.mem_singleton.mp inside
      exact .inr ⟨test, mem, selected, rfl⟩
    next => cases inside

/-! ### What runs put into their logs -/

/-- What a run files in its log. -/
def logFiling (run : FinishedRun) : Filing :=
  ⟨run.log, Utf8.encode (Journal.logText run.report), true⟩

/-- Away from the reports, runs file nothing but their logs. -/
theorem filed_runs_logs (text : journal.placeOf q none "txt" ≠ p)
    (fields : journal.placeOf q name "csv" ≠ p) :
    filed (runs.flatMap (runFilings journal q table name)) p held =
      filed (runs.map logFiling) p held := by
  induction runs generalizing held with
  | nil => rfl
  | cons run runs ih =>
    rw [List.flatMap_cons, filed_append, ih, List.map_cons, runFilings]
    simp only [filed_cons, filed_nil]
    rw [Filing.on_other text, Filing.on_other fields, logFiling]

/-- Away from the reports, tests file nothing but the logs of their runs. -/
theorem filed_tests_logs (reported : ∀ test ∈ tests, TestReported setup journal q start test)
    (apart : ∀ test extension, extension ∈ ["txt", "csv", "xml"] →
      journal.placeOf q test extension ≠ p) :
    filed (tests.flatMap (testFilings setup journal q)) p held =
      filed ((tests.flatMap FinishedTest.runs).map logFiling) p held := by
  have text := apart none "txt" (by decide)
  induction tests generalizing held with
  | nil => rfl
  | cons test tests ih =>
    rw [List.flatMap_cons, filed_append, ih fun other within => reported other (by simp [within]),
      List.flatMap_cons, List.map_append, filed_append]
    congr 1
    rw [testFilings]
    split
    · simp only [filed_append, filed_cons, filed_nil]
      rw [Filing.on_other text, Filing.on_other text,
        Filing.on_other (apart _ "xml" (by decide)),
        filed_runs_logs text (apart _ "csv" (by decide))]
    next left =>
      rw [filed_cons, filed_nil, Filing.on_other text,
        (reported test (by simp)).left (by simpa using left)]
      rfl

/-- **The last run that is logged at a place** is the one that the log there tells of. -/
theorem filed_logs {earlier later : List FinishedRun} {run : FinishedRun}
    (last : ∀ other ∈ later, other.log ≠ run.log) :
    filed ((earlier ++ run :: later).map logFiling) run.log held =
      some (Utf8.encode (Journal.logText run.report)) := by
  rw [List.map_append, List.map_cons, filed_append, filed_cons, logFiling, Filing.on_anew]
  refine filed_of_forall_ne fun filing within => ?_
  obtain ⟨other, mem, rfl⟩ := List.mem_map.mp within
  exact last other mem

end Trial

end VerifierTrials
