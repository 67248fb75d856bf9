import Mathlib.Data.List.Forall2
import VerifierTrials.Proofs.Report.Documents
import VerifierTrials.Proofs.Report.Spacing
import VerifierTrials.Proofs.Trial.Beginning

/-!
# Reports that agree

Three reports tell of a run, and all of them are made of the same fields (`Journal.shownOf`): its
file, its status, its times, and a value for each column. A line of the text report has them in its
slots, filled up with spaces, a line of the tab-separated report has them between tabs, and the
document has them in an element of the run, where they are found when the document is read as XML
(`Trial.ShownAlike`). The elements of a document are those of the runs, one for each, in their order
(`Trial.exists_shownAlike`).
-/

namespace VerifierTrials

open VerifierTrials.Xml

/-- **The fields of a run** in the reports. -/
def Journal.shownOf (journal : Journal) (run : RunReport) : List String :=
  [run.file, run.status.text, run.cpuTime.text journal.places, run.wallTime.text journal.places] ++
    run.cells.map Cell.value

/-- The fields that an element of a run shows. -/
def Xml.Element.shown (element : Element) : List String :=
  (element.attribute? "name").toList ++
    (element.childrenNamed "column").filterMap (·.attribute? "value")

/-- The titles that an element of a run shows them under, all but the first. -/
def Xml.Element.titles (element : Element) : List String :=
  (element.childrenNamed "column").filterMap (·.attribute? "title")

namespace Trial

/-! ### One run -/

/-- **A run that is shown alike in all reports.** Its line in the text report, its line in the
tab-separated report and an element in the document have the same fields, and there is exactly one
value for each title. -/
structure ShownAlike (journal : Journal) (table : Table) (run : RunReport) (element : Element) :
    Prop where
  values : run.cells.map Cell.title = journal.titles
  row : ∃ slots : List Slot, journal.rowOf table run = Slot.row slots ++ "\n" ∧
    slots.map Slot.text = journal.shownOf run
  fields : journal.fieldsOf run = Text.join "\t" (journal.shownOf run) ++ "\n"
  shown : element.shown = journal.shownOf run
  titles : element.titles = ["status", "cputime", "walltime"] ++ journal.titles

variable {journal : Journal} {run : RunReport}

/-- A row has a slot for each of its fields, if there are as many columns as values. -/
theorem text_slots {table : Table} {file status cpu wall : String} {values : List String}
    (wide : values.length ≤ table.widths.length) :
    (table.slots file status cpu wall values).map Slot.text =
      [file, status, cpu, wall] ++ values := by
  have further : (List.zipWith (fun value width => Slot.atRight width value) values
      table.widths).map Slot.text = values := by
    rw [← List.map_uncurry_zip_eq_zipWith, List.map_map]
    exact List.map_fst_zip wide
  rw [Table.slots, List.map_append, further]
  rfl

/-- The element of a run shows its name and the values of its cells. -/
theorem shown_runNode (run : RunElement) (depth : Nat) :
    ((TestDocument.runNode run).element depth).shown = run.name :: run.cells.map Cell.value := by
  have values : (fun column : Element => column.attribute? "value") ∘ (fun cell : Cell =>
      Node.element (depth + 1) (.leaf "column" [("title", cell.title), ("value", cell.value)])) =
        some ∘ Cell.value := rfl
  rw [Element.shown, TestDocument.columns_runNode, List.filterMap_map, values,
    List.filterMap_eq_map]
  rfl

/-- It shows the values under the titles of the cells. -/
theorem titles_runNode (run : RunElement) (depth : Nat) :
    ((TestDocument.runNode run).element depth).titles = run.cells.map Cell.title := by
  have titles : (fun column : Element => column.attribute? "title") ∘ (fun cell : Cell =>
      Node.element (depth + 1) (.leaf "column" [("title", cell.title), ("value", cell.value)])) =
        some ∘ Cell.title := rfl
  rw [Element.titles, TestDocument.columns_runNode, List.filterMap_map, titles,
    List.filterMap_eq_map]

/-- **The element of a run in its document** shows it as the lines of the other reports do. -/
theorem shownAlike_element (values : run.cells.map Cell.title = journal.titles) {table : Table}
    (wide : table.widths.length = journal.titles.length) (options : List ToolOption)
    (depth : Nat) :
    ShownAlike journal table run
      ((TestDocument.runNode (journal.elementFor run options)).element depth) where
  values
  row := by
    refine ⟨table.slots run.file run.status.text (run.cpuTime.text journal.places)
      (run.wallTime.text journal.places) (run.cells.map Cell.value), ?_, ?_⟩
    · rw [Table.row_slots]
      rfl
    · refine text_slots (Nat.le_of_eq ?_)
      rw [wide, ← values, List.length_map, List.length_map]
  fields := rfl
  shown := shown_runNode _ depth
  titles := by
    rw [titles_runNode, ← values]
    rfl

/-! ### The keys of a document -/

variable {σ : Type} {setup : Setup σ} {machine : Machine} {desk : Desk} {state : σ}

/-- The keys that a document may have. -/
def documentKeys : List String :=
  ["benchmarkname", "date", "tool", "version", "memlimit", "timelimit", "options", "name"]

/-- The keys of a document are some of these, in this order. -/
theorem keys_sublist (test : Test) :
    (((journalOf setup machine desk state).documentOf test).attributes.map Prod.fst).Sublist
      documentKeys := by
  have optional : ∀ (key : String) (value : Option String),
      ((value.toList.map fun text => (key, text)).map Prod.fst).Sublist [key] := by
    rintro key (_ | _)
    · exact List.nil_sublist _
    · exact List.Sublist.refl _
  simp only [Journal.documentOf, TestDocument.begin, journalOf, Journal.blank, List.map_append]
  have front := (optional "memlimit" (Journal.memoryText? setup.benchmark.limits)).append_left
    ["benchmarkname", "date", "tool", "version"]
  have middle := front.append (optional "timelimit" (Journal.timeText? setup.benchmark.limits))
  exact (middle.append (.refl ["options"])).append (optional "name" test.name)

/-- A document can be read, and it has an element for each run of its test. -/
theorem exists_tree_documentAfter (test : Test) (runs : List FinishedRun) (times : Times) :
    let journal := journalOf setup machine desk state
    ∃ root, Xml.tree (documentAfter journal test runs times).text = .ok root ∧
      root.childrenNamed "sourcefile" = (elementsOf journal runs).map fun run =>
        (TestDocument.runNode run).element 1 := by
  have keys := @keys_sublist _ setup machine desk state test
  have sound : ∀ key ∈ documentKeys, isKey key = true := by decide
  refine TestDocument.exists_tree_text (List.forall_mem_map.mp fun key within =>
    sound key (keys.subset within)) (keys.nodup (by decide))

/-- **The document of a test tells of the files of its runs.** -/
theorem sourcesOf_documentAfter (test : Test) (runs : List FinishedRun) (times : Times) :
    TestDocument.sourcesOf
        (documentAfter (journalOf setup machine desk state) test runs times).text =
      runs.map fun run => run.report.file := by
  obtain ⟨root, read, elements⟩ := @exists_tree_documentAfter _ setup machine desk state test runs
    times
  rw [TestDocument.sourcesOf, read]
  dsimp only
  rw [elements, elementsOf, List.map_map, List.map_map]
  exact List.map_congr_left fun run _ => rfl

/-! ### All runs of a test -/

/-- **The reports of a test agree** on its runs, one after the other. -/
theorem exists_shownAlike {test : Test} {runs : List FinishedRun} (times : Times)
    (values : ∀ run ∈ runs, run.report.cells.map Cell.title =
      (journalOf setup machine desk state).titles) :
    let journal := journalOf setup machine desk state
    ∃ root, Xml.tree (documentAfter journal test runs times).text = .ok root ∧
      List.Forall₂ (fun run element =>
          ShownAlike journal (journal.tableOf test) run.report element)
        runs (root.childrenNamed "sourcefile") := by
  intro journal
  obtain ⟨root, read, elements⟩ := @exists_tree_documentAfter _ setup machine desk state test runs
    times
  have wide : (journal.tableOf test).widths.length = journal.titles.length := by
    rw [Journal.tableOf, Table.layout, List.length_map]
  refine ⟨root, read, ?_⟩
  rw [elements, elementsOf, List.map_map, List.forall₂_map_right_iff]
  exact List.forall₂_same.mpr fun run among =>
    shownAlike_element (values run among) wide run.item.options 1

end Trial

end VerifierTrials
