import VerifierTrials.Proofs.Xml.Printing
import VerifierTrials.Report.Document

/-!
# Reading the report of a test

The document of a test is written by one part of the benchmark, and documents are read by
another, which reads definitions. The two agree: whatever is entered in a document, its text is
read as the tree that says so (`TestDocument.tree_text_foldl_enter`). This tree is spelled out here
(`TestDocument.reported`), from what was entered and not from what was written.

Only the keys of the root's attributes have to be names. All other texts in a document are
values, and these are read as they were written, whatever is in them.
-/

namespace VerifierTrials

open VerifierTrials.Xml

/-- **What is entered in a document** once it has begun. -/
inductive DocumentEntry where
  | run (run : RunElement)
  | times (cpu wall : String)
  deriving DecidableEq, Repr

namespace DocumentEntry

/-- The run that is entered. -/
def run? : DocumentEntry → Option RunElement
  | run element => some element
  | times _ _ => none

/-- The times that are entered. -/
def times? : DocumentEntry → Option (String × String)
  | run _ => none
  | times cpu wall => some (cpu, wall)

end DocumentEntry

namespace TestDocument

/-- The document with one more entry. -/
def enter (document : TestDocument) : DocumentEntry → TestDocument
  | .run run => document.addRun run
  | .times cpu wall => document.setTimes cpu wall

/-! ### What a document says -/

/-- The machine of a test. -/
def reportedMachine (machine : Machine) : Element where
  name := "systeminfo"
  children :=
    [{ name := "os", attributes := [("name", machine.system)] },
      { name := "cpu",
        attributes := [("model", machine.processor), ("cores", machine.cores),
          ("frequency", machine.frequency)] },
      { name := "ram", attributes := [("size", machine.memory)] }]

/-- The columns of a test: three that every test has, and further ones. -/
def reportedColumns (titles : List String) : Element where
  name := "columns"
  children := ("status" :: "cputime" :: "walltime" :: titles).map fun title =>
    { name := "column", attributes := [("title", title)] }

/-- A run of a test. There are options only if they are known. -/
def reportedRun (run : RunElement) : Element where
  name := "sourcefile"
  attributes :=
    match run.options with
    | some options => [("name", run.name), ("options", options)]
    | none => [("name", run.name)]
  children := run.cells.map fun cell =>
    { name := "column", attributes := [("title", cell.title), ("value", cell.value)] }

/-- The times of a test. -/
def reportedTimes (times : String × String) : Element where
  name := "time"
  attributes := [("cputime", times.1), ("walltime", times.2)]

/-- **What a document says**, texts apart: all runs that were entered, in order, and the times
that were entered last, if any were. -/
def reported (attributes : List (String × String)) (machine : Machine) (titles : List String)
    (entries : List DocumentEntry) : Element where
  name := "test"
  attributes := attributes
  children :=
    reportedMachine machine :: reportedColumns titles ::
      ((entries.filterMap DocumentEntry.run?).map reportedRun ++
        (entries.filterMap DocumentEntry.times?).getLast?.toList.map reportedTimes)

/-! ### What entries leave in a document -/

/-- **Entries change a document** by the runs among them and by the last times among them. -/
theorem foldl_enter (entries : List DocumentEntry) (document : TestDocument) :
    entries.foldl enter document =
      { document with
        runs := document.runs ++ entries.filterMap DocumentEntry.run?
        times := (entries.filterMap DocumentEntry.times?).getLast?.or document.times } := by
  induction entries generalizing document with
  | nil => simp
  | cons entry entries ih =>
    rw [List.foldl_cons, ih]
    cases entry with
    | run run => simp [enter, addRun, DocumentEntry.run?, DocumentEntry.times?]
    | times cpu wall =>
      -- These times last only if no others come after them.
      cases last : (entries.filterMap DocumentEntry.times?).getLast? <;>
        simp [enter, setTimes, DocumentEntry.run?, DocumentEntry.times?, List.filterMap_cons,
          List.getLast?_cons, last]

/-! ### What is written can be read -/

theorem isWritable_machineNode (machine : Machine) : (machineNode machine).isWritable = true := by
  have tags : (isTag "systeminfo" [] &&
      (isTag "os" ["name"] && (isTag "cpu" ["model", "cores", "frequency"] &&
        (isTag "ram" ["size"] && true)))) = true := by decide
  exact tags

theorem isWritable_columnsNode (titles : List String) :
    (columnsNode titles).isWritable = true := by
  have tag : isTag "columns" [] = true := by decide
  have column : isTag "column" ["title"] = true := by decide
  rw [columnsNode, Node.isWritable, Bool.and_eq_true]
  exact ⟨tag, allWritable_map_leaf column (fun _ => rfl) titles⟩

theorem isWritable_runNode (run : RunElement) : (runNode run).isWritable = true := by
  have column : isTag "column" ["title", "value"] = true := by decide
  have named : isTag "sourcefile" ["name"] = true := by decide
  have described : isTag "sourcefile" ["name", "options"] = true := by decide
  rw [runNode, Node.isWritable, Bool.and_eq_true]
  refine ⟨?_, allWritable_map_leaf column (fun _ => rfl) run.cells⟩
  cases run.options with
  | none => exact named
  | some options => exact described

/-- All names in a document are known, but for the keys of the root's attributes. -/
theorem isWritable_toNode {document : TestDocument}
    (names : ∀ entry ∈ document.attributes, isKey entry.1 = true)
    (distinct : (document.attributes.map Prod.fst).Nodup) :
    document.toNode.isWritable = true := by
  have root : isTag "test" (document.attributes.map Prod.fst) = true :=
    isTag_iff.mpr ⟨⟨by decide, names⟩, distinct⟩
  have time : isTag "time" ["cputime", "walltime"] = true := by decide
  rw [toNode, Node.isWritable, allWritable_eq, root]
  simp only [List.all_append, List.all_map, List.all_cons, List.all_nil, isWritable_machineNode,
    isWritable_columnsNode, Bool.true_and, Bool.and_eq_true, List.all_eq_true]
  refine ⟨fun run _ => isWritable_runNode run, ?_⟩
  rintro ⟨cpu, wall⟩ _
  rw [Function.comp_apply, Node.isWritable]
  exact time

/-! ### What is read -/

theorem bare_columnsNode (titles : List String) :
    (columnsNode (fixedTitles ++ titles)).bare = reportedColumns titles := by
  rw [columnsNode, Node.bare, bareNodes_eq, List.map_map]
  rfl

theorem bare_runNode (run : RunElement) : (runNode run).bare = reportedRun run := by
  rw [runNode, Node.bare, bareNodes_eq, List.map_map, reportedRun]
  cases run.options <;> rfl

/-- **Without its texts, a document is what it says.** -/
theorem bare_toNode_foldl_enter (attributes : List (String × String)) (machine : Machine)
    (titles : List String) (entries : List DocumentEntry) :
    (entries.foldl enter (begin attributes machine titles)).toNode.bare =
      reported attributes machine titles entries := by
  rw [foldl_enter, begin, toNode, Node.bare, bareNodes_eq, reported, List.map_append,
    List.map_append, List.map_map, List.map_map, List.nil_append, Option.or_none]
  have runs : Node.bare ∘ runNode = reportedRun := funext bare_runNode
  rw [runs, List.map_cons, List.map_cons, bare_columnsNode]
  rfl

/-- **The text of a document is read as what was entered in it.** The root has its attributes in
order; in it are the machine, the titles, all runs that were entered, in order, and the times, if
any were entered. Between these there is white space only. -/
theorem tree_text_foldl_enter (attributes : List (String × String)) (machine : Machine)
    (titles : List String) (entries : List DocumentEntry)
    (names : ∀ entry ∈ attributes, isXmlName entry.1 = true)
    (distinct : (attributes.map Prod.fst).Nodup) :
    ∃ root, tree (entries.foldl enter (begin attributes machine titles)).text = .ok root ∧
      root.bare = reported attributes machine titles entries ∧
      ∀ text ∈ root.texts, isLayout text = true := by
  let document := entries.foldl enter (begin attributes machine titles)
  have same : document.attributes = attributes := by
    rw [show document = _ from foldl_enter entries _]
    rfl
  have writable : document.toNode.isWritable = true := by
    refine isWritable_toNode ?_ ?_
    · rw [same]
      exact fun entry among => isKey_of_isXmlName (names entry among)
    · rwa [same]
  refine ⟨document.toNode.element 0, tree_renderDocument writable, ?_,
    isLayout_of_mem_texts_element 0 document.toNode⟩
  rw [bare_element]
  exact bare_toNode_foldl_enter attributes machine titles entries

/-- Two runs, of which one has options, with all that has to be escaped in their values; the
times are entered twice, before the second run and after it. -/
theorem tree_text_foldl_enter_two : ∃ root,
    tree (List.foldl enter
      (begin [("benchmarkname", "a \"b\" & <c>"), ("_x-1", "\n'")]
        ⟨"Linux", "Xeon", "8", "2600 MHz", "16 kB"⟩ ["total <s>"])
      [.run ⟨"a.c", some "-spec x<y", [⟨"status", "safe & \"sound\""⟩]⟩, .times "1" "2",
        .run ⟨"b.c", none, []⟩, .times "3" "4"]).text = .ok root ∧
      root.bare =
        { name := "test"
          attributes := [("benchmarkname", "a \"b\" & <c>"), ("_x-1", "\n'")]
          children :=
            [reportedMachine ⟨"Linux", "Xeon", "8", "2600 MHz", "16 kB"⟩,
              reportedColumns ["total <s>"],
              { name := "sourcefile"
                attributes := [("name", "a.c"), ("options", "-spec x<y")]
                children := [{ name := "column"
                               attributes := [("title", "status"),
                                 ("value", "safe & \"sound\"")] }] },
              { name := "sourcefile", attributes := [("name", "b.c")] },
              { name := "time", attributes := [("cputime", "3"), ("walltime", "4")] }] } ∧
      ∀ text ∈ root.texts, isLayout text = true :=
  tree_text_foldl_enter _ _ _ _ (by decide) (by decide)

/-! ### The sources in a document -/

/-- The sources that are read in a document are the elements of its runs. -/
theorem exists_tree_text {document : TestDocument}
    (names : ∀ entry ∈ document.attributes, isKey entry.1 = true)
    (distinct : (document.attributes.map Prod.fst).Nodup) :
    ∃ root, tree document.text = .ok root ∧
      root.childrenNamed "sourcefile" = document.runs.map fun run => (runNode run).element 1 := by
  refine ⟨document.toNode.element 0, tree_renderDocument (isWritable_toNode names distinct), ?_⟩
  have children : (document.toNode.element 0).children =
      elementsAt 1 ([machineNode document.machine, columnsNode document.titles] ++
        document.runs.map runNode ++ document.times.toList.map fun times =>
          .leaf "time" [("cputime", times.1), ("walltime", times.2)]) := rfl
  have front : ([machineNode document.machine, columnsNode document.titles].map
      (Node.element 1)).filter (fun child => child.name == "sourcefile") = [] := rfl
  have runs : ((document.runs.map runNode).map (Node.element 1)).filter
      (fun child => child.name == "sourcefile") =
        (document.runs.map runNode).map (Node.element 1) := by
    refine List.filter_eq_self.mpr fun element within => ?_
    simp only [List.map_map, List.mem_map] at within
    obtain ⟨run, -, rfl⟩ := within
    rfl
  have times : ((document.times.toList.map fun times =>
      Node.leaf "time" [("cputime", times.1), ("walltime", times.2)]).map (Node.element 1)).filter
        (fun child => child.name == "sourcefile") = [] := by
    cases document.times <;> rfl
  rw [Element.childrenNamed, children, elementsAt_eq, List.map_append, List.map_append,
    List.filter_append, List.filter_append, front, runs, times, List.append_nil, List.nil_append,
    List.map_map]
  rfl

/-- The columns that are read in the element of a run are its cells. -/
theorem columns_runNode (run : RunElement) (depth : Nat) :
    ((runNode run).element depth).childrenNamed "column" = run.cells.map fun cell =>
      Node.element (depth + 1) (.leaf "column" [("title", cell.title), ("value", cell.value)]) := by
  have children : ((runNode run).element depth).children = elementsAt (depth + 1)
      (run.cells.map fun cell => .leaf "column" [("title", cell.title), ("value", cell.value)]) :=
    rfl
  rw [Element.childrenNamed, children, elementsAt_eq, List.map_map]
  refine List.filter_eq_self.mpr fun element within => ?_
  obtain ⟨cell, -, rfl⟩ := List.mem_map.mp within
  rfl

/-- **The sources that a document tells of**, as its text is read. -/
def sourcesOf (text : String) : List String :=
  match tree text with
  | .ok root =>
    (root.childrenNamed "sourcefile").map fun run => (run.attribute? "name").getD ""
  | .error _ => []

end TestDocument

end VerifierTrials
