import VerifierTrials.Proofs.FileTree.Writing
import VerifierTrials.Proofs.Path.Components
import VerifierTrials.Report.Journal

/-!
# Where reports lie

All reports of a benchmark, and the directory of its logs, have path names that begin alike
(`Journal.base`): the output directory, the benchmark and its date. Cut before the last
component, they all lead into one directory (`Orderly.cut`), and there the last component
names the report. So each report has a **place** of its own (`Journal.placeOf`), and a path
name leads to it exactly when it can be a path name at all (`Orderly.locate_iff`).

This needs a directory that is in order (`Journal.Orderly`). Reports of earlier benchmarks may
lie in it, and their log directories; but where a report goes there is at most a file, and no
symbolic link that is named like a log leads to a report. Then logs are told from reports by
the ends of their names (`Orderly.log_ne`), and they lie in the log directory as long as their
names do not lead out of it (`Orderly.locate_log_iff`).
-/

namespace VerifierTrials

open FileTree

namespace Journal

variable (journal : Journal) (q : List String)

/-- What the path names of all reports and of the log directory begin with. -/
def base : String :=
  Path.join journal.directory (journal.name ++ "." ++ journal.date ++ ".")

/-- What the names of all reports and of the log directory begin with. -/
def stem : String := Path.lastPart journal.base

/-- What a test has in the names of its reports. -/
def testPart (test : Option String) : String :=
  match test with
  | some name => name ++ "."
  | none => ""

/-- **The place of a report**, given the directory of the reports. -/
def placeOf (test : Option String) (extension : String) : List String :=
  q ++ [journal.stem ++ ("results." ++ (testPart test ++ extension))]

theorem reportPath_eq (test : Option String) (extension : String) :
    journal.reportPath test extension =
      journal.base ++ ("results." ++ (testPart test ++ extension)) := by
  have nonempty : journal.name ++ "." ++ journal.date ++ "." ≠ "" := by simp
  rw [base, ← Path.join_append _ _ nonempty]
  simp only [reportPath, String.append_assoc]
  rfl

/-! ### Directories that are in order -/

/-- **A directory for reports that is in order**: the text report goes there, whatever has
the name of a report is a file, and no symbolic link that is named like a log leads to one. -/
structure Orderly (tree : FileTree) : Prop where
  way : tree.locate false journal.textPath = .ok (journal.placeOf q none "txt")
  files : ∀ rest, AtMostFile tree (q ++ [journal.stem ++ ("results." ++ rest)])
  unlinked : ∀ path rest,
    tree.locate true (path ++ ".log") = .ok (q ++ [journal.stem ++ ("results." ++ rest)]) →
      tree.locate false (path ++ ".log") = .ok (q ++ [journal.stem ++ ("results." ++ rest)])

variable {journal q} {tree after : FileTree}

theorem Orderly.sameShape (orderly : journal.Orderly q tree) (same : SameShape tree after) :
    journal.Orderly q after :=
  ⟨same.locate orderly.way, fun rest => same.atMostFile (orderly.files rest),
    fun path rest led => same.locate (orderly.unlinked path rest (same.symm.locate led))⟩

/-! ### The way to a report -/

theorem base_ne_empty (journal : Journal) : journal.base ≠ "" :=
  Path.join_ne_empty _ (by simp)

/-- Where path names that begin like those of the reports are followed from. -/
def origin (journal : Journal) (tree : FileTree) : List String :=
  if Path.isAbsolute journal.base then [] else tree.workingDirectory

theorem locate_base_iff {takeLast : Bool} {x : String} {p : List String} :
    tree.locate takeLast (journal.base ++ x) = .ok p ↔
      (journal.base ++ x).toList.contains '\x00' = false ∧
        tree.follow takeLast linkBound (journal.origin tree)
          (Path.components (journal.base ++ x)) = .ok p := by
  have nonempty : journal.base ++ x ≠ "" := by simp [base_ne_empty]
  rw [locate_eq_ok_iff, follow_eq_ok_iff, Path.isAbsolute_append journal.base_ne_empty]
  exact ⟨fun ⟨null, _, leads⟩ => ⟨null, leads⟩, fun ⟨null, leads⟩ => ⟨null, nonempty, leads⟩⟩

theorem components_results (journal : Journal) (rest : String) : ∃ first more,
    Path.components rest = first :: more ∧
      Path.components (journal.base ++ ("results." ++ rest)) =
        Path.front journal.base ++ (journal.stem ++ ("results." ++ first)) :: more := by
  obtain ⟨first, more, parts⟩ := List.exists_cons_of_ne_nil (Path.components_ne_nil rest)
  exact ⟨first, more, parts,
    Path.components_append _ (Path.components_append "results." parts)⟩

theorem components_plain (journal : Journal) {rest : String} (plain : '/' ∉ rest.toList) :
    Path.components (journal.base ++ ("results." ++ rest)) =
      Path.front journal.base ++ [journal.stem ++ ("results." ++ rest)] :=
  Path.components_append_of_not_mem _ (by simpa using plain)

theorem proper_results (stem rest : String) :
    stem ++ ("results." ++ rest) ≠ "" ∧ stem ++ ("results." ++ rest) ≠ "." ∧
      stem ++ ("results." ++ rest) ≠ ".." := by
  refine proper_of_length ?_
  have : "results.".length = 8 := by decide
  simp only [String.length_append, this]
  omega

/-- **The way to the directory of the reports**, whatever is looked for there. -/
theorem Orderly.cut (orderly : journal.Orderly q tree) :
    ∃ left, ∀ (takeLast : Bool) (back : List String), back ≠ [] →
      tree.follow takeLast linkBound (journal.origin tree) (Path.front journal.base ++ back) =
        tree.follow takeLast left q back := by
  have led := orderly.way
  rw [textPath, reportPath_eq, locate_base_iff] at led
  have components := journal.components_plain (show '/' ∉ (testPart none ++ "txt").toList by decide)
  rw [components] at led
  obtain ⟨here, left, same⟩ := (leads_of_follow led.2).cut rfl (by simp)
  refine ⟨left, ?_⟩
  -- the cut is at `q`, since the way to the text report ends one name behind `q`
  have ended := led.2
  rw [same _ _ (by simp)] at ended
  obtain ⟨nonempty, notDot, notUp⟩ := proper_results journal.stem (testPart none ++ "txt")
  have names := names_of_follow nonempty notDot notUp ended
  rw [follow_false_name names] at ended
  obtain ⟨rfl, -⟩ := List.append_inj' (Except.ok.inj ended) rfl
  exact same

/-- What the path name of a report has to be for the report to be written at all. -/
structure Writable (journal : Journal) (test : Option String) (extension : String) : Prop where
  noNull : (journal.reportPath test extension).toList.contains '\x00' = false
  plain : '/' ∉ (testPart test ++ extension).toList
  names : Names (journal.stem ++ ("results." ++ (testPart test ++ extension)))

/-- **A report lies at its place**, by its own path name. -/
theorem Orderly.locate_iff (orderly : journal.Orderly q tree) {takeLast : Bool}
    {test : Option String} {extension : String} {p : List String} :
    tree.locate takeLast (journal.reportPath test extension) = .ok p ↔
      journal.Writable test extension ∧ p = journal.placeOf q test extension := by
  obtain ⟨left, same⟩ := orderly.cut
  constructor
  · intro led
    have null := reportPath_eq journal test extension ▸ led
    rw [locate_base_iff] at null
    obtain ⟨first, more, parts, components⟩ :=
      components_results journal (testPart test ++ extension)
    -- at the first of the remaining components there is at most a file, so it is the only one
    have ended := null.2
    rw [components, same _ _ (by simp)] at ended
    obtain ⟨nonempty, notDot, notUp⟩ := proper_results journal.stem first
    have names := names_of_follow nonempty notDot notUp ended
    obtain ⟨rfl, rfl⟩ := eq_of_follow_name names (orderly.files first) ended
    obtain ⟨rfl, plain⟩ := Path.eq_of_components parts
    exact ⟨⟨reportPath_eq journal test extension ▸ null.1, plain, names⟩, rfl⟩
  · rintro ⟨⟨null, plain, names⟩, rfl⟩
    rw [reportPath_eq] at null ⊢
    rw [locate_base_iff, journal.components_plain plain, same _ _ (by simp)]
    exact ⟨null, follow_last names (orderly.files _)⟩

/-- A report is read by its own path name. -/
theorem Orderly.read (orderly : journal.Orderly q tree) {test : Option String} {extension : String}
    (writable : journal.Writable test extension) {content : Bytes}
    (held : tree.contentAt (journal.placeOf q test extension) = some content) :
    tree.read (journal.reportPath test extension) = .ok content :=
  read_of_contentAt (orderly.locate_iff.mpr ⟨writable, rfl⟩) held

/-- What is read by the path name of a report is what its place holds. -/
theorem Orderly.read_congr (before : journal.Orderly q tree) (behind : journal.Orderly q after)
    {test : Option String} {extension : String} (writable : journal.Writable test extension)
    (same : after.contentAt (journal.placeOf q test extension) =
      tree.contentAt (journal.placeOf q test extension)) :
    after.read (journal.reportPath test extension) =
      tree.read (journal.reportPath test extension) := by
  rw [read_of_locate (behind.locate_iff.mpr ⟨writable, rfl⟩) (behind.files _),
    read_of_locate (before.locate_iff.mpr ⟨writable, rfl⟩) (before.files _), same]

/-- A text report that can be written at all has a directory. -/
theorem exists_way {p : List String} (led : tree.locate true journal.textPath = .ok p) :
    ∃ q, tree.locate false journal.textPath = .ok (journal.placeOf q none "txt") := by
  rw [textPath, reportPath_eq, locate_base_iff] at led
  have components := journal.components_plain (show '/' ∉ (testPart none ++ "txt").toList by decide)
  obtain ⟨null, led⟩ := led
  rw [components] at led
  obtain ⟨here, left, same⟩ := (leads_of_follow led).cut rfl (by simp)
  rw [same _ _ (by simp)] at led
  obtain ⟨nonempty, notDot, notUp⟩ := proper_results journal.stem (testPart none ++ "txt")
  have names := names_of_follow nonempty notDot notUp led
  refine ⟨here, ?_⟩
  rw [textPath, reportPath_eq, locate_base_iff, components, same _ _ (by simp)]
  exact ⟨null, follow_false_name names⟩

/-! ### Different places -/

theorem testPart_injective : ∀ test other, testPart test = testPart other → test = other := by
  intro test other same
  have lists := congrArg String.toList same
  rcases test with _ | test <;> rcases other with _ | other
  · rfl
  · simp [testPart] at lists
  · simp [testPart] at lists
  · simpa [testPart, String.toList_inj] using lists

theorem testPart_append_inj {test other : Option String} {extension extension' : String}
    (same : testPart test ++ extension = testPart other ++ extension')
    (lengths : extension.length = extension'.length) :
    test = other ∧ extension = extension' := by
  have lists : (testPart test).toList ++ extension.toList =
      (testPart other).toList ++ extension'.toList := by
    simpa using congrArg String.toList same
  obtain ⟨parts, ends⟩ :=
    List.append_inj' lists (by simpa only [String.length_toList] using lengths)
  exact ⟨testPart_injective _ _ (String.toList_inj.mp parts), String.toList_inj.mp ends⟩

theorem placeOf_inj {test other : Option String} {extension extension' : String}
    (same : journal.placeOf q test extension = journal.placeOf q other extension')
    (lengths : extension.length = extension'.length) :
    test = other ∧ extension = extension' := by
  have names : journal.stem ++ ("results." ++ (testPart test ++ extension)) =
      journal.stem ++ ("results." ++ (testPart other ++ extension')) := by
    simpa [placeOf] using same
  have parts := congrArg String.toList names
  exact testPart_append_inj (String.toList_inj.mp (by simpa using parts)) lengths

/-- The path name of a report tells its test and its kind. -/
theorem reportPath_inj {test other : Option String} {extension extension' : String}
    (same : journal.reportPath test extension = journal.reportPath other extension')
    (lengths : extension.length = extension'.length) :
    test = other ∧ extension = extension' := by
  rw [reportPath_eq, reportPath_eq] at same
  have parts := congrArg String.toList same
  exact testPart_append_inj (String.toList_inj.mp (by simpa using parts)) lengths

theorem Writable.xml_of_csv {test : Option String} (writable : journal.Writable test "csv") :
    journal.Writable test "xml" := by
  obtain ⟨null, plain, names⟩ := writable
  rw [reportPath_eq] at null
  obtain ⟨nonempty, notDot, notUp⟩ := proper_results journal.stem (testPart test ++ "xml")
  refine ⟨?_, ?_, nonempty, notDot, notUp, ?_⟩
  · rw [reportPath_eq]
    simpa using null
  · simpa using plain
  · have short := names.short
    simp only [String.utf8ByteSize_append] at short ⊢
    exact short

/-! ### Logs -/

/-- The name of the log of a run. -/
def logName (test : Option String) (source : String) : String :=
  testPart test ++ ((Path.fileName? source).getD source ++ ".log")

theorem logPath_eq (journal : Journal) (test : Option String) (source : String) :
    journal.logPath test source = Path.join journal.logDirectory (logName test source) := by
  cases test with
  | none => simp [logPath, logName, testPart]
  | some name => simp [logPath, logName, testPart, String.append_assoc]

/-- **No log takes the place of a report.** -/
theorem Orderly.log_ne (orderly : journal.Orderly q tree) {test : Option String} {source : String}
    {place : List String} (led : tree.locate true (journal.logPath test source) = .ok place)
    (other : Option String) {extension : String} (kind : extension ∈ ["txt", "csv", "xml"]) :
    place ≠ journal.placeOf q other extension := by
  rintro rfl
  obtain ⟨before, path_eq⟩ : ∃ before, journal.logPath test source = before ++ ".log" := by
    obtain ⟨before, joined⟩ := Path.join_eq_append journal.logDirectory (logName test source)
    exact ⟨before ++ (testPart test ++ (Path.fileName? source).getD source), by
      rw [logPath_eq, joined, logName, String.append_assoc, String.append_assoc]⟩
  have parts := Path.components_append_of_not_mem before (show '/' ∉ ".log".toList by decide)
  -- without a link at its end the path name ends with the name of the place: that of a log
  -- ends in its extension, and that of a report in another one
  rw [path_eq] at led
  have direct := orderly.unlinked before _ led
  have long : 2 < (Path.lastPart before ++ ".log").length := by
    have : ".log".length = 4 := by decide
    simp only [String.length_append, this]
    omega
  obtain ⟨nonempty, notDot, notUp⟩ := proper_of_length long
  obtain ⟨here, same⟩ := locate_last direct parts nonempty notDot notUp
  have names := List.singleton_inj.mp (List.append_inj' same rfl).2
  have ends := congrArg (fun name : String => name.toList.reverse.head?) names
  obtain rfl | rfl | rfl : extension = "txt" ∨ extension = "csv" ∨ extension = "xml" := by
    simpa using kind
  all_goals simp at ends

/-- The place of the log directory, given the directory of the reports. -/
def logsAt (journal : Journal) (q : List String) : List String := q ++ [journal.stem ++ "logfiles"]

/-- What the path name of a log has to be for the log to be written at all. -/
structure Loggable (journal : Journal) (test : Option String) (source : String) : Prop where
  noNull : (journal.logPath test source).toList.contains '\x00' = false
  directory : Names (journal.stem ++ "logfiles")
  names : Names (logName test source)

/-- **A log lies in the log directory**, unless its name leads out of it. -/
theorem Orderly.locate_log_iff (orderly : journal.Orderly q tree)
    (named : journal.logDirectory = journal.base ++ "logfiles")
    (directory : tree.entry? (journal.logsAt q) = some .directory) {test : Option String}
    {source : String} (plain : '/' ∉ (logName test source).toList)
    (ends : AtMostFile tree (journal.logsAt q ++ [logName test source])) {place : List String} :
    tree.locate true (journal.logPath test source) = .ok place ↔
      journal.Loggable test source ∧ place = journal.logsAt q ++ [logName test source] := by
  have path_eq : journal.logPath test source =
      journal.base ++ ("logfiles" ++ "/" ++ logName test source) := by
    rw [logPath_eq, named, Path.join_of_relative (by simp) (by simp)
      (Path.isAbsolute_of_not_mem plain)]
    simp only [String.append_assoc]
  have components : Path.components (journal.base ++ ("logfiles" ++ "/" ++ logName test source)) =
      Path.front journal.base ++ [journal.stem ++ "logfiles", logName test source] := by
    refine Path.components_append _ ?_
    rw [Path.components_slash, Path.components_of_not_mem plain]
    rfl
  obtain ⟨left, same⟩ := orderly.cut
  rw [path_eq, locate_base_iff, components, same _ _ (by simp)]
  constructor
  · rintro ⟨null, ended⟩
    obtain ⟨nonempty, notDot, notUp⟩ := proper_of_length (c := journal.stem ++ "logfiles") (by
      have : "logfiles".length = 8 := by decide
      simp only [String.length_append, this]
      omega)
    have outer := names_of_follow nonempty notDot notUp ended
    rw [follow_directory outer directory] at ended
    obtain ⟨nonempty, notDot, notUp⟩ := proper_of_length (c := logName test source) (by
      have : ".log".length = 4 := by decide
      simp only [logName, String.length_append, this]
      omega)
    have names := names_of_follow nonempty notDot notUp ended
    exact ⟨⟨path_eq ▸ null, outer, names⟩, (eq_of_follow_name names ends ended).2⟩
  · rintro ⟨⟨null, outer, names⟩, rfl⟩
    rw [follow_directory outer directory]
    exact ⟨path_eq ▸ null, follow_last names ends⟩

end Journal

end VerifierTrials
