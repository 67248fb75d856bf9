import VerifierTrials.Proofs.Text.Basic
import VerifierTrials.Proofs.Text.Pieces
import VerifierTrials.Report.Column
import VerifierTrials.Report.Separated
import VerifierTrials.Run.Outcome
import VerifierTrials.Verifier.Status

/-!
# Records of the tab-separated report

Whoever reads the tab-separated report cuts it at line ends, and each line at tabs
(`Separated.records`). Nothing is escaped when it is written, so a line comes back as the fields
that it was made of exactly when each of them **is a field**: no tab and no line feed in it
(`Separated.records_line_iff`).

For the line of a run there is less to ask. Its status and its times are made of a few plain
characters (`Separated.isField_text`, `Separated.isField_span`). A value is cut out of one line of
the output or is a number written anew, so it has no line feed (`Column.lineFeed_not_mem_value`) –
but it may have a tab, as nothing takes one away inside a value. What is left is the name of the
file, and tabs in values.
-/

namespace VerifierTrials

open VerifierTrials.Text

namespace Separated

/-- **The records of a text**: its lines, each cut at tabs. -/
def records (text : String) : List (List String) := (pieces '\n' text).dropLast.map (pieces '\t')

/-- **The sources that a report lists**: the first fields of its records behind the titles. -/
def sourcesOf (text : String) : List String := (records text).tail.map fun record => record.headD ""

/-- A text that may be a field: without a character that ends one. -/
def IsField (text : String) : Prop := '\t' ∉ text.toList ∧ '\n' ∉ text.toList

instance (text : String) : Decidable (IsField text) := inferInstanceAs (Decidable (_ ∧ _))

/-! ### Lines and their fields -/

/-- A line without further line feeds is one record: the pieces of its fields. -/
theorem records_line {fields : List String} (some_ : fields ≠ [])
    (oneLine : ∀ field ∈ fields, '\n' ∉ field.toList) :
    records (line fields) = [fields.flatMap (pieces '\t')] := by
  have joined : '\n' ∉ (join "\t" fields).toList := by
    induction fields with
    | nil => exact absurd rfl some_
    | cons field fields ih =>
      rw [List.forall_mem_cons] at oneLine
      by_cases last : fields = []
      · subst last
        simpa [join] using oneLine.1
      · rw [join, String.intercalate_cons_of_ne_nil last]
        simp only [String.toList_append, List.mem_append, not_or]
        exact ⟨⟨oneLine.1, by decide⟩, ih last oneLine.2⟩
  have lineEnd : "\n".toList = ['\n'] := rfl
  have tab : "\t".toList = ['\t'] := rfl
  have cut := pieces_separator lineEnd (join "\t" fields) ""
  rw [String.append_empty, pieces_of_not_mem joined] at cut
  rw [records, line, cut, ← pieces_join tab some_]
  rfl

/-- What stands in a record is a field. -/
theorem isField_of_mem_records {text field : String} {record : List String}
    (among : record ∈ records text) (within : field ∈ record) : IsField field := by
  obtain ⟨piece, kept, rfl⟩ := List.mem_map.mp among
  refine ⟨not_mem_of_mem_pieces within, fun inside => ?_⟩
  exact not_mem_of_mem_pieces (List.dropLast_subset _ kept) (subset_of_mem_pieces within inside)

/-- **A line comes back exactly when it is made of fields.** -/
theorem records_line_iff {fields : List String} (some_ : fields ≠ []) :
    records (line fields) = [fields] ↔ ∀ field ∈ fields, IsField field := by
  constructor
  · intro same field within
    exact isField_of_mem_records (same ▸ List.mem_singleton_self fields) within
  · intro all
    rw [records_line some_ fun field within => (all field within).2,
      flatMap_pieces_eq_self_iff.mpr fun field within => (all field within).1]

/-! ### What is always a field -/

theorem isField_of_forall {text : String}
    (plain : ∀ c ∈ text.toList, c.isDigit = true ∨ c ∈ "-.NaNinf".toList) : IsField text := by
  refine ⟨fun tab => ?_, fun lineFeed => ?_⟩
  · exact absurd (plain _ tab) (by decide)
  · exact absurd (plain _ lineFeed) (by decide)

theorem IsField.append {s t : String} (first : IsField s) (second : IsField t) :
    IsField (s ++ t) := by
  simp only [IsField, String.toList_append, List.mem_append, not_or]
  exact ⟨⟨first.1, second.1⟩, first.2, second.2⟩

theorem isField_ofNat (n : Nat) : IsField (Text.ofNat n) := by
  refine isField_of_forall fun c inside => .inl ?_
  rw [Text.ofNat, String.toList_ofList] at inside
  exact Nat.isDigit_of_mem_toDigits (by decide) (by decide) inside

theorem isField_ofInt (n : Int) : IsField (Text.ofInt n) := by
  rw [Text.ofInt]
  split
  · exact .append (by decide) (isField_ofNat _)
  · exact isField_ofNat _

theorem isField_text (status : Status) : IsField status.text := by
  cases status with
  | error exitCode =>
    cases exitCode with
    | none => decide
    | some code => exact .append (.append (by decide) (isField_ofInt code)) (by decide)
  | _ => decide

end Separated

/-! ### Numbers written with fixed places -/

namespace Decimal.Binary64

theorem mem_withPoint {places n : Nat} {c : Char} (inside : c ∈ withPoint places n) :
    c.isDigit = true ∨ c = '.' := by
  have digits : ∀ c ∈ List.replicate (places + 1 - (decimal n).length) '0' ++ decimal n,
      c.isDigit = true := by
    intro c within
    rcases List.mem_append.mp within with zero | digit
    · rw [(List.mem_replicate.mp zero).2]
      decide
    · exact Nat.isDigit_of_mem_toDigits (by decide) (by decide) digit
  rw [withPoint] at inside
  split at inside
  · exact .inl (digits c inside)
  · rcases List.mem_append.mp inside with whole | rest
    · exact .inl (digits c (List.mem_of_mem_take whole))
    · rcases List.mem_cons.mp rest with point | fraction
      · exact .inr point
      · exact .inl (digits c (List.mem_of_mem_drop fraction))

/-- The characters of a number: digits, a sign, a point, and the letters of the special values. -/
theorem mem_toFixed {places : Nat} {number : Binary64} {c : Char}
    (inside : c ∈ number.toFixed places) : c.isDigit = true ∨ c ∈ "-.NaNinf".toList := by
  cases number with
  | nan =>
    have letters : ("NaN".toList.all fun c => "-.NaNinf".toList.contains c) = true := by decide
    exact .inr (List.contains_iff_mem.mp (List.all_eq_true.mp letters c inside))
  | infinite negative =>
    have letters : ("-inf".toList.all fun c => "-.NaNinf".toList.contains c) = true := by decide
    refine .inr (List.contains_iff_mem.mp (List.all_eq_true.mp letters c ?_))
    cases negative with
    | true => exact inside
    | false => exact List.mem_cons_of_mem _ inside
  | finite negative mantissa exponent =>
    rw [toFixed] at inside
    rcases List.mem_append.mp inside with sign | digits
    · cases negative with
      | false => cases sign
      | true =>
        rw [List.mem_singleton.mp sign]
        exact .inr (by decide)
    · rcases mem_withPoint digits with digit | rfl
      · exact .inl digit
      · exact .inr (by decide)

end Decimal.Binary64

namespace Separated

theorem isField_toFixed (places : Nat) (number : Decimal.Binary64) :
    IsField (String.ofList (number.toFixed places)) := by
  refine isField_of_forall fun c inside => ?_
  rw [String.toList_ofList] at inside
  exact Decimal.Binary64.mem_toFixed inside

theorem isField_span (places : Nat) (span : Span) : IsField (span.text places) :=
  isField_toFixed places _

end Separated

/-! ### Values of columns -/

namespace Column

/-- A value behind a key is cut out of one line of the output. -/
theorem exists_line_of_extract? {output key value : String}
    (found : extract? output key = some value) :
    ∃ line ∈ linesOf output, value.toList ⊆ line.toList := by
  rw [extract?] at found
  split at found
  next => cases found
  next line held =>
    refine ⟨line, List.mem_of_find?_eq_some held, ?_⟩
    obtain ⟨⟨before, rest⟩, cutLine, rfl⟩ := Option.map_eq_some_iff.mp found
    -- every step cuts something off what the one before it has left
    have behind : ∀ {key whole before rest : String}, cut? key whole = some (before, rest) →
        rest.toList ⊆ whole.toList := by
      intro key whole before rest cut
      obtain ⟨⟨front, back⟩, parts, same⟩ := Option.map_eq_some_iff.mp cut
      obtain ⟨rfl, rfl⟩ := Prod.mk.inj same
      rw [eq_append_of_split? parts, String.toList_ofList]
      exact fun c inside => List.mem_append_right _ (List.mem_append_right _ inside)
    have colon : (((cut? ":" rest).map Prod.snd).getD rest).toList ⊆ rest.toList := by
      cases parts : cut? ":" rest with
      | none => exact List.Subset.refl _
      | some pair => exact behind parts
    simp only [trimmed, String.toList_ofList]
    refine List.Subset.trans (trim_subset _) (List.Subset.trans ?_ (behind cutLine))
    exact List.Subset.trans (List.takeWhile_subset _) colon

theorem lineFeed_not_mem_extract? {output key value : String}
    (found : extract? output key = some value) : '\n' ∉ value.toList := by
  obtain ⟨line, within, subset⟩ := exists_line_of_extract? found
  obtain ⟨cs, among, rfl⟩ := List.mem_map.mp within
  intro inside
  refine lineFeed_not_mem_of_mem_lines among ?_
  simpa using subset inside

/-- A value is shown on one line. -/
theorem lineFeed_not_mem_value (column : Column) (output : String) :
    '\n' ∉ (column.cell output).value.toList := by
  rw [cell]
  split
  next value places found _ =>
    rw [format]
    split
    · exact (Separated.isField_toFixed places _).2
    · exact lineFeed_not_mem_extract? found
  next value found _ => exact lineFeed_not_mem_extract? found
  next =>
    show '\n' ∉ missing.toList
    decide

end Column

/-! ### The line of a run -/

namespace Separated

/-- **The record of a run.** The line written for a run has its file, its status, its times and
the values of the columns as fields, as many as the line of titles names. Values stand on one
line; so if the name of the file does, too, the line is one record, made of the pieces of its
fields between tabs. It is the fields themselves exactly when there is no tab or line feed in the
name of the file and no tab in a value, and the line of titles comes back exactly when the titles
are fields. -/
theorem records_row (columns : List Column) (output file : String) (status : Status)
    (cpu wall : Span) (places : Nat) :
    let values := (Column.cells columns output).map Cell.value
    let fields := [file, status.text, cpu.text places, wall.text places] ++ values
    let written := row file status.text (cpu.text places) (wall.text places) values
    let titles := columns.map Column.title
    fields.length = 4 + columns.length ∧ (fixedTitles ++ titles).length = 4 + columns.length ∧
      (∀ value ∈ values, '\n' ∉ value.toList) ∧
      ('\n' ∉ file.toList → records written = [fields.flatMap (pieces '\t')]) ∧
      (records written = [fields] ↔
        ('\t' ∉ file.toList ∧ '\n' ∉ file.toList) ∧ ∀ value ∈ values, '\t' ∉ value.toList) ∧
      (records (header titles) = [fixedTitles ++ titles] ↔
        ∀ title ∈ titles, '\t' ∉ title.toList ∧ '\n' ∉ title.toList) := by
  intro values fields written titles
  have oneLine : ∀ value ∈ values, '\n' ∉ value.toList := by
    simp only [values, Column.cells, List.forall_mem_map]
    exact fun column _ => column.lineFeed_not_mem_value output
  have plain := isField_text status
  have cpuPlain := isField_span places cpu
  have wallPlain := isField_span places wall
  refine ⟨?_, ?_, oneLine, fun fileLine => ?_, ?_, ?_⟩
  · simp only [fields, values, Column.cells, List.length_append, List.length_cons, List.length_nil,
      List.length_map]
  · simp only [fixedTitles, titles, List.length_append, List.length_cons, List.length_nil,
      List.length_map]
  · refine records_line (by simp) ?_
    simp only [List.forall_mem_append, List.forall_mem_cons]
    exact ⟨⟨fileLine, plain.2, cpuPlain.2, wallPlain.2, by simp⟩, oneLine⟩
  · refine (records_line_iff (by simp)).trans ?_
    simp only [List.forall_mem_append, List.forall_mem_cons]
    constructor
    · rintro ⟨⟨fileField, -⟩, all⟩
      exact ⟨fileField, fun value within => (all value within).1⟩
    · rintro ⟨fileField, all⟩
      exact ⟨⟨fileField, plain, cpuPlain, wallPlain, by simp⟩,
        fun value within => ⟨all value within, oneLine value within⟩⟩
  · refine (records_line_iff (by simp [fixedTitles])).trans ?_
    rw [List.forall_mem_append]
    exact and_iff_right (by decide)

/-- A value with a tab in it is cut in two: not every line of a run comes back. -/
theorem not_forall_records_row :
    ¬∀ (columns : List Column) (output file : String) (status : Status) (cpu wall : Span)
      (places : Nat),
      let values := (Column.cells columns output).map Cell.value
      records (row file status.text (cpu.text places) (wall.text places) values) =
        [[file, status.text, cpu.text places, wall.text places] ++ values] := by
  intro all
  have same := all [⟨"time", "time", none⟩] "time: 3\t4" "a.c" .safe {} {} 2
  have cut := (records_line_iff (by simp)).mp same "3\t4" (by
    refine List.mem_append_right _ ?_
    have value : (Column.cells [⟨"time", "time", none⟩] "time: 3\t4").map Cell.value =
        ["3\t4"] := by decide
    rw [value]
    exact List.mem_singleton_self _)
  exact absurd cut (by decide)

end Separated

end VerifierTrials
