import Mathlib.Algebra.GroupWithZero.Nat
import VerifierTrials.Report.Column
import VerifierTrials.Report.Table
import VerifierTrials.Verifier.Status

/-!
# Spaces between the fields of a row

A row of the text report is made of **slots** (`Slot`): each field, filled up with spaces on one
side until it is as wide as its column. Nothing is cut off a field that is too long. So whether two
fields that stand next to each other (`Slot.AreAdjacent`) are kept apart is a matter of the spaces
that are left between them (`Slot.room`), and whether there are any depends on the texts.

For a table that was laid out for a file, the name of the file has four spaces behind it, whatever
else is in the row, and a time of at most ten characters has a space before it. A value stands at
the right of a column that is as wide as its title asks for, which says nothing of the values: a
value that is as long as its column is wide runs into the field before it, unless that one is empty.
Nothing else does (`Table.room_of_row`).
-/

namespace VerifierTrials

open VerifierTrials.Text

/-- **A field and the spaces around it.** -/
structure Slot where
  before : Nat
  text : String
  behind : Nat
  deriving DecidableEq, Repr

namespace Slot

/-- A field at the left of its column. -/
def atLeft (width : Nat) (text : String) : Slot := ⟨0, text, width - text.length⟩

/-- A field at the right of its column. -/
def atRight (width : Nat) (text : String) : Slot := ⟨width - text.length, text, 0⟩

/-- A slot as it is written. -/
def written (slot : Slot) : String := line ' ' slot.before ++ slot.text ++ line ' ' slot.behind

/-- **A row of slots**, one after the other. -/
def row (slots : List Slot) : String := String.join (slots.map written)

/-- **The spaces from one field to another one**, with empty fields between them. -/
def room (first : Slot) (between : List Slot) (second : Slot) : Nat :=
  first.behind + (between.map fun slot => slot.before + slot.behind).sum + second.before

/-- **Two fields of a row next to each other**: neither is empty, and every field between them
is. -/
structure AreAdjacent (slots earlier : List Slot) (first : Slot) (between : List Slot)
    (second : Slot) (later : List Slot) : Prop where
  shape : slots = earlier ++ first :: (between ++ second :: later)
  shown : first.text ≠ "" ∧ second.text ≠ ""
  hidden : ∀ slot ∈ between, slot.text = ""

/-! ### Rows as they are written -/

theorem line_append (m n : Nat) : line ' ' (m + n) = line ' ' m ++ line ' ' n := by
  rw [line, ← List.replicate_append_replicate, String.ofList_append]
  rfl

theorem written_atLeft (width : Nat) (text : String) :
    (atLeft width text).written = left width text := by
  refine String.toList_inj.mp ?_
  simp [atLeft, written, left, padRight, line, String.length_toList]

theorem written_atRight (width : Nat) (text : String) :
    (atRight width text).written = right width text := by
  refine String.toList_inj.mp ?_
  simp [atRight, written, right, padLeft, line, String.length_toList]

theorem row_cons (slot : Slot) (slots : List Slot) :
    row (slot :: slots) = slot.written ++ row slots :=
  String.join_cons

theorem row_append (slots more : List Slot) : row (slots ++ more) = row slots ++ row more := by
  rw [row, List.map_append, String.join_append]
  rfl

/-- Empty fields are spaces. -/
theorem row_of_hidden {slots : List Slot} (hidden : ∀ slot ∈ slots, slot.text = "") :
    row slots = line ' ' (slots.map fun slot => slot.before + slot.behind).sum := by
  induction slots with
  | nil => rfl
  | cons slot slots ih =>
    obtain ⟨empty, hidden⟩ := List.forall_mem_cons.mp hidden
    rw [row_cons, ih hidden, List.map_cons, List.sum_cons, line_append, line_append, written, empty,
      String.append_empty]

/-- **What stands between two adjacent fields is their room, in spaces.** -/
theorem AreAdjacent.row {slots earlier between later : List Slot} {first second : Slot}
    (adjacent : AreAdjacent slots earlier first between second later) :
    row slots =
      (row earlier ++ line ' ' first.before ++ first.text) ++
        line ' ' (room first between second) ++
        (second.text ++ line ' ' second.behind ++ row later) := by
  rw [adjacent.shape, row_append, row_cons, row_append, row_cons, row_of_hidden adjacent.hidden,
    room, line_append, line_append, written, written]
  simp only [String.append_assoc]

end Slot

namespace Table

open Slot

/-! ### The slots of a row -/

/-- **The slots of a row** in a table. -/
def slots (table : Table) (file status cpu wall : String) (values : List String) : List Slot :=
  [.atLeft table.fileWidth file, .atLeft 8 status, .atRight 11 cpu, .atRight 11 wall] ++
    List.zipWith (fun value width => .atRight width value) values table.widths

/-- **A row is written slot by slot.** -/
theorem row_slots (table : Table) (file status cpu wall : String) (values : List String) :
    Slot.row (table.slots file status cpu wall values) =
      table.row file status cpu wall values := by
  have further : Slot.row
      (List.zipWith (fun value width => .atRight width value) values table.widths) =
        String.join (List.zipWith (fun value width => right width value) values table.widths) := by
    rw [Slot.row, List.map_zipWith]
    simp only [written_atRight]
  rw [slots, row_append, further, row]
  simp [Slot.row, written_atLeft, written_atRight, String.append_assoc]

/-- The width of a column with a title. -/
def widthFor (title : String) : Nat := max title.length 8 + 2

/-- The slot of a column for the output of a tool. -/
def valueSlot (output : String) (column : Column) : Slot :=
  .atRight (widthFor column.title) (column.cell output).value

variable {files : List String} {columns : List Column} {output file cpu wall : String}
  {status : Status}

/-- Every column of the table has its slot. -/
theorem slots_cells (files : List String) (columns : List Column)
    (output file status cpu wall : String) :
    (layout files (columns.map Column.title)).slots file status cpu wall
        ((Column.cells columns output).map Cell.value) =
      [.atLeft (layout files (columns.map Column.title)).fileWidth file, .atLeft 8 status,
        .atRight 11 cpu, .atRight 11 wall] ++ columns.map (valueSlot output) := by
  rw [slots]
  congr 1
  simp only [layout, Column.cells, List.map_map, List.zipWith_map, List.zipWith_self]
  rfl

/-! ### The room between fields -/

theorem foldl_width (files : List String) (width : Nat) :
    width ≤ files.foldl (fun width file => max width file.length) width ∧
      ∀ file ∈ files,
        file.length ≤ files.foldl (fun width file => max width file.length) width := by
  induction files generalizing width with
  | nil => simp
  | cons file files ih =>
    obtain ⟨start, all⟩ := ih (max width file.length)
    rw [List.foldl_cons, List.forall_mem_cons]
    exact ⟨Nat.le_trans (Nat.le_max_left _ _) start, Nat.le_trans (Nat.le_max_right _ _) start, all⟩

/-- The file of a row is narrower than its column. -/
theorem length_lt_fileWidth (among : file ∈ files) (titles : List String) :
    file.length < (layout files titles).fileWidth := by
  have fits := (foldl_width files 20).2 file among
  show file.length < _ + 4
  omega

theorem text_ne_empty (status : Status) : status.text ≠ "" := by
  cases status with
  | error exitCode =>
    cases exitCode with
    | none => decide
    | some code => simp [Status.text]
  | _ => decide

/-- An empty field at the right leaves all its column to spaces. -/
theorem before_atRight_pos {width : Nat} {text : String} (wide : text.length < width) :
    0 < (atRight width text).before :=
  Nat.sub_pos_of_lt wide

/-- An empty field behind the file has spaces before it. -/
theorem before_pos_of_empty {slot : Slot}
    (among : slot ∈ .atLeft 8 status.text :: .atRight 11 cpu :: .atRight 11 wall ::
      columns.map (valueSlot output)) (empty : slot.text = "") : 0 < slot.before := by
  simp only [List.mem_cons, List.mem_map] at among
  obtain rfl | rfl | rfl | ⟨column, -, rfl⟩ := among
  · exact absurd empty (text_ne_empty status)
  · obtain rfl : cpu = "" := empty
    decide
  · obtain rfl : wall = "" := empty
    decide
  · have none_ : (column.cell output).value = "" := empty
    refine before_atRight_pos ?_
    rw [none_, widthFor]
    exact Nat.succ_pos _

section Room

variable {earlier between later : List Slot} {first second : Slot}

/-- A value stands directly behind the field before it exactly if it fills its column. -/
theorem exists_column_of_value
    (shape : .atRight 11 wall :: columns.map (valueSlot output) =
      earlier ++ first :: second :: later) :
    ∃ column, columns[earlier.length]? = some column ∧
      (room first [] second = 0 ↔ widthFor column.title ≤ second.text.length) := by
  have tight : first.behind = 0 := by
    have within : first ∈ .atRight 11 wall :: columns.map (valueSlot output) := by simp [shape]
    simp only [List.mem_cons, List.mem_map] at within
    obtain rfl | ⟨column, -, rfl⟩ := within <;> rfl
  obtain ⟨column, place, rfl⟩ : ∃ column, columns[earlier.length]? = some column ∧
      valueSlot output column = second := by
    simpa using congrArg (·[earlier.length + 1]?) shape
  refine ⟨column, place, ?_⟩
  simp [room, tight, valueSlot, atRight, Nat.sub_eq_zero_iff_le]

variable (among : file ∈ files) (cpuFits : cpu.length ≤ 10) (wallFits : wall.length ≤ 10)
include among cpuFits wallFits

/-- The file, the status and the times of a row are kept apart. -/
theorem room_nil_pos
    (shape : .atLeft (layout files (columns.map Column.title)).fileWidth file ::
      .atLeft 8 status.text :: .atRight 11 cpu :: .atRight 11 wall ::
        columns.map (valueSlot output) = earlier ++ first :: second :: later)
    (front : earlier.length < 3) : 0 < room first [] second := by
  match earlier with
  | [] =>
    obtain ⟨rfl, rfl, -⟩ : _ ∧ _ ∧ _ := by simpa using shape
    have wide := length_lt_fileWidth among (columns.map Column.title)
    exact Nat.add_pos_left (Nat.sub_pos_of_lt wide) _
  | [_] =>
    obtain ⟨-, rfl, rfl, -⟩ : _ ∧ _ ∧ _ ∧ _ := by simpa using shape
    exact Nat.add_pos_right _ (before_atRight_pos (Nat.lt_succ_of_le cpuFits))
  | [_, _] =>
    obtain ⟨-, -, rfl, rfl, -⟩ : _ ∧ _ ∧ _ ∧ _ ∧ _ := by simpa using shape
    exact Nat.add_pos_right _ (before_atRight_pos (Nat.lt_succ_of_le wallFits))
  | _ :: _ :: _ :: further => exact absurd front (by simp)

/-- **Two slots side by side have no room between them** exactly where the second one is a value
that fills its column. -/
theorem room_nil_eq_zero_iff
    (shape : .atLeft (layout files (columns.map Column.title)).fileWidth file ::
      .atLeft 8 status.text :: .atRight 11 cpu :: .atRight 11 wall ::
        columns.map (valueSlot output) = earlier ++ first :: second :: later) :
    room first [] second = 0 ↔ ∃ k column, earlier.length = k + 3 ∧ columns[k]? = some column ∧
      widthFor column.title ≤ second.text.length := by
  by_cases front : earlier.length < 3
  · have some_ := room_nil_pos among cpuFits wallFits shape front
    refine iff_of_false (Nat.ne_of_gt some_) ?_
    rintro ⟨k, -, place, -⟩
    omega
  · obtain ⟨one, two, three, further, rfl⟩ : ∃ one two three further,
        earlier = one :: two :: three :: further := by
      match earlier with
      | [] | [_] | [_, _] => simp at front
      | one :: two :: three :: further => exact ⟨one, two, three, further, rfl⟩
    obtain ⟨-, -, -, rest⟩ : _ ∧ _ ∧ _ ∧ .atRight 11 wall :: columns.map (valueSlot output) =
        further ++ first :: second :: later := by simpa using shape
    obtain ⟨column, found, fills⟩ := exists_column_of_value rest
    rw [fills]
    constructor
    · exact fun long => ⟨further.length, column, rfl, found, long⟩
    · rintro ⟨k, other, place, found', long⟩
      obtain rfl : further.length = k := by simpa using place
      obtain rfl := Option.some.inj (found.symm.trans found')
      exact long

/-- **Adjacent fields have no room between them** exactly where the second one is a value that fills
its column, and nothing, not even an empty field, is between the two. -/
theorem room_eq_zero_iff
    (adjacent : AreAdjacent
      (.atLeft (layout files (columns.map Column.title)).fileWidth file ::
        .atLeft 8 status.text :: .atRight 11 cpu :: .atRight 11 wall ::
          columns.map (valueSlot output))
      earlier first between second later) :
    room first between second = 0 ↔
      between = [] ∧ ∃ k column, earlier.length = k + 3 ∧ columns[k]? = some column ∧
        widthFor column.title ≤ second.text.length := by
  by_cases alone : between = []
  · subst alone
    rw [room_nil_eq_zero_iff among cpuFits wallFits adjacent.shape]
    exact (and_iff_right rfl).symm
  · -- an empty field between the two has spaces of its own
    obtain ⟨slot, more, rfl⟩ := List.exists_cons_of_ne_nil alone
    have within : slot ∈ .atLeft 8 status.text :: .atRight 11 cpu :: .atRight 11 wall ::
        columns.map (valueSlot output) := by
      have tail := congrArg List.tail adjacent.shape
      rw [List.tail_cons] at tail
      rw [tail]
      cases earlier <;> simp
    have some_ := before_pos_of_empty within (adjacent.hidden slot List.mem_cons_self)
    refine iff_of_false ?_ fun both => alone both.1
    rw [room, List.map_cons, List.sum_cons]
    omega

end Room

/-- **The fields of a row are kept apart by spaces, but for values that fill their columns.** The
row of a file in the table that was laid out for it has the file, the status, the times and the
values of the columns as its fields, and nothing but spaces between them. Two fields next to each
other have at least one space between them, unless the second one is a value at least as long as
its column is wide, and stands directly behind the first one: then there is none. -/
theorem room_of_row (items : List WorkItem) (columns : List Column) {item : WorkItem}
    (among : item ∈ items) (output : String) (status : Status) {cpu wall : String}
    (cpuFits : cpu.length ≤ 10) (wallFits : wall.length ≤ 10) :
    let table := layout (items.map WorkItem.file) (columns.map Column.title)
    let values := (Column.cells columns output).map Cell.value
    let slots := table.slots item.file status.text cpu wall values
    slots.map Slot.text = [item.file, status.text, cpu, wall] ++ values ∧
      ∀ earlier first between second later,
        AreAdjacent slots earlier first between second later →
        table.row item.file status.text cpu wall values =
            (Slot.row earlier ++ line ' ' first.before ++ first.text) ++
              line ' ' (room first between second) ++
              (second.text ++ line ' ' second.behind ++ Slot.row later) ∧
          (room first between second = 0 ↔
            between = [] ∧ ∃ k column, earlier.length = k + 3 ∧ columns[k]? = some column ∧
              max column.title.length 8 + 2 ≤ second.text.length) := by
  intro table values slots
  have own : slots = _ := slots_cells _ columns output item.file status.text cpu wall
  refine ⟨?_, fun earlier first between second later adjacent => ⟨?_, ?_⟩⟩
  · rw [own]
    simp only [values, Column.cells, List.map_append, List.map_map]
    rfl
  · rw [← row_slots]
    exact adjacent.row
  · rw [own] at adjacent
    exact room_eq_zero_iff (List.mem_map_of_mem among) cpuFits wallFits adjacent

/-- A file, a time and a value that just fit, and a value that fills its column. -/
theorem room_of_row_filled :
    room (.atRight 10 "123456789") [] (.atRight 10 "1234567890") = 0 ∧
      room (.atRight 11 "1234567.89") [] (.atRight 10 "123456789") ≠ 0 := by
  let columns : List Column := [⟨"time", "time", none⟩, ⟨"steps", "steps", none⟩]
  have spaced := (@room_of_row [⟨"b.c", []⟩, ⟨"programs/a.c", []⟩] columns ⟨"b.c", []⟩ (by decide)
    "time: 123456789\nsteps: 1234567890\n" .safe "1234567.89" "1234567.89" (by decide)
    (by decide)).2
  refine ⟨(spaced [.atLeft 24 "b.c", .atLeft 8 "SAFE", .atRight 11 "1234567.89",
    .atRight 11 "1234567.89"] _ _ _ [] ⟨by decide, by decide, by decide⟩).2.mpr ?_, ?_⟩
  · exact ⟨rfl, 1, _, rfl, rfl, by decide⟩
  · rw [ne_eq, (spaced [.atLeft 24 "b.c", .atLeft 8 "SAFE", .atRight 11 "1234567.89"] _ _ _
      [.atRight 10 "1234567890"] ⟨by decide, by decide, by decide⟩).2]
    rintro ⟨-, k, column, place, found, long⟩
    obtain rfl : k = 0 := by simpa using place.symm
    obtain rfl := Option.some.inj found
    exact absurd long (by decide)

/-- A value may fill its column: then it runs into the time before it. -/
theorem not_forall_room_pos :
    ¬∀ (items : List WorkItem) (columns : List Column) (item : WorkItem) (output : String)
      (status : Status) (cpu wall : String),
      item ∈ items → cpu.length ≤ 10 → wall.length ≤ 10 →
      ∀ earlier first between second later,
        AreAdjacent
          ((layout (items.map WorkItem.file) (columns.map Column.title)).slots item.file status.text
            cpu wall ((Column.cells columns output).map Cell.value))
          earlier first between second later →
        0 < room first between second := by
  intro all
  have some_ := all [⟨"a.c", []⟩] [⟨"time", "time", none⟩] ⟨"a.c", []⟩ "time: 1234567890" .safe
    "1.25" "1.30" (by decide) (by decide) (by decide)
    [.atLeft 24 "a.c", .atLeft 8 "SAFE", .atRight 11 "1.25"] (.atRight 11 "1.30") []
    (.atRight 10 "1234567890") [] ⟨by decide, by decide, by decide⟩
  exact absurd some_ (by decide)

example : (layout ["a.c"] ["time"]).row "a.c" "SAFE" "1.25" "1.30" ["1234567890"] =
    "a.c                     SAFE           1.25       1.301234567890" := by decide

end Table

end VerifierTrials
