import VerifierTrials.Proofs.Text.Offsets
import VerifierTrials.Proofs.Text.Pieces
import VerifierTrials.Report.Column

/-!
# Values behind keys

A column finds its value by a key: on the first line of the output that has the key, behind the
key where it stands first on that line, after the next colon if there is one, and up to the next
parenthesis if there is one. What is said here about it without the search are three relations,
`Column.IsFirstLine`, `Column.IsCut` and `Column.IsValue`.

So the value hangs on one line, and a tool that goes on writing changes nothing about it. This is
a matter of lines first (`Column.extract?_of_isFirstLine`), and of texts as long as the key has no
carriage return: whether the last line of an output is ended makes a difference to such a character
at its end, but not to the value, from which it is trimmed (`Column.valueOn?_dropReturn`).

Searching and cutting by bytes comes to the same value (`Column.valueByBytes?`), as a key and a
mark are found only where characters begin: no cut is inside of a character.
-/

namespace VerifierTrials.Column

open VerifierTrials.Text VerifierTrials.Utf8

variable {output key line before rest : String}

/-! ### Where a value stands -/

/-- **The first line with a key.** -/
def IsFirstLine (key output line : String) : Prop :=
  key.toList <:+: line.toList ∧ ∃ earlier later, linesOf output = earlier ++ line :: later ∧
    ∀ other ∈ earlier, ¬key.toList <:+: other.toList

/-- **A line cut at a key** where the key stands first. -/
structure IsCut (key line before rest : String) : Prop where
  whole : line = before ++ key ++ rest
  first : ∀ before' rest', line = before' ++ key ++ rest' → before.length ≤ before'.length

/-- What stands behind the first of a mark, or all of a text without it. -/
def IsBehind (mark : Char) (s back : List Char) : Prop :=
  mark ∉ s ∧ back = s ∨ ∃ front, mark ∉ front ∧ s = front ++ mark :: back

/-- What stands before the first of a mark, or all of a text without it. -/
def IsBefore (mark : Char) (s front : List Char) : Prop :=
  mark ∉ s ∧ front = s ∨ mark ∉ front ∧ ∃ back, s = front ++ mark :: back

/-- **The value in what stands behind a key**: what is behind a colon and before a parenthesis,
without the white space around it. -/
def IsValue (rest value : String) : Prop :=
  ∃ behind within, IsBehind ':' rest.toList behind ∧ IsBefore '(' behind within ∧
    value = String.ofList (trim within)

/-- **The value on a line with a key, found by bytes.** There is none if the line would be cut
inside of a character. -/
def valueByBytes? (key line : String) : Option String := do
  let start ← offset? (encode key) (encode line)
  let (_, rest) ← cutBytes? (start + (encode key).length) line.toList
  let behind ← behindMark? ':' rest
  let within ← beforeMark? '(' behind
  some (String.ofList (trim within))

/-! ### Cutting a value out -/

/-- What a column cuts out of what stands behind its key. -/
def valueBehind (rest : List Char) : List Char :=
  trim (cutAt (· = '(') (((split? [':'] rest).map Prod.snd).getD rest))

/-- The value on a line, if it has the key. -/
def valueOn? (key line : List Char) : Option (List Char) :=
  (split? key line).map fun (_, rest) => valueBehind rest

theorem isBehind_split? (mark : Char) (s : List Char) :
    IsBehind mark s (((split? [mark] s).map Prod.snd).getD s) := by
  cases found : split? [mark] s with
  | none => exact .inl ⟨split?_singleton_eq_none_iff.mp found, rfl⟩
  | some parts => exact .inr ⟨parts.1, split?_singleton_iff.mp found⟩

theorem isBefore_cutAt (mark : Char) (s : List Char) : IsBefore mark s (cutAt (· = mark) s) := by
  cases found : split? [mark] s with
  | none =>
    have absent := split?_singleton_eq_none_iff.mp found
    exact .inl ⟨absent, cutAt_of_not_mem absent⟩
  | some parts =>
    obtain ⟨absent, whole⟩ := split?_singleton_iff.mp found
    rw [cutAt_of_split? found]
    exact .inr ⟨absent, parts.2, whole⟩

theorem isValue_valueBehind (rest : String) :
    IsValue rest (String.ofList (valueBehind rest.toList)) :=
  ⟨_, _, isBehind_split? ':' rest.toList, isBefore_cutAt '(' _, rfl⟩

/-- **The value is the one on the first line that has one.** -/
theorem extract?_eq_findSome? (output key : String) :
    extract? output key =
      ((lines output.toList).findSome? (valueOn? key.toList)).map String.ofList := by
  rw [extract?, linesOf]
  induction lines output.toList with
  | nil => rfl
  | cons line others ih =>
    have held : contains key (String.ofList line) = (split? key.toList line).isSome := by
      rw [contains, occursIn, String.toList_ofList]
    rw [List.map_cons, List.find?_cons, held, List.findSome?_cons, valueOn?]
    cases found : split? key.toList line with
    | none => exact ih
    | some parts =>
      have colon : ":".toList = [':'] := rfl
      simp only [Option.isSome_some, cut?, String.toList_ofList, found, Option.map_some, colon,
        valueBehind]
      cases split? [':'] parts.2 <;> simp [trimmed]

theorem valueOn?_eq_none_iff {key line : List Char} :
    valueOn? key line = none ↔ ¬key <:+: line := by
  rw [valueOn?, Option.map_eq_none_iff, split?_eq_none_iff]

theorem isCut_iff : IsCut key line before rest ↔
    split? key.toList line.toList = some (before.toList, rest.toList) := by
  rw [split?_eq_some_iff]
  constructor
  · rintro ⟨whole, first⟩
    refine ⟨by rw [whole]; simp, fun before' rest' whole' => ?_⟩
    have shorter := first (String.ofList before') (String.ofList rest') (by
      rw [← String.toList_inj, whole']
      simp)
    rwa [String.length_ofList, ← String.length_toList] at shorter
  · rintro ⟨whole, first⟩
    refine ⟨by rw [← String.toList_inj, whole]; simp, fun before' rest' whole' => ?_⟩
    exact first before'.toList rest'.toList (by rw [whole']; simp)

theorem exists_isCut (held : key.toList <:+: line.toList) :
    ∃ before rest, IsCut key line before rest := by
  obtain ⟨parts, found⟩ := Option.isSome_iff_exists.mp (occursIn_iff.mpr held)
  refine ⟨String.ofList parts.1, String.ofList parts.2, isCut_iff.mpr ?_⟩
  rw [String.toList_ofList, String.toList_ofList, found]

/-- **A value is found exactly where a line has the key.** -/
theorem extract?_isSome_iff :
    (extract? output key).isSome ↔ ∃ line ∈ linesOf output, key.toList <:+: line.toList := by
  have held : ∀ line, (valueOn? key.toList line).isSome ↔ key.toList <:+: line := fun line => by
    rw [Option.isSome_iff_ne_none, ne_eq, valueOn?_eq_none_iff, Decidable.not_not]
  rw [extract?_eq_findSome?, Option.isSome_map, List.findSome?_isSome_iff, linesOf]
  simp only [held, List.mem_map, exists_exists_and_eq_and, String.toList_ofList]

/-- **The first line with a key gives the value.** -/
theorem extract?_of_isFirstLine (first : IsFirstLine key output line)
    (cut : IsCut key line before rest) :
    extract? output key = some (String.ofList (valueBehind rest.toList)) := by
  obtain ⟨-, earlier, later, all, without⟩ := first
  obtain ⟨front, back, lines_eq, rfl, back_eq⟩ := List.map_eq_append_iff.mp all
  obtain ⟨chars, more, rfl, rfl, rfl⟩ := List.map_eq_cons_iff.mp back_eq
  have here : valueOn? key.toList chars = some (valueBehind rest.toList) := by
    have found := isCut_iff.mp cut
    rw [String.toList_ofList] at found
    rw [valueOn?, found, Option.map_some]
  have nowhere : ∀ other ∈ front, valueOn? key.toList other = none := fun other among => by
    have absent := without _ (List.mem_map_of_mem among)
    rwa [String.toList_ofList, ← valueOn?_eq_none_iff] at absent
  rw [extract?_eq_findSome?, Option.map_eq_some_iff]
  exact ⟨_, List.findSome?_eq_some_iff.mpr ⟨front, chars, more, lines_eq, here, nowhere⟩, rfl⟩

/-- **Searching and cutting by bytes comes to the same value.** -/
theorem valueByBytes?_of_isCut (cut : IsCut key line before rest) :
    valueByBytes? key line = some (String.ofList (valueBehind rest.toList)) := by
  obtain ⟨start, -, behindKey⟩ := cutBytes?_of_split? (isCut_iff.mp cut)
  have keyBytes : encode key = bytes key.toList := encode_eq_flatMap key
  have lineBytes : encode line = bytes line.toList := encode_eq_flatMap line
  rw [valueByBytes?, keyBytes, lineBytes, start]
  simp only [Option.bind_eq_bind, Option.bind_some, behindKey, behindMark?_eq, beforeMark?_eq,
    valueBehind]

/-! ### Outputs that go on -/

/-- A carriage return at the end is trimmed away with the white space there. -/
theorem valueBehind_concat_return (rest : List Char) :
    valueBehind (rest ++ ['\r']) = valueBehind rest := by
  have behind : ((split? [':'] (rest ++ ['\r'])).map Prod.snd).getD (rest ++ ['\r']) =
      ((split? [':'] rest).map Prod.snd).getD rest ++ ['\r'] := by
    rw [split?_append_of_not_mem (by decide)]
    cases split? [':'] rest <;> rfl
  rw [valueBehind, behind, valueBehind]
  generalize ((split? [':'] rest).map Prod.snd).getD rest = s
  cases found : split? ['('] s with
  | some parts => rw [cutAt_of_split? found, cutAt_of_split? (split?_append ['\r'] found)]
  | none =>
    have absent := split?_singleton_eq_none_iff.mp found
    have absent' : '(' ∉ s ++ ['\r'] := by simp [absent]
    rw [cutAt_of_not_mem absent, cutAt_of_not_mem absent']
    exact @trim_between_blanks [] s ['\r'] (by simp) (by simp [isBlank])

/-- **A line has the same value without a carriage return at its end**, unless the key has one. -/
theorem valueOn?_dropReturn {key : List Char} (plain : '\r' ∉ key) (line : List Char) :
    valueOn? key (dropReturn line) = valueOn? key line := by
  rw [dropReturn]
  split
  next last =>
    obtain ⟨front, rfl⟩ := List.getLast?_eq_some_iff.mp last
    rw [List.dropLast_concat, valueOn?, valueOn?, split?_append_of_not_mem plain, Option.map_map]
    simp only [Function.comp_def, valueBehind_concat_return]
  next => rfl

theorem toList_append_lineFeed (output more : String) :
    (output ++ "\n" ++ more).toList = output.toList ++ '\n' :: more.toList := by simp

/-- What comes behind the end of a line does not matter to a value before it. -/
theorem extract?_lineFeed_append (found : (extract? (output ++ "\n") key).isSome)
    (more : String) : extract? (output ++ "\n" ++ more) key = extract? (output ++ "\n") key := by
  have ended := toList_append_lineFeed output ""
  rw [String.append_empty] at ended
  rw [extract?_eq_findSome?, Option.isSome_map, ended, lines_lineFeed] at found
  obtain ⟨value, here⟩ := Option.isSome_iff_exists.mp found
  have none_ : lines "".toList = [] := rfl
  rw [none_, List.append_nil] at here
  rw [extract?_eq_findSome?, extract?_eq_findSome?, ended, toList_append_lineFeed, lines_lineFeed,
    lines_lineFeed, none_, List.append_nil, List.findSome?_append, here, Option.some_or]

/-- Ending the last line does not matter to a value, unless the key has a carriage return. -/
theorem extract?_lineFeed (plain : '\r' ∉ key.toList) (found : (extract? output key).isSome) :
    extract? (output ++ "\n") key = extract? output key := by
  obtain ⟨front, last, pieces⟩ : ∃ front last, splitOn '\n' output.toList = front ++ [last] :=
    ⟨_, _, (List.dropLast_concat_getLast (splitOn_ne_nil '\n' output.toList)).symm⟩
  have ended := toList_append_lineFeed output ""
  rw [String.append_empty] at ended
  rw [extract?_eq_findSome?, Option.isSome_map, lines, pieces,
    linesOfPieces_append _ (List.cons_ne_nil _ _), List.findSome?_append] at found
  rw [extract?_eq_findSome?, extract?_eq_findSome?, ended, lines_lineFeed, lines, lines, pieces,
    linesOfPieces_append _ (List.cons_ne_nil _ _), List.map_append, List.findSome?_append,
    List.findSome?_append, List.findSome?_append]
  cases before : (front.map dropReturn).findSome? (valueOn? key.toList) with
  | some value => rfl
  | none =>
    -- the value is on the last line, which is not empty then
    rw [before, Option.none_or, linesOfPieces] at found
    split at found
    next => cases found
    next some_ =>
      rw [linesOfPieces, if_neg some_, List.map_singleton, List.findSome?_singleton,
        List.findSome?_singleton, valueOn?_dropReturn plain]
      exact congrArg (Option.map String.ofList) (Option.or_none ..)

/-! ### Columns -/

/-- **A value is the one behind the key on the first line that has the key.**

There is one exactly if a line has the key. It is read off the first such line: behind the key
where it stands first, behind the next colon and before the next parenthesis if there are any, and
without white space around it; searching and cutting by bytes comes to the same, with no cut inside
of a character. Outputs with the same first line have the same value, and so it does not matter
what follows that line. The columns have one cell each, in their order and with their titles, and
each cell is the one that its column has alone. -/
theorem extract?_first_line (columns : List Column) (output key : String) :
    ((extract? output key).isSome ↔ ∃ line ∈ linesOf output, key.toList <:+: line.toList) ∧
      (∀ line, IsFirstLine key output line →
        (∀ before rest, IsCut key line before rest → ∃ value, IsValue rest value ∧
          extract? output key = some value ∧ valueByBytes? key line = some value) ∧
        ∀ other, IsFirstLine key other line → extract? other key = extract? output key) ∧
      ((extract? (output ++ "\n") key).isSome →
        ∀ more, extract? (output ++ "\n" ++ more) key = extract? (output ++ "\n") key) ∧
      ('\r' ∉ key.toList → (extract? output key).isSome →
        ∀ more, extract? (output ++ "\n" ++ more) key = extract? output key) ∧
      List.Forall₂ (fun column cell =>
          cell.title = column.title ∧ cells [column] output = [cell])
        columns (cells columns output) := by
  refine ⟨extract?_isSome_iff,
    fun line first => ⟨fun before rest cut => ?_, fun other first' => ?_⟩,
    extract?_lineFeed_append, fun plain found more => ?_, ?_⟩
  · exact ⟨_, isValue_valueBehind rest, extract?_of_isFirstLine first cut,
      valueByBytes?_of_isCut cut⟩
  · obtain ⟨before, rest, cut⟩ := exists_isCut first.1
    rw [extract?_of_isFirstLine first cut, extract?_of_isFirstLine first' cut]
  · have same := extract?_lineFeed plain found
    rw [extract?_lineFeed_append (same ▸ found), same]
  · induction columns with
    | nil => exact .nil
    | cons column columns ih => exact .cons ⟨rfl, rfl⟩ ih

/-- The second line is the first one with the key, and the colon is the one behind the key. -/
example : extract? "a: 1\ntime of b: 2s (wall)\ntime: 3" "time" = some "2s" := by decide

end VerifierTrials.Column
