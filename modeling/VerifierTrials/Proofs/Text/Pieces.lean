import VerifierTrials.Text.Basic

/-!
# Pieces of texts

A text is cut into pieces at a separator, and none of the pieces has the separator in it
(`Text.not_mem_of_mem_splitOn`). Putting two texts together makes one piece out of the last piece
of the first and the first piece of the second (`Text.splitOn_append`), unless a separator stands
between them (`Text.splitOn_separator`). So texts that are joined by a separator are cut into the
pieces that they have themselves, one text after the other (`Text.pieces_join`): they come back
exactly when none of them has the separator in it (`Text.flatMap_pieces_eq_self_iff`).

Lines are pieces as well, and so a line has no line feed in it
(`Text.lineFeed_not_mem_of_mem_lines`).
-/

namespace VerifierTrials.Text

/-! ### Pieces of lists of characters -/

theorem splitOn_ne_nil (sep : Char) (s : List Char) : splitOn sep s ≠ [] := by
  cases s with
  | nil => simp [splitOn]
  | cons c s =>
    rw [splitOn]
    split
    next => simp
    next => split <;> simp

/-- The pieces of two texts put together: the last piece of the first text and the first one
of the second become one. -/
theorem splitOn_append (sep : Char) (s : List Char) {t first : List Char}
    {more : List (List Char)} (parts : splitOn sep t = first :: more) :
    splitOn sep (s ++ t) =
      (splitOn sep s).dropLast ++ ((splitOn sep s).getLastD [] ++ first) :: more := by
  induction s with
  | nil => simpa [splitOn] using parts
  | cons c s ih =>
    rw [List.cons_append, splitOn, splitOn]
    obtain ⟨piece, pieces, pieces_eq⟩ := List.exists_cons_of_ne_nil (splitOn_ne_nil sep s)
    rw [ih, pieces_eq]
    split
    next => simp
    next =>
      cases pieces with
      | nil => simp
      | cons next pieces => simp

theorem splitOn_of_not_mem {sep : Char} {s : List Char} (without : sep ∉ s) :
    splitOn sep s = [s] := by
  induction s with
  | nil => rfl
  | cons c s ih =>
    obtain ⟨other, rest⟩ : sep ≠ c ∧ sep ∉ s := by simpa using without
    rw [splitOn, if_neg (Ne.symm other), ih rest]

theorem eq_of_splitOn {sep : Char} {s piece : List Char} (one : splitOn sep s = [piece]) :
    piece = s ∧ sep ∉ s := by
  induction s generalizing piece with
  | nil => simpa [splitOn, eq_comm] using one
  | cons c s ih =>
    obtain ⟨first, pieces, parts⟩ := List.exists_cons_of_ne_nil (splitOn_ne_nil sep s)
    rw [splitOn, parts] at one
    split at one
    next => simp at one
    next other =>
      obtain ⟨rfl, rfl⟩ : c :: first = piece ∧ pieces = [] := by simpa using one
      obtain ⟨rfl, without⟩ := ih parts
      exact ⟨rfl, by simpa [Ne.symm other] using without⟩

theorem not_mem_of_mem_splitOn {sep : Char} {s piece : List Char}
    (within : piece ∈ splitOn sep s) : sep ∉ piece := by
  induction s generalizing piece with
  | nil =>
    obtain rfl := List.mem_singleton.mp within
    simp
  | cons c s ih =>
    obtain ⟨first, pieces, parts⟩ := List.exists_cons_of_ne_nil (splitOn_ne_nil sep s)
    rw [splitOn, parts] at within
    rw [parts] at ih
    split at within
    next =>
      rcases List.mem_cons.mp within with rfl | within
      · simp
      · exact ih within
    next other =>
      rcases List.mem_cons.mp within with rfl | within
      · have rest := ih (List.mem_cons_self)
        simp [Ne.symm other, rest]
      · exact ih (List.mem_cons_of_mem _ within)

/-- A separator between two texts keeps their pieces apart. -/
theorem splitOn_separator (sep : Char) (s t : List Char) :
    splitOn sep (s ++ sep :: t) = splitOn sep s ++ splitOn sep t := by
  have parts : splitOn sep (sep :: t) = [] :: splitOn sep t := by rw [splitOn, if_pos rfl]
  have kept := List.dropLast_concat_getLast (splitOn_ne_nil sep s)
  rw [splitOn_append sep s parts, List.append_nil, List.getLastD_eq_getLast?,
    List.getLast?_eq_some_getLast (splitOn_ne_nil sep s), Option.getD_some]
  rw [← List.singleton_append, ← List.append_assoc, kept]

theorem subset_of_mem_splitOn {sep : Char} {s piece : List Char}
    (within : piece ∈ splitOn sep s) : piece ⊆ s := by
  induction s generalizing piece with
  | nil =>
    obtain rfl := List.mem_singleton.mp within
    exact List.Subset.refl _
  | cons c s ih =>
    obtain ⟨first, pieces, parts⟩ := List.exists_cons_of_ne_nil (splitOn_ne_nil sep s)
    rw [splitOn, parts] at within
    rw [parts] at ih
    split at within
    next =>
      rcases List.mem_cons.mp within with rfl | within
      · exact List.nil_subset _
      · exact List.subset_cons_of_subset c (ih within)
    next =>
      rcases List.mem_cons.mp within with rfl | within
      · exact List.cons_subset_cons c (ih List.mem_cons_self)
      · exact List.subset_cons_of_subset c (ih (List.mem_cons_of_mem _ within))

/-- What a separator does not satisfy holds somewhere in a text if it holds somewhere in a
piece. -/
theorem any_splitOn {sep : Char} {p : Char → Bool} (unlike : p sep = false) (s : List Char) :
    (splitOn sep s).any (fun piece => piece.any p) = s.any p := by
  induction s with
  | nil => rfl
  | cons c s ih =>
    obtain ⟨first, pieces, parts⟩ := List.exists_cons_of_ne_nil (splitOn_ne_nil sep s)
    rw [parts, List.any_cons] at ih
    rw [splitOn, parts]
    split
    next same => rw [same, List.any_cons, List.any_cons, List.any_cons, unlike, ← ih]; rfl
    next => rw [List.any_cons, List.any_cons, List.any_cons, Bool.or_assoc, ih]

/-! ### Pieces of texts -/

theorem pieces_of_not_mem {sep : Char} {s : String} (without : sep ∉ s.toList) :
    pieces sep s = [s] := by
  simp [pieces, splitOn_of_not_mem without]

theorem not_mem_of_mem_pieces {sep : Char} {s piece : String} (within : piece ∈ pieces sep s) :
    sep ∉ piece.toList := by
  obtain ⟨cs, among, rfl⟩ := List.mem_map.mp within
  rw [String.toList_ofList]
  exact not_mem_of_mem_splitOn among

theorem subset_of_mem_pieces {sep : Char} {s piece : String} (within : piece ∈ pieces sep s) :
    piece.toList ⊆ s.toList := by
  obtain ⟨cs, among, rfl⟩ := List.mem_map.mp within
  rw [String.toList_ofList]
  exact subset_of_mem_splitOn among

theorem any_pieces {sep : Char} {p : Char → Bool} (unlike : p sep = false) (s : String) :
    (pieces sep s).any (fun piece => piece.toList.any p) = s.toList.any p := by
  rw [pieces, List.any_map, ← any_splitOn unlike s.toList]
  simp only [Function.comp_def, String.toList_ofList]

theorem pieces_separator {glue : String} {sep : Char} (one : glue.toList = [sep]) (s t : String) :
    pieces sep (s ++ glue ++ t) = pieces sep s ++ pieces sep t := by
  simp [pieces, one, splitOn_separator]

theorem join_cons {glue part : String} {parts : List String} (some_ : parts ≠ []) :
    join glue (part :: parts) = part ++ glue ++ join glue parts :=
  String.intercalate_cons_of_ne_nil some_

/-- The pieces of a text, joined again, make the text. -/
theorem join_pieces {glue : String} {sep : Char} (one : glue.toList = [sep]) (s : String) :
    join glue (pieces sep s) = s := by
  suffices all : ∀ cs : List Char, (join glue ((splitOn sep cs).map String.ofList)).toList = cs by
    rw [← String.toList_inj, pieces, all]
  intro cs
  induction cs with
  | nil => rfl
  | cons c cs ih =>
    obtain ⟨first, more, parts⟩ := List.exists_cons_of_ne_nil (splitOn_ne_nil sep cs)
    rw [parts] at ih
    rw [splitOn, parts]
    split
    next same =>
      rw [List.map_cons, join_cons (by simp), String.toList_append, String.toList_append, ih, one,
        same]
      rfl
    next =>
      cases more with
      | nil =>
        simp only [List.map_cons, List.map_nil, join, String.intercalate_singleton,
          String.toList_ofList] at ih ⊢
        rw [ih]
      | cons next more =>
        rw [List.map_cons, join_cons (by simp), String.toList_append, String.toList_append,
          String.toList_ofList] at ih ⊢
        rw [← ih]
        rfl

/-- **Joined texts are cut into their own pieces**, one text after the other. -/
theorem pieces_join {glue : String} {sep : Char} (one : glue.toList = [sep])
    {parts : List String} (some_ : parts ≠ []) :
    pieces sep (join glue parts) = parts.flatMap (pieces sep) := by
  induction parts with
  | nil => exact absurd rfl some_
  | cons part parts ih =>
    by_cases last : parts = []
    · subst last
      simp [join]
    · rw [join_cons last, pieces_separator one, List.flatMap_cons, ih last]

/-- Texts are their own pieces exactly when none of them has the separator in it. -/
theorem flatMap_pieces_eq_self_iff {sep : Char} {parts : List String} :
    parts.flatMap (pieces sep) = parts ↔ ∀ part ∈ parts, sep ∉ part.toList := by
  constructor
  · intro same part within
    rw [← same] at within
    obtain ⟨whole, -, among⟩ := List.mem_flatMap.mp within
    exact not_mem_of_mem_pieces among
  · intro without
    induction parts with
    | nil => rfl
    | cons part parts ih =>
      rw [List.forall_mem_cons] at without
      rw [List.flatMap_cons, pieces_of_not_mem without.1, ih without.2, List.singleton_append]

/-! ### Lines -/

theorem subset_of_mem_linesOfPieces {pieces : List (List Char)} {line : List Char}
    (within : line ∈ linesOfPieces pieces) : ∃ piece ∈ pieces, line ⊆ piece := by
  induction pieces with
  | nil => cases within
  | cons piece pieces ih =>
    cases pieces with
    | nil =>
      rw [linesOfPieces] at within
      split at within
      next => cases within
      next => exact ⟨piece, List.mem_cons_self, List.mem_singleton.mp within ▸ List.Subset.refl _⟩
    | cons next pieces =>
      rw [linesOfPieces] at within
      rcases List.mem_cons.mp within with rfl | within
      · refine ⟨piece, List.mem_cons_self, ?_⟩
        unfold dropReturn
        split
        · exact List.dropLast_subset _
        · exact List.Subset.refl _
      · obtain ⟨found, among, subset⟩ := ih within
        exact ⟨found, List.mem_cons_of_mem _ among, subset⟩
      · simp

/-- A piece that more pieces follow ends with a line feed. -/
theorem linesOfPieces_append (pieces : List (List Char)) {more : List (List Char)}
    (some_ : more ≠ []) :
    linesOfPieces (pieces ++ more) = pieces.map dropReturn ++ linesOfPieces more := by
  induction pieces with
  | nil => rfl
  | cons piece pieces ih =>
    have further : pieces ++ more ≠ [] := by simp [some_]
    rw [List.cons_append, linesOfPieces.eq_3 _ _ further, ih]
    rfl

/-- **The lines of a text that goes on on another line.** -/
theorem lines_lineFeed (s t : List Char) :
    lines (s ++ '\n' :: t) = (splitOn '\n' s).map dropReturn ++ lines t := by
  rw [lines, splitOn_separator, linesOfPieces_append _ (splitOn_ne_nil '\n' t), lines]

/-- A line has no line feed in it. -/
theorem lineFeed_not_mem_of_mem_lines {s line : List Char} (within : line ∈ lines s) :
    '\n' ∉ line := by
  obtain ⟨piece, among, subset⟩ := subset_of_mem_linesOfPieces within
  exact fun inside => not_mem_of_mem_splitOn among (subset inside)

end VerifierTrials.Text
