import VerifierTrials.Path.Basic
import VerifierTrials.Proofs.Text.Pieces

/-!
# Components of path names put together

Path names of reports are made by appending texts: a directory, a name, a date, an ending.
Appending a text continues the last component, and the slashes in it begin new ones
(`Path.components_append`), so that a text without slashes changes the last component and
nothing else.

Joining a name to a directory is such an appending, to the directory with a slash at its end
(`Path.leading`). So a joined path name tells the name and what stands before it
(`Path.join_inj`), but not the directory: two directories that differ only in a slash at the end
join in the same way.
-/

namespace VerifierTrials

open VerifierTrials.Text

namespace Path

/-! ### Components -/

/-- The components before the last one. -/
def front (path : String) : List String := (components path).dropLast

/-- The last component. -/
def lastPart (path : String) : String := (components path).getLastD ""

theorem components_ne_nil (path : String) : components path ≠ [] := by
  simpa [components, pieces] using splitOn_ne_nil '/' path.toList

theorem front_concat_lastPart (path : String) : front path ++ [lastPart path] = components path := by
  have some_ := components_ne_nil path
  rw [front, lastPart, List.getLastD_eq_getLast?, List.getLast?_eq_some_getLast some_]
  exact List.dropLast_concat_getLast some_

theorem components_of_not_mem {x : String} (plain : '/' ∉ x.toList) : components x = [x] :=
  pieces_of_not_mem plain

theorem eq_of_components {x piece : String} (one : components x = [piece]) :
    piece = x ∧ '/' ∉ x.toList := by
  obtain ⟨first, parts, rfl⟩ : ∃ s, splitOn '/' x.toList = [s] ∧ String.ofList s = piece := by
    simpa [components, Text.pieces, List.map_eq_singleton_iff] using one
  obtain ⟨rfl, without⟩ := eq_of_splitOn parts
  exact ⟨String.ofList_toList, without⟩

/-- The components of a path name that is continued: its last one is continued by the first
one of what is added. -/
theorem components_append {x first : String} {more : List String} (base : String)
    (parts : components x = first :: more) :
    components (base ++ x) = front base ++ (lastPart base ++ first) :: more := by
  obtain ⟨piece, pieces, pieces_eq⟩ :=
    List.exists_cons_of_ne_nil (splitOn_ne_nil '/' x.toList)
  obtain ⟨rfl, rfl⟩ : String.ofList piece = first ∧ pieces.map String.ofList = more := by
    simpa [components, Text.pieces, pieces_eq] using parts
  have last : lastPart base = String.ofList ((splitOn '/' base.toList).getLastD []) := by
    rw [lastPart, components, Text.pieces, List.getLastD_eq_getLast?, List.getLast?_map,
      List.getLastD_eq_getLast?]
    cases (splitOn '/' base.toList).getLast? <;> rfl
  rw [last, ← String.ofList_append]
  simp [components, Text.pieces, front, splitOn_append '/' base.toList pieces_eq,
    List.map_dropLast]

theorem components_append_of_not_mem (base : String) {x : String} (plain : '/' ∉ x.toList) :
    components (base ++ x) = front base ++ [lastPart base ++ x] :=
  components_append base (components_of_not_mem plain)

theorem components_slash (base path : String) :
    components (base ++ "/" ++ path) = components base ++ components path :=
  pieces_separator rfl base path

/-- Components that are joined again are the components of what comes out. -/
theorem components_join {parts : List String} (some_ : parts ≠ [])
    (plain : ∀ part ∈ parts, '/' ∉ part.toList) : components (Text.join "/" parts) = parts := by
  have slash : "/".toList = ['/'] := rfl
  rw [components, pieces_join slash some_, flatMap_pieces_eq_self_iff.mpr plain]

/-- The components of a path name, joined again, make the path name. -/
theorem join_components (path : String) : Text.join "/" (components path) = path :=
  join_pieces rfl path

theorem not_mem_of_mem_components {path piece : String} (within : piece ∈ components path) :
    '/' ∉ piece.toList :=
  not_mem_of_mem_pieces within

theorem mem_components_of_mem_essential {path piece : String} (within : piece ∈ essential path) :
    piece ∈ components path := by
  rw [essential] at within
  split at within
  next => cases within
  next first rest parts =>
    rw [parts]
    rcases List.mem_append.mp within with among | among
    · split at among
      next => cases among
      next =>
        obtain rfl := List.mem_singleton.mp among
        exact List.mem_cons_self
    · exact List.mem_cons_of_mem _ (List.mem_filter.mp among).1

/-- The last name of a path is one component. -/
theorem not_mem_of_fileName? {path name : String} (named : fileName? path = some name) :
    '/' ∉ name.toList := by
  rw [fileName?] at named
  split at named
  next last found =>
    split at named
    next => cases named
    next =>
      obtain rfl := Option.some.inj named
      exact not_mem_of_mem_components
        (mem_components_of_mem_essential (List.mem_of_getLast? found))
  next => cases named

/-- A path name has a character that is no slash in it if one of its components has. -/
theorem contains_eq_any {d : Char} (other : d ≠ '/') (path : String) :
    path.toList.contains d = (components path).any fun part => part.toList.contains d := by
  simp only [List.contains_eq_any_beq]
  exact (any_pieces (by simpa using other) path).symm

/-- **An absolute path name** has nothing before its first slash. -/
theorem isAbsolute_of_components {path first : String} {more : List String}
    (parts : components path = first :: more) :
    isAbsolute path = (decide (first = "") && !more.isEmpty) := by
  rw [isAbsolute]
  cases chars : path.toList with
  | nil =>
    obtain ⟨rfl, rfl⟩ : "" = first ∧ [] = more := by
      simpa [components, Text.pieces, chars, splitOn] using parts
    rfl
  | cons d rest =>
    obtain ⟨piece, pieces, pieces_eq⟩ := List.exists_cons_of_ne_nil (splitOn_ne_nil '/' rest)
    by_cases slash : d = '/'
    · obtain ⟨rfl, rfl⟩ : "" = first ∧ (piece :: pieces).map String.ofList = more := by
        simpa [components, Text.pieces, chars, splitOn, slash, pieces_eq] using parts
      simp [slash]
    · obtain ⟨rfl, rfl⟩ : String.ofList (d :: piece) = first ∧ pieces.map String.ofList = more := by
        simpa [components, Text.pieces, chars, splitOn, slash, pieces_eq] using parts
      simp [slash]

/-! ### The directory around a file -/

/-- Components that stay where they are. -/
def AreIdle (parts : List String) : Prop := ∀ part ∈ parts, part = "" ∨ part = "."

/-- Components that stay where they are go, but for the last one of all. -/
theorem exists_dropIdle (parts : List String) :
    ∃ idle, parts = idle ++ dropIdle parts ∧ AreIdle idle := by
  fun_induction dropIdle parts with
  | case1 => exact ⟨[], rfl, by simp [AreIdle]⟩
  | case2 first => exact ⟨[], rfl, by simp [AreIdle]⟩
  | case3 part rest _ idle ih =>
    obtain ⟨more, same, idle'⟩ := ih
    refine ⟨part :: more, by rw [List.cons_append, ← same], ?_⟩
    exact List.forall_mem_cons.mpr ⟨by simpa using idle, idle'⟩
  | case4 part rest => exact ⟨[], rfl, by simp [AreIdle]⟩

theorem dropIdle_ne_nil {parts : List String} (some_ : parts ≠ []) : dropIdle parts ≠ [] := by
  fun_induction dropIdle parts with
  | case1 => exact some_
  | case2 | case4 => simp
  | case3 part rest notLast _ ih => exact ih fun none_ => notLast (none_ ▸ rfl)

section Named

variable {path c : String} {around : List String} (parts : components path = around ++ [c])
  (nonempty : c ≠ "") (notDot : c ≠ ".")
include parts nonempty notDot

omit notDot in
/-- A name alone has no directory around it. -/
theorem parent?_of_components_nil (alone : around = []) : parent? path = some "" := by
  rw [parent?, parts, alone]
  simp [dropIdle, nonempty]

/-- **The directory around a name** is written as what stands before it, without what stays where
it is there. -/
theorem parent?_of_components (some_ : around ≠ []) :
    ∃ kept idle, around = kept ++ idle ∧ AreIdle idle ∧ kept ≠ [] ∧
      parent? path = some (if kept = [""] then "/" else Text.join "/" kept) := by
  obtain ⟨idle, same, areIdle⟩ := exists_dropIdle around.reverse
  have some' : around.reverse ≠ [] := by simpa using some_
  refine ⟨(dropIdle around.reverse).reverse, idle.reverse, ?_, ?_, ?_, ?_⟩
  · rw [← List.reverse_append, ← same, List.reverse_reverse]
  · exact fun part within => areIdle part (List.mem_reverse.mp within)
  · simpa using dropIdle_ne_nil some'
  · have stays : dropIdle (components path).reverse = c :: around.reverse := by
      rw [parts, List.reverse_concat, dropIdle, if_neg (by simp [nonempty, notDot])]
      exact fun none_ => some' none_
    rw [parent?, stays]
    obtain ⟨last, more, around_eq⟩ := List.exists_cons_of_ne_nil some'
    simp only [around_eq]
    split
    next root => rw [root]; rfl
    next kept notRoot =>
      rw [if_neg]
      exact fun root => notRoot (List.reverse_eq_iff.mp root)

end Named

/-! ### Relative path names -/

theorem isAbsolute_append {s : String} (nonempty : s ≠ "") (x : String) :
    isAbsolute (s ++ x) = isAbsolute s := by
  have first : s.toList ≠ [] := by simpa using nonempty
  obtain ⟨c, rest, s_eq⟩ := List.exists_cons_of_ne_nil first
  rw [isAbsolute, isAbsolute, String.toList_append, s_eq]
  rfl

theorem join_append (directory x : String) {s : String} (nonempty : s ≠ "") :
    join directory (s ++ x) = join directory s ++ x := by
  simp only [join, isAbsolute_append nonempty]
  split
  next => rfl
  next => split <;> simp only [String.append_assoc]

theorem join_eq_append (directory path : String) :
    ∃ before, join directory path = before ++ path := by
  rw [join]
  split
  next => exact ⟨"", by simp⟩
  next =>
    split
    next => exact ⟨directory, rfl⟩
    next => exact ⟨directory ++ "/", rfl⟩

theorem isAbsolute_of_not_mem {path : String} (plain : '/' ∉ path.toList) :
    isAbsolute path = false := by
  rw [isAbsolute, decide_eq_false_iff_not]
  exact fun first => plain (List.mem_of_head? first)

theorem join_of_relative {directory path : String} (nonempty : directory ≠ "")
    (noSlash : directory.toList.getLast? ≠ some '/') (relative : isAbsolute path = false) :
    join directory path = directory ++ "/" ++ path := by
  rw [join, if_neg (by simp [nonempty, relative]), if_neg noSlash]

/-- **An open directory**: one that a name can be put behind as it is. -/
def isOpen (directory : String) : Bool := directory = "" || directory.toList.getLast? = some '/'

/-- What stands before a name that is joined to a directory. -/
def leading (directory : String) : String :=
  if isOpen directory then directory else directory ++ "/"

theorem isOpen_leading (directory : String) : isOpen (leading directory) = true := by
  rw [leading]
  split
  next open_ => exact open_
  next =>
    have last : (directory ++ "/").toList.getLast? = some '/' := by
      rw [String.toList_append, List.getLast?_append]
      rfl
    rw [isOpen, last]
    simp

theorem join_eq_leading {path : String} (relative : isAbsolute path = false) (directory : String) :
    join directory path = leading directory ++ path := by
  rw [join, leading, isOpen, relative]
  by_cases empty : directory = ""
  · simp [empty]
  · by_cases slash : directory.toList.getLast? = some '/' <;> simp [empty, slash]

/-- A path name that is open has nothing behind its last slash. -/
theorem lastPart_of_isOpen {path : String} (open_ : isOpen path = true) : lastPart path = "" := by
  rw [isOpen, Bool.or_eq_true, decide_eq_true_eq, decide_eq_true_eq] at open_
  rcases open_ with rfl | slash
  · rfl
  · obtain ⟨front, same⟩ := List.getLast?_eq_some_iff.mp slash
    obtain rfl : path = String.ofList front ++ "/" ++ "" := by
      rw [← String.toList_inj, same]
      simp
    rw [lastPart, components_slash, List.getLastD_eq_getLast?, List.getLast?_append]
    rfl

/-- The components of what is put behind a directory come last. -/
theorem components_leading_append (directory path : String) :
    components (leading directory ++ path) = front (leading directory) ++ components path := by
  obtain ⟨first, more, parts⟩ := List.exists_cons_of_ne_nil (components_ne_nil path)
  rw [components_append _ parts, lastPart_of_isOpen (isOpen_leading directory),
    String.empty_append, parts]

/-- A name that is joined to a directory is the last component. -/
theorem components_join_of_not_mem (directory : String) {x : String} (plain : '/' ∉ x.toList) :
    components (join directory x) = front (leading directory) ++ [x] := by
  rw [join_eq_leading (isAbsolute_of_not_mem plain), components_leading_append,
    components_of_not_mem plain]

/-- **A joined path name shows what it was joined from**: the name behind its last slash, and
what stands before the name. -/
theorem join_inj {directory other x y : String} (plain : '/' ∉ x.toList) (plain' : '/' ∉ y.toList)
    (same : join directory x = join other y) : x = y ∧ leading directory = leading other := by
  have parts := congrArg components same
  rw [components_join_of_not_mem _ plain, components_join_of_not_mem _ plain'] at parts
  obtain rfl : x = y := List.singleton_inj.mp (List.append_inj' parts rfl).2
  refine ⟨rfl, ?_⟩
  rw [join_eq_leading (isAbsolute_of_not_mem plain),
    join_eq_leading (isAbsolute_of_not_mem plain')] at same
  rwa [← String.toList_inj, String.toList_append, String.toList_append,
    List.append_cancel_right_eq, String.toList_inj] at same

/-- Two directories are told apart by what stands before names in them, when both are open or
neither is. -/
theorem eq_of_leading {directory other : String} (alike : isOpen directory = isOpen other)
    (same : leading directory = leading other) : directory = other := by
  rw [leading, leading, alike] at same
  split at same
  next => exact same
  next =>
    rwa [← String.toList_inj, String.toList_append, String.toList_append,
      List.append_cancel_right_eq, String.toList_inj] at same

/-- Only the last character tells whether a directory is open. -/
theorem isOpen_append (before : String) {x : String} (nonempty : x ≠ "") :
    isOpen (before ++ x) = isOpen x := by
  have some_ : x.toList ≠ [] := by simpa using nonempty
  have last : (before ++ x).toList.getLast? = x.toList.getLast? := by
    rw [String.toList_append, List.getLast?_append, List.getLast?_eq_some_getLast some_]
    rfl
  rw [isOpen, isOpen, last]
  simp [nonempty]

/-- What has been joined is open if nothing was joined to it. -/
theorem isOpen_join {x : String} (plain : '/' ∉ x.toList) (directory : String) :
    isOpen (join directory x) = decide (x = "") := by
  rw [join_eq_leading (isAbsolute_of_not_mem plain)]
  by_cases empty : x = ""
  · rw [empty, String.append_empty, isOpen_leading, decide_eq_true rfl]
  · have noSlash : x.toList.getLast? ≠ some '/' := fun slash =>
      plain (List.mem_of_getLast? slash)
    rw [isOpen_append _ empty, isOpen]
    simp [empty, noSlash]

theorem join_ne_empty (directory : String) {path : String} (nonempty : path ≠ "") :
    join directory path ≠ "" := by
  rw [join]
  split
  next => exact nonempty
  next => split <;> simp [nonempty]

end Path

end VerifierTrials
