import Mathlib
import VerifierTrials.Proofs.FileTree.Directories
import VerifierTrials.Proofs.FileTree.Patterns
import VerifierTrials.Proofs.Text.Encoding

/-!
# Names that are found by how they begin

A star behind the beginning of a name finds the name, if the beginning is written such that each of
its characters stands for itself (`Wildcard.escape`): what has a meaning of its own in a wildcard
needs a backslash, and so does a backslash. Read back, such a beginning is one piece for each of its
characters (`Wildcard.read?_escape_star`), and what is left of the name goes to the star.

So every path that leads anywhere, in a directory that is written without wildcards, is found from
any beginning of its last name (`FileTree.mem_glob_beginning`). The way into the directory is part
of the way to the path (`FileTree.hasEntry_of_pathExists`), whatever links it takes.
-/

namespace VerifierTrials

open VerifierTrials.Text

namespace Wildcard

/-! ### Literal beginnings -/

/-- A character that has a meaning of its own in a wildcard. -/
def isSpecial (c : Char) : Bool :=
  c = '?' || c = '*' || c = '[' || c = '\x7b' || c = '\x7d' || c = '\\'

/-- A character as it is written for itself. -/
def escapeChar (c : Char) : List Char := if isSpecial c then ['\\', c] else [c]

/-- **A text as it is written for itself** in a wildcard. -/
def escape (s : String) : String := String.ofList (s.toList.flatMap escapeChar)

/-- A character that stands for itself. -/
def literal (c : Char) : Wildcard := bytes (Utf8.encode (String.singleton c))

/-- **A text with no special character in it** is written as it is. -/
theorem escape_of_plain {s : String} (plain : ∀ c ∈ s.toList, isSpecial c = false) :
    escape s = s := by
  have kept : ∀ c ∈ s.toList, escapeChar c = [c] := fun c among => by
    rw [escapeChar, plain c among]
    rfl
  rw [escape, List.flatMap_congr kept, List.flatMap_singleton', String.ofList_toList]

theorem not_mem_escape {d : Char} (other : d ≠ '\\') {s : String} (none_ : d ∉ s.toList) :
    d ∉ (escape s).toList := by
  rw [escape, String.toList_ofList, List.mem_flatMap]
  rintro ⟨c, among, written⟩
  rw [escapeChar] at written
  have same : d = c := by
    split at written
    next => simpa [other] using written
    next => simpa using written
  exact none_ (same ▸ among)

/-- One character that is written for itself is one piece. -/
theorem readPieces?_escapeChar (n : Nat) (pieces : List Wildcard) (c : Char) (rest : List Char) :
    readPieces? (n + 1) pieces [] (escapeChar c ++ rest) =
      readPieces? n (literal c :: pieces) [] rest := by
  by_cases special : isSpecial c = true
  · rw [escapeChar, if_pos special]
    rfl
  · have plain := special
    simp only [isSpecial, Bool.or_eq_true, decide_eq_true_eq, not_or] at plain
    rw [escapeChar, if_neg special, List.singleton_append, readPieces?.eq_def]
    simp [plain, literal]

/-- The number of characters to be read goes down by one for each piece. -/
theorem readPieces?_escape (n : Nat) (pieces : List Wildcard) (cs rest : List Char) :
    readPieces? (cs.length + n) pieces [] (cs.flatMap escapeChar ++ rest) =
      readPieces? n ((cs.map literal).reverse ++ pieces) [] rest := by
  induction cs generalizing pieces with
  | nil => rw [List.length_nil, Nat.zero_add]; rfl
  | cons c cs ih =>
    have count : (c :: cs).length + n = cs.length + n + 1 := by
      rw [List.length_cons]
      omega
    rw [count, List.flatMap_cons, List.append_assoc, readPieces?_escapeChar, ih, List.map_cons,
      List.reverse_cons, List.append_assoc]
    rfl

theorem length_le_escape (cs : List Char) : cs.length ≤ (cs.flatMap escapeChar).length := by
  induction cs with
  | nil => exact Nat.le_refl _
  | cons c cs ih =>
    have some_ : 0 < (escapeChar c).length := by
      rw [escapeChar]
      split <;> simp
    rw [List.flatMap_cons, List.length_append, List.length_cons]
    omega

/-- **A beginning with a star behind it** is read as its characters and the star. -/
theorem read?_escape_star (s : String) :
    read? (escape s ++ "*") = some (s.toList.map literal ++ [anyMany]) := by
  have chars : (escape s ++ "*").toList = s.toList.flatMap escapeChar ++ ['*'] := by
    rw [String.toList_append, escape, String.toList_ofList]
    rfl
  have long := length_le_escape s.toList
  obtain ⟨n, count⟩ : ∃ n, (s.toList.flatMap escapeChar ++ ['*']).length + 1 =
      s.toList.length + (n + 2) :=
    ⟨(s.toList.flatMap escapeChar).length - s.toList.length, by
      rw [List.length_append, List.length_singleton]
      omega⟩
  rw [read?, chars, count, readPieces?_escape, List.append_nil]
  have star : ∀ pieces, readPieces? (n + 2) pieces [] ['*'] = some (anyMany :: pieces).reverse :=
    fun pieces => rfl
  rw [star, List.reverse_cons, List.reverse_reverse]

/-! ### What such a wildcard matches -/

theorem encode_singleton (c : Char) :
    Utf8.encode (String.singleton c) = String.utf8EncodeChar c := by
  rw [Utf8.encode_eq_flatMap, String.toList_singleton, List.flatMap_singleton]

theorem nil_mem_suffixes (s : Bytes) : [] ∈ suffixes s := by
  induction s with
  | nil => exact List.mem_singleton_self _
  | cons b s ih => exact List.mem_cons_of_mem _ ih

/-- Characters that stand for themselves take their own bytes. -/
theorem mem_seqLeftovers_literal {wildcard : List Wildcard} {s rest : Bytes}
    (left : rest ∈ seqLeftovers wildcard s) (cs : List Char) :
    rest ∈ seqLeftovers (cs.map literal ++ wildcard) (cs.flatMap String.utf8EncodeChar ++ s) := by
  induction cs with
  | nil => exact left
  | cons c cs ih =>
    have own : leftovers (literal c)
        (String.utf8EncodeChar c ++ (cs.flatMap String.utf8EncodeChar ++ s)) =
          [cs.flatMap String.utf8EncodeChar ++ s] := by
      rw [literal, encode_singleton, leftovers, List.drop_left,
        if_pos (List.isPrefixOf_iff_prefix.mpr (List.prefix_append _ _))]
    rw [List.map_cons, List.cons_append, seqLeftovers, List.flatMap_cons, List.append_assoc, own,
      List.flatMap_singleton, List.mem_eraseDups]
    exact ih

/-- **A beginning with a star matches every name that begins so.** -/
theorem matchesName_beginning (a b : String) :
    matchesName (a.toList.map literal ++ [anyMany]) (a ++ b) = true := by
  have star : [] ∈ seqLeftovers [anyMany] (Utf8.encode b) := by
    rw [seqLeftovers, List.mem_eraseDups, List.mem_flatMap]
    refine ⟨[], ?_, List.mem_singleton_self _⟩
    rw [leftovers]
    exact nil_mem_suffixes _
  rw [matchesName, Utf8.encode_append, Utf8.encode_eq_flatMap a, List.any_eq_true]
  exact ⟨[], mem_seqLeftovers_literal star a.toList, rfl⟩

end Wildcard

namespace FileTree

variable {tree : FileTree} {directory name a b : String}

/-! ### The directory of a path -/

/-- **A name with a directory written before it.** A slash at the end of the directory is not
written twice. -/
def within (directory name : String) : String :=
  if directory.toList.getLast? = some '/' then directory ++ name else directory ++ "/" ++ name

theorem join_textBefore (plain : '/' ∉ name.toList) :
    Path.join (textBefore (Path.components directory)) name = within directory name := by
  have relative := Path.isAbsolute_of_not_mem plain
  rw [textBefore_eq]
  split
  next root =>
    obtain ⟨rfl, -⟩ := Path.eq_of_components root
    simp [Path.join, within, relative]
  next notRoot =>
    have some_ : directory ≠ "" := by
      rintro rfl
      exact notRoot rfl
    simp [Path.join_components, Path.join, within, relative, some_]

/-- **A path that leads anywhere** tells that its last name is in the directory before it. -/
theorem hasEntry_of_pathExists (settled : Settled tree)
    (there : tree.pathExists (directory ++ "/" ++ name) = true) (noSlash : '/' ∉ name.toList)
    (nonempty : name ≠ "") (notDot : name ≠ ".") (notUp : name ≠ "..") :
    HasEntry tree (textBefore (Path.components directory)) name := by
  have parts : Path.components (directory ++ "/" ++ name) =
      Path.components directory ++ [name] := by
    rw [Path.components_slash, Path.components_of_not_mem noSlash]
  obtain ⟨entry, found⟩ : ∃ entry, tree.find false (directory ++ "/" ++ name) = .ok entry := by
    rw [pathExists] at there
    cases found : tree.find false (directory ++ "/" ++ name) with
    | ok entry => exact ⟨entry, rfl⟩
    | error cause =>
      rw [found] at there
      cases there
  obtain ⟨p, led, held⟩ := find_eq_ok_iff.mp found
  obtain ⟨noNull, -, leads⟩ := locate_eq_ok_iff.mp led
  have named := names_of_locate led parts nonempty notDot notUp
  obtain ⟨place, leads', grounded⟩ := leads.front (settled.grounded_start _) parts (by simp)
  have ended : tree.follow false linkBound (tree.startOf (directory ++ "/" ++ name))
      (Path.components (directory ++ "/" ++ name)) = .ok p := follow_of_leads leads
  obtain ⟨left, same⟩ := leads'.into grounded.directory
  rw [parts, same _ _ (by simp), follow_false_name named] at ended
  obtain rfl : place ++ [name] = p := Except.ok.inj ended
  have some_ := Path.components_ne_nil directory
  have written : textBefore (Path.components directory) ≠ "" :=
    textBefore_ne_empty some_ fun part => Path.not_mem_of_mem_components
  refine ⟨place, ?_, grounded.directory, by rw [held]; rfl⟩
  rw [if_neg written]
  exact locate_textBefore some_ parts (by simp) noNull leads'

/-! ### Beginnings of names -/

theorem hasWildcard_star (s : String) : hasWildcard (s ++ "*") = true := by
  rw [hasWildcard, String.toList_append, List.any_append]
  simp

/-- **A name is found by any beginning of it**, written for itself, with a star behind it. -/
theorem mem_glob_beginning (settled : Settled tree)
    (there : tree.pathExists (directory ++ "/" ++ name) = true)
    (plain : hasWildcard directory = false) (noSlash : '/' ∉ name.toList) (nonempty : name ≠ "")
    (shown : isHiddenName name = false) (begins : name = a ++ b) :
    within directory name ∈ tree.glob (directory ++ "/" ++ (Wildcard.escape a ++ "*")) ∧
      ((∀ c ∈ a.toList, Wildcard.isSpecial c = false) →
        within directory name ∈ tree.glob (directory ++ "/" ++ (a ++ "*"))) := by
  have found : within directory name ∈
      tree.glob (directory ++ "/" ++ (Wildcard.escape a ++ "*")) := by
    have notDot : name ≠ "." := by
      rintro rfl
      exact absurd shown (by decide)
    have notUp : name ≠ ".." := by
      rintro rfl
      exact absurd shown (by decide)
    have noSlash' : '/' ∉ (Wildcard.escape a ++ "*").toList := by
      have inside : '/' ∉ a.toList := fun inside => noSlash (by rw [begins]; simp [inside])
      simpa using Wildcard.not_mem_escape (by decide) inside
    have parts : Path.components (directory ++ "/" ++ (Wildcard.escape a ++ "*")) =
        Path.components directory ++ [Wildcard.escape a ++ "*"] := by
      rw [Path.components_slash, Path.components_of_not_mem noSlash']
    have plain' : ∀ part ∈ Path.components directory, hasWildcard part = false := by
      rw [hasWildcard_eq, List.any_eq_false] at plain
      exact fun part among => by simpa using plain part among
    have taken :
        Takes tree (Wildcard.escape a ++ "*") (textBefore (Path.components directory)) name :=
      ⟨hasEntry_of_pathExists settled there noSlash nonempty notDot notUp,
        fun hidden => absurd hidden (by simp [shown]),
        _, Wildcard.read?_escape_star a, by rw [begins]; exact Wildcard.matchesName_beginning a b⟩
    rw [← join_textBefore noSlash, mem_glob_iff]
    exact .walk parts plain' (hasWildcard_star _) (.take (hasWildcard_star _) taken .done)
  refine ⟨found, fun ordinary => ?_⟩
  rwa [Wildcard.escape_of_plain ordinary] at found

/-- A directory with one file in it, whose name has a backslash and a brace. -/
def oddlyNamed : FileTree where
  entries := [(["d"], .directory), (["d", "a\\\x7bb"], .file 0o644 [])]

theorem settled_oddlyNamed : Settled oddlyNamed := ⟨List.forall_mem_nil _, grounded_root _⟩

theorem pathExists_oddlyNamed : oddlyNamed.pathExists ("d" ++ "/" ++ "a\\\x7bb") = true := by
  have file : oddlyNamed.entry? ["d", "a\\\x7bb"] = some (.file 0o644 []) := rfl
  have ends : AtMostFile oddlyNamed ["d", "a\\\x7bb"] :=
    ⟨by rw [file]; simp, fun target => by rw [file]; simp⟩
  have leads : Leads oddlyNamed false linkBound [] ["d", "a\\\x7bb"] ["d", "a\\\x7bb"] :=
    .enter (by decide) rfl (.last (by decide) ends)
  exact pathExists_of_locate (locate_eq_ok_iff.mpr ⟨by decide, by decide, leads⟩) rfl

/-- With a backslash before the backslash and the brace, the file is found by its first three
characters. -/
theorem mem_glob_beginning_odd :
    oddlyNamed.pathExists ("d" ++ "/" ++ "a\\\x7bb") = true ∧
      Wildcard.escape "a\\\x7b" = "a\\\\\\\x7b" ∧
        within "d" "a\\\x7bb" ∈
          oddlyNamed.glob ("d" ++ "/" ++ (Wildcard.escape "a\\\x7b" ++ "*")) :=
  ⟨pathExists_oddlyNamed, by decide,
    (mem_glob_beginning (b := "b") settled_oddlyNamed pathExists_oddlyNamed (by decide) (by decide)
      (by decide) (by decide) (by decide)).1⟩

/-- A backslash at the end of a beginning takes the star for itself, and so the name is not
found. -/
theorem not_forall_mem_glob_beginning :
    ¬∀ (tree : FileTree) (directory name a b : String), Settled tree →
      tree.pathExists (directory ++ "/" ++ name) = true → hasWildcard directory = false →
        hasWildcard name = false → '/' ∉ name.toList → name ≠ "" → isHiddenName name = false →
          name = a ++ b →
            directory ++ "/" ++ name ∈ tree.glob (directory ++ "/" ++ (a ++ "*")) := by
  intro all
  have found := all oddlyNamed "d" "a\\\x7bb" "a\\" "\x7bb" settled_oddlyNamed
    pathExists_oddlyNamed (by decide) (by decide) (by decide) (by decide) (by decide) (by decide)
  have none_ : oddlyNamed.glob ("d" ++ "/" ++ ("a\\" ++ "*")) = [] := by cbv
  rw [none_] at found
  cases found

end FileTree

end VerifierTrials
