import Mathlib
import VerifierTrials.Definition.Resolution
import VerifierTrials.Proofs.FileTree.Patterns
import VerifierTrials.Proofs.Text.Encoding

/-!
# Looking up a pattern of a list file

The files for a pattern of a list file are looked for twice at most: beside the list, and if nothing
is there, from the working directory. Both times the pattern is brought into normal form and
expanded before it is matched (`FileSet.sought`). The answer is one of the two lists of paths in
ascending order, and its warnings tell which one (`FileSet.filesBeside_lookup`).

The order is that of the bytes of the paths. It is strict, since no path is found twice.
-/

namespace VerifierTrials.FileSet

open VerifierTrials.Text

variable {tree : FileTree} {env : Environment} {base pattern : String}

/-- The paths that a path name stands for, which is brought into normal form and expanded. -/
def sought (tree : FileTree) (env : Environment) (path : String) : List String :=
  tree.glob (Path.expand env (Path.normalize path))

/-- **The paths for a pattern of a list file**: those beside the list, or else those from the
working directory. Without a base there is nothing else to look for. -/
def found (tree : FileTree) (env : Environment) (base pattern : String) : List String :=
  if sought tree env (Path.join base pattern) ≠ [] then sought tree env (Path.join base pattern)
  else if base ≠ "" then sought tree env pattern
  else []

/-- **What is told about a lookup.** -/
def told (tree : FileTree) (env : Environment) (base pattern : String) : List Warning :=
  if sought tree env (Path.join base pattern) ≠ [] then []
  else if base = "" then [.nothingMatches (Path.normalize pattern)]
  else .triedBesideList pattern ::
    if sought tree env pattern ≠ [] then [.foundWithoutList pattern]
    else [.nothingMatches (Path.normalize pattern)]

/-- Paths in ascending order. -/
def ascending (paths : List String) : List String := paths.mergeSort fun a b => decide (a ≤ b)

theorem ascending_perm (paths : List String) : (ascending paths).Perm paths :=
  List.mergeSort_perm _ _

theorem ascending_eq_nil_iff {paths : List String} : ascending paths = [] ↔ paths = [] := by
  rw [← List.length_eq_zero_iff, (ascending_perm paths).length_eq, List.length_eq_zero_iff]

/-- **Different paths in ascending order have ascending bytes.** -/
theorem ascending_strictly {paths : List String} (once : paths.Nodup) :
    (ascending paths).Pairwise fun a b => Utf8.encode a < Utf8.encode b := by
  have ordered : (ascending paths).Pairwise fun a b => decide (a ≤ b) = true :=
    List.pairwise_mergeSort (fun a b c first second => by
        simp only [decide_eq_true_eq] at first second ⊢
        exact String.le_trans first second)
      (fun a b => by simpa using String.le_total a b) paths
  have different : (ascending paths).Pairwise (· ≠ ·) := (ascending_perm paths).nodup_iff.mpr once
  refine ordered.imp₂ (fun a b before apart => ?_) different
  rw [Utf8.encode_lt_iff]
  refine Decidable.of_not_not fun notBefore => apart ?_
  exact String.le_antisymm (of_decide_eq_true before) notBefore

theorem matching_eq (base pattern : String) :
    matching tree env base pattern = ascending (sought tree env (Path.join base pattern)) := rfl

theorem join_empty (path : String) : Path.join "" path = path := by simp [Path.join]

/-- A pattern read from the working directory. -/
theorem filesFor_eq (pattern : String) : filesFor tree env pattern =
    (ascending (sought tree env pattern),
      if sought tree env pattern ≠ [] then [] else [.nothingMatches (Path.normalize pattern)]) := by
  rw [filesFor, matching_eq, join_empty, shortForm, join_empty]
  split
  next none_ => rw [none_, if_neg (not_not.mpr (ascending_eq_nil_iff.mp none_))]
  next some_ => rw [if_pos fun none_ => some_ (ascending_eq_nil_iff.mpr none_)]

/-- **A lookup answers with what is found, in ascending order, and with what is told about it.** -/
theorem filesBeside_eq (base pattern : String) : filesBeside tree env base pattern =
    (ascending (found tree env base pattern), told tree env base pattern) := by
  rw [filesBeside, found, told]
  by_cases noBase : base = ""
  · subst noBase
    rw [if_pos rfl, filesFor_eq, join_empty]
    by_cases some_ : sought tree env pattern = []
    · simp [some_]
    · simp [some_]
  · rw [if_neg noBase, matching_eq]
    split
    next none_ =>
      have none_ := ascending_eq_nil_iff.mp none_
      rw [if_neg (not_not.mpr none_), if_neg (not_not.mpr none_), if_pos noBase, if_neg noBase,
        filesFor_eq]
      by_cases fallback : sought tree env pattern = []
      · simp [fallback, ascending]
      · simp [fallback, ascending_eq_nil_iff]
    next some_ =>
      have some_ := fun none_ => some_ (ascending_eq_nil_iff.mpr none_)
      rw [if_pos some_, if_pos some_]

theorem nodup_found (ordinary : FileTree.IsOrdinary tree) :
    (found tree env base pattern).Nodup := by
  rw [found]
  split
  next => exact FileTree.nodup_glob ordinary _
  next =>
    split
    next => exact FileTree.nodup_glob ordinary _
    next => exact List.nodup_nil

theorem pathExists_of_mem_found (ordinary : FileTree.IsOrdinary tree) {file : String}
    (among : file ∈ found tree env base pattern) : tree.pathExists file = true := by
  have matched : ∀ {path}, file ∈ sought tree env path → tree.pathExists file = true :=
    fun within => (FileTree.mem_glob_iff.mp within).pathExists ordinary
  rw [found] at among
  split at among
  next => exact matched among
  next =>
    split at among
    next => exact matched among
    next => cases among

/-- **The files for a pattern of a list file** are those beside the list if there are any, or else
those from the working directory, in strictly ascending order of their bytes. Each of them exists,
and the warnings tell where they have been found. -/
theorem filesBeside_lookup (tree : FileTree) (ordinary : FileTree.IsOrdinary tree)
    (env : Environment) (base pattern : String) :
    (filesBeside tree env base pattern).1.Perm (found tree env base pattern) ∧
      (filesBeside tree env base pattern).1.Pairwise (fun a b => Utf8.encode a < Utf8.encode b) ∧
      (∀ file ∈ (filesBeside tree env base pattern).1, tree.pathExists file = true) ∧
      (filesBeside tree env base pattern).2 = told tree env base pattern := by
  simp only [filesBeside_eq, and_true]
  refine ⟨ascending_perm _, ascending_strictly (nodup_found ordinary), fun file among => ?_⟩
  exact pathExists_of_mem_found ordinary ((ascending_perm _).mem_iff.mp among)

/-- A directory with a list in it, and two sources beside the directory. -/
def legacy : FileTree where
  entries :=
    [(["b.c"], .file 0o644 []), (["l"], .directory), (["l", "s"], .file 0o644 []),
      (["a.c"], .file 0o644 [])]

/-- The sources are not beside the list. They are found from the working directory. -/
theorem filesBeside_lookup_legacy :
    FileTree.IsOrdinary legacy ∧
      (filesBeside legacy ⟨[("X", "c")]⟩ "l" "./*.$X").1.Pairwise
        (fun a b => Utf8.encode a < Utf8.encode b) ∧
      filesBeside legacy ⟨[("X", "c")]⟩ "l" "./*.$X" =
        (["a.c", "b.c"], [.triedBesideList "./*.$X", .foundWithoutList "./*.$X"]) := by
  have ordinary : FileTree.IsOrdinary legacy := ⟨by decide, by decide⟩
  have expanded : Path.expand ⟨[("X", "c")]⟩ (Path.normalize (Path.join "l" "./*.$X")) = "l/*.c" ∧
      Path.expand ⟨[("X", "c")]⟩ (Path.normalize "./*.$X") = "*.c" := by decide
  have beside : sought legacy ⟨[("X", "c")]⟩ (Path.join "l" "./*.$X") = [] := by
    rw [sought, expanded.1]
    cbv
  have without : sought legacy ⟨[("X", "c")]⟩ "./*.$X" = ["a.c", "b.c"] := by
    rw [sought, expanded.2]
    cbv
  refine ⟨ordinary, (filesBeside_lookup legacy ordinary _ _ _).2.1, ?_⟩
  rw [filesBeside_eq, found, told, beside, without]
  cbv

end VerifierTrials.FileSet
