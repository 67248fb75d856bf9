import VerifierTrials.Definition.Basic
import VerifierTrials.FileTree.Glob
import VerifierTrials.Path.Expand
import VerifierTrials.Warning

/-!
# From file sets to work items

A pattern stands for the files that match it, in ascending order (`filesFor`). A
pattern out of a list file is meant relative to that file; when it matches nothing
there, it is tried once more from the working directory. A file set is then its
included files, in the order of its patterns, followed by those of its list files,
without those that its excluded patterns match; repetitions stay.
-/

namespace VerifierTrials

open VerifierTrials.Text

/-- A value together with the warnings that came up on the way to it. -/
abbrev Warned (α : Type) := α × List Warning

/-- Values collected from a list, with all warnings in order. -/
def Warned.collect {α β : Type} (f : α → Warned (List β)) (xs : List α) : Warned (List β) :=
  (xs.flatMap fun x => (f x).1, xs.flatMap fun x => (f x).2)

namespace FileSet

variable (tree : FileTree) (env : Environment)

/-- The text of a pattern as it is matched, before its variables are expanded. -/
def shortForm (base pattern : String) : String := Path.normalize (Path.join base pattern)

/-- The paths that match a pattern read from a base directory, in ascending order. -/
def matching (base pattern : String) : List String :=
  (tree.glob (Path.expand env (shortForm base pattern))).mergeSort fun a b => decide (a ≤ b)

/-- **The files for a pattern** read from the working directory. -/
def filesFor (pattern : String) : Warned (List String) :=
  match matching tree env "" pattern with
  | [] => ([], [.nothingMatches (shortForm "" pattern)])
  | files => (files, [])

/-- **The files for a pattern of a list file**, read from a base directory, or else
from the working directory. Without a base there is nothing else to try. -/
def filesBeside (base pattern : String) : Warned (List String) :=
  if base = "" then
    filesFor tree env pattern
  else
    match matching tree env base pattern with
    | [] =>
      let (files, warnings) := filesFor tree env pattern
      (files, .triedBesideList pattern :: warnings ++
        if files.isEmpty then [] else [.foundWithoutList pattern])
    | files => (files, [])

/-- A line of a list file that names no pattern. -/
def isRemark (line : String) : Bool :=
  line = "" || startsWith "#" line || startsWith "//" line

/-- The patterns in the text of a list file. -/
def patternsOf (text : String) : List String :=
  ((linesOf text).map trimmed).filter fun line => !isRemark line

/-- **The files that a list file stands for**, its patterns being read from its own
directory. -/
def filesOfList (listFile : String) : Warned (List String) :=
  match tree.readText listFile with
  | .error _ => ([], [.unreadableList listFile])
  | .ok text =>
    Warned.collect (filesBeside tree env (Path.splitLast listFile).1) (patternsOf text)

/-- The files of all list files that a pattern matches. -/
def filesOfLists (pattern : String) : Warned (List String) :=
  let (listFiles, warnings) := filesFor tree env pattern
  let (files, further) := Warned.collect (filesOfList tree env) listFiles
  (files, warnings ++ further)

/-- **The files of a file set.** -/
def files (set : FileSet) : Warned (List String) :=
  let (included, warnings₁) := Warned.collect (filesFor tree env) set.included
  let (listed, warnings₂) := Warned.collect (filesOfLists tree env) set.lists
  let (excluded, warnings₃) := Warned.collect (filesFor tree env) set.excluded
  ((included ++ listed).filter fun file => !excluded.contains file,
    warnings₁ ++ warnings₂ ++ warnings₃)

/-- The work items of a file set. -/
def items (set : FileSet) : Warned (List WorkItem) :=
  let (files, warnings) := set.files tree env
  (files.map fun file => ⟨file, set.options⟩, warnings)

/-- **The work items of file sets**, one set after the other. -/
def resolve (sets : List FileSet) : Warned (List WorkItem) :=
  Warned.collect (items tree env) sets

end FileSet

end VerifierTrials
