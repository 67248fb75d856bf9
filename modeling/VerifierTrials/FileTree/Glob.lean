import VerifierTrials.FileTree.Basic
import VerifierTrials.Path.Wildcard

/-!
# Path names with wildcards

A pattern is a path name whose components may be wildcards. A pattern without
wildcards stands for itself if it leads anywhere. Otherwise the part before its
last slash stands for directories (`globFrom`, by recursion on the components from
the last one back): a wildcard takes those names of each directory that match it,
and a plain component is kept where the joined path leads anywhere.
-/

namespace VerifierTrials.FileTree

open VerifierTrials.Text

variable (tree : FileTree)

/-- Whether a text has one of the characters that make a wildcard. -/
def hasWildcard (s : String) : Bool := s.toList.any fun c => c = '*' || c = '?' || c = '['

/-- A name that listings hide. -/
def isHiddenName (name : String) : Bool := name.toList.head? = some '.'

/-- The names in a directory that a wildcard component takes: hidden ones only when
it begins with a dot itself. -/
def matchingNames (directory component : String) : List String :=
  match Wildcard.read? component with
  | none => []
  | some wildcard =>
    (tree.list (if directory = "" then "." else directory)).filter fun name =>
      (isHiddenName component || !isHiddenName name) && Wildcard.matchesName wildcard name

/-- What one more component makes of a directory. -/
def step (component directory : String) : List String :=
  if hasWildcard component then
    (tree.matchingNames directory component).map (Path.join directory)
  else
    let candidate := Path.join directory component
    if tree.pathExists candidate then [candidate] else []

/-- The directory that components name, given last first: the root's slash stands
alone. -/
def directoryText : List String → String
  | [""] => "/"
  | components => Text.join "/" components.reverse

/-- **The paths that the components of a pattern stand for**, the components given
last first. The part before the first wildcard is taken as it is written. -/
def globFrom : List String → List String
  | [] => []
  | component :: before =>
    let directory := directoryText before
    let directories :=
      if before.isEmpty then [""]
      else if hasWildcard directory then globFrom before
      else [directory]
    directories.flatMap (tree.step component)

/-- **The paths that a pattern stands for.** -/
def glob (pattern : String) : List String :=
  if hasWildcard pattern then
    tree.globFrom (Path.components pattern).reverse
  else if tree.pathExists pattern then
    [pattern]
  else
    []

end VerifierTrials.FileTree
