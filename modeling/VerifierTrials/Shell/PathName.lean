import VerifierTrials.FileTree.Basic
import VerifierTrials.Shell.Word

/-!
# Words that stand for path names

A field with wildcards stands for the paths that match it, component by component, in
ascending order; if there are none, it stands for itself. Names that begin with a dot are
matched only by a pattern that does so too.
-/

namespace VerifierTrials.Shell

open VerifierTrials.Text

/-- The paths that match components of patterns, from given directories on. -/
def matchingPaths (files : FileTree) : List (List Glyph) → List String → List String
  | [], found => found
  | component :: further, found =>
    let pattern := Pattern.ofGlyphs component
    let next := if pattern.isWild then
        found.flatMap fun directory =>
          ((files.list (if directory = "" then "." else directory)).filter fun name =>
            (!startsWith "." name || component.head? = some (.plain '.')) &&
              pattern.accepts name.toList).map (Path.join directory)
      else
        (found.map fun directory =>
          let name := textOf component
          if directory = "" && name = "" then "/" else Path.join directory name).filter
            fun path => path = "" || path = "/" || files.pathExists path
    matchingPaths files further next

/-- The components of a field. -/
def componentsOf : List Glyph → List (List Glyph)
  | [] => [[]]
  | glyph :: rest =>
    match glyph.char?, componentsOf rest with
    | some '/', components => [] :: components
    | _, component :: components => (glyph :: component) :: components
    | _, [] => [[glyph]]

/-- **A field as words**: the paths that it matches, or the field itself. -/
def pathNames (files : FileTree) (field : List Glyph) : List String :=
  if (Pattern.ofGlyphs field).isWild then
    match matchingPaths files (componentsOf field) [""] with
    | [] => [textOf field]
    | found => found.mergeSort fun a b => decide (a ≤ b)
  else [textOf field]

end VerifierTrials.Shell
