import VerifierTrials.Text.Basic

/-!
# Path names

A path name is a text with slashes; what it **denotes** from a directory is a
list of names (`resolve`): an absolute path starts at the root, a dot or an empty
component stays, two dots go up. `normalize` writes the shortest path name with
the same meaning, and `join` reads a path name relative to a base directory.
The remaining operations take a path name apart: its last name (`fileName?`), the
directory around it (`parent?`), and the two halves of a name with an extension.
-/

namespace VerifierTrials.Path

open VerifierTrials.Text

/-- The components of a path name: the pieces between slashes, empty ones
included. -/
def components (path : String) : List String := pieces '/' path

/-- A path name that does not depend on the working directory. -/
def isAbsolute (path : String) : Bool := path.toList.head? = some '/'

/-! ### Meaning -/

/-- One step from a directory. -/
def enter (directory : List String) (component : String) : List String :=
  if component = "" || component = "." then directory
  else if component = ".." then directory.dropLast
  else directory ++ [component]

/-- **What a path name denotes from a directory**, both as lists of names from the
root. -/
def resolve (directory : List String) (path : String) : List String :=
  (components path).foldl enter (if isAbsolute path then [] else directory)

/-! ### Normal form -/

/-- One component put on the stack of names kept so far, last first. Two dots take
the last name off; where there is none to take, a relative path keeps them and an
absolute one is at the root already. -/
def push (absolute : Bool) (kept : List String) (component : String) : List String :=
  if component = "" || component = "." then kept
  else if component = ".." then
    match kept with
    | last :: rest => if last = ".." then (if absolute then kept else ".." :: kept) else rest
    | [] => if absolute then [] else [".."]
  else component :: kept

/-- **The shortest path name of the same meaning**: no empty component, no dot, and
two dots only at the front of a relative path. -/
def normalize (path : String) : String :=
  let absolute := isAbsolute path
  let names := ((components path).foldl (push absolute) []).reverse
  let joined := Text.join "/" names
  if absolute then "/" ++ joined
  else if joined = "" then "."
  else joined

/-- **A path name read from a base directory**: an absolute one stands for itself,
and so does every one when there is no base. -/
def join (base path : String) : String :=
  if base = "" || isAbsolute path then path
  else if base.toList.getLast? = some '/' then base ++ path
  else base ++ "/" ++ path

/-! ### Taking a path name apart -/

/-- The text before the last slash and the text after it. The slash of the root
belongs to the directory. -/
def splitLast (path : String) : String × String :=
  match (components path).reverse with
  | [] => ("", path)
  | name :: rest =>
    match rest with
    | [] => ("", name)
    | [""] => ("/", name)
    | _ => (Text.join "/" rest.reverse, name)

/-- The components that mean something: empty ones and dots are left out, but for a
dot at the very front. -/
def essential (path : String) : List String :=
  match components path with
  | [] => []
  | first :: rest =>
    (if first = "" then [] else [first]) ++ rest.filter fun c => c != "" && c != "."

/-- The last name of a path, if it ends in one. -/
def fileName? (path : String) : Option String :=
  match (essential path).getLast? with
  | some name => if name = ".." || name = "." then none else some name
  | none => none

/-- Components read from the end, without the empty ones and the dots there; the
first component of the path stays. -/
def dropIdle : List String → List String
  | [] => []
  | [first] => [first]
  | c :: rest => if c = "" || c = "." then dropIdle rest else c :: rest

/-- **The directory around a path**, if the path has a last component. It is cut
out of the path as it is written. -/
def parent? (path : String) : Option String :=
  match dropIdle (components path).reverse with
  | [] => none
  | [first] => if first = "" then none else some ""
  | _ :: rest =>
    match dropIdle rest with
    | [""] => some "/"
    | kept => some (Text.join "/" kept.reverse)

/-- A file name cut at its last dot, unless that dot stands at the front. -/
def splitExtension (name : String) : String × Option String :=
  match (pieces '.' name).reverse with
  | extension :: rest =>
    let stem := Text.join "." rest.reverse
    if name = ".." || rest.isEmpty || stem = "" then (name, none) else (stem, some extension)
  | [] => (name, none)

/-- The last name of a path without its extension. -/
def stem? (path : String) : Option String := (fileName? path).map fun n => (splitExtension n).1

/-- The extension of the last name of a path. -/
def extension? (path : String) : Option String :=
  (fileName? path).bind fun n => (splitExtension n).2

end VerifierTrials.Path
