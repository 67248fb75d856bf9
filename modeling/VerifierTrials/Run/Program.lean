import VerifierTrials.Error
import VerifierTrials.Path.Expand

/-!
# Programs

What a file is when it is started. A file that may be executed holds a program of its own
(`Image.native`), or a script that names its interpreter on the first line
(`Image.script`); anything else is no program, though a starter may take it for a script
of the shell. A name without a slash is searched for on the search path.
-/

namespace VerifierTrials

open VerifierTrials.Text

/-- What the bytes of a file make it. -/
inductive Image where
  /-- A program that is known by its name. -/
  | native (name : String)
  /-- A script for an interpreter, with an argument for it. -/
  | script (interpreter : String) (argument : Option String)
  | unknown
  deriving DecidableEq, Repr

namespace Image

/-- What the file of a native program begins with. -/
def nativeMark : Bytes := [0x7F, 0x45, 0x4C, 0x46]

/-- The file of a native program. -/
def nativeFile (name : String) : Bytes := nativeMark ++ Utf8.encode name

/-- The interpreter on the first line of a script, and an argument for it. -/
def interpreterOf (line : List Char) : Image :=
  let isGap := fun c => c = ' ' || c = '\t'
  let line := ((line.dropWhile isGap).reverse.dropWhile isGap).reverse
  let program := line.takeWhile fun c => !isGap c
  let argument := (line.drop program.length).dropWhile isGap
  if program.isEmpty then .unknown
  else .script (String.ofList program)
    (if argument.isEmpty then none else some (String.ofList argument))

/-- **What the bytes of a file make it.** -/
def ofBytes (content : Bytes) : Image :=
  if nativeMark.isPrefixOf content then
    .native (Utf8.decodeLossy (content.drop nativeMark.length))
  else
    match content with
    | 35 :: 33 :: rest =>
      interpreterOf (Utf8.decodeLossy (rest.takeWhile (· != 10))).toList
    | _ => .unknown

/-- What a path leads to, if it may be executed. -/
def load (tree : FileTree) (path : String) : Except FileError Image := do
  match ← tree.find true path with
  | .file mode content =>
    if mode &&& 0o111 = 0 then .error .permissionDenied else .ok (ofBytes content)
  | .directory => .error .permissionDenied
  | .link _ => .error .tooManyLinks

end Image

/-- **A program about to start**: a native one, the name that it is called by, and its
arguments. -/
structure Start where
  program : String
  calledAs : String
  arguments : List String
  deriving DecidableEq, Repr

namespace Start

/-- How many interpreters of interpreters are followed. -/
def interpreterBound : Nat := 4

/-- The start of the file at a path: a script is handed to its interpreter. -/
def ofFile (tree : FileTree) : Nat → String → String → List String → Except FileError Start
  | bound, path, calledAs, arguments => do
    match ← Image.load tree path with
    | .native program => .ok ⟨program, calledAs, arguments⟩
    | .script interpreter argument =>
      match bound with
      | 0 => .error .tooManyLinks
      | bound + 1 =>
        ofFile tree bound interpreter interpreter (argument.toList ++ path :: arguments)
    | .unknown => .error .notExecutable

/-- The program of the shell. -/
def shellPath : String := "/bin/sh"

/-- The start of a file, one that is no program being handed to the shell on demand. -/
def ofPath (tree : FileTree) (asScript : Bool) (path calledAs : String)
    (arguments : List String) : Except FileError Start :=
  match ofFile tree interpreterBound path calledAs arguments with
  | .error .notExecutable =>
    if asScript then ofFile tree interpreterBound shellPath shellPath (path :: arguments)
    else .error .notExecutable
  | found => found

/-- Failures that do not end a search. -/
def isPassedOver (cause : FileError) : Bool :=
  cause = .notFound || cause = .notDirectory || cause = .permissionDenied

/-- The start of the first program on a list of directories. A program that may not be
executed is remembered as the cause of a failure. -/
def search (tree : FileTree) (asScript denied : Bool) (name : String) (arguments : List String) :
    List String → Except FileError Start
  | [] => .error (if denied then .permissionDenied else .notFound)
  | directory :: further =>
    match ofPath tree asScript (Path.join directory name) name arguments with
    | .error cause =>
      if isPassedOver cause then
        search tree asScript (denied || cause = .permissionDenied) name arguments further
      else .error cause
    | found => found

/-- The search path where none is set. -/
def standardDirectories : List String := ["/bin", "/usr/bin"]

/-- **The start of a command**: a name with a slash is a path, and any other one is
searched for. -/
def ofCommand (tree : FileTree) (env : Environment) (asScript : Bool) (name : String)
    (arguments : List String) : Except FileError Start :=
  if name = "" then .error .notFound
  else if name.toList.contains '/' then ofPath tree asScript name name arguments
  else
    let directories := match env.get? "PATH" with
      | some path => pieces ':' path
      | none => standardDirectories
    search tree asScript false name arguments directories

end Start

end VerifierTrials
