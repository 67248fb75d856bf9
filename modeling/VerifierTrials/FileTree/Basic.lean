import VerifierTrials.Path.Basic
import VerifierTrials.Text.Utf8

/-!
# A tree of files

The files that a benchmark reads and writes, as a value: **entries** under lists of
names from the root, each a file with its permission bits and bytes, a directory, or
a symbolic link. The root is always a directory.

A path name leads to a **place** (`locate`): links on the way are followed, and the
last one only on demand. Reading and writing are stated on places, and each
operation fails for a cause (`FileError`) and leaves the tree as it was.
-/

namespace VerifierTrials

open VerifierTrials.Text

/-- Why an operation on files fails. -/
inductive FileError where
  | notFound
  | notDirectory
  | isDirectory
  | alreadyExists
  | permissionDenied
  | tooManyLinks
  | nameTooLong
  | notExecutable
  | noSpace
  | nullInName
  | invalidText
  /-- Any other cause, in the words of the system. -/
  | other (text : String)
  deriving DecidableEq, Repr

namespace FileError

/-- The text of a failure as the operating system words it. -/
def message : FileError → String
  | notFound => "No such file or directory (os error 2)"
  | notDirectory => "Not a directory (os error 20)"
  | isDirectory => "Is a directory (os error 21)"
  | alreadyExists => "File exists (os error 17)"
  | permissionDenied => "Permission denied (os error 13)"
  | tooManyLinks => "Too many levels of symbolic links (os error 40)"
  | nameTooLong => "File name too long (os error 36)"
  | notExecutable => "Exec format error (os error 8)"
  | noSpace => "No space left on device (os error 28)"
  | nullInName => "file name contained an unexpected NUL byte"
  | invalidText => "stream did not contain valid UTF-8"
  | other text => text

end FileError

/-- **How the device under the files fails a write**: before the file is open, so that nothing
happens to it, or behind the first bytes, which stay in the file. -/
inductive WriteFault where
  | unopened (cause : FileError)
  | cut (taken : Nat) (cause : FileError)
  deriving DecidableEq, Repr

/-- **What a device takes of a write**, and why it takes no more, once the file is open. -/
def WriteFault.taken (fault? : Option WriteFault) (content : Bytes) :
    Except FileError (Bytes × Option FileError) :=
  match fault? with
  | none => .ok (content, none)
  | some (.unopened cause) => .error cause
  | some (.cut taken cause) =>
    if taken < content.length then .ok (content.take taken, some cause) else .ok (content, none)

/-- What a name in a directory stands for. -/
inductive Entry where
  /-- A file with its permission bits. -/
  | file (mode : Nat) (content : Bytes)
  | directory
  /-- A symbolic link to another path name. -/
  | link (target : String)
  deriving DecidableEq, Repr

/-- **A tree of files**, seen from a working directory. -/
structure FileTree where
  entries : List (List String × Entry)
  workingDirectory : List String := []
  deriving Repr

namespace FileTree

variable (tree : FileTree)

/-- The entry at a place. -/
def entry? (place : List String) : Option Entry :=
  if place = [] then some .directory else tree.entries.lookup place

/-- The tree with an entry put at a place, instead of the one there before. -/
def put (place : List String) (entry : Entry) : FileTree :=
  if (tree.entries.lookup place).isSome then
    { tree with entries := tree.entries.map fun e => if e.1 = place then (place, entry) else e }
  else
    { tree with entries := tree.entries ++ [(place, entry)] }

/-- The tree without the entry at a place. -/
def drop (place : List String) : FileTree :=
  { tree with entries := tree.entries.filter fun e => e.1 != place }

/-- The names in the directory at a place, in the order in which they came there. -/
def namesIn (place : List String) : List String :=
  tree.entries.filterMap fun e =>
    match e.1.getLast? with
    | some name => if e.1.dropLast = place then some name else none
    | none => none

/-! ### From path names to places -/

/-- How many symbolic links one path name may lead through. -/
def linkBound : Nat := 40

/-- The longest name in a directory, in bytes. -/
def nameBound : Nat := 255

/-- Following components from a directory, with a bound on the links still to be
taken. The last component need not exist, and if it is a link it is taken only on
demand. -/
def follow (takeLast : Bool) (links : Nat) (here : List String) :
    List String → Except FileError (List String)
  | [] => .ok here
  | c :: rest =>
    if c = "" || c = "." then follow takeLast links here rest
    else if c = ".." then follow takeLast links here.dropLast rest
    else if nameBound < c.utf8ByteSize then .error .nameTooLong
    else
      match tree.entry? (here ++ [c]) with
      | none => if rest.isEmpty then .ok (here ++ [c]) else .error .notFound
      | some .directory => follow takeLast links (here ++ [c]) rest
      | some (.file _ _) => if rest.isEmpty then .ok (here ++ [c]) else .error .notDirectory
      | some (.link target) =>
        if rest.isEmpty && !takeLast then .ok (here ++ [c])
        else
          match links with
          | 0 => .error .tooManyLinks
          | links + 1 =>
            follow takeLast links (if Path.isAbsolute target then [] else here)
              (Path.components target ++ rest)
  termination_by rest => (links, rest.length)

/-- **The place that a path name leads to**, which need not hold an entry. -/
def locate (takeLast : Bool) (path : String) : Except FileError (List String) :=
  if path.toList.contains '\x00' then .error .nullInName
  else if path = "" then .error .notFound
  else tree.follow takeLast linkBound (if Path.isAbsolute path then [] else tree.workingDirectory)
    (Path.components path)

/-- The entry that a path name leads to. -/
def find (takeLast : Bool) (path : String) : Except FileError Entry := do
  let place ← tree.locate takeLast path
  match tree.entry? place with
  | some entry => .ok entry
  | none => .error .notFound

/-- **Whether a path name leads to anything**, a link that leads nowhere included. -/
def pathExists (path : String) : Bool := (tree.find false path).toOption.isSome

/-- Whether a path name leads to a file. -/
def isFile (path : String) : Bool :=
  match tree.find true path with
  | .ok (.file _ _) => true
  | _ => false

/-- Whether a path name leads to a directory. -/
def isDirectory (path : String) : Bool :=
  match tree.find true path with
  | .ok .directory => true
  | _ => false

/-! ### Reading -/

/-- The bytes of a file. -/
def read (path : String) : Except FileError Bytes := do
  match ← tree.find true path with
  | .file _ content => .ok content
  | .directory => .error .isDirectory
  | .link _ => .error .tooManyLinks

/-- The text of a file. -/
def readText (path : String) : Except FileError String := do
  match Utf8.decode? (← tree.read path) with
  | some text => .ok text
  | none => .error .invalidText

/-- The names in a directory, in ascending order; none when there is no such
directory. -/
def list (path : String) : List String :=
  match tree.locate true path with
  | .ok place =>
    if tree.entry? place = some .directory then
      (tree.namesIn place).mergeSort fun a b => decide (a ≤ b)
    else []
  | .error _ => []

/-! ### Writing -/

/-- Permission bits of a file that is written for the first time. -/
def freshMode : Nat := 0o644

/-- The place that a file can be written at, and the file there, if any. -/
def fileAt (path : String) : Except FileError (List String × Option (Nat × Bytes)) := do
  let place ← tree.locate true path
  match tree.entry? place with
  | some (.file mode content) => .ok (place, some (mode, content))
  | some .directory => .error .isDirectory
  | some (.link _) => .error .tooManyLinks
  | none => .ok (place, none)

/-- **Writing a file**, which replaces what it held before. -/
def write (path : String) (content : Bytes) : Except FileError FileTree := do
  match ← tree.fileAt path with
  | (place, some (mode, _)) => .ok (tree.put place (.file mode content))
  | (place, none) => .ok (tree.put place (.file freshMode content))

/-- **Appending to a file**, which comes into being if it is not there. -/
def append (path : String) (content : Bytes) : Except FileError FileTree := do
  match ← tree.fileAt path with
  | (place, some (mode, before)) => .ok (tree.put place (.file mode (before ++ content)))
  | (place, none) => .ok (tree.put place (.file freshMode content))

/-- Removing a file or a link. -/
def remove (path : String) : Except FileError FileTree := do
  let place ← tree.locate false path
  match tree.entry? place with
  | none => .error .notFound
  | some .directory => .error .isDirectory
  | some _ => .ok (tree.drop place)

/-- A path name without slashes at its end, unless it is nothing else. -/
def withoutSlashes (path : String) : String :=
  match path.toList.reverse.dropWhile (· = '/') with
  | [] => path
  | kept => String.ofList kept.reverse

/-- Making one directory in an existing one. -/
def makeDirectory (path : String) : Except FileError FileTree := do
  let place ← tree.locate false (withoutSlashes path)
  match tree.entry? place with
  | some _ => .error .alreadyExists
  | none => .ok (tree.put place .directory)

/-- Making a directory, given the directories around it, the nearest first. -/
def makeWithin (tree : FileTree) (path : String) : List String → Except FileError FileTree
  | [] => if tree.isDirectory path then .ok tree else tree.makeDirectory path
  | outer :: further =>
    match tree.makeDirectory path with
    | .ok made => .ok made
    | .error .notFound => do
      let around ← makeWithin tree outer further
      match around.makeDirectory path with
      | .ok made => .ok made
      | .error e => if around.isDirectory path then .ok around else .error e
    | .error e => if tree.isDirectory path then .ok tree else .error e

/-- The directories around a path, the nearest first, as far as they are named. -/
def around (path : String) : Nat → List String
  | 0 => []
  | n + 1 =>
    match Path.parent? path with
    | some outer => if outer = "" then [] else outer :: around outer n
    | none => []

/-- **Making a directory and those around it**, as far as they are missing. -/
def makeDirectories (path : String) : Except FileError FileTree :=
  if path = "" then .ok tree else makeWithin tree path (around path path.length)

end FileTree

end VerifierTrials
