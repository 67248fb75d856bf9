import VerifierTrials.FileTree.Basic
import VerifierTrials.Verifier.Basic
import VerifierTrials.Text.Quoted

/-!
# Preparing a run

Each tool wants some options of its own on every command line; they are added unless the
definition has given them already (`fullOptions`). The source file comes last. One tool
searches for a single label in its source, so that it gets a **scratch file** instead:
the source with its error labels rewritten (`markErrors`), beside the source, to be
removed when the run is over (`release`).

The middle of the name of a scratch file is made up anew for each of them, and this is not
done here: whoever prepares a run brings the names along (`NewNames`).
-/

namespace VerifierTrials

/-- **A command line that is ready to be run.** -/
structure Invocation where
  /-- The program and its arguments. -/
  arguments : List String
  /-- The options, those of the tool's own included. -/
  options : List String
  /-- The scratch file that has to be there during the run. -/
  scratch? : Option String := none
  deriving DecidableEq, Repr

/-- Why a source cannot be made ready: the cause, and the scratch file that could not be
made, if it came that far. -/
structure PreparationError where
  cause : FileError
  scratch? : Option String := none
  deriving DecidableEq, Repr

/-- The text of a failure. -/
def PreparationError.message (e : PreparationError) : String :=
  match e.scratch? with
  | some path => e.cause.message ++ " at path " ++ Text.quoted path
  | none => e.cause.message

/-! ### New files -/

namespace FileTree

/-- Permission bits of a scratch file. -/
def scratchMode : Nat := 0o600

/-- An empty file at a path where nothing is yet. -/
def create (tree : FileTree) (path : String) : Except FileError FileTree := do
  let place ← tree.locate false path
  match tree.entry? place with
  | some _ => .error .alreadyExists
  | none => .ok (tree.put place (.file scratchMode []))

/-- **A new file with a text in it**, as far as the device takes it. It goes again when the
text cannot be written as a whole. -/
def createWith (tree : FileTree) (fault? : Option WriteFault) (path : String) (content : Bytes) :
    Except FileError Unit × FileTree :=
  match WriteFault.taken fault? content with
  | .error cause => (.error cause, tree)
  | .ok (taken, cut?) =>
    match tree.create path with
    | .error cause => (.error cause, tree)
    | .ok made =>
      match made.write path taken, cut? with
      | .error cause, _ => (.error cause, (made.remove path).toOption.getD made)
      | .ok written, some cause => (.error cause, (written.remove path).toOption.getD written)
      | .ok written, none => (.ok (), written)

/-- The working directory as a path. -/
def workingPath (tree : FileTree) : String := "/" ++ Text.join "/" tree.workingDirectory

end FileTree

namespace Verifier

/-! ### Options -/

/-- The options that a tool wants on every command line. -/
def ownOptions : Verifier → List String
  | cbmc => ["--xml-ui"]
  | cpachecker => ["-stats"]
  | acsar => ["--mainproc", "main"]
  | satabs | wolverine | blast => []

/-- Options with further words at their end, unless the first of these is among them. -/
def withWords (options extra : List String) : List String :=
  match extra with
  | [] => options
  | first :: _ => if options.contains first then options else options ++ extra

/-- **Options with those of the tool's own.** -/
def fullOptions (tool : Verifier) (options : List String) : List String :=
  withWords options tool.ownOptions

/-! ### Scratch files -/

/-- **A source with its error labels rewritten** to the one label that is searched for. -/
def markErrors (source : String) : String :=
  Text.replace "errorFn();" "goto ERROR_LOCATION; ERROR_LOCATION:;"
    (Text.replace "ERROR:" "ERROR_LOCATION:" (Text.replace "ERROR;" "ERROR_LOCATION;" source))

/-- The directory for the scratch files of a source: its own, named from the root. -/
def scratchDirectory (tree : FileTree) (source : String) : String :=
  Path.join tree.workingPath
    (match Path.parent? source with
      | some directory => if directory = "" then "." else directory
      | none => ".")

/-- The name for a scratch file of a source: that of the source with something made up behind
it. -/
def scratchName (source middle : String) : String :=
  (Path.fileName? source).getD "" ++ "." ++ middle ++ "_acsar.c"

/-- The path for a scratch file of a source. -/
def scratchPath (tree : FileTree) (source middle : String) : String :=
  Path.join (scratchDirectory tree source) (scratchName source middle)

/-- **Where new names come from**: given the path that each middle of a name would lead to, one
of them, or why there can be no such file. This may be done by chance, or with a look at the
files, and it may be given up. -/
abbrev NewNames (σ : Type) : Type :=
  (String → String) → FileTree → σ → Except PreparationError String × σ

/-- **The scratch file of a source**: its path, or why there is none. -/
def makeScratch {σ : Type} (fresh : NewNames σ) (fault? : Option WriteFault) (source : String)
    (tree : FileTree) (state : σ) : Except PreparationError String × FileTree × σ :=
  match tree.readText source with
  | .error cause => (.error ⟨cause, none⟩, tree, state)
  | .ok text =>
    match fresh (scratchPath tree source) tree state with
    | (.error failure, state) => (.error failure, tree, state)
    | (.ok middle, state) =>
      let path := scratchPath tree source middle
      match tree.createWith fault? path (Utf8.encode (markErrors text)) with
      | (.error cause, left) => (.error ⟨cause, some path⟩, left, state)
      | (.ok (), made) => (.ok path, made, state)

/-! ### Command lines -/

/-- **A run made ready**: the command line for a source, and the files with the scratch
file on them. The device under the files may fail to take its text. -/
def prepare {σ : Type} (tool : Verifier) (fresh : NewNames σ) (fault? : Option WriteFault)
    (executable : String) (options : List String) (source : String) (tree : FileTree) (state : σ) :
    Except PreparationError Invocation × FileTree × σ :=
  let full := tool.fullOptions options
  match tool with
  | acsar =>
    match makeScratch fresh fault? source tree state with
    | (.ok path, made, state) =>
      (.ok ⟨executable :: "--file" :: path :: full, full, some path⟩, made, state)
    | (.error failure, left, state) => (.error failure, left, state)
  | _ => (.ok ⟨executable :: full ++ [source], full, none⟩, tree, state)

end Verifier

/-- **The files once a run is over**: its scratch file is gone. -/
def Invocation.release (invocation : Invocation) (tree : FileTree) : FileTree :=
  match invocation.scratch? with
  | some path => (tree.remove path).toOption.getD tree
  | none => tree

end VerifierTrials
