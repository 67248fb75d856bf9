import VerifierTrials.Error
import VerifierTrials.FileTree.Basic
import VerifierTrials.Path.Expand
import VerifierTrials.Verifier.Basic

/-!
# Finding the program of a tool

The program of a tool is searched for in the directories of the search path, then in the
working directory, and last where the tool's own distribution keeps it. It has to be a
file that somebody may execute.
-/

namespace VerifierTrials

/-- Whether a path leads to a file that somebody may execute. -/
def FileTree.isExecutable (tree : FileTree) (path : String) : Bool :=
  match tree.find true path with
  | .ok (.file mode _) => mode &&& 0o111 != 0
  | _ => false

/-- The directories of the search path. An empty one is the working directory. -/
def Environment.searchPath (env : Environment) : List String :=
  Text.pieces ':' ((env.get? "PATH").getD "")

/-- The paths at which a program is searched for. -/
def programPaths (env : Environment) (program : String) (fallback? : Option String) :
    List String :=
  (env.searchPath ++ ["."]).map (fun directory => Path.join directory program) ++
    fallback?.toList

/-- **The path of a program**, the first one that can be executed. -/
def findProgram (tree : FileTree) (env : Environment) (program : String)
    (fallback? : Option String) : Except BenchmarkError String :=
  match (programPaths env program fallback?).find? tree.isExecutable with
  | some path => .ok path
  | none => .error (.toolNotFound program)

/-- The path of the program of a tool. -/
def Verifier.findExecutable (tool : Verifier) (tree : FileTree) (env : Environment) :
    Except BenchmarkError String :=
  findProgram tree env tool.program tool.fallback?

end VerifierTrials
