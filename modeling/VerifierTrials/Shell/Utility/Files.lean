import VerifierTrials.Shell.Utility.Basic

/-!
# Utilities for files

Utilities that make, copy, move and remove files and directories, list them, or take path
names apart.
-/

namespace VerifierTrials.Shell.Utility

open VerifierTrials.Text

/-- A change of the files for each name, or a complaint. -/
def eachChange (program complaint : String) (paths : List String)
    (step : FileTree → String → Except FileError FileTree) : Action Nat := do
  let mut status := 0
  for path in paths do
    match step (← get).files path with
    | .ok tree => modify (·.change tree)
    | .error cause =>
      complain program (complaint ++ " '" ++ path ++ "': " ++ reason cause)
      status := 1
  return status

/-- A complaint that no file is named. -/
def missingOperand (program : String) : Action Nat := do
  complainOfUse program "missing operand"
  return 1

/-- The files without what a path leads to, and all that is in it. -/
def withoutAll (tree : FileTree) (path : String) : Except FileError FileTree := do
  let place ← tree.locate false path
  match tree.entry? place with
  | none => .error .notFound
  | some _ => .ok { tree with entries := tree.entries.filter fun e => !place.isPrefixOf e.1 }

/-- Files removed, and directories on demand. -/
def rm : Utility := fun words => do
  let (letters, paths) := splitOptions words
  let files := (← get).files
  if paths.isEmpty && !letters.contains 'f' then missingOperand "rm"
  else
    eachChange "rm" "cannot remove"
      (paths.filter fun p => !letters.contains 'f' || files.pathExists p)
      (if letters.contains 'r' || letters.contains 'R' then withoutAll else FileTree.remove)

/-- Directories made. -/
def mkdir : Utility := fun words =>
  let (letters, paths) := splitOptions words
  if paths.isEmpty then missingOperand "mkdir"
  else
    eachChange "mkdir" "cannot create directory" paths
      (if letters.contains 'p' then FileTree.makeDirectories else FileTree.makeDirectory)

/-- Directories without content removed. -/
def rmdir : Utility := fun words => do
  let (_, paths) := splitOptions words
  let mut status := 0
  for path in paths do
    let files := (← get).files
    let refuse := fun text => complain "rmdir" ("failed to remove '" ++ path ++ "': " ++ text)
    match files.find false path with
    | .ok .directory =>
      if (files.list path).isEmpty then
        match withoutAll files path with
        | .ok tree => modify (·.change tree)
        | .error _ => pure ()
      else
        refuse "Directory not empty"
        status := 1
    | .ok _ =>
      refuse "Not a directory"
      status := 1
    | .error cause =>
      refuse (reason cause)
      status := 1
  return status

/-- Empty files where there are none. -/
def touch : Utility := fun words =>
  eachChange "touch" "cannot touch" (splitOptions words).2 fun tree path => tree.append path []

/-- The path at which a file arrives: inside a directory it keeps its name. -/
def arrival (files : FileTree) (source target : String) : String :=
  if files.isDirectory target then
    Path.join target ((Path.fileName? source).getD source)
  else target

/-- Files brought to the last path named, each by a step. -/
def transfer (program : String) (words : List String)
    (step : FileTree → String → String → Action Bool) : Action Nat := do
  match (splitOptions words).2.reverse with
  | [] =>
    complainOfUse program "missing file operand"
    return 1
  | [only] =>
    complainOfUse program ("missing destination file operand after '" ++ only ++ "'")
    return 1
  | target :: sources =>
    let mut status := 0
    for source in sources.reverse do
      let files := (← get).files
      if !files.pathExists source then
        complain program ("cannot stat '" ++ source ++ "': No such file or directory")
        status := 1
      else unless ← step files source (arrival files source target) do status := 1
    return status

/-- Files copied. -/
def cp : Utility := fun words =>
  transfer "cp" words fun files source target => do
    match files.read source with
    | .ok bytes =>
      match files.write target bytes with
      | .ok tree =>
        modify (·.change tree)
        return true
      | .error cause =>
        complain "cp" ("cannot create regular file '" ++ target ++ "': " ++ reason cause)
        return false
    | .error .isDirectory =>
      complain "cp" ("-r not specified; omitting directory '" ++ source ++ "'")
      return false
    | .error cause =>
      complain "cp" ("cannot open '" ++ source ++ "' for reading: " ++ reason cause)
      return false

/-- The files with everything at one place, or below it, at another. -/
def relocated (tree : FileTree) (source target : List String) : FileTree :=
  let rest := tree.entries.filter fun e => !target.isPrefixOf e.1
  { tree with
    entries := rest.map fun e =>
      if source.isPrefixOf e.1 then (target ++ e.1.drop source.length, e.2) else e }

/-- Files moved. -/
def mv : Utility := fun words =>
  transfer "mv" words fun files source target => do
    match files.locate false source, files.locate false target with
    | .ok here, .ok there =>
      modify (·.change (relocated files here there))
      return true
    | .error cause, _ | _, .error cause =>
      complain "mv" ("cannot move '" ++ source ++ "' to '" ++ target ++ "': " ++ reason cause)
      return false

/-- The names in directories, after the files that are named themselves. -/
def ls : Utility := fun words => do
  let (letters, paths) := splitOptions words
  let files := (← get).files
  let names := fun path =>
    (if letters.contains 'a' then [".", ".."] else []) ++
      (files.list path).filter fun n => letters.any (fun c => c = 'a' || c = 'A') ||
        !startsWith "." n
  let print := fun lines : List String => Action.print (String.join (lines.map (· ++ "\n")))
  let paths := if paths.isEmpty then ["."] else paths.mergeSort fun a b => decide (a ≤ b)
  let missing := paths.filter fun p => !files.pathExists p
  for path in missing do
    complain "ls" ("cannot access '" ++ path ++ "': No such file or directory")
  let isShown := fun p => files.isDirectory p && !letters.contains 'd'
  let plain := paths.filter fun p => files.pathExists p && !isShown p
  let directories := paths.filter isShown
  print plain
  for (path, n) in directories.zipIdx do
    if paths.length > 1 then
      print ((if n > 0 || !plain.isEmpty then [""] else []) ++ [path ++ ":"])
    print (names path)
  return if missing.isEmpty then 0 else 2

/-- The last name of a path, without an ending. -/
def basename : Utility
  | [] => missingOperand "basename"
  | path :: rest => do
    let name := (Path.fileName? path).getD path
    let ending := rest.headD ""
    Action.print ((if name != ending && name.endsWith ending then
      String.ofList (name.toList.take (name.length - ending.length)) else name) ++ "\n")
    return 0

/-- The directory around a path. -/
def dirname : Utility
  | [] => missingOperand "dirname"
  | path :: _ => do
    let directory := (Path.parent? path).getD "/"
    Action.print ((if directory = "" then "." else directory) ++ "\n")
    return 0

end VerifierTrials.Shell.Utility
