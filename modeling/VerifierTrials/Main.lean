import Std.Time.Format
import VerifierTrials.CommandLine

/-!
# The program

The outer layer: it takes in the files below the working directory, the environment and the
clock, hands them to `CommandLine.run`, and puts down what came of it. Nothing is decided
here but which of the files are scripts.
-/

namespace VerifierTrials.Program

open VerifierTrials.Text

/-- Permission bits of a file: a script may be executed. -/
def modeOf (content : Bytes) : Nat := if content.take 2 = [35, 33] then 0o755 else 0o644

/-- The variables that are taken over from the surroundings. -/
def variableNames : List String := ["PATH", "HOME", "TZ"]

/-- The environment. -/
def environment : IO Environment := do
  let mut env : Environment := ⟨[]⟩
  for name in variableNames do
    match ← IO.getEnv name with
    | some value => env := env.set name value
    | none => pure ()
  return env

/-- The present moment. -/
def moment : IO Moment := do
  let now ← Std.Time.PlainDateTime.now
  return ⟨now.date.year.toInt.toNat, now.date.month.val.toNat, now.date.day.val.toNat,
    now.time.hour.val.toNat, now.time.minute.val.toNat, now.time.second.val.toNat⟩

/-- What the clock shows that deadlines are taken from. -/
def clock : IO Instant := do
  let nanoseconds ← IO.monoNanosNow
  let gone : Span := ⟨nanoseconds / 1000000000, nanoseconds % 1000000000⟩
  return (Instant.origin.after? gone).getD Instant.origin

/-- The files below a directory, put into a tree. -/
partial def gather (directory : String) (tree : FileTree) : IO FileTree := do
  let mut tree := tree
  for entry in ← ((← IO.currentDir) / directory).readDir do
    let path := Path.join directory entry.fileName
    match tree.locate true path with
    | .error _ => pure ()
    | .ok place =>
      if ← entry.path.isDir then
        tree ← gather path (tree.put place .directory)
      else
        let content := (← IO.FS.readBinFile entry.path).toList
        tree := tree.put place (.file (modeOf content) content)
  return tree

/-- The files below the working directory. -/
def files : IO FileTree := do
  let place := (Path.components (← IO.currentDir).toString).filter (· != "")
  let bare : FileTree := { entries := [], workingDirectory := place }
  let outer := (List.range place.length).foldl
    (fun tree n => tree.put (place.take (n + 1)) .directory) (Host.equipped bare)
  gather "" outer

/-- The changes of the files put down. -/
def putDown (before after : FileTree) : IO Unit := do
  for (place, entry) in after.entries do
    let path := "/" ++ Text.join "/" place
    match entry with
    | .directory => unless before.entry? place = some entry do IO.FS.createDirAll path
    | .file _ content =>
      unless before.entry? place = some entry do
        IO.FS.writeBinFile path ⟨content.toArray⟩
    | .link _ => pure ()

/-- The text of a file that need not be there. -/
def textOf? (path : String) : IO (Option String) := do
  try
    return some (← IO.FS.readFile path)
  catch _ =>
    return none

/-- The name of the system. -/
def system : IO String := do
  let name := trimmed ((← textOf? "/proc/sys/kernel/ostype").getD Machine.unknown)
  let release := trimmed ((← textOf? "/proc/sys/kernel/osrelease").getD "")
  let architecture := trimmed ((← textOf? "/proc/sys/kernel/arch").getD "")
  return " ".intercalate ([name, release, architecture].filter (· != ""))

/-- What reports say of this machine. -/
def machine : IO Machine := do
  return Machine.ofTexts (← system) ((← textOf? "/proc/cpuinfo").getD "")
    ((← textOf? "/proc/meminfo").getD "")
    (← textOf? "/sys/devices/system/cpu/cpu0/cpufreq/cpuinfo_max_freq")

end VerifierTrials.Program

open VerifierTrials in
/-- **The program**: runs the benchmarks that its arguments name. -/
def main (arguments : List String) : IO UInt32 := do
  let tree ← Program.files
  let desk : Desk := { tree, now := ← Program.moment }
  let (code, desk) := CommandLine.run (← Program.environment) (← Program.clock)
    (← Program.machine) desk arguments
  Program.putDown tree desk.tree
  IO.print desk.shown
  for warning in desk.warnings do
    IO.eprintln warning.message
  return UInt32.ofNat code.number
