import VerifierTrials.Definition.Load
import VerifierTrials.Trial.Benchmark

/-!
# The command line

The program takes definition files and a few options, and runs one benchmark after the
other with the same settings. Arguments are read from left to right: the first one that
asks for help or for the version ends the reading, and so does the first one that is wrong.
The first benchmark that ends early ends the program.
-/

namespace VerifierTrials

open VerifierTrials.Text

namespace CommandLine

/-! ### Reading arguments -/

/-- **What the program is asked to do.** -/
structure Request where
  debug : Bool := false
  test : Option String := none
  settingsFile : Option String := none
  definitions : List String := []
  deriving DecidableEq, Repr

/-- An answer other than a benchmark: a text asked for, or a refusal. -/
inductive Reply where
  | shown (text : String)
  | refused
  deriving DecidableEq, Repr

/-- What the program shows of its version. -/
def versionText : String := "verify-bench 0.1.0\n"

/-- What the program shows of its use. -/
def helpText : String :=
  "Run verification tools over benchmark definitions and report their verdicts\n\n" ++
  "Usage: verify-bench [OPTIONS] <FILE>...\n\n" ++
  "Arguments:\n" ++
  "  <FILE>...  Benchmark definition files\n\n" ++
  "Options:\n" ++
  "  -d, --debug            Enable debug output\n" ++
  "  -t, --test <NAME>      Run only the test with the given name\n" ++
  "  -c, --config <CONFIG>  Path to harness configuration file\n" ++
  "  -h, --help             Print help\n" ++
  "  -V, --version          Print version\n"

/-- The options of the program. -/
inductive Key where
  | debug
  | test
  | settingsFile
  | help
  | version
  deriving DecidableEq, Repr

/-- The option of a letter. -/
def Key.ofLetter? : Char → Option Key
  | 'd' => some debug
  | 't' => some test
  | 'c' => some settingsFile
  | 'h' => some help
  | 'V' => some version
  | _ => none

/-- The option of a name. -/
def Key.ofName? : String → Option Key
  | "debug" => some debug
  | "test" => some test
  | "config" => some settingsFile
  | "help" => some help
  | "version" => some version
  | _ => none

/-- Whether an option takes a value. -/
def Key.takesValue : Key → Bool
  | test | settingsFile => true
  | debug | help | version => false

/-- How far the arguments have been read: the request, and the definition files that have
not been looked at yet. -/
structure Progress where
  request : Request := {}
  unchecked : List String := []
  deriving Repr

/-- The definition files looked at: each of them has to be there. -/
def Progress.check (isFile : String → Bool) (progress : Progress) : Except Reply Request :=
  if progress.unchecked.all isFile then
    .ok { progress.request with
      definitions := progress.request.definitions ++ progress.unchecked }
  else .error .refused

/-- An option that takes no value. None may be given twice. -/
def Request.flag (request : Request) : Key → Except Reply Request
  | .debug => if request.debug then .error .refused else .ok { request with debug := true }
  | .help => .error (.shown helpText)
  | .version => .error (.shown versionText)
  | .test | .settingsFile => .error .refused

/-- An option with its value. None may be given twice, and a path is not empty. -/
def Request.option (request : Request) (value : String) : Key → Except Reply Request
  | .test =>
    if request.test.isSome then .error .refused else .ok { request with test := some value }
  | .settingsFile =>
    if request.settingsFile.isSome || value = "" then .error .refused
    else .ok { request with settingsFile := some value }
  | .debug | .help | .version => .error .refused

/-- Whether an argument is no value of an option before it. -/
def isOption (argument : String) : Bool := startsWith "-" argument && argument != "-"

/-- What the letters of an argument ask for: the request with the flags among them, and
the option that still takes its value from the next argument. -/
def letters : Request → List Char → Except Reply (Request × Option Key)
  | request, [] => .ok (request, none)
  | request, c :: cs =>
    match Key.ofLetter? c with
    | none => .error .refused
    | some key =>
      if key.takesValue then
        match cs with
        | [] => .ok (request, some key)
        | '=' :: value => do return (← request.option (String.ofList value) key, none)
        | value => do return (← request.option (String.ofList value) key, none)
      else do
        letters (← request.flag key) cs

/-- What a long option asks for: the request with it, or the option that still takes its
value from the next argument. -/
def long (request : Request) (text : String) : Except Reply (Request × Option Key) :=
  let (name, value?) := match cut? "=" text with
    | some (name, value) => (name, some value)
    | none => (text, none)
  match Key.ofName? name, value? with
  | none, _ => .error .refused
  | some key, some value => do return (← request.option value key, none)
  | some key, none =>
    if key.takesValue then .ok (request, some key)
    else do return (← request.flag key, none)

/-- The arguments from here on. The number bounds them. -/
def readFrom (isFile : String → Bool) : Nat → Progress → List String → Except Reply Request
  | 0, progress, _ => progress.check isFile
  | _, progress, [] => progress.check isFile
  | n + 1, progress, argument :: rest => do
    if argument = "--" then
      ({ progress with unchecked := progress.unchecked ++ rest } : Progress).check isFile
    else if !isOption argument then
      readFrom isFile n { progress with unchecked := progress.unchecked ++ [argument] } rest
    else
      let request ← progress.check isFile
      let (request, awaiting?) ← match dropKey? "--" argument with
        | some text => long request text
        | none => letters request (argument.toList.drop 1)
      match awaiting?, rest with
      | none, _ => readFrom isFile n { request } rest
      | some key, value :: rest =>
        if isOption value then .error .refused
        else readFrom isFile n { request := ← request.option value key } rest
      | some _, [] => .error .refused

/-- **The request that arguments make.** There has to be a definition file. -/
def read (isFile : String → Bool) (arguments : List String) : Except Reply Request := do
  let request ← readFrom isFile arguments.length {} arguments
  if request.definitions.isEmpty then .error .refused else .ok request

/-! ### Running benchmarks -/

/-- **How the program ends.** -/
inductive ExitCode where
  | success
  | failure
  /-- The arguments are wrong. -/
  | usage
  /-- A deadline or a number of places has been out of range. -/
  | crashed
  | interrupted
  deriving DecidableEq, Repr

/-- The number of an exit code. -/
def ExitCode.number : ExitCode → Nat
  | success => 0
  | failure => 1
  | usage => 2
  | crashed => 101
  | interrupted => 130

/-- The exit code after a benchmark that has ended early. -/
def ExitCode.ofFailure : Failure → ExitCode
  | .stopped .interrupted => .interrupted
  | .stopped .deadlineOutOfRange | .stopped .placesOutOfRange => .crashed
  | _ => .failure

/-- The settings that a request asks for. -/
def settingsFor (tree : FileTree) (request : Request) : Except Settings.Fault Settings := do
  let settings ← match request.settingsFile with
    | some path => Settings.load tree path
    | none => .ok {}
  return { settings with only := request.test.or settings.only }

/-- **Benchmarks one after the other**, until one ends early. -/
def runBenchmarks (env : Environment) (now : Instant) (machine : Machine) (settings : Settings) :
    Timed Bool → Desk → List String → ExitCode × Desk
  | _, desk, [] => (.success, desk)
  | state, desk, path :: further =>
    match Benchmark.load desk.tree env path with
    | .error _ => (.failure, desk)
    | .ok (benchmark, warnings) =>
      let desk := desk.warn warnings
      match benchmark.tool.findExecutable desk.tree env with
      | .error _ => (.failure, desk)
      | .ok executable =>
        let setup : Setup (Timed Bool) :=
          ⟨benchmark, settings, env, executable, (Host.scripted env now).timed⟩
        let result := Trial.run setup machine desk state
        match result.tally with
        | .error failure => (ExitCode.ofFailure failure, result.desk)
        | .ok _ => runBenchmarks env now machine settings result.state result.desk further

/-- **The program.** -/
def run (env : Environment) (now : Instant) (machine : Machine) (desk : Desk)
    (arguments : List String) : ExitCode × Desk :=
  match read desk.tree.isFile arguments with
  | .error (.shown text) => (.success, desk.display text)
  | .error .refused => (.usage, desk)
  | .ok request =>
    match settingsFor desk.tree request with
    | .error _ => (.failure, desk)
    | .ok settings =>
      runBenchmarks env now machine settings { state := false } desk request.definitions

end CommandLine

end VerifierTrials
