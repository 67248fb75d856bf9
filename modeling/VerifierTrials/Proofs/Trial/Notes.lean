import VerifierTrials.Proofs.Trial.Beginning

/-!
# Hosts that take notes

Which command lines a benchmark starts can be seen on a host that takes notes
(`Host.noting`): it writes down each command line that it is handed, and otherwise does what
the host under it does. Taking notes changes nothing (`Trial.run_noting`), so that the notes
tell of the benchmark as it is. This is shown action by action (`Trial.Mirrors`), along the
loops over runs and tests.

What the notes hold is then found along the course of a benchmark: one command line for each
run that has been executed, which is the expansion of the one that is recorded
(`Trial.Ran.notes`, `Trial.Went.notes`).
-/

namespace VerifierTrials

/-! ### Hosts that take notes -/

/-- The state of a host that takes notes: the command lines that it has been handed, one after
the other, and the state of the host under it. -/
structure Noted (σ : Type) where
  notes : List (List String)
  state : σ

namespace Host

variable {σ : Type}

/-- **A host that writes down the command lines that it is handed.** -/
def noting (host : Host σ) : Host (Noted σ) where
  run words limits grace tree noted :=
    let (result, left, state) := host.run words limits grace tree noted.state
    (result, left, ⟨noted.notes ++ [words], state⟩)
  ask words tree noted :=
    let (printed?, left, state) := host.ask words tree noted.state
    (printed?, left, ⟨noted.notes, state⟩)
  clocks noted :=
    let (times, state) := host.clocks noted.state
    (times, ⟨noted.notes, state⟩)
  fresh pathOf tree noted :=
    let (name, state) := host.fresh pathOf tree noted.state
    (name, ⟨noted.notes, state⟩)

/-- **The command lines that arguments come to**: their expansion, unless it has no program or a
word that cannot be handed over. -/
def started (env : Environment) (arguments : List String) : List (List String) :=
  match commandLine env arguments with
  | [] => []
  | program :: rest => if (program :: rest).any hasNull then [] else [program :: rest]

variable {host : Host σ} {env : Environment} {grace : Nat} {arguments : List String}
  {limits : Limits} {tree : FileTree}

theorem execute_noting (noted : Noted σ) :
    host.noting.execute env grace arguments limits tree noted =
      ((host.execute env grace arguments limits tree noted.state).1,
        (host.execute env grace arguments limits tree noted.state).2.1,
        ⟨noted.notes ++ started env arguments,
          (host.execute env grace arguments limits tree noted.state).2.2⟩) := by
  cases words : commandLine env arguments with
  | nil => simp only [execute, started, words, List.append_nil]
  | cons program rest =>
    simp only [execute, started, words]
    split
    next => rw [List.append_nil]
    next => rfl

theorem length_started_le (env : Environment) (arguments : List String) :
    (started env arguments).length ≤ 1 := by
  rw [started]
  split
  next => simp
  next => split <;> simp

/-- What comes to an outcome has been started. -/
theorem started_of_execute {state : σ} {outcome : Outcome}
    (executed : (host.execute env grace arguments limits tree state).1 = .ok outcome) :
    started env arguments = [commandLine env arguments] := by
  rw [execute] at executed
  rw [started]
  split at executed
  next => cases executed
  next program rest words =>
    split at executed
    next => cases executed
    next noNull => rw [words]; exact if_neg noNull

theorem version_noting {tool : Verifier} {executable : String} (noted : Noted σ) :
    host.noting.version tool executable tree noted =
      ((host.version tool executable tree noted.state).1,
        (host.version tool executable tree noted.state).2.1,
        ⟨noted.notes, (host.version tool executable tree noted.state).2.2⟩) := by
  rw [version, version]
  split
  next => rfl
  next command _ =>
    split
    next => rfl
    next => rfl

/-- A run is made ready without a note. -/
theorem prepare_noting {tool : Verifier} {fault? : Option WriteFault} {executable source : String}
    {options : List String} (noted : Noted σ) :
    tool.prepare host.noting.fresh fault? executable options source tree noted =
      ((tool.prepare host.fresh fault? executable options source tree noted.state).1,
        (tool.prepare host.fresh fault? executable options source tree noted.state).2.1,
        ⟨noted.notes,
          (tool.prepare host.fresh fault? executable options source tree noted.state).2.2⟩) := by
  by_cases acsar : tool = .acsar
  · subst acsar
    obtain ⟨name, state, drawn⟩ : ∃ name state,
        host.fresh (Verifier.scratchPath tree source) tree noted.state = (name, state) :=
      ⟨_, _, rfl⟩
    have noting_drawn : host.noting.fresh (Verifier.scratchPath tree source) tree noted =
        (name, ⟨noted.notes, state⟩) := by
      change ((host.fresh _ tree noted.state).1, Noted.mk noted.notes (host.fresh _ tree _).2) = _
      rw [drawn]
    simp only [Verifier.prepare, Verifier.makeScratch, drawn, noting_drawn]
    cases tree.readText source with
    | error cause => rfl
    | ok text =>
      cases name with
      | error failure => rfl
      | ok middle =>
        dsimp only
        rcases tree.createWith fault? (Verifier.scratchPath tree source middle)
          (Utf8.encode (Verifier.markErrors text)) with ⟨_ | _, left⟩ <;> rfl
  · rw [Verifier.prepare_of_ne acsar, Verifier.prepare_of_ne acsar]

end Host

/-- **A benchmark on a host that takes notes.** -/
def Setup.noting {σ : Type} (setup : Setup σ) : Setup (Noted σ) where
  benchmark := setup.benchmark
  settings := setup.settings
  environment := setup.environment
  executable := setup.executable
  host := setup.host.noting

namespace Trial

variable {σ : Type} {setup : Setup σ} {test : Test} {item : WorkItem}

/-! ### Taking notes changes nothing -/

/-- A trial without the notes. -/
def forget (trial : Trial (Noted σ)) : Trial σ := ⟨trial.session, trial.state.state⟩

/-- What an action comes to, without the notes. -/
def forgetting {α : Type} : EStateM.Result Failure (Trial (Noted σ)) α →
    EStateM.Result Failure (Trial σ) α
  | .ok a final => .ok a final.forget
  | .error failure final => .error failure final.forget

/-- **An action that does the same as another one**, but for its notes. -/
def Mirrors {α : Type} (noting : Trying (Noted σ) α) (action : Trying σ α) : Prop :=
  ∀ trial, action.run trial.forget = forgetting (noting.run trial)

theorem Mirrors.pure {α : Type} (a : α) : Mirrors (σ := σ) (Pure.pure a) (Pure.pure a) :=
  fun _ => rfl

theorem Mirrors.bind {α β : Type} {noting : Trying (Noted σ) α} {action : Trying σ α}
    {notingRest : α → Trying (Noted σ) β} {rest : α → Trying σ β}
    (first : Mirrors noting action) (further : ∀ a, Mirrors (notingRest a) (rest a)) :
    Mirrors (noting >>= notingRest) (action >>= rest) := by
  intro trial
  rw [EStateM.run_bind, EStateM.run_bind, first trial]
  cases noting.run trial with
  | ok a middle => exact further a middle
  | error failure final => rfl

theorem Mirrors.exists_of_ok {α : Type} {noting : Trying (Noted σ) α} {action : Trying σ α}
    (mirrors : Mirrors noting action) {trial : Trial (Noted σ)} {a : α} {after : Trial σ}
    (done : action.run trial.forget = .ok a after) : ∃ final, noting.run trial = .ok a final := by
  rw [mirrors trial] at done
  cases ran : noting.run trial with
  | ok b final =>
    rw [ran] at done
    cases done
    exact ⟨final, rfl⟩
  | error failure final =>
    rw [ran] at done
    cases done

theorem Mirrors.report {α : Type} (action : Reporting α) :
    Mirrors (σ := σ) (report action) (report action) := by
  intro trial
  have session : trial.forget.session = trial.session := rfl
  rw [report_run, report_run, session]
  cases action.run trial.session <;> rfl

/-- What a run comes to on a host that takes notes. -/
theorem resultOn_noting (setup : Setup σ) (invocation : Invocation) (tree : FileTree)
    (noted : Noted σ) :
    resultOn setup.noting invocation tree noted = resultOn setup invocation tree noted.state :=
  congrArg Prod.fst (Host.execute_noting noted)

theorem forget_afterExecution (setup : Setup σ) (invocation : Invocation)
    (trial : Trial (Noted σ)) :
    (afterExecution setup.noting invocation trial).forget =
      afterExecution setup invocation trial.forget := by
  have noted : setup.noting.host.execute setup.noting.environment
      setup.noting.settings.graceSeconds invocation.arguments setup.noting.benchmark.limits
      trial.tree trial.state = _ := Host.execute_noting trial.state
  rw [afterExecution, executed, noted]
  rfl

theorem Mirrors.runInvocation (setup : Setup σ) (invocation : Invocation) :
    Mirrors (runInvocation setup.noting invocation) (runInvocation setup invocation) := by
  intro trial
  have same : resultOn setup.noting invocation trial.tree trial.state =
      resultOn setup invocation trial.forget.tree trial.forget.state :=
    resultOn_noting setup invocation trial.tree trial.state
  rw [runInvocation_eq, runInvocation_eq, same, ← forget_afterExecution]
  cases resultOn setup invocation trial.forget.tree trial.forget.state <;> rfl

/-- A source is made ready without a note. -/
theorem readying_noting (setup : Setup σ) (test : Test) (item : WorkItem)
    (trial : Trial (Noted σ)) :
    readying setup.noting test item trial =
      ((readying setup test item trial.forget).1, (readying setup test item trial.forget).2.1,
        ⟨trial.state.notes, (readying setup test item trial.forget).2.2⟩) :=
  Host.prepare_noting trial.state

variable {made : FileTree} {state : σ}

/-- What has been made ready has been made ready on a host that takes notes. -/
theorem noting_readying {trial : Trial (Noted σ)} {prepared : Except PreparationError Invocation}
    (preparing : readying setup test item trial.forget = (prepared, made, state)) :
    readying setup.noting test item trial = (prepared, made, ⟨trial.state.notes, state⟩) := by
  rw [readying_noting, preparing]

theorem Mirrors.runItem (setup : Setup σ) (test : Test) (item : WorkItem) :
    Mirrors (runItem setup.noting test item) (runItem setup test item) := by
  intro trial
  obtain ⟨prepared, made, state, preparing⟩ : ∃ prepared made state,
      readying setup test item trial.forget = (prepared, made, state) := ⟨_, _, _, rfl⟩
  cases prepared with
  | error failure =>
    rw [runItem_of_error preparing, runItem_of_error (noting_readying preparing)]
    rfl
  | ok invocation =>
    have readied : afterReadying setup made state trial.forget =
        (afterReadying setup.noting made ⟨trial.state.notes, state⟩ trial).forget := rfl
    rw [runItem_of_ok preparing, runItem_of_ok (noting_readying preparing), readied,
      Mirrors.runInvocation setup invocation]
    cases (Trial.runInvocation setup.noting invocation).run _ with
    | error failure final => rfl
    | ok outcome final =>
      change (if areWritable setup.benchmark outcome.output then _ else _) =
        forgetting (if areWritable setup.benchmark outcome.output then _ else _)
      split <;> rfl

theorem Mirrors.runItems (setup : Setup σ) (test : Test) (items : List WorkItem) :
    Mirrors (runItems setup.noting test items) (runItems setup test items) := by
  induction items with
  | nil => exact .pure _
  | cons item items ih =>
    exact .bind (.report _) fun _ => .bind (.runItem setup test item) fun _ =>
      .bind (.report _) fun _ => ih

/-- The clocks are read without a note. -/
theorem Mirrors.readClocks (setup : Setup σ) :
    Mirrors (readClocks setup.noting) (readClocks setup) :=
  fun _ => rfl

theorem Mirrors.runTest (setup : Setup σ) (number : Nat) (test : Test) :
    Mirrors (runTest setup.noting number test) (runTest setup number test) :=
  .bind (.readClocks setup) fun _ => .bind (.report _) fun _ =>
    .bind (.runItems setup test test.items) fun _ =>
      .bind (.readClocks setup) fun _ => .report _

theorem Mirrors.runTests (setup : Setup σ) (number : Nat) (tests : List Test) :
    Mirrors (runTests setup.noting number tests) (runTests setup number tests) := by
  induction tests generalizing number with
  | nil => exact .pure _
  | cons test tests ih =>
    rw [Trial.runTests, Trial.runTests]
    change Mirrors (if setup.settings.selects test.name then _ else _) _
    split
    · exact .bind (.runTest setup number test) fun _ => ih (number + 1)
    · exact .bind (.report _) fun _ => ih (number + 1)

/-- What comes of a benchmark, without the notes. -/
def Result.forget (result : Result (Noted σ)) : Result σ :=
  ⟨result.tally, result.desk, result.state.state⟩

theorem resultOf_noting {noting : Trying (Noted σ) Unit} {action : Trying σ Unit}
    (mirrors : Mirrors noting action) (trial : Trial (Noted σ)) :
    resultOf action trial.forget = (resultOf noting trial).forget := by
  rw [resultOf, resultOf, mirrors trial]
  cases noting.run trial <;> rfl

variable {machine : Machine} {desk : Desk} {noted : Noted σ}

theorem probed_noting :
    probed setup.noting desk noted =
      ((probed setup desk noted.state).1, (probed setup desk noted.state).2.1,
        ⟨noted.notes, (probed setup desk noted.state).2.2⟩) :=
  Host.version_noting noted

/-- **Taking notes changes nothing** but the notes. -/
theorem run_noting (setup : Setup σ) (machine : Machine) (desk : Desk) (noted : Noted σ) :
    (run setup.noting machine desk noted).forget = run setup machine desk noted.state := by
  rw [run_eq, run_eq, probed_noting]
  dsimp only [Setup.noting]
  generalize (Journal.start setup.benchmark _ machine setup.settings _).run _ = begun
  cases begun with
  | error cause desk' => rfl
  | ok journal desk' =>
    exact (resultOf_noting (.bind (.runTests setup 1 _) fun _ => .report _) _).symm

/-! ### What the notes hold -/

/-- The state of the host behind an action. -/
def stateAfter {α : Type} : EStateM.Result Failure (Trial σ) α → σ
  | .ok _ final => final.state
  | .error _ final => final.state

theorem notes_afterExecution (setup : Setup σ) (invocation : Invocation)
    (trial : Trial (Noted σ)) :
    (afterExecution setup.noting invocation trial).state.notes =
      trial.state.notes ++ Host.started setup.environment invocation.arguments :=
  congrArg (fun answer => answer.2.2.notes) (Host.execute_noting trial.state)

variable {trial final : Trial (Noted σ)} {run : RunReport} {runs : List FinishedRun}

/-- A run that has been made ready starts what its arguments come to, whatever comes of it. -/
theorem notes_runItem_of_ok {invocation : Invocation}
    (preparing : readying setup test item trial.forget = (.ok invocation, made, state)) :
    (stateAfter ((runItem setup.noting test item).run trial)).notes =
      trial.state.notes ++ Host.started setup.environment invocation.arguments := by
  have started := notes_afterExecution setup invocation
    (afterReadying setup.noting made ⟨trial.state.notes, state⟩ trial)
  rw [runItem_of_ok (noting_readying preparing)]
  rcases runInvocation_cases setup.noting invocation
    (afterReadying setup.noting made ⟨trial.state.notes, state⟩ trial) with
    ⟨outcome, ended⟩ | ⟨cause, ended⟩
  · rw [ended]
    dsimp only
    split <;> exact started
  · rw [ended]
    exact started

/-- A run that cannot be made ready starts nothing. -/
theorem notes_runItem_of_error {failure : PreparationError}
    (preparing : readying setup test item trial.forget = (.error failure, made, state)) :
    (stateAfter ((runItem setup.noting test item).run trial)).notes = trial.state.notes := by
  rw [runItem_of_error (noting_readying preparing)]
  rfl

/-- **The command lines that are recorded** of runs: those of the runs that have one. -/
def recorded (runs : List FinishedRun) : List (List String) :=
  (runs.map fun run => run.report.arguments).filter (· ≠ [])

/-- **A run that is over has started one command line**, the expansion of the one that is
recorded, unless its source could not be made ready. -/
theorem notes_of_runItem (ran : (runItem setup.noting test item).run trial = .ok run final) :
    final.state.notes = trial.state.notes ++
      ([run.arguments].filter (· ≠ [])).map (Host.commandLine setup.environment) := by
  obtain ⟨prepared, made, state, preparing⟩ : ∃ prepared made state,
      readying setup test item trial.forget = (prepared, made, state) := ⟨_, _, _, rfl⟩
  cases prepared with
  | error failure =>
    have notes := notes_runItem_of_error preparing
    rw [runItem_of_error (noting_readying preparing)] at ran
    cases ran
    exact (List.append_nil _).symm
  | ok invocation =>
    have notes := notes_runItem_of_ok preparing
    rw [ran] at notes
    obtain ⟨outcome, executed, rfl⟩ := exists_outcome_of_runItem (noting_readying preparing) ran
    rw [resultOn_noting] at executed
    have started := Host.started_of_execute executed
    have nonempty : invocation.arguments ≠ [] := by
      intro empty
      rw [empty] at started
      cases started
    rw [started] at notes
    simpa [judged, nonempty, stateAfter] using notes

theorem recorded_append (runs further : List FinishedRun) :
    recorded (runs ++ further) = recorded runs ++ recorded further := by
  rw [recorded, List.map_append, List.filter_append]
  rfl

theorem Ran.notes (ran : Ran setup.noting test trial runs final) :
    final.state.notes =
      trial.state.notes ++ (recorded runs).map (Host.commandLine setup.environment) := by
  induction ran with
  | nil => exact (List.append_nil _).symm
  | @next trial begun ended told final run runs beginning running logging telling further ih =>
    have first := notes_of_runItem running
    rw [state_report beginning] at first
    have split : recorded (run :: runs) =
        [run.report.arguments].filter (· ≠ []) ++ recorded runs :=
      recorded_append [run] runs
    rw [ih, state_report telling, first, split, List.map_append, List.append_assoc]

/-- **The notes behind tests**: the expansions of the command lines that are recorded of their
runs. -/
theorem Went.notes {tests : List FinishedTest} (went : Went setup.noting trial tests final) :
    final.state.notes = trial.state.notes ++
      (recorded (tests.flatMap FinishedTest.runs)).map (Host.commandLine setup.environment) := by
  induction went with
  | nil => exact (List.append_nil _).symm
  | @skipped trial left final number test tests leaving skipping further ih =>
    rw [ih, state_report skipping, List.flatMap_cons, recorded_append]
    rfl
  | @tested trial opened ended closed final number test runs tests selecting opening running all
      closing further ih =>
    have clocks (trial : Trial (Noted σ)) :
        (afterClocks setup.noting trial).state.notes = trial.state.notes := rfl
    rw [ih, state_report closing, clocks, running.notes, state_report opening, clocks,
      List.flatMap_cons, recorded_append, List.map_append, List.append_assoc]

theorem Begun.notes {noted : Noted σ} {start : Trial (Noted σ)}
    (begun : Begun setup.noting machine desk noted start) : start.state.notes = noted.notes := by
  rw [begun.state_eq, probed_noting]

end Trial

end VerifierTrials
