import VerifierTrials.Proofs.Trial.Course
import VerifierTrials.Proofs.Verifier.Scratch

/-!
# Runs that leave the reports alone

A tool may do anything to the files but touch the directory of the reports
(`Trial.LeavesAlone`). Then a run does not touch it either: the scratch file that is made
before it is removed behind it, and both happen at a place where nothing was. This holds
whether the source cannot be prepared, the run comes to its end, or it stops the benchmark
(`Trial.runItem_cases`).
-/

namespace VerifierTrials.Trial

open FileTree Verifier

variable {σ : Type}

/-- The files that a tool leaves behind. -/
def executed (setup : Setup σ) (invocation : Invocation) (tree : FileTree) (state : σ) : FileTree :=
  (setup.host.execute setup.environment setup.settings.graceSeconds invocation.arguments
    setup.benchmark.limits tree state).2.1

/-- The result that a run has on the host. -/
def resultOn (setup : Setup σ) (invocation : Invocation) (tree : FileTree) (state : σ) :
    Except BenchmarkError Outcome :=
  (setup.host.execute setup.environment setup.settings.graceSeconds invocation.arguments
    setup.benchmark.limits tree state).1

/-- **A tool that has left the reports alone**: the directory of the reports is in order after
it, with the same entries in it, and the scratch file has not been moved, nor has a link come
in its place. -/
structure Keeps (journal : Journal) (q : List String) (invocation : Invocation)
    (before after : FileTree) : Prop where
  orderly : journal.Orderly q after
  entries : ∀ place, q <+: place → after.entry? place = before.entry? place
  scratch : ∀ path place, invocation.scratch? = some path → before.locate false path = .ok place →
    after.locate false path = .ok place ∧ ∀ target, after.entry? place ≠ some (.link target)

/-- **A host whose tools leave the reports alone** in every run that has been made ready,
whatever they do otherwise. -/
def LeavesAlone (setup : Setup σ) (journal : Journal) (q : List String) : Prop :=
  ∀ test item (trial : Trial σ) invocation made state, journal.Orderly q trial.tree →
    readying setup test item trial = (.ok invocation, made, state) →
    Keeps journal q invocation made (executed setup invocation made state)

variable {setup : Setup σ} {test : Test} {item : WorkItem} {trial final : Trial σ}
  {journal : Journal} {q : List String} {made : FileTree} {state : σ}

/-- A host whose tools leave no trace leaves none when a run is refused either. -/
theorem execute_of_still {host : Host σ}
    (still : ∀ words limits grace tree state, (host.run words limits grace tree state).2 =
      (tree, state))
    (environment : Environment) (grace : Nat) (words : List String) (limits : Limits)
    (tree : FileTree) (state : σ) :
    (host.execute environment grace words limits tree state).2 = (tree, state) := by
  rw [Host.execute]
  split
  · rfl
  · split
    · rfl
    · exact still _ _ _ _ _

/-- A host that changes no files leaves the reports alone. -/
theorem leavesAlone_of_still (still : ∀ invocation tree state,
    executed setup invocation tree state = tree) : LeavesAlone setup journal q := by
  intro test item trial invocation made state orderly preparing
  rw [still]
  cases readied_of_prepare preparing with
  | plain _ unchanged none_ =>
    subst unchanged
    exact ⟨orderly, fun _ _ => rfl, by simp [none_]⟩
  | @scratch middle place text _ _ some_ _ _ scratch =>
    refine ⟨orderly.sameShape scratch.shape, fun _ _ => rfl, fun path' place' named led => ?_⟩
    obtain rfl : _ = path' := Option.some.inj (some_.symm.trans named)
    obtain rfl : place = place' := Except.ok.inj (scratch.led.symm.trans led)
    exact ⟨led, scratch.noLink⟩

/-- **A run over and released** leaves the directory of the reports as it was. -/
theorem release_filed (alone : LeavesAlone setup journal q)
    (orderly : journal.Orderly q trial.tree) {invocation : Invocation}
    (preparing : readying setup test item trial = (.ok invocation, made, state)) :
    journal.Filed q trial.tree (invocation.release (executed setup invocation made state)) [] := by
  have keeps := alone _ _ _ _ _ _ orderly preparing
  have kept : ∀ p, q <+: p →
      (executed setup invocation made state).contentAt p = made.contentAt p := by
    intro p inside
    rw [contentAt, contentAt, keeps.entries p inside]
  have alike : Alike q made (executed setup invocation made state) :=
    ⟨fun p inside => by rw [keeps.entries p inside],
      fun p target inside => by rw [keeps.entries p inside]⟩
  cases readied_of_prepare preparing with
  | plain _ unchanged none_ =>
    subst unchanged
    rw [Invocation.release, none_]
    exact ⟨keeps.orderly, alike, kept⟩
  | @scratch middle place text _ _ some_ _ _ scratch =>
    -- at the place of the scratch file there was nothing before, and so it is again
    obtain ⟨led, noLink⟩ := keeps.scratch _ place some_ scratch.led
    obtain ⟨shape, held⟩ := remove_getD led noLink
    rw [Invocation.release, some_]
    refine ⟨keeps.orderly.sameShape shape,
      ((scratch.shape.alike q).trans alike).trans (shape.alike q), fun p inside => ?_⟩
    refine (held p).trans ?_
    split
    next same => rw [same]; exact (contentAt_eq_none scratch.absent).symm
    next other => exact (kept p inside).trans (contentAt_congr (scratch.others p other))

/-! ### One run -/

/-- The trial once a tool has run. -/
def afterExecution (setup : Setup σ) (invocation : Invocation) (trial : Trial σ) : Trial σ :=
  { trial.onDesk fun desk =>
      { desk with
        tree := invocation.release (executed setup invocation trial.tree trial.state) } with
    state := (setup.host.execute setup.environment setup.settings.graceSeconds
      invocation.arguments setup.benchmark.limits trial.tree trial.state).2.2 }

theorem runInvocation_eq (setup : Setup σ) (invocation : Invocation) (trial : Trial σ) :
    (runInvocation setup invocation).run trial =
      match resultOn setup invocation trial.tree trial.state with
      | .ok outcome => .ok outcome (afterExecution setup invocation trial)
      | .error cause => .error (.stopped cause) (afterExecution setup invocation trial) :=
  rfl

theorem runInvocation_cases (setup : Setup σ) (invocation : Invocation) (trial : Trial σ) :
    (∃ outcome, (runInvocation setup invocation).run trial =
        .ok outcome (afterExecution setup invocation trial)) ∨
      ∃ cause, (runInvocation setup invocation).run trial =
        .error (.stopped cause) (afterExecution setup invocation trial) := by
  rw [runInvocation_eq]
  split
  next outcome _ => exact .inl ⟨outcome, rfl⟩
  next cause _ => exact .inr ⟨cause, rfl⟩

theorem titles_missingCells (benchmark : Benchmark) :
    (Column.missingCells benchmark.columns).map Cell.title =
      benchmark.columns.map Column.title := by
  rw [Column.missingCells, List.map_map]
  rfl

theorem titles_cellsOf (benchmark : Benchmark) (output : String) :
    (cellsOf benchmark output).map Cell.title = benchmark.columns.map Column.title := by
  rw [cellsOf]
  split
  · rw [Column.cells, List.map_map]
    rfl
  · exact titles_missingCells benchmark

/-- The trial once a source has been prepared. -/
def afterReadying (setup : Setup σ) (made : FileTree) (state : σ) (trial : Trial σ) : Trial σ :=
  { trial.onDesk (afterPreparation setup.benchmark.tool made) with state }

theorem tree_afterReadying (setup : Setup σ) (made : FileTree) (state : σ) (trial : Trial σ) :
    (afterReadying setup made state trial).tree = made := by
  change (afterPreparation setup.benchmark.tool made trial.session.desk).tree = made
  rw [afterPreparation]
  split <;> rfl

theorem willing_afterReadying (setup : Setup σ) (made : FileTree) (state : σ)
    (willing : trial.session.desk.faults = []) :
    (afterReadying setup made state trial).session.desk.faults = [] := by
  change (afterPreparation setup.benchmark.tool made trial.session.desk).faults = []
  rw [afterPreparation]
  split
  · exact Desk.faults_afterWrite willing made
  · exact willing

/-- **A trial in which the reports have been left alone.** -/
structure Kept (journal : Journal) (q : List String) (trial final : Trial σ) : Prop where
  sameJournal : final.session.journal = trial.session.journal
  willing : trial.session.desk.faults = [] → final.session.desk.faults = []
  filed : journal.Filed q trial.tree final.tree []

theorem runItem_of_error {failure : PreparationError}
    (preparing : readying setup test item trial = (.error failure, made, state)) :
    (runItem setup test item).run trial =
      .ok (unprepared setup.benchmark item failure)
        ((afterReadying setup made state trial).onDesk fun desk =>
          desk.warn [.unpreparedSource item.file setup.benchmark.tool.displayName
            failure.message]) := by
  simp only [runItem, EStateM.run_bind, EStateM.run_get, EStateM.run_set, preparing]
  rfl

/-- The trial once a run has been judged. -/
def afterJudging (setup : Setup σ) (item : WorkItem) (invocation : Invocation) (outcome : Outcome)
    (trial : Trial σ) : Trial σ :=
  trial.onDesk fun desk => desk.warn (judged setup.benchmark item invocation outcome).2

theorem runItem_of_ok {invocation : Invocation}
    (preparing : readying setup test item trial = (.ok invocation, made, state)) :
    (runItem setup test item).run trial =
      match (runInvocation setup invocation).run (afterReadying setup made state trial) with
      | .ok outcome after =>
        if areWritable setup.benchmark outcome.output then
          .ok (judged setup.benchmark item invocation outcome).1
            (afterJudging setup item invocation outcome after)
        else
          .error (.stopped .placesOutOfRange) (afterJudging setup item invocation outcome after)
      | .error failure after => .error failure after := by
  simp only [runItem, EStateM.run_bind, EStateM.run_get, EStateM.run_set, EStateM.run_modify,
    preparing, afterReadying]
  cases (runInvocation setup invocation).run _ with
  | ok outcome after =>
    dsimp only
    split <;> rfl
  | error failure after => rfl

/-- **What a run leaves behind** that has been made ready, however it ends: the files as its tool
has left them, without the scratch file, and the host as it is then. -/
theorem left_of_ready {invocation : Invocation}
    (preparing : readying setup test item trial = (.ok invocation, made, state))
    (ended : Ends (runItem setup test item) trial final) :
    final.tree = invocation.release (executed setup invocation made state) ∧
      final.state = (setup.host.execute setup.environment setup.settings.graceSeconds
        invocation.arguments setup.benchmark.limits made state).2.2 := by
  let after := afterExecution setup invocation (afterReadying setup made state trial)
  have left : after.tree = invocation.release (executed setup invocation made state) ∧
      after.state = (setup.host.execute setup.environment setup.settings.graceSeconds
        invocation.arguments setup.benchmark.limits made state).2.2 := by
    have readied := tree_afterReadying setup made state trial
    constructor
    · change invocation.release (executed setup invocation
        (afterReadying setup made state trial).tree state) = _
      rw [readied]
    · change (setup.host.execute _ _ _ _ (afterReadying setup made state trial).tree state).2.2 = _
      rw [readied]
  have same : final.tree = after.tree ∧ final.state = after.state := by
    rw [Ends, runItem_of_ok preparing] at ended
    rcases runInvocation_cases setup invocation (afterReadying setup made state trial) with
      ⟨outcome, ran⟩ | ⟨cause, ran⟩
    · -- the judgement only warns, whether the values can be written or not
      rw [ran] at ended
      dsimp only at ended
      split at ended <;> rcases ended with ⟨_, ended⟩ | ⟨_, ended⟩ <;> cases ended <;>
        exact ⟨rfl, rfl⟩
    · rw [ran] at ended
      rcases ended with ⟨_, ended⟩ | ⟨_, ended⟩ <;> cases ended
      exact ⟨rfl, rfl⟩
  exact ⟨same.1.trans left.1, same.2.trans left.2⟩

/-- Nothing but the files and the host matters to the result of a run. -/
theorem resultOn_afterReadying (invocation : Invocation) :
    resultOn setup invocation (afterReadying setup made state trial).tree
        (afterReadying setup made state trial).state =
      resultOn setup invocation made state := by
  rw [tree_afterReadying]
  rfl

/-- A run that comes to its end has had an outcome on the host, and is reported with it. -/
theorem exists_outcome_of_runItem {invocation : Invocation} {run : RunReport}
    (preparing : readying setup test item trial = (.ok invocation, made, state))
    (ran : (runItem setup test item).run trial = .ok run final) :
    ∃ outcome, resultOn setup invocation made state = .ok outcome ∧
      run = (judged setup.benchmark item invocation outcome).1 := by
  rw [runItem_of_ok preparing, runInvocation_eq, resultOn_afterReadying] at ran
  cases answer : resultOn setup invocation made state with
  | error cause => rw [answer] at ran; cases ran
  | ok outcome =>
    rw [answer] at ran
    dsimp only at ran
    split at ran
    · cases ran
      exact ⟨outcome, rfl, rfl⟩
    · cases ran

/-- **One run leaves the reports alone**, whether it comes to its end or stops the benchmark.
What is reported of it has the file of the work item and a value for each column. -/
theorem runItem_cases (alone : LeavesAlone setup journal q) (orderly : journal.Orderly q trial.tree)
    (test : Test) (item : WorkItem) :
    (∃ run final, (runItem setup test item).run trial = .ok run final ∧ Kept journal q trial final ∧
      run.file = item.file ∧
      run.cells.map Cell.title = setup.benchmark.columns.map Column.title) ∨
      ∃ cause final, (runItem setup test item).run trial = .error (.stopped cause) final ∧
        Kept journal q trial final := by
  obtain ⟨prepared, made, state, preparing⟩ : ∃ prepared made state,
      readying setup test item trial = (prepared, made, state) := ⟨_, _, _, rfl⟩
  have readied := tree_afterReadying setup made state trial
  rcases Verifier.prepare_cases preparing with ⟨invocation, rfl, -⟩ | ⟨failure, rfl, same⟩
  · rw [runItem_of_ok preparing]
    have filed := release_filed alone orderly preparing
    have kept : Kept journal q trial
        (afterExecution setup invocation (afterReadying setup made state trial)) := by
      refine ⟨rfl, willing_afterReadying setup made state, ?_⟩
      change journal.Filed q trial.tree
        (invocation.release (executed setup invocation (afterReadying setup made state trial).tree
          state)) []
      rw [readied]
      exact filed
    rcases runInvocation_cases setup invocation (afterReadying setup made state trial) with
      ⟨outcome, ended⟩ | ⟨cause, ended⟩
    · rw [ended]
      -- the warnings of the judgement change no files, whether the values can be written or not
      have judged : Kept journal q trial (afterJudging setup item invocation outcome
          (afterExecution setup invocation (afterReadying setup made state trial))) :=
        ⟨kept.sameJournal, kept.willing, kept.filed⟩
      dsimp only
      split
      · exact .inl ⟨_, _, rfl, judged, rfl, titles_cellsOf _ _⟩
      · exact .inr ⟨_, _, rfl, judged⟩
    · rw [ended]
      exact .inr ⟨cause, _, rfl, kept⟩
  · rw [runItem_of_error preparing]
    refine .inl ⟨_, _, rfl, ⟨rfl, willing_afterReadying setup made state, ?_⟩, rfl, ?_⟩
    · change journal.Filed q trial.tree (afterReadying setup made state trial).tree []
      rw [readied]
      exact ⟨orderly.sameShape same.shape, same.shape.alike q, fun p _ => same.content p⟩
    · exact titles_missingCells setup.benchmark

theorem runItem_eq_ok (alone : LeavesAlone setup journal q) (orderly : journal.Orderly q trial.tree)
    {run : RunReport} (ran : (runItem setup test item).run trial = .ok run final) :
    Kept journal q trial final ∧ run.file = item.file ∧
      run.cells.map Cell.title = setup.benchmark.columns.map Column.title := by
  rcases runItem_cases alone orderly test item with
    ⟨run', final', result, kept, file, titles⟩ | ⟨cause, final', result, -⟩
  · obtain ⟨rfl, rfl⟩ := EStateM.Result.ok.inj (ran.symm.trans result)
    exact ⟨kept, file, titles⟩
  · cases ran.symm.trans result

theorem runItem_eq_error (alone : LeavesAlone setup journal q)
    (orderly : journal.Orderly q trial.tree) {failure : Failure}
    (ran : (runItem setup test item).run trial = .error failure final) :
    Kept journal q trial final := by
  rcases runItem_cases alone orderly test item with
    ⟨run', final', result, -⟩ | ⟨cause, final', result, kept⟩
  · cases ran.symm.trans result
  · obtain ⟨-, rfl⟩ := EStateM.Result.error.inj (ran.symm.trans result)
    exact kept

end VerifierTrials.Trial
