import VerifierTrials.Proofs.FileTree.Directories
import VerifierTrials.Proofs.Trial.Progress

/-!
# What lies beside a source

A run that needs a scratch file has it made in the directory of its source. It is not the source,
since nothing was where it is made, and it lies in the same directory, since the directory that is
cut out of the path name of a source, read from the working directory, is the one that the source
lies in (`Scratch.beside`). Of the names that are made up for scratch files this needs only that
they are names, with no slash in them (`NewNames.HasNoSlash`): whether there is a name at all, and
whether the device takes the text, may be as it will.

However a run ends, each place that the tool itself has not touched is afterwards what it was
before, and the place of the scratch file is one of them (`Trial.runItem_scratch`). There is only
one thing to be asked of the tool for this: that the scratch file is still where it was when the
tool has ended.
-/

namespace VerifierTrials

open FileTree Verifier

/-! ### Where scratch files lie -/

/-- **New names with no slash in what is made up of them.** -/
def NewNames.HasNoSlash {σ : Type} (fresh : NewNames σ) : Prop :=
  ∀ path tree state middle, (fresh path tree state).1 = .ok middle → '/' ∉ middle.toList

theorem hasNoSlash_always {σ : Type} {middle : String} (plain : '/' ∉ middle.toList) :
    NewNames.HasNoSlash (σ := σ) (always middle) := by
  intro _ _ _ _ drawn
  cases drawn
  exact plain

/-- The name of a scratch file is one component. -/
theorem slash_not_mem_scratchName {middle : String} (plain : '/' ∉ middle.toList)
    (source : String) : '/' ∉ (scratchName source middle).toList := by
  have stem : '/' ∉ ((Path.fileName? source).getD "").toList := by
    cases named : Path.fileName? source with
    | none => decide
    | some name => exact Path.not_mem_of_fileName? named
  simp [scratchName, plain, stem]

variable {tree made : FileTree} {source text middle : String} {place p : List String}
  {content : Bytes}

/-- The name of a scratch file is a name, if its path name leads anywhere. -/
theorem isEntryName_scratchName {directory : String} {takeLast : Bool}
    (plain : '/' ∉ middle.toList)
    (led : tree.locate takeLast (Path.join directory (scratchName source middle)) = .ok p) :
    IsEntryName (scratchName source middle) := by
  have plain := slash_not_mem_scratchName plain source
  have long : 2 < (scratchName source middle).length := by
    have ending : "_acsar.c".length = 8 := by decide
    simp only [scratchName, String.length_append, ending]
    omega
  obtain ⟨nonempty, notDot, notUp⟩ := proper_of_length long
  refine ⟨names_of_locate led (Path.components_join_of_not_mem directory plain) nonempty notDot
    notUp, plain, fun null => ?_⟩
  obtain ⟨noNull, -, -⟩ := locate_eq_ok_iff.mp led
  obtain ⟨before, joined⟩ := Path.join_eq_append directory (scratchName source middle)
  rw [joined] at noNull
  simp [null] at noNull

theorem scratchDirectory_eq (tree : FileTree) (source : String) :
    scratchDirectory tree source = Path.join tree.workingPath (enclosing source) := rfl

/-- **A scratch file lies beside its source**, under another name. -/
theorem Scratch.beside (settled : Settled tree) (readable : tree.readText source = .ok text)
    (plain : '/' ∉ middle.toList)
    (scratch : Scratch tree made (scratchPath tree source middle) place content) :
    ∃ directory own name, tree.locate false source = .ok (directory ++ [own]) ∧
      place = directory ++ [name] ∧ name ≠ own := by
  -- the source is a file, which is found in some directory
  obtain ⟨bytes, reading⟩ := exists_of_readText readable
  obtain ⟨p, led, held⟩ := exists_of_isFile (isFile_of_read reading)
  have noDirectory : tree.entry? p ≠ some .directory := fun directory =>
    held (contentAt_of_entry directory (by simp))
  obtain ⟨directory, named, leads, grounded, led'⟩ :=
    exists_directory settled led noDirectory (Path.front_concat_lastPart source).symm
  obtain ⟨noNull, -, -⟩ := locate_eq_ok_iff.mp led
  have enclosed := locate_enclosing settled noNull (Path.front_concat_lastPart source).symm named
    leads
  have around : tree.locate true (scratchDirectory tree source) = .ok directory := by
    rw [scratchDirectory_eq, locate_workingPath settled (locate_eq_ok_iff.mp enclosed).2.1]
    exact enclosed
  -- and there the scratch file is made
  have scratchLed := scratch.shape.symm.locate scratch.led
  have placed : tree.locate false (scratchPath tree source middle) =
      .ok (directory ++ [scratchName source middle]) := by
    have nonempty : scratchDirectory tree source ≠ "" := (locate_eq_ok_iff.mp around).2.1
    refine locate_join (isEntryName_scratchName plain scratchLed) ?_ grounded.directory
    rw [if_neg nonempty]
    exact around
  obtain rfl : place = directory ++ [scratchName source middle] :=
    Except.ok.inj (scratchLed.symm.trans placed)
  refine ⟨directory, _, _, led', rfl, fun same => held ?_⟩
  -- where the source is, there is something
  rw [same] at scratch
  have way := locate_taken led' (AtMostFile.of_none scratch.absent).noLink
  rw [Except.ok.inj (led.symm.trans way)]
  exact contentAt_eq_none scratch.absent

namespace Trial

variable {σ : Type} {setup : Setup σ} {test : Test} {item : WorkItem} {trial final : Trial σ}

/-! ### One run -/

/-- **A place that the tool of a run does not touch**, if it is started. -/
def Untouched (setup : Setup σ) (test : Test) (item : WorkItem) (trial : Trial σ)
    (place : List String) : Prop :=
  ∀ invocation made state, readying setup test item trial = (.ok invocation, made, state) →
    FileTree.entry? (executed setup invocation made state) place = made.entry? place

/-- **A tool that leaves the scratch file of its run where it is.** -/
def LeavesScratch (setup : Setup σ) (test : Test) (item : WorkItem) (trial : Trial σ) : Prop :=
  ∀ invocation made state path place,
    readying setup test item trial = (.ok invocation, made, state) →
    invocation.scratch? = some path → made.locate false path = .ok place →
      (executed setup invocation made state).locate false path = .ok place ∧
        FileTree.entry? (executed setup invocation made state) place = made.entry? place

variable {made : FileTree} {state : σ}

/-- A run that cannot be made ready leaves the files as they are then. -/
theorem tree_of_error {failure : PreparationError}
    (ended : Ends (runItem setup test item) trial final)
    (preparing : readying setup test item trial = (.error failure, made, state)) :
    final.tree = made := by
  rw [Ends, runItem_of_error preparing] at ended
  rcases ended with ⟨_, ended⟩ | ⟨_, ended⟩
  · cases ended
    exact tree_afterReadying setup made state trial
  · cases ended

/-- A scratch file that is still where it was is all that goes when a run is over. -/
theorem entry_release {invocation : Invocation} {left : FileTree} {path : String}
    {place : List String} {mode : Nat} {content : Bytes}
    (some_ : invocation.scratch? = some path) (led : left.locate false path = .ok place)
    (file : left.entry? place = some (.file mode content)) (p : List String) :
    FileTree.entry? (invocation.release left) p = if p = place then none else left.entry? p := by
  rw [Invocation.release, some_]
  dsimp only
  rw [remove_of_file led file]
  exact entry_drop (AtMostFile.of_file file).ne_root p

/-- **A run with a scratch file**, however it ends.

Each place that the tool does not touch holds afterwards what it held before; in particular the
files beside the source do, and no scratch file is left. Whenever the tool is started, the scratch
file that it is handed lies in the directory of the source, under another name, and holds the
source with its error labels rewritten: at the start, and when the tool has ended. Only then is it
removed. -/
theorem runItem_scratch (acsar : setup.benchmark.tool = .acsar) (settled : Settled trial.tree)
    (names : NewNames.HasNoSlash setup.host.fresh) (leaves : LeavesScratch setup test item trial)
    (ended : Ends (runItem setup test item) trial final) :
    (∀ place, Untouched setup test item trial place →
      final.tree.entry? place = trial.tree.entry? place) ∧
    ∀ invocation made state, readying setup test item trial = (.ok invocation, made, state) →
      ∃ path directory own name text,
        invocation.arguments = setup.executable :: "--file" :: path ::
          Verifier.acsar.fullOptions (optionsOf setup.benchmark test item) ∧
        trial.tree.locate false item.file = .ok (directory ++ [own]) ∧ name ≠ own ∧
        trial.tree.readText item.file = .ok text ∧
        (∀ tree ∈ [made, executed setup invocation made state],
          tree.locate false path = .ok (directory ++ [name]) ∧
          tree.contentAt (directory ++ [name]) = some (Utf8.encode (markErrors text))) ∧
        final.tree = invocation.release (executed setup invocation made state) ∧
        final.tree.entry? (directory ++ [name]) = none := by
  obtain ⟨prepared, made, state, preparing⟩ : ∃ prepared made state,
      readying setup test item trial = (prepared, made, state) := ⟨_, _, _, rfl⟩
  rcases prepare_cases preparing with ⟨invocation, rfl, readied⟩ | ⟨failure, rfl, same⟩
  · cases readied with
    | plain other => exact absurd acsar other
    | @scratch middle place text _ words some_ drawn readable scratch =>
      obtain ⟨led, kept⟩ := leaves invocation made state _ place preparing some_ scratch.led
      obtain ⟨mode, file⟩ := scratch.file
      have left := (left_of_ready preparing ended).1
      have released := entry_release some_ led (kept.trans file)
      rw [← left] at released
      refine ⟨fun p untouched => ?_, fun invocation' made' state' preparing' => ?_⟩
      · rw [released]
        split
        next same => rw [same, scratch.absent]
        next other =>
          exact (untouched invocation made state preparing).trans (scratch.others p other)
      · cases preparing.symm.trans preparing'
        obtain ⟨directory, own, name, sourceLed, rfl, apart⟩ :=
          scratch.beside settled readable (names _ _ _ _ drawn)
        have held : made.contentAt (directory ++ [name]) =
            some (Utf8.encode (markErrors text)) := by
          rw [contentAt, file]
        rw [acsar] at words
        refine ⟨_, directory, own, name, text, words, sourceLed, apart, readable, ?_, left,
          (released _).trans (if_pos rfl)⟩
        simp only [List.forall_mem_cons, List.not_mem_nil, false_imp_iff, implies_true, and_true]
        exact ⟨⟨scratch.led, held⟩, led, (contentAt_congr kept).trans held⟩
  · refine ⟨fun p _ => ?_, fun invocation' made' state' preparing' => ?_⟩
    · rw [tree_of_error ended preparing]
      exact same.entry p
    · cases preparing.symm.trans preparing'

/-! ### A source in the working directory -/

section Source

variable {fresh : NewNames Unit} {faults : List (Option WriteFault)}

/-- A benchmark whose tool needs scratch files, on a host where every run is interrupted. -/
def interruptedSetup (fresh : NewNames Unit) : Setup Unit :=
  let setup := small (.error .interrupted)
  { setup with
    benchmark := { setup.benchmark with tool := .acsar }
    executable := "acsar"
    host := { setup.host with fresh } }

/-- A trial of it, with a source in the working directory and a device that may fail writes. -/
def sourceTrial (faults : List (Option WriteFault)) : Trial Unit :=
  ⟨⟨journalOf (small (.error .interrupted)) smallMachine smallDesk (),
    { smallDesk with tree := sourceTree, faults }⟩, ()⟩

theorem executed_interrupted (invocation : Invocation) (tree : FileTree) (state : Unit) :
    executed (interruptedSetup fresh) invocation tree state = tree := by
  exact congrArg Prod.fst (execute_of_still (fun _ _ _ _ _ => rfl) _ _ _ _ tree state)

theorem settled_sourceTrial : Settled (sourceTrial faults).tree :=
  ⟨fun _ among => absurd among List.not_mem_nil, grounded_root _⟩

theorem leavesScratch_interrupted (trial : Trial Unit) :
    LeavesScratch (interruptedSetup fresh) test item trial := by
  intro invocation made state path place _ _ led
  rw [executed_interrupted]
  exact ⟨led, rfl⟩

theorem untouched_interrupted (trial : Trial Unit) (place : List String) :
    Untouched (interruptedSetup fresh) test item trial place := by
  intro invocation made state _
  rw [executed_interrupted]

/-- The last of many tries to make up a new name. -/
def givenUp : NewNames Unit := fun path _ state =>
  (.error ⟨.alreadyExists, some (path "a1B2c3")⟩, state)

theorem hasNoSlash_givenUp : NewNames.HasNoSlash givenUp := by
  intro _ _ _ _ drawn
  cases drawn

theorem readying_givenUp : ∃ failure,
    readying (interruptedSetup givenUp) {} ⟨"a.c", []⟩ (sourceTrial []) =
      (.error failure, sourceTree, ()) := by
  have readable : (sourceTrial []).tree.readText "a.c" = .ok "ERROR: ;" := readText_source
  refine ⟨⟨.alreadyExists, some (scratchPath sourceTree "a.c" "a1B2c3")⟩, ?_⟩
  change prepare .acsar givenUp _ _ _ _ _ _ = _
  simp only [prepare, makeScratch, readable, givenUp]
  rfl

/-- A device that takes three bytes of the scratch file. -/
theorem readying_cut : ∃ failure made,
    readying (interruptedSetup (always "a1B2c3")) {} ⟨"a.c", []⟩
      (sourceTrial [some (.cut 3 .noSpace)]) = (.error failure, made, ()) := by
  have readable : sourceTree.readText "a.c" = .ok "ERROR: ;" := readText_source
  have short : 3 < (Utf8.encode (markErrors "ERROR: ;")).length := by decide
  obtain ⟨cause, made, failed⟩ := createWith_of_cut sourceTree
    (scratchPath sourceTree "a.c" "a1B2c3") .noSpace short
  refine ⟨⟨cause, some (scratchPath sourceTree "a.c" "a1B2c3")⟩, made, ?_⟩
  change prepare .acsar (always "a1B2c3") (some (.cut 3 .noSpace)) _ _ "a.c" sourceTree () = _
  simp only [prepare, makeScratch, readable, always, failed]

/-- **Three runs of a source**, each of which leaves it alone with its directory: an interrupted
one, whose scratch file had the error label in it, one for whose scratch file no name is found,
and one whose scratch file cannot be written as a whole. -/
theorem runItem_scratch_interrupted :
    (∃ final invocation made,
      Ends (runItem (interruptedSetup (always "a1B2c3")) {} ⟨"a.c", []⟩) (sourceTrial []) final ∧
      readying (interruptedSetup (always "a1B2c3")) {} ⟨"a.c", []⟩ (sourceTrial []) =
        (.ok invocation, made, ()) ∧
      (∀ place, final.tree.entry? place = sourceTree.entry? place) ∧
      ∃ place, made.contentAt place = some (Utf8.encode "ERROR_LOCATION: ;") ∧
        final.tree.entry? place = none) ∧
    (∃ final failure,
      Ends (runItem (interruptedSetup givenUp) {} ⟨"a.c", []⟩) (sourceTrial []) final ∧
      readying (interruptedSetup givenUp) {} ⟨"a.c", []⟩ (sourceTrial []) =
        (.error failure, sourceTree, ()) ∧
      ∀ place, final.tree.entry? place = sourceTree.entry? place) ∧
    ∃ final failure made,
      Ends (runItem (interruptedSetup (always "a1B2c3")) {} ⟨"a.c", []⟩)
        (sourceTrial [some (.cut 3 .noSpace)]) final ∧
      readying (interruptedSetup (always "a1B2c3")) {} ⟨"a.c", []⟩
        (sourceTrial [some (.cut 3 .noSpace)]) = (.error failure, made, ()) ∧
      ∀ place, final.tree.entry? place = sourceTree.entry? place := by
  have plain : NewNames.HasNoSlash (σ := Unit) (always "a1B2c3") := hasNoSlash_always (by decide)
  refine ⟨?_, ?_, ?_⟩
  · obtain ⟨made, preparing⟩ := prepare_source "acsar" []
    obtain ⟨final, ended⟩ := exists_ends
      (runItem (interruptedSetup (always "a1B2c3")) {} ⟨"a.c", []⟩) (sourceTrial [])
    obtain ⟨kept, started⟩ := runItem_scratch rfl settled_sourceTrial plain
      (leavesScratch_interrupted _) ended
    obtain ⟨path, directory, own, name, text, -, -, -, readable, held, -, gone⟩ :=
      started _ _ _ preparing
    refine ⟨final, _, made, ended, preparing, fun place => kept place (untouched_interrupted _ _),
      directory ++ [name], ?_, gone⟩
    obtain ⟨-, held⟩ := held made List.mem_cons_self
    obtain rfl : "ERROR: ;" = text := Except.ok.inj (readText_source.symm.trans readable)
    have marked : markErrors "ERROR: ;" = "ERROR_LOCATION: ;" := by decide
    rw [held, marked]
  · obtain ⟨failure, preparing⟩ := readying_givenUp
    obtain ⟨final, ended⟩ := exists_ends (runItem (interruptedSetup givenUp) {} ⟨"a.c", []⟩)
      (sourceTrial [])
    obtain ⟨kept, -⟩ := runItem_scratch rfl settled_sourceTrial hasNoSlash_givenUp
      (leavesScratch_interrupted _) ended
    exact ⟨final, failure, ended, preparing, fun place => kept place (untouched_interrupted _ _)⟩
  · obtain ⟨failure, made, preparing⟩ := readying_cut
    obtain ⟨final, ended⟩ := exists_ends
      (runItem (interruptedSetup (always "a1B2c3")) {} ⟨"a.c", []⟩)
      (sourceTrial [some (.cut 3 .noSpace)])
    obtain ⟨kept, -⟩ := runItem_scratch rfl settled_sourceTrial plain
      (leavesScratch_interrupted _) ended
    exact ⟨final, failure, made, ended, preparing,
      fun place => kept place (untouched_interrupted _ _)⟩

end Source

end Trial

end VerifierTrials
