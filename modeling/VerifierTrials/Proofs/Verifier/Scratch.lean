import VerifierTrials.Proofs.FileTree.Writing

/-!
# Scratch files

Making a run ready either changes nothing, or it makes one **scratch file** at a place where
nothing was (`Scratch`), and there it holds the source with its error labels rewritten. A scratch
file whose text cannot be written goes again, and then everything is as it was before.
-/

namespace VerifierTrials

open FileTree

variable {tree made after : FileTree} {path source : String} {place : List String}
  {content : Bytes}

/-- **A scratch file that has been made** at a place where nothing was. -/
structure Scratch (tree made : FileTree) (path : String) (place : List String)
    (content : Bytes) : Prop where
  absent : tree.entry? place = none
  shape : SameShape tree made
  led : made.locate false path = .ok place
  file : ∃ mode, made.entry? place = some (.file mode content)
  others : ∀ p, p ≠ place → made.entry? p = tree.entry? p

theorem Scratch.of_create (created : tree.create path = .ok made) :
    ∃ place, Scratch tree made path place [] := by
  obtain ⟨place, led, absent, rfl⟩ := create_eq_ok created
  have ends := AtMostFile.of_none absent
  refine ⟨place, absent, ends.sameShape_put _ _, (ends.sameShape_put _ _).locate led,
    ⟨_, (entry_put _ ends.ne_root place).trans (if_pos rfl)⟩, fun p other => ?_⟩
  rw [entry_put _ ends.ne_root, if_neg other]

theorem Scratch.noLink (scratch : Scratch tree made path place content) (target : String) :
    made.entry? place ≠ some (.link target) := by
  obtain ⟨mode, file⟩ := scratch.file
  exact (AtMostFile.of_file file).noLink target

/-- The text of a scratch file goes where the file is. -/
theorem Scratch.write (scratch : Scratch tree made path place content) {text : Bytes}
    (written : made.write path text = .ok after) : Scratch tree after path place text := by
  obtain ⟨mode, file⟩ := scratch.file
  have ends := AtMostFile.of_file file
  rw [write_of_file (locate_taken scratch.led scratch.noLink) file] at written
  cases written
  have shape := ends.sameShape_put mode text
  refine ⟨scratch.absent, scratch.shape.trans shape, shape.locate scratch.led,
    ⟨mode, (entry_put _ ends.ne_root place).trans (if_pos rfl)⟩, fun p other => ?_⟩
  rw [entry_put _ ends.ne_root, if_neg other, scratch.others p other]

/-- A scratch file that goes leaves everything as it was. -/
theorem Scratch.sameEntries (scratch : Scratch tree made path place content) :
    SameEntries tree ((made.remove path).toOption.getD made) := by
  obtain ⟨mode, file⟩ := scratch.file
  rw [remove_of_file scratch.led file]
  refine ⟨scratch.shape.workingDirectory, fun p => ?_⟩
  refine (entry_drop (AtMostFile.of_file file).ne_root p).trans ?_
  split
  next same => rw [same, scratch.absent]
  next other => exact scratch.others p other

/-- **A new file with a text** is there with all of the text, or nothing has changed: what the
device has taken of a text that it has not taken as a whole goes again. -/
theorem createWith_cases {fault? : Option WriteFault} {result : Except FileError Unit}
    (ran : tree.createWith fault? path content = (result, made)) :
    (result = .ok () ∧ ∃ place, Scratch tree made path place content) ∨
      ∃ cause, result = .error cause ∧ SameEntries tree made := by
  rw [createWith] at ran
  split at ran
  next => cases ran; exact .inr ⟨_, rfl, .refl tree⟩
  next taken cut? taking =>
    split at ran
    next => cases ran; exact .inr ⟨_, rfl, .refl tree⟩
    next created creation =>
      obtain ⟨place, scratch⟩ := Scratch.of_create creation
      split at ran
      next => cases ran; exact .inr ⟨_, rfl, scratch.sameEntries⟩
      next written writing => cases ran; exact .inr ⟨_, rfl, (scratch.write writing).sameEntries⟩
      next written writing =>
        cases ran
        obtain rfl := WriteFault.eq_of_taken taking
        exact .inl ⟨rfl, place, scratch.write writing⟩

/-- A new file can be made where nothing is. -/
theorem createWith_of_free (led : tree.locate false path = .ok place)
    (free : tree.entry? place = none) (content : Bytes) :
    ∃ made, tree.createWith none path content = (.ok (), made) := by
  have created : tree.create path = .ok (tree.put place (.file scratchMode [])) := by
    rw [create_eq led, free]
  obtain ⟨p, scratch⟩ := Scratch.of_create created
  obtain ⟨mode, file⟩ := scratch.file
  obtain ⟨after, writing⟩ := write_of_locate (locate_taken scratch.led scratch.noLink)
    (AtMostFile.of_file file) content
  refine ⟨after, ?_⟩
  simp only [createWith, WriteFault.taken, created, writing]

/-- A new file whose text is cut is not made. -/
theorem createWith_of_cut (tree : FileTree) (path : String) (cause : FileError) {n : Nat}
    (short : n < content.length) :
    ∃ failure made,
      tree.createWith (some (.cut n cause)) path content = (.error failure, made) := by
  rw [createWith, WriteFault.taken, if_pos short]
  dsimp only
  split
  next failure _ => exact ⟨failure, tree, rfl⟩
  next created _ => cases created.write path (content.take n) <;> exact ⟨_, _, rfl⟩

namespace Verifier

variable {σ : Type} {fresh : NewNames σ} {fault? : Option WriteFault} {state state' : σ}

/-- **Making a scratch file** leaves one behind under the name that has been made up for it, with
the text of its source and the labels in it rewritten, or changes nothing. -/
theorem makeScratch_cases {result : Except PreparationError String}
    (ran : makeScratch fresh fault? source tree state = (result, made, state')) :
    (∃ middle place text, result = .ok (scratchPath tree source middle) ∧
        (fresh (scratchPath tree source) tree state).1 = .ok middle ∧
        tree.readText source = .ok text ∧
        Scratch tree made (scratchPath tree source middle) place
          (Utf8.encode (markErrors text))) ∨
      (∃ failure, result = .error failure ∧ SameEntries tree made) := by
  rw [makeScratch] at ran
  split at ran
  next => cases ran; exact .inr ⟨_, rfl, .refl tree⟩
  next text readable =>
    split at ran
    next => cases ran; exact .inr ⟨_, rfl, .refl tree⟩
    next middle _ drawn =>
      dsimp only at ran
      split at ran
      next cause left creation =>
        cases ran
        rcases createWith_cases creation with ⟨impossible, -⟩ | ⟨_, -, same⟩
        · cases impossible
        · exact .inr ⟨_, rfl, same⟩
      next made' creation =>
        cases ran
        rcases createWith_cases creation with ⟨-, place, scratch⟩ | ⟨_, impossible, -⟩
        · exact .inl ⟨middle, place, text, rfl, by rw [drawn], readable, scratch⟩
        · cases impossible

/-- A scratch file is made where the name that is made up for it is free. -/
theorem makeScratch_of_free {text middle : String} (readable : tree.readText source = .ok text)
    (drawn : fresh (scratchPath tree source) tree state = (.ok middle, state'))
    (led : tree.locate false (scratchPath tree source middle) = .ok place)
    (free : tree.entry? place = none) :
    ∃ made, makeScratch fresh none source tree state =
      (.ok (scratchPath tree source middle), made, state') := by
  obtain ⟨made, creation⟩ := createWith_of_free led free (Utf8.encode (markErrors text))
  refine ⟨made, ?_⟩
  simp only [makeScratch, readable, drawn, creation]

/-- The words of a tool that gets its source as it is: the program, all options, and the
source. -/
def plainWords (tool : Verifier) (executable : String) (options : List String)
    (source : String) : List String :=
  executable :: tool.fullOptions options ++ [source]

section Prepare

variable {tool : Verifier} {executable : String} {options : List String}

/-- A tool that gets its source as it is can always be made ready. -/
theorem prepare_of_ne (plain : tool ≠ .acsar) :
    prepare tool fresh fault? executable options source tree state =
      (.ok ⟨tool.plainWords executable options source, tool.fullOptions options, none⟩, tree,
        state) := by
  rw [prepare]
  · rfl
  · exact plain

/-- What a run that has been made ready starts with: the source as it is and nothing changed, or a
scratch file that holds the source with its error labels rewritten, under the name that has been
made up for it. -/
inductive Readied (tool : Verifier) (fresh : NewNames σ) (executable : String)
    (options : List String) (source : String) (tree made : FileTree) (state : σ)
    (invocation : Invocation) : Prop
  | plain (other : tool ≠ .acsar) (unchanged : made = tree) (none_ : invocation.scratch? = none)
  | scratch {middle : String} {place : List String} {text : String} (acsar : tool = .acsar)
    (words : invocation.arguments =
      executable :: "--file" :: scratchPath tree source middle :: tool.fullOptions options)
    (some_ : invocation.scratch? = some (scratchPath tree source middle))
    (drawn : (fresh (scratchPath tree source) tree state).1 = .ok middle)
    (readable : tree.readText source = .ok text)
    (scratch : Scratch tree made (scratchPath tree source middle) place
      (Utf8.encode (markErrors text)))

/-- **A run made ready** has a scratch file, or nothing has changed. -/
theorem prepare_cases {prepared : Except PreparationError Invocation}
    (ran : prepare tool fresh fault? executable options source tree state =
      (prepared, made, state')) :
    (∃ invocation, prepared = .ok invocation ∧
      Readied tool fresh executable options source tree made state invocation) ∨
      (∃ failure, prepared = .error failure ∧ SameEntries tree made) := by
  by_cases acsar : tool = .acsar
  · subst acsar
    rw [prepare] at ran
    split at ran
    next path made' _ making =>
      cases ran
      rcases makeScratch_cases making with
        ⟨middle, place, text, same, drawn, readable, scratch⟩ | ⟨_, failed, -⟩
      · cases same
        exact .inl ⟨_, rfl, .scratch rfl rfl rfl drawn readable scratch⟩
      · cases failed
    next failure left _ making =>
      cases ran
      rcases makeScratch_cases making with ⟨_, _, _, made, -⟩ | ⟨_, -, same⟩
      · cases made
      · exact .inr ⟨failure, rfl, same⟩
  · rw [prepare_of_ne acsar] at ran
    cases ran
    exact .inl ⟨_, rfl, .plain acsar rfl rfl⟩

theorem readied_of_prepare {invocation : Invocation}
    (ran : prepare tool fresh fault? executable options source tree state =
      (.ok invocation, made, state')) :
    Readied tool fresh executable options source tree made state invocation := by
  rcases prepare_cases ran with ⟨_, same, readied⟩ | ⟨_, failed, -⟩
  · cases same
    exact readied
  · cases failed

end Prepare

/-! ### A source in the working directory -/

/-- Names of new files that have one and the same middle. -/
def always (middle : String) : NewNames σ := fun _ _ state => (.ok middle, state)

/-- A source with an error label, and no other file. -/
def sourceTree : FileTree := { entries := [(["a.c"], .file 0o644 (Utf8.encode "ERROR: ;"))] }

theorem readText_source : sourceTree.readText "a.c" = .ok "ERROR: ;" := by
  have file : sourceTree.entry? ["a.c"] = some (.file 0o644 (Utf8.encode "ERROR: ;")) := rfl
  have led : sourceTree.locate true "a.c" = .ok ["a.c"] :=
    locate_name (by decide) (by decide) (by decide) (AtMostFile.of_file file)
  have decoded : Utf8.decode? (Utf8.encode "ERROR: ;") = some "ERROR: ;" := by decide
  simp only [readText, read_of_contentAt led (by rw [contentAt, file]), bind, Except.bind, decoded]

/-- The source is made ready. -/
theorem prepare_source (executable : String) (options : List String) : ∃ made,
    prepare .acsar (always "a1B2c3") none executable options "a.c" sourceTree () =
      (.ok ⟨executable :: "--file" :: "/./a.c.a1B2c3_acsar.c" :: acsar.fullOptions options,
        acsar.fullOptions options, some "/./a.c.a1B2c3_acsar.c"⟩, made, ()) := by
  have path : scratchPath sourceTree "a.c" "a1B2c3" = "/./a.c.a1B2c3_acsar.c" := by decide
  have parts : Path.components "/./a.c.a1B2c3_acsar.c" = ["", ".", "a.c.a1B2c3_acsar.c"] := by
    decide
  have free : sourceTree.entry? ["a.c.a1B2c3_acsar.c"] = none := by decide
  have led : sourceTree.locate false "/./a.c.a1B2c3_acsar.c" = .ok ["a.c.a1B2c3_acsar.c"] := by
    refine locate_eq_ok_iff.mpr ⟨by decide, by decide, ?_⟩
    rw [parts]
    exact .stay (.inl rfl) (.stay (.inr rfl) (.last (by decide) (.of_none free)))
  obtain ⟨made, making⟩ := @makeScratch_of_free sourceTree "a.c" ["a.c.a1B2c3_acsar.c"] Unit
    (always "a1B2c3") () () "ERROR: ;" "a1B2c3" readText_source rfl (path ▸ led) free
  refine ⟨made, ?_⟩
  rw [prepare, making, path]

end Verifier

end VerifierTrials
