import Mathlib
import VerifierTrials.Proofs.Trial.CommandLines

/-!
# The source that a tool is started with

A tool that gets its source as it is gets it last, and like all other words it is expanded
once more when the tool is started. The files of a work item have been found by their names,
and a name may have a tilde or a dollar sign in it. So the tool is started with the source of
the work item exactly where its name is literal (`Trial.started_source`), which needs no
assumption in the one direction, and in the other one an environment whose values bring in
nothing to expand.
-/

namespace VerifierTrials.Trial

variable {σ : Type} {setup : Setup σ}

theorem started_plainWords (env : Environment) (tool : Verifier) (executable source : String)
    (options : List String) :
    Host.started env (tool.plainWords executable options source) =
      if (Host.commandLine env (tool.plainWords executable options source)).any Host.hasNull then []
      else [Host.commandLine env (tool.plainWords executable options source)] := by
  rw [Host.started]
  split
  next empty => simp [Host.commandLine, Verifier.plainWords] at empty
  next words => rw [words]

theorem getLast?_commandLine (env : Environment) (tool : Verifier) (executable source : String)
    (options : List String) :
    (Host.commandLine env (tool.plainWords executable options source)).getLast? =
      some (Path.expand env source) := by
  rw [Host.commandLine, List.getLast?_map, Verifier.plainWords, List.getLast?_append]
  rfl

/-- What a run of such a tool starts, whatever comes of it. -/
theorem notes_runItem_of_ne (plain : setup.benchmark.tool ≠ .acsar) (test : Test)
    (item : WorkItem) (trial : Trial (Noted σ)) :
    let words := Host.commandLine setup.environment (setup.benchmark.tool.plainWords
      setup.executable (optionsOf setup.benchmark test item) item.file)
    (stateAfter ((runItem setup.noting test item).run trial)).notes =
      trial.state.notes ++ (if words.any Host.hasNull then [] else [words]) := by
  intro words
  rw [notes_runItem_of_ok (Verifier.prepare_of_ne plain), started_plainWords]

/-- **The last word that a tool is started with**, for each tool that gets its source as it is:
whatever the work item is and whatever comes of the run, it hands over no more than one command
line, and this ends with the expansion of the file. That is the file itself where its name is
literal, and where no value brings in anything to expand, nowhere else. -/
theorem started_source (plain : setup.benchmark.tool ≠ .acsar) (test : Test) (item : WorkItem)
    (trial : Trial (Noted σ)) :
    let words := Host.commandLine setup.environment (setup.benchmark.tool.plainWords
      setup.executable (optionsOf setup.benchmark test item) item.file)
    (stateAfter ((runItem setup.noting test item).run trial)).notes =
        trial.state.notes ++ (if words.any Host.hasNull then [] else [words]) ∧
      words.getLast? = some (Path.expand setup.environment item.file) ∧
      (Path.IsLiteral setup.environment item.file → words.getLast? = some item.file) ∧
      (Path.IsPlain setup.environment →
        (words.getLast? = some item.file ↔ Path.IsLiteral setup.environment item.file)) := by
  intro words
  have last : words.getLast? = some (Path.expand setup.environment item.file) :=
    getLast?_commandLine _ _ _ _ _
  refine ⟨notes_runItem_of_ne plain test item trial, last, fun literal => ?_, fun simple => ?_⟩
  · rw [last, Path.expand_of_isLiteral literal]
  · rw [last, Option.some.injEq, Path.expand_eq_self_iff simple]

/-- Two files with a dollar sign in their names: the variable behind the one is not set, and
the variable behind the other one is. -/
theorem started_source_dollar :
    let env : Environment := ⟨[("X", "b")]⟩
    let setup := smallOf [] env
    let started (file : String) :=
      (stateAfter ((runItem setup.noting {} ⟨file, []⟩).run (smallTrial env))).notes
    setup.benchmark.tool ≠ .acsar ∧ Path.IsPlain env ∧
      Path.IsLiteral env "a$Y.c" ∧ started "a$Y.c" = [["satabs", "a$Y.c"]] ∧
      ¬Path.IsLiteral env "a$X.c" ∧ started "a$X.c" = [["satabs", "ab.c"]] := by
  intro env setup started
  have plain : setup.benchmark.tool ≠ .acsar := show Verifier.satabs ≠ .acsar by decide
  have simple : Path.IsPlain env :=
    Path.isPlain_of_bindings (by decide) fun home found => by cases found
  have literal : Path.IsLiteral env "a$Y.c" := by
    refine ⟨fun home => ?_, by decide⟩
    obtain ⟨rest, begins, -⟩ := Path.startsAtHome_iff.mp home
    simp at begins
  have kept := started_source plain {} ⟨"a$Y.c", []⟩ (smallTrial env)
  have changed := started_source plain {} ⟨"a$X.c", []⟩ (smallTrial env)
  refine ⟨plain, simple, literal, ?_, ?_, ?_⟩
  · exact kept.1.trans (by decide)
  · exact fun literal => absurd (literal.unset "X" (by decide)) (by decide)
  · exact changed.1.trans (by decide)

/-- A file found by a pattern, with a dollar sign in its name before a variable that is set. -/
theorem not_forall_source_kept :
    ¬∀ (tree : FileTree) (setup : Setup Unit) (sets : List FileSet),
      setup.benchmark.tool ≠ .acsar →
        ∀ item ∈ (FileSet.resolve tree setup.environment sets).1,
          ∀ (test : Test) (trial : Trial (Noted Unit)) (words : List String),
            (stateAfter ((runItem setup.noting test item).run trial)).notes =
                trial.state.notes ++ [words] →
              words.getLast? = some item.file := by
  intro all
  let tree : FileTree := { entries := [(["a$X.c"], .file 0o644 [])] }
  let env : Environment := ⟨[("X", "b")]⟩
  have items : (FileSet.resolve tree env [{ included := ["*.c"] }]).1 = [⟨"a$X.c", []⟩] := by cbv
  have plain : (smallOf [] env).benchmark.tool ≠ .acsar := show Verifier.satabs ≠ .acsar by decide
  have notes : (stateAfter ((runItem (smallOf [] env).noting {} ⟨"a$X.c", []⟩).run
      (smallTrial env))).notes = [["satabs", "ab.c"]] :=
    (notes_runItem_of_ne plain {} ⟨"a$X.c", []⟩ (smallTrial env)).trans (by decide)
  have kept := all tree (smallOf [] env) _ plain _ (items ▸ List.mem_singleton_self _) {}
    (smallTrial env) _ notes
  revert kept
  decide

end VerifierTrials.Trial
