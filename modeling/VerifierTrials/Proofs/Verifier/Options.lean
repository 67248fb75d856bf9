import VerifierTrials.Definition.Basic
import VerifierTrials.Proofs.Verifier.Scratch

/-!
# Options on a command line

The options that a definition gives for a run come in three layers, and the tool may add words of
its own behind them (`Verifier.withWords`). Whether it does is decided by the first of these words
alone: a definition that has it anywhere, be it as the value of another option, has settled the
matter. Otherwise the words that are given stay what they are, one after the other, and once the
tool's own are there, nothing is added again (`Verifier.withWords_withWords`).

The main statement, `Verifier.options_of_prepare`, puts this together for all six tools and both
ways of handing over a source: as it is, behind the options, or as a scratch file in front of them.
-/

namespace VerifierTrials

/-- The words of three layers are those of each layer, in this order. -/
theorem ToolOption.words_merge (benchmark test file : List ToolOption) :
    words (merge benchmark test file) = words benchmark ++ words test ++ words file := by
  rw [merge, words, List.flatMap_append, List.flatMap_append]
  rfl

namespace Verifier

/-! ### Words of the tool's own -/

section Words

variable {options extra : List String} {first : String}

theorem withWords_of_mem (leads : first ∈ extra.head?) (given : first ∈ options) :
    withWords options extra = options := by
  obtain ⟨more, rfl⟩ := List.head?_eq_some_iff.mp leads
  rw [withWords, if_pos (List.contains_iff_mem.mpr given)]

theorem withWords_of_not_mem (absent : ∀ first ∈ extra.head?, first ∉ options) :
    withWords options extra = options ++ extra := by
  cases extra with
  | nil => exact (List.append_nil options).symm
  | cons first more =>
    rw [withWords, if_neg fun given => absent first rfl (List.contains_iff_mem.mp given)]

/-- Words are added as a whole or not at all. -/
theorem withWords_cases (options extra : List String) :
    withWords options extra = options ∨ withWords options extra = options ++ extra := by
  by_cases given : ∃ first ∈ extra.head?, first ∈ options
  · obtain ⟨first, leads, given⟩ := given
    exact .inl (withWords_of_mem leads given)
  · exact .inr (withWords_of_not_mem fun first leads within => given ⟨first, leads, within⟩)

/-- **Words are added exactly when the first of them is not there.** -/
theorem withWords_eq_append_iff (leads : first ∈ extra.head?) :
    withWords options extra = options ++ extra ↔ first ∉ options := by
  constructor
  · intro added given
    obtain ⟨more, rfl⟩ := List.head?_eq_some_iff.mp leads
    rw [withWords_of_mem leads given] at added
    simp at added
  · intro absent
    refine withWords_of_not_mem fun other leads' => ?_
    obtain rfl := Option.mem_unique leads leads'
    exact absent

/-- The words that are given come first, in their order. -/
theorem prefix_withWords (options extra : List String) :
    options <+: withWords options extra := by
  rcases withWords_cases options extra with same | added
  · simp only [same, List.prefix_refl]
  · rw [added]
    exact List.prefix_append options extra

/-- No word is repeated but one of the tool's own. -/
theorem filter_withWords (options extra : List String) :
    (withWords options extra).filter (· ∉ extra) = options.filter (· ∉ extra) := by
  rcases withWords_cases options extra with same | added
  · rw [same]
  · have none_ : extra.filter (· ∉ extra) = [] := List.filter_eq_nil_iff.mpr (by simp)
    rw [added, List.filter_append, none_, List.append_nil]

/-- **Adding words a second time changes nothing.** -/
theorem withWords_withWords (options extra : List String) :
    withWords (withWords options extra) extra = withWords options extra := by
  rcases withWords_cases options extra with same | added
  · rw [same, same]
  · cases extra with
    | nil => rfl
    | cons first more =>
      have leads : first ∈ (first :: more).head? := rfl
      refine withWords_of_mem leads ?_
      rw [added]
      exact List.mem_append_right _ List.mem_cons_self

end Words

/-! ### Command lines -/

section Prepare

variable {σ : Type} {tool : Verifier} {fresh : NewNames σ} {fault? : Option WriteFault}
  {executable source : String} {options : List String} {tree made : FileTree} {state state' : σ}
  {invocation : Invocation}

/-- A run that is ready has the options that were given, with those of the tool's own. -/
theorem options_eq_fullOptions
    (ran : prepare tool fresh fault? executable options source tree state =
      (.ok invocation, made, state')) :
    invocation.options = tool.fullOptions options := by
  by_cases acsar : tool = .acsar
  · subst acsar
    rw [prepare] at ran
    split at ran <;> cases ran
    rfl
  · rw [prepare_of_ne acsar] at ran
    cases ran
    rfl

/-- A source that is handed over as it is stands behind the options. -/
theorem arguments_of_plain (plain : tool ≠ .acsar)
    (ran : prepare tool fresh fault? executable options source tree state =
      (.ok invocation, made, state')) :
    invocation.arguments = executable :: invocation.options ++ [source] := by
  rw [options_eq_fullOptions ran]
  rw [prepare_of_ne plain] at ran
  cases ran
  rfl

/-- A scratch file stands in front of them. -/
theorem arguments_of_scratch
    (ran : prepare .acsar fresh fault? executable options source tree state =
      (.ok invocation, made, state')) :
    ∃ path, invocation.scratch? = some path ∧
      invocation.arguments = executable :: "--file" :: path :: invocation.options := by
  rw [options_eq_fullOptions ran]
  cases readied_of_prepare ran with
  | plain other => exact absurd rfl other
  | scratch _ words some_ _ _ _ => exact ⟨_, some_, words⟩

end Prepare

/-- **The options of a run that is ready**, for every tool and three layers of options, whatever
scratch file there may be. -/
theorem options_of_prepare {σ : Type} (tool : Verifier) (fresh : NewNames σ)
    (fault? : Option WriteFault) (executable source : String) (tree : FileTree) (state : σ)
    (benchmark test file : List ToolOption) :
    let given := ToolOption.words (ToolOption.merge benchmark test file)
    let base := ToolOption.words benchmark ++ ToolOption.words test ++ ToolOption.words file
    let extra := match tool with
      | .cbmc => ["--xml-ui"]
      | .cpachecker => ["-stats"]
      | .acsar => ["--mainproc", "main"]
      | .satabs | .wolverine | .blast => []
    (tool ≠ .acsar → ∃ invocation,
      prepare tool fresh fault? executable given source tree state =
        (.ok invocation, tree, state)) ∧
    ∀ invocation made state',
      prepare tool fresh fault? executable given source tree state =
        (.ok invocation, made, state') →
        (invocation.options = base ∨ invocation.options = base ++ extra) ∧
        (∀ first ∈ extra.head?, invocation.options = base ++ extra ↔ first ∉ base) ∧
        (tool ≠ .acsar → invocation.arguments = executable :: invocation.options ++ [source]) ∧
        (tool = .acsar → ∃ path, invocation.scratch? = some path ∧
          invocation.arguments = executable :: "--file" :: path :: invocation.options) ∧
        base <+: invocation.options ∧
        invocation.options.filter (· ∉ extra) = base.filter (· ∉ extra) ∧
        ∀ (fresh' : NewNames σ) fault' executable' source' tree' again made' last,
          prepare tool fresh' fault' executable' invocation.options source' tree' state' =
            (.ok again, made', last) → again.options = invocation.options := by
  intro given base extra
  have base_eq : given = base := ToolOption.words_merge benchmark test file
  have extra_eq : tool.ownOptions = extra := by cases tool <;> rfl
  refine ⟨fun plain => ⟨_, prepare_of_ne plain⟩, fun invocation made state' ran => ?_⟩
  have full : invocation.options = withWords base extra := by
    rw [options_eq_fullOptions ran, fullOptions, base_eq, extra_eq]
  refine ⟨?_, fun first leads => ?_, fun plain => arguments_of_plain plain ran, fun acsar => ?_,
    ?_, ?_, fun fresh' fault' executable' source' tree' again made' last ran' => ?_⟩
  · rw [full]
    exact withWords_cases base extra
  · rw [full]
    exact withWords_eq_append_iff leads
  · subst acsar
    exact arguments_of_scratch ran
  · rw [full]
    exact prefix_withWords base extra
  · rw [full]
    exact filter_withWords base extra
  · rw [options_eq_fullOptions ran', fullOptions, extra_eq, full, withWords_withWords]

/-- A word that is the value of another option is not added again, and one that is not there is.
Behind a scratch file the options are the same. -/
theorem options_of_prepare_value :
    let empty : FileTree := { entries := [] }
    let fresh : NewNames Unit := always "a1B2c3"
    (∃ invocation, prepare .cbmc fresh none "cbmc" (ToolOption.words (ToolOption.merge
        [⟨"--unwind", some "3"⟩] [⟨"-D", some "--xml-ui"⟩] [⟨"--unwind", some "4"⟩])) "a.c" empty
          () = (.ok invocation, empty, ()) ∧
        invocation.arguments =
          ["cbmc", "--unwind", "3", "-D", "--xml-ui", "--unwind", "4", "a.c"]) ∧
      (∃ invocation, prepare .cpachecker fresh none "cpa.sh" (ToolOption.words (ToolOption.merge
        [⟨"-config", some "x"⟩] [] [⟨"-config", some "x"⟩])) "b.c" empty () =
          (.ok invocation, empty, ()) ∧
        invocation.options = ["-config", "x", "-config", "x", "-stats"]) ∧
      ∃ invocation made, prepare .acsar fresh none "acsar" (ToolOption.words (ToolOption.merge
        [⟨"-v", none⟩] [⟨"--mainproc", some "f"⟩] [])) "a.c" sourceTree () =
          (.ok invocation, made, ()) ∧
        ∃ path, invocation.scratch? = some path ∧
          invocation.arguments = ["acsar", "--file", path, "-v", "--mainproc", "f"] := by
  intro empty fresh
  refine ⟨?_, ?_, ?_⟩
  · obtain ⟨ready, all⟩ := options_of_prepare .cbmc fresh none "cbmc" "a.c" empty ()
      [⟨"--unwind", some "3"⟩] [⟨"-D", some "--xml-ui"⟩] [⟨"--unwind", some "4"⟩]
    obtain ⟨invocation, ran⟩ := ready (by decide)
    obtain ⟨added, first, arguments, -⟩ := all _ _ _ ran
    have same := added.resolve_right fun more => (first "--xml-ui" rfl).mp more (by decide)
    refine ⟨invocation, ran, (arguments (by decide)).trans ?_⟩
    rw [same]
    rfl
  · obtain ⟨ready, all⟩ := options_of_prepare .cpachecker fresh none "cpa.sh" "b.c" empty ()
      [⟨"-config", some "x"⟩] [] [⟨"-config", some "x"⟩]
    obtain ⟨invocation, ran⟩ := ready (by decide)
    obtain ⟨-, first, -⟩ := all _ _ _ ran
    exact ⟨invocation, ran, ((first "-stats" rfl).mpr (by decide)).trans rfl⟩
  · obtain ⟨made, ran⟩ := prepare_source "acsar" (ToolOption.words (ToolOption.merge
      [⟨"-v", none⟩] [⟨"--mainproc", some "f"⟩] []))
    obtain ⟨-, all⟩ := options_of_prepare .acsar fresh none "acsar" "a.c" sourceTree ()
      [⟨"-v", none⟩] [⟨"--mainproc", some "f"⟩] []
    obtain ⟨added, first, -, arguments, -⟩ := all _ _ _ ran
    have same := added.resolve_right fun more => (first "--mainproc" rfl).mp more (by decide)
    obtain ⟨path, some_, words⟩ := arguments rfl
    refine ⟨_, made, ran, path, some_, words.trans ?_⟩
    rw [same]
    rfl

end Verifier

end VerifierTrials
