import VerifierTrials.Definition.Declared
import VerifierTrials.Toml.Decoding

/-!
# Definitions in the configuration language

The newer layout: each part of a definition is a record, and the parts of one kind are
sequences. Only the tool, the name of an option and the text of a column have to be
given.
-/

namespace VerifierTrials.DeclaredBenchmark

open VerifierTrials.Toml

/-- An option. -/
def optionRecord : Decoder ToolOption := fun value => do
  let entries ← record ["name", "value"] value
  some ⟨← required entries "name" string, ← maybe entries "value" string⟩

/-- A file set. -/
def fileSetRecord : Decoder FileSet := fun value => do
  let entries ← record ["include", "includesfile", "exclude", "option"] value
  some
    { included := ← optional entries "include" [] (list string)
      lists := ← optional entries "includesfile" [] (list string)
      excluded := ← optional entries "exclude" [] (list string)
      options := ← optional entries "option" [] (list optionRecord) }

/-- A test. -/
def testRecord : Decoder DeclaredTest := fun value => do
  let entries ← record ["name", "option", "sourcefiles"] value
  some
    { name := ← maybe entries "name" string
      options := ← optional entries "option" [] (list optionRecord)
      fileSets := ← optional entries "sourcefiles" [] (list fileSetRecord) }

/-- A column. -/
def columnRecord : Decoder DeclaredColumn := fun value => do
  let entries ← record ["text", "title", "digits"] value
  some
    { text := ← required entries "text" string
      title := ← maybe entries "title" string
      digits := ← maybe entries "digits" natural }

/-- The tool. -/
def toolChoice : Decoder Verifier := fun value => (choice value).bind Verifier.ofKey?

/-- **The benchmark that a document declares.** -/
def ofToml? (document : String) : Option DeclaredBenchmark := do
  let entries ← readDocument? document
  some
    { tool := ← required entries "tool" toolChoice
      memoryLimit := ← maybe entries "memlimit" natural
      timeLimit := ← maybe entries "timelimit" natural
      options := ← optional entries "option" [] (list optionRecord)
      fileSets := ← optional entries "sourcefiles" [] (list fileSetRecord)
      tests := ← optional entries "test" [] (list testRecord)
      columns := ← optional entries "column" [] (list columnRecord) }

end VerifierTrials.DeclaredBenchmark
