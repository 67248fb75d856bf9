import VerifierTrials.Definition.Declared
import VerifierTrials.Xml.Tree

/-!
# Definitions as XML documents

The classic layout: the root has the tool and the limits as attributes, and the
options, file sets, tests and columns as children. Children of one kind keep their
order, whatever stands between them, and unknown ones are ignored.
-/

namespace VerifierTrials

open VerifierTrials.Xml

namespace Xml.DocumentError

/-- The text of a refusal. A document that is no markup is described elsewhere. -/
def message? : DocumentError → Option String
  | malformed => none
  | multipleRoots => some "multiple root elements"
  | unbalancedClosing => some "unbalanced closing tag"
  | unclosed name => some ("unclosed element <" ++ name ++ ">")
  | noRoot => some "no root element"
  | missingTool => some "missing tool attribute"
  | unknownTool name => some (Verifier.unknownMessage name)
  | notANumber key value =>
    some ("attribute " ++ key ++ "=" ++ Text.quoted value ++ " is not a number")

end Xml.DocumentError

namespace DeclaredBenchmark

/-- The options among the children of an element. -/
def optionsIn (element : Element) : List ToolOption :=
  (element.childrenNamed "option").map fun option =>
    ⟨(option.attribute? "name").getD "", option.content?⟩

/-- The texts of the children of a name, empty ones left out. -/
def textsIn (element : Element) (name : String) : List String :=
  (element.childrenNamed name).filterMap Element.content?

/-- The file sets among the children of an element. -/
def fileSetsIn (element : Element) : List FileSet :=
  (element.childrenNamed "sourcefiles").map fun block =>
    { included := textsIn block "include"
      lists := textsIn block "includesfile"
      excluded := textsIn block "exclude"
      options := optionsIn block }

/-- The number in an attribute, if there is one. -/
def numberIn (element : Element) (key : String) : Except DocumentError (Option Nat) :=
  match element.attribute? key with
  | none => .ok none
  | some value =>
    match Text.unsigned? (limitBound + 1) (Text.trim value.toList) with
    | some n => .ok (some n)
    | none => .error (.notANumber key value)

/-- A test element. -/
def testOf (element : Element) : DeclaredTest :=
  ⟨element.attribute? "name", optionsIn element, fileSetsIn element⟩

/-- A column element. -/
def columnOf (element : Element) : Except DocumentError DeclaredColumn := do
  let digits ← numberIn element "numberOfDigits"
  .ok ⟨element.content?.getD "", element.attribute? "title", digits⟩

/-- **The benchmark that an element declares.** -/
def ofElement (root : Element) : Except DocumentError DeclaredBenchmark := do
  let key ← match root.attribute? "tool" with
    | some key => .ok key
    | none => .error .missingTool
  let tool ← match Verifier.ofKey? key with
    | some tool => .ok tool
    | none => .error (.unknownTool key)
  let columns ← ((root.childrenNamed "columns").flatMap (·.childrenNamed "column")).mapM columnOf
  let memoryLimit ← numberIn root "memlimit"
  let timeLimit ← numberIn root "timelimit"
  .ok
    { tool, memoryLimit, timeLimit, columns
      options := optionsIn root
      fileSets := fileSetsIn root
      tests := (root.childrenNamed "test").map testOf }

/-- **The benchmark that a document declares.** -/
def ofXml (document : String) : Except DocumentError DeclaredBenchmark := do
  ofElement (← Xml.tree document)

end DeclaredBenchmark

end VerifierTrials
