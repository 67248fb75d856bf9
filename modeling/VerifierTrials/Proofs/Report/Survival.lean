import Mathlib.Data.List.Forall2
import VerifierTrials.Proofs.Report.Documents
import VerifierTrials.Proofs.Xml.PrintedValues

/-!
# Which reports survive being read

The document of a test is written with whatever the values in it are: names of files, options, and
what a tool put out. Nothing is filtered, and only five characters are escaped. The benchmark itself
reads all values as they were (`TestDocument.tree_text_foldl_enter`). A processor that conforms to
XML does not: it refuses the text if there is a character in a value that may not stand in a
document, and it takes a tab, a line feed or a carriage return in a value for a blank. So it reads a
document as it was written exactly if no value has any of these (`TestDocument.isReadAs_text`).

As before, only the keys of the root's attributes have to be names.
-/

namespace VerifierTrials

open VerifierTrials.Xml

namespace TestDocument

/-! ### The names in a document -/

/-- Whether the name of a tag and its keys are names in XML. -/
def isNamed (name : String) (keys : List String) : Bool := isXmlName name && keys.all isXmlName

/-- Whether this holds of all tags in an element. -/
def AllNamed (element : Element) : Prop :=
  ∀ tag ∈ element.tags, isNamed tag.1 (tag.2.map Prod.fst) = true

theorem allNamed_machine (machine : Machine) : AllNamed (reportedMachine machine) := by
  have tags : (isNamed "systeminfo" [] && (isNamed "os" ["name"] &&
      (isNamed "cpu" ["model", "cores", "frequency"] && (isNamed "ram" ["size"] && true)))) =
        true := by decide
  exact List.all_eq_true.mp tags

/-- In an element with children of one kind all names are known if those of both are. -/
theorem allNamed_of_children {α : Type} {name child : String} {attributes : List (String × String)}
    {attributesOf : α → List (String × String)} {all : List α}
    (own : isNamed name (attributes.map Prod.fst) = true)
    (each : ∀ one ∈ all, isNamed child ((attributesOf one).map Prod.fst) = true) :
    AllNamed
      { name, attributes,
        children := all.map fun one => { name := child, attributes := attributesOf one } } := by
  rw [AllNamed, Element.tags, List.forall_mem_cons, allTags_eq, List.forall_mem_flatMap,
    List.forall_mem_map]
  refine ⟨own, fun one among => ?_⟩
  rw [Element.tags, List.forall_mem_cons]
  exact ⟨each one among, fun tag within => absurd within List.not_mem_nil⟩

theorem allNamed_columns (titles : List String) : AllNamed (reportedColumns titles) := by
  have names : isNamed "columns" [] = true ∧ isNamed "column" ["title"] = true := by decide
  exact allNamed_of_children names.1 fun _ _ => names.2

theorem allNamed_run (run : RunElement) : AllNamed (reportedRun run) := by
  have names : isNamed "sourcefile" ["name"] = true ∧
      isNamed "sourcefile" ["name", "options"] = true ∧
      isNamed "column" ["title", "value"] = true := by decide
  refine allNamed_of_children ?_ fun _ _ => names.2.2
  cases run.options with
  | none => exact names.1
  | some options => exact names.2.1

theorem allNamed_times (times : String × String) : AllNamed (reportedTimes times) := by
  have tags : (isNamed "time" ["cputime", "walltime"] && true) = true := by decide
  exact List.all_eq_true.mp tags

section Names

variable (attributes : List (String × String)) (machine : Machine) (titles : List String)
  (entries : List DocumentEntry)

/-- **Inside the root all names are known.** -/
theorem isNamed_of_mem_children :
    ∀ tag ∈ allTags (reported attributes machine titles entries).children,
      isNamed tag.1 (tag.2.map Prod.fst) = true := by
  simp only [allTags_eq, reported, List.forall_mem_flatMap, List.forall_mem_cons,
    List.forall_mem_append, List.forall_mem_map]
  exact ⟨allNamed_machine machine, allNamed_columns titles, fun run _ => allNamed_run run,
    fun times _ => allNamed_times times⟩

theorem hasNames_reported (names : ∀ entry ∈ attributes, isXmlName entry.1 = true) :
    HasNames (reported attributes machine titles entries) := by
  have inside := isNamed_of_mem_children attributes machine titles entries
  rw [reported] at inside ⊢
  rw [HasNames, Element.tags, List.forall_mem_cons]
  refine ⟨names, fun tag among => ?_⟩
  have keys := (Bool.and_eq_true_iff.mp (inside tag among)).2
  rwa [List.all_eq_true, List.forall_mem_map] at keys

end Names

/-! ### The text of a document -/

section Text

variable (attributes : List (String × String)) (machine : Machine) (titles : List String)
  (entries : List DocumentEntry)

/-- The document of a test once some entries are in it. -/
def entered : TestDocument := entries.foldl enter (begin attributes machine titles)

theorem bare_entered : (entered attributes machine titles entries).toNode.bare =
    reported attributes machine titles entries :=
  bare_toNode_foldl_enter attributes machine titles entries

theorem attributes_entered :
    (entered attributes machine titles entries).attributes = attributes := by
  rw [entered, foldl_enter]
  rfl

variable {attributes} in
theorem isWritable_entered (names : ∀ entry ∈ attributes, isXmlName entry.1 = true)
    (distinct : (attributes.map Prod.fst).Nodup) :
    (entered attributes machine titles entries).toNode.isWritable = true := by
  refine isWritable_toNode ?_ ?_ <;> rw [attributes_entered]
  · exact fun entry among => isKey_of_isXmlName (names entry among)
  · exact distinct

/-- **The text of a document may stand in one** exactly if the keys of the root and all values
may. -/
theorem isAllowed_text : IsAllowed (entered attributes machine titles entries).text ↔
    (∀ entry ∈ attributes, IsAllowed entry.1) ∧
      ∀ value ∈ (reported attributes machine titles entries).values, IsAllowed value := by
  have root : IsAllowed "test" := by decide
  have inside := isNamed_of_mem_children attributes machine titles entries
  have known : ∀ tag ∈ allTags (reported attributes machine titles entries).children,
      IsAllowedTag tag ↔ ∀ value ∈ tag.2.map Prod.snd, IsAllowed value := by
    intro tag among
    obtain ⟨name, keys⟩ := Bool.and_eq_true_iff.mp (inside tag among)
    rw [List.all_eq_true, List.forall_mem_map] at keys
    exact isAllowedTag_iff name keys
  rw [TestDocument.text, isAllowed_renderDocument, bare_entered]
  -- The root is the one tag whose keys may be anything.
  rw [reported] at known ⊢
  rw [Element.values, Element.tags, List.forall_mem_cons, List.flatMap_cons,
    List.forall_mem_append, List.forall_mem_flatMap, IsAllowedTag, and_iff_right root,
    forall₂_congr known, forall₂_and, List.forall_mem_map, and_assoc]

/-- The values in the text of a document are those it was given, escaped. -/
theorem writtenValues_text (names : ∀ entry ∈ attributes, isXmlName entry.1 = true)
    (distinct : (attributes.map Prod.fst).Nodup) :
    writtenValues (entered attributes machine titles entries).text =
      (reported attributes machine titles entries).values.map fun value => escape value.toList := by
  rw [TestDocument.text, writtenValues_renderDocument (isWritable_entered _ _ _ names distinct),
    bare_entered]

/-- **A value in the text of a document has the white space in it that it was given.** -/
theorem forall₂_writtenValues (names : ∀ entry ∈ attributes, isXmlName entry.1 = true)
    (distinct : (attributes.map Prod.fst).Nodup) :
    List.Forall₂ (fun written value => ∀ c, isRewritten c = true → (c ∈ written ↔ c ∈ value.toList))
      (writtenValues (entered attributes machine titles entries).text)
      (reported attributes machine titles entries).values := by
  rw [writtenValues_text _ _ _ _ names distinct, List.forall₂_map_left_iff, List.forall₂_same]
  exact fun value _ c rewritten => mem_escape_of_isRewritten rewritten

/-- **What becomes of a document when its text is read.** Forbidden characters stand in the text
exactly if they stand in a key of the root or in a value; white space stands in a value of the text
exactly where it stands in the value that was given; and a conforming processor reads the document
as it was given exactly if all values survive, and otherwise refuses the text or normalises them. -/
theorem isReadAs_text :
    (IsAllowed (entered attributes machine titles entries).text ↔
      (∀ entry ∈ attributes, IsAllowed entry.1) ∧
        ∀ value ∈ (reported attributes machine titles entries).values, IsAllowed value) ∧
    ((∀ entry ∈ attributes, isXmlName entry.1 = true) → (attributes.map Prod.fst).Nodup →
      List.Forall₂
          (fun written value => ∀ c, isRewritten c = true → (c ∈ written ↔ c ∈ value.toList))
          (writtenValues (entered attributes machine titles entries).text)
          (reported attributes machine titles entries).values ∧
        ∀ read?, Conforms read? → IsReadAs read? (entered attributes machine titles entries).text
          (reported attributes machine titles entries)) := by
  refine ⟨isAllowed_text attributes machine titles entries, fun names distinct =>
    ⟨forall₂_writtenValues attributes machine titles entries names distinct,
      fun read? conforms => ?_⟩⟩
  have bare := bare_entered attributes machine titles entries
  rw [← bare]
  refine conforms.isReadAs (isWritable_entered _ _ _ names distinct) ?_
  rw [bare]
  exact hasNames_reported attributes machine titles entries names

end Text

/-- A document that survives, with all that has to be escaped in its values. -/
theorem isReadAs_text_escaped : ∃ given,
    processed? (entered [("benchmarkname", "a \"b\" & <c>")]
      ⟨"Linux", "Xeon", "8", "2600 MHz", "16 kB"⟩ ["total <s>"]
      [.run ⟨"a.c", some "-spec x<y", [⟨"status", "it's safe"⟩]⟩, .times "1" "2"]).text =
        some given ∧
      given.bare = reported [("benchmarkname", "a \"b\" & <c>")]
        ⟨"Linux", "Xeon", "8", "2600 MHz", "16 kB"⟩ ["total <s>"]
        [.run ⟨"a.c", some "-spec x<y", [⟨"status", "it's safe"⟩]⟩, .times "1" "2"] :=
  (((isReadAs_text _ _ _ _).2 (by decide) (by decide)).2 _ conforms_processed?).same_iff.mpr
    (by decide)

/-- Not every document survives: a tab in a title stands in the text as itself. -/
theorem not_forall_survives :
    ¬∀ (attributes : List (String × String)) (machine : Machine) (titles : List String)
      (entries : List DocumentEntry), (∀ entry ∈ attributes, isXmlName entry.1 = true) →
      (attributes.map Prod.fst).Nodup →
      IsAllowed (entered attributes machine titles entries).text ∧
        (∀ written ∈ writtenValues (entered attributes machine titles entries).text,
          ∀ c ∈ written, isRewritten c = false) ∧
        ∀ read?, Conforms read? →
          ∃ given, read? (entered attributes machine titles entries).text = some given ∧
            given.bare = reported attributes machine titles entries := by
  intro all
  obtain ⟨-, plain, -⟩ := all [] ⟨"", "", "", "", ""⟩ ["a\tb"] [] (by decide) (by decide)
  rw [writtenValues_text _ _ _ _ (by decide) (by decide)] at plain
  exact absurd (plain (escape "a\tb".toList) (List.mem_map_of_mem (by decide)) '\t' (by decide))
    (by decide)

end TestDocument

end VerifierTrials
