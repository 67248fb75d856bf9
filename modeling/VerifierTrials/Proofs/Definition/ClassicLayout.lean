import Mathlib.Data.List.Forall2
import VerifierTrials.Definition.FromXml
import VerifierTrials.Proofs.Xml.Building
import VerifierTrials.Proofs.Xml.Escaping

/-!
# The classic layout

What a definition looks like as a document, said of the document: which elements stand for which
parts of the definition (`ClassicLayout.IsBenchmark`). Of the elements of one name in one place
the order is fixed, and of nothing else: between them there may be elements of other names,
known or unknown, texts and asides, and columns may be spread over any number of blocks. A text
may have blanks around it, and it may be put together of several pieces.

Reading a document that lays out a definition gives the definition
(`ClassicLayout.ofElement_of_isBenchmark`), as long as its texts are **plain**: reading takes the
blanks around a text away, and an empty text is none.

Each level of the layout has its own predicate and its own lemma on reading it, from the options
up to the definition, and none of them looks into the levels below.
-/

namespace VerifierTrials

open VerifierTrials.Xml VerifierTrials.Text

/-! ### Definitions that can be laid out -/

/-- **A plain text**: it is not empty and has no blanks around it. -/
def Text.IsPlain (s : String) : Prop := s ≠ "" ∧ trimmed s = s

instance (s : String) : Decidable (Text.IsPlain s) := inferInstanceAs (Decidable (_ ∧ _))

/-- The value of an option is plain, if it has one. -/
def ToolOption.IsPlain (option : ToolOption) : Prop := ∀ value ∈ option.value, Text.IsPlain value

/-- All patterns and option values of a file set are plain. -/
def FileSet.IsPlain (set : FileSet) : Prop :=
  (∀ pattern ∈ set.included ++ set.lists ++ set.excluded, Text.IsPlain pattern) ∧
    ∀ option ∈ set.options, option.IsPlain

/-- All patterns and option values of a test are plain. -/
def DeclaredTest.IsPlain (test : DeclaredTest) : Prop :=
  (∀ option ∈ test.options, option.IsPlain) ∧ ∀ set ∈ test.fileSets, set.IsPlain

/-- The text of a column is plain, and its number of places is one. -/
def DeclaredColumn.IsPlain (column : DeclaredColumn) : Prop :=
  Text.IsPlain column.text ∧ ∀ n ∈ column.digits, n ≤ limitBound

/-- **All texts of a definition are plain**, and its numbers are in their range. -/
structure DeclaredBenchmark.IsPlain (declared : DeclaredBenchmark) : Prop where
  memoryLimit : ∀ n ∈ declared.memoryLimit, n ≤ limitBound
  timeLimit : ∀ n ∈ declared.timeLimit, n ≤ limitBound
  options : ∀ option ∈ declared.options, option.IsPlain
  fileSets : ∀ set ∈ declared.fileSets, set.IsPlain
  tests : ∀ test ∈ declared.tests, test.IsPlain
  columns : ∀ column ∈ declared.columns, column.IsPlain

namespace ClassicLayout

/-! ### The layout -/

/-- The value of an attribute of an element. -/
def attribute? (element : Tag × Content) (key : String) : Option String :=
  (element.1.attributes?.getD []).lookup key

/-- An element **holds** a text if the text directly in it is that one with blanks around it. -/
def Holds (element : Tag × Content) (text : String) : Prop :=
  ∃ before after : List Char, (∀ c ∈ before, isBlank c = true) ∧ (∀ c ∈ after, isBlank c = true) ∧
    element.2.directText = before ++ text.toList ++ after

/-- **An option**: an element with its name as an attribute and its value as a text. -/
structure IsOption (element : Tag × Content) (option : ToolOption) : Prop where
  name : attribute? element "name" = some option.name
  value : Holds element (option.value.getD "")

/-- **A file set**: an element with its patterns and options in it. -/
structure IsFileSet (element : Tag × Content) (set : FileSet) : Prop where
  included : List.Forall₂ Holds (element.2.named "include") set.included
  lists : List.Forall₂ Holds (element.2.named "includesfile") set.lists
  excluded : List.Forall₂ Holds (element.2.named "exclude") set.excluded
  options : List.Forall₂ IsOption (element.2.named "option") set.options

/-- **A test**: an element with its options and file sets in it. -/
structure IsTest (element : Tag × Content) (test : DeclaredTest) : Prop where
  name : attribute? element "name" = test.name
  options : List.Forall₂ IsOption (element.2.named "option") test.options
  fileSets : List.Forall₂ IsFileSet (element.2.named "sourcefiles") test.fileSets

/-- **A column**: an element with its text, whose title and number of places are attributes. -/
structure IsColumn (element : Tag × Content) (column : DeclaredColumn) : Prop where
  text : Holds element column.text
  title : attribute? element "title" = column.title
  digits : attribute? element "numberOfDigits" = column.digits.map ofNat

/-- **A definition**: an element with the tool and the limits as attributes and all the rest in
it, the columns in any number of blocks. -/
structure IsBenchmark (element : Tag × Content) (declared : DeclaredBenchmark) : Prop where
  tool : attribute? element "tool" = some declared.tool.key
  memoryLimit : attribute? element "memlimit" = declared.memoryLimit.map ofNat
  timeLimit : attribute? element "timelimit" = declared.timeLimit.map ofNat
  options : List.Forall₂ IsOption (element.2.named "option") declared.options
  fileSets : List.Forall₂ IsFileSet (element.2.named "sourcefiles") declared.fileSets
  tests : List.Forall₂ IsTest (element.2.named "test") declared.tests
  columns : List.Forall₂ IsColumn
    ((element.2.named "columns").flatMap fun block => block.2.named "column") declared.columns

/-! ### Reading it -/

section Reading

variable {element : Tag × Content}

/-- What reads every element of a list reads the list. -/
theorem map_eq_of_forall₂ {α : Type} {R : Tag × Content → α → Prop} {P : α → Prop}
    {read : Element → α}
    (reads : ∀ element one, R element one → P one → read (elementOf element) = one)
    {elements : List (Tag × Content)} {all : List α} (related : List.Forall₂ R elements all)
    (plain : ∀ one ∈ all, P one) : (elements.map elementOf).map read = all := by
  induction related with
  | nil => rfl
  | cons first _ ih =>
    rw [List.forall_mem_cons] at plain
    rw [List.map_cons, List.map_cons, reads _ _ first plain.1, ih plain.2]

theorem content?_of_holds {text : String} (holds : Holds element text)
    (whole : trimmed text = text) :
    (elementOf element).content? = if text = "" then none else some text := by
  obtain ⟨before, after, before_, after_, direct⟩ := holds
  have trimmed_ : trimmed (elementOf element).text = text := by
    rw [trimmed, elementOf, String.toList_ofList, direct, trim_between_blanks before_ after_]
    exact whole
  rw [Element.content?, trimmed_]

theorem content?_of_isPlain {text : String} (holds : Holds element text)
    (plain : Text.IsPlain text) : (elementOf element).content? = some text := by
  rw [content?_of_holds holds plain.2, if_neg plain.1]

theorem optionsIn_eq {options : List ToolOption}
    (laid : List.Forall₂ IsOption (element.2.named "option") options)
    (plain : ∀ option ∈ options, option.IsPlain) :
    DeclaredBenchmark.optionsIn (elementOf element) = options := by
  rw [DeclaredBenchmark.optionsIn, childrenNamed_elementOf]
  refine map_eq_of_forall₂ (fun element option optionElement plain => ?_) laid plain
  have named : (elementOf element).attribute? "name" = some option.name := optionElement.name
  have contents : (elementOf element).content? = option.value := by
    cases valued : option.value with
    | none =>
      -- An option without a value holds the empty text, which is read as none.
      have empty : Holds element "" := by simpa [valued] using optionElement.value
      exact content?_of_holds empty (by decide)
    | some value =>
      exact content?_of_isPlain (by simpa [valued] using optionElement.value) (plain value valued)
  rw [named, contents, Option.getD_some]

theorem textsIn_eq {name : String} {texts : List String}
    (laid : List.Forall₂ Holds (element.2.named name) texts)
    (plain : ∀ text ∈ texts, Text.IsPlain text) :
    DeclaredBenchmark.textsIn (elementOf element) name = texts := by
  rw [DeclaredBenchmark.textsIn, childrenNamed_elementOf]
  generalize element.2.named name = elements at laid
  induction laid with
  | nil => rfl
  | cons first _ ih =>
    rw [List.forall_mem_cons] at plain
    rw [List.map_cons, List.filterMap_cons_some (content?_of_isPlain first plain.1), ih plain.2]

theorem fileSetsIn_eq {sets : List FileSet}
    (laid : List.Forall₂ IsFileSet (element.2.named "sourcefiles") sets)
    (plain : ∀ set ∈ sets, set.IsPlain) :
    DeclaredBenchmark.fileSetsIn (elementOf element) = sets := by
  rw [DeclaredBenchmark.fileSetsIn, childrenNamed_elementOf]
  refine map_eq_of_forall₂ (fun element set setElement plain => ?_) laid plain
  obtain ⟨patterns, options⟩ := plain
  simp only [List.forall_mem_append] at patterns
  rw [textsIn_eq setElement.included patterns.1.1, textsIn_eq setElement.lists patterns.1.2,
    textsIn_eq setElement.excluded patterns.2, optionsIn_eq setElement.options options]

theorem testOf_eq {test : DeclaredTest} (laid : IsTest element test) (plain : test.IsPlain) :
    DeclaredBenchmark.testOf (elementOf element) = test := by
  have named : (elementOf element).attribute? "name" = test.name := laid.name
  rw [DeclaredBenchmark.testOf, named, optionsIn_eq laid.options plain.1,
    fileSetsIn_eq laid.fileSets plain.2]

theorem numberIn_eq {key : String} {number : Option Nat}
    (laid : attribute? element key = number.map ofNat) (bounded : ∀ n ∈ number, n ≤ limitBound) :
    DeclaredBenchmark.numberIn (elementOf element) key = .ok number := by
  have value : (elementOf element).attribute? key = number.map ofNat := laid
  rw [DeclaredBenchmark.numberIn, value]
  cases number with
  | none => rfl
  | some n =>
    simp only [Option.map_some, unsigned?_trim_ofNat (Nat.lt_succ_of_le (bounded n rfl))]

theorem columnOf_eq {column : DeclaredColumn} (laid : IsColumn element column)
    (plain : column.IsPlain) : DeclaredBenchmark.columnOf (elementOf element) = .ok column := by
  have title : (elementOf element).attribute? "title" = column.title := laid.title
  rw [DeclaredBenchmark.columnOf, numberIn_eq laid.digits plain.2,
    content?_of_isPlain laid.text plain.1, title]
  rfl

theorem mapM_columnOf_eq {elements : List (Tag × Content)} {columns : List DeclaredColumn}
    (laid : List.Forall₂ IsColumn elements columns) (plain : ∀ column ∈ columns, column.IsPlain) :
    (elements.map elementOf).mapM DeclaredBenchmark.columnOf = .ok columns := by
  induction laid with
  | nil => rfl
  | cons first _ ih =>
    rw [List.forall_mem_cons] at plain
    rw [List.map_cons, List.mapM_cons, columnOf_eq first plain.1, ih plain.2]
    rfl

/-- The columns of all blocks, one block after the other. -/
theorem columnElements_eq (element : Tag × Content) :
    ((elementOf element).childrenNamed "columns").flatMap (·.childrenNamed "column") =
      ((element.2.named "columns").flatMap fun block => block.2.named "column").map elementOf := by
  simp [childrenNamed_elementOf, List.flatMap_map, List.map_flatMap]

theorem ofKey?_key (tool : Verifier) : Verifier.ofKey? tool.key = some tool := by
  cases tool <;> decide

/-- **A document that lays out a definition is read as that definition.** -/
theorem ofElement_of_isBenchmark {declared : DeclaredBenchmark}
    (laid : IsBenchmark element declared) (plain : declared.IsPlain) :
    DeclaredBenchmark.ofElement (elementOf element) = .ok declared := by
  have tool : (elementOf element).attribute? "tool" = some declared.tool.key := laid.tool
  have tests : ((elementOf element).childrenNamed "test").map DeclaredBenchmark.testOf =
      declared.tests := by
    rw [childrenNamed_elementOf]
    exact map_eq_of_forall₂ (fun _ _ => testOf_eq) laid.tests plain.tests
  rw [DeclaredBenchmark.ofElement, tool, columnElements_eq]
  simp only [ofKey?_key, mapM_columnOf_eq laid.columns plain.columns,
    numberIn_eq laid.memoryLimit plain.memoryLimit, numberIn_eq laid.timeLimit plain.timeLimit,
    optionsIn_eq laid.options plain.options, fileSetsIn_eq laid.fileSets plain.fileSets, tests,
    bind, Except.bind, ofKey?_key]

end Reading

end ClassicLayout

end VerifierTrials
